import Chip8.Main
import Chip8.Machine.Run
import Chip8.Keyboard
import Chip8.Terminal.Painter
import Chip8.Terminal.Grid
import Chip8.Proofs.Execute
import Chip8.Proofs.History
import Chip8.Proofs.Safety
import Chip8.Proofs.Atomicity
import Chip8.Proofs.Ticks
import Chip8.Proofs.Tone
import Chip8.Proofs.Calls
import Chip8.Proofs.Actions
import Chip8.Proofs.Polls
import Chip8.Proofs.Halt
import Chip8.Proofs.Note
import Chip8.Proofs.Alone
import Chip8.Proofs.Frames
import Chip8.Proofs.Stranded
import Chip8.Proofs.Hidden
import Chip8.Proofs.Placing
import Chip8.Proofs.Index
import Chip8.Proofs.Attempts
import Chip8.Proofs.Randomness
import Chip8.Proofs.Afresh
import Chip8.Proofs.Headless
import Chip8.Proofs.Edits
import Chip8.Proofs.Encoding
import Chip8.Proofs.Restart
import Chip8.Proofs.Painting
import Chip8.Proofs.Sessions
import Chip8.Proofs.Outside
import Chip8.Proofs.Cause
import Chip8.Proofs.Typing
import Chip8.Proofs.Drawing
import Chip8.Proofs.Sprites
import Chip8.Proofs.Arithmetic
import Chip8.Proofs.Flow
import Chip8.Proofs.Transfer
import Chip8.Proofs.Waiting
import Chip8.Proofs.Clock
import Chip8.Proofs.Footprint
import Chip8.Proofs.Row
import Chip8.Proofs.Numerals
import Chip8.Proofs.Listing
import Chip8.Proofs.Picture
import Chip8.Proofs.Glyphs
import Chip8.Proofs.Remarks
import Chip8.Proofs.Strokes
import Chip8.Proofs.Repeats
import Chip8.Proofs.CharSets
import Chip8.Proofs.Matching
import Chip8.Proofs.Simplification
import Chip8.Proofs.AutomatonSizes
import Chip8.Proofs.PlainPatterns
import Chip8.Proofs.Filters
