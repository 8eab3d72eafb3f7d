import Chip8.Pattern.Automaton
import Chip8.Pattern.Meaning
import Chip8.Pattern.Reader

/-!
# Refused patterns

From the signs of a written pattern to what it means, or to the reason why
there is no such thing: something is wrong with the pattern, or it is too
large.
-/

namespace Chip8.Pattern

/-- Why a written pattern is refused. -/
inductive Refusal where
  | complaint (c : Complaint)
  | tooLarge (limit : Nat)
  deriving DecidableEq

/-- The reason with what it is about. -/
def Refusal.render (pattern : List Char) : Refusal → String
  | complaint c => c.render pattern
  | tooLarge limit =>
    "Compiled regex exceeds size limit of " ++ Numeral.decimal limit ++ " bytes."

/-- What a written pattern means. -/
def read (pattern : List Char) : Except Refusal Pattern := do
  let tree ← (Reader.read pattern).mapError .complaint
  let (meaning, _) ← (tree.meaning .usual).mapError .complaint
  if meaning.fits then return meaning else throw (.tooLarge Automaton.sizeLimit)

end Chip8.Pattern
