import Chip8.CharSet

/-!
# Characters as bytes

The bytes of a character in UTF-8, and the characters of a range as sequences
of ranges of bytes. `sequences` cuts a range until the bytes of its characters
are just those between the bytes of the first and the last one.
-/

namespace Chip8.Text.Utf8

/-- The bytes of a code point. -/
def bytes (n : Nat) : List Nat :=
  let further (i : Nat) : Nat := 0x80 + n >>> (6 * i) % 64
  if n < 0x80 then [n]
  else if n < 0x800 then [0xC0 + n >>> 6, further 0]
  else if n < 0x10000 then [0xE0 + n >>> 12, further 1, further 0]
  else [0xF0 + n >>> 18, further 2, further 1, further 0]

/-- A text, byte by byte. -/
abbrev Spelling := List Nat

/-- The bytes of a text. -/
def spell (signs : List Char) : Spelling := signs.flatMap fun c => bytes c.toNat

/-- Cut a range in front of a code point that it holds, and not first. -/
def cutAt (n : Nat) (r : Range) : List Range :=
  if r.low < n && n ≤ r.high then [⟨r.low, n - 1⟩, ⟨n, r.high⟩] else [r]

/-- The part of a range in front of the surrogates, and the one behind. -/
def withoutSurrogates (r : Range) : List Range :=
  if r.low < 0xE000 && 0xD7FF < r.high then
    [⟨r.low, 0xD7FF⟩, ⟨0xE000, r.high⟩].filter fun s => s.low ≤ s.high
  else [r]

/-- Cut a range so that the middle part is made of whole blocks of a size. A
range inside one block stays as it is, and so does one of ASCII. -/
def cutBlocks (size : Nat) (r : Range) : List Range :=
  if r.low / size = r.high / size || r.low < 0x80 then [r]
  else
    let first := (r.low + size - 1) / size * size
    let stop := (r.high + 1) / size * size
    [⟨r.low, first - 1⟩, ⟨first, stop - 1⟩, ⟨stop, r.high⟩].filter fun s => s.low < s.high + 1

/-- The bytes at each place in the characters of a range whose bytes are just
those between the ones of its ends. -/
def byteRanges (r : Range) : List Range :=
  (bytes r.low).zipWith Range.mk (bytes r.high)

/-- The characters of a range as sequences of ranges of bytes, in order. -/
def sequences (r : Range) : List (List Range) :=
  (withoutSurrogates r).flatMap fun r =>
  ([0x80, 0x800, 0x10000].foldl (fun rs n => rs.flatMap (cutAt n)) [r]).flatMap fun r =>
  ([0x40, 0x1000, 0x40000].foldl (fun rs size => rs.flatMap (cutBlocks size)) [r]).map byteRanges

end Chip8.Text.Utf8
