import Chip8.Random.ChaCha

/-!
# Random numbers

A seed determines one endless stream of 32-bit words: the ChaCha20 blocks of a
key derived from the seed, one after another. A `Generator` is a place in such
a stream, so a word depends on nothing but the key and the number of words
taken before it.
-/

namespace Chip8

namespace ChaCha

/-- One step of the sequence that keys are drawn from. -/
def seedStep (s : UInt64) : UInt64 := s * 6364136223846793005 + 11634580027462260723

/-- The key word that belongs to a member of that sequence: its upper bits,
folded, and turned right by the uppermost five. -/
def seedWord (s : UInt64) : UInt32 :=
  let folded : UInt64 := ((s >>> 18) ^^^ s) >>> 27
  let turn : UInt64 := s >>> 59
  rotateLeft folded.toUInt32 (32 - turn.toUInt32)

/-- The member of the sequence after some steps. -/
def seedAfter : Nat → UInt64 → UInt64
  | 0, s => s
  | k + 1, s => seedAfter k (seedStep s)

/-- The key of a seed. -/
def Key.ofSeed (seed : UInt64) : Key :=
  Vector.ofFn fun k => seedWord (seedAfter (k.val + 1) seed)

/-- The words of a key's stream. -/
def word (key : Key) (k : Nat) : UInt32 :=
  (block key (k / 16)).get ⟨k % 16, Nat.mod_lt k (by decide)⟩

end ChaCha

/-- A place in a stream of random words. -/
structure Generator where
  key : ChaCha.Key
  position : Nat
  deriving DecidableEq

namespace Generator

/-- The beginning of a seed's stream. -/
def ofSeed (seed : UInt64) : Generator := ⟨.ofSeed seed, 0⟩

/-- The word here. -/
def word (g : Generator) : UInt32 := ChaCha.word g.key g.position

/-- The place after this word. -/
def next (g : Generator) : Generator := { g with position := g.position + 1 }

end Generator

end Chip8
