/-!
# The ChaCha20 block function

A pure function from a 256-bit key and a block number to sixteen 32-bit words.
The initial state is four constants, the eight key words, the block number as
a 64-bit counter, low half first, and two zero words; twenty rounds mix it,
and the initial state is added to the result word by word.
-/

namespace Chip8.ChaCha

/-- A key, as words. -/
abbrev Key := Vector UInt32 8

/-- The words being mixed. -/
abbrev State := Vector UInt32 16

/-- Rotate a word to the left. Shift amounts count modulo 32, so turning by
zero leaves the word as it is. -/
def rotateLeft (w amount : UInt32) : UInt32 :=
  (w <<< amount) ||| (w >>> (32 - amount))

/-- Mix four words of the state. -/
def quarterRound (s : State) (a b c d : Fin 16) : State :=
  let s := s.set a (s[a] + s[b])
  let s := s.set d (rotateLeft (s[d] ^^^ s[a]) 16)
  let s := s.set c (s[c] + s[d])
  let s := s.set b (rotateLeft (s[b] ^^^ s[c]) 12)
  let s := s.set a (s[a] + s[b])
  let s := s.set d (rotateLeft (s[d] ^^^ s[a]) 8)
  let s := s.set c (s[c] + s[d])
  s.set b (rotateLeft (s[b] ^^^ s[c]) 7)

/-- Two rounds: the columns of the state seen as a square, then its
diagonals. -/
def doubleRound (s : State) : State :=
  let s := quarterRound s 0 4 8 12
  let s := quarterRound s 1 5 9 13
  let s := quarterRound s 2 6 10 14
  let s := quarterRound s 3 7 11 15
  let s := quarterRound s 0 5 10 15
  let s := quarterRound s 1 6 11 12
  let s := quarterRound s 2 7 8 13
  quarterRound s 3 4 9 14

/-- Any number of double rounds. -/
def doubleRounds : Nat → State → State
  | 0, s => s
  | k + 1, s => doubleRounds k (doubleRound s)

/-- The state before the first round. -/
def initial (key : Key) (counter : Nat) : State :=
  #v[0x61707865, 0x3320646E, 0x79622D32, 0x6B206574,
    key[0], key[1], key[2], key[3], key[4], key[5], key[6], key[7],
    UInt32.ofNat counter, UInt32.ofNat (counter >>> 32), 0, 0]

/-- The block with a number. -/
def block (key : Key) (counter : Nat) : State :=
  let start := initial key counter
  Vector.zipWith (· + ·) (doubleRounds 10 start) start

end Chip8.ChaCha
