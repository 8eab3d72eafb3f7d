import Chip8.Headless

/-!
# Command line arguments

The words of the command line as options: the program file, and after
`--steps`, `--hz` and `--seed` a number each, as the next word or after an
equals sign.
-/

namespace Chip8.Headless

/-- What the command line says. Without a seed one is drawn. -/
structure Arguments where
  file : Option String
  steps : Nat
  hz : Nat
  seed : Option Nat

namespace Arguments

/-- What holds unless the command line says otherwise. -/
def bare : Arguments := ⟨none, 1000, 0, none⟩

/-- A number below a bound, written in decimal, with or without a plus sign. -/
def number? (bound : Nat) (word : String) : Option Nat :=
  let digits :=
    match word.toList with
    | '+' :: rest => rest
    | signs => signs
  let n := Numeral.ofSigns 10 digits
  if digits ≠ [] ∧ digits.all Char.isDigit ∧ n < bound then some n else none

/-- A word as one or two: the name of an option and its value may be joined by
an equals sign. -/
def unjoined (word : String) : List String :=
  let signs := word.toList
  let name := signs.takeWhile (· ≠ '=')
  match name, signs.drop name.length with
  | '-' :: '-' :: _, _ :: rest => [String.ofList name, String.ofList rest]
  | _, _ => [word]

/-- Whether a word is the name of an option. -/
def isOption (word : String) : Bool := word.toList.take 2 = ['-', '-']

/-- Read words one after another. -/
def parse (a : Arguments) : List String → Option Arguments
  | [] => some a
  | "--steps" :: word :: rest => do parse { a with steps := ← number? (2 ^ 64) word } rest
  | "--hz" :: word :: rest => do parse { a with hz := ← number? (2 ^ 32) word } rest
  | "--seed" :: word :: rest => do parse { a with seed := some (← number? (2 ^ 64) word) } rest
  | word :: rest =>
    if a.file.isSome || isOption word then none else parse { a with file := some word } rest

/-- What the words of a command line say, if they make sense. -/
def read (words : List String) : Option Arguments := bare.parse (words.flatMap unjoined)

/-- What to print about a command line that makes no sense. -/
def usage : String := "usage: chip8 <program> [--steps <n>] [--hz <n>] [--seed <n>]"

/-- The options of a session, given a seed in case the command line has none. -/
def options? (a : Arguments) (drawn : UInt64) : Option Options :=
  a.file.map fun file =>
    ⟨file, a.steps, ⟨UInt32.ofNat a.hz⟩, (a.seed.map UInt64.ofNat).getD drawn⟩

end Arguments

end Chip8.Headless
