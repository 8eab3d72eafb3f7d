/-!
# Written numbers

Positional numerals in the two bases that messages and listings use. `digits`
is the mathematics: the digits of a number in a base, most significant first,
with zero written as the single digit zero. `hex` and `decimal` only choose the
base and the least width. `ofSigns` reads.
-/

namespace Chip8.Numeral

/-- The digits of `n` in a base, most significant first. There is always at
least one digit, and the first is zero only for `n = 0`. -/
def digits (base : Nat) (positional : 1 < base) (n : Nat) : List (Fin base) :=
  if small : n < base then [⟨n, small⟩]
  else
    digits base positional (n / base) ++ [⟨n % base, Nat.mod_lt n (by omega)⟩]
termination_by n
decreasing_by exact Nat.div_lt_self (by omega) positional

/-- The digit signs, with small letters past nine. -/
def smallSigns : Vector Char 16 :=
  #v['0', '1', '2', '3', '4', '5', '6', '7', '8', '9', 'a', 'b', 'c', 'd', 'e', 'f']

/-- The digit signs, with capital letters past nine. -/
def capitalSigns : Vector Char 16 :=
  #v['0', '1', '2', '3', '4', '5', '6', '7', '8', '9', 'A', 'B', 'C', 'D', 'E', 'F']

/-- The sign of a hexadecimal digit, in small letters. -/
def smallSign (d : Fin 16) : Char := smallSigns.get d

/-- The sign of a hexadecimal digit, in capital letters. -/
def capitalSign (d : Fin 16) : Char := capitalSigns.get d

/-- The sign of a decimal digit. -/
def decimalSign (d : Fin 10) : Char := smallSigns[d.val]

/-- Zeros in front of a numeral, up to a least width. -/
def padded (width : Nat) (signs : List Char) : List Char :=
  List.replicate (width - signs.length) '0' ++ signs

/-- Hexadecimal in small letters, at least `width` digits wide. -/
def hexSigns (width n : Nat) : List Char :=
  padded width ((digits 16 (by decide) n).map smallSign)

/-- Hexadecimal in capital letters, as short as it gets. -/
def hexUpperSigns (n : Nat) : List Char :=
  (digits 16 (by decide) n).map capitalSign

/-- Decimal, as short as it gets. -/
def decimalSigns (n : Nat) : List Char :=
  (digits 10 (by decide) n).map decimalSign

/-- The text of `hexSigns`. -/
def hex (width n : Nat) : String := String.ofList (hexSigns width n)

/-- The text of `decimalSigns`. -/
def decimal (n : Nat) : String := String.ofList (decimalSigns n)

/-- The digit a sign stands for, in small or capital letters. -/
def digit? (sign : Char) : Option (Fin 16) :=
  (List.finRange 16).find? fun d => smallSign d = sign || capitalSign d = sign

/-- The number that signs spell in a base. -/
def ofSigns (base : Nat) (signs : List Char) : Nat :=
  signs.foldl (fun n sign => base * n + ((digit? sign).map (·.val)).getD 0) 0

end Chip8.Numeral
