/-!
# Words and their fields

The machine stores bytes and reads instructions as 16-bit words, high byte
first. An instruction word is four nibbles: the leading one names the family,
the other three hold operands, either one by one (`x`, `y`, `n`), as the low
byte, or together as a 12-bit address. Every field is a quotient and a
remainder of the word's value, so facts about fields are facts of linear
arithmetic.
-/

namespace Chip8

/-- A four-bit number: a register, a sprite height or a key. -/
abbrev Nibble := Fin 16

/-- There are nibbles. -/
instance Nibble.neZero : @NeZero Nat Zero.ofOfNat0 16 := ⟨by decide⟩

/-- Nibbles are compared by value. -/
instance Nibble.lawfulBEq : LawfulBEq Nibble := instLawfulBEq

/-- A nibble is a place in a list of sixteen. -/
theorem Nibble.val_lt (n : Nibble) : n.val < 16 := n.isLt

theorem Nibble.get_eq_getElem {α : Type} (v : Vector α 16) (n : Nibble) : v.get n = v[n] := rfl

/-- The byte with the same value. -/
def Nibble.toByte (n : Nibble) : UInt8 := UInt8.ofNat n.val

/-- The nibble with the same value as a byte, for bytes up to fifteen. -/
def Nibble.ofByte? (b : UInt8) : Option Nibble :=
  if h : b.toNat < 16 then some ⟨b.toNat, h⟩ else none

@[simp] theorem Nibble.toNat_toByte (n : Nibble) : n.toByte.toNat = n.val := by
  simp [Nibble.toByte, UInt8.toNat_ofNat']; omega

/-- A nibble's byte names that nibble. -/
@[simp] theorem Nibble.ofByte?_toByte (n : Nibble) : Nibble.ofByte? n.toByte = some n := by
  simp [Nibble.ofByte?, Nibble.toNat_toByte]

theorem Nibble.ofByte?_eq_some_iff {b : UInt8} {n : Nibble} :
    Nibble.ofByte? b = some n ↔ b = n.toByte := by
  constructor
  · intro named
    unfold Nibble.ofByte? at named
    split at named
    · cases named
      apply UInt8.toNat_inj.1
      rw [Nibble.toNat_toByte]
    · cases named
  · rintro rfl
    exact n.ofByte?_toByte

/-- An instruction word. -/
abbrev Word := UInt16

namespace Word

/-- The word with the given high and low byte. -/
def ofBytes (high low : UInt8) : Word :=
  UInt16.ofNat (high.toNat * 0x100 + low.toNat)

/-- The leading nibble, which names the instruction's family. -/
def family (w : Word) : Nibble := Fin.ofNat 16 (w.toNat / 0x1000)

/-- The second nibble, most often a register. -/
def x (w : Word) : Nibble := Fin.ofNat 16 (w.toNat / 0x100)

/-- The third nibble, most often a register. -/
def y (w : Word) : Nibble := Fin.ofNat 16 (w.toNat / 0x10)

/-- The last nibble. -/
def n (w : Word) : Nibble := Fin.ofNat 16 w.toNat

/-- The low byte, the constant operand. -/
def low (w : Word) : UInt8 := UInt8.ofNat w.toNat

/-- The high byte. -/
def high (w : Word) : UInt8 := UInt8.ofNat (w.toNat / 0x100)

/-- The last three nibbles, the address operand. -/
def address (w : Word) : UInt16 := UInt16.ofNat (w.toNat % 0x1000)

/-- The word of a family with three separate operand nibbles. -/
def ofNibbles (family x y n : Nibble) : Word :=
  UInt16.ofNat (family.val * 0x1000 + x.val * 0x100 + y.val * 0x10 + n.val)

/-- The word of a family with a register and a constant byte. -/
def ofConstant (family x : Nibble) (k : UInt8) : Word :=
  UInt16.ofNat (family.val * 0x1000 + x.val * 0x100 + k.toNat)

/-- The word of a family with an address, of which only the low twelve bits
fit. -/
def ofAddress (family : Nibble) (a : UInt16) : Word :=
  UInt16.ofNat (family.val * 0x1000 + a.toNat % 0x1000)

/-! ### The fields in linear arithmetic -/

theorem toNat_ofBytes (high low : UInt8) :
    (ofBytes high low).toNat = high.toNat * 0x100 + low.toNat := by
  have := high.toNat_lt
  have := low.toNat_lt
  simp only [ofBytes, UInt16.toNat_ofNat']
  omega

theorem val_family (w : Word) : w.family.val = w.toNat / 0x1000 := by
  have := w.toNat_lt
  simp only [family, Fin.ofNat]
  omega

theorem val_x (w : Word) : w.x.val = w.toNat / 0x100 % 16 := rfl

theorem val_y (w : Word) : w.y.val = w.toNat / 0x10 % 16 := rfl

theorem val_n (w : Word) : w.n.val = w.toNat % 16 := rfl

theorem toNat_low (w : Word) : w.low.toNat = w.toNat % 0x100 := by
  simp [low]

theorem toNat_address (w : Word) : w.address.toNat = w.toNat % 0x1000 := by
  simp [address]; omega

/-- A word is its two bytes. -/
theorem ofBytes_high_low (w : Word) : ofBytes w.high w.low = w := by
  have := w.toNat_lt
  apply UInt16.toNat_inj.1
  simp [toNat_ofBytes, high, low]; omega

end Word

end Chip8
