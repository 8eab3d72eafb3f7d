import Chip8.Instruction.Assembly
import Chip8.Proofs.Arithmetic
import Chip8.Proofs.Numerals

/-!
# Listings read back

A line of assembly can be read: the blanks part it into a mnemonic and operands,
which may end in a comma (`words`), each operand shows by its first signs what it
is (`Operand.read`), and mnemonic and operands together name the instruction
(`Statement.instruction?`). Each reader undoes the way its part is written, so the
text of an instruction determines it, whatever its operands (`ofText?_text`).
-/

namespace Chip8

open Numeral

/-! ## Operands -/

namespace Operand

/-- The operand that signs stand for. A constant has two digits and an address has
more. -/
def read : List Char → Operand
  | 'V' :: number => .register (UInt8.ofNat (ofSigns 16 number))
  | '0' :: 'x' :: number =>
    if number.length ≤ 2 then .constant (UInt8.ofNat (ofSigns 16 number))
    else .address (UInt16.ofNat (ofSigns 16 number))
  | ['I'] => .index
  | ['[', 'I', ']'] => .atIndex
  | ['D', 'T'] => .delayTimer
  | ['S', 'T'] => .soundTimer
  | ['K'] => .keyPress
  | ['F'] => .glyph
  | ['B'] => .decimalDigits
  | number => .height (UInt8.ofNat (ofSigns 10 number))

/-- A number in decimal looks like no other operand, since it has no letter. -/
theorem read_of_decimal {signs : List Char}
    (decimal : ∀ sign ∈ signs, ∃ d, sign = decimalSign d) :
    read signs = .height (UInt8.ofNat (ofSigns 10 signs)) := by
  have letters : ∀ d, decimalSign d ∉ ['V', 'x', 'I', '[', 'D', 'S', 'K', 'F', 'B'] := by decide
  have noLetter : ∀ letter ∈ ['V', 'x', 'I', '[', 'D', 'S', 'K', 'F', 'B'], letter ∉ signs := by
    intro letter listed among
    obtain ⟨d, rfl⟩ := decimal letter among
    exact letters d listed
  unfold read
  split
  case h_10 => rfl
  all_goals simp at noLetter

theorem read_signs (o : Operand) : read o.signs = o := by
  cases o with
  | register number =>
      show Operand.register (UInt8.ofNat (ofSigns 16 (hexUpperSigns number.toNat))) = _
      rw [ofSigns_hexUpperSigns, UInt8.ofNat_toNat]
  | address value =>
      have long := width_le_length_hexSigns 3 value.toNat
      have digits : read (signs (.address value)) =
          .address (UInt16.ofNat (ofSigns 16 (hexSigns 3 value.toNat))) := if_neg (by omega)
      rw [digits, ofSigns_hexSigns, UInt16.ofNat_toNat]
  | constant value =>
      have short : (hexSigns 2 value.toNat).length = 2 := length_hexSigns_of_lt value.toNat_lt
      have digits : read (signs (.constant value)) =
          .constant (UInt8.ofNat (ofSigns 16 (hexSigns 2 value.toNat))) := if_pos (by omega)
      rw [digits, ofSigns_hexSigns, UInt8.ofNat_toNat]
  | height rows =>
      show read (decimalSigns rows.toNat) = _
      rw [read_of_decimal fun sign => mem_decimalSigns, ofSigns_decimalSigns, UInt8.ofNat_toNat]
  | _ => rfl

/-- No sign of an operand parts words or operands. -/
theorem not_mem_signs {sign : Char} (parts : sign = ' ' ∨ sign = ',') (o : Operand) :
    sign ∉ o.signs := by
  have small : ∀ d, smallSign d ≠ ' ' ∧ smallSign d ≠ ',' := by decide
  have capital : ∀ d, capitalSign d ≠ ' ' ∧ capitalSign d ≠ ',' := by decide
  have decimal : ∀ d, decimalSign d ≠ ' ' ∧ decimalSign d ≠ ',' := by decide
  have inHex (width n : Nat) : sign ∉ hexSigns width n := by
    intro among
    obtain ⟨d, rfl⟩ := mem_hexSigns among
    exact parts.elim (small d).1 (small d).2
  cases o with
  | register number =>
      have inNumber : sign ∉ hexUpperSigns number.toNat := by
        intro among
        obtain ⟨d, rfl⟩ := mem_hexUpperSigns among
        exact parts.elim (capital d).1 (capital d).2
      rcases parts with rfl | rfl <;> simp [signs, inNumber]
  | address value => rcases parts with rfl | rfl <;> simp [signs, inHex]
  | constant value => rcases parts with rfl | rfl <;> simp [signs, inHex]
  | height rows =>
      intro among
      obtain ⟨d, rfl⟩ := mem_decimalSigns among
      exact parts.elim (decimal d).1 (decimal d).2
  | _ => rcases parts with rfl | rfl <;> decide

/-- The operand of a word, up to the comma that may follow. -/
def readWord (word : List Char) : Operand := read (word.takeWhile (· ≠ ','))

theorem readWord_append (o : Operand) {rest : List Char}
    (ends : rest.takeWhile (· ≠ ',') = []) : readWord (o.signs ++ rest) = o := by
  have whole : ∀ sign ∈ o.signs, decide (sign ≠ ',') = true := by
    intro sign among
    exact decide_eq_true fun comma => o.not_mem_signs (.inr comma) among
  rw [readWord, List.takeWhile_append_of_pos whole, ends, List.append_nil, read_signs]

/-- The words of operands in a row are the operands. -/
theorem readWord_splitOn {os : List Operand} (some : os ≠ []) :
    ((listSigns os).splitOn ' ').map readWord = os := by
  induction os with
  | nil => exact absurd rfl some
  | cons o rest ih =>
      cases rest with
      | nil =>
          have last : readWord (o.signs ++ []) = o := o.readWord_append rfl
          rw [List.append_nil] at last
          rw [listSigns, List.splitOn_eq_singleton (o.not_mem_signs (.inl rfl)),
            List.map_singleton, last]
      | cons o' rest =>
          have blank : ' ' ∉ o.signs ++ [','] := by
            have none := o.not_mem_signs (.inl rfl)
            simp [none]
          have parted : listSigns (o :: o' :: rest) =
              (o.signs ++ [',']) ++ ' ' :: listSigns (o' :: rest) := by simp [listSigns]
          rw [parted, List.splitOn_append_cons_self, List.splitOn_eq_singleton blank,
            List.singleton_append, List.map_cons, o.readWord_append rfl, ih nofun]

end Operand

/-! ## Statements -/

namespace Mnemonic

/-- All mnemonics. -/
def all : List Mnemonic :=
  [sys, cls, ret, jp, call, se, sne, ld, add, or, and, xor, sub, shr, subn, shl, rnd, drw, skp,
    sknp]

/-- The mnemonic that signs stand for. -/
def read? (signs : List Char) : Option Mnemonic := all.find? (·.signs = signs)

theorem read?_signs (m : Mnemonic) : read? m.signs = some m := by
  cases m <;> decide

theorem blank_not_mem_signs (m : Mnemonic) : ' ' ∉ m.signs := by
  cases m <;> decide

end Mnemonic

namespace Statement

/-- The statement that signs stand for. -/
def read? (signs : List Char) : Option Statement :=
  match signs.splitOn ' ' with
  | [] => none
  | mnemonic :: operands =>
    (Mnemonic.read? mnemonic).map fun m => ⟨m, operands.map Operand.readWord⟩

theorem read?_signs (s : Statement) : read? s.signs = some s := by
  obtain ⟨mnemonic, operands⟩ := s
  have blank := mnemonic.blank_not_mem_signs
  cases operands with
  | nil =>
      have words : (signs ⟨mnemonic, []⟩).splitOn ' ' = [mnemonic.signs] :=
        List.splitOn_eq_singleton blank
      simp only [read?, words, Mnemonic.read?_signs, Option.map_some, List.map_nil]
  | cons o rest =>
      have words : (signs ⟨mnemonic, o :: rest⟩).splitOn ' ' =
          mnemonic.signs :: (Operand.listSigns (o :: rest)).splitOn ' ' := by
        rw [signs, List.splitOn_append_cons_self, List.splitOn_eq_singleton blank]
        rfl
      simp only [read?, words, Mnemonic.read?_signs, Option.map_some,
        Operand.readWord_splitOn (List.cons_ne_nil o rest)]

/-- The instruction that a statement is the assembly of. -/
def instruction? : Statement → Option (Instruction UInt8)
  | ⟨.sys, [.address a]⟩ => some (.sys a)
  | ⟨.cls, []⟩ => some .clearScreen
  | ⟨.ret, []⟩ => some .ret
  | ⟨.jp, [.address a]⟩ => some (.jump a)
  | ⟨.jp, [.register _, .address a]⟩ => some (.jumpOffset a)
  | ⟨.call, [.address a]⟩ => some (.call a)
  | ⟨.se, [.register x, .constant k]⟩ => some (.skipEq x k)
  | ⟨.se, [.register x, .register y]⟩ => some (.skipSame x y)
  | ⟨.sne, [.register x, .constant k]⟩ => some (.skipNe x k)
  | ⟨.sne, [.register x, .register y]⟩ => some (.skipDiffer x y)
  | ⟨.ld, [.register x, .constant k]⟩ => some (.setConst x k)
  | ⟨.ld, [.register x, .register y]⟩ => some (.copy x y)
  | ⟨.ld, [.register x, .delayTimer]⟩ => some (.readDelay x)
  | ⟨.ld, [.register x, .keyPress]⟩ => some (.awaitKey x)
  | ⟨.ld, [.register x, .atIndex]⟩ => some (.loadRegs x)
  | ⟨.ld, [.index, .address a]⟩ => some (.setIndex a)
  | ⟨.ld, [.delayTimer, .register x]⟩ => some (.setDelay x)
  | ⟨.ld, [.soundTimer, .register x]⟩ => some (.setSound x)
  | ⟨.ld, [.glyph, .register x]⟩ => some (.pointGlyph x)
  | ⟨.ld, [.decimalDigits, .register x]⟩ => some (.storeDecimal x)
  | ⟨.ld, [.atIndex, .register x]⟩ => some (.storeRegs x)
  | ⟨.add, [.register x, .constant k]⟩ => some (.addConst x k)
  | ⟨.add, [.register x, .register y]⟩ => some (.addReg x y)
  | ⟨.add, [.index, .register x]⟩ => some (.addIndex x)
  | ⟨.or, [.register x, .register y]⟩ => some (.orReg x y)
  | ⟨.and, [.register x, .register y]⟩ => some (.andReg x y)
  | ⟨.xor, [.register x, .register y]⟩ => some (.xorReg x y)
  | ⟨.sub, [.register x, .register y]⟩ => some (.subReg x y)
  | ⟨.subn, [.register x, .register y]⟩ => some (.subFrom x y)
  | ⟨.shr, [.register x]⟩ => some (.shiftRight x)
  | ⟨.shl, [.register x]⟩ => some (.shiftLeft x)
  | ⟨.rnd, [.register x, .constant k]⟩ => some (.random x k)
  | ⟨.drw, [.register x, .register y, .height n]⟩ => some (.draw x y n)
  | ⟨.skp, [.register x]⟩ => some (.skipKey x)
  | ⟨.sknp, [.register x]⟩ => some (.skipNoKey x)
  | _ => none

end Statement

namespace Instruction

/-- The instruction that a text is the assembly of. -/
def ofText? (text : String) : Option (Instruction UInt8) :=
  (Statement.read? text.toList).bind Statement.instruction?

theorem instruction?_assembly (i : Instruction UInt8) : i.assembly.instruction? = some i := by
  cases i <;> rfl

/-- The text of an instruction can be read back, whatever its operands. -/
theorem ofText?_text (i : Instruction UInt8) : ofText? i.text = some i := by
  rw [ofText?, text, String.toList_ofList, Statement.read?_signs, Option.bind_some,
    instruction?_assembly]

/-- No two instructions have the same text. -/
theorem text_inj {i j : Instruction UInt8} : i.text = j.text ↔ i = j := by
  constructor
  · intro same
    have read := congrArg ofText? same
    rwa [ofText?_text, ofText?_text, Option.some.injEq] at read
  · exact congrArg text

theorem widen_inj {i j : Instruction Nibble} : i.widen = j.widen ↔ i = j := by
  constructor
  · intro same
    have narrow := congrArg narrow? same
    rwa [narrow?_widen, narrow?_widen, Option.some.injEq] at narrow
  · exact congrArg widen

end Instruction

/-! ## Words -/

namespace Word

/-- A word is made of its digits. -/
theorem ofNibbles_digits (w : Word) : ofNibbles w.family w.x w.y w.n = w := by
  apply UInt16.toNat_inj.1
  rw [toNat_ofNibbles]
  exact w.toNat_eq_digits.symm

end Word

namespace Instruction

variable {v w : Word} {i : Instruction Nibble}

/-- The words of a shift. -/
theorem digits_of_isShift (shift : i.isShift = true) (decoded : decode? w = some i) :
    (w.n = 0x6 ∨ w.n = 0xE) ∧ w = .ofNibbles 0x8 w.x w.y w.n := by
  have fits := fits_of_decode? decoded
  have digits : w.family = 0x8 ∧ (w.n = 0x6 ∨ w.n = 0xE) := by
    cases i with
    | shiftRight x => exact ⟨Fin.ext fits.family, .inl (Fin.ext fits.n)⟩
    | shiftLeft x => exact ⟨Fin.ext fits.family, .inr (Fin.ext fits.n)⟩
    | _ => cases shift
  refine ⟨digits.2, ?_⟩
  rw [← digits.1, Word.ofNibbles_digits]

/-- Words with the same meaning are the same, but for the third digit of a shift. -/
theorem eq_or_shift_of_decode? (decoded : decode? v = some i) (other : decode? w = some i) :
    v = w ∨ ∃ x y z n, (n = 0x6 ∨ n = 0xE) ∧ v = .ofNibbles 0x8 x y n ∧
      w = .ofNibbles 0x8 x z n := by
  have encoded := (encode_of_decode? decoded).symm.trans (encode_of_decode? other)
  cases shift : i.isShift with
  | false =>
      rw [shift] at encoded
      exact .inl encoded
  | true =>
      rw [shift] at encoded
      have x : v.x = w.x := by simpa using congrArg Word.x encoded
      have n : v.n = w.n := by simpa using congrArg Word.n encoded
      obtain ⟨last, digits⟩ := digits_of_isShift shift decoded
      obtain ⟨_, digits'⟩ := digits_of_isShift shift other
      rw [← x, ← n] at digits'
      exact .inr ⟨v.x, v.y, w.y, v.n, last, digits, digits'⟩

end Instruction

/-- **A listing is unambiguous.** Instructions written by hand that have the same text
are the same, whatever their operands, for the text can be read back. So the text of a
decoded word determines the word, except for the third digit of the shifts `8xy6` and
`8xyE`, which does not matter. -/
theorem listing_is_unambiguous :
    (∀ i j : Instruction UInt8, i.text = j.text ↔ i = j) ∧
    (∀ i : Instruction UInt8, Instruction.ofText? i.text = some i) ∧
    ∀ (v w : Word) (i j : Instruction Nibble), Instruction.decode? v = some i →
      Instruction.decode? w = some j →
      (i.widen.text = j.widen.text ↔ v = w ∨ ∃ x y z n, (n = 0x6 ∨ n = 0xE) ∧
        v = .ofNibbles 0x8 x y n ∧ w = .ofNibbles 0x8 x z n) := by
  refine ⟨fun _ _ => Instruction.text_inj, Instruction.ofText?_text, ?_⟩
  intro v w i j decoded other
  rw [Instruction.text_inj, Instruction.widen_inj]
  constructor
  · rintro rfl
    exact Instruction.eq_or_shift_of_decode? decoded other
  · intro words
    have same : Instruction.decode? v = Instruction.decode? w := by
      rcases words with rfl | ⟨x, y, z, n, rfl | rfl, rfl, rfl⟩
      · rfl
      · rw [Instruction.decode?_shiftRight, Instruction.decode?_shiftRight]
      · rw [Instruction.decode?_shiftLeft, Instruction.decode?_shiftLeft]
    rw [decoded, other] at same
    exact Option.some.inj same

/-- Two words of one shift, whose texts are the same. -/
theorem listing_is_unambiguous_shift :
    Instruction.decode? 0x8AB6 = some (.shiftRight 0xA) ∧
    Instruction.decode? 0x8A06 = some (.shiftRight 0xA) ∧
    ∃ x y z n, (n = 0x6 ∨ n = 0xE) ∧ (0x8AB6 : Word) = .ofNibbles 0x8 x y n ∧
      (0x8A06 : Word) = .ofNibbles 0x8 x z n := by
  have first : Instruction.decode? 0x8AB6 = some (.shiftRight 0xA) := by decide
  have second : Instruction.decode? 0x8A06 = some (.shiftRight 0xA) := by decide
  have words := (listing_is_unambiguous.2.2 0x8AB6 0x8A06 _ _ first second).1 rfl
  exact ⟨first, second, words.resolve_left (by decide)⟩

end Chip8
