import Chip8.Proofs.Decode
import Chip8.Proofs.Step

/-!
# Decoding undoes encoding

The comment of each instruction gives the `Form` of its words: the digits that
all of them share and the places of the operands. Decoding is held against
these forms and against `encode`:

* a word that decodes has the form of its instruction and is what the
  instruction is encoded as, but for a digit that shifts do not look at
  (`fits_of_decode?`, `encode_of_decode?`);
* a word of any of the forms decodes (`exists_decode?`);
* what an instruction is encoded as decodes to it again, unless it is one of
  the two calls of the host's routines whose words mean something else
  (`decode?_encode`).

The words themselves are four digits each, so all of it is arithmetic with
digits.
-/

namespace Chip8

namespace Word

variable (f x y n : Nibble) (k : UInt8) (w : Word)

/-! ## Words from their fields -/

theorem toNat_ofNibbles :
    (ofNibbles f x y n).toNat = f.val * 0x1000 + x.val * 0x100 + y.val * 0x10 + n.val := by
  have := f.isLt
  have := x.isLt
  have := y.isLt
  have := n.isLt
  simp only [ofNibbles, UInt16.toNat_ofNat']
  omega

theorem toNat_ofConstant :
    (ofConstant f x k).toNat = f.val * 0x1000 + x.val * 0x100 + k.toNat := by
  have := f.isLt
  have := x.isLt
  have := k.toNat_lt
  simp only [ofConstant, UInt16.toNat_ofNat']
  omega

theorem toNat_ofAddress (a : UInt16) :
    (ofAddress f a).toNat = f.val * 0x1000 + a.toNat % 0x1000 := by
  have := f.isLt
  simp only [ofAddress, UInt16.toNat_ofNat']
  omega

@[simp] theorem family_ofNibbles : (ofNibbles f x y n).family = f := by
  apply Fin.ext
  rw [val_family, toNat_ofNibbles]
  omega

@[simp] theorem x_ofNibbles : (ofNibbles f x y n).x = x := by
  apply Fin.ext
  rw [val_x, toNat_ofNibbles]
  omega

@[simp] theorem y_ofNibbles : (ofNibbles f x y n).y = y := by
  apply Fin.ext
  rw [val_y, toNat_ofNibbles]
  omega

@[simp] theorem n_ofNibbles : (ofNibbles f x y n).n = n := by
  apply Fin.ext
  rw [val_n, toNat_ofNibbles]
  omega

@[simp] theorem family_ofConstant : (ofConstant f x k).family = f := by
  have := k.toNat_lt
  apply Fin.ext
  rw [val_family, toNat_ofConstant]
  omega

@[simp] theorem x_ofConstant : (ofConstant f x k).x = x := by
  have := k.toNat_lt
  apply Fin.ext
  rw [val_x, toNat_ofConstant]
  omega

@[simp] theorem low_ofConstant : (ofConstant f x k).low = k := by
  have := k.toNat_lt
  apply UInt8.toNat_inj.1
  rw [toNat_low, toNat_ofConstant]
  omega

@[simp] theorem family_ofAddress (a : UInt16) : (ofAddress f a).family = f := by
  apply Fin.ext
  rw [val_family, toNat_ofAddress]
  omega

theorem address_ofAddress {a : UInt16} (inside : a.toNat < 4096) :
    (ofAddress f a).address = a := by
  apply UInt16.toNat_inj.1
  rw [toNat_address, toNat_ofAddress]
  omega

/-! ## The digits of a word -/

/-- A word is its four digits. -/
theorem toNat_eq_digits :
    w.toNat = w.family.val * 0x1000 + w.x.val * 0x100 + w.y.val * 0x10 + w.n.val := by
  rw [val_family, val_x, val_y, val_n]
  omega

/-- The low byte is the last two digits. -/
theorem toNat_low_eq_digits : w.low.toNat = w.y.val * 0x10 + w.n.val := by
  rw [toNat_low, val_y, val_n]
  omega

theorem n_eq_zero_iff : w.n = 0 ↔ w.n.val = 0 := Fin.ext_iff

theorem high_ofBytes (high low : UInt8) : (ofBytes high low).high = high := by
  have := high.toNat_lt
  have := low.toNat_lt
  apply UInt8.toNat_inj.1
  rw [Word.high, UInt8.toNat_ofNat', toNat_ofBytes]
  omega

theorem low_ofBytes (high low : UInt8) : (ofBytes high low).low = low := by
  have := low.toNat_lt
  apply UInt8.toNat_inj.1
  rw [toNat_low, toNat_ofBytes]
  omega

end Word

/-! ## Forms -/

/-- The digits that the words of an instruction share. Where an operand stands,
or a digit that does not matter, there is `none`. -/
structure Form where
  family : Nat
  x : Option Nat
  y : Option Nat
  n : Option Nat

/-- Whether a digit may stand where a form has this. -/
def Form.Allows : Option Nat → Nibble → Prop
  | none, _ => True
  | some d, digit => digit.val = d

/-- Whether a word has the digits of a form. -/
structure Form.Fits (f : Form) (w : Word) : Prop where
  family : w.family.val = f.family
  x : Allows f.x w.x
  y : Allows f.y w.y
  n : Allows f.n w.n

theorem Form.fits_iff {f : Form} {w : Word} :
    f.Fits w ↔
      w.family.val = f.family ∧ Allows f.x w.x ∧ Allows f.y w.y ∧ Allows f.n w.n :=
  ⟨fun h => ⟨h.family, h.x, h.y, h.n⟩, fun h => ⟨h.1, h.2.1, h.2.2.1, h.2.2.2⟩⟩

namespace Instruction

variable {ρ : Type} {w : Word}

/-- The form that is written beside an instruction. -/
def form : Instruction ρ → Form
  | sys _ => ⟨0x0, none, none, none⟩
  | clearScreen => ⟨0x0, some 0x0, some 0xE, some 0x0⟩
  | ret => ⟨0x0, some 0x0, some 0xE, some 0xE⟩
  | jump _ => ⟨0x1, none, none, none⟩
  | call _ => ⟨0x2, none, none, none⟩
  | skipEq _ _ => ⟨0x3, none, none, none⟩
  | skipNe _ _ => ⟨0x4, none, none, none⟩
  | skipSame _ _ => ⟨0x5, none, none, some 0x0⟩
  | setConst _ _ => ⟨0x6, none, none, none⟩
  | addConst _ _ => ⟨0x7, none, none, none⟩
  | copy _ _ => ⟨0x8, none, none, some 0x0⟩
  | orReg _ _ => ⟨0x8, none, none, some 0x1⟩
  | andReg _ _ => ⟨0x8, none, none, some 0x2⟩
  | xorReg _ _ => ⟨0x8, none, none, some 0x3⟩
  | addReg _ _ => ⟨0x8, none, none, some 0x4⟩
  | subReg _ _ => ⟨0x8, none, none, some 0x5⟩
  | shiftRight _ => ⟨0x8, none, none, some 0x6⟩
  | subFrom _ _ => ⟨0x8, none, none, some 0x7⟩
  | shiftLeft _ => ⟨0x8, none, none, some 0xE⟩
  | skipDiffer _ _ => ⟨0x9, none, none, some 0x0⟩
  | setIndex _ => ⟨0xA, none, none, none⟩
  | jumpOffset _ => ⟨0xB, none, none, none⟩
  | random _ _ => ⟨0xC, none, none, none⟩
  | draw _ _ _ => ⟨0xD, none, none, none⟩
  | skipKey _ => ⟨0xE, none, some 0x9, some 0xE⟩
  | skipNoKey _ => ⟨0xE, none, some 0xA, some 0x1⟩
  | readDelay _ => ⟨0xF, none, some 0x0, some 0x7⟩
  | awaitKey _ => ⟨0xF, none, some 0x0, some 0xA⟩
  | setDelay _ => ⟨0xF, none, some 0x1, some 0x5⟩
  | setSound _ => ⟨0xF, none, some 0x1, some 0x8⟩
  | addIndex _ => ⟨0xF, none, some 0x1, some 0xE⟩
  | pointGlyph _ => ⟨0xF, none, some 0x2, some 0x9⟩
  | storeDecimal _ => ⟨0xF, none, some 0x3, some 0x3⟩
  | storeRegs _ => ⟨0xF, none, some 0x5, some 0x5⟩
  | loadRegs _ => ⟨0xF, none, some 0x6, some 0x5⟩

/-- Whether an instruction shifts a register, so that the third digit of its
word does not matter. -/
def isShift : Instruction ρ → Bool
  | shiftRight _ | shiftLeft _ => true
  | _ => false

/-! ## From words to instructions and back -/

/-- A word that decodes has the form of what it decodes to. -/
theorem fits_of_decode? {i : Instruction Nibble} (decoded : decode? w = some i) :
    i.form.Fits w := by
  have low := w.toNat_low_eq_digits
  have := w.family.isLt
  have := w.n.isLt
  unfold decode? at decoded
  simp only [Word.n_eq_zero_iff] at decoded
  -- one case for each pattern; the last family is what no other case takes
  repeat' split at decoded
  all_goals cases decoded
  all_goals simp only [form, Form.fits_iff, Form.Allows, and_true, true_and]
  case h_1.isTrue word => subst word; decide
  case h_1.isFalse.isTrue word => subst word; decide
  all_goals first | omega | grind

/-- A word of the form of some instruction decodes. -/
theorem exists_decode? {i : Instruction ρ} (fits : i.form.Fits w) :
    ∃ j, decode? w = some j := by
  have low := w.toNat_low_eq_digits
  cases i
  all_goals simp only [form, Form.fits_iff, Form.Allows, and_true, true_and] at fits
  -- within the first family every word decodes, whichever of the three it is
  case sys | clearScreen | ret =>
    simp only [decode?, fits]
    by_cases clear : w = 0x00E0
    · exact ⟨_, if_pos clear⟩
    · rw [if_neg clear, ← apply_ite some]
      exact ⟨_, rfl⟩
  all_goals simp [decode?, fits, low, Word.n_eq_zero_iff]

/-- A word that decodes is what its instruction is encoded as; for a shift it
may differ in the third digit. -/
theorem encode_of_decode? {i : Instruction Nibble} (decoded : decode? w = some i) :
    i.encode = if i.isShift then .ofNibbles w.family w.x 0 w.n else w := by
  have fits := fits_of_decode? decoded
  have low := w.toNat_low_eq_digits
  have word := w.toNat_eq_digits
  have address := w.toNat_address
  unfold decode? at decoded
  repeat' split at decoded
  all_goals cases decoded
  all_goals simp only [form, Form.fits_iff, Form.Allows, and_true, true_and] at fits
  case h_1.isTrue word => subst word; decide
  case h_1.isFalse.isTrue word => subst word; decide
  all_goals simp only [encode, isShift, Bool.false_eq_true, if_false, if_true]
  -- the digits that do not come from the word are those of the form
  all_goals apply UInt16.toNat_inj.1
  all_goals simp only [Word.toNat_ofNibbles, Word.toNat_ofConstant, Word.toNat_ofAddress,
    UInt8.toNat_ofNat]
  all_goals omega

/-- The words of calls of the host's routines are those of the first family
that mean nothing else. -/
theorem decode?_encode_sys {a : UInt16} (inside : a.toNat < 4096) (clear : a ≠ 0x0E0)
    (back : a ≠ 0x0EE) : decode? (sys a).encode = some (sys a) := by
  have value : (Word.ofAddress 0x0 a).toNat = a.toNat := by
    rw [Word.toNat_ofAddress, Nat.mod_eq_of_lt inside]
    exact Nat.zero_add _
  have word : Word.ofAddress 0x0 a = a := UInt16.toNat_inj.1 value
  show decode? (Word.ofAddress 0x0 a) = _
  rw [decode?, Word.family_ofAddress, Word.address_ofAddress _ inside, word, if_neg clear,
    if_neg back]
  rfl

/-- What an instruction is encoded as decodes to it. -/
theorem decode?_encode {i : Instruction Nibble} (inMemory : i.InMemory)
    (clear : i ≠ sys 0x0E0) (back : i ≠ sys 0x0EE) : decode? i.encode = some i := by
  cases i with
  | sys a =>
    have clear : a ≠ 0x0E0 := fun same => clear (congrArg sys same)
    have back : a ≠ 0x0EE := fun same => back (congrArg sys same)
    exact decode?_encode_sys inMemory clear back
  | clearScreen | ret => decide
  | jump a | call a | setIndex a | jumpOffset a =>
    have inside : a.toNat < 4096 := inMemory
    simp only [encode, decode?, Word.family_ofAddress, Word.address_ofAddress _ inside]
    rfl
  | skipEq | skipNe | setConst | addConst | random | skipKey | skipNoKey | readDelay | awaitKey
  | setDelay | setSound | addIndex | pointGlyph | storeDecimal | storeRegs | loadRegs =>
    simp only [encode, decode?, Word.family_ofConstant, Word.x_ofConstant, Word.low_ofConstant]
    rfl
  | _ =>
    simp only [encode, decode?, Word.family_ofNibbles, Word.x_ofNibbles, Word.y_ofNibbles,
      Word.n_ofNibbles]
    rfl

/-! ## Instructions written by hand -/

theorem map_map {σ τ : Type} (g : σ → τ) (f : ρ → σ) (i : Instruction ρ) :
    (i.map f).map g = i.map fun b => g (f b) := by
  cases i <;> rfl

theorem map_eq_self {f : ρ → ρ} {i : Instruction ρ} (same : ∀ b ∈ i.operands, f b = b) :
    i.map f = i := by
  cases i <;> simp_all [map, operands]

/-- An instruction written by hand whose registers and height fit into a word
is one that a machine can carry out. -/
theorem exists_narrow? {i : Instruction UInt8} (small : ∀ b ∈ i.operands, b.toNat < 16) :
    ∃ j, i.narrow? = some j ∧ j.widen = i := by
  have all : i.operands.all (·.toNat < 16) = true := by
    rw [List.all_eq_true]
    intro b among
    exact decide_eq_true (small b among)
  refine ⟨_, if_pos all, ?_⟩
  rw [widen, map_map]
  apply map_eq_self
  intro b among
  apply UInt8.toNat_inj.1
  rw [Nibble.toNat_toByte]
  exact Nat.mod_eq_of_lt (small b among)

theorem inMemory_map {σ : Type} (f : ρ → σ) (i : Instruction ρ) :
    (i.map f).InMemory ↔ i.InMemory := by
  cases i <;> rfl

/-! ## The whole law -/

/-- What an instruction written by hand comes to when it is encoded and decoded
again. -/
def reread (i : Instruction UInt8) : Instruction UInt8 :=
  if i = sys 0x0E0 then clearScreen else if i = sys 0x0EE then ret else i

theorem decode?_encode_widen {i : Instruction Nibble} (inMemory : i.InMemory) :
    (decode? i.encode).map widen = some i.widen.reread := by
  by_cases clear : i = sys 0x0E0
  · subst clear
    decide
  by_cases back : i = sys 0x0EE
  · subst back
    decide
  -- widening keeps an instruction from being one of the two
  have neither (a : UInt16) (other : i ≠ sys a) : i.widen ≠ sys a := by
    intro same
    have narrow := congrArg narrow? same
    rw [narrow?_widen] at narrow
    exact other (Option.some.inj narrow)
  rw [decode?_encode inMemory clear back, reread, if_neg (neither _ clear),
    if_neg (neither _ back)]
  rfl

/-- **Decoding undoes encoding.** An instruction written by hand whose operands
are in range can be carried out, and what it is encoded as decodes to it; only
the calls of the host's routines at `0E0` and `0EE` have words that mean
`clearScreen` and `ret`. A word decodes exactly if it has the form of some
instruction, and then the operands are in range and the instruction is encoded
as the word, where of a shift the third digit does not matter. To carry out any
other word is refused as an unknown opcode. A word may as well come as two
bytes: joined they are the word again, and a step that finds them at the
program counter does what the word means. -/
theorem decode?_inverts_encode :
    (∀ i : Instruction UInt8, i.InMemory → (∀ b ∈ i.operands, b.toNat < 16) →
      ∃ j, i.narrow? = some j ∧ j.widen = i ∧ (decode? j.encode).map widen = some i.reread) ∧
    (∀ w, (∃ i, decode? w = some i) ↔ ∃ i : Instruction Nibble, i.form.Fits w) ∧
    (∀ w i, decode? w = some i →
      i.form.Fits w ∧ i.InMemory ∧
        i.encode = if i.isShift then .ofNibbles w.family w.x 0 w.n else w) ∧
    (∀ x y, decode? (.ofNibbles 0x8 x y 0x6) = some (shiftRight x) ∧
      decode? (.ofNibbles 0x8 x y 0xE) = some (shiftLeft x)) ∧
    (∀ (m : Machine) (w : Word),
      (∀ i, decode? w = some i → m.executeWord w = m.execute i) ∧
      (decode? w = none →
        m.executeWord w = ⟨.error (.unknownOpcode w), m, [.unknownOpcode w]⟩)) ∧
    (∀ high low, (Word.ofBytes high low).high = high ∧ (Word.ofBytes high low).low = low) ∧
    (∀ w, decode? (.ofBytes w.high w.low) = decode? w) ∧
    ∀ (m : Machine) (w : Word), m.pc.toNat < 4096 →
      m.memory.byteAt (Address.wrap m.pc.toNat) = w.high →
      m.memory.byteAt (Address.wrap (m.pc.toNat + 1)) = w.low →
      (∀ i, decode? w = some i → m.step = m.stepWith i) ∧
      (decode? w = none → m.step = ⟨.error (.unknownOpcode w), m, [.unknownOpcode w]⟩) := by
  refine ⟨?written, ?forms, ?back, ?shifts, ?carried, ?bytes, ?joined, ?stepped⟩
  case written =>
    intro i inMemory small
    obtain ⟨j, narrow, rfl⟩ := exists_narrow? small
    exact ⟨j, narrow, rfl, decode?_encode_widen ((inMemory_map _ j).1 inMemory)⟩
  case forms =>
    intro w
    constructor
    · rintro ⟨i, decoded⟩
      exact ⟨i, fits_of_decode? decoded⟩
    · rintro ⟨i, fits⟩
      exact exists_decode? fits
  case back =>
    intro w i decoded
    exact ⟨fits_of_decode? decoded, inMemory_of_decode? decoded, encode_of_decode? decoded⟩
  case shifts =>
    intro x y
    constructor <;>
    · rw [decode?, Word.family_ofNibbles, Word.n_ofNibbles, Word.x_ofNibbles]
      rfl
  case carried =>
    intro m w
    constructor
    · intro i decoded
      simp only [Machine.executeWord, decoded]
    · intro undecoded
      simp only [Machine.executeWord, undecoded]
  case bytes =>
    intro high low
    exact ⟨Word.high_ofBytes high low, Word.low_ofBytes high low⟩
  case joined =>
    intro w
    rw [Word.ofBytes_high_low]
  case stepped =>
    intro m w inside first second
    have fetched : m.fetch = .ok w := by
      rw [Machine.fetch_of_lt inside, Machine.nextWord, first, second, Word.ofBytes_high_low]
    constructor
    · intro i decoded
      simp only [Machine.step, fetched, decoded]
    · intro undecoded
      simp only [Machine.step, fetched, undecoded]

end Instruction

/-- A machine that stands before what an instruction is encoded as carries it out. -/
theorem Machine.current?_of_encode {m : Machine} {i : Instruction Nibble}
    (inside : m.pc.toNat ≤ 0xFFF) (inMemory : i.InMemory) (clear : i ≠ .sys 0x0E0)
    (back : i ≠ .sys 0x0EE) (word : m.nextWord = i.encode) : m.current? = some i := by
  rw [current?_eq_some_iff, word]
  exact ⟨Nat.lt_succ_of_le inside, Instruction.decode?_encode inMemory clear back⟩

end Chip8
