import Chip8.Proofs.Encoding
import Chip8.Proofs.Step

/-!
# Where a step goes on

A step moves past its word before it carries the word out. So a jump puts the
program counter somewhere else, a skip that is taken moves on once more, and a
wait for a key goes back; all other instructions leave it where it is. What
`pc_execute` says of the instruction is therefore what becomes of the step
(`pc_step`), and moving on twice wraps as moving on by four does
(`toNat_pc_step_of_moves`).
-/

namespace Chip8

namespace Machine

variable {m : Machine} {i : Instruction Nibble} {target : UInt16} {x key : Nibble} {fault : Fault}

/-! ## One instruction at a time -/

theorem pc_step (survives : m.step.Survives) (current : m.current? = some i) :
    m.step.state.pc = (m.advance.execute i).state.pc := by
  rw [state_step_of_survives survives current]
  rfl

/-- What stood in the way of an instruction whose step is survived is not
fatal. -/
theorem mild_of_refusal (survives : m.step.Survives) (current : m.current? = some i)
    (refusal : Refusal m i fault) : fault.isFatal = false :=
  survives fault ((outcome_step_error_iff current).2 refusal)

theorem pc_step_jump (survives : m.step.Survives) (current : m.current? = some (.jump target)) :
    m.step.state.pc = target :=
  (pc_step survives current).trans (m.advance.pc_execute _)

theorem pc_step_call (survives : m.step.Survives) (current : m.current? = some (.call target)) :
    m.step.state.pc = target ∧
      m.step.state.stack.toList = m.stack.toList ++ [addressAfter m.pc] := by
  have room : ¬ m.stack.toList.length = 16 := by
    intro full
    cases mild_of_refusal survives current (.call target full)
  rw [state_step_of_survives survives current]
  exact ⟨(m.advance.pc_execute _).trans (if_neg room),
    (m.advance.stack_execute _).trans (if_neg room)⟩

theorem toNat_pc_step_jumpOffset (survives : m.step.Survives)
    (current : m.current? = some (.jumpOffset target)) :
    m.step.state.pc.toNat = (target.toNat + (m.reg 0).toNat) % 4096 := by
  rw [pc_step survives current, pc_execute]
  show (UInt16.ofNat ((target.toNat + (m.reg 0).toNat) % 4096)).toNat = _
  rw [UInt16.toNat_ofNat']
  omega

/-- A return that is survived finds an address and goes there. -/
theorem getLast?_of_ret (survives : m.step.Survives) (current : m.current? = some .ret) :
    m.stack.toList.getLast? = some m.step.state.pc := by
  cases top : m.stack.toList.getLast? with
  | none =>
      have empty := List.getLast?_eq_none_iff.1 top
      cases mild_of_refusal survives current (.ret empty)
  | some target =>
      rw [pc_step survives current, pc_execute]
      show some target = some (m.stack.toList.getLast?.getD _)
      rw [top]
      rfl

theorem pc_step_awaitKey (survives : m.step.Survives)
    (current : m.current? = some (.awaitKey x)) :
    m.step.state.pc = if m.keypad.first? = none then m.pc else addressAfter m.pc := by
  obtain ⟨inside, _⟩ := current?_eq_some_iff.1 current
  rw [pc_step survives current, pc_execute]
  show (if m.keypad.first? = none then addressBefore (addressAfter m.pc) else _) = _
  rw [addressBefore_addressAfter inside]
  rfl

/-! ## Skips -/

theorem skips_advance (m : Machine) (i : Instruction Nibble) :
    m.advance.skips i = m.skips i := by
  cases i <;> rfl

/-- An instruction that only moves on may do so once more. -/
theorem toNat_pc_step_of_moves (survives : m.step.Survives) (current : m.current? = some i)
    (moves : (m.advance.execute i).state.pc =
      if m.advance.skips i then addressAfter m.advance.pc else m.advance.pc) :
    m.step.state.pc.toNat = (m.pc.toNat + if m.skips i then 4 else 2) % 4096 := by
  rw [pc_step survives current, moves, skips_advance]
  show (if m.skips i then addressAfter (addressAfter m.pc) else addressAfter m.pc).toNat = _
  cases m.skips i with
  | false => exact toNat_addressAfter m.pc
  | true =>
      show (addressAfter (addressAfter m.pc)).toNat = (m.pc.toNat + 4) % 4096
      rw [toNat_addressAfter, toNat_addressAfter]
      omega

theorem skips_skipKey (named : m.reg x = key.toByte) :
    m.skips (.skipKey x) = m.keypad.holds key := by
  rw [skips, Nibble.ofByte?_eq_some_iff.2 named]
  rfl

theorem skips_skipNoKey (named : m.reg x = key.toByte) :
    m.skips (.skipNoKey x) = !m.keypad.holds key := by
  rw [skips, Nibble.ofByte?_eq_some_iff.2 named]
  rfl

/-- A number that is no key counts neither as down nor as up. -/
theorem skips_of_large (large : 15 < (m.reg x).toNat) (asks : i = .skipKey x ∨ i = .skipNoKey x) :
    m.skips i = false := by
  have unnamed := (Nibble.ofByte?_eq_none_iff (m.reg x)).2 large
  rcases asks with rfl | rfl <;> rw [skips, unnamed] <;> rfl

end Machine

/-! ## Families of which not every word decodes -/

namespace Instruction

variable {w : Word} {i : Instruction Nibble}

theorem eq_skipSame_of_decode? (decoded : decode? w = some i) (family : w.family = 0x5) :
    i = skipSame w.x w.y := by
  rw [decode?, family] at decoded
  exact (Option.some.inj (Option.ite_none_right_eq_some.1 decoded).2).symm

theorem eq_skipDiffer_of_decode? (decoded : decode? w = some i) (family : w.family = 0x9) :
    i = skipDiffer w.x w.y := by
  rw [decode?, family] at decoded
  exact (Option.some.inj (Option.ite_none_right_eq_some.1 decoded).2).symm

theorem asks_of_decode? (decoded : decode? w = some i) (family : w.family = 0xE) :
    w.low = 0x9E ∧ i = skipKey w.x ∨ w.low = 0xA1 ∧ i = skipNoKey w.x := by
  have digit : w.family.val = 0xE := congrArg Fin.val family
  simp only [decode?, digit] at decoded
  split at decoded
  · next low =>
    cases decoded
    exact .inl ⟨UInt8.toNat_inj.1 low, rfl⟩
  · next low =>
    cases decoded
    exact .inr ⟨UInt8.toNat_inj.1 low, rfl⟩
  · cases decoded

end Instruction

/-- **The word decides where a step goes on.** Let `w` be the word of the two bytes
at the program counter `a` and after it, where the first place of memory comes
after the last. If the step is survived, it goes on as the digits of `w` and the
state before it say: at an address, at an address plus V0, at the most recent
return address, two words on if a skip is taken and one word on if it is not, at
the same word while no key is down that it could have waited for, and one word on
after anything else, each modulo the size of memory. A call puts the address one
word on on top of the stack. -/
theorem word_decides_next_pc (m : Machine) (inside : m.pc.toNat ≤ 0xFFF)
    (survives : m.step.Survives) :
    let a := m.pc.toNat
    let w := Word.ofBytes (m.memory.byteAt (.wrap a)) (m.memory.byteAt (.wrap (a + 1)))
    let next := m.step.state.pc.toNat
    m.fetch = .ok w ∧
    (w.family = 0x1 → next = w.toNat % 0x1000) ∧
    (w.family = 0x2 → next = w.toNat % 0x1000 ∧
      ∃ back, m.step.state.stack.toList = m.stack.toList ++ [back] ∧
        back.toNat = (a + 2) % 4096) ∧
    (w.family = 0xB → next = (w.toNat % 0x1000 + (m.reg 0).toNat) % 4096) ∧
    (w = 0x00EE → m.stack.toList.getLast? = some m.step.state.pc) ∧
    (w.family = 0x3 → next = (a + if m.reg w.x = w.low then 4 else 2) % 4096) ∧
    (w.family = 0x4 → next = (a + if m.reg w.x ≠ w.low then 4 else 2) % 4096) ∧
    (w.family = 0x5 → next = (a + if m.reg w.x = m.reg w.y then 4 else 2) % 4096) ∧
    (w.family = 0x9 → next = (a + if m.reg w.x ≠ m.reg w.y then 4 else 2) % 4096) ∧
    (w.family = 0xE → w.low = 0x9E → ∀ key : Nibble, m.reg w.x = key.toByte →
      next = (a + if m.keypad.holds key then 4 else 2) % 4096) ∧
    (w.family = 0xE → w.low = 0xA1 → ∀ key : Nibble, m.reg w.x = key.toByte →
      next = (a + if !m.keypad.holds key then 4 else 2) % 4096) ∧
    (w.family = 0xE → 15 < (m.reg w.x).toNat → next = (a + 2) % 4096) ∧
    (w.family = 0xF → w.low = 0x0A → (∀ key, m.keypad.holds key = false) → next = a) ∧
    (w.family = 0xF → w.low = 0x0A → (∃ key, m.keypad.holds key = true) →
      next = (a + 2) % 4096) ∧
    (w.family.val ∉ [0x1, 0x2, 0x3, 0x4, 0x5, 0x9, 0xB, 0xE] → w ≠ 0x00EE →
      ¬ (w.family = 0xF ∧ w.low = 0x0A) → next = (a + 2) % 4096) := by
  intro a w next
  have below : m.pc.toNat < 4096 := Nat.lt_succ_of_le inside
  obtain ⟨i, current, _⟩ := Machine.step_of_survives below survives
  have decoded : Instruction.decode? w = some i := (Machine.current?_eq_some_iff.1 current).2
  -- the digits of most families are enough to know the instruction
  have means {j : Instruction Nibble} (decoded : Instruction.decode? w = some j) :
      m.current? = some j := Machine.current?_eq_some_iff.2 ⟨below, decoded⟩
  refine ⟨Machine.fetch_of_lt below, ?jump, ?call, ?offset, ?ret, ?eq, ?ne, ?same, ?differ, ?key,
    ?noKey, ?large, ?waits, ?ends, ?other⟩
  case jump =>
    intro family
    have current := means (j := .jump w.address) (by rw [Instruction.decode?, family]; rfl)
    rw [← Word.toNat_address, ← Machine.pc_step_jump survives current]
  case call =>
    intro family
    have current := means (j := .call w.address) (by rw [Instruction.decode?, family]; rfl)
    obtain ⟨pc, pushed⟩ := Machine.pc_step_call survives current
    rw [← Word.toNat_address, ← pc]
    exact ⟨rfl, _, pushed, Machine.toNat_addressAfter m.pc⟩
  case offset =>
    intro family
    have current := means (j := .jumpOffset w.address) (by rw [Instruction.decode?, family]; rfl)
    rw [← Word.toNat_address, ← Machine.toNat_pc_step_jumpOffset survives current]
  case ret =>
    intro word
    exact Machine.getLast?_of_ret survives (means (by rw [word]; decide))
  case eq =>
    intro family
    have current := means (j := .skipEq w.x w.low) (by rw [Instruction.decode?, family]; rfl)
    have moved := Machine.toNat_pc_step_of_moves survives current (Machine.pc_execute _ _)
    simpa only [Machine.skips, decide_eq_true_eq] using moved
  case ne =>
    intro family
    have current := means (j := .skipNe w.x w.low) (by rw [Instruction.decode?, family]; rfl)
    have moved := Machine.toNat_pc_step_of_moves survives current (Machine.pc_execute _ _)
    simpa only [Machine.skips, decide_eq_true_eq] using moved
  case same =>
    intro family
    obtain rfl := Instruction.eq_skipSame_of_decode? decoded family
    have moved := Machine.toNat_pc_step_of_moves survives current (Machine.pc_execute _ _)
    simpa only [Machine.skips, decide_eq_true_eq] using moved
  case differ =>
    intro family
    obtain rfl := Instruction.eq_skipDiffer_of_decode? decoded family
    have moved := Machine.toNat_pc_step_of_moves survives current (Machine.pc_execute _ _)
    simpa only [Machine.skips, decide_eq_true_eq] using moved
  case key =>
    intro family low key named
    obtain ⟨_, rfl⟩ | ⟨other, _⟩ := Instruction.asks_of_decode? decoded family
    · rw [← Machine.skips_skipKey named]
      exact Machine.toNat_pc_step_of_moves survives current (Machine.pc_execute _ _)
    · cases low.symm.trans other
  case noKey =>
    intro family low key named
    obtain ⟨other, _⟩ | ⟨_, rfl⟩ := Instruction.asks_of_decode? decoded family
    · cases low.symm.trans other
    · rw [← Machine.skips_skipNoKey named]
      exact Machine.toNat_pc_step_of_moves survives current (Machine.pc_execute _ _)
  case large =>
    intro family large
    obtain ⟨_, rfl⟩ | ⟨_, rfl⟩ := Instruction.asks_of_decode? decoded family
    · have moved := Machine.toNat_pc_step_of_moves survives current (Machine.pc_execute _ _)
      rwa [Machine.skips_of_large large (.inl rfl)] at moved
    · have moved := Machine.toNat_pc_step_of_moves survives current (Machine.pc_execute _ _)
      rwa [Machine.skips_of_large large (.inr rfl)] at moved
  case waits =>
    intro family low up
    have current := means (j := .awaitKey w.x) (by rw [Instruction.decode?, family, low]; rfl)
    have nobody := m.keypad.first?_eq_none_iff.2 up
    exact congrArg UInt16.toNat ((Machine.pc_step_awaitKey survives current).trans (if_pos nobody))
  case ends =>
    rintro family low ⟨key, down⟩
    have current := means (j := .awaitKey w.x) (by rw [Instruction.decode?, family, low]; rfl)
    have somebody : ¬ m.keypad.first? = none := by
      intro nobody
      rw [m.keypad.first?_eq_none_iff.1 nobody key] at down
      cases down
    rw [← Machine.toNat_addressAfter]
    exact congrArg UInt16.toNat
      ((Machine.pc_step_awaitKey survives current).trans (if_neg somebody))
  case other =>
    intro family back wait
    have digit := (Instruction.fits_of_decode? decoded).family
    have encoded := Instruction.encode_of_decode? decoded
    cases i with
    | ret => exact absurd encoded.symm back
    | awaitKey x =>
      have word : Word.ofConstant 0xF x 0x0A = w := encoded
      rw [← word, Word.family_ofConstant, Word.low_ofConstant] at wait
      exact absurd ⟨rfl, rfl⟩ wait
    | jump | call | skipEq | skipNe | skipSame | skipDiffer | jumpOffset | skipKey | skipNoKey =>
      rw [digit] at family
      simp [Instruction.form] at family
    | _ => exact Machine.toNat_pc_step_of_moves survives current (Machine.pc_execute _ _)

/-- A skip over a key that is down, at a word that begins in the last byte of
memory and ends in the first. -/
theorem word_decides_next_pc_across_end :
    let memory := (Memory.blank.put 0xFFF 0xE1).put 0x000 0x9E
    let m := { (Machine.ofSeed 8).setReg 0x1 0x5 with
      memory, pc := 0xFFF, keypad := Keypad.released.move 0x5 true }
    m.pc.toNat ≤ 0xFFF ∧ m.step.Survives ∧ m.step.state.pc.toNat = 0x003 := by
  intro memory m
  have inside : m.pc.toNat ≤ 0xFFF := by decide
  have survives : m.step.Survives := by decide +kernel
  obtain ⟨_, _, _, _, _, _, _, _, _, key, _⟩ := word_decides_next_pc m inside survives
  have next := key (by decide +kernel) (by decide +kernel) 0x5 (by decide +kernel)
  exact ⟨inside, survives, next.trans (by decide +kernel)⟩

end Chip8
