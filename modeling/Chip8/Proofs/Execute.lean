import Chip8.Machine.Execute
import Chip8.Proofs.Decode

/-!
# What an instruction does

Everything `execute` can come to, said once:

* it is refused, for one of the reasons that `Refusal` lists, and leaves the
  machine as it is (`execute_of_refusal`, `outcome_execute_error_iff`);
* it waits for a key (`execute_awaitKey_of_none`, `outcome_execute_awaiting_iff`);
* it is done.

What it does to the program counter, to the stack, to the display, to the random
numbers, to the timers and to the keypad is one equation for each (`pc_execute`,
`stack_execute`, `parts_execute`), so that no later proof looks at the 35
instructions to learn that most of them leave all of these alone; what it reports
is another (`log_execute`).
-/

namespace Chip8

/-- A byte past fifteen names no nibble, and no other byte fails to. -/
theorem Nibble.ofByte?_eq_none_iff (b : UInt8) : Nibble.ofByte? b = none ↔ 15 < b.toNat := by
  simp only [Nibble.ofByte?, dite_eq_right_iff, reduceCtorEq, imp_false]
  omega

theorem Keypad.isPressed_error_iff (k : Keypad) (b : UInt8) (fault : Fault) :
    k.isPressed b = .error fault ↔ 15 < b.toNat ∧ fault = .invalidKey b := by
  rw [← Nibble.ofByte?_eq_none_iff, Keypad.isPressed]
  cases Nibble.ofByte? b with
  | none => simp [eq_comm]
  | some key => simp

/-- The return addresses in use after an instruction, the most recent one last,
from those before and the program counter: a call adds the program counter
unless there are sixteen, and a return takes the last one off. -/
def Instruction.callsAfter {ρ : Type} (pc : UInt16) (calls : List UInt16) :
    Instruction ρ → List UInt16
  | .ret => calls.dropLast
  | .call _ => if calls.length = 16 then calls else calls ++ [pc]
  | _ => calls

namespace Machine

variable {m : Machine} {i : Instruction Nibble} {fault : Fault}

/-! ## Moving the program counter -/

theorem toNat_addressAfter (pc : UInt16) : (addressAfter pc).toNat = (pc.toNat + 2) % 4096 := by
  simp only [addressAfter, UInt16.toNat_ofNat']
  omega

theorem toNat_addressBefore (pc : UInt16) :
    (addressBefore pc).toNat = (pc.toNat + 4094) % 4096 := by
  simp only [addressBefore, UInt16.toNat_ofNat']
  omega

theorem addressBefore_addressAfter {pc : UInt16} (inside : pc.toNat < 4096) :
    addressBefore (addressAfter pc) = pc := by
  apply UInt16.toNat_inj.1
  rw [toNat_addressBefore, toNat_addressAfter]
  omega

theorem skipIf_eq (m : Machine) (c : Bool) :
    m.skipIf c = { m with pc := if c then addressAfter m.pc else m.pc } := by
  cases c <;> rfl

/-! ## Refusals -/

/-- Why an instruction is refused. -/
inductive Refusal (m : Machine) : Instruction Nibble → Fault → Prop
  | ret : m.stack.toList = [] → Refusal m .ret .stackUnderflow
  | call (target : UInt16) : m.stack.toList.length = 16 →
      Refusal m (.call target) .stackOverflow
  | skipKey (x : Nibble) : 15 < (m.reg x).toNat →
      Refusal m (.skipKey x) (.invalidKey (m.reg x))
  | skipNoKey (x : Nibble) : 15 < (m.reg x).toNat →
      Refusal m (.skipNoKey x) (.invalidKey (m.reg x))

/-- A refused instruction leaves no trace. -/
theorem execute_of_refusal (h : Refusal m i fault) : m.execute i = m.refused fault := by
  cases h with
  | ret hs => simp only [execute, (m.stack.pop?_eq_none_iff).2 hs]
  | call target hs => simp only [execute, (m.stack.push?_eq_none_iff m.pc).2 hs]
  | skipKey x hx =>
      simp only [execute, (m.keypad.isPressed_error_iff (m.reg x) _).2 ⟨hx, rfl⟩]
  | skipNoKey x hx =>
      simp only [execute, (m.keypad.isPressed_error_iff (m.reg x) _).2 ⟨hx, rfl⟩]

/-- The only refusals are those of `Refusal`: the accesses to memory never
fail. -/
theorem refusal_of_outcome (h : (m.execute i).outcome = .error fault) : Refusal m i fault := by
  -- four instructions can be refused; the others end in `executed`, those that
  -- reach memory once their accesses are seen to succeed
  cases i with
  | ret =>
      cases hp : m.stack.pop? with
      | none =>
          simp only [execute, hp, refused, Except.error.injEq] at h
          subst h
          exact .ret ((m.stack.pop?_eq_none_iff).1 hp)
      | some top => simp [execute, hp, executed] at h
  | call target =>
      cases hp : m.stack.push? m.pc with
      | none =>
          simp only [execute, hp, refused, Except.error.injEq] at h
          subst h
          exact .call target ((m.stack.push?_eq_none_iff m.pc).1 hp)
      | some stack => simp [execute, hp, executed] at h
  | skipKey x =>
      cases hk : m.keypad.isPressed (m.reg x) with
      | ok pressed => simp [execute, hk, executed] at h
      | error fault' =>
          simp only [execute, hk, refused, Except.error.injEq] at h
          obtain ⟨hx, hf⟩ := (m.keypad.isPressed_error_iff (m.reg x) fault').1 hk
          rw [← h, hf]
          exact .skipKey x hx
  | skipNoKey x =>
      cases hk : m.keypad.isPressed (m.reg x) with
      | ok pressed => simp [execute, hk, executed] at h
      | error fault' =>
          simp only [execute, hk, refused, Except.error.injEq] at h
          obtain ⟨hx, hf⟩ := (m.keypad.isPressed_error_iff (m.reg x) fault').1 hk
          rw [← h, hf]
          exact .skipNoKey x hx
  | awaitKey x => cases hk : m.keypad.first? <;> simp [execute, hk, executed] at h
  | draw x y n => simp [execute, spriteAt_eq, executed] at h
  | storeDecimal x => simp [execute, store_eq, executed] at h
  | storeRegs x => simp [execute, store_eq, executed] at h
  | loadRegs x => simp [execute, loadEach_eq, executed] at h
  | _ => simp [execute, executed] at h

theorem outcome_execute_error_iff :
    (m.execute i).outcome = .error fault ↔ Refusal m i fault := by
  constructor
  · exact refusal_of_outcome
  · intro h
    rw [execute_of_refusal h]
    rfl

/-! ## Waiting for a key -/

theorem outcome_execute_awaiting_iff :
    (m.execute i).outcome = .ok .awaitingKey ↔
      (∃ x, i = .awaitKey x) ∧ m.keypad.first? = none := by
  constructor
  · intro h
    cases i with
    | awaitKey x =>
        refine ⟨⟨x, rfl⟩, ?_⟩
        cases hk : m.keypad.first? with
        | none => rfl
        | some key => simp [execute, hk, executed] at h
    | ret => cases hp : m.stack.pop? <;> simp [execute, hp, executed, refused] at h
    | call target =>
        cases hp : m.stack.push? m.pc <;> simp [execute, hp, executed, refused] at h
    | skipKey x =>
        cases hk : m.keypad.isPressed (m.reg x) <;> simp [execute, hk, executed, refused] at h
    | skipNoKey x =>
        cases hk : m.keypad.isPressed (m.reg x) <;> simp [execute, hk, executed, refused] at h
    | draw x y n => simp [execute, spriteAt_eq, executed] at h
    | storeDecimal x => simp [execute, store_eq, executed] at h
    | storeRegs x => simp [execute, store_eq, executed] at h
    | loadRegs x => simp [execute, loadEach_eq, executed] at h
    | _ => simp [execute, executed] at h
  · rintro ⟨⟨x, rfl⟩, hk⟩
    rw [execute_awaitKey_of_none x hk]

/-! ## The stack and the program counter -/

theorem stack_execute (m : Machine) (i : Instruction Nibble) :
    (m.execute i).state.stack.toList = i.callsAfter m.pc m.stack.toList := by
  cases i with
  | ret =>
      cases hp : m.stack.pop? with
      | none =>
          have hs := (m.stack.pop?_eq_none_iff).1 hp
          simp only [execute, hp, refused, Instruction.callsAfter, hs, List.dropLast_nil]
      | some top =>
          obtain ⟨target, rest⟩ := top
          simp only [execute, hp, executed, Instruction.callsAfter, CallStack.toList_pop? hp,
            List.dropLast_concat]
  | call target =>
      cases hp : m.stack.push? m.pc with
      | none =>
          have hs := (m.stack.push?_eq_none_iff m.pc).1 hp
          simp only [execute, hp, refused, Instruction.callsAfter, if_pos hs]
      | some stack =>
          have hs : ¬ m.stack.toList.length = 16 := by
            rw [← m.stack.push?_eq_none_iff m.pc, hp]
            simp
          simp only [execute, hp, executed, Instruction.callsAfter, if_neg hs,
            CallStack.toList_push? hp]
  | skipKey x =>
      cases hk : m.keypad.isPressed (m.reg x) <;>
        simp only [execute, hk, executed, refused, skipIf_eq, Instruction.callsAfter]
  | skipNoKey x =>
      cases hk : m.keypad.isPressed (m.reg x) <;>
        simp only [execute, hk, executed, refused, skipIf_eq, Instruction.callsAfter]
  | awaitKey x =>
      cases hk : m.keypad.first? <;>
        simp only [execute, hk, executed, setReg, Instruction.callsAfter]
  | _ =>
      simp only [execute, executed, setReg, setFlag, skipIf_eq, spriteAt_eq, store_eq,
        loadEach_eq, Instruction.callsAfter]

/-- Whether an instruction is a skip whose condition holds. -/
def skips (m : Machine) : Instruction Nibble → Bool
  | .skipEq x k => m.reg x = k
  | .skipNe x k => m.reg x ≠ k
  | .skipSame x y => m.reg x = m.reg y
  | .skipDiffer x y => m.reg x ≠ m.reg y
  | .skipKey x => (Nibble.ofByte? (m.reg x)).elim false m.keypad.holds
  | .skipNoKey x => (Nibble.ofByte? (m.reg x)).elim false (!m.keypad.holds ·)
  | _ => false

/-- The program counter after an instruction, in terms of the one that is past
it already. -/
theorem pc_execute (m : Machine) (i : Instruction Nibble) :
    (m.execute i).state.pc =
      match i with
      | .ret => m.stack.toList.getLast?.getD m.pc
      | .jump target => target
      | .call target => if m.stack.toList.length = 16 then m.pc else target
      | .jumpOffset target => UInt16.ofNat ((target.toNat + (m.reg 0).toNat) % 4096)
      | .awaitKey _ => if m.keypad.first? = none then addressBefore m.pc else m.pc
      | _ => if m.skips i then addressAfter m.pc else m.pc := by
  cases i with
  | ret =>
      cases hp : m.stack.pop? with
      | none =>
          have hs := (m.stack.pop?_eq_none_iff).1 hp
          simp only [execute, hp, refused, hs, List.getLast?_nil, Option.getD_none]
      | some top =>
          obtain ⟨target, rest⟩ := top
          simp only [execute, hp, executed, CallStack.toList_pop? hp, List.getLast?_concat,
            Option.getD_some]
  | call target =>
      cases hp : m.stack.push? m.pc with
      | none =>
          have hs := (m.stack.push?_eq_none_iff m.pc).1 hp
          simp only [execute, hp, refused, if_pos hs]
      | some stack =>
          have hs : ¬ m.stack.toList.length = 16 := by
            rw [← m.stack.push?_eq_none_iff m.pc, hp]
            simp
          simp only [execute, hp, executed, if_neg hs]
  | skipKey x =>
      cases hk : Nibble.ofByte? (m.reg x) <;>
        simp [execute, Keypad.isPressed, skips, hk, refused, executed, skipIf_eq]
  | skipNoKey x =>
      cases hk : Nibble.ofByte? (m.reg x) <;>
        simp [execute, Keypad.isPressed, skips, hk, refused, executed, skipIf_eq]
  | awaitKey x =>
      cases hk : m.keypad.first? <;> simp [execute, hk, executed, setReg]
  | draw | storeDecimal | storeRegs | loadRegs =>
      simp [execute, executed, setReg, setFlag, spriteAt_eq, store_eq, loadEach_eq, skips]
  | _ => simp [execute, executed, setReg, setFlag, skipIf_eq, skips]

/-! ## The display, the random numbers, the timers and the keypad -/

/-- Each of these parts is changed by two instructions at most, and left alone by
all others. -/
theorem parts_execute (m : Machine) (i : Instruction Nibble) :
    (m.execute i).state.display = (match i with
      | .clearScreen => .wiped
      | .draw x y n =>
        m.display.draw (m.reg x).toNat (m.reg y).toNat (m.memory.slice m.index.toNat n.val)
      | _ => m.display) ∧
    (m.execute i).state.random = (match i with
      | .random _ _ => m.random.next
      | _ => m.random) ∧
    (m.execute i).state.sound = (match i with
      | .setSound x => m.reg x
      | _ => m.sound) ∧
    (m.execute i).state.delay = (match i with
      | .setDelay x => m.reg x
      | _ => m.delay) ∧
    (m.execute i).state.keypad = m.keypad := by
  cases i with
  | ret =>
      cases hp : m.stack.pop? <;> simp only [execute, hp, executed, refused, and_self]
  | call target =>
      cases hp : m.stack.push? m.pc <;> simp only [execute, hp, executed, refused, and_self]
  | skipKey x | skipNoKey x =>
      cases hk : m.keypad.isPressed (m.reg x) <;>
        simp only [execute, hk, executed, refused, skipIf_eq, and_self]
  | awaitKey x =>
      cases hk : m.keypad.first? <;> simp only [execute, hk, executed, setReg, and_self]
  | _ =>
      simp only [execute, executed, setReg, setFlag, skipIf_eq, spriteAt_eq, store_eq,
        loadEach_eq, and_self]

theorem display_execute (m : Machine) (i : Instruction Nibble) :
    (m.execute i).state.display =
      match i with
      | .clearScreen => .wiped
      | .draw x y n =>
        m.display.draw (m.reg x).toNat (m.reg y).toNat (m.memory.slice m.index.toNat n.val)
      | _ => m.display :=
  (m.parts_execute i).1

theorem random_execute (m : Machine) (i : Instruction Nibble) :
    (m.execute i).state.random =
      match i with
      | .random _ _ => m.random.next
      | _ => m.random :=
  (m.parts_execute i).2.1

theorem sound_execute (m : Machine) (i : Instruction Nibble) :
    (m.execute i).state.sound =
      match i with
      | .setSound x => m.reg x
      | _ => m.sound :=
  (m.parts_execute i).2.2.1

theorem delay_execute (m : Machine) (i : Instruction Nibble) :
    (m.execute i).state.delay =
      match i with
      | .setDelay x => m.reg x
      | _ => m.delay :=
  (m.parts_execute i).2.2.2.1

theorem keypad_execute (m : Machine) (i : Instruction Nibble) :
    (m.execute i).state.keypad = m.keypad :=
  (m.parts_execute i).2.2.2.2

/-- The one instruction that is remarked on is the one that does nothing. -/
theorem log_execute (m : Machine) (i : Instruction Nibble) :
    (m.execute i).log =
      match i with
      | .sys target => [.ignoredRoutine target]
      | _ => [] := by
  cases i with
  | ret => cases hp : m.stack.pop? <;> simp only [execute, hp, executed, refused]
  | call target => cases hp : m.stack.push? m.pc <;> simp only [execute, hp, executed, refused]
  | skipKey x | skipNoKey x =>
      cases hk : m.keypad.isPressed (m.reg x) <;> simp only [execute, hk, executed, refused]
  | awaitKey x => cases hk : m.keypad.first? <;> simp only [execute, hk, executed]
  | _ => simp only [execute, executed, spriteAt_eq, store_eq, loadEach_eq]

/-! ## Written by hand -/

/-- Written down by hand, an instruction that the machine can carry out is
carried out as it is. -/
theorem executeWritten?_widen (m : Machine) (i : Instruction Nibble) :
    m.executeWritten? i.widen = some (m.execute i) := by
  have same : i.widen.narrow? = some i := Instruction.narrow?_widen i
  cases i with
  | awaitKey x =>
      cases hk : m.keypad.first? with
      | none =>
          have resolved : m.resolve? (Instruction.awaitKey x).widen = some (.awaitKey 0) := by
            simp [resolve?, Instruction.widen, Instruction.map, hk]
          rw [executeWritten?, resolved, Option.map_some, execute_awaitKey_of_none 0 hk,
            execute_awaitKey_of_none x hk]
      | some key =>
          have resolved : m.resolve? (Instruction.awaitKey x).widen = some (.awaitKey x) := by
            rw [← same]
            simp [resolve?, Instruction.widen, Instruction.map, hk]
          rw [executeWritten?, resolved, Option.map_some]
  | _ => exact congrArg (Option.map m.execute) same

end Machine

end Chip8
