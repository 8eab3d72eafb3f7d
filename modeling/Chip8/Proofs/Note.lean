import Chip8.Proofs.Operations
import Chip8.Proofs.Step
import Chip8.Proofs.Unseen

/-!
# The note on the display

The note that the screen was drawn on concerns whoever shows it. Nothing else
reads it: machines that differ at most in the note (`SameButNote`) have the
same outcomes and stay so (`unseen_sameButNote`). And it can be relied upon:
apart from the one operation that takes it off, whatever leaves a machine
without the note has left its screen alone (`noted_perform?`).
-/

namespace Chip8

/-- How a display may go on from another without a change being missed: it
bears the note, or nothing has happened to it. -/
def Display.Noted (before after : Display) : Prop := after.dirty = true ∨ after = before

theorem Display.Noted.trans {a b c : Display} (first : a.Noted b) (second : b.Noted c) :
    a.Noted c := by
  rcases second with dirty | rfl
  · exact .inl dirty
  · exact first

namespace Machine

variable {m n : Machine} {i : Instruction Nibble} {op : Operation}

/-! ## Nothing reads the note -/

/-- The second machine is the first one, possibly with another note on the
display. -/
def SameButNote (m n : Machine) : Prop :=
  ∃ dirty, n = { m with display := { m.display with dirty } }

theorem SameButNote.refl (m : Machine) : m.SameButNote m := ⟨m.display.dirty, rfl⟩

/-- Taking the note off makes no difference. -/
theorem SameButNote.thenShown (same : m.SameButNote n) :
    m.SameButNote { n with display := n.display.shown } := by
  obtain ⟨dirty, rfl⟩ := same
  exact ⟨false, rfl⟩

theorem SameButNote.moved (same : m.SameButNote n) (pc : UInt16) :
    SameButNote { m with pc } { n with pc } := by
  obtain ⟨dirty, rfl⟩ := same
  exact ⟨dirty, rfl⟩

theorem SameButNote.withKeys (same : m.SameButNote n) (keypad : Keypad) :
    SameButNote { m with keypad } { n with keypad } := by
  obtain ⟨dirty, rfl⟩ := same
  exact ⟨dirty, rfl⟩

theorem SameButNote.tickTimers (same : m.SameButNote n) :
    m.tickTimers.SameButNote n.tickTimers := by
  obtain ⟨dirty, rfl⟩ := same
  exact ⟨dirty, rfl⟩

/-- Clearing and drawing set the note on both machines, and any other
instruction carries it along unseen. -/
theorem SameButNote.execute (same : m.SameButNote n) (i : Instruction Nibble) :
    (m.execute i).Rel SameButNote (n.execute i) := by
  obtain ⟨dirty, rfl⟩ := same
  cases i with
  | clearScreen => exact ⟨rfl, rfl, true, rfl⟩
  | draw =>
      simp only [Machine.execute, spriteAt_eq, executed, setFlag, setReg]
      exact ⟨rfl, rfl, true, rfl⟩
  | ret =>
      simp only [Machine.execute]
      cases m.stack.pop? <;> exact ⟨rfl, rfl, dirty, rfl⟩
  | call target =>
      simp only [Machine.execute]
      cases m.stack.push? m.pc <;> exact ⟨rfl, rfl, dirty, rfl⟩
  | skipEq | skipNe | skipSame | skipDiffer =>
      simp only [Machine.execute, skipIf_eq]
      exact ⟨rfl, rfl, dirty, rfl⟩
  | skipKey x | skipNoKey x =>
      have key : reg { m with display := { m.display with dirty } } x = m.reg x := rfl
      simp only [Machine.execute, skipIf_eq, key]
      cases m.keypad.isPressed (m.reg x) <;> exact ⟨rfl, rfl, dirty, rfl⟩
  | awaitKey x =>
      simp only [Machine.execute]
      cases m.keypad.first? <;> exact ⟨rfl, rfl, dirty, rfl⟩
  | storeDecimal | storeRegs | loadRegs =>
      simp only [Machine.execute, store_eq, loadEach_eq, executed]
      exact ⟨rfl, rfl, dirty, rfl⟩
  | _ => exact ⟨rfl, rfl, dirty, rfl⟩

theorem unseen_sameButNote : Unseen SameButNote where
  memory same := by obtain ⟨dirty, rfl⟩ := same; rfl
  pc same := by obtain ⟨dirty, rfl⟩ := same; rfl
  sound same := by obtain ⟨dirty, rfl⟩ := same; rfl
  keypad same := by obtain ⟨dirty, rfl⟩ := same; rfl
  moved pc same := same.moved pc
  tickTimers same := same.tickTimers
  execute i same := same.execute i

/-! ## No change goes without it -/

theorem noted_execute (m : Machine) (i : Instruction Nibble) :
    m.display.Noted (m.execute i).state.display := by
  rw [display_execute]
  cases i with
  | clearScreen | draw => exact .inl rfl
  | _ => exact .inr rfl

theorem noted_step (m : Machine) : m.display.Noted m.step.state.display := by
  cases m.step_cases with
  | nowhere past eq => rw [eq]; exact .inr rfl
  | unknown inside undecoded eq => rw [eq]; exact .inr rfl
  | undone i fault current refusal fatal eq => rw [eq]; exact .inr rfl
  | passed i fault current refusal mild eq => rw [eq]; exact .inr rfl
  | carried i progress current ok eq => rw [eq]; exact noted_execute m.advance i

theorem noted_executeWritten? {written : Instruction UInt8} {e : Effect Machine Progress}
    (does : m.executeWritten? written = some e) : m.display.Noted e.state.display := by
  rw [executeWritten?, Option.map_eq_some_iff] at does
  obtain ⟨i, _, rfl⟩ := does
  exact noted_execute m i

theorem noted_executeAll? {all : List (Instruction UInt8)} {e : Effect Machine Unit}
    (does : m.executeAll? all = some e) : m.display.Noted e.state.display := by
  have kept (n : Machine) (i : Instruction UInt8) (e : Effect Machine Progress) (_ : True)
      (noted : m.display.Noted n.display) (does : n.executeWritten? i = some e) :
      m.display.Noted e.state.display := noted.trans (noted_executeWritten? does)
  exact keeps_executeAll? (P := fun n => m.display.Noted n.display) kept (.inr rfl)
    (fun _ _ => trivial) does

/-- Only taking the note off can leave a machine that was drawn on without
it. -/
theorem noted_perform? {e : Effect Machine Answer} (unmarked : op ≠ .markShown)
    (does : m.perform? op = some e) : m.display.Noted e.state.display := by
  cases op with
  | load program =>
      obtain ⟨_, _, _, effect⟩ := m.perform?_load program
      rw [effect] at does
      cases does
      exact .inr rfl
  | step => cases does; exact noted_step m
  | execute written =>
      simp only [perform?, Option.map_eq_some_iff] at does
      obtain ⟨first, did, rfl⟩ := does
      exact noted_executeWritten? did
  | executeAll all =>
      simp only [perform?, Option.map_eq_some_iff] at does
      obtain ⟨first, did, rfl⟩ := does
      exact noted_executeAll? did
  | executeWord word =>
      cases does
      simp only [Effect.map, executeWord]
      cases Instruction.decode? word with
      | none => exact .inr rfl
      | some i => exact noted_execute m i
  | setKey key isDown =>
      rw [perform?_setKey] at does
      cases does
      exact .inr rfl
  | releaseKeys => cases does; exact .inr rfl
  | reset | coldReset | draw | wipe => cases does; exact .inl rfl
  | markShown => exact absurd rfl unmarked

end Machine

end Chip8
