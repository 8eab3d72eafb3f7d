import Chip8.Machine.Run
import Chip8.Proofs.Atomicity
import Chip8.Proofs.Ticks
import Chip8.Proofs.Unseen

/-!
# Runs of a machine

A run that has not ended attempts one more step each time it is advanced, and
ends with the first fatal fault (`attempts_record`, `stopped_record`). So it
attempts as many steps as it may, or fewer if it has ended (`run_steps`).

What the random numbers of a machine are can only be told by drawing one. The
runs of two machines that differ in nothing else are the same as long as the
first one does not draw (`SameButRandom.run`).
-/

namespace Chip8

namespace Run

variable {r x y : Run} {e f : Effect Machine Step} {fault : Fault}

/-! ## Counting steps -/

theorem machine_record (r : Run) (e : Effect Machine Step) : (r.record e).machine = e.state := by
  unfold record
  cases e.outcome with
  | ok s => rfl
  | error fault => cases fault <;> rfl

theorem stopped_record (going : r.stopped = none) :
    (r.record e).stopped = Host.fatalOf e.outcome := by
  unfold record Host.fatalOf
  cases e.outcome with
  | ok s => exact going
  | error fault =>
      cases fatal : fault.isFatal with
      | true => simp only [fatal, if_true]
      | false => simp only [fatal, going, Bool.false_eq_true, if_false]

/-- Every outcome is counted once: as completed, as passed over or as the end. -/
theorem attempts_record (going : r.stopped = none) : (r.record e).attempts = r.attempts + 1 := by
  unfold record attempts
  rw [going]
  cases e.outcome with
  | ok s =>
      simp only [Option.isSome_none, Bool.toNat_false]
      omega
  | error fault =>
      cases fatal : fault.isFatal with
      | true =>
          simp only [fatal, if_true]
          rfl
      | false =>
          simp only [fatal, Bool.false_eq_true, if_false, Option.isSome_none, Bool.toNat_false]
          omega

theorem advance_of_going (going : r.stopped = none) : r.advance = r.record r.machine.step := by
  simp only [advance, going]

theorem go_of_stopped (stopped : r.stopped = some fault) (n : Nat) : r.go n = r := by
  cases n with
  | zero => rfl
  | succ n => simp only [go, stopped]

theorem go_succ_of_going (going : r.stopped = none) (n : Nat) :
    r.go (n + 1) = (r.record r.machine.step).go n := by
  simp only [go, going, advance_of_going going]

/-- A run steps its machine once an attempt, and makes as many attempts as it
may unless it has ended. -/
theorem go_steps (r : Run) (n : Nat) :
    ∃ k ≤ n, (r.go n).machine = r.machine.steps k ∧ (r.go n).attempts = r.attempts + k ∧
      ((r.go n).stopped = none → k = n) := by
  induction n generalizing r with
  | zero => exact ⟨0, Nat.le_refl 0, rfl, rfl, fun _ => rfl⟩
  | succ n ih =>
      cases stopped : r.stopped with
      | some fault =>
          rw [go_of_stopped stopped]
          refine ⟨0, Nat.zero_le _, rfl, rfl, ?_⟩
          intro going
          rw [stopped] at going
          cases going
      | none =>
          obtain ⟨k, bound, machine, count, all⟩ := ih (r.record r.machine.step)
          rw [attempts_record stopped] at count
          rw [machine_record] at machine
          rw [go_succ_of_going stopped]
          refine ⟨k + 1, Nat.succ_le_succ bound, machine, ?_, ?_⟩
          · rw [count]
            omega
          · intro going
            rw [all going]

/-- Runs with the same counts, the same end and the same log, of machines that
are related. -/
structure Rel (r : Machine → Machine → Prop) (x y : Run) : Prop where
  machine : r x.machine y.machine
  rest : y = { x with machine := y.machine }

theorem Rel.record {r : Machine → Machine → Prop} (related : x.Rel r y) (same : e.Rel r f) :
    (x.record e).Rel r (y.record f) := by
  constructor
  · rw [machine_record, machine_record]
    exact same.state
  · rw [machine_record, related.rest]
    simp only [Run.record, same.outcome, same.log]
    cases f.outcome with
    | ok s => rfl
    | error fault => cases fault <;> rfl

end Run

namespace Machine

variable {m n : Machine} {i : Instruction Nibble}

/-- The steps that a run attempts are those that its machine has made. -/
theorem run_steps (m : Machine) (n : Nat) :
    (m.run n).machine = m.steps (m.run n).attempts ∧ (m.run n).attempts ≤ n ∧
      ((m.run n).stopped = none → (m.run n).attempts = n) := by
  obtain ⟨k, bound, machine, count, all⟩ := (Run.start m).go_steps n
  have attempts : (m.run n).attempts = k := count.trans (Nat.zero_add k)
  rw [attempts]
  exact ⟨machine, bound, all⟩

/-! ## Machines that differ in their random numbers -/

/-- The second machine is the first one, possibly with other random numbers. -/
def SameButRandom (m n : Machine) : Prop := ∃ random, n = { m with random }

theorem SameButRandom.execute (same : m.SameButRandom n) (i : Instruction Nibble)
    (certain : ∀ x mask, i ≠ .random x mask) : (m.execute i).Rel SameButRandom (n.execute i) := by
  obtain ⟨random, rfl⟩ := same
  cases i with
  | random x mask => exact absurd rfl (certain x mask)
  | draw =>
      simp only [Machine.execute, spriteAt_eq, executed, setFlag, setReg]
      exact ⟨rfl, rfl, random, rfl⟩
  | ret =>
      simp only [Machine.execute]
      cases m.stack.pop? <;> exact ⟨rfl, rfl, random, rfl⟩
  | call target =>
      simp only [Machine.execute]
      cases m.stack.push? m.pc <;> exact ⟨rfl, rfl, random, rfl⟩
  | skipEq | skipNe | skipSame | skipDiffer =>
      simp only [Machine.execute, skipIf_eq]
      exact ⟨rfl, rfl, random, rfl⟩
  | skipKey x | skipNoKey x =>
      have key : reg { m with random } x = m.reg x := rfl
      simp only [Machine.execute, skipIf_eq, key]
      cases m.keypad.isPressed (m.reg x) <;> exact ⟨rfl, rfl, random, rfl⟩
  | awaitKey x =>
      simp only [Machine.execute]
      cases m.keypad.first? <;> exact ⟨rfl, rfl, random, rfl⟩
  | storeDecimal | storeRegs | loadRegs =>
      simp only [Machine.execute, store_eq, loadEach_eq, executed]
      exact ⟨rfl, rfl, random, rfl⟩
  | _ => exact ⟨rfl, rfl, random, rfl⟩

theorem unseenAround_sameButRandom : UnseenAround SameButRandom where
  memory same := by obtain ⟨random, rfl⟩ := same; rfl
  pc same := by obtain ⟨random, rfl⟩ := same; rfl
  sound same := by obtain ⟨random, rfl⟩ := same; rfl
  moved pc same := by obtain ⟨random, rfl⟩ := same; exact ⟨random, rfl⟩
  tickTimers same := by obtain ⟨random, rfl⟩ := same; exact ⟨random, rfl⟩

/-- None of some steps gets as far as drawing a random number. -/
def Undrawn (m : Machine) (n : Nat) : Prop :=
  ∀ k < n, ∀ x mask, (m.steps k).current? ≠ some (.random x mask)

theorem Undrawn.later {n : Nat} (undrawn : m.Undrawn (n + 1)) : m.step.state.Undrawn n :=
  fun k inside => undrawn (k + 1) (Nat.succ_lt_succ inside)

theorem SameButRandom.step (same : m.SameButRandom n) (undrawn : m.Undrawn 1) :
    m.step.Rel SameButRandom n.step := by
  apply unseenAround_sameButRandom.step same
  intro i current
  apply SameButRandom.execute (unseenAround_sameButRandom.advance same)
  rintro x mask rfl
  exact undrawn 0 Nat.one_pos x mask current

end Machine

theorem Run.Rel.go {x y : Run} (related : x.Rel Machine.SameButRandom y) (n : Nat)
    (undrawn : x.machine.Undrawn n) : (x.go n).Rel Machine.SameButRandom (y.go n) := by
  induction n generalizing x y with
  | zero => exact related
  | succ n ih =>
      have ends : y.stopped = x.stopped := by rw [related.rest]
      cases stopped : x.stopped with
      | some fault =>
          rw [go_of_stopped stopped, go_of_stopped (ends.trans stopped)]
          exact related
      | none =>
          rw [go_succ_of_going stopped, go_succ_of_going (ends.trans stopped)]
          have first : x.machine.Undrawn 1 :=
            fun k inside => undrawn k (Nat.lt_of_lt_of_le inside (Nat.succ_le_succ n.zero_le))
          have step := related.machine.step first
          apply ih (related.record step)
          rw [machine_record]
          exact undrawn.later

/-- Without a draw, machines run the same whatever their random numbers are. -/
theorem Machine.SameButRandom.run {m n : Machine} (same : m.SameButRandom n) {steps : Nat}
    (undrawn : m.Undrawn steps) : (m.run steps).Rel SameButRandom (n.run steps) :=
  Run.Rel.go (x := .start m) (y := .start n) ⟨same, rfl⟩ steps undrawn

end Chip8
