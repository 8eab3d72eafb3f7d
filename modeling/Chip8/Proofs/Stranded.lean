import Chip8.Proofs.Atomicity

/-!
# Past the end of memory

In memory, a step that fails without being fatal has left its instruction
behind. Past the end of memory there is no instruction to leave: the step
fails because nothing can be fetched, which is not fatal either, and the
machine stays where it is. Whoever carries on meets the same fault at every
step (`stranded_history?`). Only a jump or a call written by hand leads there.
-/

namespace Chip8

/-- An operation that whoever runs a program has use for. It does not start
the machine over, and it carries no instruction out by hand. -/
def Operation.Onward : Operation → Prop
  | .reset | .coldReset | .execute _ | .executeAll _ | .executeWord _ => False
  | _ => True

namespace Machine

variable {m n k : Machine} {op : Operation} {ops : List Operation} {e : Effect Machine Answer}

/-- The second machine is where the first one was, and as late. -/
structure Stayed (m n : Machine) : Prop where
  pc : n.pc = m.pc
  delay : n.delay = m.delay
  sound : n.sound = m.sound

theorem Stayed.refl (m : Machine) : m.Stayed m := ⟨rfl, rfl, rfl⟩

theorem Stayed.trans (first : m.Stayed n) (second : n.Stayed k) : m.Stayed k :=
  ⟨second.pc.trans first.pc, second.delay.trans first.delay, second.sound.trans first.sound⟩

/-- A machine past the end of memory is stranded: only a step would take it on,
and nothing can be fetched. -/
theorem stranded_perform? (past : 4096 ≤ m.pc.toNat) (onward : op.Onward)
    (does : m.perform? op = some e) :
    m.Stayed e.state ∧ (op = .step → e.outcome = .error (.outOfBounds m.pc.toNat)) := by
  cases op with
  | load program =>
      obtain ⟨_, _, _, effect⟩ := m.perform?_load program
      rw [effect] at does
      cases does
      exact ⟨⟨rfl, rfl, rfl⟩, nofun⟩
  | step =>
      cases does
      rw [step_of_le past]
      exact ⟨.refl m, fun _ => rfl⟩
  | setKey key isDown =>
      rw [perform?_setKey] at does
      cases does
      exact ⟨⟨rfl, rfl, rfl⟩, nofun⟩
  | releaseKeys | draw | wipe | markShown => cases does; exact ⟨⟨rfl, rfl, rfl⟩, nofun⟩
  | reset | coldReset | execute | executeAll | executeWord => exact onward.elim

/-- A stranded machine stays so, and every step has the same fault. -/
theorem stranded_history? (past : 4096 ≤ m.pc.toNat) (onward : ∀ op ∈ ops, op.Onward) :
    ∃ later, m.history? ops = some later ∧
      ∀ x ∈ later, m.Stayed x.after ∧
        (x.operation = .step → x.effect.outcome = .error (.outOfBounds m.pc.toNat)) := by
  have does : ∀ m op, Operation.Onward op → ∃ e, Machine.perform? m op = some e := by
    intro m op onward
    refine m.exists_perform?_unless_written ?_
    cases op with
    | execute | executeAll => exact onward.elim
    | _ => rfl
  obtain ⟨later, run⟩ := exists_history? does m onward
  have beyond {n : Machine} (stayed : m.Stayed n) : 4096 ≤ n.pc.toNat := by rwa [stayed.pc]
  have kept : ∀ n op e, Operation.Onward op → m.Stayed n → n.perform? op = some e →
      m.Stayed e.state := fun n op e onward stayed does =>
    stayed.trans (stranded_perform? (beyond stayed) onward does).1
  obtain ⟨all, _⟩ := forall_history? kept (.refl m) onward run
  refine ⟨later, run, ?_⟩
  intro x hx
  obtain ⟨allowed, does, before, after⟩ := all x hx
  refine ⟨after, ?_⟩
  rw [← before.pc]
  exact (stranded_perform? (beyond before) allowed does).2

/-! ## Where a fault is left behind -/

theorem inBounds_atEnd {random : Generator} {history : List Moment}
    (lands : ∀ op ∈ ops, op.Lands) (run : (new random).history? ops = some history) :
    ((new random).atEnd history).InBounds := by
  have kept : ∀ m op e, Operation.Lands op → Machine.InBounds m → m.perform? op = some e →
      e.state.InBounds := fun m op e lands bounds does => bounds.perform_of_lands lands does
  have start : (new random).InBounds := inBounds_withMemory .fresh random
  exact (forall_history? kept start lands run).2

/-- A step that is passed over has moved on, and time has passed, if there was
an instruction to move on from. -/
theorem countedDown_step_iff {fault : Fault} (failed : m.step.outcome = .error fault)
    (mild : fault.isFatal = false) :
    CountedDown { m with pc := UInt16.ofNat ((m.pc.toNat + 2) % 4096) } m.step.state ↔
      m.pc.toNat < 4096 := by
  rcases step_of_mild failed mild with ⟨past, stays⟩ | ⟨i, current, _, eq⟩
  · constructor
    · intro counted
      have moved : m.step.state.pc = UInt16.ofNat ((m.pc.toNat + 2) % 4096) :=
        congrArg Machine.pc counted.rest
      rw [stays] at moved
      rw [moved, UInt16.toNat_ofNat']
      omega
    · intro inside
      omega
  · have inside := (current?_eq_some_iff.1 current).1
    rw [eq]
    exact iff_of_true (countedDown_tickTimers m.advance) inside

end Machine

/-- **A fault is left behind in memory, and nowhere else.** Whatever was done
to a machine, a step of it with a fault that is not fatal goes on to the next
word, which may be at the beginning of memory, and counts both timers down,
exactly when the program counter is a place in memory. Past the end it leaves
the machine as it was, and every step from then on has the same fault, until
the machine is started over or carries out an instruction by hand. Only a jump
or a call written by hand leads there. -/
theorem mild_fault_is_left_behind_iff (random : Generator) (ops : List Operation)
    (history : List Moment) (run : (Machine.new random).history? ops = some history) :
    let m := (Machine.new random).atEnd history
    ∀ fault, m.step.outcome = .error fault → fault.isFatal = false →
      (Machine.CountedDown { m with pc := UInt16.ofNat ((m.pc.toNat + 2) % 4096) } m.step.state ↔
        m.pc.toNat < 4096) ∧
      (4096 ≤ m.pc.toNat →
        fault = .outOfBounds m.pc.toNat ∧ m.step.state = m ∧
        ∀ onward : List Operation, (∀ op ∈ onward, op.Onward) →
          ∃ later, m.history? onward = some later ∧
            ∀ x ∈ later, m.Stayed x.after ∧
              (x.operation = .step → x.effect.outcome = .error fault)) ∧
      ((∀ op ∈ ops, op.Lands) → m.pc.toNat < 4096) := by
  intro m fault failed mild
  refine ⟨Machine.countedDown_step_iff failed mild, ?_, ?_⟩
  · intro past
    rw [Machine.step_of_le past] at failed ⊢
    cases failed
    exact ⟨rfl, rfl, fun onward allowed => Machine.stranded_history? past allowed⟩
  · intro lands
    exact Nat.lt_succ_of_le (Machine.inBounds_atEnd lands run).pc_le

/-- A number that is no key, at a word in the last two bytes of memory that was
put there by hand. -/
theorem mild_fault_is_left_behind_at_end :
    ∃ history, (Machine.new (.ofSeed 8)).history?
        [.execute (.setConst 0 0xE1), .execute (.setConst 1 0x9E), .execute (.setIndex 0xFFE),
          .execute (.storeRegs 1), .execute (.setDelay 1), .execute (.jump 0xFFE)] =
            some history ∧
      let m := (Machine.new (.ofSeed 8)).atEnd history
      m.step.outcome = .error (.invalidKey 0x9E) ∧
      Machine.CountedDown { m with pc := 0x000 } m.step.state := by
  have reached : ((Machine.new (.ofSeed 8)).history?
      [.execute (.setConst 0 0xE1), .execute (.setConst 1 0x9E), .execute (.setIndex 0xFFE),
        .execute (.storeRegs 1), .execute (.setDelay 1), .execute (.jump 0xFFE)]).map
      (fun history => (((Machine.new (.ofSeed 8)).atEnd history).pc,
        ((Machine.new (.ofSeed 8)).atEnd history).step.outcome)) =
      some (0xFFE, .error (.invalidKey 0x9E)) := by decide +kernel
  obtain ⟨history, run, facts⟩ := Option.map_eq_some_iff.1 reached
  obtain ⟨pc, failed⟩ := Prod.mk.inj facts
  have left := (mild_fault_is_left_behind_iff _ _ history run (.invalidKey 0x9E) failed rfl).1.2
  rw [pc] at left
  exact ⟨history, run, failed, left (by decide)⟩

/-- Past the end of memory a fault that is not fatal is not left behind: the
program counter stays and no time passes. -/
theorem mild_fault_is_not_left_behind_past_end :
    ∃ history, (Machine.ofSeed 1).history?
        [.execute (.setConst 0 5), .execute (.setDelay 0), .execute (.jump 0x1000)] =
          some history ∧
      let m := (Machine.ofSeed 1).atEnd history
      m.step.outcome = .error (.outOfBounds 0x1000) ∧
      (Fault.outOfBounds 0x1000).isFatal = false ∧
      m.pc = 0x1000 ∧ m.step.state.pc = 0x1000 ∧
      m.delay = 5 ∧ m.step.state.delay = 5 := by
  have reached : ((Machine.ofSeed 1).history?
      [.execute (.setConst 0 5), .execute (.setDelay 0), .execute (.jump 0x1000)]).map
      (fun history =>
        let m := (Machine.ofSeed 1).atEnd history
        (m.step.outcome, m.pc, m.step.state.pc, m.delay, m.step.state.delay)) =
      some (.error (.outOfBounds 0x1000), 0x1000, 0x1000, 5, 5) := by decide +kernel
  obtain ⟨history, run, facts⟩ := Option.map_eq_some_iff.1 reached
  simp only [Prod.mk.injEq] at facts
  obtain ⟨failed, before, after, delay, delayed⟩ := facts
  exact ⟨history, run, failed, rfl, before, after, delay, delayed⟩

end Chip8
