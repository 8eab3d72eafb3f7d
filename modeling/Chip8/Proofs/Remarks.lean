import Chip8.Proofs.Tone

/-!
# Remarks on faults

A host remarks once on every tick that fails (`filter_byHost_tick`): a fatal fault
halts it, which is an error, and any other is ignored with a warning. The remark
names the place where the program counter is after the step. A step that is undone
or never began is still where its instruction is. One that leaves a refused
instruction behind is not (`pc_step_of_failed`), so the remark about it names the
word after the one at fault.
-/

namespace Chip8

/-- Whether the host itself reports an event, and not its machine. -/
def Event.byHost : Event → Bool
  | loadFailed _ | halting .. | ignoring .. => true
  | _ => false

/-- What a host says about a fault, with a place. -/
def Fault.remark (fault : Fault) (place : UInt16) : Event :=
  if fault.isFatal then .halting place fault else .ignoring place fault

namespace Machine

variable {m : Machine} {i : Instruction Nibble} {fault : Fault}

theorem byHost_of_mem_log_execute {event : Event} (among : event ∈ (m.execute i).log) :
    event.byHost = false := by
  rw [log_execute] at among
  cases i with
  | sys target =>
      rcases List.mem_singleton.1 among with rfl
      rfl
  | _ => cases among

/-- A step speaks for the machine only. -/
theorem byHost_of_mem_log_step {event : Event} (among : event ∈ m.step.log) :
    event.byHost = false := by
  cases m.step_cases with
  | nowhere past eq =>
      rw [eq] at among
      cases among
  | unknown inside undecoded eq =>
      rw [eq] at among
      rcases List.mem_singleton.1 among with rfl
      rfl
  | undone i fault current refusal fatal eq =>
      rw [eq] at among
      rcases List.mem_singleton.1 among with rfl
      rfl
  | passed i fault current refusal mild eq =>
      rw [eq] at among
      rcases List.mem_singleton.1 among with rfl
      rfl
  | carried i progress current ok eq =>
      rw [eq] at among
      rcases List.mem_cons.1 among with rfl | among
      · rfl
      · exact byHost_of_mem_log_execute among

/-- Only over a number that is no key does a step fail and go on. -/
theorem pc_step_of_failed (failed : m.step.outcome = .error fault) :
    m.step.state.pc = if m.asksForNoKey then addressAfter m.pc else m.pc := by
  cases m.step_cases with
  | nowhere past eq =>
      rw [eq, asksForNoKey_of_current_none (current?_of_le past)]
      rfl
  | unknown inside undecoded eq =>
      rw [eq, asksForNoKey_of_current_none (current?_of_undecoded undecoded)]
      rfl
  | undone i fault current refusal fatal eq =>
      rw [eq, asksForNoKey_of_refusal current refusal, fatal]
      rfl
  | passed i fault current refusal mild eq =>
      rw [eq, asksForNoKey_of_refusal current refusal, mild]
      rfl
  | carried i progress current ok eq =>
      rw [eq] at failed
      cases failed

/-- It goes on over every fault that is not fatal, if there was an instruction. -/
theorem asksForNoKey_iff_of_failed (failed : m.step.outcome = .error fault) :
    m.asksForNoKey = true ↔ fault.isFatal = false ∧ m.pc.toNat < 4096 := by
  constructor
  · intro asks
    obtain ⟨i, other, current, refusal, mild⟩ := refusal_of_asksForNoKey asks
    rw [step_of_refusal current refusal] at failed
    cases failed
    exact ⟨mild, (current?_eq_some_iff.1 current).1⟩
  · rintro ⟨mild, inside⟩
    rcases step_of_mild failed mild with ⟨past, _⟩ | ⟨i, current, refusal, _⟩
    · omega
    · rw [asksForNoKey_of_refusal current refusal, mild]
      rfl

theorem addressAfter_ne (pc : UInt16) : addressAfter pc ≠ pc := by
  intro same
  have value := toNat_addressAfter pc
  rw [same] at value
  omega

end Machine

namespace Host

variable {ι ω : Type} [InputDevice ι] [OutputDevice ω] {h : Host ι ω} {fault : Fault}

/-- A tick that fails is remarked on once, and one that succeeds not at all. -/
theorem filter_byHost_tick (awake : h.halted = none) :
    h.tick.log.filter Event.byHost =
      match h.tick.outcome with
      | .ok _ => []
      | .error fault => [fault.remark h.tick.state.machine.pc] := by
  have silent : h.polled.step.log.filter Event.byHost = [] := by
    rw [List.filter_eq_nil_iff]
    intro event among
    rw [Machine.byHost_of_mem_log_step among]
    decide
  rw [log_tick awake, List.filter_append, silent, List.nil_append, outcome_tick awake,
    machine_tick awake, remarks]
  cases h.polled.step.outcome with
  | ok s => rfl
  | error fault =>
      simp only [Fault.remark]
      cases fault.isFatal <;> rfl

end Host

/-- **A remark names the place after the step.** A tick of a host that is not halted
has no remark if it succeeds. If it fails, it has just one: an error that begins with
`Halting at` if the fault is fatal, and otherwise a warning that begins with
`Ignoring error at`. The place in it is the one that the instruction at fault was
fetched from if the fault is fatal, or if there was nothing to fetch. After any other
fault, which is over a number that is no key, it is the place of the next word. -/
theorem remark_names_place_after_step {ι ω : Type} [InputDevice ι] [OutputDevice ω]
    (h : Host ι ω) (awake : h.halted = none) :
    (∀ s, h.tick.outcome = .ok s → h.tick.log.filter Event.byHost = []) ∧
    ∀ fault, h.tick.outcome = .error fault →
      let place :=
        if h.polled.asksForNoKey then Machine.addressAfter h.machine.pc else h.machine.pc
      h.tick.log.filter Event.byHost = [fault.remark place] ∧
      (fault.remark place).level = (if fault.isFatal then .error else .warn) ∧
      (fault.remark place).text =
        (if fault.isFatal then "Halting at 0x" else "Ignoring error at 0x") ++
          Numeral.hex 3 place.toNat ++ ": " ++ fault.message ∧
      (place = h.machine.pc ↔ fault.isFatal = true ∨ 4096 ≤ h.machine.pc.toNat) ∧
      (place ≠ h.machine.pc → place.toNat = (h.machine.pc.toNat + 2) % 4096) := by
  have remarks := Host.filter_byHost_tick awake
  constructor
  · intro s succeeded
    rw [remarks, succeeded]
  · intro fault failed place
    have failed' : h.polled.step.outcome = .error fault := Host.outcome_tick awake ▸ failed
    have named : h.tick.state.machine.pc = place := by
      rw [Host.machine_tick awake]
      exact Machine.pc_step_of_failed failed'
    have asks : h.polled.asksForNoKey = true ↔ fault.isFatal = false ∧ h.machine.pc.toNat < 4096 :=
      Machine.asksForNoKey_iff_of_failed failed'
    refine ⟨?_, ?_, ?_, ?_, ?_⟩
    · rw [remarks, failed, named]
    · rw [Fault.remark]
      cases fault.isFatal <;> rfl
    · rw [Fault.remark]
      cases fault.isFatal <;> rfl
    · by_cases next : h.polled.asksForNoKey = true
      · obtain ⟨mild, inside⟩ := asks.1 next
        have other : place ≠ h.machine.pc := by
          simp only [place, next, if_true]
          exact Machine.addressAfter_ne _
        simp [other, mild, inside]
      · -- a step that has not gone on was undone or never began
        have same : place = h.machine.pc := if_neg next
        have either : fault.isFatal = true ∨ 4096 ≤ h.machine.pc.toNat := by
          by_contra neither
          rw [not_or, Bool.not_eq_true, Nat.not_le] at neither
          exact next (asks.2 neither)
        exact iff_of_true same either
    · intro other
      by_cases next : h.polled.asksForNoKey = true
      · simp only [place, next, if_true]
        exact Machine.toNat_addressAfter _
      · exact absurd (if_neg next) other

/-- A program that asks for key thirty-two and then returns without having been
called. -/
def asksThenReturns : Host NoInput Recorder :=
  ((Host.new (.ofSeed 1) ⟨⟩ .empty .usual).load [0x61, 0x20, 0xE1, 0x9E, 0x00, 0xEE]).state

/-- The two words at fault are next to each other, and the remarks on them name the
same place. -/
theorem remark_names_place_after_step_twice :
    let first := asksThenReturns.ticks 1
    let second := asksThenReturns.ticks 2
    (first.halted = none ∧ first.tick.outcome = .error (.invalidKey 0x20) ∧
      first.tick.log.filter Event.byHost = [.ignoring 0x204 (.invalidKey 0x20)]) ∧
    second.halted = none ∧ second.tick.outcome = .error .stackUnderflow ∧
      second.tick.log.filter Event.byHost = [.halting 0x204 .stackUnderflow] := by
  intro first second
  have begun : first.halted = none ∧ first.tick.outcome = .error (.invalidKey 0x20) ∧
      first.polled.asksForNoKey = true ∧ first.machine.pc = 0x202 := by decide +kernel
  have gone : second.halted = none ∧ second.tick.outcome = .error .stackUnderflow ∧
      second.polled.asksForNoKey = false ∧ second.machine.pc = 0x204 := by decide +kernel
  obtain ⟨awake, failed, asks, at202⟩ := begun
  obtain ⟨awake', failed', asks', at204⟩ := gone
  have ignored := ((remark_names_place_after_step first awake).2 _ failed).1
  have halting := ((remark_names_place_after_step second awake').2 _ failed').1
  rw [asks, at202] at ignored
  rw [asks', at204] at halting
  exact ⟨⟨awake, failed, ignored⟩, awake', failed', halting⟩

/-- The instruction that is ignored is at `0x202`, and the warning names `0x204`. -/
theorem ignored_instruction_is_not_named :
    let h := asksThenReturns.ticks 1
    h.halted = none ∧ h.machine.pc = 0x202 ∧
      h.machine.fetch = .ok 0xE19E ∧ h.tick.outcome = .error (.invalidKey 0x20) ∧
      (Fault.invalidKey 0x20).isFatal = false ∧
      h.tick.log.filter Event.byHost = [.ignoring 0x204 (.invalidKey 0x20)] ∧
      h.tick.log.filter Event.byHost ≠ [.ignoring h.machine.pc (.invalidKey 0x20)] := by
  decide +kernel

end Chip8
