import Chip8.Proofs.Polls
import Mathlib.Control.Monad.Basic

/-!
# The halt

A host is halted by a fatal fault and by nothing else, and from then on it is
`Stuck`: until a program is loaded, whatever is done to its machine, ticks and
runs answer that fault and touch nothing, neither the machine nor the devices
nor the log. A host that is not halted polls its input once a tick, ahead of
the step.
-/

namespace Chip8.Host

/-- Whether an action starts a host over. -/
def Action.isLoad : Action → Bool
  | .load _ => true
  | _ => false

theorem halted_load {ι ω : Type} (h : Host ι ω) (program : List UInt8) :
    if program.length ≤ 3584 then
      (h.load program).outcome = .ok () ∧ (h.load program).state.halted = none
    else
      (h.load program).outcome = .error (.programTooLarge program.length 3584) ∧
        (h.load program).state.halted = some (.programTooLarge program.length 3584) := by
  split
  · next fits => rw [load_of_fits h fits]; exact ⟨rfl, rfl⟩
  · next large => rw [load_of_too_large h (Nat.not_le.1 large)]; exact ⟨rfl, rfl⟩

variable {ι ω : Type} [InputDevice ι] [OutputDevice ω] {h k : Host ι ω} {fault : Fault}

/-- Whatever is done to a host, short of a load, leaves it halted with a fault,
which every tick and every run repeats and does nothing else. A run of no
ticks has nothing to repeat. -/
def Stuck (h : Host ι ω) (fault : Fault) : Prop :=
  ∀ actions k, (∀ a ∈ actions, Action.isLoad a = false) → h.after? actions = some k →
    k.halted = some fault ∧ k.tick = ⟨.error fault, k, []⟩ ∧
    ∀ n, k.perform? (.run n) = some ⟨if n = 0 then .ok .done else .error fault, k, []⟩

theorem perform?_run_of_halted (halted : h.halted = some fault) (fatal : fault.isFatal = true)
    (n : Nat) :
    h.perform? (.run n) = some ⟨if n = 0 then .ok .done else .error fault, h, []⟩ := by
  obtain ⟨host, log, outcome⟩ := run_of_halted halted fatal n
  simp only [perform?, host, log, outcome]
  cases n <;> rfl

theorem stuck_of_halted (halted : h.halted = some fault) (fatal : fault.isFatal = true) :
    h.Stuck fault := by
  intro actions k noLoad does
  have still : k.halted = some fault := by
    refine invariant_after? (P := fun k => k.halted = some fault) ?_ ?_ ?_ halted noLoad does
    · intro h halted
      rw [tick_of_halted halted]
      exact halted
    · intro h program allowed
      cases allowed
    · intro h op x _ halted _
      exact halted
  exact ⟨still, tick_of_halted still, perform?_run_of_halted still fatal⟩

/-- Only fatal faults halt a host. -/
theorem isFatal_of_halted {actions : List Action} (awake : h.halted = none)
    (does : h.after? actions = some k) (halted : k.halted = some fault) :
    fault.isFatal = true := by
  have anything : ∀ a ∈ actions, (fun _ : Action => True) a := fun _ _ => trivial
  refine invariant_after? (P := fun k => ∀ fault, k.halted = some fault → fault.isFatal = true)
    ?_ ?_ ?_ ?_ anything does fault halted
  · intro h fatal fault after
    cases halted : h.halted with
    | some other =>
        rw [tick_of_halted halted] at after
        exact fatal fault after
    | none =>
        rw [halted_tick halted] at after
        exact (fatalOf_eq_some_iff.1 after).2
  · intro h program _ _ fault after
    rcases Nat.lt_or_ge 3584 program.length with large | fits
    · rw [load_of_too_large h large] at after
      cases after
      rfl
    · rw [load_of_fits h fits] at after
      cases after
  · intro h op x _ fatal _
    exact fatal
  · intro fault halted
    rw [awake] at halted
    cases halted

/-- A tick answers a fatal fault exactly if the host is halted with it
afterwards. -/
theorem halted_tick_iff (fatal : ∀ fault, h.halted = some fault → fault.isFatal = true) :
    h.tick.outcome = .error fault ∧ fault.isFatal = true ↔ h.tick.state.halted = some fault := by
  cases halted : h.halted with
  | none => rw [outcome_tick halted, halted_tick halted, fatalOf_eq_some_iff]
  | some other =>
      rw [tick_of_halted halted]
      show Except.error other = .error fault ∧ fault.isFatal = true ↔ h.halted = some fault
      rw [halted, Except.error.injEq, Option.some.injEq]
      constructor
      · exact fun both => both.1
      · rintro rfl
        exact ⟨rfl, fatal other halted⟩

theorem stuck_load {program : List UInt8} (failed : (h.load program).outcome = .error fault) :
    (h.load program).state.Stuck fault := by
  have ending := halted_load h program
  split at ending
  · rw [ending.1] at failed
    cases failed
  · rw [ending.1] at failed
    cases failed
    exact stuck_of_halted ending.2 rfl

end Host

/-- **A halt is sticky and inert.** Wherever actions lead a new host: it is
halted by fatal faults only. A tick answers a fatal fault exactly if the host
is halted with it afterwards, and a host is stuck with the fatal fault that a
tick or a load has answered. A program of at most 3584 bytes ends a halt, and
a larger one halts the host itself. A tick of a host that is not halted polls
the input, once, and steps the machine with the keys as the input left them;
so the input has been polled as often as a tick found the host not halted. -/
theorem halt_is_sticky {ι ω : Type} [InputDevice ι] [OutputDevice ω] (machine : Machine)
    (input : ι) (output : ω) (pacing : Pacing) (actions : List Host.Action) (h : Host ι ω)
    (does : (Host.new machine input output pacing).after? actions = some h) :
    (∀ fault, h.halted = some fault → fault.isFatal = true) ∧
    (∀ fault, h.tick.outcome = .error fault ∧ fault.isFatal = true ↔
      h.tick.state.halted = some fault) ∧
    (∀ fault, fault.isFatal = true →
      (h.tick.outcome = .error fault → h.tick.state.Stuck fault) ∧
      ∀ program, (h.load program).outcome = .error fault →
        (h.load program).state.Stuck fault) ∧
    (∀ program : List UInt8,
      if program.length ≤ 3584 then
        (h.load program).outcome = .ok () ∧ (h.load program).state.halted = none
      else
        (h.load program).outcome = .error (.programTooLarge program.length 3584) ∧
          (h.load program).state.halted = some (.programTooLarge program.length 3584)) ∧
    (h.halted = none →
      let polled := InputDevice.poll h.input h.machine.keypad
      h.tick.state.input = polled.1 ∧
        h.tick.outcome = { h.machine with keypad := polled.2 }.step.outcome) ∧
    ∃ t, (Host.new machine input output pacing).tallied.after? actions = some t ∧
      t.untallied = h ∧
      t.input.polls = (Host.new machine input output pacing).wakefulIn actions ∧
      t.tick.state.input.polls = t.input.polls + h.halted.isNone.toNat := by
  have fatal : ∀ fault, h.halted = some fault → fault.isFatal = true :=
    fun fault => Host.isFatal_of_halted rfl does
  refine ⟨fatal, fun fault => Host.halted_tick_iff fatal, ?_, h.halted_load, ?_, ?_⟩
  · intro fault isFatal
    refine ⟨?_, fun program => Host.stuck_load⟩
    intro failed
    have halted := (Host.halted_tick_iff fatal).1 ⟨failed, isFatal⟩
    exact Host.stuck_of_halted halted isFatal
  · intro awake
    exact ⟨Host.input_tick awake, Host.outcome_tick awake⟩
  · obtain ⟨t, leads, same, count⟩ :=
      Host.polls_after? (t := (Host.new machine input output pacing).tallied) does
    refine ⟨t, leads, same, count.trans (Nat.zero_add _), ?_⟩
    rw [← same]
    exact Host.polls_tick t

/-- A program that asks for a key that there is not and then returns without
having been called. -/
def lonelyReturn : List UInt8 := [0x61, 0x10, 0xE1, 0x9E, 0x00, 0xEE]

/-- A host that nobody types at. -/
def unattended : Host NoInput Recorder := .new (.ofSeed 1) ⟨⟩ .empty .usual

/-- The second of these ticks is passed over, the third one halts the host, and
three polls are all that the ticks amount to. -/
theorem halt_is_sticky_underflow :
    ∃ h, unattended.after? [.load lonelyReturn, .run 2] = some h ∧
      h.tick.outcome = .error .stackUnderflow ∧ h.tick.state.Stuck .stackUnderflow ∧
      ∃ t, unattended.tallied.after? [.load lonelyReturn, .run 2] = some t ∧
        t.untallied = h ∧ t.tick.state.input.polls = 3 := by
  let h := ((unattended.load lonelyReturn).state.run 2).host
  have does : unattended.after? [.load lonelyReturn, .run 2] = some h := by
    rw [Host.after?_load, Host.after?_run, Host.after?_nil]
  have awake : h.halted = none := by decide +kernel
  have failed : h.tick.outcome = .error .stackUnderflow := by decide +kernel
  have ticked : unattended.wakefulIn [.load lonelyReturn, .run 2] = 2 := by decide +kernel
  obtain ⟨_, _, stuck, _, _, t, leads, untallied, polls, last⟩ :=
    halt_is_sticky _ _ _ _ _ h does
  have counted : t.input.polls = 2 := polls.trans ticked
  rw [counted, awake] at last
  exact ⟨h, does, failed, (stuck _ rfl).1 failed, t, leads, untallied, last⟩

end Chip8
