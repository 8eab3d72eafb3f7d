import Chip8.Host
import Chip8.Proofs.Step

/-!
# What a tick does

A tick of a host that is not halted polls the input, steps the machine with
the keys as the input left them (`polled`), and asks the output for at most a
frame and a tone. There is one equation for each way it can end (`tick_of_ok`,
`tick_of_mild`, `tick_of_fatal`, `tick_of_halted`).

What a host asks of its output does not depend on the output. It is read off
an output that only writes it down, the `Journal`, and any other output is in
the state that the same requests bring it to (`output_tick`, `output_ticks`).
-/

namespace Chip8

/-- Something that a host asks of its output. -/
inductive Request where
  | present (screen : Screen)
  | beep
  deriving DecidableEq

/-- The frame that an output is asked to show, if it is asked to show one. -/
def Request.screen? : Request → Option Screen
  | present screen => some screen
  | beep => none

/-- Do to an output what is asked of it. -/
def Request.on {ω : Type} [OutputDevice ω] (output : ω) : Request → ω
  | present screen => OutputDevice.present output screen
  | beep => OutputDevice.beep output

/-- Output that only writes down what is asked of it, oldest first. -/
structure Journal where
  requests : List Request

instance : OutputDevice Journal where
  present j screen := ⟨j.requests ++ [.present screen]⟩
  beep j := ⟨j.requests ++ [.beep]⟩

/-- A journal adds what is asked of it. -/
theorem foldl_on_journal (j : Journal) (requests : List Request) :
    requests.foldl Request.on j = ⟨j.requests ++ requests⟩ := by
  induction requests generalizing j with
  | nil => simp
  | cons r rest ih =>
      have one : Request.on j r = ⟨j.requests ++ [r]⟩ := by cases r <;> rfl
      rw [List.foldl_cons, one, ih]
      simp

/-- Counting from zero is looking at zero and counting from one. -/
theorem countP_range_succ (p : Nat → Bool) (n : Nat) :
    (List.range (n + 1)).countP p =
      (p 0).toNat + (List.range n).countP fun k => p (k + 1) := by
  rw [List.range_succ_eq_map, List.countP_cons, List.countP_map, Nat.add_comm]
  cases p 0 <;> rfl

namespace Host

section Stepping

variable {ι ω : Type} [InputDevice ι]

/-- The machine as a tick steps it: its keys are as the input leaves them. -/
def polled (h : Host ι ω) : Machine :=
  { h.machine with keypad := (InputDevice.poll h.input h.machine.keypad).2 }

/-- The host after the step of a tick, when the output knows nothing of it. -/
def stepped (h : Host ι ω) : Host ι ω :=
  { h with
    input := (InputDevice.poll h.input h.machine.keypad).1
    machine := h.polled.step.state }

end Stepping

section Refreshing

variable {ι ω : Type} [OutputDevice ω]

/-- The frame that a machine has to show, if it was drawn on. -/
def frameOf (m : Machine) : List Request :=
  if m.display.dirty then [.present m.display.screen] else []

/-- All that a refresh does to the machine is to take the note off its
display. -/
theorem machine_refresh (h : Host ι ω) :
    h.refresh.machine = { h.machine with display := h.machine.display.shown } := by
  unfold refresh
  split
  · rfl
  · next clean => rw [Display.shown_of_clean (Bool.eq_false_iff.2 clean)]

theorem output_refresh (h : Host ι ω) :
    h.refresh.output = (frameOf h.machine).foldl Request.on h.output := by
  unfold refresh frameOf
  split <;> rfl

end Refreshing

/-! ## How a tick ends -/

section Endings

variable {ι ω : Type} [InputDevice ι] [OutputDevice ω] {h : Host ι ω} {fault : Fault} {s : Step}

theorem tick_of_halted (halted : h.halted = some fault) : h.tick = ⟨.error fault, h, []⟩ := by
  simp only [tick, halted]

theorem tick_of_awake (awake : h.halted = none) :
    h.tick =
      match h.polled.step.outcome with
      | .ok s => ⟨.ok s, h.stepped.refresh.sound s.tone, h.polled.step.log⟩
      | .error fault =>
        if fault.isFatal then
          ⟨.error fault, { h.stepped.refresh with halted := some fault },
            h.polled.step.log ++ [.halting h.stepped.refresh.machine.pc fault]⟩
        else
          ⟨.error fault, h.stepped.refresh,
            h.polled.step.log ++ [.ignoring h.stepped.refresh.machine.pc fault]⟩ := by
  simp only [tick, awake, stepped]
  rfl

theorem tick_of_ok (awake : h.halted = none) (succeeded : h.polled.step.outcome = .ok s) :
    h.tick = ⟨.ok s, h.stepped.refresh.sound s.tone, h.polled.step.log⟩ := by
  rw [tick_of_awake awake, succeeded]

theorem tick_of_fatal (awake : h.halted = none) (failed : h.polled.step.outcome = .error fault)
    (fatal : fault.isFatal = true) :
    h.tick = ⟨.error fault, { h.stepped.refresh with halted := some fault },
      h.polled.step.log ++ [.halting h.polled.step.state.pc fault]⟩ := by
  rw [tick_of_awake awake, failed, machine_refresh]
  exact if_pos fatal

theorem tick_of_mild (awake : h.halted = none) (failed : h.polled.step.outcome = .error fault)
    (mild : fault.isFatal = false) :
    h.tick = ⟨.error fault, h.stepped.refresh,
      h.polled.step.log ++ [.ignoring h.polled.step.state.pc fault]⟩ := by
  rw [tick_of_awake awake, failed, machine_refresh]
  exact if_neg (by simp [mild])

/-- The fault of a step, if it is one that halts a host. -/
def fatalOf : Except Fault Step → Option Fault
  | .ok _ => none
  | .error fault => if fault.isFatal then some fault else none

theorem fatalOf_eq_some_iff {outcome : Except Fault Step} :
    fatalOf outcome = some fault ↔ outcome = .error fault ∧ fault.isFatal = true := by
  cases outcome with
  | ok s => simp [fatalOf]
  | error other =>
      simp only [fatalOf, Option.ite_none_right_eq_some, Option.some.injEq, Except.error.injEq]
      constructor
      · rintro ⟨fatal, rfl⟩
        exact ⟨rfl, fatal⟩
      · rintro ⟨rfl, fatal⟩
        exact ⟨fatal, rfl⟩

/-- However it ends, a tick answers as its step does, has polled the input
once, leaves the machine of its step with the note on the display taken off,
and halts the host over a fatal fault. -/
theorem tick_spec (awake : h.halted = none) :
    h.tick.outcome = h.polled.step.outcome ∧
    h.tick.state.input = (InputDevice.poll h.input h.machine.keypad).1 ∧
    h.tick.state.machine =
      { h.polled.step.state with display := h.polled.step.state.display.shown } ∧
    h.tick.state.halted = fatalOf h.polled.step.outcome := by
  have machine := machine_refresh h.stepped
  have input : h.stepped.refresh.input = (InputDevice.poll h.input h.machine.keypad).1 := by
    unfold refresh
    split <;> rfl
  have halted : h.stepped.refresh.halted = none := by
    rw [← awake]
    unfold refresh
    split <;> rfl
  cases outcome : h.polled.step.outcome with
  | ok s =>
      rw [tick_of_ok awake outcome]
      cases s.tone <;> exact ⟨rfl, input, machine, halted⟩
  | error fault =>
      cases fatal : fault.isFatal with
      | true =>
          rw [tick_of_fatal awake outcome fatal]
          exact ⟨rfl, input, machine, (fatalOf_eq_some_iff.2 ⟨rfl, fatal⟩).symm⟩
      | false =>
          rw [tick_of_mild awake outcome fatal]
          refine ⟨rfl, input, machine, ?_⟩
          simp [fatalOf, fatal, halted]

theorem outcome_tick (awake : h.halted = none) : h.tick.outcome = h.polled.step.outcome :=
  (tick_spec awake).1

theorem input_tick (awake : h.halted = none) :
    h.tick.state.input = (InputDevice.poll h.input h.machine.keypad).1 :=
  (tick_spec awake).2.1

theorem machine_tick (awake : h.halted = none) :
    h.tick.state.machine =
      { h.polled.step.state with display := h.polled.step.state.display.shown } :=
  (tick_spec awake).2.2.1

theorem halted_tick (awake : h.halted = none) :
    h.tick.state.halted = fatalOf h.polled.step.outcome :=
  (tick_spec awake).2.2.2

theorem sound_tick (awake : h.halted = none) :
    h.tick.state.machine.sound = h.polled.step.state.sound := by
  rw [machine_tick awake]

/-- What a host remarks on a step that failed. -/
def remarks (e : Effect Machine Step) : List Event :=
  match e.outcome with
  | .ok _ => []
  | .error fault =>
    if fault.isFatal then [.halting e.state.pc fault] else [.ignoring e.state.pc fault]

/-- The log of a tick is that of its step with the remark of the host. -/
theorem log_tick (awake : h.halted = none) :
    h.tick.log = h.polled.step.log ++ remarks h.polled.step := by
  cases outcome : h.polled.step.outcome with
  | ok s => simp only [tick_of_ok awake outcome, remarks, outcome, List.append_nil]
  | error fault =>
      cases fatal : fault.isFatal with
      | true => simp only [tick_of_fatal awake outcome fatal, remarks, outcome, fatal, if_true]
      | false =>
          simp only [tick_of_mild awake outcome fatal, remarks, outcome, fatal,
            Bool.false_eq_true, if_false]

end Endings

/-! ## What a tick asks of the output -/

section Requests

variable {ι ω ω' : Type} [InputDevice ι]

/-- The tone that a step reports. -/
def toneOf : Except Fault Step → List Request
  | .ok s => if s.tone then [.beep] else []
  | .error _ => []

theorem output_tick_of_awake [OutputDevice ω] {h : Host ι ω} (awake : h.halted = none) :
    h.tick.state.output =
      (frameOf h.polled.step.state ++ toneOf h.polled.step.outcome).foldl Request.on
        h.output := by
  rw [List.foldl_append]
  have shown : h.stepped.refresh.output =
      (frameOf h.polled.step.state).foldl Request.on h.output := output_refresh h.stepped
  rw [← shown]
  cases outcome : h.polled.step.outcome with
  | ok s =>
      rw [tick_of_ok awake outcome]
      -- the frame is shown by now: what is left of the requests is the tone
      cases tone : s.tone <;> simp [sound, toneOf, tone, Request.on]
  | error fault =>
      cases fatal : fault.isFatal with
      | true => rw [tick_of_fatal awake outcome fatal]; rfl
      | false => rw [tick_of_mild awake outcome fatal]; rfl

/-- The host with another output. -/
def withOutput (h : Host ι ω) (output : ω') : Host ι ω' :=
  ⟨h.machine, h.input, output, h.pacing, h.halted⟩

/-- What a tick asks of the output. -/
def tickRequests (h : Host ι ω) : List Request :=
  (h.withOutput (⟨[]⟩ : Journal)).tick.state.output.requests

/-- A tick asks for a frame if the machine was drawn on and then for a tone if
the step reports one. -/
theorem tickRequests_of_awake {h : Host ι ω} (awake : h.halted = none) :
    h.tickRequests = frameOf h.polled.step.state ++ toneOf h.polled.step.outcome := by
  have journal := output_tick_of_awake (h := h.withOutput (⟨[]⟩ : Journal)) awake
  rw [tickRequests, journal, foldl_on_journal]
  rfl

theorem tickRequests_of_halted {h : Host ι ω} {fault : Fault} (halted : h.halted = some fault) :
    h.tickRequests = [] := by
  rw [tickRequests, tick_of_halted (h := h.withOutput (⟨[]⟩ : Journal)) halted]
  rfl

/-- Any output is asked for the same. -/
theorem output_tick [OutputDevice ω] (h : Host ι ω) :
    h.tick.state.output = h.tickRequests.foldl Request.on h.output := by
  cases halted : h.halted with
  | none => rw [output_tick_of_awake halted, tickRequests_of_awake halted]
  | some fault => rw [tick_of_halted halted, tickRequests_of_halted halted]; rfl

end Requests

/-! ## Ticks in a row -/

section Rows

variable {ι ω : Type} [InputDevice ι] [OutputDevice ω]

/-- The host after some ticks, whatever came of them. -/
def ticks (h : Host ι ω) : Nat → Host ι ω
  | 0 => h
  | n + 1 => h.tick.state.ticks n

/-- What some ticks ask of the output, oldest first. -/
def requests (h : Host ι ω) : Nat → List Request
  | 0 => []
  | n + 1 => h.tickRequests ++ h.tick.state.requests n

theorem output_ticks (h : Host ι ω) (n : Nat) :
    (h.ticks n).output = (h.requests n).foldl Request.on h.output := by
  induction n generalizing h with
  | zero => rfl
  | succ n ih => rw [ticks, requests, List.foldl_append, ih, output_tick]

end Rows

end Host

end Chip8
