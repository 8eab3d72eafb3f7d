import Chip8.Proofs.Actions
import Chip8.Proofs.Note
import Mathlib.Control.Monad.Basic

/-!
# The machine on its own

A host adds nothing to its machine but an audience. What a machine does on its
own, with an input that moves its keys before every step, is `Machine.played`:
up to some steps, of which a fatal fault is the last. As many ticks of a host
have the same outcomes, with the fatal fault repeated from there on, and leave
the same machine up to the note on its display (`ticks_played`), whatever the
output is.
-/

namespace Chip8

/-- What became of a machine on its own. -/
structure Played (ι : Type) where
  machine : Machine
  input : ι
  /-- What came of each step, oldest first. -/
  outcomes : List (Except Fault Step)
  /-- The fatal fault of the last step, if it had one. -/
  stopped : Option Fault

/-- Up to some steps of a machine, each after an input has moved the keys. The
first fatal fault ends them. -/
def Machine.played {ι : Type} [InputDevice ι] (m : Machine) (input : ι) : Nat → Played ι
  | 0 => ⟨m, input, [], none⟩
  | n + 1 =>
    let (input, keypad) := InputDevice.poll input m.keypad
    let e := { m with keypad }.step
    match Host.fatalOf e.outcome with
    | some fault => ⟨e.state, input, [e.outcome], some fault⟩
    | none =>
      let rest := e.state.played input n
      { rest with outcomes := e.outcome :: rest.outcomes }

/-- The outcomes with the fault that ended them repeated until there are
enough. -/
def Played.repeated {ι : Type} (p : Played ι) (n : Nat) : List (Except Fault Step) :=
  match p.stopped with
  | none => p.outcomes
  | some fault => p.outcomes ++ List.replicate (n - p.outcomes.length) (.error fault)

theorem Played.repeated_cons {ι : Type} (p : Played ι) (outcome : Except Fault Step) (n : Nat) :
    Played.repeated { p with outcomes := outcome :: p.outcomes } (n + 1) =
      outcome :: p.repeated n := by
  unfold repeated
  cases p.stopped with
  | none => rfl
  | some fault => simp

/-! ## Scripts -/

namespace Script

/-- What the moves of a poll have to say about a key: the last one decides. -/
def lastMove? (s : Script) (poll : Nat) (key : Nibble) : Option Bool :=
  ((s.moves.filter (·.poll = poll)).filter (·.key = key.toByte)).getLast?.map (·.isDown)

theorem holds_apply (keypad : Keypad) (move : KeyMove) (key : Nibble) :
    (apply keypad move).holds key =
      if move.key = key.toByte then move.isDown else keypad.holds key :=
  keypad.holds_moved move.key move.isDown key

theorem holds_foldl_apply (keypad : Keypad) (moves : List KeyMove) (key : Nibble) :
    (moves.foldl apply keypad).holds key =
      ((moves.filter (·.key = key.toByte)).getLast?.map (·.isDown)).getD (keypad.holds key) := by
  induction moves generalizing keypad with
  | nil => rfl
  | cons move rest ih =>
      rw [List.foldl_cons, ih, holds_apply, List.filter_cons]
      by_cases named : move.key = key.toByte
      · simp only [named, if_true, decide_true, List.getLast?_cons]
        cases (rest.filter (·.key = key.toByte)).getLast? <;> rfl
      · simp only [named, if_false, decide_false, Bool.false_eq_true]

theorem holds_applyAt (s : Script) (poll : Nat) (keypad : Keypad) (key : Nibble) :
    (s.applyAt poll keypad).holds key = (s.lastMove? poll key).getD (keypad.holds key) :=
  holds_foldl_apply keypad _ key

end Script

/-! ## What a host adds -/

namespace Host

section Following

variable {ι ω : Type} [InputDevice ι] [OutputDevice ω] {h : Host ι ω} {fault : Fault}

/-- What comes of some ticks, oldest first. -/
def outcomes (h : Host ι ω) : Nat → List (Except Fault Step)
  | 0 => []
  | n + 1 => h.tick.outcome :: h.tick.state.outcomes n

theorem outcomes_of_halted (halted : h.halted = some fault) (n : Nat) :
    h.outcomes n = List.replicate n (.error fault) := by
  induction n with
  | zero => rfl
  | succ n ih => rw [outcomes, tick_of_halted halted, ih, List.replicate_succ]

/-- A host that ticks keeps up with a machine that is played alone from the
same start. -/
theorem ticks_played {m : Machine} (same : m.SameButNote h.machine) (awake : h.halted = none)
    (n : Nat) :
    (m.played h.input n).machine.SameButNote (h.ticks n).machine ∧
    (h.ticks n).input = (m.played h.input n).input ∧
    (h.ticks n).halted = (m.played h.input n).stopped ∧
    h.outcomes n = (m.played h.input n).repeated n := by
  induction n generalizing h m with
  | zero => exact ⟨same, rfl, awake, rfl⟩
  | succ n ih =>
      let polled := InputDevice.poll h.input m.keypad
      let e := { m with keypad := polled.2 }.step
      -- one tick beside one step
      have keypad : h.machine.keypad = m.keypad := Machine.unseen_sameButNote.keypad same
      have keys : Machine.SameButNote { m with keypad := polled.2 } h.polled := by
        rw [Host.polled, keypad]
        exact same.withKeys polled.2
      have step : e.Rel Machine.SameButNote h.polled.step := Machine.unseen_sameButNote.step keys
      have outcome : h.tick.outcome = e.outcome := by rw [outcome_tick awake, step.outcome]
      have machine : e.state.SameButNote h.tick.state.machine := by
        rw [machine_tick awake]
        exact step.state.thenShown
      have input : h.tick.state.input = polled.1 := by rw [input_tick awake, keypad]
      have halted : h.tick.state.halted = fatalOf e.outcome := by
        rw [halted_tick awake, step.outcome]
      cases fatal : fatalOf e.outcome with
      | some fault =>
          have ended : m.played h.input (n + 1) =
              ⟨e.state, polled.1, [e.outcome], some fault⟩ := by
            simp only [Machine.played]
            rw [fatal]
          rw [fatal] at halted
          rw [ended, ticks, outcomes, ticks_of_halted halted, outcomes_of_halted halted, outcome]
          exact ⟨machine, input, halted, rfl⟩
      | none =>
          have goes : m.played h.input (n + 1) =
              { e.state.played polled.1 n with
                outcomes := e.outcome :: (e.state.played polled.1 n).outcomes } := by
            simp only [Machine.played]
            rw [fatal]
          obtain ⟨machine', input', halted', outcomes'⟩ := ih machine (halted.trans fatal)
          rw [input] at machine' input' halted' outcomes'
          rw [goes, ticks, outcomes, outcome, outcomes', Played.repeated_cons]
          exact ⟨machine', input', halted', rfl⟩

end Following

variable {ω : Type} [OutputDevice ω]

/-- Up to a halt, each tick has used up one poll of the script. -/
theorem input_ticks_script (h : Host Script ω) (n : Nat) (awake : (h.ticks n).halted = none) :
    (h.ticks n).input = { h.input with polls := h.input.polls + n } := by
  induction n generalizing h with
  | zero => rfl
  | succ n ih =>
      have before : h.halted = none := by
        cases halted : h.halted with
        | none => rfl
        | some fault =>
            rw [ticks_of_halted halted, halted] at awake
            cases awake
      rw [ticks, ih h.tick.state awake, input_tick before]
      show { h.input with polls := h.input.polls + 1 + n } = _
      rw [Nat.add_assoc, Nat.add_comm 1 n]

end Host

/-- **A host simulates its machine.** As many ticks as one likes of a host that
is not halted, whatever its devices are, leave the machine that it would have
become on its own, up to the note on its display, and answer what the steps on
its own answer, with the fatal fault repeated once there was one. If the input
is a script, then the tick after `n` others, as long as none of them halted
the host, steps the machine with the keys as the moves of that poll leave
them: the last move of a key decides, and a key without one is as it was. -/
theorem host_simulates_machine {ω : Type} [OutputDevice ω] :
    (∀ {ι : Type} [InputDevice ι] (h : Host ι ω), h.halted = none → ∀ n,
      (h.machine.played h.input n).machine.SameButNote (h.ticks n).machine ∧
      h.outcomes n = (h.machine.played h.input n).repeated n ∧
      (h.ticks n).halted = (h.machine.played h.input n).stopped) ∧
    ∀ (h : Host Script ω) n, (h.ticks n).halted = none →
      (h.ticks n).tick.outcome = (h.ticks n).polled.step.outcome ∧
      ∀ key, (h.ticks n).polled.keypad.holds key =
        (h.input.lastMove? (h.input.polls + n) key).getD
          ((h.ticks n).machine.keypad.holds key) := by
  constructor
  · intro ι _ h awake n
    obtain ⟨machine, _, halted, outcomes⟩ := Host.ticks_played (.refl h.machine) awake n
    exact ⟨machine, outcomes, halted⟩
  · intro h n still
    refine ⟨Host.outcome_tick still, ?_⟩
    intro key
    have input := h.input_ticks_script n still
    have keypad : (h.ticks n).polled.keypad =
        h.input.applyAt (h.input.polls + n) (h.ticks n).machine.keypad := by
      show ((h.ticks n).input.applyAt (h.ticks n).input.polls _) = _
      rw [input]
      rfl
    rw [keypad, Script.holds_applyAt]

/-- A host with a program that waits for a key and then returns without having
been called. Key seven goes down on the second poll. -/
def waitThenReturn : Host Script Recorder :=
  ((Host.new (.ofSeed 1) (.start [⟨1, 0x7, true⟩]) .empty .usual).load
    [0xF4, 0x0A, 0x00, 0xEE]).state

/-- The key is there for the second tick. The third one halts the host, and its
fault is what the fourth one answers, though the machine alone makes no fourth
step. -/
theorem host_simulates_machine_waiting :
    waitThenReturn.halted = none ∧
    (waitThenReturn.ticks 1).polled.keypad.holds 0x7 = true ∧
    waitThenReturn.outcomes 4 =
      [.ok ⟨.awaitingKey, false⟩, .ok ⟨.executed, false⟩, .error .stackUnderflow,
        .error .stackUnderflow] ∧
    (waitThenReturn.machine.played waitThenReturn.input 4).outcomes.length = 3 ∧
    (waitThenReturn.machine.played waitThenReturn.input 4).machine.SameButNote
      (waitThenReturn.ticks 4).machine := by
  have awake : waitThenReturn.halted = none := by decide +kernel
  have still : (waitThenReturn.ticks 1).halted = none := by decide +kernel
  have moved : waitThenReturn.input.lastMove? (waitThenReturn.input.polls + 1) 0x7 = some true := by
    decide +kernel
  obtain ⟨simulates, keys⟩ := host_simulates_machine (ω := Recorder)
  obtain ⟨machine, outcomes, _⟩ := simulates waitThenReturn awake 4
  have key := (keys waitThenReturn 1 still).2 0x7
  rw [moved] at key
  have repeated : (waitThenReturn.machine.played waitThenReturn.input 4).repeated 4 =
      [.ok ⟨.awaitingKey, false⟩, .ok ⟨.executed, false⟩, .error .stackUnderflow,
        .error .stackUnderflow] := by
    decide +kernel
  have early : (waitThenReturn.machine.played waitThenReturn.input 4).outcomes.length = 3 := by
    decide +kernel
  exact ⟨awake, key, outcomes.trans repeated, early, machine⟩

end Chip8
