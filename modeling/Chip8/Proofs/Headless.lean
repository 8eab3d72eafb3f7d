import Chip8.Headless.Arguments
import Chip8.Proofs.Alone
import Chip8.Proofs.Runs

/-!
# Headless sessions and the machine on its own

A session without input adds nothing to the run of its machine: it attempts the
same steps, ends with the same fault and leaves the same screen
(`Session.Follows`). So the report of a headless session is known from the run
of a new machine with the program loaded.
-/

namespace Chip8

namespace Host.Session

variable {ω : Type} {s : Session NoInput ω} {r : Run}

/-- A session keeps up with the run of a machine. -/
structure Follows (s : Session NoInput ω) (r : Run) : Prop where
  machine : r.machine.SameButNote s.host.machine
  halted : s.host.halted = r.stopped
  outcome : s.outcome = match r.stopped with
    | none => .ok ()
    | some fault => .error fault
  ticks : s.ticks = r.attempts

variable [OutputDevice ω]

theorem Follows.advance (follows : s.Follows r) (going : r.stopped = none) :
    s.advance.Follows (r.record r.machine.step) := by
  have awake : s.host.halted = none := follows.halted.trans going
  -- without input, the machine that is stepped is that of the host
  have polled : s.host.polled = s.host.machine := rfl
  have step := Machine.unseen_sameButNote.step follows.machine
  refine ⟨?_, ?_, ?_, ?_⟩
  · rw [Run.machine_record]
    show r.machine.step.state.SameButNote s.host.tick.state.machine
    rw [machine_tick awake, polled]
    exact step.state.thenShown
  · rw [Run.stopped_record going, step.outcome]
    exact halted_tick awake
  · rw [Run.stopped_record going, step.outcome]
    show judge s.host.tick.outcome = _
    rw [outcome_tick awake, polled]
    exact judge_eq _
  · rw [Run.attempts_record going, ← follows.ticks]
    rfl

theorem Follows.go (follows : s.Follows r) (n : Nat) : (s.go n).Follows (r.go n) := by
  induction n generalizing s r with
  | zero => exact follows
  | succ n ih =>
      have outcome := follows.outcome
      cases stopped : r.stopped with
      | some fault =>
          rw [stopped] at outcome
          rw [go_of_ended outcome, Run.go_of_stopped stopped]
          exact follows
      | none =>
          rw [stopped] at outcome
          rw [go_succ_of_going outcome, Run.go_succ_of_going stopped]
          exact ih (follows.advance stopped)

end Host.Session

theorem Host.follows_run {ω : Type} [OutputDevice ω] {h : Host NoInput ω} {m : Machine}
    (same : m.SameButNote h.machine) (awake : h.halted = none) (n : Nat) :
    (h.run n).Follows (m.run n) :=
  Session.Follows.go (s := .start h) (r := .start m) ⟨same, awake, rfl, rfl⟩ n

namespace Headless

variable {options : Options} {program : List UInt8}

/-- A new machine with a program in memory. -/
def loaded (random : Generator) (program : List UInt8) : Machine :=
  ((Machine.new random).load program).state

theorem loaded_of_fits (random : Generator) (fits : program.length ≤ 3584) :
    loaded random program = Machine.withMemory (Memory.fresh.place 0x200 program) random := by
  have room : Memory.fresh.install program = .ok (Memory.fresh.place 0x200 program) :=
    if_pos fits
  have memory : (Machine.new random).memory = .fresh := rfl
  rw [loaded, Machine.load, memory, room]
  rfl

theorem run_of_too_large (options : Options) (large : 3584 < program.length) :
    (run options (.ok program)).output = "" ∧ (run options (.ok program)).exitCode = 1 := by
  rw [run, Host.load_of_too_large _ large]
  exact ⟨rfl, rfl⟩

/-- The report of a session is read off the run of its machine. -/
theorem finish_follows {m : Machine} {h : Host NoInput Recorder}
    (same : m.SameButNote h.machine) (awake : h.halted = none) (options : Options)
    (events : List Event) :
    let r := m.run options.steps
    let report := finish options h events
    report.output = r.machine.display.screen.text ∧
      report.failure = r.stopped.map .fault ∧
      ∃ frames tones, report.events.getLast? = some (.finished r.attempts frames tones) := by
  intro r report
  have follows : (h.run options.steps).Follows r := Host.follows_run same awake options.steps
  refine ⟨?_, ?_, ?_⟩
  · show (h.run options.steps).host.machine.display.screen.text = _
    obtain ⟨dirty, machine⟩ := follows.machine
    rw [machine]
  · show failureOf (h.run options.steps).outcome = _
    rw [follows.outcome]
    cases r.stopped <;> rfl
  · rw [← follows.ticks]
    exact ⟨_, _, List.getLast?_concat⟩

/-- A program that has room is run, on a machine that is new but for the note
on its display. -/
theorem run_of_fits (options : Options) (fits : program.length ≤ 3584) :
    ∃ h events, run options (.ok program) = finish options h events ∧
      (loaded (.ofSeed options.seed) program).SameButNote h.machine ∧ h.halted = none := by
  rw [run, Host.load_of_fits _ fits, loaded_of_fits _ fits]
  exact ⟨_, _, rfl, ⟨true, rfl⟩, rfl⟩

theorem exitCode_of_failure {report : Report} {stopped : Option Fault}
    (failure : report.failure = stopped.map .fault) :
    report.exitCode = stopped.isSome.toNat := by
  rw [Report.exitCode, failure]
  cases stopped <;> rfl

end Headless

/-- **A headless session is the machine on its own.** A program without room
prints nothing and fails. For any other, step a new machine with the program in
memory up to as many times as the command line says, faults passed over and a
fatal one the last: the session prints its screen, fails exactly if there was a
fatal fault, and reports the steps attempted. The random numbers of the machine
are those of the seed; if there is none, they may be any, as long as none of
the steps draws one. -/
theorem headless_session_is_machine_run (a : Headless.Arguments) (drawn : UInt64)
    (options : Headless.Options) (given : a.options? drawn = some options)
    (program : List UInt8) :
    let report := Headless.run options (.ok program)
    (3584 < program.length → report.output = "" ∧ report.exitCode = 1) ∧
    (program.length ≤ 3584 → ∀ random,
      (match a.seed with
        | some seed => random = .ofSeed (UInt64.ofNat seed)
        | none => (Headless.loaded random program).Undrawn a.steps) →
      let r := (Headless.loaded random program).run a.steps
      report.output = r.machine.display.screen.text ∧
      report.exitCode = r.stopped.isSome.toNat ∧
      (∃ frames tones, report.events.getLast? = some (.finished r.attempts frames tones)) ∧
      r.machine = (Headless.loaded random program).steps r.attempts ∧
      r.attempts ≤ a.steps ∧ (r.stopped = none → r.attempts = a.steps)) := by
  intro report
  refine ⟨Headless.run_of_too_large options, ?_⟩
  intro fits random known r
  obtain ⟨h, events, run, same, awake⟩ := Headless.run_of_fits options fits
  obtain ⟨output, failure, summary⟩ := Headless.finish_follows same awake options events
  rw [← run] at output failure summary
  obtain ⟨file, _, rfl⟩ := Option.map_eq_some_iff.1 given
  -- with or without a seed, the two runs differ at most in their random numbers
  have alike : r.Rel Machine.SameButRandom
      ((Headless.loaded (.ofSeed ((a.seed.map UInt64.ofNat).getD drawn)) program).run a.steps) := by
    cases seeded : a.seed with
    | some seed =>
        rw [seeded] at known
        subst known
        exact ⟨⟨_, rfl⟩, rfl⟩
    | none =>
        rw [seeded] at known
        refine Machine.SameButRandom.run ?_ known
        rw [Headless.loaded_of_fits _ fits, Headless.loaded_of_fits _ fits]
        exact ⟨_, rfl⟩
  obtain ⟨⟨_, machine⟩, rest⟩ := alike
  have stopped := congrArg Run.stopped rest
  have attempts := congrArg Run.attempts rest
  refine ⟨?_, ?_, ?_, Machine.run_steps _ a.steps⟩
  · rw [output, machine]
  · rw [Headless.exitCode_of_failure failure, stopped]
  · obtain ⟨frames, tones, last⟩ := summary
    rw [last, attempts]
    exact ⟨frames, tones, rfl⟩

/-- A program that draws a glyph, asks for a key that there is not, and then
returns without having been called. -/
def glyphThenReturn : List UInt8 := [0xD0, 0x05, 0x61, 0x10, 0xE1, 0x9E, 0x00, 0xEE]

/-- Without a seed, but without a draw either: what is printed is the screen of
the machine with the seed three after four steps, the last of them fatal. -/
theorem headless_session_is_machine_run_glyph :
    let a : Headless.Arguments := { Headless.Arguments.bare with file := "glyph", steps := 5 }
    ∃ options, a.options? 8 = some options ∧
      let report := Headless.run options (.ok glyphThenReturn)
      report.output =
          ((Headless.loaded (.ofSeed 3) glyphThenReturn).steps 4).display.screen.text ∧
        report.exitCode = 1 ∧
        ∃ frames tones, report.events.getLast? = some (.finished 4 frames tones) := by
  intro a
  have current : (List.range 5).map
      (fun k => ((Headless.loaded (.ofSeed 3) glyphThenReturn).steps k).current?) =
      [some (.draw 0 0 5), some (.setConst 1 0x10), some (.skipKey 1), some .ret,
        some .ret] := by
    decide +kernel
  have undrawn : (Headless.loaded (.ofSeed 3) glyphThenReturn).Undrawn 5 := by
    intro k inside x mask draws
    have among : some (.random x mask) ∈ (List.range 5).map
        (fun k => ((Headless.loaded (.ofSeed 3) glyphThenReturn).steps k).current?) :=
      List.mem_map.2 ⟨k, List.mem_range.2 inside, draws⟩
    rw [current] at among
    simp at among
  have attempted : ((Headless.loaded (.ofSeed 3) glyphThenReturn).run 5).attempts = 4 := by
    decide +kernel
  have stopped : ((Headless.loaded (.ofSeed 3) glyphThenReturn).run 5).stopped =
      some .stackUnderflow := by
    decide +kernel
  obtain ⟨output, exitCode, summary, machine, _⟩ :=
    (headless_session_is_machine_run a 8 _ rfl glyphThenReturn).2 (by decide) (.ofSeed 3) undrawn
  rw [attempted] at summary machine
  rw [machine] at output
  rw [stopped] at exitCode
  exact ⟨_, rfl, output, exitCode, summary⟩

end Chip8
