import Chip8.Proofs.Attempts

/-!
# Where tones come from

A tone needs a sound timer that runs, and a timer that stands still is started
by one instruction alone, by a register that is not zero. Count one for a timer
that runs: then an operation never reports more than it finds running and
starts itself (`reportsTone_add_running_le`), and over a history the tones are
paid for one by one (`tones_add_running_le`). A step that reports a tone leaves
the timer at rest, so the next tone has a cause of its own.
-/

namespace Chip8

/-- Whether an attempted instruction starts the sound timer. -/
def Attempt.startsTone (a : Attempt) : Bool :=
  match a.instruction with
  | .setSound x => a.before.reg x ≠ 0
  | _ => false

/-- Whether a moment reports that a tone ended. -/
def Moment.reportsTone (x : Moment) : Bool :=
  match x.effect.outcome with
  | .ok (.step s) => s.tone
  | _ => false

namespace Machine

variable {m : Machine} {op : Operation} {e : Effect Machine Answer} {ops : List Operation}
  {h : List Moment}

/-- One if the sound timer runs, and zero if it is at rest. -/
def running (m : Machine) : Nat := if m.sound = 0 then 0 else 1

/-! ## One instruction -/

/-- What runs after an instruction ran before it or was started by it. -/
theorem running_execute_le (m : Machine) (i : Instruction Nibble) :
    (m.execute i).state.running ≤
      m.running + [(⟨m, i⟩ : Attempt)].countP Attempt.startsTone := by
  have sound := m.sound_execute i
  cases i with
  | setSound x =>
      simp only [running, sound, List.countP_singleton, Attempt.startsTone]
      by_cases zero : m.reg x = 0 <;> simp [zero]
  | _ =>
      simp only [running, sound]
      exact Nat.le_add_right _ _

/-! ## One operation -/

/-- Counting down ends a tone or keeps what runs. -/
theorem endsTone_add_running (m : Machine) :
    (if m.endsTone then 1 else 0) + m.tickTimers.running = m.running := by
  by_cases zero : m.sound = 0
  · simp [endsTone, tickTimers, running, zero]
  · by_cases one : m.sound = 1
    · simp [endsTone, tickTimers, running, one]
    · have rest : m.sound - 1 ≠ 0 := fun same => one (UInt8.sub_eq_iff_eq_add.1 same)
      simp [endsTone, tickTimers, running, zero, one, rest]

theorem running_tickTimers_le (m : Machine) : m.tickTimers.running ≤ m.running := by
  have counted := m.endsTone_add_running
  omega

/-- The attempted instruction of a step may start the timer, and only then is it
counted down. -/
theorem reportsTone_add_running_step_le (m : Machine) :
    (if Moment.reportsTone ⟨m, .step, m.step.map .step⟩ then 1 else 0) + m.step.state.running ≤
      m.running + (m.attempts .step).countP Attempt.startsTone := by
  cases m.step_cases with
  | nowhere past eq | unknown inside undecoded eq | undone i fault current refusal fatal eq =>
      rw [eq]
      simp only [Moment.reportsTone, Effect.map, Except.map, Bool.false_eq_true, if_false]
      omega
  | passed i fault current refusal mild eq =>
      -- what is refused starts nothing, but time passes
      have counted : m.advance.tickTimers.running ≤ m.running := m.advance.running_tickTimers_le
      rw [eq]
      simp only [Moment.reportsTone, Effect.map, Except.map, Bool.false_eq_true, if_false]
      omega
  | carried i progress current ok eq =>
      have counted := (m.advance.execute i).state.endsTone_add_running
      have started : (m.advance.execute i).state.running ≤
          m.running + [(⟨m.advance, i⟩ : Attempt)].countP Attempt.startsTone :=
        m.advance.running_execute_le i
      rw [eq, attempts_step_of_some current]
      show (if (m.advance.execute i).state.endsTone then 1 else 0) +
        (m.advance.execute i).state.tickTimers.running ≤ _
      omega

/-- Without a step, time does not pass, and what runs afterwards ran before or was
started. -/
theorem running_perform?_le (other : op ≠ .step) (does : m.perform? op = some e) :
    e.state.running ≤ m.running + (m.attempts op).countP Attempt.startsTone := by
  cases instructs : op.instructs with
  | true =>
      refine perform?_induction
        (P := fun m attempts n => n.running ≤ m.running + attempts.countP Attempt.startsTone)
        (fun m => Nat.le_add_right _ _) ?_ instructs other does
      intro m i rest n later
      have started := m.running_execute_le i
      rw [List.countP_singleton] at started
      rw [List.countP_cons]
      omega
  | false =>
      have rest := perform?_of_not_instructs instructs does
      split at rest
      · obtain ⟨memory, state⟩ := rest
        rw [state]
        exact Nat.zero_le _
      · obtain ⟨memory, display, keypad, state⟩ := rest
        rw [state]
        exact Nat.le_add_right _ _

/-- Only steps report tones. -/
theorem reportsTone_map {α : Type} {answer : α → Answer} (other : ∀ a s, answer a ≠ .step s)
    (m : Machine) (op : Operation) (x : Effect Machine α) :
    Moment.reportsTone ⟨m, op, x.map answer⟩ = false := by
  simp only [Moment.reportsTone, Effect.map]
  cases x.outcome with
  | error fault => rfl
  | ok a =>
      simp only [Except.map]
      split
      · next s same => exact absurd (Except.ok.inj same) (other a s)
      · rfl

theorem reportsTone_of_ne_step (other : op ≠ .step) (does : m.perform? op = some e) :
    Moment.reportsTone ⟨m, op, e⟩ = false := by
  have progress (a : Progress) (s : Step) : Answer.progress a ≠ .step s := by simp
  have done (a : Unit) (s : Step) : Answer.done ≠ .step s := by simp
  cases op with
  | step => exact absurd rfl other
  | load => cases does; exact reportsTone_map done m _ _
  | executeWord => cases does; exact reportsTone_map progress m _ _
  | execute =>
      simp only [perform?, Option.map_eq_some_iff] at does
      obtain ⟨x, _, rfl⟩ := does
      exact reportsTone_map progress m _ x
  | executeAll =>
      simp only [perform?, Option.map_eq_some_iff] at does
      obtain ⟨x, _, rfl⟩ := does
      exact reportsTone_map done m _ x
  | setKey key isDown =>
      simp only [perform?] at does
      split at does <;> cases does <;> rfl
  | reset | coldReset | releaseKeys | draw | wipe | markShown => cases does; rfl

/-- No operation reports more tones than run before it or are started by it. -/
theorem reportsTone_add_running_le (does : m.perform? op = some e) :
    (if Moment.reportsTone ⟨m, op, e⟩ then 1 else 0) + e.state.running ≤
      m.running + (m.attempts op).countP Attempt.startsTone := by
  by_cases step : op = .step
  · subst step
    cases does
    exact m.reportsTone_add_running_step_le
  · rw [reportsTone_of_ne_step step does, if_neg Bool.false_ne_true, Nat.zero_add]
    exact running_perform?_le step does

/-! ## Histories -/

theorem tones_add_running_le (run : m.history? ops = some h) :
    h.countP Moment.reportsTone + (m.atEnd h).running ≤
      m.running + (h.flatMap Moment.attempts).countP Attempt.startsTone := by
  induction ops generalizing m h with
  | nil =>
      cases run
      exact Nat.le_of_eq (Nat.add_comm _ _)
  | cons op ops ih =>
      obtain ⟨e, rest, does, later, rfl⟩ := history?_cons_iff.1 run
      have now := reportsTone_add_running_le does
      have next := ih later
      rw [List.countP_cons, List.flatMap_cons, List.countP_append]
      show _ + (e.state.atEnd rest).running ≤ m.running + ((m.attempts op).countP _ + _)
      omega

/-- A tone leaves the timer at rest. -/
theorem running_of_reportsTone (does : m.perform? op = some e)
    (tone : Moment.reportsTone ⟨m, op, e⟩ = true) : e.state.running = 0 := by
  by_cases step : op = .step
  · subst step
    cases does
    cases outcome : m.step.outcome with
    | error fault => simp [Moment.reportsTone, Effect.map, Except.map, outcome] at tone
    | ok s =>
        obtain ⟨i, _, _, ends, state⟩ := step_of_ok outcome
        have finished : (m.advance.execute i).state.sound = 1 := by
          simpa [Moment.reportsTone, Effect.map, Except.map, outcome, ends, endsTone] using tone
        show m.step.state.running = 0
        rw [state]
        simp [running, tickTimers, finished]
  · rw [reportsTone_of_ne_step step does] at tone
    cases tone

/-- Between two tones, and in the second one's own step at the latest, the timer
is started. -/
theorem exists_startsTone_between {before between after : List Moment} {x y : Moment}
    (run : m.history? ops = some (before ++ x :: between ++ y :: after))
    (first : x.reportsTone = true) (second : y.reportsTone = true) :
    ∃ a ∈ (between ++ [y]).flatMap Moment.attempts, a.startsTone = true := by
  have cut : before ++ x :: between ++ y :: after =
      (before ++ [x]) ++ ((between ++ [y]) ++ after) := by simp
  rw [cut] at run
  obtain ⟨_, _, _, early, late⟩ := history?_append run
  obtain ⟨_, _, _, middle, _⟩ := history?_append late
  have rest : x.after.running = 0 := by
    have among : x ∈ before ++ [x] := by simp
    exact running_of_reportsTone (perform?_of_mem_history? early among) first
  have paid := tones_add_running_le middle
  have start : m.atEnd (before ++ [x]) = x.after := m.atEnd_concat before x
  rw [start, rest, Nat.zero_add] at paid
  have heard : 0 < (between ++ [y]).countP Moment.reportsTone :=
    List.countP_pos_iff.2 ⟨y, by simp, second⟩
  apply List.countP_pos_iff.1
  omega

end Machine

/-- **No tone without a cause.** Whatever is done to a new machine: the steps
that report a tone, and one more if the sound timer runs at the end, are never
more than the attempted instructions that put a register other than zero into
the sound timer. A step that reports a tone leaves the timer at rest, and
between two of them, the second one included, the timer is started again. -/
theorem no_tone_without_cause (random : Generator) (ops : List Operation) (h : List Moment)
    (run : (Machine.new random).history? ops = some h) :
    h.countP Moment.reportsTone +
        (if ((Machine.new random).atEnd h).sound = 0 then 0 else 1) ≤
      (h.flatMap Moment.attempts).countP Attempt.startsTone ∧
    (∀ x ∈ h, x.reportsTone = true → x.after.sound = 0) ∧
    ∀ before x between y after, h = before ++ x :: between ++ y :: after →
      x.reportsTone = true → y.reportsTone = true →
      ∃ a ∈ (between ++ [y]).flatMap Moment.attempts, a.startsTone = true := by
  refine ⟨?_, ?_, ?_⟩
  · have paid := Machine.tones_add_running_le run
    have atRest : (Machine.new random).running = 0 := rfl
    rwa [atRest, Nat.zero_add] at paid
  · intro x among tone
    have atRest : x.after.running = 0 :=
      Machine.running_of_reportsTone (Machine.perform?_of_mem_history? run among) tone
    simpa [Machine.running] using atRest
  · rintro before x between y after rfl first second
    exact Machine.exists_startsTone_between run first second

/-- A tone of one step, a long one that is cut short by another of one step, and
one started by hand that a reset puts an end to. -/
def overlappingTones : List Operation :=
  [.load [0x60, 0x01, 0xF0, 0x18, 0x61, 0x09, 0xF1, 0x18, 0xF0, 0x18], .step, .step, .step,
    .step, .step, .execute (.setSound 1), .reset]

/-- Two of these four are reported. -/
theorem no_tone_without_cause_overlapping :
    ∃ h, (Machine.new (.ofSeed 1)).history? overlappingTones = some h ∧
      h.countP Moment.reportsTone = 2 ∧
      (h.flatMap Moment.attempts).countP Attempt.startsTone = 4 ∧
      h.countP Moment.reportsTone +
          (if ((Machine.new (.ofSeed 1)).atEnd h).sound = 0 then 0 else 1) ≤ 4 ∧
      ∀ x ∈ h, x.reportsTone = true → x.after.sound = 0 := by
  have counts : ((Machine.new (.ofSeed 1)).history? overlappingTones).map
      (fun h => (h.countP Moment.reportsTone,
        (h.flatMap Moment.attempts).countP Attempt.startsTone)) = some (2, 4) := by
    decide +kernel
  obtain ⟨h, run, counted⟩ := Option.map_eq_some_iff.1 counts
  obtain ⟨tones, causes⟩ := Prod.mk.inj counted
  obtain ⟨paid, oneShot, _⟩ := no_tone_without_cause _ _ h run
  rw [causes] at paid
  exact ⟨h, run, tones, causes, paid, oneShot⟩

end Chip8
