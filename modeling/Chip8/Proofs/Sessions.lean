import Chip8.Proofs.Halt

/-!
# Sessions are ticks in a row

A session ends at the first fatal fault, and so many ticks in a row go on past
it. The difference cannot be seen: the fault halts the host, and from there on
the ticks do nothing and write nothing. So a session leaves the host as the
ticks leave it and writes what they write (`Session.inStep_go`), whatever else
goes wrong on the way, and its outcome is the halt that it leaves
(`verdict`). Sessions one after another are therefore one longer session.
-/

namespace Chip8

namespace Host

/-- The fault that a host is halted with, as the outcome of a session. -/
def verdict {ι ω : Type} (h : Host ι ω) : Except Fault Unit :=
  match h.halted with
  | none => .ok ()
  | some fault => .error fault

theorem verdict_eq_error_iff {ι ω : Type} {h : Host ι ω} {fault : Fault} :
    h.verdict = .error fault ↔ h.halted = some fault := by
  unfold verdict
  cases h.halted <;> simp

theorem verdict_eq_ok_iff {ι ω : Type} {h : Host ι ω} :
    h.verdict = .ok () ↔ h.halted = none := by
  unfold verdict
  cases h.halted <;> simp

variable {ι ω : Type} [InputDevice ι] [OutputDevice ω] {h : Host ι ω} {fault : Fault}

/-! ## Ticks in a row -/

/-- What some ticks write to the log, oldest first. -/
def logs (h : Host ι ω) : Nat → List Event
  | 0 => []
  | n + 1 => h.tick.log ++ h.tick.state.logs n

theorem logs_of_halted (halted : h.halted = some fault) (n : Nat) : h.logs n = [] := by
  induction n with
  | zero => rfl
  | succ n ih => rw [logs, tick_of_halted halted, ih, List.append_nil]

theorem ticks_add (h : Host ι ω) (m n : Nat) : h.ticks (m + n) = (h.ticks m).ticks n := by
  induction m generalizing h with
  | zero => rw [Nat.zero_add, ticks]
  | succ m ih => rw [Nat.succ_add, ticks, ticks, ih]

theorem logs_add (h : Host ι ω) (m n : Nat) :
    h.logs (m + n) = h.logs m ++ (h.ticks m).logs n := by
  induction m generalizing h with
  | zero => rw [Nat.zero_add, logs, ticks, List.nil_append]
  | succ m ih => rw [Nat.succ_add, logs, logs, ticks, ih, List.append_assoc]

/-- Only fatal faults halt the host. -/
def HaltsFatally (h : Host ι ω) : Prop := ∀ fault, h.halted = some fault → fault.isFatal = true

theorem HaltsFatally.tick (fatal : h.HaltsFatally) : h.tick.state.HaltsFatally :=
  fun _ halted => ((halted_tick_iff fatal).2 halted).2

theorem HaltsFatally.ticks (fatal : h.HaltsFatally) (n : Nat) : (h.ticks n).HaltsFatally :=
  ticks_keeps (P := HaltsFatally) (fun _ fatal => fatal.tick) fatal n

/-- A session judges a tick by the halt that the tick leaves. -/
theorem judge_tick (fatal : h.HaltsFatally) :
    Session.judge h.tick.outcome = h.tick.state.verdict := by
  rw [Session.judge_eq]
  cases halted : h.halted with
  | none =>
      rw [outcome_tick halted, ← halted_tick halted]
      rfl
  | some fault =>
      have isFatal : fatalOf (.error fault) = some fault := if_pos (fatal fault halted)
      simp only [tick_of_halted halted, verdict, halted, isFatal]

/-! ## Sessions -/

/-- A session that has done to its host, since another, what some ticks do to
it. -/
structure Session.InStep (s t : Session ι ω) (n : Nat) : Prop where
  host : t.host = s.host.ticks n
  log : t.log.toList = s.log.toList ++ s.host.logs n
  outcome : t.outcome = if n = 0 then .ok () else (s.host.ticks n).verdict
  ticks : (s.host.ticks n).halted = none → t.ticks = s.ticks + n

theorem Session.inStep_go (s : Session ι ω) (going : s.outcome = .ok ())
    (fatal : s.host.HaltsFatally) (n : Nat) : s.InStep (s.go n) n := by
  induction n generalizing s with
  | zero => exact ⟨rfl, (List.append_nil _).symm, going, fun _ => rfl⟩
  | succ n ih =>
      rw [go_succ_of_going going]
      have judged : s.advance.outcome = s.host.tick.state.verdict := judge_tick fatal
      have written : s.advance.log.toList = s.log.toList ++ s.host.tick.log := by
        simp [advance]
      cases halted : s.host.tick.state.halted with
      | some fault =>
          -- the session ends here, and there is nothing in what it leaves out
          have ended : s.advance.outcome = .error fault :=
            judged.trans (verdict_eq_error_iff.2 halted)
          have still : s.host.ticks (n + 1) = s.host.tick.state := ticks_of_halted halted n
          rw [go_of_ended ended]
          refine ⟨still.symm, ?_, ?_, ?_⟩
          · rw [written, logs, logs_of_halted halted, List.append_nil]
          · rw [still, if_neg n.succ_ne_zero, judged]
          · intro awake
            rw [still, halted] at awake
            cases awake
      | none =>
          have goesOn : s.advance.outcome = .ok () := judged.trans (verdict_eq_ok_iff.2 halted)
          obtain ⟨host, log, outcome, ticks⟩ := ih s.advance goesOn fatal.tick
          refine ⟨host, ?_, ?_, ?_⟩
          · rw [log, written, List.append_assoc]
            rfl
          · rw [outcome, if_neg n.succ_ne_zero]
            cases n with
            | zero => exact (verdict_eq_ok_iff.2 halted).symm
            | succ n => rfl
          · intro awake
            rw [ticks awake]
            show s.ticks + 1 + n = s.ticks + (n + 1)
            omega

theorem inStep_run (fatal : h.HaltsFatally) (n : Nat) :
    (Session.start h).InStep (h.run n) n :=
  (Session.start h).inStep_go rfl fatal n

theorem run_run (fatal : h.HaltsFatally) (m n : Nat) :
    ((h.run m).host.run n).host = (h.run (m + n)).host ∧
      (h.run (m + n)).log.toList = (h.run m).log.toList ++ ((h.run m).host.run n).log.toList := by
  have first : (h.run m).host = h.ticks m := (inStep_run fatal m).host
  have second := inStep_run (fatal.ticks m) n
  have both := inStep_run fatal (m + n)
  rw [first]
  constructor
  · rw [second.host, both.host]
    exact (h.ticks_add m n).symm
  · rw [second.log, both.log, (inStep_run fatal m).log]
    exact h.logs_add m n

end Host

/-- **A run is ticks in a row.** Wherever actions lead a new host, halted or
not: a run of it leaves machine, devices and halt, and writes to the log, what
as many ticks in a row leave and write, though it ends at the first fatal
fault. It answers a fault exactly if it was to make a tick at all and the host
is halted with that fault afterwards; other faults do not end it, so that a
run that leaves the host not halted has made every tick. And two runs are one
run. -/
theorem run_is_ticks {ι ω : Type} [InputDevice ι] [OutputDevice ω] (machine : Machine)
    (input : ι) (output : ω) (pacing : Pacing) (actions : List Host.Action) (h : Host ι ω)
    (does : (Host.new machine input output pacing).after? actions = some h) :
    (∀ n,
      (h.run n).host = h.ticks n ∧ (h.run n).log.toList = h.logs n ∧
      (∀ fault, (h.run n).outcome = .error fault ↔
        0 < n ∧ (h.run n).host.halted = some fault) ∧
      ((h.run n).outcome = .ok () ↔ n = 0 ∨ (h.run n).host.halted = none) ∧
      ((h.run n).host.halted = none → (h.run n).ticks = n)) ∧
    ∀ m n,
      ((h.run m).host.run n).host = (h.run (m + n)).host ∧
      (h.run (m + n)).log.toList = (h.run m).log.toList ++ ((h.run m).host.run n).log.toList := by
  have fatal : h.HaltsFatally := fun _ => Host.isFatal_of_halted rfl does
  refine ⟨?_, Host.run_run fatal⟩
  intro n
  obtain ⟨host, log, outcome, ticks⟩ := Host.inStep_run fatal n
  change (h.run n).host = h.ticks n at host
  change (h.run n).outcome = if n = 0 then .ok () else (h.ticks n).verdict at outcome
  rw [host]
  refine ⟨rfl, log, ?_, ?_, ?_⟩
  · intro fault
    rw [outcome, ← Host.verdict_eq_error_iff]
    by_cases none : n = 0
    · simp [none]
    · simp [none, Nat.pos_of_ne_zero none]
  · rw [outcome, ← Host.verdict_eq_ok_iff]
    by_cases none : n = 0 <;> simp [none]
  · intro awake
    exact (ticks awake).trans (Nat.zero_add n)

/-- A run of nine ticks that is over after two: the first one asks for a key
that there is not and is passed over, and the second one halts the host. A run
of the first tick alone answers no fault, and one of the other eight makes up
for the rest. -/
theorem run_is_ticks_underflow :
    ∃ h, unattended.after? [.load lonelyReturn, .tick] = some h ∧
      (h.run 9).ticks = 2 ∧ (h.run 9).host = h.ticks 9 ∧
      (h.run 9).outcome = .error .stackUnderflow ∧
      h.tick.outcome = .error (.invalidKey 0x10) ∧ (h.run 1).outcome = .ok () ∧
      ((h.run 1).host.run 8).host = h.ticks 9 := by
  let h := (unattended.load lonelyReturn).state.tick.state
  have does : unattended.after? [.load lonelyReturn, .tick] = some h := by
    rw [Host.after?_load, Host.after?_tick, Host.after?_nil]
  have early : (h.run 9).ticks = 2 := by decide +kernel
  have halted : (h.run 9).host.halted = some .stackUnderflow := by decide +kernel
  have passed : h.tick.outcome = .error (.invalidKey 0x10) := by decide +kernel
  have awake : (h.run 1).host.halted = none := by decide +kernel
  obtain ⟨runs, joined⟩ := run_is_ticks _ _ _ _ _ h does
  obtain ⟨host, _, fails, _⟩ := runs 9
  obtain ⟨_, _, _, succeeds, _⟩ := runs 1
  exact ⟨h, does, early, host, (fails _).2 ⟨by decide, halted⟩, passed,
    succeeds.2 (.inr awake), (joined 1 8).1.trans host⟩

end Chip8
