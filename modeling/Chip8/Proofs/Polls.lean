import Chip8.Proofs.Actions

/-!
# Counting polls

How often a host polls its input is read off an input that counts its polls
and is otherwise any other one, `Tallied`. The count is of no consequence: a
host does with it what it does without it (`untallied_perform?`). And it goes
up by one on each tick of a host that is not halted, and on nothing else
(`polls_tick`, `polls_after?`).
-/

namespace Chip8

/-- An input, and the number of times it was polled. -/
structure Tallied (ι : Type) where
  device : ι
  polls : Nat

namespace Tallied

/-- An input that was not polled yet. -/
def start {ι : Type} (device : ι) : Tallied ι := ⟨device, 0⟩

instance {ι : Type} [InputDevice ι] : InputDevice (Tallied ι) where
  poll t keypad :=
    let (device, keypad) := InputDevice.poll t.device keypad
    (⟨device, t.polls + 1⟩, keypad)

end Tallied

namespace Host

/-- The host that counts its polls from now on. -/
def tallied {ι ω : Type} (h : Host ι ω) : Host (Tallied ι) ω :=
  ⟨h.machine, .start h.input, h.output, h.pacing, h.halted⟩

/-- The host without the count. -/
def untallied {ι ω : Type} (t : Host (Tallied ι) ω) : Host ι ω :=
  ⟨t.machine, t.input.device, t.output, t.pacing, t.halted⟩

theorem untallied_refresh {ι ω : Type} [OutputDevice ω] (t : Host (Tallied ι) ω) :
    t.untallied.refresh = t.refresh.untallied := by
  cases drawn : t.machine.display.dirty <;> simp [refresh, untallied, drawn]

variable {ι ω : Type} [InputDevice ι] [OutputDevice ω]

/-- How many of some ticks find the host not halted. -/
def wakefulTicks (h : Host ι ω) (n : Nat) : Nat :=
  (List.range n).countP fun k => (h.ticks k).halted.isNone

/-- How many ticks an action makes that find the host not halted. -/
def wakeful (h : Host ι ω) : Action → Nat
  | .tick => h.wakefulTicks 1
  | .run n => h.wakefulTicks (h.run n).ticks
  | .load _ | .operate _ => 0

/-- How many ticks some actions make that find the host not halted. -/
def wakefulIn (h : Host ι ω) : List Action → Nat
  | [] => 0
  | a :: rest =>
    h.wakeful a +
      match h.perform? a with
      | some e => e.state.wakefulIn rest
      | none => 0

/-! ## The count is of no consequence -/

theorem untallied_tick (t : Host (Tallied ι) ω) :
    t.untallied.tick = ⟨t.tick.outcome, t.tick.state.untallied, t.tick.log⟩ := by
  cases halted : t.halted with
  | some fault => rw [tick_of_halted halted, tick_of_halted (h := t.untallied) halted]
  | none =>
      -- polled, the two hosts step the same machine
      have refreshed : t.untallied.stepped.refresh = t.stepped.refresh.untallied :=
        untallied_refresh t.stepped
      cases outcome : t.polled.step.outcome with
      | ok s =>
          rw [tick_of_ok halted outcome, tick_of_ok (h := t.untallied) halted outcome, refreshed]
          cases s.tone <;> rfl
      | error fault =>
          cases fatal : fault.isFatal with
          | true =>
              rw [tick_of_fatal halted outcome fatal,
                tick_of_fatal (h := t.untallied) halted outcome fatal, refreshed]
              rfl
          | false =>
              rw [tick_of_mild halted outcome fatal,
                tick_of_mild (h := t.untallied) halted outcome fatal, refreshed]
              rfl

theorem untallied_ticks (t : Host (Tallied ι) ω) (n : Nat) :
    t.untallied.ticks n = (t.ticks n).untallied := by
  induction n generalizing t with
  | zero => rfl
  | succ n ih =>
      rw [ticks, ticks, untallied_tick]
      exact ih t.tick.state

/-- The session without the count. -/
def Session.untallied (s : Session (Tallied ι) ω) : Session ι ω :=
  ⟨s.host.untallied, s.ticks, s.outcome, s.log⟩

theorem Session.untallied_go (s : Session (Tallied ι) ω) (n : Nat) :
    s.untallied.go n = (s.go n).untallied := by
  induction n generalizing s with
  | zero => rfl
  | succ n ih =>
      have next : s.untallied.advance = s.advance.untallied := by
        show (⟨s.host.untallied.tick.state, _, judge s.host.untallied.tick.outcome,
          s.log ++ s.host.untallied.tick.log⟩ : Session ι ω) = _
        rw [untallied_tick]
        rfl
      have same : s.untallied.outcome = s.outcome := rfl
      cases outcome : s.outcome with
      | error fault => rw [go_of_ended (same.trans outcome), go_of_ended outcome]
      | ok =>
          rw [go_succ_of_going (same.trans outcome), go_succ_of_going outcome, next]
          exact ih s.advance

theorem untallied_run (t : Host (Tallied ι) ω) (n : Nat) :
    t.untallied.run n = (t.run n).untallied :=
  Session.untallied_go (.start t) n

theorem untallied_perform? (t : Host (Tallied ι) ω) (a : Action) :
    t.untallied.perform? a =
      (t.perform? a).map fun e => ⟨e.outcome, e.state.untallied, e.log⟩ := by
  cases a with
  | tick => simp only [perform?, untallied_tick, Option.map_some]; rfl
  | run n => simp only [perform?, untallied_run, Option.map_some]; rfl
  | load program =>
      simp only [perform?, Option.map_some]
      rcases Nat.lt_or_ge 3584 program.length with large | fits
      · rw [load_of_too_large t large, load_of_too_large t.untallied large]; rfl
      · rw [load_of_fits t fits, load_of_fits t.untallied fits]; rfl
  | operate op =>
      show (t.machine.perform? op).map _ = ((t.machine.perform? op).map _).map _
      rw [Option.map_map]
      rfl

theorem wakefulTicks_untallied (t : Host (Tallied ι) ω) (n : Nat) :
    t.untallied.wakefulTicks n = t.wakefulTicks n := by
  simp only [wakefulTicks, untallied_ticks]
  rfl

theorem wakeful_untallied (t : Host (Tallied ι) ω) (a : Action) :
    t.untallied.wakeful a = t.wakeful a := by
  cases a with
  | tick => exact wakefulTicks_untallied t 1
  | run n =>
      show t.untallied.wakefulTicks (t.untallied.run n).ticks = t.wakefulTicks (t.run n).ticks
      rw [untallied_run, wakefulTicks_untallied]
      rfl
  | load | operate => rfl

/-! ## What the count is -/

/-- A tick polls once unless the host is halted. -/
theorem polls_tick (t : Host (Tallied ι) ω) :
    t.tick.state.input.polls = t.input.polls + t.halted.isNone.toNat := by
  cases halted : t.halted with
  | some fault => rw [tick_of_halted halted]; rfl
  | none => rw [input_tick halted]; rfl

theorem polls_ticks (t : Host (Tallied ι) ω) (n : Nat) :
    (t.ticks n).input.polls = t.input.polls + t.wakefulTicks n := by
  induction n generalizing t with
  | zero => rfl
  | succ n ih =>
      have later := ih t.tick.state
      have now := polls_tick t
      rw [wakefulTicks, countP_range_succ]
      show (t.tick.state.ticks n).input.polls =
        t.input.polls + (t.halted.isNone.toNat + t.tick.state.wakefulTicks n)
      omega

theorem polls_perform? {t : Host (Tallied ι) ω} {a : Action}
    {e : Effect (Host (Tallied ι) ω) Answer} (does : t.perform? a = some e) :
    e.state.input.polls = t.input.polls + t.wakeful a := by
  cases a with
  | tick => cases does; exact polls_ticks t 1
  | run n =>
      cases does
      show (t.run n).host.input.polls = _
      rw [host_run]
      exact polls_ticks t _
  | load program =>
      cases does
      show (t.load program).state.input.polls = _
      obtain ⟨_, _, state⟩ := t.state_load program
      rw [state]
      rfl
  | operate op =>
      obtain ⟨x, _, rfl⟩ := operate?_eq_some_iff.1 does
      rfl

/-- A host that counts its polls goes where the same actions lead it without
the count, and has by then polled once for each tick that found it not
halted. -/
theorem polls_after? {t : Host (Tallied ι) ω} {actions : List Action} {k : Host ι ω}
    (does : t.untallied.after? actions = some k) :
    ∃ t', t.after? actions = some t' ∧ t'.untallied = k ∧
      t'.input.polls = t.input.polls + t.untallied.wakefulIn actions := by
  induction actions generalizing t with
  | nil => cases does; exact ⟨t, rfl, rfl, rfl⟩
  | cons a actions ih =>
      obtain ⟨e, did, later⟩ := after?_cons_iff.1 does
      have without := did
      rw [untallied_perform?, Option.map_eq_some_iff] at did
      obtain ⟨x, performed, rfl⟩ := did
      obtain ⟨t', leads, same, count⟩ := ih later
      refine ⟨t', after?_cons_iff.2 ⟨x, performed, leads⟩, same, ?_⟩
      have polls := polls_perform? performed
      rw [wakefulIn, without, wakeful_untallied]
      show _ = t.input.polls + (t.wakeful a + x.state.untallied.wakefulIn actions)
      omega

end Host

end Chip8
