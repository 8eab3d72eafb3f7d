import Chip8.Machine.Operation

/-!
# Histories

Operations done to a machine one after another, each recorded together with
the machine it was done to and what came of it. A property that every allowed
operation keeps holds all along a history (`forall_history?`), and a history
is there if every allowed operation has an effect (`exists_history?`).
-/

namespace Chip8

/-- One operation, the machine it was done to, and what came of it. -/
structure Moment where
  before : Machine
  operation : Operation
  effect : Effect Machine Answer

/-- The machine after the operation. -/
def Moment.after (x : Moment) : Machine := x.effect.state

namespace Machine

/-- What happens when operations are done one after another. There is no
history where an instruction written by hand names something that the machine
lacks. -/
def history? (m : Machine) : List Operation → Option (List Moment)
  | [] => some []
  | op :: rest =>
    (m.perform? op).bind fun e => (e.state.history? rest).map (⟨m, op, e⟩ :: ·)

/-- The machine at the end of a history that began with it. -/
def atEnd (m : Machine) : List Moment → Machine
  | [] => m
  | x :: rest => x.after.atEnd rest

variable {m : Machine} {op : Operation} {ops : List Operation} {h : List Moment}

theorem history?_cons_iff :
    m.history? (op :: ops) = some h ↔
      ∃ e rest, m.perform? op = some e ∧ e.state.history? ops = some rest ∧
        h = ⟨m, op, e⟩ :: rest := by
  simp only [history?, Option.bind_eq_some_iff, Option.map_eq_some_iff]
  constructor
  · rintro ⟨e, he, rest, hr, rfl⟩
    exact ⟨e, rest, he, hr, rfl⟩
  · rintro ⟨e, rest, he, hr, rfl⟩
    exact ⟨e, he, rest, hr, rfl⟩

/-- A history cut in two is two histories, the second of the machine that the
first one leaves. -/
theorem history?_append {first second : List Moment}
    (run : m.history? ops = some (first ++ second)) :
    ∃ done todo, ops = done ++ todo ∧ m.history? done = some first ∧
      (m.atEnd first).history? todo = some second := by
  -- each moment of the first part uses up one operation
  induction first generalizing m ops with
  | nil => exact ⟨[], ops, rfl, rfl, run⟩
  | cons x rest ih =>
      cases ops with
      | nil => simp [history?] at run
      | cons op ops =>
          obtain ⟨e, later, he, hl, hx⟩ := history?_cons_iff.1 run
          rw [List.cons_append, List.cons.injEq] at hx
          obtain ⟨rfl, rfl⟩ := hx
          obtain ⟨done, todo, rfl, hdone, htodo⟩ := ih hl
          refine ⟨op :: done, todo, rfl, ?_, htodo⟩
          exact history?_cons_iff.2 ⟨e, rest, he, hdone, rfl⟩

/-- What every allowed operation keeps holds before and after each moment of a
history, and at its end. -/
theorem forall_history? {Allowed : Operation → Prop} {P : Machine → Prop}
    (kept : ∀ m op e, Allowed op → P m → m.perform? op = some e → P e.state)
    (start : P m) (allowed : ∀ op ∈ ops, Allowed op) (run : m.history? ops = some h) :
    (∀ x ∈ h, Allowed x.operation ∧ x.before.perform? x.operation = some x.effect ∧
      P x.before ∧ P x.after) ∧ P (m.atEnd h) := by
  induction ops generalizing m h with
  | nil =>
      cases run
      exact ⟨by simp, start⟩
  | cons op ops ih =>
      obtain ⟨e, rest, he, hr, rfl⟩ := history?_cons_iff.1 run
      have now : Allowed op := allowed op (by simp)
      have next : P e.state := kept m op e now start he
      obtain ⟨later, last⟩ := ih next (fun op hop => allowed op (by simp [hop])) hr
      refine ⟨?_, last⟩
      intro x hx
      rcases List.mem_cons.1 hx with rfl | hx
      · exact ⟨now, he, start, next⟩
      · exact later x hx

/-- Each moment of a history is what came of its operation. -/
theorem perform?_of_mem_history? {x : Moment} (run : m.history? ops = some h) (among : x ∈ h) :
    x.before.perform? x.operation = some x.effect := by
  have kept : ∀ m op e, True → True → Machine.perform? m op = some e → True :=
    fun _ _ _ _ _ _ => trivial
  obtain ⟨all, _⟩ := forall_history? (P := fun _ => True) kept trivial (fun _ _ => trivial) run
  exact (all x among).2.1

theorem atEnd_concat (m : Machine) (h : List Moment) (x : Moment) :
    m.atEnd (h ++ [x]) = x.after := by
  induction h generalizing m with
  | nil => rfl
  | cons y rest ih => exact ih y.after

/-- Operations that always have an effect have a history. -/
theorem exists_history? {Allowed : Operation → Prop}
    (does : ∀ m op, Allowed op → ∃ e, Machine.perform? m op = some e)
    (m : Machine) (allowed : ∀ op ∈ ops, Allowed op) : ∃ h, m.history? ops = some h := by
  induction ops generalizing m with
  | nil => exact ⟨[], rfl⟩
  | cons op ops ih =>
      obtain ⟨e, he⟩ := does m op (allowed op (by simp))
      obtain ⟨rest, hr⟩ := ih e.state (fun op hop => allowed op (by simp [hop]))
      exact ⟨⟨m, op, e⟩ :: rest, history?_cons_iff.2 ⟨e, rest, he, hr, rfl⟩⟩

end Machine

end Chip8
