import Chip8.Proofs.History
import Chip8.Proofs.Operations
import Chip8.Proofs.Step

/-!
# Attempted instructions

The instructions that an operation attempts, each with the machine that it
finds, so that it is known what each of them did. `Machine.Leads` says how an
operation gets by them from one machine to another: between two instructions a
machine moves on and its timers run, and nothing else happens
(`leads_perform?`). What neither movement nor time touches is therefore changed
by the attempted instructions and by nothing in between. An operation that
carries out none starts the machine over, or stays with memory, screen and keys
(`perform?_of_not_instructs`).
-/

namespace Chip8

/-- An instruction that is attempted, and the machine that it finds. -/
structure Attempt where
  before : Machine
  instruction : Instruction Nibble

/-- The machine that it leaves. -/
def Attempt.after (a : Attempt) : Machine := (a.before.execute a.instruction).state

/-- Whether an operation carries out instructions. -/
def Operation.instructs : Operation → Bool
  | .step | .execute _ | .executeWord _ | .executeAll _ => true
  | _ => false

/-- Whether an operation starts the machine over. -/
def Operation.isReset : Operation → Bool
  | .reset | .coldReset => true
  | _ => false

theorem Operation.isReset_of_instructs {op : Operation} (instructs : op.instructs = true) :
    op.isReset = false := by
  cases op with
  | reset | coldReset => cases instructs
  | _ => rfl

namespace Machine

variable {m n : Machine} {op : Operation} {e : Effect Machine Answer}

/-- The instructions out of some written by hand that are attempted. One that
is refused is the last. -/
def attemptsAll (m : Machine) : List (Instruction UInt8) → List Attempt
  | [] => []
  | written :: rest =>
    match m.resolve? written with
    | none => []
    | some i =>
      match (m.execute i).outcome with
      | .error _ => [⟨m, i⟩]
      | .ok _ => ⟨m, i⟩ :: (m.execute i).state.attemptsAll rest

/-- The instructions that an operation attempts. In a step, the machine is past
the instruction already. -/
def attempts (m : Machine) : Operation → List Attempt
  | .step => m.current?.toList.map fun i => ⟨m.advance, i⟩
  | .execute written => (m.resolve? written).toList.map fun i => ⟨m, i⟩
  | .executeWord word => (Instruction.decode? word).toList.map fun i => ⟨m, i⟩
  | .executeAll all => m.attemptsAll all
  | _ => []

theorem attempts_step_of_some {i : Instruction Nibble} (current : m.current? = some i) :
    m.attempts .step = [⟨m.advance, i⟩] := by
  simp only [attempts, current]
  rfl

theorem attempts_step_of_none (current : m.current? = none) : m.attempts .step = [] := by
  simp only [attempts, current]
  rfl

theorem attempts_of_not_instructs (m : Machine) (instructs : op.instructs = false) :
    m.attempts op = [] := by
  cases op with
  | step | execute | executeWord | executeAll => cases instructs
  | _ => rfl

/-! ## One attempt after another -/

section Induction

variable {P : Machine → List Attempt → Machine → Prop} (nil : ∀ m, P m [] m)
  (cons : ∀ m i rest n, P (m.execute i).state rest n → P m (⟨m, i⟩ :: rest) n)

include nil cons

theorem executeAll?_induction {all : List (Instruction UInt8)} {e : Effect Machine Unit}
    (does : m.executeAll? all = some e) : P m (m.attemptsAll all) e.state := by
  induction all generalizing m e with
  | nil => cases does; exact nil m
  | cons written rest ih =>
      simp only [executeAll?, executeWritten?, Option.bind_eq_some_iff,
        Option.map_eq_some_iff] at does
      obtain ⟨_, ⟨i, resolved, rfl⟩, does⟩ := does
      simp only [attemptsAll, resolved]
      cases outcome : (m.execute i).outcome with
      | error fault =>
          rw [outcome] at does
          cases does
          exact cons m i [] _ (nil _)
      | ok progress =>
          rw [outcome] at does
          simp only [Option.map_eq_some_iff] at does
          obtain ⟨r, later, rfl⟩ := does
          exact cons m i _ r.state (ih later)

/-- What holds of no attempt, and of one before others if it holds of the others,
holds of all that is carried out as it is written. -/
theorem perform?_induction (instructs : op.instructs = true) (other : op ≠ .step)
    (does : m.perform? op = some e) : P m (m.attempts op) e.state := by
  have one (m : Machine) (i : Instruction Nibble) : P m [⟨m, i⟩] (m.execute i).state :=
    cons m i [] _ (nil _)
  cases op with
  | step => exact absurd rfl other
  | execute written =>
      simp only [perform?, executeWritten?, Option.map_eq_some_iff] at does
      obtain ⟨_, ⟨i, resolved, rfl⟩, rfl⟩ := does
      simp only [attempts, resolved]
      exact one m i
  | executeWord word =>
      cases does
      simp only [attempts, executeWord, Effect.map]
      cases Instruction.decode? word with
      | none => exact nil m
      | some i => exact one m i
  | executeAll all =>
      simp only [perform?, Option.map_eq_some_iff] at does
      obtain ⟨r, did, rfl⟩ := does
      exact executeAll?_induction nil cons did
  | _ => cases instructs

end Induction

/-! ## Time between attempts -/

/-- The second machine is the first one some time later: it may be somewhere
else and its timers may have run. -/
def Elapsed (m n : Machine) : Prop :=
  n = { m with pc := n.pc, delay := n.delay, sound := n.sound }

theorem Elapsed.refl (m : Machine) : m.Elapsed m := rfl

/-- Attempts that lead from one machine to another, with nothing but time in
between. -/
inductive Leads : Machine → List Attempt → Machine → Prop
  | nil {m n : Machine} (elapsed : m.Elapsed n) : Leads m [] n
  | cons {m n : Machine} {a : Attempt} {rest : List Attempt} (elapsed : m.Elapsed a.before)
      (later : Leads a.after rest n) : Leads m (a :: rest) n

theorem Leads.one {a : Attempt} (first : m.Elapsed a.before) (last : a.after.Elapsed n) :
    Leads m [a] n := .cons first (.nil last)

theorem leads_step (m : Machine) : Leads m (m.attempts .step) m.step.state := by
  cases m.step_cases with
  | nowhere past eq =>
      rw [eq, attempts_step_of_none (current?_of_le past)]
      exact .nil (.refl m)
  | unknown inside undecoded eq =>
      rw [eq, attempts_step_of_none (current?_of_undecoded undecoded)]
      exact .nil (.refl m)
  | undone i fault current refusal fatal eq =>
      -- the refused instruction leaves the machine past it, and the step goes back
      have stays := execute_of_refusal (refusal_advance.2 refusal)
      have after : Attempt.after ⟨m.advance, i⟩ = m.advance := congrArg Effect.state stays
      rw [eq, attempts_step_of_some current]
      refine .one rfl ?_
      rw [after]
      rfl
  | passed i fault current refusal mild eq =>
      have stays := execute_of_refusal (refusal_advance.2 refusal)
      have after : Attempt.after ⟨m.advance, i⟩ = m.advance := congrArg Effect.state stays
      rw [eq, attempts_step_of_some current]
      refine .one rfl ?_
      rw [after]
      rfl
  | carried i progress current ok eq =>
      rw [eq, attempts_step_of_some current]
      exact .one rfl rfl

/-- An operation that carries out instructions gets by them where it goes. -/
theorem leads_perform? (instructs : op.instructs = true) (does : m.perform? op = some e) :
    Leads m (m.attempts op) e.state := by
  by_cases step : op = .step
  · subst step
    cases does
    exact m.leads_step
  · exact perform?_induction (fun m => .nil (.refl m)) (fun m _ _ _ later => .cons (.refl m) later)
      instructs step does

/-! ## Without an attempt -/

/-- Any other operation starts the machine over, with its random numbers as
they are, or leaves it but for its memory, its screen and its keys. -/
theorem perform?_of_not_instructs (instructs : op.instructs = false)
    (does : m.perform? op = some e) :
    if op.isReset then ∃ memory, e.state = { withMemory memory m.random with display := .wiped }
    else ∃ memory display keypad, e.state = { m with memory, display, keypad } := by
  cases op with
  | step | execute | executeWord | executeAll => cases instructs
  | reset | coldReset =>
      cases does
      exact ⟨_, rfl⟩
  | load program =>
      obtain ⟨_, memory, _, effect⟩ := m.perform?_load program
      rw [effect] at does
      cases does
      exact ⟨memory, m.display, m.keypad, rfl⟩
  | setKey key isDown =>
      rw [perform?_setKey] at does
      cases does
      exact ⟨m.memory, m.display, _, rfl⟩
  | releaseKeys | draw | wipe | markShown =>
      cases does
      exact ⟨_, _, _, rfl⟩

end Machine

/-- The instructions that are attempted in a moment. -/
def Moment.attempts (x : Moment) : List Attempt := x.before.attempts x.operation

end Chip8
