import Chip8.Machine.Operation
import Chip8.Proofs.Step

/-!
# Differences that no program sees

Two machines may differ in something that instructions carry along without
looking at it. A relation of that kind is `Unseen`: related machines carry out
every instruction alike, and what a step does around the instruction neither
sees the difference nor disturbs it. It follows that they step alike
(`Unseen.step`), and carry out alike what is written by hand
(`Unseen.executeAll?`): the same outcomes, the same log, and machines that are
still related.

Where some instructions do look, a relation may still be `UnseenAround` them.
Then related machines step alike as long as the instruction that they are at
is none of these (`UnseenAround.step`).
-/

namespace Chip8

/-- Two effects with the same outcome and log and related states. -/
structure Effect.Rel {σ α : Type} (r : σ → σ → Prop) (e f : Effect σ α) : Prop where
  outcome : e.outcome = f.outcome
  log : e.log = f.log
  state : r e.state f.state

theorem Effect.Rel.map {σ α β : Type} {r : σ → σ → Prop} {e e' : Effect σ α}
    (related : e.Rel r e') (f : α → β) : (e.map f).Rel r (e'.map f) := by
  refine ⟨?_, related.log, related.state⟩
  show e.outcome.map f = e'.outcome.map f
  rw [related.outcome]

namespace Machine

/-- A relation between machines that what a step does around its instruction
neither sees nor disturbs. -/
structure UnseenAround (r : Machine → Machine → Prop) : Prop where
  memory {m n : Machine} : r m n → n.memory = m.memory
  pc {m n : Machine} : r m n → n.pc = m.pc
  sound {m n : Machine} : r m n → n.sound = m.sound
  moved {m n : Machine} (pc : UInt16) : r m n → r { m with pc } { n with pc }
  tickTimers {m n : Machine} : r m n → r m.tickTimers n.tickTimers

/-- A relation between machines that differ in nothing that a program sees. -/
structure Unseen (r : Machine → Machine → Prop) : Prop where
  memory {m n : Machine} : r m n → n.memory = m.memory
  pc {m n : Machine} : r m n → n.pc = m.pc
  sound {m n : Machine} : r m n → n.sound = m.sound
  keypad {m n : Machine} : r m n → n.keypad = m.keypad
  moved {m n : Machine} (pc : UInt16) : r m n → r { m with pc } { n with pc }
  tickTimers {m n : Machine} : r m n → r m.tickTimers n.tickTimers
  execute {m n : Machine} (i : Instruction Nibble) : r m n →
    (m.execute i).Rel r (n.execute i)

variable {r : Machine → Machine → Prop} {m n : Machine}

theorem UnseenAround.advance (around : UnseenAround r) (related : r m n) :
    r m.advance n.advance := by
  rw [Machine.advance, Machine.advance, around.pc related]
  exact around.moved _ related

theorem UnseenAround.stepWith (around : UnseenAround r) (related : r m n)
    (i : Instruction Nibble) (same : (m.advance.execute i).Rel r (n.advance.execute i)) :
    (m.stepWith i).Rel r (n.stepWith i) := by
  have pc := around.pc related
  obtain ⟨outcome, log, state⟩ := same
  simp only [Machine.stepWith, ← outcome, ← log, pc]
  cases (m.advance.execute i).outcome with
  | ok progress =>
      refine ⟨?_, rfl, around.tickTimers state⟩
      simp only [endsTone, around.sound state]
  | error fault =>
      by_cases fatal : fault.isFatal
      · simp only [if_pos fatal]
        exact ⟨rfl, rfl, around.moved m.pc state⟩
      · simp only [if_neg fatal]
        exact ⟨rfl, rfl, around.tickTimers state⟩

/-- Related machines step alike if they carry out alike the one instruction
that they are at. -/
theorem UnseenAround.step (around : UnseenAround r) (related : r m n)
    (same : ∀ i, m.current? = some i → (m.advance.execute i).Rel r (n.advance.execute i)) :
    m.step.Rel r n.step := by
  have memory := around.memory related
  have pc := around.pc related
  have fetch : n.fetch = m.fetch := by
    rw [Machine.fetch, Machine.fetch, memory, pc]
  by_cases inside : m.pc.toNat < 4096
  · simp only [Machine.step, fetch, fetch_of_lt inside]
    cases decoded : Instruction.decode? m.nextWord with
    | none => exact ⟨rfl, rfl, related⟩
    | some i =>
        have current : m.current? = some i := current?_eq_some_iff.2 ⟨inside, decoded⟩
        exact around.stepWith related i (same i current)
  · simp only [Machine.step, fetch, fetch_of_le (Nat.not_lt.1 inside)]
    exact ⟨rfl, rfl, related⟩

theorem Unseen.around (unseen : Unseen r) : UnseenAround r where
  memory := unseen.memory
  pc := unseen.pc
  sound := unseen.sound
  moved := unseen.moved
  tickTimers := unseen.tickTimers

theorem Unseen.step (unseen : Unseen r) (related : r m n) : m.step.Rel r n.step := by
  apply unseen.around.step related
  intro i _
  exact unseen.execute i (unseen.around.advance related)

theorem Unseen.resolve? (unseen : Unseen r) (related : r m n) (i : Instruction UInt8) :
    n.resolve? i = m.resolve? i := by
  cases i with
  | awaitKey x => simp only [Machine.resolve?, unseen.keypad related]
  | _ => rfl

theorem Unseen.executeWritten? (unseen : Unseen r) (related : r m n) (i : Instruction UInt8) :
    Option.Rel (Effect.Rel r) (m.executeWritten? i) (n.executeWritten? i) := by
  simp only [Machine.executeWritten?, unseen.resolve? related]
  cases m.resolve? i with
  | none => exact .none
  | some j => exact .some (unseen.execute j related)

theorem Unseen.executeAll? (unseen : Unseen r) (related : r m n) (is : List (Instruction UInt8)) :
    Option.Rel (Effect.Rel r) (m.executeAll? is) (n.executeAll? is) := by
  induction is generalizing m n with
  | nil => exact .some ⟨rfl, rfl, related⟩
  | cons i rest ih =>
      have first := unseen.executeWritten? related i
      simp only [Machine.executeAll?]
      generalize m.executeWritten? i = x, n.executeWritten? i = y at first
      cases first with
      | none => exact .none
      | @some e f same =>
          -- equal outcomes: both go on with the rest or both stop here
          obtain ⟨outcome, log, state⟩ := same
          simp only [Option.bind_some, ← outcome, ← log]
          cases e.outcome with
          | error fault => exact .some ⟨rfl, rfl, state⟩
          | ok progress =>
              have others := ih state
              simp only
              generalize e.state.executeAll? rest = x, f.state.executeAll? rest = y at others
              cases others with
              | none => exact .none
              | some same =>
                  obtain ⟨outcome, log, state⟩ := same
                  refine .some ⟨outcome, ?_, state⟩
                  simp only [log]

end Machine

end Chip8
