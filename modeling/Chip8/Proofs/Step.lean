import Chip8.Machine.Step
import Chip8.Proofs.Execute

/-!
# What a step does

`step_cases` lists everything that a step can come to: nothing is fetched
past the end of memory, the word is no instruction, the instruction is refused
for good or passed over, or it is carried out and the timers are counted down.
Each case gives the whole effect, so a property of steps is a case analysis
with five cases and no look at `step` itself.
-/

namespace Chip8

/-- Whether whoever acted can go on: nothing went wrong, or nothing fatal. -/
def Effect.Survives {σ α : Type} (e : Effect σ α) : Prop :=
  ∀ fault, e.outcome = .error fault → fault.isFatal = false

theorem Effect.survives_map {σ α β : Type} {e : Effect σ α} {f : α → β} :
    (e.map f).Survives ↔ e.Survives := by
  cases outcome : e.outcome <;> simp [Survives, Effect.map, outcome, Except.map]

instance {σ α : Type} (e : Effect σ α) : Decidable e.Survives :=
  match outcome : e.outcome with
  | .ok _ => isTrue (by simp [Effect.Survives, outcome])
  | .error fault => decidable_of_iff (fault.isFatal = false) (by simp [Effect.Survives, outcome])

namespace Machine

variable {m : Machine} {i : Instruction Nibble} {x : Nibble} {fault : Fault}

/-- The word at the program counter: the high byte there, the low byte after
it, or at the beginning of memory if there is none after it. -/
def nextWord (m : Machine) : Word :=
  .ofBytes (m.memory.byteAt (Address.wrap m.pc.toNat))
    (m.memory.byteAt (Address.wrap (m.pc.toNat + 1)))

/-- The instruction that a step carries out, if it gets that far. -/
def current? (m : Machine) : Option (Instruction Nibble) :=
  if m.pc.toNat < 4096 then Instruction.decode? m.nextWord else none

/-! ## Fetching -/

theorem read_pc (inside : m.pc.toNat < 4096) :
    m.memory.read m.pc = .ok (m.memory.byteAt (Address.wrap m.pc.toNat)) := by
  have place : (⟨m.pc.toNat, inside⟩ : Address) = Address.wrap m.pc.toNat :=
    Fin.ext (Nat.mod_eq_of_lt inside).symm
  rw [Memory.read, dif_pos inside, place]

/-- The second byte of a word is always there. -/
theorem read_after_pc (m : Machine) :
    m.memory.read ((m.pc + 1) % 0x1000) =
      .ok (m.memory.byteAt (Address.wrap (m.pc.toNat + 1))) := by
  have value : ((m.pc + 1) % 0x1000).toNat = (m.pc.toNat + 1) % 4096 := by
    simp only [UInt16.toNat_mod, UInt16.toNat_add]
    show (m.pc.toNat + 1) % 65536 % 4096 = _
    omega
  have inside : ((m.pc + 1) % 0x1000).toNat < 4096 := by rw [value]; omega
  have place : (⟨_, inside⟩ : Address) = Address.wrap (m.pc.toNat + 1) := Fin.ext value
  rw [Memory.read, dif_pos inside, place]

theorem fetch_of_lt (inside : m.pc.toNat < 4096) : m.fetch = .ok m.nextWord := by
  rw [fetch, read_pc inside]
  show (do let low ← m.memory.read ((m.pc + 1) % 0x1000); _) = _
  rw [read_after_pc]
  rfl

theorem fetch_of_le (past : 4096 ≤ m.pc.toNat) :
    m.fetch = .error (.outOfBounds m.pc.toNat) := by
  have refused : m.memory.read m.pc = .error (.outOfBounds m.pc.toNat) := by
    rw [Memory.read, dif_neg (by omega)]
  rw [fetch, refused]
  rfl

/-! ## Timers -/

/-- Counting down takes one off the delay timer and stops at zero. -/
theorem delay_tickTimers (m : Machine) : m.tickTimers.delay.toNat = m.delay.toNat - 1 := by
  by_cases h : m.delay = 0
  · simp [tickTimers, h]
  · have positive : m.delay.toNat ≠ 0 := fun zero => h (UInt8.toNat_inj.1 zero)
    have one : (1 : UInt8) ≤ m.delay := by
      rw [UInt8.le_iff_toNat_le]
      exact Nat.pos_of_ne_zero positive
    simp only [tickTimers, if_neg h]
    exact UInt8.toNat_sub_of_le _ _ one

/-- Counting down takes one off the sound timer and stops at zero. -/
theorem sound_tickTimers (m : Machine) : m.tickTimers.sound.toNat = m.sound.toNat - 1 :=
  delay_tickTimers { m with delay := m.sound }

/-! ## Everything a step can be -/

/-- What stands in the way of an instruction does not depend on the program
counter. -/
theorem refusal_advance : Refusal m.advance i fault ↔ Refusal m i fault := by
  constructor
  · intro h
    cases h with
    | ret h => exact .ret h
    | call target h => exact .call target h
    | skipKey x h => exact .skipKey x h
    | skipNoKey x h => exact .skipNoKey x h
  · intro h
    cases h with
    | ret h => exact .ret h
    | call target h => exact .call target h
    | skipKey x h => exact .skipKey x h
    | skipNoKey x h => exact .skipNoKey x h

/-- The cases of a step, each with its whole effect. -/
inductive StepCase (m : Machine) : Prop
  /-- The program counter is past the end of memory. -/
  | nowhere (past : 4096 ≤ m.pc.toNat)
      (eq : m.step = ⟨.error (.outOfBounds m.pc.toNat), m, []⟩)
  /-- The word is no instruction. -/
  | unknown (inside : m.pc.toNat < 4096) (undecoded : Instruction.decode? m.nextWord = none)
      (eq : m.step =
        ⟨.error (.unknownOpcode m.nextWord), m, [.unknownOpcode m.nextWord]⟩)
  /-- The instruction is refused and the step is undone. -/
  | undone (i : Instruction Nibble) (fault : Fault) (current : m.current? = some i)
      (refusal : Refusal m i fault) (fatal : fault.isFatal = true)
      (eq : m.step = ⟨.error fault, m, [.executing m.pc i]⟩)
  /-- The instruction is refused and left behind. -/
  | passed (i : Instruction Nibble) (fault : Fault) (current : m.current? = some i)
      (refusal : Refusal m i fault) (mild : fault.isFatal = false)
      (eq : m.step = ⟨.error fault, m.advance.tickTimers, [.executing m.pc i]⟩)
  /-- The instruction is carried out. -/
  | carried (i : Instruction Nibble) (progress : Progress) (current : m.current? = some i)
      (ok : (m.advance.execute i).outcome = .ok progress)
      (eq : m.step =
        ⟨.ok ⟨progress, (m.advance.execute i).state.endsTone⟩,
          (m.advance.execute i).state.tickTimers,
          .executing m.pc i :: (m.advance.execute i).log⟩)

theorem current?_eq_some_iff :
    m.current? = some i ↔ m.pc.toNat < 4096 ∧ Instruction.decode? m.nextWord = some i := by
  simp [current?]

theorem current?_of_le (past : 4096 ≤ m.pc.toNat) : m.current? = none := if_neg (by omega)

theorem current?_of_undecoded (undecoded : Instruction.decode? m.nextWord = none) :
    m.current? = none := by
  rw [current?, undecoded, ite_self]

theorem step_of_current (h : m.current? = some i) : m.step = m.stepWith i := by
  obtain ⟨inside, decoded⟩ := current?_eq_some_iff.1 h
  simp only [step, fetch_of_lt inside, decoded]

theorem step_of_executed {progress : Progress} (current : m.current? = some i)
    (ok : (m.advance.execute i).outcome = .ok progress) :
    m.step =
      ⟨.ok ⟨progress, (m.advance.execute i).state.endsTone⟩,
        (m.advance.execute i).state.tickTimers,
        .executing m.pc i :: (m.advance.execute i).log⟩ := by
  simp only [step_of_current current, stepWith, ok]

theorem step_of_refusal (current : m.current? = some i) (refusal : Refusal m i fault) :
    m.step =
      ⟨.error fault, if fault.isFatal then m else m.advance.tickTimers,
        [.executing m.pc i]⟩ := by
  have stays := execute_of_refusal (refusal_advance.2 refusal)
  simp only [step_of_current current, stepWith, stays, refused]
  cases fault.isFatal <;> rfl

theorem step_of_le (past : 4096 ≤ m.pc.toNat) :
    m.step = ⟨.error (.outOfBounds m.pc.toNat), m, []⟩ := by
  simp only [step, fetch_of_le past]

/-- Every step is one of the five cases. -/
theorem step_cases (m : Machine) : StepCase m := by
  by_cases inside : m.pc.toNat < 4096
  · cases decoded : Instruction.decode? m.nextWord with
    | none =>
        refine .unknown inside decoded ?_
        simp only [step, fetch_of_lt inside, decoded]
    | some i =>
        have current := current?_eq_some_iff.2 ⟨inside, decoded⟩
        cases outcome : (m.advance.execute i).outcome with
        | ok progress =>
            exact .carried i progress current outcome (step_of_executed current outcome)
        | error fault =>
            have refusal := refusal_advance.1 (refusal_of_outcome outcome)
            have eq := step_of_refusal current refusal
            cases fatal : fault.isFatal with
            | true =>
                rw [fatal] at eq
                exact .undone i fault current refusal fatal eq
            | false =>
                rw [fatal] at eq
                exact .passed i fault current refusal fatal eq
  · have past : 4096 ≤ m.pc.toNat := by omega
    exact .nowhere past (step_of_le past)

/-! ## By what came of it -/

/-- A fatal fault undoes the step. -/
theorem state_step_of_fatal (failed : m.step.outcome = .error fault)
    (fatal : fault.isFatal = true) : m.step.state = m := by
  cases m.step_cases with
  | nowhere past eq => rw [eq]
  | unknown inside undecoded eq => rw [eq]
  | undone i _ current refusal _ eq => rw [eq]
  | passed i _ current refusal mild eq =>
      rw [eq] at failed
      cases failed
      rw [mild] at fatal
      cases fatal
  | carried i progress current ok eq =>
      rw [eq] at failed
      cases failed

/-- Any other fault is either that nothing could be fetched, or a refusal that
the step left behind. -/
theorem step_of_mild (failed : m.step.outcome = .error fault) (mild : fault.isFatal = false) :
    (4096 ≤ m.pc.toNat ∧ m.step.state = m) ∨
      ∃ i, m.current? = some i ∧ Refusal m i fault ∧ m.step.state = m.advance.tickTimers := by
  cases m.step_cases with
  | nowhere past eq =>
      left
      rw [eq]
      exact ⟨past, rfl⟩
  | unknown inside undecoded eq =>
      rw [eq] at failed
      cases failed
      cases mild
  | undone i _ current refusal fatal eq =>
      rw [eq] at failed
      cases failed
      rw [mild] at fatal
      cases fatal
  | passed i _ current refusal _ eq =>
      right
      rw [eq] at failed ⊢
      cases failed
      exact ⟨i, current, refusal, rfl⟩
  | carried i progress current ok eq =>
      rw [eq] at failed
      cases failed

/-- A step over an instruction fails if the instruction is refused. -/
theorem outcome_step_error_iff (current : m.current? = some i) :
    m.step.outcome = .error fault ↔ Refusal m i fault := by
  constructor
  · intro failed
    cases outcome : (m.advance.execute i).outcome with
    | ok progress =>
        rw [step_of_executed current outcome] at failed
        cases failed
    | error fault' =>
        have refusal := refusal_advance.1 (refusal_of_outcome outcome)
        rw [step_of_refusal current refusal] at failed
        cases failed
        exact refusal
  · intro refusal
    rw [step_of_refusal current refusal]

/-- A step that succeeds has carried out the current instruction. -/
theorem step_of_ok {s : Step} (succeeded : m.step.outcome = .ok s) :
    ∃ i, m.current? = some i ∧ (m.advance.execute i).outcome = .ok s.progress ∧
      s.tone = (m.advance.execute i).state.endsTone ∧
      m.step.state = (m.advance.execute i).state.tickTimers := by
  cases m.step_cases with
  | nowhere past eq => rw [eq] at succeeded; cases succeeded
  | unknown inside undecoded eq => rw [eq] at succeeded; cases succeeded
  | undone i fault current refusal fatal eq => rw [eq] at succeeded; cases succeeded
  | passed i fault current refusal mild eq => rw [eq] at succeeded; cases succeeded
  | carried i progress current ok eq =>
      rw [eq] at succeeded ⊢
      cases succeeded
      exact ⟨i, current, ok, rfl, rfl⟩

/-- In memory, a step that is survived does what its instruction does and counts
the timers down, whether the instruction was refused or not. -/
theorem step_of_survives (inside : m.pc.toNat < 4096) (survives : m.step.Survives) :
    ∃ i, m.current? = some i ∧ m.step.state = (m.advance.execute i).state.tickTimers := by
  cases m.step_cases with
  | nowhere past eq => omega
  | unknown _ undecoded eq =>
      have mild := survives (.unknownOpcode m.nextWord) (by rw [eq])
      cases mild
  | undone i fault current refusal fatal eq =>
      have mild := survives fault (by rw [eq])
      rw [fatal] at mild
      cases mild
  | passed i fault current refusal mild eq =>
      have stays := execute_of_refusal (refusal_advance.2 refusal)
      refine ⟨i, current, ?_⟩
      rw [eq, stays]
      rfl
  | carried i progress current ok eq => exact ⟨i, current, by rw [eq]⟩

theorem state_step_of_survives (survives : m.step.Survives) (current : m.current? = some i) :
    m.step.state = (m.advance.execute i).state.tickTimers := by
  obtain ⟨inside, _⟩ := current?_eq_some_iff.1 current
  obtain ⟨j, same, state⟩ := step_of_survives inside survives
  cases current.symm.trans same
  exact state

/-! ## Steps that wait -/

/-- Going back undoes the advance, also where either wraps. -/
theorem execute_advance_awaitKey (inside : m.pc.toNat < 4096) (nobody : m.keypad.first? = none) :
    m.advance.execute (.awaitKey x) = ⟨.ok .awaitingKey, m, []⟩ := by
  rw [execute_awaitKey_of_none (m := m.advance) x nobody]
  show (⟨_, { m with pc := addressBefore (addressAfter m.pc) }, []⟩ : Effect Machine Progress) = _
  rw [addressBefore_addressAfter inside]

end Machine

end Chip8
