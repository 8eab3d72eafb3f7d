import Chip8.Proofs.History
import Chip8.Proofs.Operations
import Chip8.Proofs.Step
import Mathlib.Algebra.Group.Nat.Defs

/-!
# Ordinary use is safe

Whatever program is loaded and whatever is done to the keys and the screen in
between, a machine never leaves its memory: the program counter and the return
addresses in use stay places in memory (`InBounds`), every operation has an
effect, and a step goes wrong only in the ways that `StepFault` lists.

Of what is written by hand the invariant asks only that jumps and calls go on
in memory (`Operation.Lands`, `InBounds.perform_of_lands`). The index register
is no part of it: it may point past the end of memory, and every use of it
wraps.
-/

namespace Chip8

/-- An operation in which every instruction comes from a word, and every
coordinate is at most 2³². -/
inductive Operation.Ordinary : Operation → Prop
  | load (program : List UInt8) : Ordinary (.load program)
  | reset : Ordinary .reset
  | coldReset : Ordinary .coldReset
  | step : Ordinary .step
  | setKey (key : UInt8) (isDown : Bool) : Ordinary (.setKey key isDown)
  | releaseKeys : Ordinary .releaseKeys
  | draw (x y : Nat) (sprite : Sprite) (hx : x ≤ 2 ^ 32) (hy : y ≤ 2 ^ 32) :
      Ordinary (.draw x y sprite)
  | wipe : Ordinary .wipe
  | markShown : Ordinary .markShown
  | execute (word : Word) (i : Instruction Nibble) (decoded : Instruction.decode? word = some i) :
      Ordinary (.execute i.widen)
  | executeWord (word : Word) : Ordinary (.executeWord word)

/-- An operation in which every jump and every call written by hand goes on at a
place in memory. -/
def Operation.Lands : Operation → Prop
  | .execute i => i.Lands
  | .executeAll is => ∀ i ∈ is, Instruction.Lands i
  | _ => True

theorem Operation.Ordinary.lands {op : Operation} (ordinary : op.Ordinary) : op.Lands := by
  cases ordinary with
  | execute word i decoded =>
      exact (Instruction.lands_map _ i).2 (Instruction.inMemory_of_decode? decoded).lands
  | _ => trivial

namespace Machine

variable {m : Machine} {i : Instruction Nibble} {op : Operation} {e : Effect Machine Answer}
  {fault : Fault}

/-- The machine can go on: the program counter and the return addresses in use
are places in memory, and there are at most sixteen of the latter. -/
structure InBounds (m : Machine) : Prop where
  pc_le : m.pc.toNat ≤ 0xFFF
  depth_le : m.stack.toList.length ≤ 16
  entry_le : ∀ a ∈ m.stack.toList, a.toNat ≤ 0xFFF

/-- What can go wrong in a step of a machine whose program counter is in
memory. -/
inductive StepFault (m : Machine) : Fault → Prop
  /-- The two bytes at the program counter, the high one first and the second
  one wrapped to the beginning of memory, are no instruction. -/
  | unknownOpcode (word : Word) (undecoded : Instruction.decode? word = none)
      (value : word.toNat =
        (m.memory.byteAt (Address.wrap m.pc.toNat)).toNat * 0x100 +
          (m.memory.byteAt (Address.wrap (m.pc.toNat + 1))).toNat) :
      StepFault m (.unknownOpcode word)
  | stackUnderflow : StepFault m .stackUnderflow
  | stackOverflow : StepFault m .stackOverflow
  | invalidKey (key : UInt8) (large : 15 < key.toNat) : StepFault m (.invalidKey key)

/-! ## The invariant -/

theorem inBounds_withMemory (memory : Memory) (random : Generator) :
    (withMemory memory random).InBounds := by
  refine ⟨?_, Nat.zero_le _, ?_⟩
  · show Memory.programStart.toNat ≤ 0xFFF
    decide
  · intro a ha
    exact absurd ha List.not_mem_nil

theorem InBounds.advance (h : m.InBounds) : m.advance.InBounds := by
  refine ⟨?_, h.depth_le, h.entry_le⟩
  show (addressAfter m.pc).toNat ≤ 0xFFF
  rw [toNat_addressAfter]
  omega

/-- An instruction that goes on in memory leaves the program counter there. -/
theorem InBounds.pc_execute_le (h : m.InBounds) (hi : i.Lands) :
    (m.execute i).state.pc.toNat ≤ 0xFFF := by
  -- all but a few instructions stay or skip, and skipping wraps
  have after : ∀ c : Bool, (if c then addressAfter m.pc else m.pc).toNat ≤ 0xFFF := by
    intro c
    cases c with
    | false => exact h.pc_le
    | true => exact h.advance.pc_le
  rw [pc_execute]
  cases i with
  | ret =>
      cases hl : m.stack.toList.getLast? with
      | none => exact h.pc_le
      | some a => exact h.entry_le a (List.mem_of_getLast? hl)
  | jump target => exact Nat.le_of_lt_succ hi
  | call target =>
      show (if _ then m.pc else target).toNat ≤ 0xFFF
      split
      · exact h.pc_le
      · exact Nat.le_of_lt_succ hi
  | jumpOffset target =>
      simp only [UInt16.toNat_ofNat']
      omega
  | awaitKey x =>
      show (if _ then addressBefore m.pc else m.pc).toNat ≤ 0xFFF
      split
      · rw [toNat_addressBefore]
        omega
      · exact h.pc_le
  | _ => exact after _

/-- An instruction pushes at most the program counter. -/
theorem InBounds.entry_execute_le (h : m.InBounds) :
    ∀ a ∈ (m.execute i).state.stack.toList, a.toNat ≤ 0xFFF := by
  intro a ha
  rw [stack_execute] at ha
  cases i with
  | ret => exact h.entry_le a (List.dropLast_subset _ ha)
  | call target =>
      simp only [Instruction.callsAfter] at ha
      split at ha
      · exact h.entry_le a ha
      · rcases List.mem_append.1 ha with ha | ha
        · exact h.entry_le a ha
        · rw [List.mem_singleton.1 ha]
          exact h.pc_le
  | _ => exact h.entry_le a ha

theorem InBounds.execute (h : m.InBounds) (hi : i.Lands) : (m.execute i).state.InBounds := by
  refine ⟨h.pc_execute_le hi, ?_, h.entry_execute_le⟩
  rw [CallStack.length_toList]
  exact (m.execute i).state.stack.depth_le

theorem InBounds.step (h : m.InBounds) : m.step.state.InBounds := by
  cases m.step_cases with
  | nowhere past eq => rw [eq]; exact h
  | unknown inside undecoded eq => rw [eq]; exact h
  | undone i fault current refusal fatal eq => rw [eq]; exact h
  | passed i fault current refusal mild eq =>
      rw [eq]
      exact ⟨h.advance.pc_le, h.depth_le, h.entry_le⟩
  | carried i progress current ok eq =>
      obtain ⟨_, decoded⟩ := current?_eq_some_iff.1 current
      have done := h.advance.execute (Instruction.inMemory_of_decode? decoded).lands
      rw [eq]
      exact ⟨done.pc_le, done.depth_le, done.entry_le⟩

/-- Every ordinary operation has an effect: no instruction that comes from a
word names something the machine lacks. -/
theorem exists_perform? (m : Machine) (op : Operation) (ordinary : op.Ordinary) :
    ∃ e, m.perform? op = some e := by
  cases ordinary with
  | execute word i decoded =>
      refine ⟨(m.execute i).map .progress, ?_⟩
      simp only [perform?, executeWritten?_widen, Option.map_some]
  | _ => exact exists_perform?_unless_written m rfl

theorem InBounds.executeWritten? {written : Instruction UInt8} {e : Effect Machine Progress}
    (h : m.InBounds) (lands : written.Lands) (does : m.executeWritten? written = some e) :
    e.state.InBounds := by
  rw [Machine.executeWritten?, Option.map_eq_some_iff] at does
  obtain ⟨i, resolved, rfl⟩ := does
  have narrowed {w : Instruction UInt8} (lands : w.Lands) (fits : w.narrow? = some i) :
      i.Lands := by
    rw [Instruction.narrow?, Option.ite_none_right_eq_some] at fits
    rw [← Option.some.inj fits.2]
    exact (Instruction.lands_map _ w).2 lands
  refine h.execute ?_
  cases written with
  | awaitKey x =>
      simp only [resolve?] at resolved
      split at resolved
      · cases resolved
        trivial
      · have lands : (Instruction.awaitKey x).Lands := trivial
        exact narrowed lands resolved
  | _ => exact narrowed lands resolved

theorem InBounds.executeAll? {all : List (Instruction UInt8)} {e : Effect Machine Unit}
    (h : m.InBounds) (lands : ∀ i ∈ all, Instruction.Lands i)
    (does : m.executeAll? all = some e) : e.state.InBounds := by
  have kept : ∀ m i e, Instruction.Lands i → Machine.InBounds m → m.executeWritten? i = some e →
      e.state.InBounds := fun m i e lands bounds does => bounds.executeWritten? lands does
  exact keeps_executeAll? kept h lands does

/-- Whatever is done to it, a machine stays in bounds, as long as nothing
written by hand goes on past the end of memory. -/
theorem InBounds.perform_of_lands (h : m.InBounds) (lands : op.Lands)
    (does : m.perform? op = some e) : e.state.InBounds := by
  cases op with
  | load program =>
      obtain ⟨_, _, _, effect⟩ := m.perform?_load program
      rw [effect] at does
      cases does
      exact ⟨h.pc_le, h.depth_le, h.entry_le⟩
  | reset =>
      cases does
      have fresh := inBounds_withMemory m.memory m.random
      exact ⟨fresh.pc_le, fresh.depth_le, fresh.entry_le⟩
  | coldReset =>
      cases does
      have fresh := inBounds_withMemory .fresh m.random
      exact ⟨fresh.pc_le, fresh.depth_le, fresh.entry_le⟩
  | step => cases does; exact h.step
  | setKey key isDown =>
      rw [perform?_setKey] at does
      cases does
      exact ⟨h.pc_le, h.depth_le, h.entry_le⟩
  | execute written =>
      simp only [perform?, Option.map_eq_some_iff] at does
      obtain ⟨first, did, rfl⟩ := does
      exact h.executeWritten? lands did
  | executeAll all =>
      simp only [perform?, Option.map_eq_some_iff] at does
      obtain ⟨first, did, rfl⟩ := does
      exact h.executeAll? lands did
  | executeWord word =>
      simp only [perform?, executeWord, Option.some.injEq] at does
      subst does
      cases decoded : Instruction.decode? word with
      | none => exact h
      | some i => exact h.execute (Instruction.inMemory_of_decode? decoded).lands
  | releaseKeys | draw | wipe | markShown =>
      cases does
      exact ⟨h.pc_le, h.depth_le, h.entry_le⟩

theorem InBounds.perform (h : m.InBounds) (ordinary : op.Ordinary)
    (does : m.perform? op = some e) : e.state.InBounds :=
  h.perform_of_lands ordinary.lands does

/-! ## Faults -/

theorem stepFault_of_outcome (inside : m.pc.toNat < 4096)
    (failed : m.step.outcome = .error fault) : StepFault m fault := by
  have of_refusal : ∀ {i}, Refusal m i fault → StepFault m fault := by
    intro i refusal
    cases refusal with
    | ret => exact .stackUnderflow
    | call target => exact .stackOverflow
    | skipKey x large => exact .invalidKey _ large
    | skipNoKey x large => exact .invalidKey _ large
  cases m.step_cases with
  | nowhere past eq => omega
  | unknown _ undecoded eq =>
      rw [eq] at failed
      cases failed
      exact .unknownOpcode m.nextWord undecoded (Word.toNat_ofBytes _ _)
  | undone i _ current refusal fatal eq =>
      rw [eq] at failed
      cases failed
      exact of_refusal refusal
  | passed i _ current refusal mild eq =>
      rw [eq] at failed
      cases failed
      exact of_refusal refusal
  | carried i progress current ok eq =>
      rw [eq] at failed
      cases failed

end Machine

/-- **Ordinary use is safe.** From a new machine, whatever its random numbers,
ordinary operations in any number and order all have an effect. The machine
stays in bounds all along, and a step fails only over a word that is no
instruction, a return without a call, a call too many, or a number that is no
key. -/
theorem ordinary_use_is_safe (random : Generator) (ops : List Operation)
    (ordinary : ∀ op ∈ ops, op.Ordinary) :
    (Machine.new random).InBounds ∧
    ∃ history, (Machine.new random).history? ops = some history ∧
      ∀ x ∈ history, x.after.InBounds ∧
        (x.operation = .step → ∀ fault, x.effect.outcome = .error fault →
          x.before.StepFault fault) := by
  have start : (Machine.new random).InBounds := Machine.inBounds_withMemory .fresh random
  obtain ⟨history, run⟩ :=
    Machine.exists_history? Machine.exists_perform? (Machine.new random) ordinary
  have kept : ∀ m op e, Operation.Ordinary op → Machine.InBounds m → m.perform? op = some e →
      e.state.InBounds := fun m op e ordinary bounds does => bounds.perform ordinary does
  obtain ⟨all, _⟩ := Machine.forall_history? kept start ordinary run
  refine ⟨start, history, run, ?_⟩
  intro x hx
  obtain ⟨_, does, before, after⟩ := all x hx
  refine ⟨after, ?_⟩
  intro isStep fault failed
  rw [isStep] at does
  have same : x.effect = x.before.step.map .step := (Option.some.inj does).symm
  rw [same] at failed
  cases outcome : x.before.step.outcome with
  | ok s => simp [Effect.map, outcome, Except.map] at failed
  | error fault' =>
      have eq : fault' = fault := by simpa [Effect.map, outcome, Except.map] using failed
      rw [eq] at outcome
      exact Machine.stepFault_of_outcome (Nat.lt_succ_of_le before.pc_le) outcome

/-- A program that calls itself, beyond a full stack. -/
theorem ordinary_use_is_safe_recursion :
    ∃ history, (Machine.ofSeed 8).history?
        (.load [0x22, 0x00] :: .draw 70 40 [0xFF] :: List.replicate 17 .step) = some history ∧
      ∀ x ∈ history, x.after.InBounds ∧
        (x.operation = .step → ∀ fault, x.effect.outcome = .error fault →
          x.before.StepFault fault) := by
  refine (ordinary_use_is_safe (.ofSeed 8) _ ?_).2
  intro op hop
  rcases List.mem_cons.1 hop with rfl | hop
  · exact .load _
  · rcases List.mem_cons.1 hop with rfl | hop
    · exact .draw 70 40 _ (by decide) (by decide)
    · rw [(List.mem_replicate.1 hop).2]
      exact .step

end Chip8
