import Chip8.Proofs.Hidden

/-!
# Slots past the depth

A return leaves its address behind in the slot that it gives back. Machines
that differ in such slots and in nothing else are `Alike`, and this is hidden
(`hidden_alike`): they stay alike whatever is done to both, every operation has
the same outcome and writes the same log. What is in a slot that is not in use
can therefore never be told.
-/

namespace Chip8

namespace CallStack

variable {s t : CallStack}

/-- Stacks with the same addresses in use take a push alike. -/
theorem push?_of_toList_eq (same : s.toList = t.toList) (a : UInt16) :
    Option.Rel (·.toList = ·.toList) (s.push? a) (t.push? a) := by
  cases hs : s.push? a with
  | none =>
      have full : t.push? a = none := by
        rw [push?_eq_none_iff, ← same]
        exact (s.push?_eq_none_iff a).1 hs
      rw [full]
      exact .none
  | some s' =>
      cases ht : t.push? a with
      | none =>
          rw [push?_eq_none_iff, ← same, ← push?_eq_none_iff s a, hs] at ht
          cases ht
      | some t' =>
          refine .some ?_
          rw [toList_push? hs, toList_push? ht, same]

/-- Stacks with the same addresses in use take a pop alike. -/
theorem pop?_of_toList_eq (same : s.toList = t.toList) :
    Option.Rel (fun x y => x.1 = y.1 ∧ x.2.toList = y.2.toList) s.pop? t.pop? := by
  cases hs : s.pop? with
  | none =>
      have empty : t.pop? = none := by
        rw [pop?_eq_none_iff, ← same]
        exact s.pop?_eq_none_iff.1 hs
      rw [empty]
      exact .none
  | some top =>
      obtain ⟨a, s'⟩ := top
      cases ht : t.pop? with
      | none =>
          rw [pop?_eq_none_iff, ← same, ← pop?_eq_none_iff s, hs] at ht
          cases ht
      | some top' =>
          obtain ⟨b, t'⟩ := top'
          rw [toList_pop? hs, toList_pop? ht] at same
          obtain ⟨rest, last⟩ := List.append_inj' same rfl
          exact .some ⟨List.singleton_inj.1 last, rest⟩

end CallStack

namespace Machine

variable {m n : Machine} {i : Instruction Nibble} {op : Operation}

/-- Two machines that differ at most in the slots that are not in use. -/
structure Alike (m n : Machine) : Prop where
  calls : m.stack.toList = n.stack.toList
  rest : n = { m with stack := n.stack }

theorem Alike.exists_eq (alike : m.Alike n) :
    ∃ t : CallStack, m.stack.toList = t.toList ∧ n = { m with stack := t } :=
  ⟨n.stack, alike.calls, alike.rest⟩

theorem Alike.refl (m : Machine) : m.Alike m := ⟨rfl, rfl⟩

theorem Alike.moved (alike : m.Alike n) (pc : UInt16) :
    Alike { m with pc } { n with pc } := by
  obtain ⟨t, calls, rfl⟩ := alike.exists_eq
  exact ⟨calls, rfl⟩

theorem Alike.tickTimers (alike : m.Alike n) : m.tickTimers.Alike n.tickTimers := by
  obtain ⟨t, calls, rfl⟩ := alike.exists_eq
  exact ⟨calls, rfl⟩

/-- Only a return and a call look at the stack, and only at addresses in
use. -/
theorem Alike.execute (alike : m.Alike n) (i : Instruction Nibble) :
    (m.execute i).Rel Alike (n.execute i) := by
  obtain ⟨t, calls, rfl⟩ := alike.exists_eq
  -- apart from a return and a call, an instruction carries `t` along unseen
  cases i with
  | ret =>
      have popped := CallStack.pop?_of_toList_eq calls
      simp only [Machine.execute]
      generalize m.stack.pop? = x, t.pop? = y at popped
      cases popped with
      | none => exact ⟨rfl, rfl, calls, rfl⟩
      | some same =>
          obtain ⟨target, rest⟩ := same
          simp only [target]
          exact ⟨rfl, rfl, rest, rfl⟩
  | call target =>
      have pushed := CallStack.push?_of_toList_eq calls m.pc
      simp only [Machine.execute]
      generalize m.stack.push? m.pc = x, t.push? m.pc = y at pushed
      cases pushed with
      | none => exact ⟨rfl, rfl, calls, rfl⟩
      | some same => exact ⟨rfl, rfl, same, rfl⟩
  | skipEq | skipNe | skipSame | skipDiffer =>
      simp only [Machine.execute, skipIf_eq]
      exact ⟨rfl, rfl, calls, rfl⟩
  | skipKey x | skipNoKey x =>
      have same : reg { m with stack := t } x = m.reg x := rfl
      simp only [Machine.execute, skipIf_eq, same]
      cases m.keypad.isPressed (m.reg x) <;> exact ⟨rfl, rfl, calls, rfl⟩
  | awaitKey x =>
      simp only [Machine.execute]
      cases m.keypad.first? <;> exact ⟨rfl, rfl, calls, rfl⟩
  | draw | storeDecimal | storeRegs | loadRegs =>
      simp only [Machine.execute, spriteAt_eq, store_eq, loadEach_eq, executed, setFlag, setReg]
      exact ⟨rfl, rfl, calls, rfl⟩
  | _ => exact ⟨rfl, rfl, calls, rfl⟩

/-- No program sees what is in a slot that is not in use. -/
theorem unseen_alike : Unseen Alike where
  memory alike := by rw [alike.rest]
  pc alike := by rw [alike.rest]
  sound alike := by rw [alike.rest]
  keypad alike := by rw [alike.rest]
  moved pc alike := alike.moved pc
  tickTimers alike := alike.tickTimers
  execute i alike := alike.execute i

/-- Nor does anybody else. -/
theorem hidden_alike : Hidden Alike where
  toUnseen := unseen_alike
  screen alike := by rw [alike.rest]
  withMemory memory alike := by
    obtain ⟨t, calls, rfl⟩ := alike.exists_eq
    exact ⟨calls, rfl⟩
  withKeypad keypad alike := by
    obtain ⟨t, calls, rfl⟩ := alike.exists_eq
    exact ⟨calls, rfl⟩
  withDisplay display alike := by
    obtain ⟨t, calls, rfl⟩ := alike.exists_eq
    exact ⟨calls, rfl⟩
  reset alike := by
    obtain ⟨t, calls, rfl⟩ := alike.exists_eq
    exact .refl _

end Machine

end Chip8
