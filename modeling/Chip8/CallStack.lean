/-!
# The call stack

Room for sixteen return addresses and the number of those in use. A return
gives its slot back without wiping it, so slots past the depth hold whatever
the last call left there; `toList` is the stack as programs see it, and
nothing but `push?` looks past it, to overwrite.
-/

namespace Chip8

/-- Return addresses, of which the first `depth` are in use. -/
structure CallStack where
  slots : Vector UInt16 16
  depth : Nat
  depth_le : depth ≤ 16
  deriving DecidableEq

namespace CallStack

/-- No address in use, zero in every slot. -/
def empty : CallStack := ⟨Vector.replicate 16 0, 0, by omega⟩

/-- The addresses in use, the most recent one last. -/
def toList (s : CallStack) : List UInt16 := s.slots.toList.take s.depth

/-- Use the next slot, if there is one. -/
def push? (s : CallStack) (a : UInt16) : Option CallStack :=
  if room : s.depth < 16 then some ⟨s.slots.set s.depth a, s.depth + 1, room⟩ else none

/-- The most recent address, and the stack without it. -/
def pop? (s : CallStack) : Option (UInt16 × CallStack) :=
  if used : 0 < s.depth then
    have bound := s.depth_le
    some (s.slots[s.depth - 1], ⟨s.slots, s.depth - 1, by omega⟩)
  else none

/-! ### What the operations do to `toList` -/

@[simp] theorem length_toList (s : CallStack) : s.toList.length = s.depth := by
  simp [toList, s.depth_le]

@[simp] theorem toList_empty : empty.toList = [] := rfl

/-- A push puts its address on top of those in use. -/
theorem toList_push? {s t : CallStack} {a : UInt16} (h : s.push? a = some t) :
    t.toList = s.toList ++ [a] := by
  unfold push? at h
  split at h
  · next room =>
    cases h
    have inside : s.depth < s.slots.toList.length := by rw [Vector.length_toList]; exact room
    show (s.slots.set s.depth a).toList.take (s.depth + 1) = _
    rw [Vector.toList_set, List.take_add_one, List.take_set_of_le (Nat.le_refl _),
      List.getElem?_set_self inside]
    rfl
  · cases h

/-- A pop takes off the top what it answers. -/
theorem toList_pop? {s t : CallStack} {a : UInt16} (h : s.pop? = some (a, t)) :
    s.toList = t.toList ++ [a] := by
  unfold pop? at h
  split at h
  · next used =>
    cases h
    have bound := s.depth_le
    have inside : s.depth - 1 < s.slots.toList.length := by rw [Vector.length_toList]; omega
    have split := @List.take_add_one _ s.slots.toList (s.depth - 1)
    rw [Nat.sub_add_cancel used, List.getElem?_eq_getElem inside, Vector.getElem_toList] at split
    exact split
  · cases h

/-- A push fails on sixteen addresses and never on fewer. -/
theorem push?_eq_none_iff (s : CallStack) (a : UInt16) :
    s.push? a = none ↔ s.toList.length = 16 := by
  have := s.depth_le
  simp [push?, length_toList]; omega

/-- A pop fails on no address and never on more. -/
theorem pop?_eq_none_iff (s : CallStack) : s.pop? = none ↔ s.toList = [] := by
  rw [← List.length_eq_zero_iff, length_toList]
  simp [pop?]

end CallStack

end Chip8
