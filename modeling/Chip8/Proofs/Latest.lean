/-!
# The latest word

Things are done to a state one after another. What is seen of the state at the
end, when each of them either decides it or leaves it as it was, is what the
last of those decided that did (`see_foldl`). It is found by going back from
the newest.
-/

namespace Chip8

variable {σ ε α : Type}

/-- What the first of some things decides matters if nothing later decides. -/
theorem getD_findSome?_reverse_cons (verdict : ε → Option α) (e : ε) (rest : List ε) (a : α) :
    ((e :: rest).reverse.findSome? verdict).getD a =
      (rest.reverse.findSome? verdict).getD ((verdict e).getD a) := by
  rw [List.reverse_cons, List.findSome?_append]
  cases rest.reverse.findSome? verdict with
  | none => cases said : verdict e <;> simp [said]
  | some b => rfl

/-- The last of some things to decide what is seen of a state decides it. -/
theorem see_foldl {act : σ → ε → σ} (see : σ → α) (verdict : ε → Option α) {es : List ε}
    (one : ∀ s, ∀ e ∈ es, see (act s e) = (verdict e).getD (see s)) (s : σ) :
    see (es.foldl act s) = (es.reverse.findSome? verdict).getD (see s) := by
  induction es generalizing s with
  | nil => rfl
  | cons e rest ih =>
      have later : ∀ s, ∀ e ∈ rest, see (act s e) = (verdict e).getD (see s) :=
        fun s e among => one s e (List.mem_cons_of_mem _ among)
      rw [List.foldl_cons, ih later, one s e List.mem_cons_self, getD_findSome?_reverse_cons]

/-- If whatever any of them decides is the same, it does not matter who is the
last. -/
theorem findSome?_eq_of_agreed {verdict : ε → Option α} {es : List ε} {result : Option α}
    (agreed : ∀ a, (∃ e ∈ es, verdict e = some a) ↔ result = some a) :
    es.findSome? verdict = result := by
  cases found : es.findSome? verdict with
  | some a =>
      obtain ⟨e, among, said⟩ := List.exists_of_findSome?_eq_some found
      exact ((agreed a).1 ⟨e, among, said⟩).symm
  | none =>
      cases result with
      | none => rfl
      | some a =>
          obtain ⟨e, among, said⟩ := (agreed a).2 rfl
          rw [List.findSome?_eq_none_iff.1 found e among] at said
          cases said

end Chip8
