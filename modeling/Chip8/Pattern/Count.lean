/-!
# Counts

How often a piece comes in a row: at least so many times, and perhaps at most
so many. A count is never more at least than at most.
-/

namespace Chip8.Pattern

/-- From some number of times on, and perhaps up to another one. -/
structure Count where
  least : Nat
  most : Option Nat
  ordered : ∀ m ∈ most, least ≤ m
  deriving DecidableEq

namespace Count

/-- Whether a number of times is within the bounds. -/
def Allows (c : Count) (n : Nat) : Prop := c.least ≤ n ∧ ∀ m ∈ c.most, n ≤ m

/-- The count with some bounds, if they are not the wrong way round. -/
def ofBounds? (least : Nat) (most : Option Nat) : Option Count :=
  if ordered : ∀ m ∈ most, least ≤ m then some ⟨least, most, ordered⟩ else none

/-- At least so many times. -/
def orMore (least : Nat) : Count := ⟨least, none, nofun⟩

/-- Once or not at all. -/
def perhaps : Count := ⟨0, some 1, by simp⟩

/-- How many times more a piece may come when it has come often enough. -/
def further (c : Count) : Option Nat := c.most.map (· - c.least)

/-- What matters if what comes is empty: whether it comes, once, or need not. -/
def once (c : Count) : Count where
  least := min c.least 1
  most := some ((c.most.map (min · 1)).getD 1)
  ordered := by
    rintro _ ⟨⟩
    cases most : c.most with
    | none => exact Nat.min_le_right _ _
    | some m =>
        have := c.ordered m most
        simp only [Option.map_some, Option.getD_some]
        omega

variable {c : Count} {n : Nat}

theorem allows_least : c.Allows c.least := ⟨Nat.le_refl _, c.ordered⟩

/-- What is allowed is what must be and what may be besides. -/
theorem allows_iff : c.Allows n ↔ ∃ more, n = c.least + more ∧ ∀ m ∈ c.further, more ≤ m := by
  unfold Allows further
  constructor
  · rintro ⟨enough, few⟩
    refine ⟨n - c.least, by omega, ?_⟩
    simp only [Option.mem_def, Option.map_eq_some_iff]
    rintro _ ⟨m, bound, rfl⟩
    exact Nat.sub_le_sub_right (few m bound) _
  · rintro ⟨more, rfl, few⟩
    refine ⟨Nat.le_add_right _ _, fun m bound => ?_⟩
    have := c.ordered m bound
    have := few (m - c.least) (Option.mem_map_of_mem _ bound)
    omega

theorem allows_iff_eq (same : c.most = some c.least) : c.Allows n ↔ n = c.least := by
  unfold Allows
  simp only [same, Option.mem_some_iff, forall_eq']
  omega

end Count

end Chip8.Pattern
