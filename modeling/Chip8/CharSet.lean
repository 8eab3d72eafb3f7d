import Chip8.Numeral

/-!
# Sets of characters

Sets of characters as ranges of code points, in order and apart from each
other. All operations come down to two: `ofRanges`, which puts any ranges in
order and joins those that touch, and the complement, which takes the gaps.
Surrogates are no characters, so gaps never begin or end among them.
-/

namespace Chip8

/-- Code points in a row, both ends included. -/
structure Range where
  low : Nat
  high : Nat
  deriving DecidableEq

namespace Range

/-- Whether a range begins before another, or with it and ends no later. -/
def le (r s : Range) : Bool := r.low < s.low || (r.low = s.low && r.high ≤ s.high)

/-- A range from a character to the same one or a later one. -/
structure Valid (r : Range) : Prop where
  low : r.low.isValidChar
  high : r.high.isValidChar
  ordered : r.low ≤ r.high

instance (r : Range) : Decidable r.Valid :=
  decidable_of_iff (r.low.isValidChar ∧ r.high.isValidChar ∧ r.low ≤ r.high)
    ⟨fun ⟨low, high, ordered⟩ => ⟨low, high, ordered⟩, fun v => ⟨v.low, v.high, v.ordered⟩⟩

/-- Ranges of characters from a code point on, in order and apart from each
other. -/
structure Row (start : Nat) (rs : List Range) : Prop where
  valid : ∀ r ∈ rs, r.Valid
  apart : rs.Pairwise fun r s => r.high < s.low
  above : ∀ r ∈ rs, start ≤ r.low

/-- Ranges in the order of their beginnings. -/
def InOrder (rs : List Range) : Prop := rs.Pairwise fun r s => r.low ≤ s.low

variable {r s : Range} {rs : List Range} {start next : Nat}

theorem row_nil : Row start [] := ⟨nofun, .nil, nofun⟩

theorem Row.mono (row : Row next rs) (before : start ≤ next) : Row start rs :=
  ⟨row.valid, row.apart, fun r among => Nat.le_trans before (row.above r among)⟩

theorem row_cons (valid : r.Valid) (above : start ≤ r.low) (row : Row next rs)
    (apart : r.high < next) : Row start (r :: rs) where
  valid := List.forall_mem_cons.2 ⟨valid, row.valid⟩
  apart := List.pairwise_cons.2
    ⟨fun s among => Nat.lt_of_lt_of_le apart (row.above s among), row.apart⟩
  above := by
    refine List.forall_mem_cons.2 ⟨above, fun s among => ?_⟩
    have := row.above s among
    have := valid.ordered
    omega

theorem Row.inOrder (row : Row start rs) : InOrder rs :=
  row.apart.imp_of_mem fun first _ apart =>
    Nat.le_of_lt (Nat.lt_of_le_of_lt (row.valid _ first).ordered apart)

/-- Ranges in the order of `le` are in the order of their beginnings. -/
theorem low_le_of_le (before : le r s = true) : r.low ≤ s.low := by
  simp only [le, Bool.or_eq_true, Bool.and_eq_true, decide_eq_true_eq] at before
  omega

theorem inOrder_mergeSort (rs : List Range) : InOrder (rs.mergeSort le) := by
  refine (List.pairwise_mergeSort ?_ ?_ rs).imp low_le_of_le
  · intro a b c
    simp only [le, Bool.or_eq_true, Bool.and_eq_true, decide_eq_true_eq]
    omega
  · intro a b
    simp only [le, Bool.or_eq_true, Bool.and_eq_true, decide_eq_true_eq]
    omega

end Range

/-- A set of characters. -/
structure CharSet where
  ranges : List Range
  row : Range.Row 0 ranges
  deriving DecidableEq

namespace CharSet

open Range

/-- The largest code point. -/
def last : Nat := 0x10FFFF

/-- The next code point of a character. -/
def after (n : Nat) : Nat := if n = 0xD7FF then 0xE000 else n + 1

/-- The code point of the character before. -/
def before (n : Nat) : Nat := if n = 0xE000 then 0xD7FF else n - 1

/-- No characters. -/
def empty : CharSet := ⟨[], row_nil⟩

/-! ### Ranges put in order -/

/-- A range and later ones, where those that overlap or touch are joined. -/
def join (r : Range) : List Range → List Range
  | [] => [r]
  | s :: rest =>
    if s.low ≤ r.high + 1 then join ⟨r.low, max r.high s.high⟩ rest else r :: join s rest

section Join

variable {r s : Range} {rs : List Range}

theorem inOrder_absorb (order : InOrder (r :: s :: rs)) (high : Nat) :
    InOrder (⟨r.low, high⟩ :: rs) := by
  obtain ⟨first, later⟩ := List.pairwise_cons.1 order
  exact List.pairwise_cons.2
    ⟨fun t among => first t (List.mem_cons_of_mem _ among), later.of_cons⟩

/-- Nothing begins before the first of the joined ranges. -/
theorem low_le_of_mem_join (order : InOrder (r :: rs)) : ∀ t ∈ join r rs, r.low ≤ t.low := by
  induction rs generalizing r with
  | nil => simp [join]
  | cons s rest ih =>
      rw [join]
      split
      · exact ih (inOrder_absorb order _)
      · refine List.forall_mem_cons.2 ⟨Nat.le_refl _, ?_⟩
        intro t among
        have first : r.low ≤ s.low := (List.pairwise_cons.1 order).1 s List.mem_cons_self
        exact Nat.le_trans first (ih order.of_cons t among)

/-- Joined ranges neither overlap nor touch. -/
theorem apart_join (order : InOrder (r :: rs)) :
    (join r rs).Pairwise fun t u => t.high + 1 < u.low := by
  induction rs generalizing r with
  | nil => simp [join]
  | cons s rest ih =>
      rw [join]
      split
      · exact ih (inOrder_absorb order _)
      · next gap =>
          refine List.pairwise_cons.2 ⟨?_, ih order.of_cons⟩
          intro t among
          have second : s.low ≤ t.low := low_le_of_mem_join order.of_cons t among
          omega

theorem valid_join (valid : ∀ t ∈ r :: rs, t.Valid) : ∀ t ∈ join r rs, t.Valid := by
  induction rs generalizing r with
  | nil => exact valid
  | cons s rest ih =>
      obtain ⟨first, second, later⟩ := by simpa only [List.forall_mem_cons] using valid
      rw [join]
      split
      · have joined : Range.Valid ⟨r.low, max r.high s.high⟩ := by
          refine ⟨first.low, ?_, Nat.le_trans first.ordered (Nat.le_max_left _ _)⟩
          rcases Nat.le_total r.high s.high with more | less
          · simpa only [Nat.max_eq_right more] using second.high
          · simpa only [Nat.max_eq_left less] using first.high
        exact ih (List.forall_mem_cons.2 ⟨joined, later⟩)
      · exact List.forall_mem_cons.2 ⟨first, ih (List.forall_mem_cons.2 ⟨second, later⟩)⟩

end Join

/-- Some ranges of characters in order, where those that overlap or touch are
joined. What is no range of characters does not count. -/
def arrange (rs : List Range) : List Range :=
  match (rs.filter fun r => r.Valid).mergeSort Range.le with
  | [] => []
  | r :: rest => join r rest

theorem row_arrange (rs : List Range) : Row 0 (arrange rs) := by
  have order := inOrder_mergeSort (rs.filter fun r => r.Valid)
  have valid : ∀ r ∈ (rs.filter fun r => r.Valid).mergeSort Range.le, r.Valid := by
    intro r among
    have among := (List.mergeSort_perm _ _).mem_iff.1 among
    exact of_decide_eq_true (List.mem_filter.1 among).2
  rw [arrange]
  cases sorted : (rs.filter fun r => r.Valid).mergeSort Range.le with
  | nil => exact row_nil
  | cons r rest =>
      rw [sorted] at order valid
      exact ⟨valid_join valid, (apart_join order).imp Nat.lt_of_succ_lt, fun _ _ => Nat.zero_le _⟩

/-- The characters in any of some ranges. -/
def ofRanges (rs : List Range) : CharSet := ⟨arrange rs, row_arrange rs⟩

/-- The characters in a range. -/
def range (low high : Nat) : CharSet := ofRanges [⟨low, high⟩]

/-- The characters with some code points. -/
def ofPoints (points : List Nat) : CharSet := ofRanges (points.map fun n => ⟨n, n⟩)

/-- The characters of a text. -/
def ofSigns (signs : List Char) : CharSet := ofPoints (signs.map Char.toNat)

/-- Whether a code point lies in one of some ranges, which are in order. -/
def holds (n : Nat) : List Range → Bool
  | [] => false
  | r :: rest => r.low ≤ n && (n ≤ r.high || holds n rest)

/-- Whether a character is in a set. -/
def contains (s : CharSet) (c : Char) : Bool := holds c.toNat s.ranges

/-- Whether a set holds nothing. -/
def isEmpty (s : CharSet) : Bool := s.ranges.isEmpty

/-! ### Gaps -/

/-- The gaps around ranges, from a code point on. -/
def gaps (start : Nat) : List Range → List Range
  | [] => if start ≤ last then [⟨start, last⟩] else []
  | r :: rest =>
    let stop := before r.low
    let more := gaps (after r.high) rest
    if start < r.low && start ≤ stop then ⟨start, stop⟩ :: more else more

/-- Between a character and the next one there is none. -/
theorem after_le_iff {m n : Nat} (char : n.isValidChar) : after m ≤ n ↔ m < n := by
  simp only [after]
  split <;> omega

/-- What lies behind a first range begins at the next character or later. -/
theorem row_tail {r : Range} {rs : List Range} {start : Nat} (row : Row start (r :: rs)) :
    Row (after r.high) rs where
  valid t among := row.valid t (List.mem_cons_of_mem _ among)
  apart := row.apart.of_cons
  above t among :=
    (after_le_iff (row.valid t (List.mem_cons_of_mem _ among)).low).2
      ((List.pairwise_cons.1 row.apart).1 t among)

/-- Gaps begin and end at characters, one behind the other. -/
theorem row_gaps {rs : List Range} {start : Nat} (row : Row start rs)
    (char : start.isValidChar ∨ last < start) : Row start (gaps start rs) := by
  induction rs generalizing start with
  | nil =>
      rw [gaps]
      split
      · next inside =>
          have first : start.isValidChar := char.resolve_right (Nat.not_lt.2 inside)
          have final : last.isValidChar := by decide
          exact row_cons ⟨first, final, inside⟩ (Nat.le_refl _) row_nil (Nat.lt_succ_self _)
      · exact row_nil
  | cons r rest ih =>
      obtain ⟨low, high, ordered⟩ := row.valid r List.mem_cons_self
      have least : start ≤ r.low := row.above r List.mem_cons_self
      have resumes : (after r.high).isValidChar ∨ last < after r.high := by
        simp only [after, last]
        split <;> omega
      have past : r.high < after r.high := by
        simp only [after]
        split <;> omega
      have more : Row (after r.high) (gaps (after r.high) rest) := ih (row_tail row) resumes
      simp only [gaps, Bool.and_eq_true, decide_eq_true_eq]
      split
      · next wide =>
          have begins : start.isValidChar := char.resolve_right (by simp only [last]; omega)
          have ends : (before r.low).isValidChar ∧ before r.low < r.low := by
            simp only [before]
            split <;> omega
          have apart : before r.low < after r.high := by omega
          exact row_cons ⟨begins, ends.1, wide.2⟩ (Nat.le_refl _) more apart
      · exact more.mono (by omega)

/-- All other characters. -/
def complement (s : CharSet) : CharSet :=
  ⟨gaps 0 s.ranges, row_gaps s.row (.inl (by decide))⟩

/-- All characters. -/
def all : CharSet := empty.complement

/-! ### Operations -/

/-- The characters in either set. -/
def union (s t : CharSet) : CharSet := ofRanges (s.ranges ++ t.ranges)

/-- The characters in one of several sets. -/
def unions (sets : List CharSet) : CharSet := ofRanges (sets.flatMap ranges)

/-- The complement if asked for. -/
def complementIf (negated : Bool) (s : CharSet) : CharSet := if negated then s.complement else s

/-- The characters in both sets. -/
def inter (s t : CharSet) : CharSet := (s.complement.union t.complement).complement

/-- The characters in one set and not in another. -/
def diff (s t : CharSet) : CharSet := (s.complement.union t).complement

/-- The characters in one of two sets and not in the other. -/
def symmDiff (s t : CharSet) : CharSet := (s.union t).diff (s.inter t)

/-- Whether all characters of a set are in ASCII. -/
def isAscii (s : CharSet) : Bool := s.ranges.all (·.high ≤ 0x7F)

/-- The only character of a set. -/
def single? (s : CharSet) : Option Char :=
  match s.ranges with
  | [r] => if r.low = r.high then some (Char.ofNat r.low) else none
  | _ => none

/-- The images of the members of a set under pairs of code points. The pairs
are in order of their first parts. -/
def images : List (Nat × Nat) → List Range → List Nat
  | [], _ | _, [] => []
  | (n, image) :: pairs, r :: rest =>
    if n < r.low then images pairs (r :: rest)
    else if r.high < n then images ((n, image) :: pairs) rest
    else image :: images pairs (r :: rest)
termination_by pairs rs => pairs.length + rs.length
decreasing_by all_goals simp only [List.length_cons]; omega

/-! ### Listings

Long sets are listed in text: code points in hexadecimal with blanks between
them, `low-high` for a range and `low-high/2` for every second code point. -/

/-- The code points of an entry. -/
def entry (signs : List Char) : List Range :=
  let number (signs : List Char) : Nat := Numeral.ofSigns 16 signs
  let low := signs.takeWhile (· ≠ '-')
  let rest := signs.drop (low.length + 1)
  let high := rest.takeWhile (· ≠ '/')
  if rest.isEmpty then [⟨number low, number low⟩]
  else if high.length = rest.length then [⟨number low, number high⟩]
  else
    (List.range ((number high - number low) / 2 + 1)).map fun i =>
      ⟨number low + 2 * i, number low + 2 * i⟩

/-- The words of a line. -/
def words (line : String) : List (List Char) := (line.splitOn " ").map String.toList

/-- The characters in a listing of some lines. -/
def listing (lines : List String) : CharSet := ofRanges ((lines.flatMap words).flatMap entry)

end CharSet

end Chip8
