import Chip8.Pattern.Meaning
import Mathlib.Logic.Basic

/-!
# What sets of characters hold

`ofRanges` makes a set of the characters in some ranges (`contains_ofRanges`), and
the complement has all other characters (`contains_complement`). The other
operations come down to these two, so each of them does to the characters what it
is named for.
-/

namespace Chip8

namespace Range

/-- Whether a code point lies in one of some ranges. -/
def Covers (rs : List Range) (n : Nat) : Prop := ∃ r ∈ rs, r.low ≤ n ∧ n ≤ r.high

variable {r s : Range} {rs ss : List Range} {n : Nat}

theorem covers_cons : Covers (r :: rs) n ↔ (r.low ≤ n ∧ n ≤ r.high) ∨ Covers rs n := by
  simp [Covers]

theorem covers_append : Covers (rs ++ ss) n ↔ Covers rs n ∨ Covers ss n := by
  simp [Covers, or_and_right, exists_or]

theorem not_covers_nil : ¬Covers [] n := by
  simp [Covers]

theorem not_covers_of_lt (below : ∀ r ∈ rs, n < r.low) : ¬Covers rs n := by
  rintro ⟨r, among, low, -⟩
  exact absurd low (Nat.not_le.2 (below r among))

end Range

namespace CharSet

open Range

variable {r : Range} {rs : List Range} {n start : Nat} {s t : CharSet} {c : Char}

/-! ## Looking a character up -/

/-- Looking for a code point stops where the ranges begin behind it. -/
theorem holds_iff (order : InOrder rs) : holds n rs = true ↔ Covers rs n := by
  induction rs with
  | nil => simp [holds, Covers]
  | cons r rest ih =>
      obtain ⟨first, order⟩ := List.pairwise_cons.1 order
      simp only [holds, Bool.and_eq_true, Bool.or_eq_true, decide_eq_true_eq, ih order,
        covers_cons]
      constructor
      · rintro ⟨low, high | later⟩
        · exact .inl ⟨low, high⟩
        · exact .inr later
      · rintro (⟨low, high⟩ | ⟨t, among, low, high⟩)
        · exact ⟨low, .inl high⟩
        · exact ⟨Nat.le_trans (first t among) low, .inr ⟨t, among, low, high⟩⟩

theorem contains_iff : s.contains c = true ↔ Covers s.ranges c.toNat :=
  holds_iff s.row.inOrder

/-! ## Ranges put in order -/

theorem covers_join (order : InOrder (r :: rs)) : Covers (join r rs) n ↔ Covers (r :: rs) n := by
  induction rs generalizing r with
  | nil => rw [join]
  | cons u rest ih =>
      rw [join]
      split
      · next touch =>
          have first : r.low ≤ u.low := (List.pairwise_cons.1 order).1 u List.mem_cons_self
          rw [ih (inOrder_absorb order _), covers_cons, covers_cons, covers_cons, ← or_assoc]
          refine or_congr_left ?_
          show r.low ≤ n ∧ n ≤ max r.high u.high ↔ _
          omega
      · rw [covers_cons, ih order.of_cons, covers_cons (r := r)]

theorem covers_ofRanges (rs : List Range) :
    Covers (ofRanges rs).ranges n ↔ Covers (rs.filter fun r => r.Valid) n := by
  have order := inOrder_mergeSort (rs.filter fun r => r.Valid)
  have sort : Covers ((rs.filter fun r => r.Valid).mergeSort Range.le) n ↔
      Covers (rs.filter fun r => r.Valid) n := by
    simp only [Covers, (List.mergeSort_perm _ Range.le).mem_iff]
  rw [← sort]
  show Covers (arrange rs) n ↔ _
  rw [arrange]
  cases sorted : (rs.filter fun r => r.Valid).mergeSort Range.le with
  | nil => rfl
  | cons r rest =>
      rw [sorted] at order
      exact covers_join order

theorem covers_ofRanges_of_valid (valid : ∀ r ∈ rs, r.Valid) :
    Covers (ofRanges rs).ranges n ↔ Covers rs n := by
  have all : rs.filter (fun r => r.Valid) = rs :=
    List.filter_eq_self.2 fun r among => decide_eq_true (valid r among)
  rw [covers_ofRanges, all]

/-- The characters in any of some ranges. -/
theorem contains_ofRanges (valid : ∀ r ∈ rs, r.Valid) :
    (ofRanges rs).contains c = true ↔ Covers rs c.toNat :=
  contains_iff.trans (covers_ofRanges_of_valid valid)

/-! ## Gaps -/

/-- Between a character and the one before it there is none. -/
theorem le_before_iff (char : n.isValidChar) (positive : 0 < r.low) :
    n ≤ before r.low ↔ n < r.low := by
  simp only [before]
  split <;> omega

/-- The gaps hold the characters from some place on that the ranges leave out. -/
theorem covers_gaps (char : n.isValidChar) (row : Row start rs) :
    Covers (gaps start rs) n ↔ start ≤ n ∧ ¬Covers rs n := by
  induction rs generalizing start with
  | nil =>
      have most : n ≤ last := by
        simp only [last]
        omega
      simp only [gaps, not_covers_nil, not_false_eq_true, and_true]
      split <;> simp [Covers] <;> omega
  | cons r rest ih =>
      have ordered := (row.valid r List.mem_cons_self).ordered
      have least : start ≤ r.low := row.above r List.mem_cons_self
      have next : Covers (gaps (after r.high) rest) n ↔ r.high < n ∧ ¬Covers rest n := by
        rw [ih (row_tail row), after_le_iff char]
      have gap : Covers (gaps start (r :: rest)) n ↔
          (start ≤ n ∧ n < r.low) ∨ r.high < n ∧ ¬Covers rest n := by
        simp only [gaps, Bool.and_eq_true, decide_eq_true_eq]
        split
        · next wide =>
            have positive : 0 < r.low := Nat.lt_of_le_of_lt (Nat.zero_le _) wide.1
            rw [covers_cons, next, le_before_iff char positive]
        · next narrow =>
            rw [next, or_iff_right]
            rintro ⟨inside, below⟩
            have positive : 0 < r.low := Nat.lt_of_le_of_lt (Nat.zero_le _) below
            have stop := (le_before_iff char positive).2 below
            omega
      rw [gap, covers_cons]
      by_cases covered : Covers rest n
      · have behind : r.high < n := by
          obtain ⟨t, among, low, -⟩ := covered
          exact Nat.lt_of_lt_of_le ((List.pairwise_cons.1 row.apart).1 t among) low
        simp only [covered, not_true_eq_false, and_false, or_true, or_false, iff_false]
        omega
      · simp only [covered, not_false_eq_true, and_true, or_false, not_and]
        omega

/-! ## Operations -/

/-- All other characters. -/
@[simp] theorem contains_complement : s.complement.contains c = !s.contains c := by
  rw [Bool.eq_iff_iff, contains_iff, Bool.not_eq_true', ← Bool.not_eq_true, contains_iff]
  exact (covers_gaps c.valid s.row).trans (and_iff_right (Nat.zero_le _))

@[simp] theorem contains_empty : empty.contains c = false := rfl

@[simp] theorem contains_all : all.contains c = true := contains_complement

/-- The characters in either set. -/
@[simp] theorem contains_union : (s.union t).contains c = (s.contains c || t.contains c) := by
  have valid : ∀ r ∈ s.ranges ++ t.ranges, r.Valid := fun r among =>
    (List.mem_append.1 among).elim (s.row.valid r) (t.row.valid r)
  rw [Bool.eq_iff_iff, Bool.or_eq_true, union, contains_ofRanges valid, covers_append,
    contains_iff, contains_iff]

/-- The characters in one of several sets. -/
@[simp] theorem contains_unions (sets : List CharSet) :
    (unions sets).contains c = sets.any (·.contains c) := by
  have valid : ∀ r ∈ sets.flatMap ranges, r.Valid := by
    intro r among
    obtain ⟨s, -, listed⟩ := List.mem_flatMap.1 among
    exact s.row.valid r listed
  rw [Bool.eq_iff_iff, unions, contains_ofRanges valid, List.any_eq_true]
  constructor
  · rintro ⟨r, among, inside⟩
    obtain ⟨s, hs, hr⟩ := List.mem_flatMap.1 among
    exact ⟨s, hs, contains_iff.2 ⟨r, hr, inside⟩⟩
  · rintro ⟨s, hs, holds⟩
    obtain ⟨r, hr, inside⟩ := contains_iff.1 holds
    exact ⟨r, List.mem_flatMap.2 ⟨s, hs, hr⟩, inside⟩

/-- The characters in both sets. -/
@[simp] theorem contains_inter : (s.inter t).contains c = (s.contains c && t.contains c) := by
  simp [inter]

/-- The characters in one set and not in another. -/
@[simp] theorem contains_diff : (s.diff t).contains c = (s.contains c && !t.contains c) := by
  simp [diff]

/-- The characters in one of two sets and not in the other. -/
@[simp] theorem contains_symmDiff :
    (s.symmDiff t).contains c = (s.contains c != t.contains c) := by
  cases hs : s.contains c <;> cases ht : t.contains c <;> simp [symmDiff, hs, ht]

@[simp] theorem contains_complementIf (negated : Bool) :
    (s.complementIf negated).contains c = (s.contains c != negated) := by
  cases negated <;> simp [complementIf]

/-! ## Sets of single characters -/

theorem contains_range (low high : Char) :
    (range low.toNat high.toNat).contains c = true ↔ low ≤ c ∧ c ≤ high := by
  rw [range, contains_iff, covers_ofRanges]
  simp only [Covers, List.mem_filter, List.mem_singleton, decide_eq_true_eq]
  constructor
  · rintro ⟨_, ⟨rfl, -⟩, least, most⟩
    exact ⟨least, most⟩
  · rintro ⟨least, most⟩
    exact ⟨_, ⟨rfl, low.valid, high.valid, Char.le_trans least most⟩, least, most⟩

theorem covers_ofPoints (points : List Nat) :
    Covers (ofPoints points).ranges n ↔ n ∈ points ∧ n.isValidChar := by
  rw [ofPoints, covers_ofRanges]
  simp only [Covers, List.mem_filter, List.mem_map, decide_eq_true_eq]
  constructor
  · rintro ⟨_, ⟨⟨m, among, rfl⟩, valid⟩, low, high⟩
    obtain rfl : n = m := Nat.le_antisymm high low
    exact ⟨among, valid.low⟩
  · rintro ⟨among, char⟩
    exact ⟨⟨n, n⟩, ⟨⟨n, among, rfl⟩, char, char, Nat.le_refl n⟩, Nat.le_refl n, Nat.le_refl n⟩

/-- The characters with some code points. -/
theorem contains_ofPoints (points : List Nat) :
    (ofPoints points).contains c = true ↔ c.toNat ∈ points := by
  rw [contains_iff, covers_ofPoints]
  exact and_iff_left c.valid

/-- The characters of a text. -/
theorem contains_ofSigns (signs : List Char) :
    (ofSigns signs).contains c = true ↔ c ∈ signs := by
  rw [ofSigns, contains_ofPoints, List.mem_map]
  simp only [Char.toNat_inj, exists_eq_right]

theorem toNat_ofNat_of_isValidChar (char : n.isValidChar) : (Char.ofNat n).toNat = n := by
  rw [Char.ofNat, dif_pos char]
  rfl

theorem contains_ofNat (char : n.isValidChar) :
    s.contains (Char.ofNat n) = true ↔ Covers s.ranges n := by
  rw [contains_iff, toNat_ofNat_of_isValidChar char]

/-- The characters at the ends of a range are in the set. -/
theorem contains_ends (among : r ∈ s.ranges) :
    s.contains (Char.ofNat r.low) = true ∧ s.contains (Char.ofNat r.high) = true := by
  obtain ⟨low, high, ordered⟩ := s.row.valid r among
  exact ⟨(contains_ofNat low).2 ⟨r, among, Nat.le_refl _, ordered⟩,
    (contains_ofNat high).2 ⟨r, among, ordered, Nat.le_refl _⟩⟩

theorem isEmpty_iff : s.isEmpty = true ↔ ∀ c, s.contains c = false := by
  rw [isEmpty, List.isEmpty_iff]
  constructor
  · intro none c
    rw [contains, none]
    rfl
  · intro none
    rw [List.eq_nil_iff_forall_not_mem]
    intro r among
    have inside := (contains_ends among).1
    rw [none] at inside
    cases inside

/-- The ends of the ranges are no further than the characters. -/
theorem bounds {low high : Nat}
    (inside : ∀ c, s.contains c = true → low ≤ c.toNat ∧ c.toNat ≤ high) :
    ∀ r ∈ s.ranges, low ≤ r.low ∧ r.high ≤ high := by
  intro r among
  obtain ⟨first, final⟩ := contains_ends among
  have valid := s.row.valid r among
  have least := (inside _ first).1
  have most := (inside _ final).2
  rw [toNat_ofNat_of_isValidChar valid.low] at least
  rw [toNat_ofNat_of_isValidChar valid.high] at most
  exact ⟨least, most⟩

/-- In front of the surrogates all code points are characters. -/
theorem covers_iff {low high : Nat} (small : high < 0xD800)
    (inside : ∀ c, s.contains c = true → low ≤ c.toNat ∧ c.toNat ≤ high) :
    Covers s.ranges n ↔ ∃ d, s.contains d = true ∧ d.toNat = n := by
  constructor
  · rintro ⟨r, among, first, final⟩
    have bound := (bounds inside r among).2
    have char : n.isValidChar := .inl (by omega)
    exact ⟨_, (contains_ofNat char).2 ⟨r, among, first, final⟩, toNat_ofNat_of_isValidChar char⟩
  · rintro ⟨d, holds, rfl⟩
    exact contains_iff.1 holds

/-- The only character of a set. -/
theorem contains_iff_of_single? {d : Char} (single : s.single? = some d) :
    s.contains c = true ↔ c = d := by
  rw [contains_iff]
  unfold single? at single
  split at single
  · next r ranges =>
      rw [ranges]
      obtain ⟨same, rfl⟩ := by simpa using single
      have valid : r.Valid := s.row.valid r (by simp [ranges])
      rw [covers_cons, or_iff_left not_covers_nil, ← same, ← Char.toNat_inj,
        toNat_ofNat_of_isValidChar valid.low]
      omega
  · cases single

theorem single?_ofSigns (c : Char) : (ofSigns [c]).single? = some c := by
  have valid : Range.Valid ⟨c.toNat, c.toNat⟩ := ⟨c.valid, c.valid, Nat.le_refl _⟩
  have ranges : (ofSigns [c]).ranges = [⟨c.toNat, c.toNat⟩] := by
    show arrange [⟨c.toNat, c.toNat⟩] = _
    simp [arrange, valid, join]
  simp [single?, ranges]

/-! ## Letters in another case -/

/-- The images of the code points that ranges hold are found in one pass over
both. -/
theorem mem_images_iff {pairs : List (Nat × Nat)} (order : pairs.Pairwise fun p q => p.1 ≤ q.1)
    (apart : rs.Pairwise fun r t => r.high < t.low) (ordered : ∀ r ∈ rs, r.low ≤ r.high) :
    n ∈ images pairs rs ↔ ∃ m, (m, n) ∈ pairs ∧ Covers rs m := by
  fun_induction images pairs rs with
  | case1 => simp
  | case2 => simp [Covers]
  | case3 m image pairs r rest below ih =>
      -- every range begins behind `m`
      have uncovered : ¬Covers (r :: rest) m := by
        refine not_covers_of_lt (List.forall_mem_cons.2 ⟨below, fun t among => ?_⟩)
        have := (List.pairwise_cons.1 apart).1 t among
        have := ordered r List.mem_cons_self
        omega
      rw [ih order.of_cons apart ordered]
      constructor
      · rintro ⟨k, paired, covered⟩
        exact ⟨k, List.mem_cons_of_mem _ paired, covered⟩
      · rintro ⟨k, paired, covered⟩
        rcases List.mem_cons.1 paired with same | paired
        · cases same
          exact absurd covered uncovered
        · exact ⟨k, paired, covered⟩
  | case4 m image pairs r rest _ above ih =>
      -- the first range ends in front of `m`, and of all pairs after it
      have behind (k : Nat) (paired : (k, n) ∈ (m, image) :: pairs) : r.high < k := by
        rcases List.mem_cons.1 paired with same | paired
        · cases same
          exact above
        · exact Nat.lt_of_lt_of_le above ((List.pairwise_cons.1 order).1 _ paired)
      rw [ih order apart.of_cons (List.forall_mem_cons.1 ordered).2]
      refine exists_congr fun k => and_congr_right fun paired => ?_
      have := behind k paired
      rw [covers_cons, or_iff_right (by omega)]
  | case5 m image pairs r rest notBelow notAbove ih =>
      have covered : Covers (r :: rest) m := covers_cons.2 (.inl (by omega))
      rw [List.mem_cons, ih order.of_cons apart ordered]
      constructor
      · rintro (rfl | ⟨k, paired, inside⟩)
        · exact ⟨m, List.mem_cons_self, covered⟩
        · exact ⟨k, List.mem_cons_of_mem _ paired, inside⟩
      · rintro ⟨k, paired, inside⟩
        rcases List.mem_cons.1 paired with same | paired
        · cases same
          exact .inl rfl
        · exact .inr ⟨k, paired, inside⟩

end CharSet

namespace Character

open CharSet Range

/-- Two characters are variants of each other if they make a pair one way or the
other. -/
theorem mem_variants_iff {a b : Nat} :
    (a, b) ∈ variants ↔ (a, b) ∈ casePairs ∨ (b, a) ∈ casePairs := by
  rw [variants, (List.mergeSort_perm _ _).mem_iff, List.mem_append, List.mem_map]
  refine or_congr_right ?_
  constructor
  · rintro ⟨⟨x, y⟩, paired, same⟩
    cases same
    exact paired
  · intro paired
    exact ⟨(b, a), paired, rfl⟩

theorem pairwise_variants : variants.Pairwise fun p q => p.1 ≤ q.1 := by
  refine (List.pairwise_mergeSort ?_ ?_ _).imp of_decide_eq_true
  · intro a b c
    simp only [decide_eq_true_eq]
    exact Nat.le_trans
  · intro a b
    simpa only [Bool.or_eq_true, decide_eq_true_eq] using Nat.le_total a.1 b.1

variable {s : CharSet} {c d : Char}

/-- A set without regard to case has its members and their variants. -/
theorem contains_caseFold :
    (caseFold s).contains c = true ↔
      s.contains c = true ∨ ∃ m, (m, c.toNat) ∈ variants ∧ Covers s.ranges m := by
  have ordered (r : Range) (among : r ∈ s.ranges) : r.low ≤ r.high :=
    (s.row.valid r among).ordered
  rw [caseFold, contains_union, Bool.or_eq_true, contains_ofPoints,
    mem_images_iff pairwise_variants s.row.apart ordered]

/-- Of two characters each stands for the other without regard to case, or
neither does. -/
theorem contains_caseFold_comm :
    (caseFold (.ofSigns [c])).contains d = (caseFold (.ofSigns [d])).contains c := by
  have stands (c d : Char) : (caseFold (.ofSigns [c])).contains d = true ↔
      d = c ∨ (c.toNat, d.toNat) ∈ variants := by
    rw [contains_caseFold, contains_ofSigns, List.mem_singleton]
    have point (m : Nat) : Covers (ofSigns [c]).ranges m ↔ m = c.toNat := by
      rw [ofSigns, covers_ofPoints, List.map_singleton, List.mem_singleton, and_iff_left_iff_imp]
      rintro rfl
      exact c.valid
    simp only [point, exists_eq_right]
  rw [Bool.eq_iff_iff, stands, stands, mem_variants_iff, mem_variants_iff, eq_comm (a := d),
    or_comm (a := (c.toNat, d.toNat) ∈ casePairs)]

end Character

namespace Pattern.Modes

open CharSet Range

variable {s : CharSet} {c d : Char} {rs : List Range} {n : Nat}

theorem toNat_toLower (c : Char) :
    c.toLower.toNat = if 0x41 ≤ c.toNat ∧ c.toNat ≤ 0x5A then c.toNat + 0x20 else c.toNat := by
  have capital : (c.val ≥ 'A'.val ∧ c.val ≤ 'Z'.val) ↔ 0x41 ≤ c.toNat ∧ c.toNat ≤ 0x5A := Iff.rfl
  unfold Char.toLower
  split
  · next inside =>
      have bounds := capital.1 inside
      rw [if_pos bounds]
      show (c.val + 32).toNat = c.toNat + 32
      rw [UInt32.toNat_add]
      exact Nat.mod_eq_of_lt (by show c.toNat + 32 < _; omega)
  · next outside => rw [if_neg (mt capital.2 outside)]

theorem covers_map_add (k : Nat) :
    Covers (rs.map fun r => ⟨r.low + k, r.high + k⟩) n ↔ k ≤ n ∧ Covers rs (n - k) := by
  simp only [Covers, List.mem_map, exists_exists_and_eq_and]
  constructor
  · rintro ⟨r, among, low, high⟩
    exact ⟨by omega, r, among, by omega, by omega⟩
  · rintro ⟨enough, r, among, low, high⟩
    exact ⟨r, among, by omega, by omega⟩

theorem covers_map_sub {k : Nat} (enough : ∀ r ∈ rs, k ≤ r.low ∧ r.low ≤ r.high) :
    Covers (rs.map fun r => ⟨r.low - k, r.high - k⟩) n ↔ Covers rs (n + k) := by
  simp only [Covers, List.mem_map, exists_exists_and_eq_and]
  refine exists_congr fun r => and_congr_right fun among => ?_
  have := enough r among
  constructor
  · rintro ⟨low, high⟩
    exact ⟨by omega, by omega⟩
  · rintro ⟨low, high⟩
    exact ⟨by omega, by omega⟩

/-- The part of a set in a range of ASCII. -/
theorem part_of_ascii (low high : Char) (ascii : high.toNat < 0x80) :
    (∀ r ∈ (s.inter (.range low.toNat high.toNat)).ranges,
        low.toNat ≤ r.low ∧ r.high ≤ high.toNat ∧ r.low ≤ r.high) ∧
      ∀ n, Covers (s.inter (.range low.toNat high.toNat)).ranges n ↔
        ∃ d, s.contains d = true ∧ low ≤ d ∧ d ≤ high ∧ d.toNat = n := by
  have holds (d : Char) : (s.inter (.range low.toNat high.toNat)).contains d = true ↔
      s.contains d = true ∧ low ≤ d ∧ d ≤ high := by
    rw [contains_inter, Bool.and_eq_true, contains_range]
  have inside (d : Char) (among : (s.inter (.range low.toNat high.toNat)).contains d = true) :
      low.toNat ≤ d.toNat ∧ d.toNat ≤ high.toNat := ((holds d).1 among).2
  constructor
  · intro r among
    obtain ⟨least, most⟩ := bounds inside r among
    exact ⟨least, most, ((s.inter _).row.valid r among).ordered⟩
  · intro n
    rw [covers_iff (by omega) inside]
    simp only [holds, and_assoc]

/-- Ranges of ASCII are ranges of characters. -/
theorem valid_of_ascii {r : Range} (ordered : r.low ≤ r.high) (ascii : r.high < 0x80) : r.Valid :=
  ⟨.inl (by omega), .inl (by omega), ordered⟩

/-- A set without regard to case in ASCII has the characters that are the same
in small letters as a member. -/
theorem contains_asciiFold :
    (asciiFold s).contains c = true ↔ ∃ d, s.contains d = true ∧ d.toLower = c.toLower := by
  obtain ⟨inCapitals, capitals⟩ := part_of_ascii (s := s) 'A' 'Z' (by decide)
  obtain ⟨inSmalls, smalls⟩ := part_of_ascii (s := s) 'a' 'z' (by decide)
  simp only [show 'A'.toNat = 0x41 from rfl, show 'Z'.toNat = 0x5A from rfl] at inCapitals
  simp only [show 'a'.toNat = 0x61 from rfl, show 'z'.toNat = 0x7A from rfl] at inSmalls
  have enough : ∀ r ∈ (s.inter (.range 0x61 0x7A)).ranges, 0x20 ≤ r.low ∧ r.low ≤ r.high := by
    intro r among
    obtain ⟨least, -, ordered⟩ := inSmalls r among
    exact ⟨by omega, ordered⟩
  have valid : ∀ r ∈ s.ranges ++
      ((s.inter (.range 0x41 0x5A)).ranges.map fun r => ⟨r.low + 0x20, r.high + 0x20⟩) ++
      ((s.inter (.range 0x61 0x7A)).ranges.map fun r => ⟨r.low - 0x20, r.high - 0x20⟩),
      Range.Valid r := by
    simp only [List.mem_append, or_imp, forall_and, List.forall_mem_map]
    refine ⟨⟨s.row.valid, fun r among => ?_⟩, fun r among => ?_⟩
    · obtain ⟨least, most, ordered⟩ := inCapitals r among
      exact valid_of_ascii (by dsimp only; omega) (by dsimp only; omega)
    · obtain ⟨least, most, ordered⟩ := inSmalls r among
      exact valid_of_ascii (by dsimp only; omega) (by dsimp only; omega)
  have folded : (asciiFold s).contains c = true ↔
      (s.contains c = true ∨
        0x20 ≤ c.toNat ∧ ∃ d, s.contains d = true ∧ 'A' ≤ d ∧ d ≤ 'Z' ∧ d.toNat = c.toNat - 0x20) ∨
      ∃ d, s.contains d = true ∧ 'a' ≤ d ∧ d ≤ 'z' ∧ d.toNat = c.toNat + 0x20 := by
    rw [asciiFold, contains_ofRanges valid, covers_append, covers_append, covers_map_add,
      covers_map_sub enough, ← contains_iff]
    exact or_congr (or_congr_right (and_congr_right fun _ => capitals _)) (smalls _)
  have alike (d : Char) : d.toLower = c.toLower ↔ d.toNat = c.toNat ∨
      (0x41 ≤ d.toNat ∧ d.toNat ≤ 0x5A ∧ c.toNat = d.toNat + 0x20) ∨
      0x61 ≤ d.toNat ∧ d.toNat ≤ 0x7A ∧ d.toNat = c.toNat + 0x20 := by
    rw [← Char.toNat_inj, toNat_toLower, toNat_toLower]
    split <;> split <;> omega
  rw [folded]
  constructor
  · rintro ((holds | ⟨enough, d, holds, low, high, same⟩) | ⟨d, holds, low, high, same⟩)
    · exact ⟨c, holds, rfl⟩
    · exact ⟨d, holds, (alike d).2 (.inr (.inl ⟨low, high, by omega⟩))⟩
    · exact ⟨d, holds, (alike d).2 (.inr (.inr ⟨low, high, same⟩))⟩
  · rintro ⟨d, holds, same⟩
    rcases (alike d).1 same with same | ⟨low, high, same⟩ | ⟨low, high, same⟩
    · exact .inl (.inl (Char.toNat_inj.1 same ▸ holds))
    · exact .inl (.inr ⟨by omega, d, holds, low, high, by omega⟩)
    · exact .inr ⟨d, holds, low, high, same⟩

end Pattern.Modes

end Chip8
