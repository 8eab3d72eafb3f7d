import Chip8.Proofs.CharSets
import Chip8.Proofs.Matching

/-!
# Simpler patterns

Written patterns are put together by `ofSet`, `times`, `inSequence` and `amongst`,
which simplify on the way. None of this changes which pieces are described:
each has the pieces of the construct that it stands for (`spans_ofSet`,
`spans_times`, `spans_inSequence`, `spans_amongst`). The simplifications look at how
long pieces can be and where they must begin or end, and what they go by is right
(`bounded_spans`, `eq_zero_of_startsText`, `eq_length_of_endsText`).
-/

namespace Chip8.Pattern

variable {text : List Char} {p q : Pattern} {ps qs : List Pattern} {i j n : Nat}

theorem spansAny_iff : SpansAny text ps i j ↔ ∃ p ∈ ps, p.Spans text i j := by
  induction ps with
  | nil => simp [SpansAny]
  | cons p rest ih => simp [SpansAny, ih]

theorem spansThrough_append :
    SpansThrough text (ps ++ qs) i j ↔
      ∃ k, SpansThrough text ps i k ∧ SpansThrough text qs k j := by
  induction ps generalizing i with
  | nil => simp [SpansThrough]
  | cons p rest ih =>
      simp only [List.cons_append, SpansThrough, ih]
      constructor
      · rintro ⟨k, first, l, second, third⟩
        exact ⟨l, ⟨k, first, second⟩, third⟩
      · rintro ⟨l, ⟨k, first, second⟩, third⟩
        exact ⟨k, first, l, second, third⟩

theorem spansThrough_singleton : SpansThrough text [p] i j ↔ p.Spans text i j := by
  simp [SpansThrough]

/-! ## How long pieces are -/

/-- A piece is at least and at most so long, as far as these lengths are known. -/
structure Bounded (shortest longest : Option Nat) (i j : Nat) : Prop where
  least (n : Nat) (known : shortest = some n) : i + n ≤ j
  most (n : Nat) (known : longest = some n) : j ≤ i + n

theorem bounded_of_eq (far : j = i + n) : Bounded (some n) (some n) i j where
  least m known := by
    cases known
    exact Nat.le_of_eq far.symm
  most m known := by
    cases known
    exact Nat.le_of_eq far

section Lengths

variable {length : Option Nat} {lengths : List (Option Nat)}

theorem sumOf_cons_eq_some (sum : sumOf (length :: lengths) = some n) :
    ∃ a b, length = some a ∧ sumOf lengths = some b ∧ n = a + b := by
  have total (b : Nat) (rest : List Nat) :
      (b :: rest).foldl (· + ·) 0 = b + rest.foldl (· + ·) 0 := by
    rw [List.foldl_cons, Nat.add_comm 0 b]
    exact List.foldl_assoc
  unfold sumOf at sum
  split at sum
  · next known =>
      obtain ⟨first, others⟩ := List.forall_mem_cons.1 (List.all_eq_true.1 known)
      obtain ⟨a, rfl⟩ := Option.isSome_iff_exists.1 first
      cases sum
      exact ⟨a, _, rfl, if_pos (List.all_eq_true.2 others), total a _⟩
  · cases sum

theorem exists_ge_of_leastOf (least : leastOf lengths = some n) (among : length ∈ lengths) :
    ∃ m ≥ n, length = some m := by
  unfold leastOf at least
  split at least
  · next known =>
      obtain ⟨m, rfl⟩ := Option.isSome_iff_exists.1 (List.all_eq_true.1 known length among)
      have listed : m ∈ lengths.filterMap id := List.mem_filterMap.2 ⟨some m, among, rfl⟩
      exact ⟨m, (List.min?_eq_some_iff.1 least).2 m listed, rfl⟩
  · cases least

theorem exists_le_of_greatestOf (greatest : greatestOf lengths = some n)
    (among : length ∈ lengths) : ∃ m ≤ n, length = some m := by
  unfold greatestOf at greatest
  split at greatest
  · next known =>
      obtain ⟨m, rfl⟩ := Option.isSome_iff_exists.1 (List.all_eq_true.1 known length among)
      have listed : m ∈ lengths.filterMap id := List.mem_filterMap.2 ⟨some m, among, rfl⟩
      exact ⟨m, (List.max?_eq_some_iff.1 greatest).2 m listed, rfl⟩
  · cases greatest

end Lengths

/-- Steps between two lengths lead between so many times these. -/
theorem Chain.bounded {r : Nat → Nat → Prop} {shortest longest : Option Nat}
    (step : ∀ i j, r i j → Bounded shortest longest i j) (chain : Chain r n i j) :
    Bounded (shortest.map (· * n)) (longest.map (n * ·)) i j := by
  induction n generalizing i with
  | zero =>
      obtain rfl : i = j := chain
      constructor
      · intro m known
        obtain ⟨l, -, rfl⟩ := Option.map_eq_some_iff.1 known
        simp
      · intro m known
        exact Nat.le_add_right _ _
  | succ n ih =>
      obtain ⟨k, first, later⟩ := chain
      obtain ⟨least, most⟩ := step i k first
      obtain ⟨leastLater, mostLater⟩ := ih later
      constructor
      · intro m known
        obtain ⟨l, rfl, rfl⟩ := Option.map_eq_some_iff.1 known
        have now := least l rfl
        have rest := leastLater (l * n) rfl
        rw [Nat.mul_succ]
        omega
      · intro m known
        obtain ⟨l, rfl, rfl⟩ := Option.map_eq_some_iff.1 known
        have now := most l rfl
        have rest := mostLater (n * l) rfl
        rw [Nat.succ_mul]
        omega

mutual

/-- The lengths of the shortest and the longest piece bound all others. -/
theorem bounded_spans (p : Pattern) {i j : Nat} (spans : p.Spans text i j) :
    Bounded p.shortest? p.longest? i j := by
  match p with
  | empty => exact bounded_of_eq spans.symm
  | literal signs => exact bounded_of_eq spans.2
  | oneOf _ set =>
      obtain ⟨⟨c, -, holds⟩, next⟩ := spans
      have some : ¬set.isEmpty = true := by
        intro none
        rw [CharSet.isEmpty_iff.1 none c] at holds
        cases holds
      rw [shortest?, longest?, if_neg some]
      exact bounded_of_eq next
  | look l => exact bounded_of_eq spans.2.2.symm
  | repeated p count _ =>
      obtain ⟨n, ⟨enough, few⟩, chain⟩ := spans
      have bounds := chain.bounded fun i j one => bounded_spans p one
      constructor
      · intro m known
        obtain ⟨l, shortest, rfl⟩ := Option.map_eq_some_iff.1 known
        have far := bounds.least (l * n) (by rw [shortest]; rfl)
        have fewest : l * count.least ≤ l * n := Nat.mul_le_mul_left l enough
        omega
      · intro m known
        obtain ⟨most, bound, known⟩ := Option.bind_eq_some_iff.1 known
        obtain ⟨l, longest, same⟩ := Option.bind_eq_some_iff.1 known
        cases same
        have near := bounds.most (n * l) (by rw [longest]; rfl)
        have furthest : n * l ≤ most * l := Nat.mul_le_mul_right l (few most bound)
        omega
  | group _ p => exact bounded_spans p spans
  | sequence ps => exact bounded_spansThrough ps spans
  | choice ps =>
      obtain ⟨shortest, short, longest, long, bounds⟩ := bounded_spansAny ps spans
      constructor
      · intro n known
        obtain ⟨m, bound, rfl⟩ := exists_ge_of_leastOf known short
        have := bounds.least m rfl
        omega
      · intro n known
        obtain ⟨m, bound, rfl⟩ := exists_le_of_greatestOf known long
        have := bounds.most m rfl
        omega

theorem bounded_spansThrough (ps : List Pattern) {i j : Nat} (spans : SpansThrough text ps i j) :
    Bounded (sumOf (shortestAll ps)) (sumOf (longestAll ps)) i j := by
  match ps with
  | [] => exact bounded_of_eq spans.symm
  | p :: rest =>
      obtain ⟨k, first, later⟩ := spans
      have now := bounded_spans p first
      have behind := bounded_spansThrough rest later
      constructor
      · intro n known
        obtain ⟨a, b, one, others, rfl⟩ := sumOf_cons_eq_some known
        have := now.least a one
        have := behind.least b others
        omega
      · intro n known
        obtain ⟨a, b, one, others, rfl⟩ := sumOf_cons_eq_some known
        have := now.most a one
        have := behind.most b others
        omega

theorem bounded_spansAny (ps : List Pattern) {i j : Nat} (spans : SpansAny text ps i j) :
    ∃ shortest ∈ shortestAll ps, ∃ longest ∈ longestAll ps, Bounded shortest longest i j := by
  match ps with
  | [] => exact spans.elim
  | p :: rest =>
      rcases spans with one | other
      · exact ⟨_, List.mem_cons_self, _, List.mem_cons_self, bounded_spans p one⟩
      · obtain ⟨shortest, short, longest, long, bounds⟩ := bounded_spansAny rest other
        exact ⟨shortest, List.mem_cons_of_mem _ short, longest, List.mem_cons_of_mem _ long,
          bounds⟩

end

/-- Pieces of a hollow pattern are empty. -/
theorem eq_of_isHollow (hollow : p.isHollow = true) (spans : p.Spans text i j) : i = j := by
  have most := (bounded_spans p spans).most 0 (of_decide_eq_true hollow)
  have onward := onward_spans text p i j spans
  omega

/-! ## Where pieces begin and end -/

theorem eq_zero_of_isNone_leftOf (inside : i ≤ text.length)
    (none : (leftOf none text i).isNone = true) : i = 0 := by
  cases i with
  | zero => rfl
  | succ i =>
      have inside : i < text.length := inside
      simp [leftOf, List.getElem?_eq_getElem inside] at none

mutual

/-- A pattern that begins where the text does has pieces nowhere else. -/
theorem eq_zero_of_startsText (p : Pattern) (starts : p.startsText = true) {i j : Nat}
    (spans : p.Spans text i j) : i = 0 := by
  match p with
  | look .textStart => exact eq_zero_of_isNone_leftOf spans.1 spans.2.1
  | repeated p count _ =>
      obtain ⟨some, starts⟩ := Bool.and_eq_true_iff.1 starts
      obtain ⟨n, ⟨enough, -⟩, chain⟩ := spans
      cases n with
      | zero => exact absurd (of_decide_eq_true some) (Nat.not_lt.2 enough)
      | succ n =>
          obtain ⟨k, first, -⟩ := chain
          exact eq_zero_of_startsText p starts first
  | group _ p => exact eq_zero_of_startsText p starts spans
  | sequence ps => exact eq_zero_of_someStarts ps starts spans
  | choice ps => exact eq_zero_of_allStart ps starts spans

theorem eq_zero_of_someStarts (ps : List Pattern) (starts : someStarts ps = true) {i j : Nat}
    (spans : SpansThrough text ps i j) : i = 0 := by
  match ps with
  | p :: rest =>
      obtain ⟨k, first, later⟩ := spans
      rw [someStarts, Bool.or_eq_true, Bool.and_eq_true] at starts
      rcases starts with starts | ⟨hollow, starts⟩
      · exact eq_zero_of_startsText p starts first
      · obtain rfl := eq_of_isHollow hollow first
        exact eq_zero_of_someStarts rest starts later

theorem eq_zero_of_allStart (ps : List Pattern) (starts : allStart ps = true) {i j : Nat}
    (spans : SpansAny text ps i j) : i = 0 := by
  match ps with
  | p :: rest =>
      obtain ⟨first, others⟩ := Bool.and_eq_true_iff.1 starts
      rcases spans with one | other
      · exact eq_zero_of_startsText p first one
      · exact eq_zero_of_allStart rest others other

end

/-- Pieces of hollow patterns in a row are empty. -/
theorem eq_of_someEnd (hollow : (someEnd ps).2 = true) (spans : SpansThrough text ps i j) :
    i = j := by
  induction ps generalizing i with
  | nil => exact spans
  | cons p rest ih =>
      obtain ⟨k, first, later⟩ := spans
      obtain ⟨others, one⟩ := Bool.and_eq_true_iff.1 hollow
      obtain rfl := eq_of_isHollow one first
      exact ih others later

mutual

/-- A pattern that ends where the text does has pieces nowhere else. -/
theorem eq_length_of_endsText (p : Pattern) (ends : p.endsText = true) {i j : Nat}
    (spans : p.Spans text i j) : j = text.length := by
  match p with
  | look .textEnd =>
      obtain ⟨inside, none, rfl⟩ := spans
      have outside : text.length ≤ i :=
        List.getElem?_eq_none_iff.1 (Option.isNone_iff_eq_none.1 none)
      omega
  | repeated p count _ =>
      obtain ⟨some, ends⟩ := Bool.and_eq_true_iff.1 ends
      obtain ⟨n, ⟨enough, -⟩, chain⟩ := spans
      cases n with
      | zero => exact absurd (of_decide_eq_true some) (Nat.not_lt.2 enough)
      | succ n =>
          obtain ⟨k, -, last, one, rfl⟩ := chain_add_iff.1 chain
          exact eq_length_of_endsText p ends one
  | group _ p => exact eq_length_of_endsText p ends spans
  | sequence ps => exact eq_length_of_someEnd ps ends spans
  | choice ps => exact eq_length_of_allEnd ps ends spans

theorem eq_length_of_someEnd (ps : List Pattern) (ends : (someEnd ps).1 = true) {i j : Nat}
    (spans : SpansThrough text ps i j) : j = text.length := by
  match ps with
  | p :: rest =>
      obtain ⟨k, first, later⟩ := spans
      rw [someEnd, Bool.or_eq_true, Bool.and_eq_true] at ends
      rcases ends with ends | ⟨hollow, ends⟩
      · exact eq_length_of_someEnd rest ends later
      · obtain rfl := eq_of_someEnd hollow later
        exact eq_length_of_endsText p ends first

theorem eq_length_of_allEnd (ps : List Pattern) (ends : allEnd ps = true) {i j : Nat}
    (spans : SpansAny text ps i j) : j = text.length := by
  match ps with
  | p :: rest =>
      obtain ⟨first, others⟩ := Bool.and_eq_true_iff.1 ends
      rcases spans with one | other
      · exact eq_length_of_endsText p first one
      · exact eq_length_of_allEnd rest others other

end

/-! ## Simpler constructs -/

theorem spans_ofSet (set : CharSet) (isUnicode : Bool) :
    (ofSet isUnicode set).Spans text i j ↔ (oneOf isUnicode set).Spans text i j := by
  unfold ofSet
  split
  · next c single =>
      have here : (∃ d, text[i]? = some d ∧ set.contains d = true) ↔ text[i]? = some c := by
        simp only [CharSet.contains_iff_of_single? single, exists_eq_right]
      simp only [Spans, cons_isPrefix_drop_iff, List.nil_prefix, and_true, here,
        List.length_singleton]
  · split
    · next none =>
        have nothing (c : Char) : set.contains c = false := CharSet.isEmpty_iff.1 none c
        simp [never, Spans, nothing]
    · rfl

/-- Copies of a hollow pattern are no more than one copy, which may be missing. -/
theorem chain_of_isHollow (hollow : p.isHollow = true) :
    Chain (fun i j => p.Spans text i j) n i j ↔ i = j ∧ (n = 0 ∨ p.Spans text i i) := by
  induction n generalizing i with
  | zero => simp [Chain]
  | succ n ih =>
      simp only [Chain, ih, Nat.succ_ne_zero, false_or]
      constructor
      · rintro ⟨k, first, rfl, -⟩
        obtain rfl := eq_of_isHollow hollow first
        exact ⟨rfl, first⟩
      · rintro ⟨rfl, one⟩
        exact ⟨i, one, rfl, .inr one⟩

/-- Of a count of hollow pieces it only matters whether there may be none. -/
theorem spans_repeated_of_isHollow (hollow : p.isHollow = true) (count : Count)
    (isGreedy : Bool) :
    (repeated p count isGreedy).Spans text i j ↔
      i = j ∧ (count.least = 0 ∨ p.Spans text i i) := by
  simp only [Spans, chain_of_isHollow hollow]
  constructor
  · rintro ⟨n, ⟨enough, -⟩, rfl, rfl | one⟩
    · exact ⟨rfl, .inl (Nat.le_zero.1 enough)⟩
    · exact ⟨rfl, .inr one⟩
  · rintro ⟨rfl, none | one⟩
    · exact ⟨0, none ▸ count.allows_least, rfl, .inl rfl⟩
    · exact ⟨_, count.allows_least, rfl, .inr one⟩

/-- What is allowed just so often comes so often. -/
theorem spans_repeated_of_eq {count : Count} (same : count.most = some count.least)
    (isGreedy : Bool) :
    (repeated p count isGreedy).Spans text i j ↔
      Chain (fun i j => p.Spans text i j) count.least i j := by
  simp only [Spans, Count.allows_iff_eq same, exists_eq_left]

theorem spans_times (count : Count) (isGreedy : Bool) :
    (times count isGreedy p).Spans text i j ↔ (repeated p count isGreedy).Spans text i j := by
  have capped : (repeated p (if p.isHollow then count.once else count) isGreedy).Spans text i j ↔
      (repeated p count isGreedy).Spans text i j := by
    split
    · next hollow =>
        have least : count.once.least = 0 ↔ count.least = 0 := by
          show min count.least 1 = 0 ↔ _
          omega
        rw [spans_repeated_of_isHollow hollow, spans_repeated_of_isHollow hollow, least]
    · rfl
  rw [← capped, times]
  generalize (if p.isHollow then count.once else count) = count
  split
  · next none =>
      have least : count.least = 0 := Nat.le_zero.1 (count.ordered 0 none)
      rw [spans_repeated_of_eq (none.trans (congrArg some least.symm)), least]
      rfl
  · split
    · next once =>
        obtain ⟨least, most⟩ : count.least = 1 ∧ count.most = some 1 := by simpa using once
        rw [spans_repeated_of_eq (most.trans (congrArg some least.symm)), least]
        simp [Chain]
    · rfl

theorem spans_parts (p : Pattern) : SpansThrough text p.parts i j ↔ p.Spans text i j := by
  cases p with
  | empty => rfl
  | sequence ps => rfl
  | _ => exact spansThrough_singleton

theorem spans_flatMap_parts :
    SpansThrough text (ps.flatMap parts) i j ↔ SpansThrough text ps i j := by
  induction ps generalizing i with
  | nil => rfl
  | cons p rest ih =>
      simp only [List.flatMap_cons, spansThrough_append, ih, spans_parts, SpansThrough]

/-- Two texts next to each other are one. -/
theorem spans_literal_append (a b : List Char) :
    (literal (a ++ b)).Spans text i j ↔
      ∃ k, (literal a).Spans text i k ∧ (literal b).Spans text k j := by
  have here : a ++ b <+: text.drop i ↔ a <+: text.drop i ∧ b <+: text.drop (i + a.length) := by
    induction a generalizing i with
    | nil => simp
    | cons c rest ih =>
        rw [List.cons_append, cons_isPrefix_drop_iff, cons_isPrefix_drop_iff, ih, and_assoc,
          List.length_cons, Nat.add_right_comm i, Nat.add_assoc i]
  simp only [Spans, here, List.length_append]
  constructor
  · rintro ⟨⟨first, second⟩, rfl⟩
    exact ⟨_, ⟨first, rfl⟩, second, (Nat.add_assoc ..).symm⟩
  · rintro ⟨_, ⟨first, rfl⟩, second, rfl⟩
    exact ⟨⟨first, second⟩, Nat.add_assoc ..⟩

theorem spans_joinTexts : SpansThrough text (joinTexts ps) i j ↔ SpansThrough text ps i j := by
  fun_induction joinTexts ps generalizing i with
  | case1 => rfl
  | case2 a rest b more joined ih =>
      have later (k : Nat) : SpansThrough text rest k j ↔
          ∃ l, (literal b).Spans text k l ∧ SpansThrough text more l j := by
        rw [← ih, joined, SpansThrough]
      simp only [SpansThrough, spans_literal_append, later]
      constructor
      · rintro ⟨l, ⟨k, first, second⟩, third⟩
        exact ⟨k, first, l, second, third⟩
      · rintro ⟨k, first, l, second, third⟩
        exact ⟨l, ⟨k, first, second⟩, third⟩
  | case3 a rest _ ih => simp only [SpansThrough, ih]
  | case4 p rest _ ih => simp only [SpansThrough, ih]

theorem spans_inSequence : (inSequence ps).Spans text i j ↔ SpansThrough text ps i j := by
  rw [← spans_flatMap_parts, ← spans_joinTexts]
  unfold inSequence
  split
  · next none => rw [none]; rfl
  · next p one => rw [one, spansThrough_singleton]
  · rfl

/-! ## Simpler choices -/

mutual

/-- Patterns that are written alike are the same. -/
theorem eq_of_same (p q : Pattern) (alike : p.same q = true) : p = q := by
  match p with
  | empty =>
      cases q with
      | empty => rfl
      | _ => cases alike
  | literal a =>
      cases q with
      | literal b => rw [of_decide_eq_true alike]
      | _ => cases alike
  | oneOf u s =>
      cases q with
      | oneOf v t =>
          obtain ⟨rfl, rfl⟩ := by simpa [same] using alike
          rfl
      | _ => cases alike
  | look k =>
      cases q with
      | look l => rw [of_decide_eq_true alike]
      | _ => cases alike
  | repeated p c g =>
      cases q with
      | repeated q d h =>
          simp only [same, Bool.and_eq_true, decide_eq_true_eq] at alike
          obtain ⟨⟨rfl, rfl⟩, alike⟩ := alike
          rw [eq_of_same p q alike]
      | _ => cases alike
  | group i p =>
      cases q with
      | group k q =>
          simp only [same, Bool.and_eq_true, decide_eq_true_eq] at alike
          obtain ⟨rfl, alike⟩ := alike
          rw [eq_of_same p q alike]
      | _ => cases alike
  | sequence ps =>
      cases q with
      | sequence qs => rw [eq_of_sameAll ps qs alike]
      | _ => cases alike
  | choice ps =>
      cases q with
      | choice qs => rw [eq_of_sameAll ps qs alike]
      | _ => cases alike

theorem eq_of_sameAll (ps qs : List Pattern) (alike : sameAll ps qs = true) : ps = qs := by
  match ps with
  | [] =>
      cases qs with
      | nil => rfl
      | cons => cases alike
  | p :: rest =>
      cases qs with
      | nil => cases alike
      | cons q others =>
          obtain ⟨first, later⟩ := Bool.and_eq_true_iff.1 alike
          rw [eq_of_same p q first, eq_of_sameAll rest others later]

end

/-- Sequences begin alike with as many parts as they have in common. -/
theorem take_common_isPrefix (ps qs : List Pattern) : ps.take (common ps qs) <+: qs := by
  fun_induction common ps qs with
  | case1 p ps q qs alike ih =>
      rw [eq_of_same p q alike, List.take_succ_cons]
      exact List.cons_prefix_cons.2 ⟨rfl, ih⟩
  | case2 => simp
  | case3 => simp

theorem commonParts_isPrefix {sequences : List (List Pattern)} (among : qs ∈ sequences) :
    commonParts sequences <+: qs := by
  have shared (others : List (List Pattern)) (first : List Pattern) :
      let fewest := others.foldl (fun shared ps => shared.take (common shared ps)) first
      fewest <+: first ∧ ∀ ps ∈ others, fewest <+: ps := by
    induction others generalizing first with
    | nil => simp
    | cons other others ih =>
        obtain ⟨least, each⟩ := ih (first.take (common first other))
        refine ⟨least.trans (List.take_prefix _ _), List.forall_mem_cons.2 ⟨?_, each⟩⟩
        exact least.trans (take_common_isPrefix first other)
  cases sequences with
  | nil => cases among
  | cons first others =>
      rcases List.mem_cons.1 among with rfl | among
      · exact (shared others qs).1
      · exact (shared others first).2 qs among

section Kinds

variable {α : Type} {f : Pattern → Option α} {ys : List α}

/-- What holds of one of several patterns of a kind holds of one of their parts. -/
theorem exists_iff_of_mapM (each : ps.mapM f = some ys) {P : Pattern → Prop} {Q : α → Prop}
    (same : ∀ p y, f p = some y → (P p ↔ Q y)) : (∃ p ∈ ps, P p) ↔ ∃ y ∈ ys, Q y := by
  induction ps generalizing ys with
  | nil =>
      cases each
      simp
  | cons p rest ih =>
      simp only [List.mapM_cons, Option.bind_eq_bind, Option.bind_eq_some_iff] at each
      obtain ⟨y, first, zs, others, same'⟩ := each
      cases same'
      simp [ih others, same p y first]

end Kinds

theorem eq_of_character? {c : Char} (known : p.character? = some c) : p = literal [c] := by
  unfold character? at known
  split at known
  · cases known
    rfl
  · cases known

theorem eq_of_set? {set : CharSet} (known : p.set? = some set) : ∃ u, p = oneOf u set := by
  unfold set? at known
  split at known
  · next u s =>
      cases known
      exact ⟨u, rfl⟩
  · cases known

theorem eq_of_sequence? (known : p.sequence? = some qs) : p = sequence qs := by
  unfold sequence? at known
  split at known
  · cases known
    rfl
  · cases known

theorem spansAny_append :
    SpansAny text (ps ++ qs) i j ↔ SpansAny text ps i j ∨ SpansAny text qs i j := by
  simp only [spansAny_iff, List.mem_append, or_and_right, exists_or]

theorem spansAny_flatMap_options :
    SpansAny text (ps.flatMap options) i j ↔ SpansAny text ps i j := by
  have alone (p : Pattern) : SpansAny text p.options i j ↔ p.Spans text i j := by
    cases p with
    | choice ps => rfl
    | _ => simp [options, SpansAny]
  induction ps with
  | nil => rfl
  | cons p rest ih => simp only [List.flatMap_cons, spansAny_append, alone, ih, SpansAny]

/-- Single characters make a set. -/
theorem spans_characters {characters : List Char}
    (each : ps.mapM character? = some characters) :
    (ofSet true (.ofSigns characters)).Spans text i j ↔ SpansAny text ps i j := by
  have one (p : Pattern) (c : Char) (known : p.character? = some c) :
      p.Spans text i j ↔ text[i]? = some c ∧ j = i + 1 := by
    rw [eq_of_character? known]
    simp [Spans, cons_isPrefix_drop_iff]
  rw [spans_ofSet, spansAny_iff, exists_iff_of_mapM each one]
  simp only [Spans, CharSet.contains_ofSigns]
  constructor
  · rintro ⟨⟨c, here, among⟩, rfl⟩
    exact ⟨c, among, here, rfl⟩
  · rintro ⟨c, among, here, rfl⟩
    exact ⟨⟨c, here, among⟩, rfl⟩

/-- Sets make a set. -/
theorem spans_sets {sets : List CharSet} (each : ps.mapM set? = some sets) :
    (ofSet true (.unions sets)).Spans text i j ↔ SpansAny text ps i j := by
  have one (p : Pattern) (s : CharSet) (known : p.set? = some s) :
      p.Spans text i j ↔ (∃ c, text[i]? = some c ∧ s.contains c = true) ∧ j = i + 1 := by
    obtain ⟨u, rfl⟩ := eq_of_set? known
    rfl
  rw [spans_ofSet, spansAny_iff, exists_iff_of_mapM each one]
  simp only [Spans, CharSet.contains_unions, List.any_eq_true]
  constructor
  · rintro ⟨⟨c, here, s, among, holds⟩, rfl⟩
    exact ⟨s, among, ⟨c, here, holds⟩, rfl⟩
  · rintro ⟨s, among, ⟨c, here, holds⟩, rfl⟩
    exact ⟨⟨c, here, s, among, holds⟩, rfl⟩

/-- What all sequences begin with comes in front of what they go on with. -/
theorem spans_sequences {sequences : List (List Pattern)} {shared : List Pattern}
    {rest : Pattern} (each : ps.mapM sequence? = some sequences)
    (prefixed : ∀ qs ∈ sequences, shared <+: qs)
    (chooses : ∀ k, rest.Spans text k j ↔
      SpansAny text (sequences.map fun qs => inSequence (qs.drop shared.length)) k j) :
    (inSequence (shared ++ [rest])).Spans text i j ↔ SpansAny text ps i j := by
  have one (p : Pattern) (qs : List Pattern) (known : p.sequence? = some qs) :
      p.Spans text i j ↔ SpansThrough text qs i j := by
    rw [eq_of_sequence? known, Spans]
  have cut (qs : List Pattern) (among : qs ∈ sequences) : SpansThrough text qs i j ↔
      ∃ k, SpansThrough text shared i k ∧ SpansThrough text (qs.drop shared.length) k j := by
    obtain ⟨others, rfl⟩ := prefixed qs among
    rw [spansThrough_append, List.drop_left]
  rw [spans_inSequence, spansThrough_append, spansAny_iff, exists_iff_of_mapM each one]
  simp only [spansThrough_singleton, chooses, spansAny_iff, List.mem_map,
    exists_exists_and_eq_and, spans_inSequence]
  constructor
  · rintro ⟨k, first, qs, among, later⟩
    exact ⟨qs, among, (cut qs among).2 ⟨k, first, later⟩⟩
  · rintro ⟨qs, among, through⟩
    obtain ⟨k, first, later⟩ := (cut qs among).1 through
    exact ⟨k, first, qs, among, later⟩

theorem spans_simplerChoice (tries : Nat) :
    (simplerChoice tries ps).Spans text i j ↔ SpansAny text ps i j := by
  induction tries generalizing ps i with
  | zero => rfl
  | succ tries ih =>
      rw [simplerChoice, ← spansAny_flatMap_options]
      generalize ps.flatMap options = ps
      dsimp only
      split
      · simp [never, Spans, SpansAny]
      · simp [SpansAny]
      · next characters _ each => exact spans_characters each
      · next sets _ _ each _ => exact spans_sets each
      · next sequences _ _ each _ _ =>
          split
          · rfl
          · exact spans_sequences each (fun qs among => commonParts_isPrefix among) fun k => ih
      · rfl

theorem spans_amongst : (amongst ps).Spans text i j ↔ SpansAny text ps i j :=
  spans_simplerChoice _

end Chip8.Pattern
