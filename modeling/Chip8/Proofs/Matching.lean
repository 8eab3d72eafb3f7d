import Chip8.Pattern.Match
import Mathlib.Logic.Basic

/-!
# What matching finds

`Pattern.Spans` says between which places of a text there is a piece as a
pattern describes it, construct by construct. Matching works on all places at
once, one bit each, and every step of it takes a set of places along a relation
(`Along`). So `reach` takes places along `Spans` (`along_reach`), and a text is
found to hold a piece just if there is one (`occursIn_iff`).

A repetition without an upper bound is cut off after as many rounds as there are
places. Nothing is lost by this: pieces only lead onwards, so a chain of them that
gets anywhere gets there in fewer steps (`Chain.shorten`).
-/

namespace Chip8.Pattern

/-- A relation between places, followed some number of times. -/
def Chain (r : Nat → Nat → Prop) : Nat → Nat → Nat → Prop
  | 0, i, j => i = j
  | n + 1, i, j => ∃ k, r i k ∧ Chain r n k j

/-- The character on the left of a place, given the one in front of the text. -/
def leftOf (first : Option Char) (text : List Char) : Nat → Option Char
  | 0 => first
  | i + 1 => text[i]?

mutual

/-- Whether a piece as a pattern describes it lies between two places. -/
def Spans (text : List Char) : Pattern → Nat → Nat → Prop
  | empty, i, j => i = j
  | literal signs, i, j => signs <+: text.drop i ∧ j = i + signs.length
  | oneOf _ set, i, j => (∃ c, text[i]? = some c ∧ set.contains c = true) ∧ j = i + 1
  | look l, i, j => i ≤ text.length ∧ l.test (leftOf none text i) text[i]? = true ∧ i = j
  | repeated p count _, i, j => ∃ n, count.Allows n ∧ Chain (fun i j => p.Spans text i j) n i j
  | group _ p, i, j => p.Spans text i j
  | sequence ps, i, j => SpansThrough text ps i j
  | choice ps, i, j => SpansAny text ps i j

/-- Whether pieces that follow each other lie between two places. -/
def SpansThrough (text : List Char) : List Pattern → Nat → Nat → Prop
  | [], i, j => i = j
  | p :: rest, i, j => ∃ k, p.Spans text i k ∧ SpansThrough text rest k j

/-- Whether one of several pieces lies between two places. -/
def SpansAny (text : List Char) : List Pattern → Nat → Nat → Prop
  | [], _, _ => False
  | p :: rest, i, j => p.Spans text i j ∨ SpansAny text rest i j

end

/-! ## Sets of places -/

theorem testBit_toNat_add (b : Bool) (n i : Nat) :
    (b.toNat + 2 * n).testBit i = match i with
      | 0 => b
      | i + 1 => n.testBit i := by
  cases i with
  | zero => cases b <;> simp [Nat.testBit_zero]
  | succ i =>
      rw [Nat.testBit_succ]
      congr 1
      cases b <;> simp <;> omega

theorem testBit_before (accepts : Char → Bool) (text : List Char) (i : Nat) :
    (before accepts text).testBit i = text[i]?.any accepts := by
  induction text generalizing i with
  | nil => simp [before]
  | cons c rest ih =>
      rw [before, testBit_toNat_add]
      cases i with
      | zero => rfl
      | succ i => exact ih i

theorem testBit_gaps (accepts : Option Char → Option Char → Bool) (first : Option Char)
    (text : List Char) (i : Nat) :
    (gaps accepts first text).testBit i =
      (decide (i ≤ text.length) && accepts (leftOf first text i) text[i]?) := by
  induction text generalizing first i with
  | nil =>
      have hollow := testBit_toNat_add (accepts first none) 0 i
      cases i with
      | zero => simpa [gaps, leftOf] using hollow
      | succ i => simpa [gaps] using hollow
  | cons c rest ih =>
      rw [gaps, testBit_toNat_add]
      cases i with
      | zero => simp [leftOf]
      | succ i =>
          have left : leftOf (some c) rest i = leftOf first (c :: rest) (i + 1) := by
            cases i <;> rfl
          simp only [ih, left, List.length_cons, Nat.add_le_add_iff_right,
            List.getElem?_cons_succ]

theorem testBit_everywhere (text : List Char) (i : Nat) :
    (everywhere text).testBit i = decide (i ≤ text.length) := by
  rw [everywhere, Nat.one_shiftLeft, Nat.testBit_two_pow_sub_one]
  exact decide_eq_decide.2 Nat.lt_succ_iff

/-! ## Steps along a relation -/

/-- A step takes any set of places to those that a relation leads to. -/
def Along (r : Nat → Nat → Prop) (step : Places → Places) : Prop :=
  ∀ s j, (step s).testBit j = true ↔ ∃ i, s.testBit i = true ∧ r i j

variable {r t : Nat → Nat → Prop} {step next : Places → Places} {n i j k : Nat}

namespace Along

theorem stay : Along (fun i j => i = j) fun s => s := by
  intro s j
  simp

theorem nowhere : Along (fun _ _ => False) fun _ => 0 := by
  intro s j
  simp

theorem both (first : Along r step) (second : Along t next) :
    Along (fun i j => r i j ∨ t i j) fun s => step s ||| next s := by
  intro s j
  rw [Nat.testBit_or, Bool.or_eq_true, first, second, ← exists_or]
  simp only [and_or_left]

theorem andThen (first : Along r step) (second : Along t next) :
    Along (fun i j => ∃ k, r i k ∧ t k j) fun s => next (step s) := by
  intro s j
  rw [second]
  constructor
  · rintro ⟨k, reached, later⟩
    obtain ⟨i, begins, now⟩ := (first s k).1 reached
    exact ⟨i, begins, k, now, later⟩
  · rintro ⟨i, begins, k, now, later⟩
    exact ⟨k, (first s k).2 ⟨i, begins, now⟩, later⟩

theorem congr (along : Along r step) (same : ∀ i j, t i j ↔ r i j) : Along t step := by
  intro s j
  simp only [along s j, same]

end Along

theorem along_past (text : List Char) (accepts : Char → Bool) :
    Along (fun i j => (∃ c, text[i]? = some c ∧ accepts c = true) ∧ j = i + 1)
      (past text accepts) := by
  intro s j
  rw [past, Nat.testBit_shiftLeft, Nat.testBit_and, testBit_before]
  simp only [Bool.and_eq_true, decide_eq_true_eq, Option.any_eq_true]
  constructor
  · rintro ⟨least, begins, c, here, accepted⟩
    exact ⟨j - 1, begins, ⟨c, here, accepted⟩, by omega⟩
  · rintro ⟨i, begins, ⟨c, here, accepted⟩, rfl⟩
    exact ⟨by omega, begins, c, here, accepted⟩

theorem along_gaps (text : List Char) (accepts : Option Char → Option Char → Bool) :
    Along (fun i j => i ≤ text.length ∧ accepts (leftOf none text i) text[i]? = true ∧ i = j)
      fun s => s &&& gaps accepts none text := by
  intro s j
  rw [Nat.testBit_and, testBit_gaps]
  simp only [Bool.and_eq_true, decide_eq_true_eq]
  constructor
  · rintro ⟨begins, inside, accepted⟩
    exact ⟨j, begins, inside, accepted, rfl⟩
  · rintro ⟨i, begins, inside, accepted, rfl⟩
    exact ⟨begins, inside, accepted⟩

theorem cons_isPrefix_drop_iff {text rest : List Char} {c : Char} :
    c :: rest <+: text.drop i ↔ text[i]? = some c ∧ rest <+: text.drop (i + 1) := by
  rcases Nat.lt_or_ge i text.length with inside | outside
  · rw [List.drop_eq_getElem_cons inside, List.cons_prefix_cons, List.getElem?_eq_getElem inside,
      Option.some_inj, eq_comm]
  · simp [List.drop_eq_nil_of_le outside, List.getElem?_eq_none outside]

/-- The signs of a text are gone past one by one. -/
theorem along_literal (text signs : List Char) :
    Along (fun i j => signs <+: text.drop i ∧ j = i + signs.length)
      fun s => signs.foldl (fun s c => past text (· = c) s) s := by
  induction signs with
  | nil => exact Along.stay.congr fun i j => by simp [eq_comm]
  | cons c rest ih =>
      refine ((along_past text (· = c)).andThen ih).congr fun i j => ?_
      have here : (∃ d, text[i]? = some d ∧ decide (d = c) = true) ↔ text[i]? = some c := by
        simp
      rw [cons_isPrefix_drop_iff, List.length_cons, here]
      constructor
      · rintro ⟨⟨first, later⟩, rfl⟩
        exact ⟨i + 1, ⟨first, rfl⟩, later, by omega⟩
      · rintro ⟨_, ⟨first, rfl⟩, later, rfl⟩
        exact ⟨⟨first, later⟩, by omega⟩

/-! ## Repetitions -/

theorem exactly_of_fixed {s : Places} (fixed : step s = s) (n : Nat) : exactly step n s = s := by
  cases n with
  | zero => rfl
  | succ n => exact if_pos fixed

/-- To stop once nothing changes is as good as to go on. -/
theorem exactly_succ (step : Places → Places) (n : Nat) (s : Places) :
    exactly step (n + 1) s = exactly step n (step s) := by
  rw [exactly]
  split
  · next fixed => rw [fixed, exactly_of_fixed fixed]
  · rfl

theorem within_of_fixed {s : Places} (fixed : s ||| step s = s) (n : Nat) :
    within step n s = s := by
  cases n with
  | zero => rfl
  | succ n => exact if_pos fixed

theorem within_succ (step : Places → Places) (n : Nat) (s : Places) :
    within step (n + 1) s = within step n (s ||| step s) := by
  rw [within]
  split
  · next fixed => rw [fixed, within_of_fixed fixed]
  · rfl

theorem along_exactly (along : Along r step) (n : Nat) : Along (Chain r n) (exactly step n) := by
  induction n with
  | zero => exact Along.stay
  | succ n ih =>
      intro s j
      rw [exactly_succ]
      exact along.andThen ih s j

theorem along_within (along : Along r step) (n : Nat) :
    Along (fun i j => ∃ k ≤ n, Chain r k i j) (within step n) := by
  induction n with
  | zero => exact Along.stay.congr fun i j => by simp [Chain]
  | succ n ih =>
      have next : Along (fun i j => ∃ k ≤ n + 1, Chain r k i j)
          fun s => within step n (s ||| step s) := by
        refine ((Along.stay.both along).andThen ih).congr fun i j => ?_
        constructor
        · rintro ⟨k, bound, chain⟩
          cases k with
          | zero => exact ⟨i, .inl rfl, 0, Nat.zero_le n, chain⟩
          | succ k =>
              obtain ⟨m, first, later⟩ := chain
              exact ⟨m, .inr first, k, Nat.le_of_succ_le_succ bound, later⟩
        · rintro ⟨m, rfl | first, k, bound, later⟩
          · exact ⟨k, Nat.le_succ_of_le bound, later⟩
          · exact ⟨k + 1, Nat.succ_le_succ bound, m, first, later⟩
      intro s j
      rw [within_succ]
      exact next s j

/-! ### How far a chain can lead -/

/-- A relation that leads onwards within a text, or nowhere. -/
def Onward (text : List Char) (r : Nat → Nat → Prop) : Prop :=
  ∀ i j, r i j → i = j ∨ i < j ∧ j ≤ text.length

variable {text : List Char}

theorem Onward.chain (onward : Onward text r) (n : Nat) : Onward text (Chain r n) := by
  induction n with
  | zero => exact fun i j same => .inl same
  | succ n ih =>
      rintro i j ⟨k, first, later⟩
      have now := onward i k first
      have rest := ih k j later
      omega

/-- A chain gets where it leads in no more steps than there are characters on the
way. -/
theorem Chain.shorten (onward : Onward text r) (chain : Chain r n i j) :
    ∃ k ≤ j - i, Chain r k i j := by
  induction n generalizing i with
  | zero => exact ⟨0, Nat.zero_le _, chain⟩
  | succ n ih =>
      obtain ⟨m, first, later⟩ := chain
      obtain ⟨k, bound, rest⟩ := ih later
      have ahead := onward.chain n m j later
      rcases onward i m first with rfl | ⟨further, -⟩
      · exact ⟨k, bound, rest⟩
      · exact ⟨k + 1, by omega, m, first, rest⟩

/-- Chains of more steps than a text has places lead nowhere else. -/
theorem exists_chain_iff (onward : Onward text r) :
    (∃ k ≤ text.length + 1, Chain r k i j) ↔ ∃ k, Chain r k i j := by
  constructor
  · rintro ⟨k, -, chain⟩
    exact ⟨k, chain⟩
  · rintro ⟨n, chain⟩
    have reached := onward.chain n i j chain
    obtain ⟨k, bound, shorter⟩ := chain.shorten onward
    exact ⟨k, by omega, shorter⟩

theorem chain_add_iff {m : Nat} : Chain r (n + m) i j ↔ ∃ k, Chain r n i k ∧ Chain r m k j := by
  induction n generalizing i with
  | zero => simp [Chain]
  | succ n ih =>
      rw [Nat.succ_add]
      simp only [Chain, ih]
      constructor
      · rintro ⟨k, first, l, second, third⟩
        exact ⟨l, ⟨k, first, second⟩, third⟩
      · rintro ⟨l, ⟨k, first, second⟩, third⟩
        exact ⟨k, first, l, second, third⟩

/-- A repetition is taken as often as it must be, and then as often as it may be
besides. -/
theorem along_repeated (along : Along r step) (onward : Onward text r) (count : Count) :
    Along (fun i j => ∃ n, count.Allows n ∧ Chain r n i j)
      fun s => within step (count.further.getD (text.length + 1))
        (exactly step count.least s) := by
  refine ((along_exactly along count.least).andThen (along_within along _)).congr fun i j => ?_
  have more (k : Nat) : (∃ n ≤ count.further.getD (text.length + 1), Chain r n k j) ↔
      ∃ n, (∀ m ∈ count.further, n ≤ m) ∧ Chain r n k j := by
    cases count.further with
    | none => simpa using exists_chain_iff onward
    | some m => simp
  simp only [more, Count.allows_iff]
  constructor
  · rintro ⟨_, ⟨n, rfl, few⟩, chain⟩
    obtain ⟨k, first, later⟩ := chain_add_iff.1 chain
    exact ⟨k, first, n, few, later⟩
  · rintro ⟨k, first, n, few, later⟩
    exact ⟨_, ⟨n, rfl, few⟩, chain_add_iff.2 ⟨k, first, later⟩⟩

theorem Onward.andThen (first : Onward text r) (second : Onward text t) :
    Onward text fun i j => ∃ k, r i k ∧ t k j := by
  rintro i j ⟨k, now, later⟩
  have := first i k now
  have := second k j later
  omega

mutual

/-- Pieces only lead onwards. -/
theorem onward_spans (text : List Char) (p : Pattern) : Onward text (p.Spans text) := by
  intro i j spans
  match p with
  | empty => exact .inl spans
  | literal signs =>
      obtain ⟨here, rfl⟩ := spans
      have fits := here.length_le
      rw [List.length_drop] at fits
      omega
  | oneOf _ set =>
      obtain ⟨⟨c, here, -⟩, rfl⟩ := spans
      obtain ⟨inside, -⟩ := List.getElem?_eq_some_iff.1 here
      omega
  | look l => exact .inl spans.2.2
  | repeated p count _ =>
      obtain ⟨n, -, chain⟩ := spans
      exact (onward_spans text p).chain n i j chain
  | group _ p => exact onward_spans text p i j spans
  | sequence ps => exact onward_spansThrough text ps i j spans
  | choice ps => exact onward_spansAny text ps i j spans

theorem onward_spansThrough (text : List Char) (ps : List Pattern) :
    Onward text (SpansThrough text ps) := by
  match ps with
  | [] => exact fun i j same => .inl same
  | p :: rest => exact (onward_spans text p).andThen (onward_spansThrough text rest)

theorem onward_spansAny (text : List Char) (ps : List Pattern) :
    Onward text (SpansAny text ps) := by
  intro i j spans
  match ps with
  | [] => exact spans.elim
  | p :: rest => exact spans.elim (onward_spans text p i j) (onward_spansAny text rest i j)

end

mutual

/-- `reach` takes places to the ends of pieces that begin there. -/
theorem along_reach (text : List Char) (p : Pattern) : Along (p.Spans text) (p.reach text) := by
  match p with
  | empty => exact .stay
  | literal signs => exact along_literal text signs
  | oneOf _ set => exact along_past text set.contains
  | look l => exact along_gaps text l.test
  | repeated p count _ => exact along_repeated (along_reach text p) (onward_spans text p) count
  | group _ p => exact along_reach text p
  | sequence ps => exact along_reachThrough text ps
  | choice ps => exact along_reachAny text ps

theorem along_reachThrough (text : List Char) (ps : List Pattern) :
    Along (SpansThrough text ps) (reachThrough text ps) := by
  match ps with
  | [] => exact .stay
  | p :: rest => exact (along_reach text p).andThen (along_reachThrough text rest)

theorem along_reachAny (text : List Char) (ps : List Pattern) :
    Along (SpansAny text ps) (reachAny text ps) := by
  match ps with
  | [] => exact .nowhere
  | p :: rest => exact (along_reach text p).both (along_reachAny text rest)

end

/-- A pattern is found in a text just if a piece of it is as described. -/
theorem occursIn_iff (p : Pattern) (text : List Char) :
    p.occursIn text = true ↔ ∃ i j, i ≤ j ∧ j ≤ text.length ∧ p.Spans text i j := by
  have found : p.occursIn text = true ↔ ∃ j, (p.reach text (everywhere text)).testBit j = true := by
    rw [occursIn, decide_eq_true_eq]
    constructor
    · exact Nat.exists_testBit_of_ne_zero
    · rintro ⟨j, reached⟩ none
      rw [none, Nat.zero_testBit] at reached
      cases reached
  have reached := along_reach text p (everywhere text)
  simp only [testBit_everywhere, decide_eq_true_eq] at reached
  simp only [found, reached]
  constructor
  · rintro ⟨j, i, inside, spans⟩
    have onward := onward_spans text p i j spans
    exact ⟨i, j, by omega, by omega, spans⟩
  · rintro ⟨i, j, ordered, inside, spans⟩
    exact ⟨j, i, Nat.le_trans ordered inside, spans⟩

/-- A fixed text is found in the texts that it is a piece of. -/
theorem occursIn_literal_iff (signs text : List Char) :
    (literal signs).occursIn text = true ↔ signs <:+: text := by
  rw [occursIn_iff]
  constructor
  · rintro ⟨i, -, -, -, here, -⟩
    exact here.isInfix.trans (List.drop_suffix i text).isInfix
  · rintro ⟨front, back, rfl⟩
    refine ⟨front.length, front.length + signs.length, Nat.le_add_right _ _, ?_, ?_, rfl⟩
    · simp
    · simp

end Chip8.Pattern
