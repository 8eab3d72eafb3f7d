import Chip8.Numeral
import Mathlib.Algebra.Group.Nat.Defs

/-!
# Numerals read back

The signs of a number spell it, in either base and in small or capital letters,
however many zeros stand in front (`ofSigns_hexSigns`, `ofSigns_hexUpperSigns`,
`ofSigns_decimalSigns`). A number that is small enough for it does not go beyond the
least width (`length_hexSigns_of_lt`).
-/

namespace Chip8.Numeral

variable {base : Nat} {positional : 1 < base} {sign : Char}

/-! ## Signs and digits -/

theorem digit?_smallSign : ∀ d, digit? (smallSign d) = some d := by decide

theorem digit?_capitalSign : ∀ d, digit? (capitalSign d) = some d := by decide

theorem digit?_decimalSign : ∀ d, (digit? (decimalSign d)).map (·.val) = some d.val := by decide

theorem ofSigns_concat (base : Nat) (signs : List Char) (sign : Char) :
    ofSigns base (signs ++ [sign]) =
      base * ofSigns base signs + ((digit? sign).map (·.val)).getD 0 := by
  rw [ofSigns, List.foldl_append]
  rfl

/-- Digits written in signs that stand for them spell the number. -/
theorem ofSigns_digits {write : Fin base → Char}
    (stands : ∀ d, (digit? (write d)).map (·.val) = some d.val) (n : Nat) :
    ofSigns base ((digits base positional n).map write) = n := by
  -- the last digit is the remainder, and those before it spell the quotient
  induction n using digits.induct base positional with
  | case1 n small =>
      rw [digits, dif_pos small]
      simp [ofSigns, stands]
  | case2 n large ih =>
      rw [digits, dif_neg large, List.map_append, List.map_singleton, ofSigns_concat, ih, stands]
      exact Nat.div_add_mod n base

/-- Zeros in front of a numeral do not count. -/
theorem ofSigns_padded (base width : Nat) (signs : List Char) :
    ofSigns base (padded width signs) = ofSigns base signs := by
  have zeros (count : Nat) : ofSigns base (List.replicate count '0') = 0 := by
    induction count with
    | zero => rfl
    | succ count ih =>
        rw [List.replicate_succ', ofSigns_concat, ih]
        rfl
  rw [padded, ofSigns, List.foldl_append]
  exact congrArg (fun start => signs.foldl _ start) (zeros _)

theorem ofSigns_hexSigns (width n : Nat) : ofSigns 16 (hexSigns width n) = n := by
  rw [hexSigns, ofSigns_padded]
  refine ofSigns_digits (fun d => ?_) n
  rw [digit?_smallSign]
  rfl

theorem ofSigns_hexUpperSigns (n : Nat) : ofSigns 16 (hexUpperSigns n) = n := by
  refine ofSigns_digits (fun d => ?_) n
  rw [digit?_capitalSign]
  rfl

theorem ofSigns_decimalSigns (n : Nat) : ofSigns 10 (decimalSigns n) = n :=
  ofSigns_digits digit?_decimalSign n

/-! ## The signs that occur -/

theorem mem_hexSigns {width n : Nat} (among : sign ∈ hexSigns width n) :
    ∃ d, sign = smallSign d := by
  rcases List.mem_append.1 among with zero | digit
  · exact ⟨0, (List.mem_replicate.1 zero).2⟩
  · obtain ⟨d, _, rfl⟩ := List.mem_map.1 digit
    exact ⟨d, rfl⟩

theorem mem_hexUpperSigns {n : Nat} (among : sign ∈ hexUpperSigns n) :
    ∃ d, sign = capitalSign d := by
  obtain ⟨d, _, rfl⟩ := List.mem_map.1 among
  exact ⟨d, rfl⟩

theorem mem_decimalSigns {n : Nat} (among : sign ∈ decimalSigns n) : ∃ d, sign = decimalSign d := by
  obtain ⟨d, _, rfl⟩ := List.mem_map.1 among
  exact ⟨d, rfl⟩

/-! ## How many there are -/

theorem length_digits_le {count n : Nat} (small : n < base ^ (count + 1)) :
    (digits base positional n).length ≤ count + 1 := by
  induction count generalizing n with
  | zero =>
      have single : n < base := by rwa [Nat.zero_add, Nat.pow_one] at small
      rw [digits, dif_pos single]
      exact Nat.le_refl 1
  | succ count ih =>
      by_cases single : n < base
      · rw [digits, dif_pos single]
        exact Nat.succ_le_succ (Nat.zero_le _)
      · have quotient : n / base < base ^ (count + 1) :=
          Nat.div_lt_of_lt_mul (by rwa [Nat.mul_comm, ← Nat.pow_succ])
        rw [digits, dif_neg single, List.length_append]
        exact Nat.succ_le_succ (ih quotient)

theorem length_padded (width : Nat) (signs : List Char) :
    (padded width signs).length = max width signs.length := by
  rw [padded, List.length_append, List.length_replicate]
  omega

theorem width_le_length_hexSigns (width n : Nat) : width ≤ (hexSigns width n).length := by
  rw [hexSigns, length_padded]
  exact Nat.le_max_left _ _

theorem length_hexSigns_of_lt {width n : Nat} (small : n < 16 ^ (width + 1)) :
    (hexSigns (width + 1) n).length = width + 1 := by
  have short : (digits 16 (by decide) n).length ≤ width + 1 := length_digits_le small
  rw [hexSigns, length_padded, List.length_map]
  exact Nat.max_eq_left short

end Chip8.Numeral
