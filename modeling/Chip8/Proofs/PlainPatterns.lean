import Chip8.Pattern.Refusal
import Chip8.Proofs.AutomatonSizes
import Chip8.Proofs.CharSets
import Chip8.Proofs.Matching

/-!
# Patterns that are texts

Where no sign of a pattern is an operator, the pattern describes the text that it
is, and so it is found in the texts that have it as a piece. The reader goes over
such signs one by one (`run_rounds_eq`), each of them means itself
(`meaning_letter`), and next to each other they make one text (`meaning_letters`).
It is refused only for its size (`read_of_plain`), of which each byte takes up one
state (`fits_ofText_iff`).
-/

namespace Chip8.Pattern

/-- The signs that mean something outside brackets. -/
def operators : List Char := ['\\', '.', '+', '*', '?', '(', ')', '|', '[', '{', '^', '$']

/-- Signs that all stand for themselves. -/
def Plain (signs : List Char) : Prop := ∀ sign ∈ signs, sign ∉ operators

/-- What describes a text as it is. -/
def ofText (signs : List Char) : Pattern := if signs = [] then empty else literal signs

variable {signs rest : List Char} {sign : Char}

/-! ## Reading -/

namespace Reader

open Cursor Reading

variable {c : Cursor}

/-- The parts that plain signs are read as, from a place on. -/
def letters (start : Place) : List Char → List Tree
  | [] => []
  | sign :: rest =>
    .atom (.literal sign false) ⟨start, start.after sign⟩ :: letters (start.after sign) rest

theorem place_next (here : c.rest = sign :: rest) : c.next.place = c.place.after sign := by
  simp [next, advance, here]

theorem run_part_of_plain (here : c.rest = sign :: rest) (plain : sign ∉ operators) :
    part.run c = .ok (.atom (.literal sign false) ⟨c.place, c.place.after sign⟩, c.next) := by
  have present : c.sign? = some sign := by rw [sign?, here]; rfl
  rw [part]
  simp only [StateT.run_bind, StateT.run_get, pure_bind, present]
  split
  case h_6 =>
    rename_i same
    obtain rfl : sign = _ := Option.some.inj same
    show Except.ok (Tree.atom _ c.signSpan, c.next) = _
    rw [signSpan, place_next here]
  all_goals exact absurd plain (by simp_all [operators])

theorem run_rounds_of_plain (quiet : c.verbose = false) (here : c.rest = sign :: rest)
    (plain : sign ∉ operators) (n : Nat) (inner : Level) (outer : List Level) :
    (rounds (n + 1) inner outer).run c =
      (rounds n (inner.push (.atom (.literal sign false) ⟨c.place, c.place.after sign⟩))
        outer).run c.next := by
  have present : c.sign? = some sign := by rw [sign?, here]; rfl
  have still : c.skip = c := by rw [skip, if_neg (by simp [quiet])]
  have read := run_part_of_plain here plain
  rw [rounds]
  simp only [StateT.run_bind, StateT.run_modify, StateT.run_get, pure_bind, still, present]
  split
  case h_9 =>
    rw [StateT.run_bind, read]
    rfl
  all_goals exact absurd plain (by simp_all [operators])

/-- Plain signs are gone over one by one, up to the end. -/
theorem run_rounds_eq (quiet : c.verbose = false) (here : c.rest = signs) (plain : Plain signs)
    {n : Nat} (enough : signs.length < n) (inner : Level) (outer : List Level) :
    ∃ stop, (rounds n inner outer).run c =
      (close { inner with parts := (letters c.place signs).reverse ++ inner.parts }).run stop := by
  induction signs generalizing c n inner with
  | nil =>
      obtain ⟨n, rfl⟩ := Nat.exists_eq_succ_of_ne_zero (Nat.ne_of_gt enough)
      have still : c.skip = c := by rw [skip, if_neg (by simp [quiet])]
      have ended : c.sign? = none := by rw [sign?, here]; rfl
      refine ⟨c, ?_⟩
      rw [rounds]
      simp only [StateT.run_bind, StateT.run_modify, StateT.run_get, pure_bind, still, ended]
      rfl
  | cons sign rest ih =>
      obtain ⟨n, rfl⟩ := Nat.exists_eq_succ_of_ne_zero (Nat.ne_of_gt (Nat.zero_lt_of_lt enough))
      obtain ⟨first, later⟩ := List.forall_mem_cons.1 plain
      have behind : c.next.rest = rest := by simp [next, advance, here]
      obtain ⟨stop, run⟩ := ih (c := c.next) quiet behind later (Nat.lt_of_succ_lt_succ enough)
        (inner.push (.atom (.literal sign false) ⟨c.place, c.place.after sign⟩))
      refine ⟨stop, ?_⟩
      rw [run_rounds_of_plain quiet here first, run, place_next here]
      simp [letters, Level.push]

theorem deepAmong?_letters (levels : Nat) (start : Place) (signs : List Char) :
    Tree.deepAmong? levels (letters start signs) = none := by
  induction signs generalizing start with
  | nil => rfl
  | cons sign rest ih => exact ih (start.after sign)

theorem deep?_letters (span : Span) (start : Place) (signs : List Char) :
    (Tree.ofSequence span (letters start signs)).deep? depthLimit = none :=
  match signs with
  | [] | [_] => rfl
  | sign :: other :: rest => deepAmong?_letters _ start (sign :: other :: rest)

theorem run_close {inner : Level} (whole : inner.parenthesis = none) (stop : Cursor) :
    (close inner).run stop = .ok (inner.tree stop.place, stop) := by
  rw [close, whole]
  rfl

theorem read_of_run {t : Tree} {stop : Cursor}
    (run : (rounds (signs.length + 1) (.bare none ⟨0, 0⟩) []).run (.ofPattern signs) =
      .ok (t, stop)) (shallow : t.deep? depthLimit = none) : read signs = .ok t := by
  rw [read, run]
  simp only [bind, Except.bind, shallow]
  rfl

/-- Plain signs are read as a sequence of letters. -/
theorem tree_of_plain (plain : Plain signs) :
    ∃ span, read signs = .ok (.ofSequence span (letters ⟨0, 0⟩ signs)) := by
  have here : (Cursor.ofPattern signs).rest = signs := rfl
  obtain ⟨stop, run⟩ :=
    run_rounds_eq rfl here plain (Nat.lt_succ_self _) (.bare none ⟨0, 0⟩) []
  rw [run_close rfl, Level.tree, Level.bare, Level.alternative, List.append_nil,
    List.reverse_reverse] at run
  exact ⟨_, read_of_run run (deep?_letters _ _ signs)⟩

end Reader

/-! ## Meaning -/

theorem meaning_letter (sign : Char) (span : Span) :
    (Tree.atom (.literal sign false) span).meaning .usual = .ok (literal [sign], .usual) := by
  have single : ofSet true (.ofSigns [sign]) = literal [sign] := by
    rw [ofSet, CharSet.single?_ofSigns]
  rw [← single]
  rfl

theorem meanings_letters (start : Place) (signs : List Char) :
    Tree.meanings .usual (Reader.letters start signs) =
      .ok (signs.map fun sign => literal [sign], .usual) := by
  induction signs generalizing start with
  | nil => rfl
  | cons sign rest ih =>
      rw [Reader.letters, Tree.meanings, meaning_letter]
      show (Tree.meanings .usual (Reader.letters (start.after sign) rest) >>= _) = _
      rw [ih]
      rfl

theorem joinTexts_letters (sign : Char) (rest : List Char) :
    joinTexts ((sign :: rest).map fun sign => literal [sign]) = [literal (sign :: rest)] := by
  induction rest generalizing sign with
  | nil => rfl
  | cons other rest ih =>
      rw [List.map_cons, joinTexts, ih]
      rfl

theorem flatMap_parts_letters (signs : List Char) :
    (signs.map fun sign => literal [sign]).flatMap parts =
      signs.map fun sign => literal [sign] := by
  induction signs with
  | nil => rfl
  | cons sign rest ih => exact congrArg (literal [sign] :: ·) ih

/-- Letters next to each other make a text. -/
theorem meaning_letters (span : Span) (start : Place) (signs : List Char) :
    (Tree.ofSequence span (Reader.letters start signs)).meaning .usual =
      .ok (ofText signs, .usual) := by
  match signs with
  | [] => rfl
  | [sign] => exact meaning_letter sign _
  | sign :: other :: rest =>
      show (Tree.meanings .usual (Reader.letters start (sign :: other :: rest)) >>= _) = _
      rw [meanings_letters]
      show Except.ok (inSequence _, _) = _
      rw [inSequence, flatMap_parts_letters, joinTexts_letters]
      rfl

/-! ## Size -/

section Size

open Automaton Text.Utf8

theorem texts?_literal (signs : List Char) :
    (literal signs).texts? =
      if (spell signs).length ≤ Texts.fewBytes then some [spell signs] else none := by
  have few : 1 ≤ Texts.fewTexts := by decide
  have alone : ([spell signs] : List Spelling).eraseReps = [spell signs] := rfl
  by_cases short : (spell signs).length ≤ Texts.fewBytes <;>
    simp [texts?, Texts.all, Texts.both, alone, few, short]

/-- A text that is looked for as it is is short. -/
theorem length_of_isFewTexts (few : (literal signs).isFewTexts = true) :
    (spell signs).length ≤ Texts.fewBytes := by
  have alone : ¬manyWords ≤ 1 := by decide
  refine Decidable.byContradiction fun long => ?_
  simp [isFewTexts, texts?_literal, long, options, alone] at few

/-- A text fits if there is room for a state for each of its bytes, six more, and
four arrows. -/
theorem fits_ofText_iff (signs : List Char) :
    (ofText signs).fits = true ↔ Table.size ⟨(spell signs).length + 6, 16⟩ ≤ sizeLimit := by
  unfold ofText
  split
  · next none =>
      subst none
      decide
  · have forward := (takes_forward signs).isSome_run_iff
    have backward := (takes_backward signs).isSome_run_iff
    simp only [fits, List.all_cons, List.all_nil, Bool.or_eq_true, Bool.and_eq_true, forward,
      backward]
    constructor
    · rintro (few | ⟨room, -⟩)
      · have short := length_of_isFewTexts few
        simp only [Table.size, Table.stateSize, Texts.fewBytes, sizeLimit] at short ⊢
        omega
      · exact room
    · intro room
      refine .inr ⟨room, ?_, trivial⟩
      simp only [Table.size, Table.stateSize, sizeLimit] at room ⊢
      omega

end Size

/-- Plain signs describe the text that they are, unless it is too large. -/
theorem read_of_plain (plain : Plain signs) :
    read signs =
      if (ofText signs).fits then .ok (ofText signs)
      else .error (.tooLarge Automaton.sizeLimit) := by
  obtain ⟨span, tree⟩ := Reader.tree_of_plain plain
  rw [read, tree]
  show ((Tree.meaning .usual _).mapError _ >>= _) = _
  rw [meaning_letters]
  rfl

theorem occursIn_ofText_iff (signs text : List Char) :
    (ofText signs).occursIn text = true ↔ signs <:+: text := by
  have spans (i j : Nat) : (ofText signs).Spans text i j ↔ (literal signs).Spans text i j := by
    unfold ofText
    split
    · next none => simp [none, Spans, eq_comm]
    · rfl
  rw [← occursIn_literal_iff, occursIn_iff, occursIn_iff]
  simp only [spans]

end Chip8.Pattern
