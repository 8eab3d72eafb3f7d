import Chip8.Log.Filter
import Chip8.Proofs.PlainPatterns
import Mathlib.Data.List.Induction

/-!
# Which events the log shows

A written filter shows an event if the directive that tells most about its source
lets its level through, and a piece of its text is as the pattern says
(`Spec.admits_iff`). Of several directives that tell as much the last one counts
(`Spec.decisive?_eq_some_iff`). A pattern without operators is a piece to be found
in the text (`Spec.admits_read_iff`).

However the events are chosen, each line of the log has its source in a column
as wide as the longest source up to it (`getElem?_lines`).
-/

namespace Chip8.Log

/-! ## Directives -/

namespace Spec

variable {spec : Spec} {source : String} {d : Directive} {ds : List Directive}

theorem foldl_telling_concat (ds : List Directive) (x : Directive) :
    (ds ++ [x]).foldl telling none = telling (ds.foldl telling none) x := by
  rw [List.foldl_append, List.foldl_cons, List.foldl_nil]

theorem foldl_telling_eq_none_iff : ds.foldl telling none = none ↔ ds = [] := by
  rcases List.eq_nil_or_concat ds with rfl | ⟨others, x, rfl⟩
  · simp
  · rw [List.concat_eq_append, foldl_telling_concat]
    cases others.foldl telling none with
    | none => simp [telling]
    | some y => simp only [telling]; split <;> simp

/-- Nothing among some directives tells more than one of them, and nothing behind
it tells as much. -/
structure Tells (earlier : List Directive) (d : Directive) (later : List Directive) : Prop where
  most : ∀ e ∈ earlier, e.beginning.length ≤ d.beginning.length
  last : ∀ e ∈ later, e.beginning.length < d.beginning.length

/-- One more directive either tells as much as all before it, or the one that
told most still does. -/
theorem exists_tells_concat_iff {x : Directive} :
    (∃ earlier later, ds ++ [x] = earlier ++ d :: later ∧ Tells earlier d later) ↔
      (d = x ∧ ∀ e ∈ ds, e.beginning.length ≤ x.beginning.length) ∨
        (∃ earlier later, ds = earlier ++ d :: later ∧ Tells earlier d later) ∧
          x.beginning.length < d.beginning.length := by
  constructor
  · rintro ⟨earlier, later, same, tells⟩
    rcases List.eq_nil_or_concat later with rfl | ⟨others, last, rfl⟩
    · obtain ⟨rfl, rfl⟩ := List.append_singleton_inj.1 same
      exact .inl ⟨rfl, tells.most⟩
    · rw [List.concat_eq_append, ← List.cons_append, ← List.append_assoc] at same
      obtain ⟨rfl, rfl⟩ := List.append_singleton_inj.1 same
      refine .inr ⟨⟨earlier, others, rfl, tells.most, fun e among => ?_⟩, ?_⟩
      · exact tells.last e (by simp [among])
      · exact tells.last x (by simp)
  · rintro (⟨rfl, most⟩ | ⟨⟨earlier, later, rfl, tells⟩, less⟩)
    · exact ⟨ds, [], rfl, most, by simp⟩
    · refine ⟨earlier, later ++ [x], by simp, tells.most, ?_⟩
      simpa [or_imp, forall_and] using ⟨tells.last, less⟩

/-- The most telling of some directives is the last one with the longest
beginning. -/
theorem foldl_telling_eq_some_iff :
    ds.foldl telling none = some d ↔
      ∃ earlier later, ds = earlier ++ d :: later ∧ Tells earlier d later := by
  induction ds using List.reverseRecOn generalizing d with
  | nil => simp
  | append_singleton ds x ih =>
      rw [exists_tells_concat_iff, ← ih, foldl_telling_concat]
      cases told : ds.foldl telling none with
      | none =>
          rw [foldl_telling_eq_none_iff] at told
          simp [telling, told, eq_comm]
      | some y =>
          obtain ⟨earlier, later, rfl, tells⟩ := ih.1 told
          have longest : ∀ e ∈ earlier ++ y :: later,
              e.beginning.length ≤ y.beginning.length := by
            simp only [List.forall_mem_append, List.forall_mem_cons]
            exact ⟨tells.most, Nat.le_refl _, fun e among => Nat.le_of_lt (tells.last e among)⟩
          simp only [telling, Option.some_inj]
          split
          · next less =>
              rw [Option.some_inj]
              constructor
              · rintro rfl
                exact .inr ⟨rfl, less⟩
              · rintro (⟨rfl, most⟩ | ⟨same, -⟩)
                · exact absurd less (Nat.not_lt.2 (most y (by simp)))
                · exact same
          · next enough =>
              rw [Option.some_inj]
              constructor
              · rintro rfl
                exact .inl ⟨rfl, fun e among =>
                  Nat.le_trans (longest e among) (Nat.not_lt.1 enough)⟩
              · rintro (⟨rfl, -⟩ | ⟨rfl, less⟩)
                · rfl
                · exact absurd less enough

/-- Of the directives that a source begins like, the last one with the longest
beginning decides. -/
theorem decisive?_eq_some_iff :
    spec.decisive? source = some d ↔
      ∃ earlier later, spec.directives = earlier ++ d :: later ∧ d.covers source = true ∧
        (∀ e ∈ earlier, e.covers source = true → e.beginning.length ≤ d.beginning.length) ∧
        ∀ e ∈ later, e.covers source = true → e.beginning.length < d.beginning.length := by
  rw [decisive?, foldl_telling_eq_some_iff]
  constructor
  · rintro ⟨earlier, later, covering, tells⟩
    obtain ⟨front, rest, written, rfl, after⟩ := List.filter_eq_append_iff.1 covering
    obtain ⟨silent, back, rfl, others, covers, rfl⟩ := List.filter_eq_cons_iff.1 after
    refine ⟨front ++ silent, back, by simp [written], covers, ?_, ?_⟩
    · intro e among holds
      rcases List.mem_append.1 among with among | among
      · exact tells.most e (List.mem_filter.2 ⟨among, holds⟩)
      · exact absurd holds (others e among)
    · intro e among holds
      exact tells.last e (List.mem_filter.2 ⟨among, holds⟩)
  · rintro ⟨earlier, later, written, covers, most, last⟩
    refine ⟨earlier.filter (·.covers source), later.filter (·.covers source), ?_, ?_, ?_⟩
    · rw [written, List.filter_append, List.filter_cons, if_pos covers]
    · intro e among
      obtain ⟨among, holds⟩ := List.mem_filter.1 among
      exact most e among holds
    · intro e among
      obtain ⟨among, holds⟩ := List.mem_filter.1 among
      exact last e among holds

theorem decisive?_eq_none_iff :
    spec.decisive? source = none ↔ ∀ d ∈ spec.directives, ¬d.covers source = true := by
  rw [decisive?, foldl_telling_eq_none_iff, List.filter_eq_nil_iff]

/-! ## Events -/

variable {e f : Event}

/-- An event is let through if the directive that decides about its source has a
threshold no more severe than its level. -/
theorem lets_iff :
    spec.lets e = true ↔ ∃ d least, spec.decisive? e.source = some d ∧
      d.threshold = some least ∧ e.level.rank ≤ least.rank := by
  unfold lets
  cases spec.decisive? e.source with
  | none => simp
  | some d => cases threshold : d.threshold <;> simp [Threshold.admits, threshold]

/-- An event is shown if the directive that decides about its source lets its
level through, and there is a piece of its text as the pattern says. -/
theorem admits_iff :
    spec.admits e = true ↔
      (∃ d least, spec.decisive? e.source = some d ∧ d.threshold = some least ∧
        e.level.rank ≤ least.rank) ∧
      ∀ p, spec.pattern = some p →
        ∃ i j, i ≤ j ∧ j ≤ e.text.toList.length ∧ p.Spans e.text.toList i j := by
  rw [admits, Bool.and_eq_true, lets_iff, Option.all_eq_true]
  simp only [Pattern.occursIn_iff]

/-- What lets an event through lets more severe ones from the same source
through. -/
theorem lets_of_le (shown : spec.lets e = true) (source : f.source = e.source)
    (severe : f.level.rank ≤ e.level.rank) : spec.lets f = true := by
  obtain ⟨d, least, decides, threshold, bound⟩ := lets_iff.1 shown
  exact lets_iff.2 ⟨d, least, source ▸ decides, threshold, Nat.le_trans severe bound⟩

/-- Behind a slash a text without operators selects the events that have it as a
piece of theirs. -/
theorem admits_read_iff {s directives pattern : String}
    (written : s.splitOn "/" = [directives, pattern]) (plain : Pattern.Plain pattern.toList)
    (fits : (Pattern.ofText pattern.toList).fits = true) :
    (Spec.read s).admits e = true ↔
      (ofDirectives directives).lets e = true ∧ pattern.toList <:+: e.text.toList := by
  have spec : Spec.read s =
      { ofDirectives directives with pattern := some (.ofText pattern.toList) } := by
    rw [Spec.read, written]
    show withPattern _ _ = _
    rw [withPattern, Pattern.read_of_plain plain, if_pos fits]
  rw [spec, admits, Bool.and_eq_true, Option.all_some, Pattern.occursIn_ofText_iff]
  rfl

/-- There is always a directive in force. -/
theorem directives_read_ne_nil (s : String) : (Spec.read s).directives ≠ [] := by
  have plain (s : String) : (ofDirectives s).directives ≠ [] := by
    unfold ofDirectives
    dsimp only
    split
    · simp [usual]
    · assumption
  unfold Spec.read
  split
  · exact plain _
  · unfold withPattern
    split <;> exact plain _
  · simp [usual]

end Spec

/-! ## Lines -/

/-- The longest source of some events, if it is longer than a width. -/
def widest (width : Nat) (events : List Event) : Nat :=
  events.foldl (fun width e => max width e.source.length) width

/-- The column of a line is as wide as the longest source up to it. -/
theorem getElem?_lines (width : Nat) (events : List Event) (k : Nat) :
    (lines width events)[k]? =
      events[k]?.map (line (widest width (events.take (k + 1)))) := by
  induction events generalizing width k with
  | nil => rfl
  | cons e rest ih =>
      cases k with
      | zero => rfl
      | succ k => exact ih (max width e.source.length) k

end Chip8.Log
