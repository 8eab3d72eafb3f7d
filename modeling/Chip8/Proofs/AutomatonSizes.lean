import Chip8.Pattern.Automaton

/-!
# How large automata are

Building only makes tables larger, and none larger than the limit (`Grows`), so
what is built for any pattern is within it (`size_of_whole`). Where a step adds
the same to any table it `Takes` just that, and then it has a result if and only if
there is room for it. So a text takes up a state for each byte and a few more
(`takes_forward`, `takes_backward`).
-/

namespace Chip8.Pattern.Automaton

open Text.Utf8 (spell)

variable {α β : Type} {t u : Table}

/-- Nothing of a table is missing from another one, which is within the limit if
the first is. -/
structure Table.Grown (t u : Table) : Prop where
  states : t.states ≤ u.states
  listed : t.listed ≤ u.listed
  within : t.size ≤ sizeLimit → u.size ≤ sizeLimit

theorem Table.Grown.refl (t : Table) : t.Grown t := ⟨Nat.le_refl _, Nat.le_refl _, id⟩

theorem Table.Grown.trans {v : Table} (first : t.Grown u) (second : u.Grown v) : t.Grown v :=
  ⟨Nat.le_trans first.states second.states, Nat.le_trans first.listed second.listed,
    second.within ∘ first.within⟩

/-! ## Steps of building -/

theorem run_grow (states listed : Nat) (t : Table) :
    (Building.grow states listed).run t =
      if Table.size ⟨t.states + states, t.listed + listed⟩ ≤ sizeLimit then
        some ((), ⟨t.states + states, t.listed + listed⟩)
      else none := by
  rw [Building.grow, StateT.run_bind, StateT.run_get, pure_bind]
  dsimp only
  split <;> rfl

/-- A step of building that only makes tables larger, and none larger than the
limit. -/
def Grows (x : Building α) : Prop := ∀ t a u, x.run t = some (a, u) → t.Grown u

namespace Grows

theorem ret (a : α) : Grows (pure a) := by
  rintro t b u run
  cases run
  exact .refl t

theorem bind {x : Building α} {f : α → Building β} (first : Grows x) (later : ∀ a, Grows (f a)) :
    Grows (x >>= f) := by
  intro t b v run
  rw [StateT.run_bind] at run
  obtain ⟨⟨a, u⟩, now, after⟩ := Option.bind_eq_some_iff.1 run
  exact (first t a u now).trans (later a u b v after)

theorem grow (states listed : Nat) : Grows (Building.grow states listed) := by
  intro t a u run
  rw [run_grow] at run
  split at run
  · next within =>
      cases run
      exact ⟨Nat.le_add_right _ _, Nat.le_add_right _ _, fun _ => within⟩
  · cases run

theorem add (listed : Nat) : Grows (Building.add listed) := by
  intro t a u run
  rw [Building.add, StateT.run_bind, StateT.run_get, Option.pure_def, Option.bind_eq_bind,
    Option.bind_some] at run
  exact (bind (grow 1 listed) fun _ => ret t.states) t a u run

theorem arrow : Grows Building.arrow := .grow 0 _

end Grows

theorem grows_plain : Grows plain := .bind (.add 0) fun _ => .ret _

theorem grows_fork : Grows fork := .bind (.add 0) fun _ => .ret _

theorem grows_leave (e : Exit) : Grows e.leave := by
  cases e with
  | plain => exact .ret ()
  | fork => exact .arrow

section Copies

variable {build : Building Exit} (one : Grows build)

include one

theorem grows_copies (n : Nat) (e : Exit) : Grows (copies build n e) := by
  induction n generalizing e with
  | zero => exact .ret e
  | succ n ih => exact .bind (grows_leave e) fun _ => .bind one ih

theorem grows_exactly (n : Nat) : Grows (exactly build n) := by
  cases n with
  | zero => exact grows_plain
  | succ n => exact .bind one (grows_copies one n)

theorem grows_anyNumber (readsOn : Bool) : Grows (anyNumber build readsOn) := by
  unfold anyNumber
  split
  · exact .bind grows_fork fun _ => .bind one fun e => .bind .arrow fun _ =>
      .bind (grows_leave e) fun _ => .ret _
  · exact .bind one fun e => .bind grows_fork fun _ => .bind (grows_leave e) fun _ =>
      .bind .arrow fun _ => .bind grows_fork fun _ => .bind grows_plain fun _ =>
      .bind (.grow _ _) fun _ => .ret _

theorem grows_atLeast (n : Nat) : Grows (atLeast build n) := by
  cases n with
  | zero =>
      exact .bind one fun e => .bind grows_fork fun _ => .bind (grows_leave e) fun _ =>
        .bind .arrow fun _ => .ret _
  | succ n =>
      exact .bind (grows_exactly one (n + 1)) fun front => .bind one fun e =>
        .bind grows_fork fun _ => .bind (grows_leave front) fun _ =>
        .bind (grows_leave e) fun _ => .bind .arrow fun _ => .ret _

theorem grows_further (n : Nat) (e : Exit) : Grows (further build n e) := by
  induction n generalizing e with
  | zero => exact .ret e
  | succ n ih =>
      exact .bind grows_fork fun _ => .bind one fun next => .bind (grows_leave e) fun _ =>
        .bind (.grow _ _) fun _ => ih next

theorem grows_between (least most : Nat) : Grows (between build least most) :=
  .bind (grows_exactly one least) fun e => .bind grows_plain fun _ =>
    .bind (grows_further one _ e) fun last => .bind (grows_leave last) fun _ => .ret _

theorem grows_perhaps : Grows (perhaps build) :=
  .bind grows_fork fun _ => .bind one fun e => .bind grows_plain fun _ =>
    .bind (.grow _ _) fun _ => .bind (grows_leave e) fun _ => .ret _

theorem grows_repeated (readsOn : Bool) (count : Count) :
    Grows (repeated build readsOn count) := by
  unfold repeated
  split
  · exact grows_perhaps one
  · exact grows_anyNumber one readsOn
  · exact grows_atLeast one _
  · split
    · exact grows_exactly one _
    · exact grows_between one _ _

theorem grows_option : Grows (option build) :=
  .bind one fun e => .bind .arrow fun _ => grows_leave e

end Copies

/-! ## Sets of characters -/

/-- The same for a step with a memory. -/
def Shares (x : Sharing α) : Prop := ∀ memory, Grows (x.run memory)

namespace Shares

theorem ret (a : α) : Shares (pure a) := fun _ => Grows.ret _

theorem bind {x : Sharing α} {f : α → Sharing β} (first : Shares x) (later : ∀ a, Shares (f a)) :
    Shares (x >>= f) := by
  intro memory
  rw [StateT.run_bind]
  exact .bind (first memory) fun p => later p.1 p.2

theorem lift {x : Building α} (grows : Grows x) : Shares (StateT.lift x) := by
  intro memory
  exact .bind grows fun _ => .ret _

theorem mapM {f : α → Sharing β} (each : ∀ a, Shares (f a)) (as : List α) : Shares (as.mapM f) := by
  induction as with
  | nil => exact .ret []
  | cons a rest ih =>
      rw [List.mapM_cons]
      exact .bind (each a) fun _ => .bind ih fun _ => .ret _

theorem foldlM {f : β → α → Sharing β} (each : ∀ b a, Shares (f b a)) (as : List α) (b : β) :
    Shares (as.foldlM f b) := by
  induction as generalizing b with
  | nil => exact .ret b
  | cons a rest ih =>
      rw [List.foldlM_cons]
      exact .bind (each b a) ih

theorem forM {f : α → Sharing Unit} (each : ∀ a, Shares (f a)) (as : List α) :
    Shares (as.forM f) := by
  induction as with
  | nil => exact .ret ()
  | cons a rest ih => exact .bind (each a) fun _ => ih

theorem state (slots : Nat) (key : List Nat) (listed : Nat) :
    Shares (Sharing.state slots key listed) := by
  intro memory
  unfold Sharing.state
  simp only [StateT.run_bind, StateT.run_get, pure_bind]
  split
  · exact .ret _
  · have keep (n : Nat) : Shares (modify (Memory.keep slots key n)) := fun _ => .ret _
    exact bind (lift (.add listed)) (fun n => bind (keep n) fun _ => ret n) memory

theorem branch (target depth : Nat) (sequences : List (List Range)) :
    Shares (Sharing.branch target depth sequences) := by
  induction depth generalizing sequences with
  | zero => exact .ret target
  | succ depth ih =>
      refine .bind (.mapM (fun family => ?_) _) fun arrows => .state _ _ _
      split
      · exact .ret _
      · exact .bind (ih _) fun _ => .ret _
      · exact .ret _

theorem chain (target : Nat) (sequence : List Range) : Shares (Sharing.chain target sequence) :=
  .foldlM (fun _ _ => .state _ _ _) _ _

end Shares

theorem grows_ofSet (d : Direction) (s : CharSet) : Grows (ofSet d s) := by
  unfold ofSet
  dsimp only
  split
  · exact .bind (.bind (.add 0) fun _ => .bind (.add _) fun _ => .ret ()) fun _ => .ret _
  · cases d with
    | forward =>
        exact .bind (.bind (.add 0) fun target =>
          .bind (Shares.branch target 4 _ _) fun _ => .ret ()) fun _ => .ret _
    | backward =>
        refine .bind (.bind (.add 0) fun _ => .bind (.add 0) fun target =>
          .bind (Shares.forM (fun sequence => ?_) _ _) fun _ => .ret ()) fun _ => .ret _
        exact .bind (Shares.chain target sequence) fun _ => .lift .arrow

/-! ## Patterns -/

theorem grows_inRow {builds : List (Building Exit)} (each : ∀ b ∈ builds, Grows b) (e : Exit) :
    Grows (inRow builds e) := by
  induction builds generalizing e with
  | nil => exact .ret e
  | cons build rest ih =>
      obtain ⟨first, later⟩ := List.forall_mem_cons.1 each
      exact .bind first fun next => .bind (grows_leave e) fun _ => ih later next

theorem grows_row {builds : List (Building Exit)} (each : ∀ b ∈ builds, Grows b) :
    Grows (row builds) := by
  cases builds with
  | nil => exact grows_plain
  | cons build rest =>
      obtain ⟨first, later⟩ := List.forall_mem_cons.1 each
      exact .bind first (grows_inRow later)

theorem grows_options {builds : List (Building Exit)} (each : ∀ b ∈ builds, Grows b) :
    Grows (builds.forM option) := by
  induction builds with
  | nil => exact .ret ()
  | cons build rest ih =>
      obtain ⟨first, later⟩ := List.forall_mem_cons.1 each
      exact .bind (grows_option first) fun _ => ih later

theorem grows_amongst {builds : List (Building Exit)} (each : ∀ b ∈ builds, Grows b) :
    Grows (amongst builds) := by
  match builds with
  | [] => exact grows_plain
  | [build] => exact each build List.mem_cons_self
  | first :: second :: rest =>
      simp only [List.forall_mem_cons] at each
      obtain ⟨one, two, others⟩ := each
      exact .bind one fun a => .bind two fun b => .bind grows_fork fun _ =>
        .bind grows_plain fun _ => .bind (.grow _ _) fun _ => .bind (grows_leave a) fun _ =>
        .bind (grows_leave b) fun _ => .bind (grows_options others) fun _ => .ret _

mutual

theorem grows_build (d : Direction) (p : Pattern) : Grows (build d p) := by
  match p with
  | .empty | .look _ => exact grows_plain
  | .literal signs => exact .bind (.grow _ _) fun _ => .ret _
  | .oneOf _ s => exact grows_ofSet d s
  | .repeated p count _ => exact grows_repeated (grows_build d p) _ count
  | .group _ p =>
      cases d with
      | forward =>
          exact .bind grows_plain fun _ => .bind (grows_build _ p) fun e =>
            .bind grows_plain fun _ => .bind (grows_leave e) fun _ => .ret _
      | backward => exact grows_build _ p
  | .sequence ps =>
      refine grows_row fun b among => grows_buildAll d ps b ?_
      cases d with
      | forward => exact among
      | backward => exact List.mem_reverse.1 among
  | .choice ps =>
      rw [build]
      split
      · exact .bind (.grow _ _) fun _ => .ret _
      · exact grows_amongst (grows_buildAll d ps)

theorem grows_buildAll (d : Direction) (ps : List Pattern) : ∀ b ∈ buildAll d ps, Grows b := by
  match ps with
  | [] => exact nofun
  | p :: rest => exact List.forall_mem_cons.2 ⟨grows_build d p, grows_buildAll d rest⟩

end

theorem grows_start (isAnchored : Bool) : Grows (start isAnchored) := by
  unfold start
  split
  · exact grows_plain
  · exact .bind grows_fork fun _ => .bind (.add _) fun _ => .bind (.add _) fun _ =>
      .bind .arrow fun _ => .ret _

theorem grows_whole (d : Direction) (p : Pattern) : Grows (whole d p) := by
  cases d with
  | forward =>
      exact .bind (grows_start _) fun e => .bind grows_plain fun _ =>
        .bind (grows_build _ p) fun inner => .bind grows_plain fun _ =>
        .bind (grows_leave inner) fun _ => .bind grows_plain fun _ => grows_leave e
  | backward =>
      exact .bind (grows_start _) fun e => .bind (grows_build _ p) fun inner =>
        .bind grows_plain fun _ => .bind (grows_leave inner) fun _ => grows_leave e

/-- What is built is within the limit. -/
theorem size_of_whole {d : Direction} {p : Pattern} (run : (whole d p).run .bare = some ((), t)) :
    t.size ≤ sizeLimit :=
  (grows_whole d p .bare () t run).within (by decide)

/-! ## Texts -/

/-- A step of building that comes to some result and adds the same to any table, as
long as there is room for it. -/
def Takes (x : Building α) (a : α) (cost : Table) : Prop :=
  ∀ t, t.size ≤ sizeLimit →
    x.run t = if (t.plus cost).size ≤ sizeLimit then some (a, t.plus cost) else none

theorem size_plus (t u : Table) : (t.plus u).size = t.size + u.size := by
  simp only [Table.plus, Table.size, Nat.mul_add]
  omega

theorem plus_assoc (t u v : Table) : (t.plus u).plus v = t.plus (u.plus v) := by
  simp only [Table.plus, Nat.add_assoc]

namespace Takes

variable {a : α} {b : β} {cost more : Table}

theorem ret (a : α) : Takes (pure a) a .bare := by
  intro t within
  exact (if_pos within).symm

theorem bind {x : Building α} {f : α → Building β} (first : Takes x a cost)
    (later : Takes (f a) b more) : Takes (x >>= f) b (cost.plus more) := by
  intro t within
  rw [StateT.run_bind, first t within, ← plus_assoc]
  have larger := size_plus (t.plus cost) more
  split
  · next room => exact later (t.plus cost) room
  · next none => rw [if_neg (by omega)]; rfl

theorem grow (states listed : Nat) : Takes (Building.grow states listed) () ⟨states, listed⟩ :=
  fun t _ => run_grow states listed t

theorem add {f : Nat → Building β} (listed : Nat) (later : ∀ n, Takes (f n) b more) :
    Takes (Building.add listed >>= f) b (Table.plus ⟨1, listed⟩ more) := by
  intro t within
  have same : (Building.add listed >>= f).run t =
      (Building.grow 1 listed >>= fun _ => f t.states).run t := by
    simp only [Building.add, bind_assoc, pure_bind, StateT.run_bind, StateT.run_get]
  rw [same]
  exact bind (a := ()) (grow 1 listed) (later t.states) t within

theorem of_eq {x : Building α} {other : Table} (takes : Takes x a cost) (same : cost = other) :
    Takes x a other :=
  same ▸ takes

theorem isSome_run_iff {x : Building α} (takes : Takes x a cost) :
    (x.run .bare).isSome = true ↔ cost.size ≤ sizeLimit := by
  have begun : Table.bare.plus cost = cost := by
    simp only [Table.plus, Table.bare, Nat.zero_add]
  rw [takes .bare (by decide), begun]
  split <;> simp_all

end Takes

theorem takes_plain : Takes plain .plain ⟨1, 0⟩ := .add 0 fun _ => .ret _

theorem takes_fork : Takes fork .fork ⟨1, 0⟩ := .add 0 fun _ => .ret _

theorem takes_start : Takes (start false) .fork ⟨3, 12⟩ := by
  refine .of_eq (.bind takes_fork (.add 0 fun _ => .add 8 fun _ => .bind (.grow 0 4) (.ret _))) ?_
  rfl

theorem takes_literal (d : Direction) (signs : List Char) :
    Takes (build d (.literal signs)) .plain ⟨(spell signs).length, 0⟩ := by
  have order : (spelling d signs).length = (spell signs).length := by
    cases d with
    | forward => rfl
    | backward => exact List.length_reverse
  rw [← order]
  exact .of_eq (.bind (.grow _ 0) (.ret _)) rfl

/-- Read forward, a text takes up six states besides those for its bytes. -/
theorem takes_forward (signs : List Char) :
    Takes (whole .forward (.literal signs)) () ⟨(spell signs).length + 6, 16⟩ := by
  refine .of_eq (.bind takes_start <| .bind takes_plain <| .bind (takes_literal _ signs) <|
    .bind takes_plain <| .bind (.ret ()) <| .bind takes_plain <| .grow 0 4) ?_
  simp only [Table.plus, Table.bare]
  congr 1
  omega

theorem takes_backward (signs : List Char) :
    Takes (whole .backward (.literal signs)) () ⟨(spell signs).length + 4, 16⟩ := by
  refine .of_eq (.bind takes_start <| .bind (takes_literal _ signs) <| .bind takes_plain <|
    .bind (.ret ()) <| .grow 0 4) ?_
  simp only [Table.plus, Table.bare]
  congr 1
  omega

end Chip8.Pattern.Automaton
