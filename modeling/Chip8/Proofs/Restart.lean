import Chip8.Proofs.Attempts
import Chip8.Proofs.Hidden
import Chip8.Proofs.Latest
import Chip8.Proofs.Note

/-!
# Starting over

A machine that starts over is a new one with the old memory and the old random
numbers, and one that starts over cold is a new one with the old random
numbers. Only the note on the display tells them apart: a machine that starts
over bears it, and a new one does not.

Nothing reads the note, so from there on the same is done to both with the same
results. The note itself is set and taken off by known moments
(`Moment.note?`), and is at the end of a history what the last of them has made
of it (`dirty_atEnd`). The first such moment happens to both machines and
settles the only difference between them for good (`goOnAlike_of_moments`).
-/

namespace Chip8

/-! ## What sets the note and takes it off -/

/-- Whether carrying out an instruction sets the note. -/
def Instruction.draws {ρ : Type} : Instruction ρ → Bool
  | clearScreen | draw _ _ _ => true
  | _ => false

/-- The note that a moment leaves on the display, if it is not the one from
before. -/
def Moment.note? (x : Moment) : Option Bool :=
  match x.operation with
  | .markShown => some false
  | .draw _ _ _ | .wipe | .reset | .coldReset => some true
  | op => if (x.before.attempts op).any (·.instruction.draws) then some true else none

namespace Machine

variable {r : Machine → Machine → Prop} {m n : Machine} {op : Operation}
  {e : Effect Machine Answer} {ops : List Operation} {h k : List Moment}
  {attempted : List Attempt}

theorem dirty_execute (m : Machine) (i : Instruction Nibble) :
    (m.execute i).state.display.dirty = (m.display.dirty || i.draws) := by
  rw [display_execute]
  cases i with
  | clearScreen | draw => exact (Bool.or_true _).symm
  | _ => exact (Bool.or_false _).symm

/-- Time passes without a note, so only the attempted instructions set it. -/
theorem Leads.dirty (leads : Leads m attempted n) :
    n.display.dirty = (m.display.dirty || attempted.any (·.instruction.draws)) := by
  induction leads with
  | nil elapsed =>
      rw [elapsed]
      exact (Bool.or_false _).symm
  | @cons m n a rest elapsed later ih =>
      have same : a.before.display = m.display := by rw [elapsed]
      have now : a.after.display.dirty = (m.display.dirty || a.instruction.draws) := by
        rw [← same]
        exact dirty_execute a.before a.instruction
      rw [ih, now, List.any_cons, Bool.or_assoc]

/-- An operation makes of the note what its moment says. -/
theorem dirty_perform? (does : m.perform? op = some e) :
    e.state.display.dirty = (Moment.note? ⟨m, op, e⟩).getD m.display.dirty := by
  have instructed (instructs : op.instructs = true) :
      e.state.display.dirty =
        (if (m.attempts op).any (·.instruction.draws) then some true else none).getD
          m.display.dirty := by
    rw [(leads_perform? instructs does).dirty]
    cases (m.attempts op).any (·.instruction.draws) with
    | true => exact Bool.or_true _
    | false => exact Bool.or_false _
  cases op with
  | step | execute | executeWord | executeAll => exact instructed rfl
  | load program =>
      obtain ⟨_, _, _, effect⟩ := m.perform?_load program
      rw [effect] at does
      cases does
      rfl
  | setKey key isDown =>
      rw [perform?_setKey] at does
      cases does
      rfl
  | releaseKeys | reset | coldReset | draw | wipe | markShown =>
      cases does
      rfl

/-- The note at the end of a history is what the last moment to see to it has
made of it. -/
theorem dirty_atEnd (run : m.history? ops = some h) :
    (m.atEnd h).display.dirty = (h.reverse.findSome? Moment.note?).getD m.display.dirty := by
  induction ops generalizing m h with
  | nil =>
      cases run
      rfl
  | cons op ops ih =>
      obtain ⟨e, rest, does, later, rfl⟩ := history?_cons_iff.1 run
      rw [getD_findSome?_reverse_cons, ← dirty_perform? does]
      exact ih later

/-! ## The same notes on machines that differ in nothing else -/

theorem hidden_sameButNote : Hidden SameButNote where
  toUnseen := unseen_sameButNote
  screen same := by obtain ⟨dirty, rfl⟩ := same; rfl
  withMemory memory same := by obtain ⟨dirty, rfl⟩ := same; exact ⟨dirty, rfl⟩
  withKeypad keypad same := same.withKeys keypad
  withDisplay display same := by obtain ⟨dirty, rfl⟩ := same; exact ⟨display.dirty, rfl⟩
  reset same := by obtain ⟨dirty, rfl⟩ := same; exact .refl _

theorem Unseen.current? (unseen : Unseen r) (related : r m n) : n.current? = m.current? := by
  rw [Machine.current?, Machine.current?, nextWord, nextWord, unseen.memory related,
    unseen.pc related]

theorem Unseen.attemptsAll (unseen : Unseen r) (related : r m n)
    (all : List (Instruction UInt8)) :
    (n.attemptsAll all).map Attempt.instruction = (m.attemptsAll all).map Attempt.instruction := by
  induction all generalizing m n with
  | nil => rfl
  | cons written rest ih =>
      simp only [Machine.attemptsAll, unseen.resolve? related]
      cases m.resolve? written with
      | none => rfl
      | some i =>
          have same := unseen.execute i related
          simp only [← same.outcome]
          cases (m.execute i).outcome with
          | error fault => rfl
          | ok progress => exact congrArg (i :: ·) (ih same.state)

/-- Related machines attempt the same instructions. -/
theorem Unseen.attempts (unseen : Unseen r) (related : r m n) (op : Operation) :
    (n.attempts op).map Attempt.instruction = (m.attempts op).map Attempt.instruction := by
  cases op with
  | step =>
      simp only [Machine.attempts, unseen.current? related]
      cases m.current? <;> rfl
  | execute written =>
      simp only [Machine.attempts, unseen.resolve? related]
      cases m.resolve? written <;> rfl
  | executeWord word =>
      simp only [Machine.attempts]
      cases Instruction.decode? word <;> rfl
  | executeAll all => exact unseen.attemptsAll related all
  | _ => rfl

theorem Unseen.note? (unseen : Unseen r) {x y : Moment} (same : x.Rel r y) :
    y.note? = x.note? := by
  have draws (z : Moment) (op : Operation) :
      (z.before.attempts op).any (·.instruction.draws) =
        ((z.before.attempts op).map Attempt.instruction).any Instruction.draws := by
    rw [List.any_map]
    rfl
  simp only [Moment.note?, draws, unseen.attempts same.before, same.operation]

theorem Unseen.notes (unseen : Unseen r) (moments : List.Forall₂ (Moment.Rel r) h k) :
    k.reverse.findSome? Moment.note? = h.reverse.findSome? Moment.note? := by
  induction moments with
  | nil => rfl
  | cons same rest ih =>
      simp only [List.reverse_cons, List.findSome?_append, List.findSome?_singleton, ih,
        unseen.note? same]

theorem SameButNote.eq_of_dirty (same : m.SameButNote n)
    (dirty : n.display.dirty = m.display.dirty) : n = m := by
  obtain ⟨note, rfl⟩ := same
  cases dirty
  rfl

/-! ## Going on alike -/

/-- Histories of two machines, the second without the note, that go on alike:
at each moment the same is done with the same results, and there is no
difference but the note. At the end the difference is still that of the
beginning if no moment has seen to the note, and there is none if one has. -/
structure GoOnAlike (m n : Machine) (h k : List Moment) : Prop where
  moments : List.Forall₂ (Moment.Rel SameButNote) h k
  noted (unseen : ∀ x ∈ h, x.note? = none) : (m.atEnd h).display.dirty = true ∧
    n.atEnd k = { m.atEnd h with display := (m.atEnd h).display.shown }
  settled (seen : ∃ x ∈ h, x.note? ≠ none) : n.atEnd k = m.atEnd h

/-- The difference in the note is there until the first moment to see to it. -/
theorem goOnAlike_of_moments (same : m.SameButNote n) (dirty : m.display.dirty = true)
    (clean : n.display.dirty = false) (first : m.history? ops = some h)
    (second : n.history? ops = some k) (moments : List.Forall₂ (Moment.Rel SameButNote) h k) :
    GoOnAlike m n h k := by
  have ends : (m.atEnd h).SameButNote (n.atEnd k) := atEnd_rel same moments
  have noteFirst := dirty_atEnd first
  have noteSecond := dirty_atEnd second
  rw [unseen_sameButNote.notes moments] at noteSecond
  refine ⟨moments, ?noted, ?settled⟩
  case noted =>
    intro unseen
    have nothing : h.reverse.findSome? Moment.note? = none := by
      rw [List.findSome?_eq_none_iff]
      intro x among
      exact unseen x (List.mem_reverse.1 among)
    rw [nothing] at noteFirst noteSecond
    refine ⟨noteFirst.trans dirty, ?_⟩
    obtain ⟨note, state⟩ := ends
    rw [state] at noteSecond ⊢
    have off : note = false := noteSecond.trans clean
    rw [off]
    rfl
  case settled =>
    rintro ⟨x, among, seen⟩
    have something : (h.reverse.findSome? Moment.note?).isSome := by
      rw [List.findSome?_isSome_iff]
      exact ⟨x, List.mem_reverse.2 among, Option.isSome_iff_ne_none.2 seen⟩
    obtain ⟨noted, last⟩ := Option.isSome_iff_exists.1 something
    rw [last] at noteFirst noteSecond
    exact ends.eq_of_dirty (noteSecond.trans noteFirst.symm)

/-- A machine with the note and the same one without go on alike, whatever is
done to them. -/
theorem history?_goOnAlike (same : m.SameButNote n) (dirty : m.display.dirty = true)
    (clean : n.display.dirty = false) (ops : List Operation) :
    Option.Rel (GoOnAlike m n) (m.history? ops) (n.history? ops) := by
  have alike := hidden_sameButNote.history? same ops
  generalize first : m.history? ops = x at alike
  generalize second : n.history? ops = y at alike
  cases alike with
  | none => exact .none
  | some moments => exact .some (goOnAlike_of_moments same dirty clean first second moments)

/-- **A reset starts over, a cold reset begins anew.** From any state, whatever
is done next, a machine after a reset goes on like a new one with its memory
and its random numbers, and after a cold reset like a new one with its random
numbers; at first it bears the note of having been drawn on and the new one
does not. To reset twice is to reset once, and the random numbers go on. -/
theorem reset_is_new (m : Machine) :
    (∀ ops, Option.Rel (GoOnAlike m.reset { new m.random with memory := m.memory })
      (m.reset.history? ops) (history? { new m.random with memory := m.memory } ops)) ∧
    (∀ ops, Option.Rel (GoOnAlike m.coldReset (new m.random))
      (m.coldReset.history? ops) ((new m.random).history? ops)) ∧
    m.reset.reset = m.reset ∧ m.coldReset.coldReset = m.coldReset ∧
    m.reset.random = m.random ∧ m.coldReset.random = m.random := by
  refine ⟨?_, ?_, rfl, rfl, rfl, rfl⟩
  · have same : m.reset.SameButNote { new m.random with memory := m.memory } := ⟨false, rfl⟩
    exact history?_goOnAlike same rfl rfl
  · have same : m.coldReset.SameButNote (new m.random) := ⟨false, rfl⟩
    exact history?_goOnAlike same rfl rfl

end Machine

end Chip8
