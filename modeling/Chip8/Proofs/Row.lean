import Chip8.Proofs.Encoding
import Chip8.Proofs.Execute
import Mathlib.Control.Monad.Basic

/-!
# Instructions in a row

Instructions written by hand are carried out one after another up to the first one
that is refused. `Machine.Carries` says where a row leads in which none is. To go
on from there is to go on with the row (`executeAll?_append`), and a row has three
ways to end (`row_cases`): it is carried out as a whole, an instruction is refused
on the way, or one names something that the machine lacks. A refused instruction
leaves no trace, so whatever way a row ends, it leaves the machine that the
instructions before the last one lead to.
-/

namespace Chip8

namespace Machine

variable {m n : Machine} {i : Instruction UInt8} {all done rest : List (Instruction UInt8)}
  {e : Effect Machine Progress} {progress : Progress} {fault : Fault}

/-- Instructions written by hand, none of which is refused, lead from one machine
to another. -/
inductive Carries : Machine → List (Instruction UInt8) → Machine → Prop
  | nil (m : Machine) : Carries m [] m
  | cons {m n : Machine} {i : Instruction UInt8} {rest : List (Instruction UInt8)}
      {e : Effect Machine Progress} {progress : Progress} (does : m.executeWritten? i = some e)
      (ok : e.outcome = .ok progress) (later : Carries e.state rest n) : Carries m (i :: rest) n

/-! ## One instruction -/

/-- One written by hand is refused for the reasons of the instruction that it
names, and leaves no trace. -/
theorem executeWritten?_error (does : m.executeWritten? i = some e)
    (failed : e.outcome = .error fault) :
    e = m.refused fault ∧ ∃ j, m.resolve? i = some j ∧ Refusal m j fault := by
  rw [executeWritten?, Option.map_eq_some_iff] at does
  obtain ⟨j, resolved, rfl⟩ := does
  have refusal := refusal_of_outcome failed
  exact ⟨execute_of_refusal refusal, j, resolved, refusal⟩

/-- The faults of a refusal. -/
theorem Refusal.fault_cases {j : Instruction Nibble} (refusal : Refusal m j fault) :
    fault = .stackUnderflow ∨ fault = .stackOverflow ∨
      ∃ key : UInt8, 15 < key.toNat ∧ fault = .invalidKey key := by
  cases refusal with
  | ret => exact .inl rfl
  | call target => exact .inr (.inl rfl)
  | skipKey x large => exact .inr (.inr ⟨_, large, rfl⟩)
  | skipNoKey x large => exact .inr (.inr ⟨_, large, rfl⟩)

theorem narrow?_eq_none_iff :
    i.narrow? = none ↔ ∃ b ∈ i.operands, 16 ≤ b.toNat := by
  simp [Instruction.narrow?]

/-- While no key is down, waiting for one only goes back, whatever register is
named. -/
theorem executeWritten?_awaitKey_of_none (nobody : m.keypad.first? = none) (x : UInt8) :
    m.executeWritten? (.awaitKey x) =
      some ⟨.ok .awaitingKey, { m with pc := addressBefore m.pc }, []⟩ := by
  have resolved : m.resolve? (.awaitKey x) = some (.awaitKey 0) := by
    simp only [resolve?, nobody, Option.isNone_none, if_true]
  rw [executeWritten?, resolved, Option.map_some, execute_awaitKey_of_none 0 nobody]

/-- A machine lacks what an instruction names if a register or a height is too
large and it comes to that: waiting for a key looks at its register only once a key
is down. -/
theorem executeWritten?_eq_none_iff :
    m.executeWritten? i = none ↔
      (∃ b ∈ i.operands, 16 ≤ b.toNat) ∧ ∀ x, i = .awaitKey x → m.keypad.first? ≠ none := by
  have narrow (others : ∀ x, i = .awaitKey x → m.keypad.first? ≠ none) :
      m.resolve? i = i.narrow? := by
    cases i with
    | awaitKey x =>
        cases hk : m.keypad.first? with
        | none => exact absurd hk (others x rfl)
        | some key => simp [resolve?, hk]
    | _ => rfl
  rw [executeWritten?, Option.map_eq_none_iff, ← narrow?_eq_none_iff]
  constructor
  · intro lacking
    have others : ∀ x, i = .awaitKey x → m.keypad.first? ≠ none := by
      rintro x rfl nobody
      simp [resolve?, nobody] at lacking
    exact ⟨narrow others ▸ lacking, others⟩
  · rintro ⟨lacking, others⟩
    rw [narrow others, lacking]

/-! ## Rows -/

/-- To go on from where a row leads is to go on with the row. -/
theorem Carries.executeAll?_append (carries : m.Carries done n) :
    ∃ log, ∀ rest, m.executeAll? (done ++ rest) =
      (n.executeAll? rest).map fun r => { r with log := log ++ r.log } := by
  induction carries with
  | nil m => exact ⟨[], fun rest => Option.map_id'.symm⟩
  | @cons m n i done e progress does ok later ih =>
      obtain ⟨log, goesOn⟩ := ih
      refine ⟨e.log ++ log, fun rest => ?_⟩
      simp only [List.cons_append, executeAll?, does, Option.bind_some, ok, goesOn,
        Option.map_map, Function.comp_def, List.append_assoc]

/-- The ways a row can end. -/
inductive RowCase (m : Machine) (all : List (Instruction UInt8)) : Prop
  /-- It is carried out as a whole. -/
  | through (n : Machine) (carries : m.Carries all n)
  /-- An instruction is refused. -/
  | refused (done rest : List (Instruction UInt8)) (i : Instruction UInt8) (n : Machine)
      (fault : Fault) (split : all = done ++ i :: rest) (carries : m.Carries done n)
      (does : n.executeWritten? i = some (n.refused fault))
  /-- An instruction names something that the machine lacks. -/
  | lacking (done rest : List (Instruction UInt8)) (i : Instruction UInt8) (n : Machine)
      (split : all = done ++ i :: rest) (carries : m.Carries done n)
      (lacks : n.executeWritten? i = none)

theorem row_cases (m : Machine) (all : List (Instruction UInt8)) : RowCase m all := by
  induction all generalizing m with
  | nil => exact .through m (.nil m)
  | cons i all ih =>
      cases does : m.executeWritten? i with
      | none => exact .lacking [] all i m rfl (.nil m) does
      | some e =>
          cases outcome : e.outcome with
          | error fault =>
              obtain ⟨rfl, _⟩ := executeWritten?_error does outcome
              exact .refused [] all i m fault rfl (.nil m) does
          | ok progress =>
              -- the rest of the row decides
              cases ih e.state with
              | through n carries => exact .through n (.cons does outcome carries)
              | refused done rest j n fault split carries stops =>
                  refine .refused (i :: done) rest j n fault ?_ (.cons does outcome carries) stops
                  rw [split, List.cons_append]
              | lacking done rest j n split carries lacks =>
                  refine .lacking (i :: done) rest j n ?_ (.cons does outcome carries) lacks
                  rw [split, List.cons_append]

theorem executeAll?_of_carries (carries : m.Carries all n) :
    ∃ log, m.executeAll? all = some ⟨.ok (), n, log⟩ := by
  obtain ⟨log, goesOn⟩ := carries.executeAll?_append
  have whole := goesOn []
  rw [List.append_nil] at whole
  exact ⟨_, whole⟩

theorem executeAll?_of_refused (carries : m.Carries done n)
    (does : n.executeWritten? i = some (n.refused fault)) (rest : List (Instruction UInt8)) :
    ∃ log, m.executeAll? (done ++ i :: rest) = some ⟨.error fault, n, log⟩ := by
  obtain ⟨log, goesOn⟩ := carries.executeAll?_append
  have stops : n.executeAll? (i :: rest) = some ⟨.error fault, n, []⟩ := by
    simp only [executeAll?, does, Option.bind_some, refused]
  refine ⟨log ++ [], ?_⟩
  rw [goesOn, stops, Option.map_some]

theorem executeAll?_of_lacking (carries : m.Carries done n) (lacks : n.executeWritten? i = none)
    (rest : List (Instruction UInt8)) : m.executeAll? (done ++ i :: rest) = none := by
  obtain ⟨log, goesOn⟩ := carries.executeAll?_append
  rw [goesOn, executeAll?, lacks, Option.bind_none, Option.map_none]

/-- A row that is carried out as a whole leads to the machine that it leaves. -/
theorem executeAll?_ok_iff {e : Effect Machine Unit} (does : m.executeAll? all = some e) :
    e.outcome = .ok () ↔ m.Carries all e.state := by
  constructor
  · intro ok
    cases m.row_cases all with
    | through n carries =>
        obtain ⟨log, whole⟩ := executeAll?_of_carries carries
        cases does.symm.trans whole
        exact carries
    | refused done rest i n fault split carries stops =>
        obtain ⟨log, stopped⟩ := executeAll?_of_refused carries stops rest
        rw [← split, does] at stopped
        cases stopped
        cases ok
    | lacking done rest i n split carries lacks =>
        rw [split, executeAll?_of_lacking carries lacks] at does
        cases does
  · intro carries
    obtain ⟨log, whole⟩ := executeAll?_of_carries carries
    rw [does] at whole
    exact congrArg Effect.outcome (Option.some.inj whole)

/-- A row that is not leads to the machine that it leaves by the instructions before
the one that is refused. -/
theorem executeAll?_error_iff {e : Effect Machine Unit} (does : m.executeAll? all = some e) :
    e.outcome = .error fault ↔ ∃ done i rest, all = done ++ i :: rest ∧
      m.Carries done e.state ∧ e.state.executeWritten? i = some (e.state.refused fault) := by
  constructor
  · intro failed
    cases m.row_cases all with
    | through n carries =>
        obtain ⟨log, whole⟩ := executeAll?_of_carries carries
        cases does.symm.trans whole
        cases failed
    | refused done rest i n fault' split carries stops =>
        obtain ⟨log, stopped⟩ := executeAll?_of_refused carries stops rest
        rw [← split, does] at stopped
        cases stopped
        cases failed
        exact ⟨done, i, rest, split, carries, stops⟩
    | lacking done rest i n split carries lacks =>
        rw [split, executeAll?_of_lacking carries lacks] at does
        cases does
  · rintro ⟨done, i, rest, rfl, carries, stops⟩
    obtain ⟨log, stopped⟩ := executeAll?_of_refused carries stops rest
    rw [does] at stopped
    exact congrArg Effect.outcome (Option.some.inj stopped)

theorem executeAll?_eq_none_iff :
    m.executeAll? all = none ↔ ∃ done i rest n, all = done ++ i :: rest ∧ m.Carries done n ∧
      n.executeWritten? i = none := by
  constructor
  · intro none
    cases m.row_cases all with
    | through n carries =>
        obtain ⟨log, whole⟩ := executeAll?_of_carries carries
        cases none.symm.trans whole
    | refused done rest i n fault split carries stops =>
        obtain ⟨log, stopped⟩ := executeAll?_of_refused carries stops rest
        rw [← split, none] at stopped
        cases stopped
    | lacking done rest i n split carries lacks => exact ⟨done, i, rest, n, split, carries, lacks⟩
  · rintro ⟨done, i, rest, n, rfl, carries, lacks⟩
    exact executeAll?_of_lacking carries lacks rest

end Machine

/-- **A row stops at the first refusal.** Take any machine and any instructions
written by hand, one after another. They come to an end unless one that is reached
names a register or a height that there is not; a register to wait for a key with is
looked at only once a key is down. At the end, either all were carried out, or one
was refused: then the machine is the one that those before it lead to, the refused
one has left no trace and those after it were not reached. The fault is an empty or
a full stack or a number that is no key. Waiting while no key is down is no refusal:
it takes the program counter back by two, modulo the size of memory, and the row
goes on. -/
theorem row_stops_at_first_refusal (m : Machine) (all : List (Instruction UInt8)) :
    (m.executeAll? all = none ↔ ∃ done i rest n, all = done ++ i :: rest ∧ m.Carries done n ∧
      n.executeWritten? i = none) ∧
    (∀ (n : Machine) i, n.executeWritten? i = none ↔ (∃ b ∈ i.operands, 16 ≤ b.toNat) ∧
      ∀ x, i = .awaitKey x → n.keypad.first? ≠ none) ∧
    (∀ e, m.executeAll? all = some e →
      (e.outcome = .ok () ↔ m.Carries all e.state) ∧
      ∀ fault, e.outcome = .error fault ↔ ∃ done i rest, all = done ++ i :: rest ∧
        m.Carries done e.state ∧
        e.state.executeWritten? i = some ⟨.error fault, e.state, []⟩) ∧
    (∀ (n : Machine) i e fault, n.executeWritten? i = some e → e.outcome = .error fault →
      e.state = n ∧ (fault = .stackUnderflow ∨ fault = .stackOverflow ∨
        ∃ key : UInt8, 15 < key.toNat ∧ fault = .invalidKey key)) ∧
    (∀ (n : Machine) x rest, n.keypad.first? = none →
      let back : Machine := { n with pc := UInt16.ofNat ((n.pc.toNat + 4094) % 4096) }
      n.executeWritten? (.awaitKey x) = some ⟨.ok .awaitingKey, back, []⟩ ∧
      n.executeAll? (.awaitKey x :: rest) = back.executeAll? rest) := by
  refine ⟨Machine.executeAll?_eq_none_iff, fun _ _ => Machine.executeWritten?_eq_none_iff,
    fun e does => ⟨Machine.executeAll?_ok_iff does,
      fun fault => Machine.executeAll?_error_iff does⟩, ?faults, ?waits⟩
  case faults =>
    intro n i e fault does failed
    obtain ⟨rfl, j, _, refusal⟩ := Machine.executeWritten?_error does failed
    exact ⟨rfl, refusal.fault_cases⟩
  case waits =>
    intro n x rest nobody back
    have waits : n.executeWritten? (.awaitKey x) = some ⟨.ok .awaitingKey, back, []⟩ :=
      Machine.executeWritten?_awaitKey_of_none nobody x
    refine ⟨waits, ?_⟩
    rw [Machine.executeAll?, waits, Option.bind_some]
    exact Option.map_id'

/-- The first instruction waits at an odd place past the end of memory, for a
register that there is not; the third has nowhere to return to, and the fourth, which
there is not either, is not reached. -/
theorem row_stops_at_first_refusal_third :
    let m := { Machine.ofSeed 8 with pc := 0x1001 }
    let all : List (Instruction UInt8) :=
      [.awaitKey 0xC8, .setConst 0x1 7, .ret, .setConst 0xC8 9]
    ∃ e, m.executeAll? all = some e ∧ e.outcome = .error .stackUnderflow ∧
      e.state.pc = 0xFFF ∧ e.state.reg 0x1 = 7 ∧
      ∃ done i rest, all = done ++ i :: rest ∧ m.Carries done e.state ∧
        e.state.executeWritten? i = some ⟨.error .stackUnderflow, e.state, []⟩ := by
  intro m all
  have facts : (m.executeAll? all).map (fun e => (e.outcome, e.state.pc, e.state.reg 0x1)) =
      some (.error .stackUnderflow, 0xFFF, 7) := by decide +kernel
  obtain ⟨e, does, facts⟩ := Option.map_eq_some_iff.1 facts
  simp only [Prod.mk.injEq] at facts
  obtain ⟨failed, pc, one⟩ := facts
  obtain ⟨_, _, ends, _⟩ := row_stops_at_first_refusal m all
  exact ⟨e, does, failed, pc, one, ((ends e does).2 .stackUnderflow).1 failed⟩

end Chip8
