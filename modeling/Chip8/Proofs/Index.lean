import Chip8.Proofs.Hidden
import Chip8.Proofs.Placing
import Chip8.Proofs.Safety

/-!
# The index register past the end of memory

The index register has 16 bits where memory has addresses of 12. Machines whose
index registers stand for the `SamePlace` of memory cannot be told apart: every
use of the register wraps, and adding to it keeps the two in step, also if the
sum leaves memory, or starts again from zero, on one of them only.
-/

namespace Chip8

namespace Machine

variable {m n : Machine}

/-- The second machine is the first one, possibly with another index register
that stands for the same place in memory. -/
structure SamePlace (m n : Machine) : Prop where
  index : m.index.toNat % 4096 = n.index.toNat % 4096
  rest : n = { m with index := n.index }

theorem SamePlace.exists_eq (same : m.SamePlace n) :
    ∃ index : UInt16, m.index.toNat % 4096 = index.toNat % 4096 ∧ n = { m with index } :=
  ⟨n.index, same.index, same.rest⟩

theorem SamePlace.moved (same : m.SamePlace n) (pc : UInt16) :
    SamePlace { m with pc } { n with pc } := by
  obtain ⟨index, place, rfl⟩ := same.exists_eq
  exact ⟨place, rfl⟩

theorem SamePlace.tickTimers (same : m.SamePlace n) : m.tickTimers.SamePlace n.tickTimers := by
  obtain ⟨index, place, rfl⟩ := same.exists_eq
  exact ⟨place, rfl⟩

/-- Sums wrap after sixteen times round memory, so they stand for the same
place if their first terms do. -/
theorem add_place {a b : UInt16} (same : a.toNat % 4096 = b.toNat % 4096) (k : UInt16) :
    (a + k).toNat % 4096 = (b + k).toNat % 4096 := by
  simp only [UInt16.toNat_add]
  omega

/-- Four instructions use the register as an address, and one adds to it. -/
theorem SamePlace.execute (same : m.SamePlace n) (i : Instruction Nibble) :
    (m.execute i).Rel SamePlace (n.execute i) := by
  obtain ⟨index, place, rfl⟩ := same.exists_eq
  cases i with
  | draw x y k =>
      have sprite := m.memory.slice_congr place k.val
      simp only [Machine.execute, spriteAt_eq, executed, setFlag, setReg, sprite]
      exact ⟨rfl, rfl, place, rfl⟩
  | storeDecimal | storeRegs =>
      simp only [Machine.execute, store_eq, executed, Nat.add_zero, m.memory.place_congr place]
      exact ⟨rfl, rfl, place, rfl⟩
  | loadRegs x =>
      have byte (y : Nibble) : Address.wrap (m.index.toNat + y.val) =
          Address.wrap (index.toNat + y.val) := by
        apply Address.wrap_congr
        omega
      simp only [Machine.execute, loadEach_eq, executed, byte]
      exact ⟨rfl, rfl, place, rfl⟩
  | addIndex x => exact ⟨rfl, rfl, add_place place _, rfl⟩
  | setIndex | pointGlyph => exact ⟨rfl, rfl, rfl, rfl⟩
  | ret =>
      simp only [Machine.execute]
      cases m.stack.pop? <;> exact ⟨rfl, rfl, place, rfl⟩
  | call target =>
      simp only [Machine.execute]
      cases m.stack.push? m.pc <;> exact ⟨rfl, rfl, place, rfl⟩
  | skipEq | skipNe | skipSame | skipDiffer =>
      simp only [Machine.execute, skipIf_eq]
      exact ⟨rfl, rfl, place, rfl⟩
  | skipKey x | skipNoKey x =>
      have key : reg { m with index } x = m.reg x := rfl
      simp only [Machine.execute, skipIf_eq, key]
      cases m.keypad.isPressed (m.reg x) <;> exact ⟨rfl, rfl, place, rfl⟩
  | awaitKey x =>
      simp only [Machine.execute]
      cases m.keypad.first? <;> exact ⟨rfl, rfl, place, rfl⟩
  | _ => exact ⟨rfl, rfl, place, rfl⟩

theorem hidden_samePlace : Hidden SamePlace where
  memory same := by rw [same.rest]
  pc same := by rw [same.rest]
  sound same := by rw [same.rest]
  keypad same := by rw [same.rest]
  moved pc same := same.moved pc
  tickTimers same := same.tickTimers
  execute i same := same.execute i
  screen same := by rw [same.rest]
  withMemory memory same := by
    obtain ⟨index, place, rfl⟩ := same.exists_eq
    exact ⟨place, rfl⟩
  withKeypad keypad same := by
    obtain ⟨index, place, rfl⟩ := same.exists_eq
    exact ⟨place, rfl⟩
  withDisplay display same := by
    obtain ⟨index, place, rfl⟩ := same.exists_eq
    exact ⟨place, rfl⟩
  reset same := by
    obtain ⟨index, place, rfl⟩ := same.exists_eq
    exact ⟨rfl, rfl⟩

end Machine

/-- **The index register counts modulo 4096.** Whatever is done to two machines
that differ at most in their index registers, and these by a multiple of 4096:
every operation has the same outcome and writes the same log on both, and
leaves two machines that differ no more than that. Where every instruction
comes from a word, both have a history to compare. -/
theorem index_counts_modulo_memory {m n : Machine} (same : m.SamePlace n)
    (ops : List Operation) :
    Option.Rel (List.Forall₂ (Moment.Rel Machine.SamePlace)) (m.history? ops)
      (n.history? ops) ∧
    ((∀ op ∈ ops, op.Ordinary) →
      ∃ first second, m.history? ops = some first ∧ n.history? ops = some second ∧
        List.Forall₂ (Moment.Rel Machine.SamePlace) first second) := by
  have histories := Machine.hidden_samePlace.history? same ops
  refine ⟨histories, ?_⟩
  intro ordinary
  obtain ⟨first, hfirst⟩ := Machine.exists_history? Machine.exists_perform? m ordinary
  obtain ⟨second, hsecond⟩ := Machine.exists_history? Machine.exists_perform? n ordinary
  rw [hfirst, hsecond] at histories
  cases histories with
  | some moments => exact ⟨first, second, hfirst, hsecond, moments⟩

/-- A machine at the last place of memory, by one index register or another. -/
def atLastPlace (index : UInt16) : Machine :=
  { (Machine.ofSeed 8).setReg 0 1 with index }

/-- One is added to the index register and three digits are stored. The sum
leaves memory on one machine and starts again from zero on the other. -/
theorem index_counts_modulo_memory_past_end :
    let ops : List Operation := [.load [0xF0, 0x1E, 0xF0, 0x33], .step, .step]
    ∃ first second, (atLastPlace 0x0FFF).history? ops = some first ∧
      (atLastPlace 0xFFFF).history? ops = some second ∧
      List.Forall₂ (Moment.Rel Machine.SamePlace) first second ∧
      ((atLastPlace 0x0FFF).atEnd first).index = 0x1000 ∧
      ((atLastPlace 0xFFFF).atEnd second).index = 0x0000 := by
  intro ops
  have same : (atLastPlace 0x0FFF).SamePlace (atLastPlace 0xFFFF) := ⟨by decide, rfl⟩
  have ordinary : ∀ op ∈ ops, op.Ordinary := by
    intro op hop
    simp only [ops, List.mem_cons, List.not_mem_nil, or_false] at hop
    rcases hop with rfl | rfl | rfl
    · exact .load _
    · exact .step
    · exact .step
  obtain ⟨first, second, hfirst, hsecond, moments⟩ :=
    (index_counts_modulo_memory same ops).2 ordinary
  have left : ((atLastPlace 0x0FFF).history? ops).map
      (fun h => ((atLastPlace 0x0FFF).atEnd h).index) = some 0x1000 := by decide +kernel
  have round : ((atLastPlace 0xFFFF).history? ops).map
      (fun h => ((atLastPlace 0xFFFF).atEnd h).index) = some 0x0000 := by decide +kernel
  rw [hfirst] at left
  rw [hsecond] at round
  exact ⟨first, second, hfirst, hsecond, moments, Option.some.inj left, Option.some.inj round⟩

end Chip8
