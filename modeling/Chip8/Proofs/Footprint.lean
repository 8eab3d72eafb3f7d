import Chip8.Proofs.Attempts
import Chip8.Proofs.Sprites
import Chip8.Proofs.Transfer

/-!
# What an instruction leaves alone

A machine is its parts, with the registers and the bytes of memory taken one by
one (`ext_part`). `Instruction.Touches` lists the parts that an instruction may
change; every other part is after it as it was before (`same_execute`).

Along a history the attempted instructions are all that reaches the bytes below
the programs, as long as nobody puts the font back: a load places its bytes from
`0x200` up, and time passes memory by (`byteAt_atEnd`).
-/

namespace Chip8

/-- A part of a machine. -/
inductive Part where
  | keypad
  /-- One byte of memory. -/
  | byte (a : Address)
  /-- The screen and the note that it was drawn on. -/
  | display
  | stack
  | delay
  | sound
  | pc
  | index
  | random
  | register (x : Nibble)
  deriving DecidableEq

/-- Whether a part of the second machine is as it is in the first. -/
def Part.Same (m n : Machine) : Part → Prop
  | keypad => n.keypad = m.keypad
  | byte a => n.memory.byteAt a = m.memory.byteAt a
  | display => n.display = m.display
  | stack => n.stack = m.stack
  | delay => n.delay = m.delay
  | sound => n.sound = m.sound
  | pc => n.pc = m.pc
  | index => n.index = m.index
  | random => n.random = m.random
  | register x => n.reg x = m.reg x

namespace Instruction

/-- How many bytes an instruction stores from I on. -/
def stored : Instruction Nibble → Nat
  | storeDecimal _ => 3
  | storeRegs x => x.val + 1
  | _ => 0

/-- Whether an instruction may change a register. -/
def TouchesRegister (z : Nibble) : Instruction Nibble → Prop
  | setConst x _ | addConst x _ | copy x _ | orReg x _ | andReg x _ | xorReg x _
  | random x _ | readDelay x | awaitKey x => z = x
  | addReg x _ | subReg x _ | shiftRight x | subFrom x _ | shiftLeft x => z = x ∨ z = 0xF
  | draw _ _ _ => z = 0xF
  | loadRegs x => z ≤ x
  | _ => False

/-- Whether an instruction may change a part of the machine that carries it
out. -/
def Touches (m : Machine) (i : Instruction Nibble) : Part → Prop
  | .keypad => False
  | .byte a => ∃ k < i.stored, a = .wrap (m.index.toNat + k)
  | .display => match i with
    | clearScreen | draw _ _ _ => True
    | _ => False
  | .stack => match i with
    | call _ | ret => True
    | _ => False
  | .delay => match i with
    | setDelay _ => True
    | _ => False
  | .sound => match i with
    | setSound _ => True
    | _ => False
  | .pc => match i with
    | ret | jump _ | call _ | jumpOffset _ => True
    | skipEq _ _ | skipNe _ _ | skipSame _ _ | skipDiffer _ _ | skipKey _ | skipNoKey _ => True
    | awaitKey _ => m.keypad.first? = none
    | _ => False
  | .index => match i with
    | setIndex _ | addIndex _ | pointGlyph _ => True
    | _ => False
  | .random => match i with
    | random _ _ => True
    | _ => False
  | .register z => i.TouchesRegister z

end Instruction

namespace Machine

variable {m n : Machine} {i : Instruction Nibble} {a : Address} {z : Nibble}

/-- A machine is its parts. -/
theorem ext_part (same : ∀ p : Part, p.Same m n) : n = m := by
  have memory : n.memory = m.memory := Memory.ext_byteAt fun a => same (.byte a)
  have registers : n.registers = m.registers := by
    apply Vector.ext
    intro k inside
    exact same (.register ⟨k, inside⟩)
  have keypad := same .keypad
  have display := same .display
  have stack := same .stack
  have delay := same .delay
  have sound := same .sound
  have pc := same .pc
  have index := same .index
  have random := same .random
  cases m
  cases n
  simp_all only [Part.Same]

/-! ## One instruction -/

/-- The bytes that an instruction stores from I on. -/
def bytesOf (m : Machine) : Instruction Nibble → List UInt8
  | .storeDecimal x => decimalDigits (m.reg x)
  | .storeRegs x => (upTo x).map m.reg
  | _ => []

theorem length_bytesOf (m : Machine) (i : Instruction Nibble) :
    (m.bytesOf i).length = i.stored := by
  cases i with
  | storeRegs x =>
      have bound := x.isLt
      simp only [bytesOf, upTo, List.length_map, List.length_take, List.length_finRange,
        Instruction.stored]
      omega
  | _ => rfl

theorem stored_le (i : Instruction Nibble) : i.stored ≤ 16 := by
  cases i with
  | storeRegs x => exact x.isLt
  | storeDecimal x => exact Nat.le_of_ble_eq_true rfl
  | _ => exact Nat.zero_le 16

/-- Memory, the stack and the index register after an instruction. -/
theorem places_execute (m : Machine) (i : Instruction Nibble) :
    (m.execute i).state.memory = m.memory.place m.index.toNat (m.bytesOf i) ∧
    (m.execute i).state.stack = (match i with
      | .ret => (m.stack.pop?.map Prod.snd).getD m.stack
      | .call _ => (m.stack.push? m.pc).getD m.stack
      | _ => m.stack) ∧
    (m.execute i).state.index = (match i with
      | .setIndex target => target
      | .addIndex x => m.index + (m.reg x).toUInt16
      | .pointGlyph x => Font.address (m.reg x)
      | _ => m.index) := by
  cases i with
  | ret =>
      cases hp : m.stack.pop? <;> simp [execute, hp, executed, refused, bytesOf, Memory.place]
  | call target =>
      cases hp : m.stack.push? m.pc <;>
        simp [execute, hp, executed, refused, bytesOf, Memory.place]
  | skipKey x | skipNoKey x =>
      cases hk : m.keypad.isPressed (m.reg x) <;>
        simp only [execute, hk, executed, refused, skipIf_eq, bytesOf, Memory.place, and_self]
  | awaitKey x =>
      cases hk : m.keypad.first? <;>
        simp only [execute, hk, executed, setReg, bytesOf, Memory.place, and_self]
  | _ =>
      simp only [execute, executed, setReg, setFlag, skipIf_eq, spriteAt_eq, store_eq,
        loadEach_eq, bytesOf, Memory.place, Nat.add_zero, and_self]

theorem memory_execute (m : Machine) (i : Instruction Nibble) :
    (m.execute i).state.memory = m.memory.place m.index.toNat (m.bytesOf i) :=
  (m.places_execute i).1

theorem index_execute (m : Machine) (i : Instruction Nibble) :
    (m.execute i).state.index =
      match i with
      | .setIndex target => target
      | .addIndex x => m.index + (m.reg x).toUInt16
      | .pointGlyph x => Font.address (m.reg x)
      | _ => m.index :=
  (m.places_execute i).2.2

/-- What is stored reaches no farther than it is long, so bytes past it are left
alone. -/
theorem byteAt_execute (spared : ¬ i.Touches m (.byte a)) :
    (m.execute i).state.memory.byteAt a = m.memory.byteAt a := by
  have long := m.length_bytesOf i
  have few := stored_le i
  rw [m.memory_execute]
  refine Memory.byteAt_place_of_le _ (by omega) (Nat.le_of_not_lt fun reached => spared ?_)
  exact ⟨a.past m.index.toNat, long ▸ reached, (Address.wrap_add_past _ a).symm⟩

theorem reg_setReg_of_ne {x : Nibble} {b : UInt8} (other : z ≠ x) :
    (m.setReg x b).reg z = m.reg z := by
  rw [reg_setReg, if_neg (Ne.symm other)]

/-- Registers that an instruction does not put anything into are left alone. -/
theorem reg_execute (spared : ¬ i.TouchesRegister z) : (m.execute i).state.reg z = m.reg z := by
  cases i with
  | setConst | addConst | copy | orReg | andReg | xorReg | random | readDelay =>
      exact reg_setReg_of_ne spared
  | addReg | subReg | shiftRight | subFrom | shiftLeft =>
      -- the result is put into one register and then the flag into another
      obtain ⟨other, noFlag⟩ := not_or.1 spared
      exact (reg_setReg_of_ne noFlag).trans (reg_setReg_of_ne other)
  | draw x y n =>
      rw [execute_draw]
      exact reg_setReg_of_ne spared
  | loadRegs x =>
      rw [reg_loadRegs]
      exact if_neg spared
  | awaitKey x =>
      simp only [execute]
      cases m.keypad.first? with
      | none =>
          show m.registers.get z = m.reg z
          rfl
      | some key => exact reg_setReg_of_ne spared
  | storeDecimal | storeRegs =>
      simp only [execute, store_eq]
      rfl
  | skipEq | skipNe | skipSame | skipDiffer =>
      simp only [execute, skipIf_eq]
      rfl
  | skipKey x | skipNoKey x =>
      simp only [execute, skipIf_eq]
      cases m.keypad.isPressed (m.reg x) <;> rfl
  | ret =>
      simp only [execute]
      cases m.stack.pop? <;> rfl
  | call target =>
      simp only [execute]
      cases m.stack.push? m.pc <;> rfl
  | _ => rfl

/-- Every part that an instruction does not touch is left alone. -/
theorem same_execute {p : Part} (spared : ¬ i.Touches m p) : p.Same m (m.execute i).state := by
  cases p with
  | keypad => exact m.keypad_execute i
  | byte a => exact byteAt_execute spared
  | register z => exact reg_execute spared
  | display =>
      refine (m.display_execute i).trans ?_
      cases i with
      | clearScreen | draw => exact absurd trivial spared
      | _ => rfl
  | stack =>
      refine (m.places_execute i).2.1.trans ?_
      cases i with
      | call | ret => exact absurd trivial spared
      | _ => rfl
  | delay =>
      refine (m.delay_execute i).trans ?_
      cases i with
      | setDelay => exact absurd trivial spared
      | _ => rfl
  | sound =>
      refine (m.sound_execute i).trans ?_
      cases i with
      | setSound => exact absurd trivial spared
      | _ => rfl
  | pc =>
      refine (m.pc_execute i).trans ?_
      cases i with
      | awaitKey => exact if_neg spared
      | ret | jump | call | jumpOffset => exact absurd trivial spared
      | skipEq | skipNe | skipSame | skipDiffer | skipKey | skipNoKey =>
          exact absurd trivial spared
      | _ => rfl
  | index =>
      refine (m.index_execute i).trans ?_
      cases i with
      | setIndex | addIndex | pointGlyph => exact absurd trivial spared
      | _ => rfl
  | random =>
      refine (m.random_execute i).trans ?_
      cases i with
      | random => exact absurd trivial spared
      | _ => rfl

end Machine

/-! ## Many instructions -/

/-- Whether an attempted instruction stores a byte at a place. -/
def Attempt.StoresAt (t : Attempt) (a : Address) : Prop :=
  t.instruction.Touches t.before (.byte a)

namespace Machine

variable {m n : Machine} {a : Address} {op : Operation} {ops : List Operation}
  {e : Effect Machine Answer} {h : List Moment}

theorem Leads.byteAt {attempts : List Attempt} (leads : Leads m attempts n)
    (spared : ∀ t ∈ attempts, ¬ t.StoresAt a) : n.memory.byteAt a = m.memory.byteAt a := by
  induction leads with
  | nil elapsed => rw [elapsed]
  | cons elapsed later ih =>
      rw [ih fun t among => spared t (List.mem_cons_of_mem _ among)]
      refine (byteAt_execute (spared _ List.mem_cons_self)).trans ?_
      rw [elapsed]

/-- A load is an edit of memory. -/
theorem memory_load (m : Machine) (program : List UInt8) :
    (m.load program).state.memory = m.memory.edit (.install program) := by
  simp only [load, Memory.edit, Edit.on]
  cases m.memory.install program <;> rfl

/-- A byte below the programs is changed by attempted instructions only, unless the
font is put back. -/
theorem byteAt_perform? (does : m.perform? op = some e) (low : a.val < 0x200)
    (warm : op ≠ .coldReset) (spared : ∀ t ∈ m.attempts op, ¬ t.StoresAt a) :
    e.state.memory.byteAt a = m.memory.byteAt a := by
  cases op with
  | step | execute | executeWord | executeAll => exact (leads_perform? rfl does).byteAt spared
  | load program =>
      cases does
      have below : ¬ ((Edit.install program).Fits ∧ 0x200 ≤ a.val) :=
        fun reached => Nat.not_lt.2 reached.2 low
      show (m.load program).state.memory.byteAt a = _
      rw [memory_load, Memory.byteAt_edit, Edit.puts?, Edit.start, if_neg below]
      rfl
  | coldReset => exact absurd rfl warm
  | setKey key isDown =>
      rw [perform?_setKey] at does
      cases does
      rfl
  | reset | releaseKeys | draw | wipe | markShown => cases does; rfl

theorem byteAt_atEnd (run : m.history? ops = some h) (low : a.val < 0x200)
    (warm : ∀ op ∈ ops, op ≠ .coldReset) (spared : ∀ x ∈ h, ∀ t ∈ x.attempts, ¬ t.StoresAt a) :
    (m.atEnd h).memory.byteAt a = m.memory.byteAt a := by
  induction ops generalizing m h with
  | nil => cases run; rfl
  | cons op ops ih =>
      obtain ⟨e, rest, does, later, rfl⟩ := history?_cons_iff.1 run
      have now := byteAt_perform? does low (warm op List.mem_cons_self)
        (spared ⟨m, op, e⟩ List.mem_cons_self)
      have rest := ih later (fun op among => warm op (List.mem_cons_of_mem _ among))
        fun x among => spared x (List.mem_cons_of_mem _ among)
      exact rest.trans now

/-- Whether a step carries out one of the two instructions that store, and a byte of
what it stores goes to a place. -/
def StepStoresAt (m : Machine) (a : Address) : Prop :=
  ∃ i x, m.current? = some i ∧ (i = .storeDecimal x ∨ i = .storeRegs x) ∧
    ∃ k < i.stored, a = .wrap (m.index.toNat + k)

/-- A step moves on before it stores, which does not change where to. -/
theorem stepStoresAt_of_attempt {t : Attempt} (among : t ∈ m.attempts .step)
    (stores : t.StoresAt a) : m.StepStoresAt a := by
  cases current : m.current? with
  | none =>
      rw [attempts_step_of_none current] at among
      cases among
  | some i =>
      rw [attempts_step_of_some current] at among
      cases List.mem_singleton.1 among
      obtain ⟨k, few, place⟩ := stores
      cases i with
      | storeDecimal x => exact ⟨_, x, current, .inl rfl, k, few, place⟩
      | storeRegs x => exact ⟨_, x, current, .inr rfl, k, few, place⟩
      | _ => exact absurd few (Nat.not_lt_zero k)

end Machine

/-- **Instructions touch only their own parts.** A machine is its parts, and an
instruction written by hand whose registers and height there are is carried out as
such. Whatever the machine, it leaves every part alone that `Touches` does not list
for it, and one that draws from the random numbers takes one word. So in a run of
steps and loads, which always goes through, a byte below the programs changes only
in a step that carries out `Fx33` or `Fx55`, and only if what is stored wraps around
to it. -/
theorem instructions_touch_only_their_parts :
    (∀ m n : Machine, (∀ p : Part, p.Same m n) → n = m) ∧
    (∀ (m : Machine) (i : Instruction UInt8), (∀ b ∈ i.operands, b.toNat < 16) →
      ∃ j, j.widen = i ∧ m.executeWritten? i = some (m.execute j)) ∧
    (∀ (m : Machine) (i : Instruction Nibble) (p : Part), ¬ i.Touches m p →
      p.Same m (m.execute i).state) ∧
    (∀ (m : Machine) x k, (m.execute (.random x k)).state.random = m.random.next) ∧
    ∀ (m : Machine) (ops : List Operation),
      (∀ op ∈ ops, op = .step ∨ ∃ program, op = .load program) →
      ∃ h, m.history? ops = some h ∧ ∀ a : Address, a.val < 0x200 →
        (∀ x ∈ h, x.after.memory.byteAt a ≠ x.before.memory.byteAt a →
          x.operation = .step ∧ x.before.StepStoresAt a) ∧
        ((m.atEnd h).memory.byteAt a ≠ m.memory.byteAt a →
          ∃ x ∈ h, x.operation = .step ∧ x.before.StepStoresAt a) := by
  refine ⟨fun _ _ => Machine.ext_part, ?written, fun _ _ _ => Machine.same_execute,
    fun m x k => m.random_execute (.random x k), ?runs⟩
  case written =>
    intro m i small
    obtain ⟨j, _, rfl⟩ := Instruction.exists_narrow? small
    exact ⟨j, rfl, m.executeWritten?_widen j⟩
  case runs =>
    intro m ops played
    have warm (op : Operation) (plays : op = .step ∨ ∃ program, op = .load program) :
        op ≠ .coldReset := by
      rcases plays with rfl | ⟨program, rfl⟩ <;> nofun
    obtain ⟨h, run⟩ := Machine.exists_history? (fun m op plays => by
      rcases plays with rfl | ⟨program, rfl⟩ <;>
        exact m.exists_perform?_unless_written rfl) m played
    obtain ⟨moments, _⟩ := Machine.forall_history? (P := fun _ => True)
      (fun _ _ _ _ _ _ => trivial) trivial played run
    refine ⟨h, run, fun a low => ?_⟩
    -- only a step attempts an instruction
    have step (x : Moment) (among : x ∈ h) {t : Attempt} (attempted : t ∈ x.attempts)
        (stores : t.StoresAt a) : x.operation = .step ∧ x.before.StepStoresAt a := by
      obtain ⟨before, op, e⟩ := x
      rcases (moments _ among).1 with rfl | ⟨program, rfl⟩
      · exact ⟨rfl, Machine.stepStoresAt_of_attempt attempted stores⟩
      · cases attempted
    constructor
    · intro x among changed
      obtain ⟨plays, does, _⟩ := moments x among
      by_contra never
      exact changed (Machine.byteAt_perform? does low (warm _ plays)
        fun t attempted stores => never (step x among attempted stores))
    · intro changed
      by_contra never
      exact changed (Machine.byteAt_atEnd run low (fun op among => warm op (played op among))
        fun x among t attempted stores => never ⟨x, among, step x among attempted stores⟩)

/-- Six registers are stored two bytes before the end of memory, of which four go
over the first glyph of the font. The byte after them is left alone. -/
theorem instructions_touch_only_their_parts_font :
    let start := Machine.ofSeed 8
    let ops : List Operation := [.load [0xAF, 0xFE, 0xF5, 0x55], .step, .step]
    let m := { start with index := 0xFFE }
    (∃ h, start.history? ops = some h ∧ (start.atEnd h).memory.byteAt 0x003 = 0x00 ∧
      start.memory.byteAt 0x003 = 0x90 ∧
      ∃ x ∈ h, x.operation = .step ∧ x.before.StepStoresAt 0x003) ∧
    ¬ (Instruction.storeRegs 0x5).Touches m (.byte 0x004) ∧
    (m.execute (.storeRegs 0x5)).state.memory.byteAt 0x004 = m.memory.byteAt 0x004 := by
  intro start ops m
  obtain ⟨_, _, frame, _, runs⟩ := instructions_touch_only_their_parts
  constructor
  · have played : ∀ op ∈ ops, op = .step ∨ ∃ program, op = .load program := by simp [ops]
    obtain ⟨h, run, bytes⟩ := runs start ops played
    have stored : (start.history? ops).map (fun h => (start.atEnd h).memory.byteAt 0x003) =
        some 0x00 := by decide +kernel
    have before : start.memory.byteAt 0x003 = 0x90 := by decide +kernel
    rw [run] at stored
    have after : (start.atEnd h).memory.byteAt 0x003 = 0x00 := Option.some.inj stored
    refine ⟨h, run, after, before, (bytes 0x003 (by decide)).2 ?_⟩
    rw [after, before]
    decide
  · have spared : ¬ (Instruction.storeRegs 0x5).Touches m (.byte 0x004) := by
      show ¬ ∃ k < 6, (0x004 : Address) = .wrap (0xFFE + k)
      decide
    exact ⟨spared, frame m (.storeRegs 0x5) (.byte 0x004) spared⟩

end Chip8
