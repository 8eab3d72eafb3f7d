import Chip8.Instruction.Encoding
import Chip8.Machine

/-!
# Carrying out instructions

`execute` gives each instruction its meaning. It is total on
`Instruction Nibble`, where every operand names something. What can be refused
are a return from an empty stack, a call on a full one, a register that should
name a key and does not, and an access to memory: the instructions that reach
memory through I compute an address for each byte, and every access is checked
like one from outside. Since these addresses wrap, no check ever fails
(`store_eq`, `loadEach_eq`, `spriteAt_eq`). `executeWritten?` covers
instructions from elsewhere; it has no answer for one that names a register
the machine lacks.
-/

namespace Chip8

/-- How far an instruction got. -/
inductive Progress where
  /-- It is done. -/
  | executed
  /-- It waits for a key and is to be carried out again. -/
  | awaitingKey
  deriving DecidableEq

namespace Machine

/-- An instruction is done and leaves a machine behind. -/
def executed (m : Machine) : Effect Machine Progress := ⟨.ok .executed, m, []⟩

/-- An instruction cannot be done and leaves the machine as it is. -/
def refused (m : Machine) (fault : Fault) : Effect Machine Progress := ⟨.error fault, m, []⟩

/-- The address some bytes past I. I counts on in 16 bits, and the sum wraps
around at the end of memory. -/
def offset (m : Machine) (k : Nat) : UInt16 := (m.index + UInt16.ofNat k) % 0x1000

/-- Store bytes one after another, the first one some bytes past I. A refused
byte ends this and leaves the earlier ones stored. -/
def store (m : Machine) (k : Nat) : List UInt8 → Effect Machine Progress
  | [] => m.executed
  | b :: rest =>
    match m.memory.write (m.offset k) b with
    | .ok memory => { m with memory }.store (k + 1) rest
    | .error fault => m.refused fault

/-- Load registers one after another, each from its own distance past I. A
refused byte ends this and leaves the earlier ones loaded. -/
def loadEach (m : Machine) : List Nibble → Effect Machine Progress
  | [] => m.executed
  | x :: rest =>
    match m.memory.read (m.offset x.val) with
    | .ok b => (m.setReg x b).loadEach rest
    | .error fault => m.refused fault

/-- The rows of a sprite at I. -/
def spriteAt (m : Machine) (height : Nat) : Except Fault Sprite :=
  (List.range height).mapM fun k => m.memory.read (m.offset k)

/-- The registers V0 up to Vx. -/
def upTo (x : Nibble) : List Nibble := (List.finRange 16).take (x.val + 1)

/-- The decimal digits of a byte: hundreds, tens and ones. -/
def decimalDigits (b : UInt8) : List UInt8 := [b / 100, b / 10 % 10, b % 10]

/-- Carry out an instruction. The program counter is past it already, and the
timers are left alone. -/
def execute (m : Machine) : Instruction Nibble → Effect Machine Progress
  | .sys target => { m.executed with log := [.ignoredRoutine target] }
  | .clearScreen => executed { m with display := .wiped }
  | .ret =>
    match m.stack.pop? with
    | some (target, rest) => executed { m with stack := rest, pc := target }
    | none => m.refused .stackUnderflow
  | .jump target => executed { m with pc := target }
  | .call target =>
    match m.stack.push? m.pc with
    | some stack => executed { m with stack, pc := target }
    | none => m.refused .stackOverflow
  | .skipEq x k => executed (m.skipIf (m.reg x = k))
  | .skipNe x k => executed (m.skipIf (m.reg x ≠ k))
  | .skipSame x y => executed (m.skipIf (m.reg x = m.reg y))
  | .setConst x k => executed (m.setReg x k)
  | .addConst x k => executed (m.setReg x (m.reg x + k))
  | .copy x y => executed (m.setReg x (m.reg y))
  | .orReg x y => executed (m.setReg x (m.reg x ||| m.reg y))
  | .andReg x y => executed (m.setReg x (m.reg x &&& m.reg y))
  | .xorReg x y => executed (m.setReg x (m.reg x ^^^ m.reg y))
  | .addReg x y =>
    let a := m.reg x
    let b := m.reg y
    executed ((m.setReg x (a + b)).setFlag (255 < a.toNat + b.toNat))
  | .subReg x y =>
    let a := m.reg x
    let b := m.reg y
    executed ((m.setReg x (a - b)).setFlag (b < a))
  | .shiftRight x =>
    let a := m.reg x
    executed ((m.setReg x (a / 2)).setFlag (a % 2 = 1))
  | .subFrom x y =>
    let a := m.reg x
    let b := m.reg y
    executed ((m.setReg x (b - a)).setFlag (a < b))
  | .shiftLeft x =>
    let a := m.reg x
    executed ((m.setReg x (a + a)).setFlag (128 ≤ a))
  | .skipDiffer x y => executed (m.skipIf (m.reg x ≠ m.reg y))
  | .setIndex target => executed { m with index := target }
  | .jumpOffset target =>
    executed { m with pc := UInt16.ofNat ((target.toNat + (m.reg 0).toNat) % 4096) }
  | .random x k =>
    let b := m.random.word.toUInt8 &&& k
    executed ({ m with random := m.random.next }.setReg x b)
  | .draw x y n =>
    let left := (m.reg x).toNat
    let top := (m.reg y).toNat
    match m.spriteAt n.val with
    | .ok sprite =>
      let drawn := { m with display := m.display.draw left top sprite }
      executed (drawn.setFlag (m.display.collides left top sprite))
    | .error fault => m.refused fault
  | .skipKey x =>
    match m.keypad.isPressed (m.reg x) with
    | .ok pressed => executed (m.skipIf pressed)
    | .error fault => m.refused fault
  | .skipNoKey x =>
    match m.keypad.isPressed (m.reg x) with
    | .ok pressed => executed (m.skipIf (!pressed))
    | .error fault => m.refused fault
  | .readDelay x => executed (m.setReg x m.delay)
  | .awaitKey x =>
    match m.keypad.first? with
    | some key => executed (m.setReg x key.toByte)
    | none => ⟨.ok .awaitingKey, { m with pc := addressBefore m.pc }, []⟩
  | .setDelay x => executed { m with delay := m.reg x }
  | .setSound x => executed { m with sound := m.reg x }
  | .addIndex x => executed { m with index := m.index + (m.reg x).toUInt16 }
  | .pointGlyph x => executed { m with index := Font.address (m.reg x) }
  | .storeDecimal x => m.store 0 (decimalDigits (m.reg x))
  | .storeRegs x => m.store 0 ((upTo x).map m.reg)
  | .loadRegs x => m.loadEach (upTo x)

/-- While no key is down, waiting for one only rewinds the program counter. -/
theorem execute_awaitKey_of_none {m : Machine} (x : Nibble) (h : m.keypad.first? = none) :
    m.execute (.awaitKey x) = ⟨.ok .awaitingKey, { m with pc := addressBefore m.pc }, []⟩ := by
  simp only [execute, h]

/-! ### Accesses through I are never refused -/

theorem toNat_offset (m : Machine) (k : Nat) :
    (m.offset k).toNat = (m.index.toNat + k) % 4096 := by
  simp only [offset, UInt16.toNat_mod, UInt16.toNat_add, UInt16.toNat_ofNat']
  show (m.index.toNat + k % 65536) % 65536 % 4096 = _
  omega

theorem read_offset (m : Machine) (k : Nat) :
    m.memory.read (m.offset k) = .ok (m.memory.byteAt (Address.wrap (m.index.toNat + k))) := by
  have inside : (m.offset k).toNat < 4096 := by rw [toNat_offset]; omega
  have place : (⟨(m.offset k).toNat, inside⟩ : Address) = Address.wrap (m.index.toNat + k) :=
    Fin.ext (toNat_offset m k)
  rw [Memory.read, dif_pos inside, place]

theorem write_offset (m : Machine) (k : Nat) (b : UInt8) :
    m.memory.write (m.offset k) b =
      .ok (m.memory.put (Address.wrap (m.index.toNat + k)) b) := by
  have inside : (m.offset k).toNat < 4096 := by rw [toNat_offset]; omega
  have place : (⟨(m.offset k).toNat, inside⟩ : Address) = Address.wrap (m.index.toNat + k) :=
    Fin.ext (toNat_offset m k)
  rw [Memory.write, dif_pos inside, place]

/-- Storing byte by byte is placing the bytes at I, counted on without bound:
wrapping twice is wrapping once. -/
theorem store_eq (m : Machine) (k : Nat) (bytes : List UInt8) :
    m.store k bytes =
      executed { m with memory := m.memory.place (m.index.toNat + k) bytes } := by
  induction bytes generalizing m k with
  | nil => rfl
  | cons b rest ih =>
      simp only [store, write_offset, Memory.place]
      exact ih _ _

/-- Loading register by register gives each of them the byte at its distance
past I. -/
theorem loadEach_eq (m : Machine) (xs : List Nibble) :
    m.loadEach xs = executed
      { m with
        registers := Vector.ofFn fun x =>
          if x ∈ xs then m.memory.byteAt (Address.wrap (m.index.toNat + x.val))
          else m.reg x } := by
  induction xs generalizing m with
  | nil =>
      have kept : m.registers = Vector.ofFn m.reg := by ext k hk; simp [reg, Nibble.get_eq_getElem]
      simp only [loadEach, List.not_mem_nil, if_false]
      rw [← kept]
  | cons x rest ih =>
      simp only [loadEach, read_offset]
      rw [ih]
      refine congrArg (fun v => executed { m with registers := v }) ?_
      ext k hk
      simp only [setReg, reg, Nibble.get_eq_getElem, Vector.getElem_ofFn, List.mem_cons,
        Fin.getElem_fin, Vector.getElem_set, Fin.ext_iff]
      grind

theorem spriteAt_eq (m : Machine) (height : Nat) :
    m.spriteAt height = .ok (m.memory.slice m.index.toNat height) := by
  have reads : (fun k => m.memory.read (m.offset k)) =
      fun k => pure (m.memory.byteAt (Address.wrap (m.index.toNat + k))) :=
    funext (read_offset m)
  rw [spriteAt, reads, List.mapM_pure]
  rfl

theorem mem_upTo {x y : Nibble} : y ∈ upTo x ↔ y.val ≤ x.val := by
  have bound := x.isLt
  simp only [upTo, List.mem_take_iff_getElem, List.getElem_finRange, List.length_finRange,
    Fin.ext_iff]
  constructor
  · rintro ⟨k, hk, h⟩
    simp at h
    omega
  · intro h
    exact ⟨y.val, by omega, by simp⟩

/-- The instruction that is carried out for one written by hand, if there is
one. Waiting for a key looks at its register only once a key is down. -/
def resolve? (m : Machine) : Instruction UInt8 → Option (Instruction Nibble)
  | .awaitKey x =>
    if m.keypad.first?.isNone then some (.awaitKey 0) else (Instruction.awaitKey x).narrow?
  | i => i.narrow?

/-- Carry out an instruction written by hand, if its operands name existing
registers and a possible height where they are looked at. -/
def executeWritten? (m : Machine) (i : Instruction UInt8) : Option (Effect Machine Progress) :=
  (m.resolve? i).map m.execute

/-- Carry out instructions written by hand up to the first fault. -/
def executeAll? (m : Machine) : List (Instruction UInt8) → Option (Effect Machine Unit)
  | [] => some ⟨.ok (), m, []⟩
  | i :: rest =>
    (m.executeWritten? i).bind fun e =>
      match e.outcome with
      | .error fault => some ⟨.error fault, e.state, e.log⟩
      | .ok _ =>
        (executeAll? e.state rest).map fun r => { r with log := e.log ++ r.log }

/-- Carry out the instruction that a word encodes. -/
def executeWord (m : Machine) (word : Word) : Effect Machine Progress :=
  match Instruction.decode? word with
  | some i => m.execute i
  | none => ⟨.error (.unknownOpcode word), m, [.unknownOpcode word]⟩

end Machine

end Chip8
