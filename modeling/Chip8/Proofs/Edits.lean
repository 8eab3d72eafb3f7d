import Chip8.Proofs.Latest
import Chip8.Proofs.Placing

/-!
# What memory holds after edits

Whatever is done to memory from outside is an `Edit`: bytes to be put in a row
from some place on. An edit whose bytes do not all fit is refused and leaves
memory as it was; one that fits puts all of them (`on_eq`). So after any edits
a place holds the byte that the last of them to reach it put there
(`byteAt_edits`).

A block is checked as a whole and single bytes are checked one by one, and yet
storing a block is storing its bytes one after another
(`writeBlock_eq_writeEach`): both are refused for the same bytes and with the
same address.
-/

namespace Chip8

/-- Something to do to memory. -/
inductive Edit where
  /-- Store a byte. -/
  | write (address : UInt16) (b : UInt8)
  /-- Store bytes in a row. -/
  | writeBlock (start : UInt16) (bytes : List UInt8)
  /-- Store a program. -/
  | install (program : List UInt8)
  /-- Put the font where programs expect it. -/
  | font
  /-- Put the font there and zero everywhere else. -/
  | clear

namespace Edit

/-- The memory that an edit leaves, or why it is refused. -/
def on (m : Memory) : Edit → Except Fault Memory
  | write address b => m.write address b
  | writeBlock start bytes => m.writeBlock start bytes
  | install program => m.install program
  | font => .ok m.withFont
  | clear => .ok .fresh

/-- Where the bytes of an edit begin. -/
def start : Edit → Nat
  | write address _ => address.toNat
  | writeBlock start _ => start.toNat
  | install _ => 0x200
  | font | clear => 0

/-- The bytes that an edit puts in a row. -/
def bytes : Edit → List UInt8
  | write _ b => [b]
  | writeBlock _ bytes => bytes
  | install program => program
  | font => Font.bytes
  | clear => Font.bytes ++ List.replicate 4016 0

/-- Whether all bytes of an edit have a place. -/
def Fits (e : Edit) : Prop := e.start + e.bytes.length ≤ 4096

instance (e : Edit) : Decidable e.Fits := inferInstanceAs (Decidable (_ ≤ _))

/-- What a refusal of an edit says. -/
def fault : Edit → Fault
  | install program => .programTooLarge program.length 3584
  | e => .outOfBounds (max e.start 4096)

/-- The byte that an edit puts at a place, if it fits and reaches there. -/
def puts? (e : Edit) (a : Nat) : Option UInt8 :=
  if e.Fits ∧ e.start ≤ a then e.bytes[a - e.start]? else none

theorem length_font : Font.bytes.length = 80 := rfl

theorem length_clear : clear.bytes.length = 4096 := by
  show (Font.bytes ++ List.replicate 4016 0).length = 4096
  rw [List.length_append, List.length_replicate, length_font]

theorem fits_clear : clear.Fits := by
  rw [Fits, length_clear]
  exact Nat.le_refl 4096

/-- Clearing puts the font where it belongs, and zero at every other place. -/
theorem getElem?_clear {a : Nat} (inside : a < 4096) :
    clear.bytes[a]? = some (Font.bytes[a]?.getD 0) := by
  have font := length_font
  show (Font.bytes ++ List.replicate 4016 0)[a]? = _
  by_cases glyphs : a < 80
  · rw [List.getElem?_append_left (by omega), List.getElem?_eq_getElem (by omega)]
    rfl
  · have zero : a - Font.bytes.length < 4016 := by omega
    rw [List.getElem?_append_right (by omega), List.getElem?_replicate, if_pos zero,
      List.getElem?_eq_none (by omega)]
    rfl

end Edit

namespace Memory

/-- Memory after an edit. One that is refused leaves it as it was. -/
def edit (m : Memory) (e : Edit) : Memory :=
  match e.on m with
  | .ok after => after
  | .error _ => m

/-- Store bytes one after another, each at the address after the last one's,
until one is refused. -/
def writeEach (m : Memory) (address : UInt16) : List UInt8 → Except Fault Memory
  | [] => .ok m
  | b :: rest =>
    match m.write address b with
    | .ok after => after.writeEach (address + 1) rest
    | .error fault => .error fault

variable {m : Memory}

/-- Of a block that ends in memory, each byte lies as far from the start as the
numbers say. -/
theorem byteAt_place_inside (m : Memory) {start : Nat} {bytes : List UInt8}
    (fits : start + bytes.length ≤ 4096) (a : Address) :
    (m.place start bytes).byteAt a =
      (if start ≤ a.val then bytes[a.val - start]? else none).getD (m.byteAt a) := by
  have short : bytes.length ≤ 4096 := by omega
  rw [byteAt_place m start short]
  by_cases after : start ≤ a.val
  · rw [Address.past_of_le after, if_pos after]
  · rw [if_neg after]
    by_cases inside : start < 4096
    · have beyond : bytes.length ≤ a.past start := by
        rw [Address.past_of_lt (Nat.not_le.1 after) inside]
        omega
      rw [List.getElem?_eq_none beyond]
    · -- a block that begins at the end of memory is empty
      have none : bytes = [] := List.length_eq_zero_iff.1 (by omega)
      rw [none]
      rfl

theorem put_eq_place {address : UInt16} (inside : address.toNat < 4096) (b : UInt8) :
    m.put ⟨address.toNat, inside⟩ b = m.place address.toNat [b] := by
  rw [← Address.wrap_of_lt inside]
  rfl

/-- Memory is its bytes. -/
theorem ext_byteAt {m n : Memory} (same : ∀ a, m.byteAt a = n.byteAt a) : m = n := by
  obtain ⟨cells⟩ := m
  obtain ⟨cells'⟩ := n
  congr 1
  apply Vector.ext
  intro k inside
  exact same ⟨k, inside⟩

/-- Putting zero everywhere after the font leaves nothing of what was there. -/
theorem place_clear (m : Memory) : m.place 0 Edit.clear.bytes = fresh := by
  apply ext_byteAt
  intro a
  have font : 0 + Font.bytes.length ≤ 4096 := by
    rw [Edit.length_font]
    decide
  show (m.place Edit.clear.start Edit.clear.bytes).byteAt a = (blank.place 0 Font.bytes).byteAt a
  rw [byteAt_place_inside m Edit.fits_clear, byteAt_place_inside blank font]
  show (Edit.clear.bytes[a.val]?).getD _ = (Font.bytes[a.val]?).getD _
  rw [Edit.getElem?_clear a.isLt, byteAt_blank]
  rfl

/-- An edit that fits puts its bytes in a row, and any other is refused. -/
theorem on_eq (m : Memory) (e : Edit) :
    e.on m = if e.Fits then .ok (m.place e.start e.bytes) else .error e.fault := by
  cases e with
  | write address b =>
      show m.write address b = _
      by_cases inside : address.toNat < 4096
      · have fits : (Edit.write address b).Fits := inside
        rw [if_pos fits, write, dif_pos inside, put_eq_place inside]
        rfl
      · have large : max address.toNat 4096 = address.toNat := by omega
        have misfit : ¬ (Edit.write address b).Fits := inside
        rw [if_neg misfit, write, dif_neg inside]
        show _ = Except.error (Fault.outOfBounds (max address.toNat 4096))
        rw [large]
  | writeBlock start bytes => rfl
  | install program =>
      have room : (Edit.install program).Fits ↔ program.length ≤ programSpace := by
        show 512 + program.length ≤ 4096 ↔ program.length ≤ 3584
        omega
      show m.install program = _
      by_cases fits : program.length ≤ programSpace
      · rw [if_pos (room.2 fits), install, if_pos fits]
        rfl
      · rw [if_neg (mt room.1 fits), install, if_neg fits]
        rfl
  | font => rfl
  | clear =>
      rw [if_pos Edit.fits_clear]
      exact congrArg Except.ok m.place_clear.symm

theorem exists_on_iff {e : Edit} : (∃ after, e.on m = .ok after) ↔ e.Fits := by
  rw [on_eq]
  by_cases fits : e.Fits
  · rw [if_pos fits]
    exact ⟨fun _ => fits, fun _ => ⟨_, rfl⟩⟩
  · rw [if_neg fits]
    constructor
    · rintro ⟨_, impossible⟩
      cases impossible
    · exact fun fits' => absurd fits' fits

theorem on_eq_error_iff {e : Edit} {fault : Fault} :
    e.on m = .error fault ↔ ¬ e.Fits ∧ fault = e.fault := by
  rw [on_eq]
  by_cases fits : e.Fits
  · rw [if_pos fits]
    constructor
    · intro impossible
      cases impossible
    · exact fun both => absurd fits both.1
  · rw [if_neg fits]
    constructor
    · intro same
      exact ⟨fits, (Except.error.inj same).symm⟩
    · rintro ⟨_, rfl⟩
      rfl

theorem edit_eq (m : Memory) (e : Edit) :
    m.edit e = if e.Fits then m.place e.start e.bytes else m := by
  rw [edit, on_eq]
  by_cases fits : e.Fits
  · rw [if_pos fits, if_pos fits]
  · rw [if_neg fits, if_neg fits]

/-- A place holds what the edit puts there, or what it held before. -/
theorem byteAt_edit (m : Memory) (e : Edit) (a : Address) :
    (m.edit e).byteAt a = (e.puts? a.val).getD (m.byteAt a) := by
  rw [edit_eq, Edit.puts?]
  by_cases fits : e.Fits
  · rw [if_pos fits, byteAt_place_inside m fits]
    simp only [fits, true_and]
  · have nothing : ¬ (e.Fits ∧ e.start ≤ a.val) := fun both => fits both.1
    rw [if_neg fits, if_neg nothing]
    rfl

/-- After any edits a place holds what the last to reach it put there. -/
theorem byteAt_edits (m : Memory) (edits : List Edit) (a : Address) :
    (edits.foldl edit m).byteAt a =
      (edits.reverse.findSome? (·.puts? a.val)).getD (m.byteAt a) :=
  see_foldl (·.byteAt a) (·.puts? a.val) (fun m e _ => m.byteAt_edit e a) m

theorem read_eq (m : Memory) (address : UInt16) :
    m.read address = if address.toNat < 4096 then .ok (m.byteAt (Address.wrap address.toNat))
      else .error (.outOfBounds address.toNat) := by
  by_cases inside : address.toNat < 4096
  · rw [read, dif_pos inside, if_pos inside, Address.wrap_of_lt inside]
  · rw [read, dif_neg inside, if_neg inside]

/-- Storing a block is storing its bytes one after another. Nothing is known
of a block without bytes, which has no first one to be refused. -/
theorem writeBlock_eq_writeEach (m : Memory) (start : UInt16) {bytes : List UInt8}
    (some : bytes ≠ []) : m.writeBlock start bytes = m.writeEach start bytes := by
  induction bytes generalizing m start with
  | nil => exact absurd rfl some
  | cons b rest ih =>
      by_cases inside : start.toNat < 4096
      · have first : m.write start b = .ok (m.place start.toNat [b]) := by
          rw [write, dif_pos inside, put_eq_place inside]
        rw [writeEach, first]
        by_cases more : rest = []
        · rw [more]
          exact if_pos inside
        · have next : (start + 1).toNat = start.toNat + 1 := by
            show (start.toNat + 1) % 65536 = start.toNat + 1
            omega
          show _ = (m.place start.toNat [b]).writeEach (start + 1) rest
          rw [← ih _ (start + 1) more, writeBlock, writeBlock, next, List.length_cons,
            show b :: rest = [b] ++ rest from rfl, place_append]
          -- the first address past the end is the same seen from either byte
          have limit : max start.toNat 4096 = max (start.toNat + 1) 4096 := by omega
          rw [limit, Nat.add_assoc, Nat.add_comm 1 rest.length]
          rfl
      · have large : max start.toNat 4096 = start.toNat := by omega
        have misfit : ¬ start.toNat + (b :: rest).length ≤ 4096 := by
          rw [List.length_cons]
          omega
        rw [writeEach, write, dif_neg inside, writeBlock, if_neg misfit, large]

end Memory

/-- **Memory holds what was put there last.** After any edits of blank memory an
address below 4096 reads as the byte that the last edit to reach it put there,
or zero if none has reached it; any other address is refused. The edits that
count are those that were carried out; a cleared memory is the font and zeros.
A byte is refused just if its address is past the end, and a program just if it
has more than 3584 bytes. A block is refused just if it ends past the end, with
the address of its first byte that has no place: a block that is not empty is
stored, or refused, as its bytes are one after another. What is refused changes
nothing. -/
theorem memory_holds_what_was_put_last :
    (∀ (edits : List Edit) (address : UInt16),
      (edits.foldl Memory.edit .blank).read address =
        if address.toNat < 4096 then
          .ok ((edits.reverse.findSome? (·.puts? address.toNat)).getD 0)
        else .error (.outOfBounds address.toNat)) ∧
    (∀ (m : Memory) (e : Edit), (∃ after, e.on m = .ok after) ↔ e.Fits) ∧
    (∀ a < 4096, Edit.clear.puts? a = some (Font.bytes[a]?.getD 0)) ∧
    (∀ (m : Memory) address b fault, m.write address b = .error fault ↔
      4096 ≤ address.toNat ∧ fault = .outOfBounds address.toNat) ∧
    (∀ (m : Memory) start bytes fault, m.writeBlock start bytes = .error fault ↔
      4096 < start.toNat + bytes.length ∧ fault = .outOfBounds (max start.toNat 4096)) ∧
    (∀ (m : Memory) start bytes, bytes ≠ [] →
      m.writeBlock start bytes = m.writeEach start bytes) ∧
    (∀ (m : Memory) program fault, m.install program = .error fault ↔
      3584 < program.length ∧ fault = .programTooLarge program.length 3584) ∧
    (∀ (m : Memory) (e : Edit) fault, e.on m = .error fault →
      ∀ a, (m.edit e).byteAt a = m.byteAt a) := by
  refine ⟨?_, fun _ _ => Memory.exists_on_iff, ?_, ?_, ?_, ?_, ?_, ?_⟩
  · intro edits address
    rw [Memory.read_eq, Memory.byteAt_edits, Memory.byteAt_blank]
    by_cases inside : address.toNat < 4096
    · rw [if_pos inside, if_pos inside, Address.wrap_of_lt inside]
    · rw [if_neg inside, if_neg inside]
  · intro a inside
    have reached : Edit.clear.Fits ∧ Edit.clear.start ≤ a := ⟨Edit.fits_clear, Nat.zero_le a⟩
    rw [Edit.puts?, if_pos reached]
    exact Edit.getElem?_clear inside
  · intro m address b fault
    rw [← Nat.not_lt]
    constructor
    · intro refused
      obtain ⟨misfit, rfl⟩ := Memory.on_eq_error_iff (e := .write address b).1 refused
      have outside : ¬ address.toNat < 4096 := misfit
      have large : max address.toNat 4096 = address.toNat := by omega
      exact ⟨outside, congrArg Fault.outOfBounds large⟩
    · rintro ⟨outside, rfl⟩
      exact dif_neg outside
  · intro m start bytes fault
    rw [← Nat.not_le]
    exact Memory.on_eq_error_iff (e := .writeBlock start bytes)
  · intro m start bytes some
    exact m.writeBlock_eq_writeEach start some
  · intro m program fault
    have large : 3584 < program.length ↔ ¬ (Edit.install program).Fits := by
      show _ ↔ ¬ 512 + program.length ≤ 4096
      omega
    rw [large]
    exact Memory.on_eq_error_iff (e := .install program)
  · intro m e fault refused a
    rw [Memory.edit, refused]

end Chip8
