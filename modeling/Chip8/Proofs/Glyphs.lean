import Chip8.Proofs.Encoding
import Chip8.Proofs.Footprint
import Chip8.Proofs.Safety

/-!
# Glyphs

As long as the font lies where programs expect it (`Memory.HasFont`), a pointed
index register and five rows draw a digit: the address that `Fx29` computes is
where the glyph of the digit begins (`Memory.HasFont.slice_address`), and a sprite
that is drawn there is that glyph (`execute_glyph`).

A new machine has the font. Loads and resets leave it alone, a cold reset puts it
back, and an instruction reaches it only by storing past the end of memory and
around to the beginning, or by pointing there to begin with. So it stays for as
long as every attempted instruction spares it (`hasFont_atEnd`).
-/

namespace Chip8

/-- The rows of the glyph of a byte's low digit, from the top. -/
def Font.glyph (digit : UInt8) : Sprite := (Font.glyphs.get (Fin.ofNat 16 digit.toNat)).toList

/-- The font lies where programs expect it. -/
def Memory.HasFont (m : Memory) : Prop := m.slice Font.start 80 = Font.bytes

instance (m : Memory) : Decidable m.HasFont := inferInstanceAs (Decidable (_ = _))

/-- An attempted instruction stores nothing over the font: every byte that it
stores goes to a place after it. -/
def Attempt.SparesFont (t : Attempt) : Prop :=
  ∀ k < t.instruction.stored, 80 ≤ (Address.wrap (t.before.index.toNat + k)).val

instance (t : Attempt) : Decidable t.SparesFont :=
  inferInstanceAs (Decidable (∀ k < _, _))

/-! ## Where a glyph lies -/

namespace Font

theorem length_glyph (digit : UInt8) : (glyph digit).length = 5 := Vector.length_toList

theorem toNat_address (digit : UInt8) : (address digit).toNat = 5 * (digit.toNat % 16) := by
  simp only [address, start, height, UInt16.toNat_ofNat']
  omega

theorem short_glyph (digit : UInt8) : (glyph digit).length ≤ 32 := by
  rw [length_glyph]
  decide

/-- A glyph hits a pixel if a bit of one of its rows lands there. -/
theorem one_le_hits_glyph_iff {x y : Nat} {digit : UInt8} {p : Position} :
    1 ≤ Sprite.hits x y (glyph digit) p ↔ ∃ row : Fin height, ∃ column < 8,
      ((glyphs.get (Fin.ofNat 16 digit.toNat)).get row).toNat.testBit (7 - column) = true ∧
        (x + column) % 64 = p.x.val ∧ (y + row.val) % 32 = p.y.val := by
  have get (row : Fin height) : (glyph digit).getD row.val 0 =
      (glyphs.get (Fin.ofNat 16 digit.toNat)).get row := by
    rw [glyph, List.getD_eq_getElem?_getD, Vector.getElem?_toList,
      Vector.getElem?_eq_getElem row.isLt]
    rfl
  rw [Sprite.one_le_hits_iff, length_glyph, Fin.exists_iff]
  constructor
  · rintro ⟨row, inside, bit⟩
    exact ⟨row, inside, get ⟨row, inside⟩ ▸ bit⟩
  · rintro ⟨row, inside, bit⟩
    exact ⟨row, inside, (get ⟨row, inside⟩).symm ▸ bit⟩

/-- In the font, each glyph comes five bytes after the one before. -/
theorem take_drop_bytes (digit : UInt8) :
    (bytes.drop (5 * (digit.toNat % 16))).take 5 = glyph digit := by
  have each : ∀ d : Nibble, (bytes.drop (5 * d.val)).take 5 = (glyphs.get d).toList := by decide
  exact each (Fin.ofNat 16 digit.toNat)

end Font

namespace Memory

variable {m n : Memory}

/-- A slice that lies within another is a piece of it. -/
theorem slice_within (m : Memory) (start : Nat) {skipped count total : Nat}
    (within : skipped + count ≤ total) :
    m.slice (start + skipped) count = ((m.slice start total).drop skipped).take count := by
  apply List.ext_getElem
  · rw [length_slice, List.length_take, List.length_drop, length_slice]
    omega
  · intro k _ _
    simp only [slice, List.getElem_map, List.getElem_range, List.getElem_take, List.getElem_drop,
      Nat.add_assoc]

/-- Where `Fx29` points, the glyph of the digit is read. -/
theorem HasFont.slice_address (font : m.HasFont) (digit : UInt8) :
    m.slice (Font.address digit).toNat 5 = Font.glyph digit := by
  have within : 5 * (digit.toNat % 16) + 5 ≤ 80 := by omega
  have piece := m.slice_within Font.start within
  rw [font, Font.take_drop_bytes] at piece
  rw [Font.toNat_address, ← piece, Font.start, Nat.zero_add]

theorem hasFont_fresh : fresh.HasFont := slice_place blank Font.start (by decide)

/-- Only the first eighty bytes count. -/
theorem HasFont.congr (font : m.HasFont)
    (same : ∀ a : Address, a.val < 80 → n.byteAt a = m.byteAt a) : n.HasFont := by
  rw [HasFont, ← font]
  apply List.map_congr_left
  intro k inside
  have bound : k < 80 := List.mem_range.1 inside
  apply same
  show (0 + k) % 4096 < 80
  omega

end Memory

namespace Machine

variable {m : Machine} {op : Operation} {ops : List Operation} {e : Effect Machine Answer}
  {h : List Moment}

/-! ## Drawing a glyph -/

theorem execute_glyph (font : m.memory.HasFont) (x a b : Nibble) :
    (m.execute (.pointGlyph x)).state.execute (.draw a b 5) =
      executed (setFlag
        { m with
          index := Font.address (m.reg x)
          display := m.display.draw (m.reg a).toNat (m.reg b).toNat (Font.glyph (m.reg x)) }
        (m.display.collides (m.reg a).toNat (m.reg b).toNat (Font.glyph (m.reg x)))) := by
  rw [execute_draw]
  show executed (setFlag
    { m with
      index := Font.address (m.reg x)
      display := m.display.draw (m.reg a).toNat (m.reg b).toNat
        (m.memory.slice (Font.address (m.reg x)).toNat 5) }
    (m.display.collides (m.reg a).toNat (m.reg b).toNat
      (m.memory.slice (Font.address (m.reg x)).toNat 5))) = _
  rw [font.slice_address]

theorem executeWord_pointGlyph (m : Machine) (x : Nibble) :
    m.executeWord (.ofConstant 0xF x 0x29) = m.execute (.pointGlyph x) := by
  have decoded : Instruction.decode? (.ofConstant 0xF x 0x29) = some (.pointGlyph x) :=
    Instruction.decode?_encode (i := .pointGlyph x) trivial nofun nofun
  simp only [executeWord, decoded]

theorem executeWord_draw (m : Machine) (x y n : Nibble) :
    m.executeWord (.ofNibbles 0xD x y n) = m.execute (.draw x y n) := by
  have decoded : Instruction.decode? (.ofNibbles 0xD x y n) = some (.draw x y n) :=
    Instruction.decode?_encode (i := .draw x y n) trivial nofun nofun
  simp only [executeWord, decoded]

/-! ## The font stays -/

theorem not_storesAt_of_sparesFont {t : Attempt} (spares : t.SparesFont) {a : Address}
    (low : a.val < 80) : ¬ t.StoresAt a := by
  rintro ⟨k, few, rfl⟩
  have past := spares k few
  omega

theorem hasFont_perform? (font : m.memory.HasFont) (does : m.perform? op = some e)
    (spared : ∀ t ∈ m.attempts op, t.SparesFont) : e.state.memory.HasFont := by
  by_cases cold : op = .coldReset
  · -- whatever became of the font, it is put back
    subst cold
    cases does
    exact Memory.hasFont_fresh
  · refine font.congr fun a low => ?_
    have below : a.val < 0x200 := by omega
    exact byteAt_perform? does below cold fun t among =>
      not_storesAt_of_sparesFont (spared t among) low

theorem hasFont_atEnd (font : m.memory.HasFont) (run : m.history? ops = some h)
    (spared : ∀ x ∈ h, ∀ t ∈ x.attempts, t.SparesFont) : (m.atEnd h).memory.HasFont := by
  induction ops generalizing m h with
  | nil => cases run; exact font
  | cons op ops ih =>
      obtain ⟨e, rest, does, later, rfl⟩ := history?_cons_iff.1 run
      have now := hasFont_perform? font does (spared ⟨m, op, e⟩ List.mem_cons_self)
      have last := ih now later fun x among => spared x (List.mem_cons_of_mem _ among)
      exact last

end Machine

/-- **A digit is drawn as its glyph.** Take a machine with the font in its place, and
whatever else in memory, in its registers and on its screen. The word `Fx29` and then
the word `Dab5` are both carried out. A pixel changes just if a bit of one of the five
rows of the glyph of the low digit of Vx lands there, counted from Va and Vb around
the screen. VF is one if a pixel that was lit is no longer so and zero otherwise.
Apart from the display and VF only the index register is another: memory is as it
was. And a machine that is used from new has the font in its place for as long as
what every attempted `Fx33` and `Fx55` stores goes past it, counted around memory. -/
theorem digit_is_drawn_as_glyph :
    (∀ m : Machine, m.memory.HasFont → ∀ x a b : Nibble,
      let pointed := m.executeWord (.ofConstant 0xF x 0x29)
      let drawn := pointed.state.executeWord (.ofNibbles 0xD a b 0x5)
      let before := m.display.screen
      let after := drawn.state.display.screen
      pointed.outcome = .ok .executed ∧ drawn.outcome = .ok .executed ∧
      (∀ p, after.pixel p ≠ before.pixel p ↔ ∃ row : Fin Font.height, ∃ column < 8,
        ((Font.glyphs.get (Fin.ofNat 16 (m.reg x).toNat)).get row).toNat.testBit (7 - column) =
            true ∧
          ((m.reg a).toNat + column) % 64 = p.x.val ∧
          ((m.reg b).toNat + row.val) % 32 = p.y.val) ∧
      (drawn.state.reg 0xF = 1 ↔ ∃ p, before.pixel p = true ∧ after.pixel p = false) ∧
      (drawn.state.reg 0xF = 0 ↔ ¬ ∃ p, before.pixel p = true ∧ after.pixel p = false) ∧
      drawn.state.memory = m.memory ∧
      drawn.state =
        { m.setReg 0xF (drawn.state.reg 0xF) with
          index := Font.address (m.reg x)
          display := m.display.draw (m.reg a).toNat (m.reg b).toNat (Font.glyph (m.reg x)) }) ∧
    ∀ (random : Generator) (ops : List Operation), (∀ op ∈ ops, op.Ordinary) →
      ∃ h, (Machine.new random).history? ops = some h ∧
        ((∀ x ∈ h, ∀ t ∈ x.attempts, t.SparesFont) →
          ((Machine.new random).atEnd h).memory.HasFont) := by
  refine ⟨?drawing, ?use⟩
  case drawing =>
    intro m font x a b pointed drawn before after
    let glyph := Font.glyph (m.reg x)
    let shown := m.display.draw (m.reg a).toNat (m.reg b).toNat glyph
    let collides := m.display.collides (m.reg a).toNat (m.reg b).toNat glyph
    have short : glyph.length ≤ 32 := Font.short_glyph (m.reg x)
    have points : pointed = m.execute (.pointGlyph x) := m.executeWord_pointGlyph x
    have draws : drawn = Machine.executed (Machine.setFlag
        { m with index := Font.address (m.reg x), display := shown } collides) := by
      rw [← Machine.execute_glyph font x a b, ← points]
      exact pointed.state.executeWord_draw a b 5
    have display : drawn.state.display = shown := congrArg (·.state.display) draws
    have flag : drawn.state.reg 0xF = if collides then 1 else 0 := by
      rw [draws]
      exact (Machine.reg_setReg _ 0xF 0xF _).trans (if_pos rfl)
    have turned : collides = true ↔ ∃ p, before.pixel p = true ∧ after.pixel p = false := by
      simp only [after, display]
      exact m.display.collides_iff_of_short short
    refine ⟨?_, ?_, ?_, ?_, ?_, ?_, ?_⟩
    · rw [points]
      rfl
    · rw [draws]
      rfl
    · intro p
      simp only [after, display]
      rw [← Font.one_le_hits_glyph_iff]
      exact m.display.pixel_draw_ne_iff_of_short short p
    · rw [← turned, flag]
      simp
    · rw [← turned, flag]
      simp
    · rw [draws]
      rfl
    · rw [flag, draws]
      rfl
  case use =>
    intro random ops ordinary
    obtain ⟨h, run⟩ := Machine.exists_history? Machine.exists_perform? (.new random) ordinary
    exact ⟨h, run, Machine.hasFont_atEnd Memory.hasFont_fresh run⟩

/-- Two registers are stored right after the font. Then the glyph of B, which is the
low digit of `2B`, is drawn over the right edge of the screen. -/
theorem digit_is_drawn_as_glyph_over_edge :
    let start := Machine.ofSeed 8
    let ops : List Operation :=
      [.load [0x60, 0x2B, 0x61, 0x3E, 0xA0, 0x50, 0xF1, 0x55], .step, .step, .step, .step]
    ∃ h, start.history? ops = some h ∧ (∀ x ∈ h, ∀ t ∈ x.attempts, t.SparesFont) ∧
      let m := start.atEnd h
      let drawn := (m.executeWord 0xF029).state.executeWord 0xD105
      m.memory.HasFont ∧ m.memory.byteAt 0x050 = 0x2B ∧ drawn.outcome = .ok .executed ∧
        drawn.state.reg 0xF = 0 ∧
        drawn.state.display.screen.pixel ⟨62, 11⟩ ≠ m.display.screen.pixel ⟨62, 11⟩ ∧
        drawn.state.display.screen.pixel ⟨0, 11⟩ ≠ m.display.screen.pixel ⟨0, 11⟩ := by
  intro start ops
  have ordinary : ∀ op ∈ ops, op.Ordinary := by
    intro op among
    simp only [ops, List.mem_cons, List.not_mem_nil, or_false] at among
    rcases among with rfl | rfl | rfl | rfl | rfl
    · exact .load _
    all_goals exact .step
  obtain ⟨drawing, use⟩ := digit_is_drawn_as_glyph
  obtain ⟨h, run, keeps⟩ := use (.ofSeed 8) ops ordinary
  have spares : (start.history? ops).map
      (fun h => decide (∀ x ∈ h, ∀ t ∈ x.attempts, t.SparesFont)) = some true := by
    decide +kernel
  have reached : (start.history? ops).map (fun h =>
      let m := start.atEnd h
      (m.reg 0x0, m.reg 0x1, m.memory.byteAt 0x050, m.display)) =
      some (0x2B, 0x3E, 0x2B, .initial) := by
    decide +kernel
  change start.history? ops = some h at run
  rw [run] at spares reached
  have spared : ∀ x ∈ h, ∀ t ∈ x.attempts, t.SparesFont :=
    of_decide_eq_true (Option.some.inj spares)
  simp only [Option.map_some, Option.some.injEq, Prod.mk.injEq] at reached
  obtain ⟨digit, left, stored, blank⟩ := reached
  have font : (start.atEnd h).memory.HasFont := keeps spared
  obtain ⟨-, done, pixels, -, flag, -⟩ := drawing (start.atEnd h) font 0x0 0x1 0x0
  rw [digit, left] at pixels
  refine ⟨h, run, spared, font, stored, done, flag.2 ?_, ?_, ?_⟩
  · -- on a blank screen nothing can go out
    rintro ⟨p, lit, -⟩
    rw [blank] at lit
    exact absurd lit (by simp [Display.initial, Screen.pixel_blank])
  · exact (pixels ⟨62, 11⟩).2 ⟨⟨0, by decide⟩, 0, by decide⟩
  · exact (pixels ⟨0, 11⟩).2 ⟨⟨0, by decide⟩, 2, by decide⟩

end Chip8
