import Chip8.Pattern.Cursor

/-!
# Escapes

What a backslash introduces: a character by its code, a kind of character, a
property, an anchor, or a sign that stands for itself. Every reader here
starts at the sign after the backslash, which stands at the place `start`.
-/

namespace Chip8.Pattern.Escape

open Cursor Reading

/-- An atom with its span. -/
abbrev Written := Atom × Span

/-- Signs that spell the number of a character in hexadecimal. -/
def scalar? (digits : List Char) : Option Char :=
  let n := Numeral.ofSigns 16 digits
  if n.isValidChar then some (Char.ofNat n) else none

/-- Whether a sign is a hexadecimal digit. -/
def isHexDigit (c : Char) : Bool := (Numeral.digit? c).isSome

/-- The character with a number, read from a place on. -/
def character (digits : List Char) (start stop : Place) (isByte : Bool) : Reading Atom :=
  match scalar? digits with
  | some c => return .literal c (isByte && c.toNat ≤ 0xFF)
  | none => complain .hexNoCharacter ⟨start, stop⟩

/-- A set number of hexadecimal digits. The first one is at the cursor. -/
def hexDigits : Nat → Reading (List Char)
  | 0 => return []
  | n + 1 => do
    let c ← get
    match c.sign? with
    | none => complain .escapeUnfinished c.point
    | some sign =>
      if !isHexDigit sign then complain .hexDigit c.signSpan
      set c.step
      return sign :: (← hexDigits n)

/-- The number of a character in braces. -/
def bracedCode : Reading Atom := do
  let brace := (← get).place
  let inside := (← get).next.place
  modify step
  let digits ← collect isHexDigit
  let c ← get
  if c.atEnd then complain .escapeUnfinished (c.since brace)
  if !c.isAt '}' then complain .hexDigit c.signSpan
  set c.step
  if digits.isEmpty then complain .hexEmpty ((← get).since brace)
  character digits inside c.place false

/-- How many digits there are after a letter that announces a code. -/
def codeWidth (letter : Char) : Nat :=
  if letter = 'x' then 2 else if letter = 'u' then 4 else 8

/-- A character by its code. -/
def code (letter : Char) : Reading Atom := do
  modify step
  let c ← get
  if c.atEnd then complain .escapeUnfinished c.point
  if c.isAt '{' then bracedCode
  else
    let digits ← hexDigits (codeWidth letter)
    character digits c.place (← get).place (letter = 'x')

/-- The first way to cut signs in two around a word. -/
def around (word : List Char) : List Char → Option (List Char × List Char)
  | [] => if word.isEmpty then some ([], []) else none
  | c :: rest =>
    if word.isPrefixOf (c :: rest) then some ([], (c :: rest).drop word.length)
    else (around word rest).map fun (before, after) => (c :: before, after)

/-- The query that signs in braces stand for, and whether it is a denial. -/
def query (signs : List Char) : Query × Bool :=
  match around ['!', '='] signs, (around [':'] signs).or (around ['='] signs) with
  | some (name, value), _ => (.valued name value, true)
  | none, some (name, value) => (.valued name value, false)
  | none, none => (.named signs, false)

/-- A property, as one letter or in braces. -/
def property (negated : Bool) : Reading Atom := do
  modify step
  let c ← get
  match c.sign? with
  | none => complain .escapeUnfinished c.point
  | some '{' =>
    modify step
    let signs ← collect (· ≠ '}')
    let c ← get
    if c.atEnd then complain .escapeUnfinished c.point
    set c.next
    let (q, denied) := query signs
    return .property q (negated != denied)
  | some sign =>
    if sign = '\\' then complain .propertyForm c.signSpan
    set c.step
    return .property (.named [sign]) negated

/-- Whether a sign may be part of the name of a boundary. -/
def isBoundarySign (c : Char) : Bool := c.isAlpha || c = '-'

/-- The boundary with a name. -/
def boundary? (name : List Char) : Option Anchor :=
  [("start".toList, Anchor.word .start), ("end".toList, .word .stop),
    ("start-half".toList, .word .startHalf), ("end-half".toList, .word .stopHalf)].lookup name

/-- The name of a boundary in braces, if a name it is: a count may stand there
as well. -/
def namedBoundary (start : Place) : Reading Anchor := do
  let brace ← get
  if !brace.isAt '{' then return .word .edge
  modify step
  let inside ← get
  match inside.sign? with
  | none => complain .boundaryOrCountUnfinished (inside.since start)
  | some sign =>
    if !isBoundarySign sign then
      set brace
      return .word .edge
    let name ← collect isBoundarySign
    let c ← get
    if !c.isAt '}' then complain .boundaryUnclosed (c.since brace.place)
    set c.next
    match boundary? name with
    | some a => return a
    | none => complain .boundaryUnknown (c.since inside.place)

/-- Whether a sign may be escaped without need. Letters and digits may not:
they mean something, or may do so one day; nor may angle brackets. -/
def isPlain (c : Char) : Bool := c.toNat < 0x80 && !c.isAlphanum && c ≠ '<' && c ≠ '>'

/-- The characters that have a letter of their own. -/
def control? (letter : Char) : Option Char :=
  [('a', Char.ofNat 0x07), ('f', Char.ofNat 0x0C), ('t', '\t'), ('n', '\n'), ('r', '\r'),
    ('v', Char.ofNat 0x0B)].lookup letter

/-- The anchors that have a sign of their own. -/
def anchor? (sign : Char) : Option Anchor :=
  [('A', Anchor.textStart), ('z', .textEnd), ('B', .word .inside), ('<', .word .start),
    ('>', .word .stop)].lookup sign

/-- The kinds of characters that have a letter of their own; the capital
letter means all others. -/
def kind? (letter : Char) : Option Kind :=
  [('d', Kind.digit), ('s', .space), ('w', .word)].lookup letter.toLower

/-- What a backslash and one more sign stand for, which the cursor has gone
over. -/
def single (sign : Char) (span : Span) : Reading Atom := do
  if isPlain sign then return .literal sign false
  match control? sign, anchor? sign, kind? sign with
  | some c, _, _ => return .literal c false
  | _, some a, _ => return .anchor a
  | _, _, some k => return .kind k sign.isUpper
  | _, _, _ =>
    if sign = 'b' then return .anchor (← namedBoundary span.start)
    complain .escapeUnknown span

/-- An escape; the cursor is at the backslash. -/
def read : Reading Written := do
  let start := (← get).place
  modify next
  let c ← get
  let atom ←
    match c.sign? with
    | none => complain .escapeUnfinished (c.since start)
    | some sign =>
      if sign.isDigit then complain .backreference (c.next.since start)
      else if sign = 'x' || sign = 'u' || sign = 'U' then code sign
      else if sign = 'p' || sign = 'P' then property (sign = 'P')
      else
        set c.next
        single sign (c.next.since start)
  return (atom, (← get).since start)

end Chip8.Pattern.Escape
