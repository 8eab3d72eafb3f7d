import Chip8.Pattern.Escape

/-!
# Square brackets

Classes of characters as they are written: single characters and ranges, kinds
and properties, classes in brackets of their own and named ones, and set
operations, which all bind alike and group to the left. The brackets that are
open at some place are kept as a list of levels, the innermost first.
-/

namespace Chip8.Pattern.Bracket

open Cursor Reading

/-- An open bracket. -/
structure Level where
  /-- The bracket, with what had to be read to know that it is one. -/
  span : Span
  negated : Bool
  /-- Where the items begin. -/
  start : Place
  /-- The items since the last operation, the latest first. -/
  items : List ClassSet
  /-- The last operation with its left side. -/
  pending : Option (SetOperation × ClassSet)

namespace Level

/-- What the bracket holds so far. -/
def contents (l : Level) : ClassSet :=
  let right := ClassSet.ofItems l.start l.items.reverse
  match l.pending with
  | none => right
  | some (o, left) => .operation o left right ⟨left.span.start, right.span.stop⟩

/-- With one more item. -/
def push (item : ClassSet) (l : Level) : Level := { l with items := item :: l.items }

/-- With an operation on what it holds so far. -/
def operate (o : SetOperation) (start : Place) (l : Level) : Level :=
  { l with start, items := [], pending := some (o, l.contents) }

end Level

/-- Signs at the cursor that stand for themselves though they would mean
something further on: hyphens, and a closing bracket if there are none. -/
def hyphens (opening : Place) : Nat → List ClassSet → Reading (List ClassSet)
  | 0, items => return items
  | n + 1, items => do
    let c ← get
    if !c.isAt '-' then return items
    set c.step
    if c.step.atEnd then complain .classUnclosed (.point opening)
    hyphens opening n (.atom (.literal '-' false) c.signSpan :: items)

/-- An opening bracket; the cursor is at it. -/
def opening : Reading Level := do
  let start := (← get).place
  let stepInside : Reading Unit := do
    modify step
    let c ← get
    if c.atEnd then complain .classUnclosed (c.since start)
  stepInside
  let negated := (← get).isAt '^'
  if negated then stepInside
  let inside ← get
  let items ← hyphens start inside.rest.length []
  let c ← get
  if items.isEmpty && c.isAt ']' then
    stepInside
    let item : ClassSet := .atom (.literal ']' false) c.signSpan
    return ⟨(← get).since start, negated, inside.place, [item], none⟩
  return ⟨c.since start, negated, inside.place, items, none⟩

/-- The ASCII class with a name. -/
def asciiClass? (name : List Char) : Option AsciiClass :=
  [("alnum".toList, AsciiClass.alnum), ("alpha".toList, .alpha), ("ascii".toList, .ascii),
    ("blank".toList, .blank), ("cntrl".toList, .cntrl), ("digit".toList, .digit),
    ("graph".toList, .graph), ("lower".toList, .lower), ("print".toList, .print),
    ("punct".toList, .punct), ("space".toList, .space), ("upper".toList, .upper),
    ("word".toList, .word), ("xdigit".toList, .xdigit)].lookup name

/-- A named class, if the cursor is in front of one. -/
def named : Reading (Option ClassSet) := do
  let c ← get
  if !(← eat ['[', ':']) then return none
  let negated ← eat ['^']
  let name := (← get).rest.takeWhile (· ≠ ':')
  modify (advance name.length)
  let closed ← eat [':', ']']
  match closed, asciiClass? name with
  | true, some k => return some (.ascii k negated ((← get).since c.place))
  | _, _ =>
    set c
    return none

/-- One sign or escape. -/
def atom : Reading Escape.Written := do
  let c ← get
  match c.sign? with
  | some '\\' => Escape.read
  | some sign =>
    set c.next
    return (.literal sign false, c.signSpan)
  | none => complain .classUnclosed c.point

/-- The sign that decides whether a hyphen at the cursor makes a range. In the
verbose style the blanks after the hyphen do not count, nor does one number
sign among them. -/
def afterHyphen? (c : Cursor) : Option Char :=
  let signs := c.rest.drop 1
  if c.verbose then
    match signs.dropWhile Text.isBlank with
    | '#' :: more => (more.dropWhile Text.isBlank).head?
    | more => more.head?
  else signs.head?

/-- Whether a hyphen at the cursor makes a range. -/
def isRange (c : Cursor) : Bool :=
  c.isAt '-' && afterHyphen? c ≠ some ']' && afterHyphen? c ≠ some '-'

/-- An atom as an item: anything but an anchor. -/
def item : Escape.Written → Reading ClassSet
  | (.anchor _, span) => complain .classEscape span
  | (a, span) => return .atom a span

/-- An atom as an end of a range: a character. -/
def limit : Escape.Written → Reading (Char × Bool)
  | (.literal c isByte, _) => return (c, isByte)
  | (_, span) => complain .classRangeEnd span

/-- A range or a single item, in a bracket that was opened somewhere. -/
def range (opened : Span) : Reading ClassSet := do
  let low ← atom
  modify skip
  let c ← get
  if c.atEnd then complain .classUnclosed opened
  if !isRange c then item low
  else
    set c.step
    if c.step.atEnd then complain .classUnclosed opened
    let high ← atom
    let (first, firstIsByte) ← limit low
    let (last, lastIsByte) ← limit high
    if last < first then complain .classRangeReversed ⟨low.2.start, high.2.stop⟩
    return .range first last firstIsByte lastIsByte low.2 high.2

/-- The set operation at the cursor. -/
def operation : Reading (Option SetOperation) := do
  if ← eat ['&', '&'] then return some .intersection
  if ← eat ['-', '-'] then return some .difference
  if ← eat ['~', '~'] then return some .symmetricDifference
  return none

/-- Read on until the outermost bracket is closed. Every round goes over at
least one sign. -/
def rounds : Nat → Level → List Level → Reading Tree
  | 0, inner, _ => complain .classUnclosed inner.span
  | n + 1, inner, outer => do
    modify skip
    let c ← get
    match c.sign? with
    | none => complain .classUnclosed inner.span
    | some '[' =>
      match ← named with
      | some k => rounds n (inner.push k) outer
      | none => rounds n (← opening) (inner :: outer)
    | some ']' =>
      set c.next
      let span : Span := ⟨inner.span.start, c.next.place⟩
      match outer with
      | [] => return .bracketed inner.contents inner.negated span
      | l :: more => rounds n (l.push (.bracketed inner.contents inner.negated span)) more
    | some _ =>
      match ← operation with
      | some o => rounds n (inner.operate o (← get).place) outer
      | none => rounds n (inner.push (← range inner.span)) outer

/-- A class in square brackets; the cursor is at the opening one. -/
def read : Reading Tree := do
  let inner ← opening
  rounds ((← get).rest.length + 1) inner []

end Chip8.Pattern.Bracket
