import Chip8.Pattern.Cursor

/-!
# Groups

What an opening parenthesis begins: a group, with or without a name and flags,
or only flags that hold from there on.
-/

namespace Chip8.Pattern.Group

open Cursor Reading

/-- What an opening parenthesis and the signs that belong to it say. -/
inductive Opening where
  /-- Flags that hold from there on. -/
  | flags (items : List FlagItem)
  /-- A group with flags; it has a number if it is remembered. -/
  | group (index : Option Nat) (items : List FlagItem)

/-- Whether a sign may stand in the name of a group, perhaps as its first. -/
def isNameSign (isFirst : Bool) (c : Char) : Bool :=
  c = '_' || Character.alphabetic.contains c ||
    (!isFirst && (Character.number.contains c || c = '.' || c = '[' || c = ']'))

/-- The first sign in a name that may not stand there, as the number of signs
in front of it. -/
def badSign? (name : List Char) : Option Nat :=
  (name.zipIdx.find? fun (c, i) => !isNameSign (i = 0) c).map (·.2)

/-- The name of a group, up to the angle bracket that ends it. -/
def name : Reading Unit := do
  let c ← get
  let signs := c.rest.takeWhile (· ≠ '>')
  let stop := c.advance signs.length
  let span := stop.since c.place
  if let some i := badSign? signs then complain .nameSign (c.advance i).signSpan
  if stop.atEnd then complain .nameUnfinished stop.point
  if signs.isEmpty then complain .nameEmpty c.point
  match c.names.lookup signs with
  | some earlier => complainOfClash .nameRepeated span earlier
  | none => set { stop.next with names := c.names ++ [(signs, span)] }

/-- The flag with a letter. -/
def flag? (letter : Char) : Option Flag :=
  [('i', Flag.ignoreCase), ('m', .multiLine), ('s', .dotAll), ('U', .lazy), ('u', .unicode),
    ('R', .carriageReturns), ('x', .verbose)].lookup letter

/-- The flag or the sign of negation at the cursor. -/
def flagItem : Reading FlagItem := do
  let c ← get
  match c.sign? with
  | none => complain .flagUnfinished c.point
  | some '-' => return .negation
  | some sign =>
    match flag? sign with
    | some f => return .flag f
    | none => complain .flagUnknown c.signSpan

/-- The cause to complain of when an item stands among flags twice. -/
def repetition : FlagItem → Cause
  | .negation => .negationRepeated
  | .flag _ => .flagRepeated

/-- Flags, up to a colon or a closing parenthesis, after some items. -/
def flagItems : Nat → List (FlagItem × Span) → Reading (List (FlagItem × Span))
  | 0, items => return items
  | n + 1, items => do
    let c ← get
    if c.isAt ':' || c.isAt ')' then return items
    let item ← flagItem
    if let some earlier := items.lookup item then
      complainOfClash (repetition item) c.signSpan earlier
    set c.next
    if c.next.atEnd then complain .flagUnfinished c.next.point
    flagItems n (items ++ [(item, c.signSpan)])

/-- What follows a question mark that stands at a cursor. -/
def afterQuestionMark (question : Cursor) : Reading Opening := do
  let items ← flagItems (question.rest.length + 1) []
  if let some (.negation, span) := items.getLast? then complain .flagDangling span
  let kinds := items.map (·.1)
  let c ← get
  set c.next
  if c.isAt ':' then return .group none kinds
  if items.isEmpty then complain .repetitionOfNothing question.point
  return .flags kinds

/-- The signs that begin a look at what stands around a place. -/
def looks : List (List Char) := [['?', '='], ['?', '!'], ['?', '<', '='], ['?', '<', '!']]

/-- A group that is remembered by the next number. -/
def remembered : Reading Opening := do
  let c ← get
  set { c with groups := c.groups + 1 }
  return .group (some (c.groups + 1)) []

/-- What an opening parenthesis begins; the cursor is at it. -/
def opening : Reading Opening := do
  let parenthesis ← get
  set parenthesis.step
  let inside ← get
  if let some sign := looks.find? inside.isAtText then
    complain .lookaround ((inside.advance sign.length).since parenthesis.place)
  let longForm ← eat ['?', 'P', '<']
  let named ← if longForm then pure true else eat ['?', '<']
  if named then
    name
    remembered
  else if ← eat ['?'] then
    if (← get).atEnd then complain .groupUnclosed parenthesis.signSpan
    afterQuestionMark inside
  else remembered

end Chip8.Pattern.Group
