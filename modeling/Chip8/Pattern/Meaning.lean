import Chip8.Pattern
import Chip8.Pattern.Property

/-!
# What written patterns mean

A tree as a pattern, under modes that its flags change. Texts are made of
characters, so with Unicode switched off nothing may be asked for that takes
bytes apart: any character, all but some, and bytes that are no ASCII are
refused.
-/

namespace Chip8.Pattern

/-- How a part of a pattern is meant. -/
structure Modes where
  /-- Letters stand for their variants too. -/
  ignoreCase : Bool
  /-- Line anchors are about lines, not the whole text. -/
  multiLine : Bool
  /-- The dot stands for line ends too. -/
  dotAll : Bool
  /-- Few repetitions are preferred unless many are asked for. -/
  lazy : Bool
  /-- Classes are those of Unicode, not of ASCII. -/
  unicode : Bool
  /-- Carriage returns end lines too. -/
  carriageReturns : Bool

namespace Modes

/-- The modes at the beginning. -/
def usual : Modes := ⟨false, false, false, false, true, false⟩

/-- The modes after some flags. -/
def change (items : List FlagItem) (m : Modes) : Modes where
  ignoreCase := (FlagItem.setting? .ignoreCase items).getD m.ignoreCase
  multiLine := (FlagItem.setting? .multiLine items).getD m.multiLine
  dotAll := (FlagItem.setting? .dotAll items).getD m.dotAll
  lazy := (FlagItem.setting? .lazy items).getD m.lazy
  unicode := (FlagItem.setting? .unicode items).getD m.unicode
  carriageReturns := (FlagItem.setting? .carriageReturns items).getD m.carriageReturns

/-- The letters of ASCII that differ only in case from members of a set, and
the members. -/
def asciiFold (s : CharSet) : CharSet :=
  let capitals := s.inter (.range 0x41 0x5A)
  let smalls := s.inter (.range 0x61 0x7A)
  .ofRanges (s.ranges ++ (capitals.ranges.map fun r => ⟨r.low + 0x20, r.high + 0x20⟩)
    ++ smalls.ranges.map fun r => ⟨r.low - 0x20, r.high - 0x20⟩)

/-- A set together with the variants of its members, if the modes say so. -/
def fold (m : Modes) (s : CharSet) : CharSet :=
  if m.ignoreCase then (if m.unicode then Character.caseFold s else asciiFold s) else s

end Modes

/-! ### Classes -/

/-- The characters of a kind. -/
def Kind.members (k : Kind) (isUnicode : Bool) : CharSet :=
  match k with
  | digit => if isUnicode then Character.decimalNumber else .range 0x30 0x39
  | space => if isUnicode then Character.whiteSpace else .listing ["9-D 20"]
  | word => if isUnicode then Character.word else asciiWord

/-- The characters of an ASCII class. -/
def AsciiClass.members : AsciiClass → CharSet
  | alnum => .listing ["30-39 41-5A 61-7A"]
  | alpha => .listing ["41-5A 61-7A"]
  | ascii => Property.ascii
  | blank => .listing ["9 20"]
  | cntrl => .listing ["0-1F 7F"]
  | digit => .range 0x30 0x39
  | graph => .range 0x21 0x7E
  | lower => .range 0x61 0x7A
  | print => .range 0x20 0x7E
  | punct => .listing ["21-2F 3A-40 5B-60 7B-7E"]
  | space => .listing ["9-D 20"]
  | upper => .range 0x41 0x5A
  | word => asciiWord
  | xdigit => .listing ["30-39 41-46 61-66"]

/-- Refuse what cannot be said without Unicode. -/
def requireUnicode (m : Modes) (cause : Cause) (span : Span) : Except Complaint Unit :=
  if m.unicode then .ok () else .error ⟨cause, span, none⟩

/-- Refuse a byte that is no ASCII. -/
def refuseByte (m : Modes) (c : Char) (isByte : Bool) (span : Span) : Except Complaint Unit :=
  if isByte && 0x7F < c.toNat then requireUnicode m .invalidBytes span else .ok ()

/-- Refuse what is no character of a class. -/
def requireMember (m : Modes) (c : Char) (isByte : Bool) (span : Span) :
    Except Complaint Unit := do
  refuseByte m c isByte span
  if 0x7F < c.toNat then requireUnicode m .unicodeNotAllowed span

/-- A set that may be negated. -/
def negatable (m : Modes) (negated : Bool) (span : Span) (s : CharSet) :
    Except Complaint CharSet := do
  if negated then requireUnicode m .invalidBytes span
  return s.complementIf negated

/-- The characters with a property, or all others. -/
def propertySet (m : Modes) (q : Query) (negated : Bool) (span : Span) :
    Except Complaint CharSet := do
  requireUnicode m .unicodeNotAllowed span
  let s ← (Property.ask q).mapError fun cause => ⟨cause, span, none⟩
  negatable m negated span (m.fold s)

/-- An atom in a class. -/
def memberSet (m : Modes) (a : Atom) (span : Span) : Except Complaint CharSet :=
  match a with
  | .literal c isByte => do
    requireMember m c isByte span
    return .ofSigns [c]
  | .kind k negated => negatable m negated span (k.members m.unicode)
  | .property q negated => propertySet m q negated span
  | .dot | .anchor _ => .error ⟨.classEscape, span, none⟩

/-- What two classes make. -/
def SetOperation.combine : SetOperation → CharSet → CharSet → CharSet
  | intersection => CharSet.inter
  | difference => CharSet.diff
  | symmetricDifference => CharSet.symmDiff

mutual

/-- The characters in a class. -/
def ClassSet.members (m : Modes) : ClassSet → Except Complaint CharSet
  | .empty _ => return .empty
  | .atom a span => memberSet m a span
  | .range low high lowIsByte highIsByte lowSpan highSpan => do
    requireMember m low lowIsByte lowSpan
    requireMember m high highIsByte highSpan
    return .range low.toNat high.toNat
  | .ascii k negated span => negatable m negated span (m.fold k.members)
  | .union items _ => return .unions (← ClassSet.membersEach m items)
  | .bracketed set negated span => do negatable m negated span (m.fold (← set.members m))
  | .operation o left right _ => do
    let l ← left.members m
    let r ← right.members m
    return o.combine (m.fold l) (m.fold r)

/-- The characters in several classes. -/
def ClassSet.membersEach (m : Modes) : List ClassSet → Except Complaint (List CharSet)
  | [] => return []
  | set :: rest => return (← set.members m) :: (← ClassSet.membersEach m rest)

end

/-! ### Trees -/

/-- What an anchor asks. -/
def Anchor.look (m : Modes) : Anchor → Look
  | lineStart => if m.multiLine then .lineStart m.carriageReturns else .textStart
  | lineEnd => if m.multiLine then .lineEnd m.carriageReturns else .textEnd
  | textStart => .textStart
  | textEnd => .textEnd
  | word b => .word b m.unicode

/-- What the dot does not stand for. -/
def lineEnds (m : Modes) : CharSet :=
  if m.dotAll then .empty
  else if m.carriageReturns then .ofSigns ['\n', '\r']
  else .ofSigns ['\n']

/-- An atom outside classes. -/
def Atom.meaning (m : Modes) (a : Atom) (span : Span) : Except Complaint Pattern :=
  match a with
  | literal c isByte => do
    refuseByte m c isByte span
    return .ofSet m.unicode (m.fold (.ofSigns [c]))
  | dot => do
    requireUnicode m .invalidBytes span
    return .ofSet true (lineEnds m).complement
  | anchor a => return .look (a.look m)
  | kind k negated => return .ofSet m.unicode (← negatable m negated span (k.members m.unicode))
  | property q negated => return .ofSet true (← propertySet m q negated span)

mutual

/-- A tree under modes, and the modes after it. -/
def Tree.meaning (m : Modes) : Tree → Except Complaint (Pattern × Modes)
  | .empty _ => return (.empty, m)
  | .flags items _ => return (.empty, m.change items)
  | .atom a span => return (← a.meaning m span, m)
  | .bracketed set negated span => do
    let s ← negatable m negated span (m.fold (← set.members m))
    return (.ofSet m.unicode s, m)
  | .repeated t count isGreedy _ => do
    let (p, after) ← t.meaning m
    return (p.times count (isGreedy != after.lazy), after)
  | .group t index items _ => do
    let (p, _) ← t.meaning (m.change items)
    match index with
    | some i => return (.group i p, m)
    | none => return (p, m)
  | .sequence ts _ => do
    let (ps, after) ← Tree.meanings m ts
    return (.inSequence ps, after)
  | .alternatives ts _ => do
    let (ps, after) ← Tree.meanings m ts
    return (.amongst ps, after)

/-- Trees one after another, as they are written. -/
def Tree.meanings (m : Modes) : List Tree → Except Complaint (List Pattern × Modes)
  | [] => return ([], m)
  | t :: rest => do
    let (p, middle) ← t.meaning m
    let (ps, after) ← Tree.meanings middle rest
    return (p :: ps, after)

end

end Chip8.Pattern
