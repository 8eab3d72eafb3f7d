import Chip8.Pattern.Complaint
import Chip8.Pattern.Count
import Chip8.Pattern.Look

/-!
# Written patterns

What a pattern says, before it is decided what it means: the tree that its
brackets and operators spell, each part with the span it was read from.
-/

namespace Chip8.Pattern

/-- A kind of character with an escape of its own. -/
inductive Kind where
  | digit | space | word
  deriving DecidableEq

/-- A named class of ASCII characters. -/
inductive AsciiClass where
  | alnum | alpha | ascii | blank | cntrl | digit | graph | lower | print | punct | space | upper
  | word | xdigit
  deriving DecidableEq

/-- A question to the character database: a property or a value of one. -/
inductive Query where
  | named (name : List Char)
  | valued (name value : List Char)
  deriving DecidableEq

/-- What is asked of a place. -/
inductive Anchor where
  | lineStart | lineEnd | textStart | textEnd
  | word (b : Boundary)
  deriving DecidableEq

/-- A pattern without parts. -/
inductive Atom where
  /-- A character; one that was written as a byte may stand for just that
  byte. -/
  | literal (c : Char) (isByte : Bool)
  /-- Any character. -/
  | dot
  | anchor (a : Anchor)
  | kind (k : Kind) (negated : Bool)
  | property (q : Query) (negated : Bool)
  deriving DecidableEq

/-- How two classes are combined. -/
inductive SetOperation where
  | intersection | difference | symmetricDifference
  deriving DecidableEq

/-- What stands in square brackets. -/
inductive ClassSet where
  | empty (span : Span)
  | atom (a : Atom) (span : Span)
  | range (low high : Char) (lowIsByte highIsByte : Bool) (lowSpan highSpan : Span)
  | ascii (k : AsciiClass) (negated : Bool) (span : Span)
  | union (items : List ClassSet) (span : Span)
  | bracketed (set : ClassSet) (negated : Bool) (span : Span)
  | operation (o : SetOperation) (left right : ClassSet) (span : Span)

/-- The span of a class. -/
def ClassSet.span : ClassSet → Span
  | empty s | atom _ s | ascii _ _ s | union _ s | bracketed _ _ s | operation _ _ _ s => s
  | range _ _ _ _ low high => ⟨low.start, high.stop⟩

/-- Items next to each other. -/
def ClassSet.ofItems (here : Place) : List ClassSet → ClassSet
  | [] => .empty (.point here)
  | [item] => item
  | first :: rest =>
    .union (first :: rest)
      ⟨first.span.start, ((first :: rest).getLast (by simp)).span.stop⟩

/-- A switch for how a pattern is read or what it means. -/
inductive Flag where
  | ignoreCase | multiLine | dotAll | lazy | unicode | carriageReturns | verbose
  deriving DecidableEq

/-- Something among flags: a flag, or the sign that turns later ones off. -/
inductive FlagItem where
  | negation
  | flag (f : Flag)
  deriving DecidableEq

/-- What the items say about a flag, if they say anything. -/
def FlagItem.setting? (f : Flag) : List FlagItem → Option Bool
  | [] => none
  | .negation :: rest => if rest.contains (.flag f) then some false else none
  | .flag g :: rest => if f = g then some true else setting? f rest

/-- A written pattern. -/
inductive Tree where
  | empty (span : Span)
  | flags (items : List FlagItem) (span : Span)
  | atom (a : Atom) (span : Span)
  | bracketed (set : ClassSet) (negated : Bool) (span : Span)
  | repeated (t : Tree) (count : Count) (isGreedy : Bool) (span : Span)
  /-- A group with flags; it has a number if it is remembered. -/
  | group (t : Tree) (index : Option Nat) (items : List FlagItem) (span : Span)
  | sequence (ts : List Tree) (span : Span)
  | alternatives (ts : List Tree) (span : Span)

namespace Tree

/-- The span of a pattern. -/
def span : Tree → Span
  | empty s | flags _ s | atom _ s | bracketed _ _ s | repeated _ _ _ s | group _ _ _ s
  | sequence _ s | alternatives _ s => s

/-- Patterns one after another. -/
def ofSequence (span : Span) : List Tree → Tree
  | [] => .empty span
  | [t] => t
  | ts => .sequence ts span

/-- Whether something may be repeated: not nothing, and not flags. -/
def isRepeatable : Tree → Bool
  | empty _ | flags .. => false
  | _ => true

end Tree

/-! ### How deep a pattern is nested -/

mutual

/-- The first class inside a class that is nested too deep, given the levels
that may still be opened. -/
def ClassSet.deep? (levels : Nat) : ClassSet → Option Span
  | .bracketed set _ span =>
    match levels with
    | 0 => some span
    | n + 1 => set.deep? n
  | .union items span =>
    match levels with
    | 0 => some span
    | n + 1 => ClassSet.deepAmong? n items
  | .operation _ left right span =>
    match levels with
    | 0 => some span
    | n + 1 => (left.deep? n).or (right.deep? n)
  | _ => none

/-- The same among several. -/
def ClassSet.deepAmong? (levels : Nat) : List ClassSet → Option Span
  | [] => none
  | set :: rest => (set.deep? levels).or (ClassSet.deepAmong? levels rest)

end

mutual

/-- The first part that is nested too deep, given the levels that may still be
opened. -/
def Tree.deep? (levels : Nat) : Tree → Option Span
  | .bracketed set _ span =>
    match levels with
    | 0 => some span
    | n + 1 => set.deep? n
  | .repeated t _ _ span | .group t _ _ span =>
    match levels with
    | 0 => some span
    | n + 1 => t.deep? n
  | .sequence ts span | .alternatives ts span =>
    match levels with
    | 0 => some span
    | n + 1 => Tree.deepAmong? n ts
  | _ => none

/-- The same among several. -/
def Tree.deepAmong? (levels : Nat) : List Tree → Option Span
  | [] => none
  | t :: rest => (t.deep? levels).or (Tree.deepAmong? levels rest)

end

end Chip8.Pattern
