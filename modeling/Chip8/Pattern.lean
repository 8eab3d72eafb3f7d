import Chip8.Pattern.Count
import Chip8.Pattern.Look

/-!
# Patterns

A pattern describes pieces of text: fixed ones, single characters by a set,
places by what is asked of them, and sequences, choices and repetitions of
these.

The constructors have counterparts that simplify: `ofSet`, `times`,
`inSequence` and `amongst` put patterns into a form in which texts are as long
as they get, sequences and choices are not nested in their like, and choices
between characters are sets. Patterns that people write are built with these
alone.
-/

namespace Chip8

open Pattern (Count Look)

/-- A description of pieces of text. -/
inductive Pattern where
  /-- The empty text. -/
  | empty
  /-- A text as it is. -/
  | literal (signs : List Char)
  /-- One character of a set. The set was meant as one of all characters, or
  of those of ASCII. -/
  | oneOf (isUnicode : Bool) (set : CharSet)
  /-- The empty text at certain places. -/
  | look (l : Look)
  /-- Pieces in a row. Whether many are preferred to few does not change which
  texts are described. -/
  | repeated (p : Pattern) (count : Count) (isGreedy : Bool)
  /-- A group that is remembered by a number. -/
  | group (index : Nat) (p : Pattern)
  /-- One piece after another. -/
  | sequence (ps : List Pattern)
  /-- One of several pieces. -/
  | choice (ps : List Pattern)

namespace Pattern

/-- What describes no text at all. -/
def never : Pattern := .oneOf false .empty

/-! ### Sizes of texts

The lengths of the shortest and the longest text that a pattern describes.
They are not known where a part describes no text, nor where there is no
bound. -/

/-- The sum of some lengths. -/
def sumOf (lengths : List (Option Nat)) : Option Nat :=
  if lengths.all Option.isSome then some ((lengths.filterMap id).foldl (· + ·) 0) else none

/-- The least of some lengths. -/
def leastOf (lengths : List (Option Nat)) : Option Nat :=
  if lengths.all Option.isSome then (lengths.filterMap id).min? else none

/-- The greatest of some lengths. -/
def greatestOf (lengths : List (Option Nat)) : Option Nat :=
  if lengths.all Option.isSome then (lengths.filterMap id).max? else none

mutual

/-- The length of the shortest text. -/
def shortest? : Pattern → Option Nat
  | empty | look _ => some 0
  | literal signs => some signs.length
  | oneOf _ set => if set.isEmpty then none else some 1
  | repeated p count _ => p.shortest?.map (· * count.least)
  | group _ p => p.shortest?
  | sequence ps => sumOf (shortestAll ps)
  | choice ps => leastOf (shortestAll ps)

/-- The same for several patterns. -/
def shortestAll : List Pattern → List (Option Nat)
  | [] => []
  | p :: rest => p.shortest? :: shortestAll rest

end

mutual

/-- The length of the longest text. -/
def longest? : Pattern → Option Nat
  | empty | look _ => some 0
  | literal signs => some signs.length
  | oneOf _ set => if set.isEmpty then none else some 1
  | repeated p count _ => do return (← count.most) * (← p.longest?)
  | group _ p => p.longest?
  | sequence ps => sumOf (longestAll ps)
  | choice ps => greatestOf (longestAll ps)

/-- The same for several patterns. -/
def longestAll : List Pattern → List (Option Nat)
  | [] => []
  | p :: rest => p.longest? :: longestAll rest

end

/-- Whether only the empty text is described. -/
def isHollow (p : Pattern) : Bool := p.longest? = some 0

/-! ### Comparison -/

mutual

/-- Whether two patterns are written alike. -/
def same : Pattern → Pattern → Bool
  | empty, empty => true
  | literal a, literal b => a = b
  | oneOf u s, oneOf v t => u = v && s = t
  | look k, look l => k = l
  | repeated p c g, repeated q d h => c = d && g = h && p.same q
  | group i p, group j q => i = j && p.same q
  | sequence ps, sequence qs => sameAll ps qs
  | choice ps, choice qs => sameAll ps qs
  | _, _ => false

/-- The same for several patterns, one by one. -/
def sameAll : List Pattern → List Pattern → Bool
  | [], [] => true
  | p :: ps, q :: qs => p.same q && sameAll ps qs
  | _, _ => false

end

/-! ### Simplification -/

/-- One character of a set. -/
def ofSet (isUnicode : Bool) (set : CharSet) : Pattern :=
  match set.single? with
  | some c => literal [c]
  | none => if set.isEmpty then never else oneOf isUnicode set

/-- A repetition. What is empty is empty however often it comes, and what
comes just once is no repetition. -/
def times (count : Count) (isGreedy : Bool) (p : Pattern) : Pattern :=
  let count := if p.isHollow then count.once else count
  if count.most = some 0 then empty
  else if count.least = 1 && count.most = some 1 then p
  else repeated p count isGreedy

/-- The parts of a pattern in a sequence. -/
def parts : Pattern → List Pattern
  | empty => []
  | sequence ps => ps
  | p => [p]

/-- Patterns in a sequence, with texts next to each other joined. -/
def joinTexts : List Pattern → List Pattern
  | [] => []
  | literal a :: rest =>
    match joinTexts rest with
    | literal b :: more => literal (a ++ b) :: more
    | more => literal a :: more
  | p :: rest => p :: joinTexts rest

/-- One pattern after another. -/
def inSequence (ps : List Pattern) : Pattern :=
  match joinTexts (ps.flatMap parts) with
  | [] => empty
  | [p] => p
  | more => sequence more

/-- The patterns that a pattern chooses from. -/
def options : Pattern → List Pattern
  | choice ps => ps
  | p => [p]

/-- The only character of a text that has just one. -/
def character? : Pattern → Option Char
  | literal [c] => some c
  | _ => none

/-- The set of a pattern that is one. -/
def set? : Pattern → Option CharSet
  | oneOf _ s => some s
  | _ => none

/-- The parts of a pattern that is a sequence. -/
def sequence? : Pattern → Option (List Pattern)
  | sequence ps => some ps
  | _ => none

/-- How many parts two sequences begin with alike. -/
def common : List Pattern → List Pattern → Nat
  | p :: ps, q :: qs => if p.same q then common ps qs + 1 else 0
  | _, _ => 0

/-- The parts that all of some sequences begin with. -/
def commonParts : List (List Pattern) → List Pattern
  | [] => []
  | first :: others =>
    others.foldl (fun shared ps => shared.take (common shared ps)) first

mutual

/-- The number of patterns in a pattern. -/
def weight : Pattern → Nat
  | repeated p _ _ | group _ p => p.weight + 1
  | sequence ps | choice ps => weights ps + 1
  | _ => 1

/-- The number of patterns in several. -/
def weights : List Pattern → Nat
  | [] => 0
  | p :: rest => p.weight + weights rest

end

/-- One of several patterns. Single characters and sets make a set. Parts that
all alternatives begin with are put in front of the choice; this may be tried a
number of times, as new alternatives come up by it. -/
def simplerChoice : Nat → List Pattern → Pattern
  | 0, ps => choice ps
  | tries + 1, ps =>
    let ps := ps.flatMap options
    match ps, ps.mapM character?, ps.mapM set?, ps.mapM sequence? with
    | [], _, _, _ => never
    | [p], _, _, _ => p
    | _, some characters, _, _ => ofSet true (.ofSigns characters)
    | _, _, some sets, _ => ofSet true (.unions sets)
    | _, _, _, some sequences =>
      match commonParts sequences with
      | [] => choice ps
      | shared =>
        let rests := sequences.map fun qs => inSequence (qs.drop shared.length)
        inSequence (shared ++ [simplerChoice tries rests])
    | _, _, _, _ => choice ps

/-- One of several patterns, in which no choice can be made simpler more often
than there are patterns. -/
def amongst (ps : List Pattern) : Pattern := simplerChoice (weights ps + 1) ps

/-! ### Anchors -/

mutual

/-- Whether every text described begins where the whole text does. -/
def startsText : Pattern → Bool
  | look .textStart => true
  | repeated p count _ => 0 < count.least && p.startsText
  | group _ p => p.startsText
  | sequence ps => someStarts ps
  | choice ps => allStart ps
  | _ => false

/-- Whether one of the patterns that a sequence begins with does so, all those
in front of it being hollow. -/
def someStarts : List Pattern → Bool
  | [] => false
  | p :: rest => p.startsText || (p.isHollow && someStarts rest)

/-- Whether all patterns do so. -/
def allStart : List Pattern → Bool
  | [] => true
  | p :: rest => p.startsText && allStart rest

end

mutual

/-- Whether every text described ends where the whole text does. -/
def endsText : Pattern → Bool
  | look .textEnd => true
  | repeated p count _ => 0 < count.least && p.endsText
  | group _ p => p.endsText
  | sequence ps => (someEnd ps).1
  | choice ps => allEnd ps
  | _ => false

/-- Whether one of the patterns that a sequence ends with does so, all those
behind it being hollow; and whether all patterns are hollow. -/
def someEnd : List Pattern → Bool × Bool
  | [] => (false, true)
  | p :: rest =>
    let (ends, hollow) := someEnd rest
    (ends || (hollow && p.endsText), hollow && p.isHollow)

/-- Whether all patterns do so. -/
def allEnd : List Pattern → Bool
  | [] => true
  | p :: rest => p.endsText && allEnd rest

end

end Pattern

end Chip8
