import Chip8.Pattern
import Chip8.Text.Utf8

/-!
# Patterns that are a few texts

A pattern that asks nothing of places, remembers no groups and comes to a few
short texts is looked for text by text. It needs no automaton, so it may have
any size: parts that describe nothing can be repeated as often as one likes.

`texts?` lists the texts of such a pattern. `areLookedFor` says whether they
are looked for as they are, or if it pays to look for what many of them begin
with first and to leave the rest to an automaton.
-/

namespace Chip8.Pattern

open Text.Utf8 (Spelling spell)

namespace Texts

/-! ### Listing -/

/-- How many characters a set may have, and how many copies a repetition. -/
def fewMembers : Nat := 10

/-- How many bytes a text may have. -/
def fewBytes : Nat := 100

/-- How many texts there may be. -/
def fewTexts : Nat := 250

/-- The texts of one list and of another one. -/
def either (a b : List Spelling) : Option (List Spelling) :=
  if a.length + b.length ≤ fewTexts then some (a ++ b).eraseReps else none

/-- Each text of one list with each of another one behind it. -/
def both (a b : List Spelling) : Option (List Spelling) :=
  let texts := (a.flatMap fun s => b.map (s ++ ·)).eraseReps
  if a.length * b.length ≤ fewTexts && texts.all (·.length ≤ fewBytes) then some texts else none

/-- The texts of all lists, if all are known. -/
def any (lists : List (Option (List Spelling))) : Option (List Spelling) :=
  lists.foldlM (fun a b => do either a (← b)) []

/-- A text of each list in a row. Behind no texts there are none, whether the
others are known or not. -/
def all : List Spelling → List (Option (List Spelling)) → Option (List Spelling)
  | a, [] => some a
  | [], _ => some []
  | a, b :: rest => do all (← both a (← b)) rest

/-- The texts of a repetition. No texts can be left out or not. -/
def repeated (count : Count) (isGreedy : Bool) (texts : List Spelling) :
    Option (List Spelling) :=
  if texts.isEmpty then some (if count.least = 0 then [[]] else [])
  else if count = .perhaps then
    if isGreedy then either texts [[]] else either [[]] texts
  else if count.most = some count.least && count.least ≤ fewMembers then
    all [[]] (List.replicate count.least (some texts))
  else none

/-- The characters of a set that has just a few. -/
def members (s : CharSet) : Option (List Spelling) :=
  let count := (s.ranges.map fun r => r.high + 1 - r.low).foldl (· + ·) 0
  if count ≤ fewMembers then
    some <| s.ranges.flatMap fun r =>
      (List.range (r.high + 1 - r.low)).map fun i => Text.Utf8.bytes (r.low + i)
  else none

/-! ### Looking for texts -/

/-- The texts that no earlier one begins. -/
def distinct (texts : List Spelling) : List Spelling :=
  texts.foldl (fun kept t => if kept.any (·.isPrefixOf t) then kept else kept ++ [t]) []

/-- What two texts begin with. -/
def sharedByTwo : Spelling → Spelling → Spelling
  | a :: s, b :: t => if a = b then a :: sharedByTwo s t else []
  | _, _ => []

/-- What all texts begin with. -/
def shared : List Spelling → Spelling
  | [] => []
  | t :: rest => rest.foldl sharedByTwo t

/-- Bytes that texts are full of. -/
def common : CharSet :=
  .listing ["A D 20 28-29 2C-32 39-3A 5F 61-69 6C-70 72-76 78-79 7C 80-84 90 B1 B5-B7 B9-BD BF-FF"]

/-- Whether a byte tells much about where a text begins. -/
def isTelling (byte : Nat) : Bool := ! CharSet.holds byte common.ranges

/-- How many bytes are kept where there are more texts than a number. -/
def cuts : List (Nat × Nat) := [(5, 10), (4, 10), (3, 64), (2, 64), (1, 10)]

/-- Beginnings that are looked for in the place of many texts. -/
def beginnings : List (Nat × Nat) → List Spelling → List Spelling
  | [], texts => texts
  | (bytes, enough) :: rest, texts =>
    if texts.length ≤ enough then texts
    else beginnings rest (distinct (texts.map (·.take bytes)))

/-- Whether texts are looked for as they are, and not by what they begin
with. -/
def areLookedFor (texts : List Spelling) : Bool :=
  let kept := distinct texts
  let front := shared kept
  let few := beginnings cuts kept
  if texts.isEmpty || texts.any List.isEmpty then false
  else if 1 < texts.length && front.length ≤ 3 && front.head?.any isTelling then
    kept.all (·.length ≤ 1)
  else if 1 < kept.length && (4 < front.length || (1 < front.length && 16 < kept.length)) then
    false
  else few = kept || few.any (·.length ≤ 2) || 64 < few.length

end Texts

mutual

/-- The texts that a pattern comes to, whatever it asks of places, if they are
few and short. -/
def texts? : Pattern → Option (List Spelling)
  | empty | look _ => some [[]]
  | literal signs => Texts.all [[]] [some [spell signs]]
  | oneOf _ set => Texts.members set
  | repeated p count isGreedy => do Texts.repeated count isGreedy (← p.texts?)
  | group _ p => p.texts?
  | sequence ps => Texts.all [[]] (textsAll ps)
  | choice ps => Texts.any (textsAll ps)

/-- The same for several patterns. -/
def textsAll : List Pattern → List (Option (List Spelling))
  | [] => []
  | p :: rest => p.texts? :: textsAll rest

end

mutual

/-- Whether a pattern asks nothing of places and remembers no groups. -/
def isBare : Pattern → Bool
  | look _ | group _ _ => false
  | repeated p _ _ => p.isBare
  | sequence ps | choice ps => areBare ps
  | _ => true

/-- The same for several patterns. -/
def areBare : List Pattern → Bool
  | [] => true
  | p :: rest => p.isBare && areBare rest

end

/-- The text of a pattern that is one. -/
def text? : Pattern → Option (List Char)
  | literal signs => some signs
  | _ => none

/-- From how many words on a choice between them is looked for word by word. -/
def manyWords : Nat := 3000

/-- Whether a pattern is looked for text by text. -/
def isFewTexts (p : Pattern) : Bool :=
  (p.isBare && p.texts?.any Texts.areLookedFor) ||
    (manyWords ≤ p.options.length && p.options.all (·.text?.isSome))

end Chip8.Pattern
