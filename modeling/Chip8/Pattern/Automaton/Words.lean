import Chip8.Pattern.Automaton.Table
import Chip8.Text.Utf8

/-!
# Words as automata

A choice between words shares what they begin with. The words that go on from
a place come in order, and one that ends there comes between those in front of
it and those behind it: the words of a place are in blocks, and only words of
the same block share their next byte. A place has a fork into its blocks and,
between two of them, into the end.
-/

namespace Chip8.Pattern.Automaton

open Text.Utf8 (Spelling)

namespace Table

/-- Two tables as one. -/
def plus (a b : Table) : Table := ⟨a.states + b.states, a.listed + b.listed⟩

/-- Several tables as one. -/
def total (ts : List Table) : Table := ts.foldl plus bare

end Table

namespace Words

/-- Words cut at those that end, which are left out. -/
def cut : List Spelling → List (List Spelling)
  | [] => [[]]
  | word :: rest =>
    match word, cut rest with
    | [], blocks => [] :: blocks
    | _, block :: more => (word :: block) :: more
    | _, [] => [[word]]

/-- The blocks of a place. Of several words that end in front of all others
one counts. -/
def blocks (words : List Spelling) : List (List Spelling) :=
  match words with
  | [] :: rest => [] :: cut (rest.dropWhile List.isEmpty)
  | _ => cut words

/-- How words go on behind a byte, for each byte that some of them begin
with. -/
def behind (words : List Spelling) : List (List Spelling) :=
  let firsts := words.filterMap List.head?
  firsts.eraseDups.map fun byte =>
    (words.filter (·.head? = some byte)).map List.tail

/-- What the state for a block with so many next bytes takes up. One byte needs
no list. -/
def block (bytes : Nat) : Table :=
  match bytes with
  | 0 => .bare
  | 1 => ⟨1, 0⟩
  | _ => ⟨1, Table.branchSize * bytes⟩

/-- What a place and all behind it take up, for words of a length at most. A
place where all words end is the end. -/
def place : Nat → List Spelling → Table
  | 0, _ => .bare
  | length + 1, words =>
    let parts := (blocks words).map behind
    let forks := (parts.filter (! ·.isEmpty)).length + (parts.length - 1)
    let onward := parts.flatten.filter (·.any (! ·.isEmpty))
    .total
      (⟨1, Table.arrowSize * forks⟩ ::
        (parts.map (block ·.length) ++ onward.map (place length)))

/-- The length of the longest word. -/
def longest (words : List Spelling) : Nat := (words.map List.length).foldl max 0

end Words

/-- The automaton of a choice between words: one end, and the places. -/
def buildWords (words : List Spelling) : Building Unit := do
  let places := Words.place (Words.longest words + 1) words
  Building.grow (places.states + 1) places.listed

end Chip8.Pattern.Automaton
