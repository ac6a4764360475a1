/-!
Tables of the names of characters, packed. A name is a list of words, and most names begin like the
one before them. An entry of a table says in one letter from `a` to `o` how many words it takes over
from the entry before, and then gives the others; a full stop is a character that has no name. Ten
letters and one more, from `p` to `z`, stand for frequent parts of names.
-/
namespace Upkeep.Text.Names

/-- The names of characters that follow each other. -/
structure Run where
  first : Nat
  lines : List String

/-- What a character of a table stands for. -/
def unpackedChar : Char → List Char
  | 'p' => [' ', 'L', 'E', 'T', 'T', 'E', 'R', ' ']
  | 'q' => [' ', 'W', 'I', 'T', 'H', ' ']
  | 'r' => ['A', 'L']
  | 's' => ['A', 'R']
  | 't' => ['I', 'G', 'H', 'T']
  | 'u' => ['L', 'E']
  | 'v' => ['I', 'N']
  | 'w' => [' ', 'F', 'O', 'R', 'M']
  | 'x' => ['C', 'A', 'P', 'I', 'T', 'A']
  | 'y' => ['A', 'N']
  | 'z' => ['E', 'R']
  | c => [c]

/-- The words of a text that has single blanks between them. -/
def words : List Char → List (List Char)
  | [] => [[]]
  | ' ' :: rest => [] :: words rest
  | c :: rest =>
    match words rest with
    | word :: more => (c :: word) :: more
    | [] => [[c]]

def isMark (c : Char) : Bool := c = '.' || ('a' ≤ c && c ≤ 'o')

/-- Cuts a table at its marks: what stands before the first one, and each mark with what follows. -/
def cut : List Char → List Char × List (Char × List Char)
  | [] => ([], [])
  | c :: rest =>
    let (text, entries) := cut rest
    if isMark c then ([], (c, text) :: entries) else (c :: text, entries)

/-- The code point whose entry gives a name; `code` is that of the first entry and `before` is the
name in front of it. -/
def search (name : List (List Char)) :
    (code : Nat) → (before : List (List Char)) → List (Char × List Char) → Option Nat
  | _, _, [] => none
  | code, before, (mark, text) :: rest =>
    if mark = '.' then search name (code + 1) before rest
    else
      let found := before.take (mark.toNat - 97) ++ words (text.flatMap unpackedChar)
      if found = name then some code else search name (code + 1) found rest

namespace Run

def entries (run : Run) : List (Char × List Char) := (cut (run.lines.flatMap String.toList)).2

/-- The code point of a name, if the run has it. -/
def find? (run : Run) (name : List Char) : Option Nat :=
  search (words name) run.first [] run.entries

end Run
end Upkeep.Text.Names
