/-!
Indentation of a text that is put into another one: the lines after the first move to the right.
-/
namespace Upkeep.Text

/-- Each newline is followed by `count` blanks. -/
def indentedBy (count : Nat) : List Char → List Char
  | [] => []
  | c :: rest =>
    if c = '\n' then '\n' :: (List.replicate count ' ' ++ indentedBy count rest)
    else c :: indentedBy count rest

/-- Indents every line but the first; a negative count indents nothing. -/
def indent (count : Int) (s : String) : String := String.ofList (indentedBy count.toNat s.toList)

end Upkeep.Text
