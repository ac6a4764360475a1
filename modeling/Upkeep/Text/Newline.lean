/-!
Lines. A file is read with every line end, of whichever of the three forms, as one newline.
-/
namespace Upkeep.Text

def ofLines (lines : List String) : String := String.join (lines.map (· ++ "\n"))

/-- A carriage return, with the newline behind it if there is one, becomes a newline. -/
def unifyNewlines : List Char → List Char
  | [] => []
  | '\r' :: '\n' :: rest => '\n' :: unifyNewlines rest
  | '\r' :: rest => '\n' :: unifyNewlines rest
  | c :: rest => c :: unifyNewlines rest

end Upkeep.Text
