/-!
# Lines

A line ends with a line feed, and a carriage return right before it belongs to the line end. **What
follows the last line end is a line too, unless it is empty**; it keeps a carriage return at its
end.
-/

namespace JavaDeps.Text

/-- A line without a carriage return at its end. -/
def dropReturn [BEq α] (cr : α) (line : List α) : List α :=
  if line.getLast? == some cr then line.dropLast else line

/-- The pieces between line ends, of which the last is not ended. -/
def linesOfPieces [BEq α] (cr : α) : List (List α) → List (List α)
  | [] | [[]] => []
  | [last] => [last]
  | piece :: rest => dropReturn cr piece :: linesOfPieces cr rest

/-- The lines of a text. -/
def lines (text : String) : List String :=
  (linesOfPieces '\r' (text.toList.splitOn '\n')).map String.ofList

end JavaDeps.Text
