/-!
# Lines

A line ends at a line feed; a carriage return directly before the line feed belongs to the line
end. A text that ends with a line feed opens no further line, and a carriage return at the very end
of the text is kept.
-/

namespace Manuscript.Text

/-- Puts a character in front of the first line, opening it if there is none. -/
def consLine (c : Char) : List (List Char) → List (List Char)
  | [] => [[c]]
  | l :: ls => (c :: l) :: ls

/-- The lines of a text, without their ends. -/
def linesOf : List Char → List (List Char)
  | [] => []
  | '\n' :: cs => [] :: linesOf cs
  | '\r' :: '\n' :: cs => [] :: linesOf cs
  | c :: cs => consLine c (linesOf cs)

/-- The lines of a text, without their ends. -/
def lines (s : String) : List String :=
  (linesOf s.toList).map String.ofList

end Manuscript.Text
