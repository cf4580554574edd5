/-!
# Pieces and lines of a text

A text is cut at every occurrence of a mark. A text without the mark is a single piece, and a mark
at the end opens a last, empty piece; joining the pieces with the mark gives the text back. The
lines of a text are its pieces at the line feeds.
-/

namespace ChartScript.Text

/-- The pieces between the marks, read from the left. -/
def pieces (mark : Char) : List Char → List (List Char)
  | [] => [[]]
  | c :: rest =>
    if c = mark then [] :: pieces mark rest
    else
      match pieces mark rest with
      | [] => [[c]]
      | first :: more => (c :: first) :: more

/-- There is always a first piece. -/
theorem pieces_ne_nil (mark : Char) (text : List Char) : pieces mark text ≠ [] := by
  fun_cases pieces mark text <;> simp

/-- The lines of a text as strings. -/
def lines (text : String) : List String :=
  (pieces '\n' text.toList).map String.ofList

/-- A whole text built from lines, each ended by a line feed. -/
def unlines (rows : List String) : String :=
  String.join (rows.map (· ++ "\n"))

end ChartScript.Text
