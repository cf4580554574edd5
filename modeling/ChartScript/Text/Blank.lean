/-!
# Blank characters

The characters that print as empty space, in any script. Dropping them at both ends of a text
leaves what a reader sees of it.
-/

namespace ChartScript.Text

/-- The blank characters outside the ranges: the space, the next line, the space that does not
break, the separators of lines and paragraphs, and four spaces of single scripts. -/
def loneBlanks : List Nat := [0x20, 0x85, 0xa0, 0x1680, 0x2028, 0x2029, 0x202f, 0x205f, 0x3000]

/-- A character is blank: from the tab to the carriage return, a space of a typographic width, or
one of the others. -/
def isBlank (c : Char) : Bool :=
  let n := c.toNat
  (0x9 ≤ n && n ≤ 0xd) || (0x2000 ≤ n && n ≤ 0x200a) || loneBlanks.contains n

/-- A text without the blanks at its ends. -/
def trimmed (text : List Char) : List Char :=
  ((text.dropWhile isBlank).reverse.dropWhile isBlank).reverse

end ChartScript.Text
