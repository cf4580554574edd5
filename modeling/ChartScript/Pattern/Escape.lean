import ChartScript.Text.Blank
import ChartScript.Text.Numerals

/-!
# Escapes in search patterns

A backslash gives a character of a pattern another meaning: a code point by its digits, a class of
characters, a place in the text, or the character itself where it would mean something else. What
a pattern may ask for depends on its mode, which a pattern can change as it goes.
-/

namespace ChartScript.Pattern

/-- How a pattern is read from some point on. -/
structure Mode where
  /-- Blanks and comments do not count. -/
  loose : Bool
  /-- The text is searched by characters, and not by bytes. -/
  wide : Bool
  deriving DecidableEq

/-- The mode at the start of a pattern. -/
def Mode.standard : Mode := ⟨false, true⟩

/-- Drops blanks and comments, which go from a number sign to the end of the line. The first
argument tells that a comment has begun. -/
def dropComments : Bool → List Char → List Char
  | _, [] => []
  | true, c :: rest => dropComments (c != '\n') rest
  | false, c :: rest =>
    if Text.isBlank c then dropComments false rest
    else if c = '#' then dropComments true rest
    else c :: rest

/-- Drops what does not count in a mode. -/
def Mode.skip (mode : Mode) (text : List Char) : List Char :=
  if mode.loose then dropComments false text else text

/-- A single thing that a pattern can ask for. -/
inductive Piece where
  /-- A character. -/
  | char (c : Char)
  /-- A character of a class. -/
  | charClass
  /-- A place between characters. -/
  | place
  deriving DecidableEq

/-- Reads a number of hexadecimal digits, and what follows them. -/
def hexDigits? (mode : Mode) : Nat → List Char → Option (List Char × List Char)
  | 0, text => some ([], text)
  | width + 1, text =>
    match mode.skip text with
    | [] => none
    | c :: rest =>
      if Text.isHex c then (hexDigits? mode width rest).map fun (more, rest) => (c :: more, rest)
      else none

/-- How many digits follow the letter of a code point. -/
def hexWidth? (letter : Char) : Option Nat :=
  [('x', 2), ('u', 4), ('U', 8)].lookup letter

/-- Reads the digits of a code point. Two digits mean a byte where the text is searched by bytes,
and a byte beyond ASCII is no character. -/
def codePoint? (mode : Mode) (width : Nat) (text : List Char) : Option (Piece × List Char) := do
  let (figures, rest) ← hexDigits? mode width text
  let code := figures.foldl (fun total c => total * 16 + (Text.hexValue? c).getD 0) 0
  if !code.isValidChar || (!mode.wide && width == 2 && 0x80 ≤ code) then none
  else some (.char (Char.ofNat code), rest)

/-- The general categories that have a name of one letter, in upper case. -/
def categories : List Char := ['C', 'L', 'M', 'N', 'P', 'S', 'Z']

/-- Reads the name of a category, which is a class of characters and not of bytes. -/
def category? (mode : Mode) (text : List Char) : Option (Piece × List Char) :=
  match mode.skip text with
  | [] => none
  | c :: rest =>
    if mode.wide && categories.contains c.toUpper then some (.charClass, rest) else none

/-- The characters that have a letter of their own. -/
def lettered : List (Char × Char) :=
  [('a', '\x07'), ('f', '\x0c'), ('n', '\n'), ('r', '\r'), ('t', '\t'), ('v', '\x0b')]

/-- Reads what follows a backslash, and gives the rest. The complement of a class holds characters
that are no single bytes, and an edge of a word is not looked for among all characters. -/
def escape? (mode : Mode) (text : List Char) : Option (Piece × List Char) :=
  match text with
  | [] => none
  | c :: rest =>
    match hexWidth? c, lettered.lookup c with
    | some width, _ => codePoint? mode width rest
    | none, some meant => some (.char meant, rest)
    | none, none =>
      if c = 'p' ∨ c = 'P' then category? mode rest
      else if ['d', 's', 'w'].contains c then some (.charClass, rest)
      else if ['D', 'S', 'W'].contains c then if mode.wide then some (.charClass, rest) else none
      else if c = 'A' ∨ c = 'z' then some (.place, rest)
      else if ['b', 'B', '<', '>'].contains c then
        if mode.wide then none else some (.place, rest)
      else if c.isAlphanum ∨ 0x80 ≤ c.toNat then none
      else some (.char c, rest)

end ChartScript.Pattern
