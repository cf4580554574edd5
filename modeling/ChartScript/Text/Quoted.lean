import ChartScript.Text.Hidden

/-!
# Quoted text

Two ways to put a text between quotes. A diagnostic uses double quotes and shows every character
that a reader could miss as a number. A script uses single quotes and escapes only what would end
the literal early, so that a reader of the literal gets the same text back.
-/

namespace ChartScript.Text

/-- A character inside double quotes: the quote and the backslash are escaped, four controls have
a letter of their own, and every other hidden character is written as its code point. -/
def shown (c : Char) : List Char :=
  if c = '"' ∨ c = '\\' then ['\\', c]
  else if c = '\x00' then ['\\', '0']
  else if c = '\t' then ['\\', 't']
  else if c = '\r' then ['\\', 'r']
  else if c = '\n' then ['\\', 'n']
  else if isHidden c.toNat then ['\\', 'u', '{'] ++ Nat.toDigits 16 c.toNat ++ ['}']
  else [c]

/-- A text between double quotes, as a diagnostic shows it. -/
def quoteShown (text : String) : String :=
  String.ofList ('"' :: text.toList.flatMap shown ++ ['"'])

/-- The quote of a script's text literals. -/
def apostrophe : Char := '\x27'

/-- A text with other characters wherever it has one character. -/
def replaced (old : Char) (new text : List Char) : List Char :=
  text.flatMap fun c => if c = old then new else [c]

/-- A text literal of a script: every backslash is doubled first, and then a backslash is put in
front of every quote. The other way around, the backslashes of the quotes would be doubled too. -/
def quoteLiteral (text : String) : String :=
  let doubled := replaced '\\' ['\\', '\\'] text.toList
  let body := replaced apostrophe ['\\', apostrophe] doubled
  String.ofList (apostrophe :: body ++ [apostrophe])

end ChartScript.Text
