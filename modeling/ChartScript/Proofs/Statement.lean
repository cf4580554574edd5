import ChartScript.Proofs.Line

/-!
# The names of a statement

A statement is read once, from left to right, and its words are sorted into names that it binds,
names that it reads, and words that are neither: reserved words, numerals, attributes behind a
point, keywords of arguments, modules and whatever stands in a literal. The grammar is that of
assignments, calls, imports, definitions and returns, which is all that scripts are made of.
Literals hold no escapes. The reading is a fold over the characters, so a text is read piece by
piece, and each piece that a line is made of has a law of its own.
-/

namespace ChartScript

/-- What becomes of a word because of the reserved word in front of it. -/
inductive Role where
  /-- It is read. -/
  | value
  /-- It names a module. -/
  | package
  /-- It is bound. -/
  | target
  deriving DecidableEq

/-- The role of what stands behind a reserved word. -/
def Role.behind (word : String) : Role :=
  if word = "import" then .package else if word = "as" ∨ word = "def" then .target else .value

/-- How far the reading of a statement has come. -/
structure Scan where
  /-- The mark that opened the literal around, if there is one. -/
  quote : Option Char
  /-- The number of open brackets. -/
  depth : Nat
  /-- The last character that belongs to no word. -/
  before : Char
  /-- The role of the word. -/
  role : Role
  /-- The word so far. -/
  word : List Char
  /-- The names that are bound. -/
  bound : List String
  /-- The names that are read. -/
  read : List String

namespace Scan

/-- The word ends in front of a character. -/
def finish (scan : Scan) (next : Char) : Scan :=
  let word := String.ofList scan.word
  if isIdentifier word = false then { scan with word := [] }
  else if isReserved word then { scan with word := [], role := .behind word }
  else if scan.before = '.' ∨ scan.role = .package ∨ (next = '=' ∧ 0 < scan.depth) then
    { scan with word := [], role := .value }
  else if scan.role = .target then
    { scan with word := [], role := .value, bound := scan.bound ++ [word] }
  else { scan with word := [], read := scan.read ++ [word] }

/-- A character that belongs to no word: a quote, a bracket, an assignment or none of these. What
stands in front of an assignment is bound and not read. -/
def mark (scan : Scan) (c : Char) : Scan :=
  if c = '\'' ∨ c = '"' then { scan with before := c, quote := some c }
  else if c = '(' ∨ c = '[' then { scan with before := c, depth := scan.depth + 1 }
  else if c = ')' ∨ c = ']' then { scan with before := c, depth := scan.depth - 1 }
  else if c = '=' ∧ scan.depth = 0 then
    { scan with before := c, bound := scan.bound ++ scan.read, read := [] }
  else { scan with before := c }

/-- Reads a character. -/
def step (scan : Scan) (c : Char) : Scan :=
  match scan.quote with
  | some quote => if c = quote then { scan with before := c, quote := none } else scan
  | none =>
    if isIdentifierTail c then { scan with word := scan.word ++ [c] } else (scan.finish c).mark c

/-- A scan inside a word that is to be read. -/
def inside (depth : Nat) (before : Char) (word : List Char) (bound read : List String) : Scan :=
  ⟨none, depth, before, .value, word, bound, read⟩

/-- A scan between two words. -/
def resting (depth : Nat) (before : Char) (bound read : List String) : Scan :=
  inside depth before [] bound read

/-- Nothing is read yet. -/
def start : Scan := resting 0 '\n' [] []

/-- Reads a statement. -/
def ofText (text : String) : Scan := (text.toList.foldl step start).finish '\n'

end Scan

namespace Script

/-- The names that a statement binds. -/
def binds (statement : String) : List String := (Scan.ofText statement).bound

/-- The names that a statement reads. -/
def reads (statement : String) : List String := (Scan.ofText statement).read

end Script

namespace Scan

variable {depth : Nat} {before stop : Char} {bound read : List String} {rest : List Char}

/-- Identifier characters are put to the word. -/
theorem foldl_tails {front word : List Char} (tails : ∀ c ∈ word, isIdentifierTail c = true) :
    word.foldl step (inside depth before front bound read) =
      inside depth before (front ++ word) bound read := by
  induction word generalizing front with
  | nil => rw [List.foldl_nil, List.append_nil]
  | cons c word ih =>
    have first : step (inside depth before front bound read) c =
        inside depth before (front ++ [c]) bound read := if_pos (tails c List.mem_cons_self)
    rw [List.foldl_cons, first, ih fun c member => tails c (List.mem_cons_of_mem _ member),
      List.append_assoc, List.singleton_append]

/-- A word ends in front of a character that belongs to none. -/
theorem foldl_word {word : List Char} (tails : ∀ c ∈ word, isIdentifierTail c = true)
    (stops : isIdentifierTail stop = false) :
    (word ++ stop :: rest).foldl step (resting depth before bound read) =
      rest.foldl step (((inside depth before word bound read).finish stop).mark stop) := by
  have last : step (inside depth before word bound read) stop =
      ((inside depth before word bound read).finish stop).mark stop :=
    if_neg (by rw [stops]; exact Bool.false_ne_true)
  rw [List.foldl_append, resting, foldl_tails tails, List.foldl_cons, List.nil_append, last]

/-- A word that is no identifier leaves no trace. -/
theorem finish_other {word : List Char} (other : isIdentifier (String.ofList word) = false) :
    (inside depth before word bound read).finish stop = resting depth before bound read :=
  if_pos other

/-- The code of a name is read as one, but for attributes and keywords. -/
theorem finish_code {space : Namespace} (name : Identifier space) (plain : before ≠ '.')
    (loose : stop ≠ '=') :
    (inside depth before name.code.toList bound read).finish stop =
      resting depth before bound (read ++ [name.code]) := by
  simp only [finish, inside, resting, String.ofList_toList, name.isIdentifier_code,
    name.isReserved_code, plain, loose, reduceCtorEq, Bool.true_eq_false, Bool.false_eq_true,
    false_and, or_self, reduceIte]

/-- Characters that belong to no word and open nothing. -/
def separators : List Char := ['.', ',', '+', '-', ' ']

/-- A separator only moves on. -/
theorem mark_separator (separator : stop ∈ separators) :
    (resting depth before bound read).mark stop = resting depth stop bound read := by
  revert separator
  simp only [separators, List.mem_cons, List.not_mem_nil, or_false]
  rintro (rfl | rfl | rfl | rfl | rfl) <;> rfl

/-- A separator belongs to no word. -/
theorem isIdentifierTail_separator (separator : stop ∈ separators) :
    isIdentifierTail stop = false := by
  revert separator
  simp only [separators, List.mem_cons, List.not_mem_nil, or_false]
  rintro (rfl | rfl | rfl | rfl | rfl) <;> decide

/-- The code of a name is read as one, up to the separator behind it. -/
theorem foldl_code {space : Namespace} (name : Identifier space) (plain : before ≠ '.')
    (separator : stop ∈ separators) :
    (name.code.toList ++ stop :: rest).foldl step (resting depth before bound read) =
      rest.foldl step (resting depth stop bound (read ++ [name.code])) := by
  have loose : stop ≠ '=' := by
    rintro rfl
    revert separator
    decide
  rw [foldl_word name.isIdentifierTail_of_mem_code (isIdentifierTail_separator separator),
    finish_code name plain loose, mark_separator separator]

/-- A text whose words are no identifiers is read without a trace. -/
def Wordless (text : List Char) : Prop :=
  ∀ (depth : Nat) (before : Char) (bound read : List String) (stop : Char) (rest : List Char),
    isIdentifierTail stop = false →
      (text ++ stop :: rest).foldl step (resting depth before bound read) =
        rest.foldl step ((resting depth before bound read).mark stop)

/-- A text without names is passed over, up to a character that belongs to no word. -/
theorem Wordless.foldl {text : List Char} (wordless : Wordless text)
    (stops : isIdentifierTail stop = false) :
    (text ++ stop :: rest).foldl step (resting depth before bound read) =
      rest.foldl step ((resting depth before bound read).mark stop) :=
  wordless depth before bound read stop rest stops

/-- A digit starts no identifier. -/
theorem isIdentifierHead_of_isDigit {c : Char} (digit : c.isDigit = true) :
    isIdentifierHead c = false := by
  have bounds : 0x30 ≤ c.toNat ∧ c.toNat ≤ 0x39 := Char.isDigit_iff_toNat.1 digit
  rw [Bool.eq_false_iff]
  intro first
  rcases Bool.or_eq_true_iff.1 first with letter | line
  · rcases Bool.or_eq_true_iff.1 letter with upper | lower
    · have above : 0x41 ≤ c.toNat ∧ c.toNat ≤ 0x5a := of_decide_eq_true upper
      omega
    · have above : 0x61 ≤ c.toNat := of_decide_eq_true (Bool.and_eq_true_iff.1 lower).1
      omega
  · rw [beq_iff_eq.1 line] at digit
    cases digit

/-- A word that starts with a digit is no identifier. -/
theorem isIdentifier_of_digit {c : Char} {word : List Char} (digit : c.isDigit = true) :
    isIdentifier (String.ofList (c :: word)) = false := by
  rw [isIdentifier, String.toList_ofList]
  dsimp only
  rw [isIdentifierHead_of_isDigit digit, Bool.false_and]

/-- A word that starts with a digit leaves no trace, and neither does no word. -/
theorem wordless_of_digit {word : List Char} (tails : ∀ c ∈ word, isIdentifierTail c = true)
    (digit : ∀ c ∈ word.head?, c.isDigit = true) : Wordless word := by
  intro depth before bound read stop rest stops
  have other : isIdentifier (String.ofList word) = false := by
    cases word with
    | nil => decide
    | cons c word => exact isIdentifier_of_digit (digit c rfl)
  rw [foldl_word tails stops, finish_other other]

/-- Digits leave no trace. -/
theorem wordless_of_digits {digits : List Char} (all : ∀ c ∈ digits, c.isDigit = true) :
    Wordless digits := by
  apply wordless_of_digit
  · intro c member
    exact isIdentifierTail_of_isDigit (all c member)
  · intro c first
    exact all c (List.mem_of_head? first)

/-- No text leaves no trace. -/
theorem wordless_nil : Wordless [] := wordless_of_digits (List.forall_mem_nil _)

/-- A separator between texts without words makes no word. -/
theorem Wordless.join {text other : List Char} (front : Wordless text) (c : Char)
    (separator : c ∈ separators) (back : Wordless other) :
    Wordless (text ++ c :: other) := by
  intro depth before bound read stop rest stops
  rw [List.append_assoc, List.cons_append, front.foldl (isIdentifierTail_separator separator),
    mark_separator separator, back.foldl stops]
  rfl

end Scan

end ChartScript
