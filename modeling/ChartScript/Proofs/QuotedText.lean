import ChartScript.Text.Quoted
import Mathlib.Algebra.Group.Nat.Even
import Mathlib.Data.List.Basic

/-!
# Text literals, read back

The two replacements of a text literal come to one escape for each character: a backslash or a quote
has a backslash in front of it, and any other character stands alone. So the backslashes of a body
are used up in pairs, except for the one in front of a quote. A quote is escaped where an odd number
of backslashes stands in a row before it. This is so for every quote between the two of the literal
and not for the one that closes it, also where the text ends in backslashes. The escapes can be
undone from left to right, which gives the text, so two texts never have the same literal.
-/

namespace ChartScript.Text

/-- The number of backslashes in a row at the end of a text. -/
def trailingBackslashes (text : List Char) : Nat := (text.reverse.takeWhile (· == '\\')).length

/-- The body of a literal with its escapes undone from left to right. A backslash escapes itself or
the quote, and where it stands in front of another character or of none, there is no text. -/
def unescaped? : List Char → Option (List Char)
  | [] => some []
  | c :: rest =>
    if c = '\\' then
      match rest with
      | [] => none
      | next :: rest =>
        if next = '\\' ∨ next = apostrophe then (unescaped? rest).map (next :: ·) else none
    else (unescaped? rest).map (c :: ·)

/-- A backslash in front of itself or of the quote is taken away. -/
theorem unescaped?_escape {c : Char} (special : c = '\\' ∨ c = apostrophe) (rest : List Char) :
    unescaped? ('\\' :: c :: rest) = (unescaped? rest).map (c :: ·) := by
  rw [unescaped?, if_pos rfl, if_pos special]

/-- Any other character is left. -/
theorem unescaped?_plain {c : Char} (plain : c ≠ '\\') (rest : List Char) :
    unescaped? (c :: rest) = (unescaped? rest).map (c :: ·) := by
  rw [unescaped?.eq_def]
  exact if_neg plain

/-- A character in the body of a literal: a backslash stands before the quote and before itself. -/
def escaped (c : Char) : List Char :=
  if c = '\\' ∨ c = apostrophe then ['\\', c] else [c]

/-- A character is escaped or stands alone. -/
theorem escaped_eq (c : Char) :
    escaped c = ['\\', c] ∧ (c = '\\' ∨ c = apostrophe) ∨
      escaped c = [c] ∧ c ≠ '\\' ∧ c ≠ apostrophe := by
  by_cases special : c = '\\' ∨ c = apostrophe
  · exact .inl ⟨if_pos special, special⟩
  · exact .inr ⟨if_neg special, not_or.1 special⟩

/-- The backslashes doubled and then the quotes escaped is each character escaped once. -/
theorem replaced_replaced (text : List Char) :
    replaced apostrophe ['\\', apostrophe] (replaced '\\' ['\\', '\\'] text) =
      text.flatMap escaped := by
  rw [replaced, replaced, List.flatMap_assoc]
  apply List.flatMap_congr
  intro c _
  by_cases backslash : c = '\\'
  · -- The backslashes that the first replacement adds are no quotes.
    rw [if_pos backslash, backslash]
    rfl
  · rw [if_neg backslash, List.flatMap_singleton, escaped]
    by_cases quote : c = apostrophe
    · rw [if_pos quote, if_pos (.inr quote), quote]
    · rw [if_neg quote, if_neg (not_or.2 ⟨backslash, quote⟩)]

/-- A literal is the escaped characters of its text between two quotes. -/
theorem toList_quoteLiteral (text : String) :
    (quoteLiteral text).toList =
      apostrophe :: text.toList.flatMap escaped ++ [apostrophe] := by
  rw [quoteLiteral, String.toList_ofList, replaced_replaced]

/-- Undoing the escapes of a body first undoes that of its first character. -/
theorem unescaped?_escaped_append (c : Char) (rest : List Char) :
    unescaped? (escaped c ++ rest) = (unescaped? rest).map (c :: ·) := by
  rcases escaped_eq c with ⟨both, special⟩ | ⟨alone, plain, -⟩
  · rw [both, List.cons_append, List.singleton_append, unescaped?_escape special]
  · rw [alone, List.singleton_append, unescaped?_plain plain]

/-- Undoing the escapes of a body gives the text. -/
theorem unescaped?_flatMap_escaped (text : List Char) :
    unescaped? (text.flatMap escaped) = some text := by
  induction text with
  | nil => rfl
  | cons c text ih => rw [List.flatMap_cons, unescaped?_escaped_append, ih, Option.map_some]

/-- A backslash at the end is one more, and any other character ends the row. -/
theorem trailingBackslashes_concat (text : List Char) (c : Char) :
    trailingBackslashes (text ++ [c]) = if c = '\\' then trailingBackslashes text + 1 else 0 := by
  rw [trailingBackslashes, List.reverse_concat, List.takeWhile_cons]
  by_cases backslash : c = '\\' <;> simp [backslash, trailingBackslashes]

/-- Behind an even number of backslashes, a character with its escape leaves an even number. -/
theorem even_trailingBackslashes_append_escaped {front : List Char}
    (even : Even (trailingBackslashes front)) (c : Char) :
    Even (trailingBackslashes (front ++ escaped c)) := by
  rcases escaped_eq c with ⟨both, special⟩ | ⟨alone, plain, -⟩
  · have split : front ++ escaped c = (front ++ ['\\']) ++ [c] := by
      rw [both, List.append_assoc, List.singleton_append]
    rw [split, trailingBackslashes_concat, trailingBackslashes_concat, if_pos rfl]
    split_ifs
    · rwa [Nat.even_add_one, Nat.even_add_one, not_not]
    · exact Even.zero
  · rw [alone, trailingBackslashes_concat, if_neg plain]
    exact Even.zero

/-- Behind an even number of backslashes, a body leaves an even number. -/
theorem even_trailingBackslashes_append_body (text : List Char) {front : List Char}
    (even : Even (trailingBackslashes front)) :
    Even (trailingBackslashes (front ++ text.flatMap escaped)) := by
  induction text generalizing front with
  | nil => rwa [List.flatMap_nil, List.append_nil]
  | cons c text ih =>
    rw [List.flatMap_cons, ← List.append_assoc]
    exact ih (even_trailingBackslashes_append_escaped even c)

/-- A quote in a body is an escaped one: in front of it stands the body of the text before it and a
backslash. -/
theorem exists_body_of_quote {text before after : List Char}
    (held : text.flatMap escaped = before ++ apostrophe :: after) :
    ∃ earlier : List Char, before = earlier.flatMap escaped ++ ['\\'] := by
  induction text generalizing before with
  | nil => exact absurd held.symm (List.append_ne_nil_of_right_ne_nil _ (List.cons_ne_nil _ _))
  | cons c text ih =>
    rw [List.flatMap_cons] at held
    rcases escaped_eq c with ⟨both, special⟩ | ⟨alone, -, quoteless⟩
    · rw [both] at held
      -- The quote is the escaped character, or it stands behind it.
      match before with
      | [] => exact absurd (List.head_eq_of_cons_eq held) (by decide)
      | [first] =>
        obtain ⟨rfl, -⟩ := List.cons.inj held
        exact ⟨[], rfl⟩
      | first :: second :: before =>
        obtain ⟨rfl, inner⟩ := List.cons.inj held
        obtain ⟨rfl, rest⟩ := List.cons.inj inner
        obtain ⟨earlier, rfl⟩ := ih rest
        exact ⟨c :: earlier, by rw [List.flatMap_cons, both]; rfl⟩
    · rw [alone] at held
      match before with
      | [] => exact absurd (List.head_eq_of_cons_eq held) quoteless
      | first :: before =>
        obtain ⟨rfl, rest⟩ := List.cons.inj held
        obtain ⟨earlier, rfl⟩ := ih rest
        exact ⟨c :: earlier, by rw [List.flatMap_cons, alone]; rfl⟩

/-- A literal is one of a text: its end can be found, and the text can be read back. -/
structure IsLiteralOf (literal text : String) : Prop where
  /-- The literal stands between two quotes, and undoing the escapes of what is between them gives
  the text. -/
  body : ∃ body, literal.toList = apostrophe :: body ++ [apostrophe] ∧
    unescaped? body = some text.toList
  /-- Behind the opening quote, the closing one is the only quote with an even number of backslashes
  in a row before it. -/
  closes : ∀ before after, literal.toList = before ++ apostrophe :: after → before ≠ [] →
    (Even (trailingBackslashes before) ↔ after = [])

/-- A literal is one of a single text. -/
theorem IsLiteralOf.unique {literal text other : String} (one : IsLiteralOf literal text)
    (two : IsLiteralOf literal other) : text = other := by
  obtain ⟨body, shape, undone⟩ := one.body
  obtain ⟨body', shape', undone'⟩ := two.body
  have bodies : body = body' :=
    List.append_cancel_right (List.cons.inj (shape.symm.trans shape')).2
  rw [bodies, undone'] at undone
  exact String.toList_inj.1 (Option.some.inj undone).symm

/-- Behind the opening quote of a literal, the closing one alone is not escaped. -/
theorem even_trailingBackslashes_iff {text before after : List Char}
    (held : apostrophe :: text.flatMap escaped ++ [apostrophe] = before ++ apostrophe :: after)
    (behind : before ≠ []) : Even (trailingBackslashes before) ↔ after = [] := by
  have opening : Even (trailingBackslashes [apostrophe]) := by decide
  obtain ⟨first, inner, rfl⟩ := List.exists_cons_of_ne_nil behind
  rw [List.cons_append, List.cons_append] at held
  obtain ⟨rfl, closed⟩ := List.cons.inj held
  rcases List.eq_nil_or_concat after with rfl | ⟨after, last, rfl⟩
  · have whole : inner = text.flatMap escaped := (List.append_cancel_right closed).symm
    rw [whole]
    exact iff_of_true (even_trailingBackslashes_append_body text opening) rfl
  · have inside : text.flatMap escaped = inner ++ apostrophe :: after := by
      rw [List.concat_eq_append, ← List.cons_append, ← List.append_assoc] at closed
      exact (List.append_inj' closed rfl).1
    obtain ⟨earlier, rfl⟩ := exists_body_of_quote inside
    have even := even_trailingBackslashes_append_body earlier opening
    have odd :
        ¬ Even (trailingBackslashes (([apostrophe] ++ earlier.flatMap escaped) ++ ['\\'])) := by
      rw [trailingBackslashes_concat, if_pos rfl, Nat.even_add_one, not_not]
      exact even
    exact iff_of_false odd (by simp)

/-- The literal of every text, of any characters, is one of that text, and no two texts have the
same literal. -/
theorem quoteLiteral_invertible :
    (∀ text, IsLiteralOf (quoteLiteral text) text) ∧ Function.Injective quoteLiteral := by
  have literal : ∀ text, IsLiteralOf (quoteLiteral text) text := by
    intro text
    constructor
    · exact ⟨_, toList_quoteLiteral text, unescaped?_flatMap_escaped text.toList⟩
    · intro before after held behind
      rw [toList_quoteLiteral] at held
      exact even_trailingBackslashes_iff held behind
  refine ⟨literal, fun text other same => ?_⟩
  have shared : IsLiteralOf (quoteLiteral text) other := same ▸ literal other
  exact (literal text).unique shared

/-- Backslashes before a quote and at the end of a text are doubled. -/
example : quoteLiteral "a\\'b\\" = "'a\\\\\\'b\\\\'" := by decide

end ChartScript.Text
