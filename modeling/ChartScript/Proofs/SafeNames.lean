import ChartScript.Proofs.Line
import Mathlib.Data.List.Forall2
import Mathlib.Data.List.Basic

/-!
# Which names are safe

A name is judged by the identifier that it becomes, with the lead of its namespace in front. Here the
same is said of the name itself: its characters are letters, digits, underscores and hyphens, and
where no lead stands in front, it starts with no digit and spells no reserved word. Two names become
one identifier exactly when they differ in hyphens and underscores only.
-/

namespace ChartScript

/-- A letter of ASCII. -/
def IsAsciiLetter (c : Char) : Prop := 'a' ≤ c ∧ c ≤ 'z' ∨ 'A' ≤ c ∧ c ≤ 'Z'

/-- A digit of ASCII. -/
def IsAsciiDigit (c : Char) : Prop := '0' ≤ c ∧ c ≤ '9'

/-- A letter or a digit, an underscore or a hyphen. -/
def IsNameChar (c : Char) : Prop := IsAsciiLetter c ∨ IsAsciiDigit c ∨ c = '_' ∨ c = '-'

/-- A name that may be given in a namespace. Only plots have no lead that would shield them. -/
def Namespace.Admits (space : Namespace) (raw : String) : Prop :=
  raw ≠ "" ∧ (∀ c ∈ raw.toList, IsNameChar c) ∧
    (space = .plot → (∀ c ∈ raw.toList.head?, ¬ IsAsciiDigit c) ∧
      underscored raw ∉ reservedWords)

/-- Two texts differ at most in hyphens and underscores that stand for each other. -/
def SameButHyphens (raw raw' : String) : Prop :=
  List.Forall₂ (fun c c' => c' = c ∨ (c = '-' ∨ c = '_') ∧ (c' = '-' ∨ c' = '_'))
    raw.toList raw'.toList

/-- Texts have one underscored spelling exactly when they differ in hyphens and underscores only. -/
theorem underscored_eq_iff {raw raw' : String} :
    underscored raw = underscored raw' ↔ SameButHyphens raw raw' := by
  have each (c c' : Char) : ((if c = '-' then '_' else c) = if c' = '-' then '_' else c') ↔
      (c' = c ∨ (c = '-' ∨ c = '_') ∧ (c' = '-' ∨ c' = '_')) := by
    grind
  rw [← String.toList_inj, toList_underscored, toList_underscored, ← List.forall₂_eq_eq_eq,
    List.forall₂_map_left_iff, List.forall₂_map_right_iff, SameButHyphens]
  simp only [each]

/-- Underscoring a text once more changes nothing. -/
theorem underscored_underscored (raw : String) : underscored (underscored raw) = underscored raw := by
  rw [← String.toList_inj, toList_underscored, toList_underscored, List.map_map]
  apply List.map_congr_left
  intro c _
  by_cases hyphen : c = '-' <;> simp [hyphen]

/-- The letters of identifiers are those of ASCII. -/
theorem isAlpha_iff {c : Char} : c.isAlpha = true ↔ IsAsciiLetter c := by
  have shape : c.isAlpha = (decide ('A'.val ≤ c.val ∧ c.val ≤ 'Z'.val) ||
      (decide ('a'.val ≤ c.val) && decide (c.val ≤ 'z'.val))) := rfl
  rw [shape]
  simp [IsAsciiLetter, Char.le_def, or_comm]

/-- An identifier starts with a letter or an underscore. -/
theorem isIdentifierHead_iff {c : Char} :
    isIdentifierHead c = true ↔ IsAsciiLetter c ∨ c = '_' := by
  rw [isIdentifierHead, Bool.or_eq_true, isAlpha_iff, beq_iff_eq]

/-- Letters, digits and underscores go on an identifier. -/
theorem isIdentifierTail_iff {c : Char} :
    isIdentifierTail c = true ↔ IsAsciiLetter c ∨ IsAsciiDigit c ∨ c = '_' := by
  have digit : c.isDigit = true ↔ IsAsciiDigit c := by
    simp [Char.isDigit, IsAsciiDigit, Char.le_def]
  rw [isIdentifierTail, Char.isAlphanum, Bool.or_eq_true, Bool.or_eq_true, isAlpha_iff, digit,
    beq_iff_eq, or_assoc]

/-- A character of a name goes on an identifier, with the hyphen as an underscore. -/
theorem isIdentifierTail_underscored {c : Char} :
    isIdentifierTail (if c = '-' then '_' else c) = true ↔ IsNameChar c := by
  by_cases hyphen : c = '-'
  · rw [if_pos hyphen, IsNameChar]
    exact ⟨fun _ => .inr (.inr (.inr hyphen)), fun _ => rfl⟩
  · rw [if_neg hyphen, isIdentifierTail_iff, IsNameChar]
    tauto

/-- A letter, an underscore and a hyphen are no digits. -/
theorem not_isAsciiDigit {c : Char} (other : IsAsciiLetter c ∨ c = '_' ∨ c = '-') :
    ¬ IsAsciiDigit c := by
  rintro ⟨least, most⟩
  rcases other with (⟨low, -⟩ | ⟨low, -⟩) | rfl | rfl
  · exact absurd (Char.le_trans low most) (by decide)
  · exact absurd (Char.le_trans low most) (by decide)
  · exact absurd most (by decide)
  · exact absurd least (by decide)

/-- A character of a name that is no digit starts an identifier, with the hyphen as an
underscore. -/
theorem isIdentifierHead_underscored {c : Char} :
    isIdentifierHead (if c = '-' then '_' else c) = true ↔ IsNameChar c ∧ ¬ IsAsciiDigit c := by
  have other := not_isAsciiDigit (c := c)
  by_cases hyphen : c = '-'
  · rw [if_pos hyphen, IsNameChar]
    exact ⟨fun _ => ⟨.inr (.inr (.inr hyphen)), other (.inr (.inr hyphen))⟩, fun _ => rfl⟩
  · rw [if_neg hyphen, isIdentifierHead_iff, IsNameChar]
    tauto

/-- A text is an identifier when its first character may start one and the others may go on. -/
theorem isIdentifier_iff {text : String} {c : Char} {rest : List Char}
    (chars : text.toList = c :: rest) :
    isIdentifier text = true ↔
      isIdentifierHead c = true ∧ ∀ d ∈ rest, isIdentifierTail d = true := by
  rw [isIdentifier, chars]
  simp [List.all_eq_true]

namespace Namespace

variable {space : Namespace} {raw : String}

/-- The characters of a code. -/
theorem toList_code (space : Namespace) (raw : String) :
    (space.code raw).toList =
      space.lead.toList ++ raw.toList.map fun c => if c = '-' then '_' else c := by
  rw [code, String.toList_append, toList_underscored]

/-- The code of a plot is its name with underscores. -/
theorem plot_code (raw : String) : Namespace.plot.code raw = underscored raw := by
  rw [← String.toList_inj, toList_code, toList_underscored]
  rfl

/-- Behind a lead, a name becomes an identifier when its characters are those of names. -/
theorem isIdentifier_code_of_lead (led : space ≠ .plot) :
    isIdentifier (space.code raw) = true ↔ ∀ c ∈ raw.toList, IsNameChar c := by
  have start : ∃ c rest, space.lead.toList = c :: rest ∧ isIdentifierHead c = true ∧
      ∀ d ∈ rest, isIdentifierTail d = true := by
    cases space with
    | axes => exact ⟨'a', ['x', 'e', 's', '_'], rfl, rfl, List.all_eq_true.1 rfl⟩
    | data => exact ⟨'d', ['a', 't', 'a', '_'], rfl, rfl, List.all_eq_true.1 rfl⟩
    | plot => exact absurd rfl led
  obtain ⟨c, rest, lead, head, tail⟩ := start
  have chars := toList_code space raw
  rw [lead, List.cons_append] at chars
  rw [isIdentifier_iff chars, List.forall_mem_append, List.forall_mem_map]
  simp only [isIdentifierTail_underscored]
  exact ⟨fun legal => legal.2.2, fun all => ⟨head, tail, all⟩⟩

/-- Without a lead, a name becomes an identifier when it has characters, all of them those of names,
and the first one is no digit. -/
theorem isIdentifier_code_plot :
    isIdentifier (Namespace.plot.code raw) = true ↔ raw ≠ "" ∧ (∀ c ∈ raw.toList, IsNameChar c) ∧
      ∀ c ∈ raw.toList.head?, ¬ IsAsciiDigit c := by
  have chars := toList_underscored raw
  rw [plot_code, Ne, ← String.toList_inj]
  cases split : raw.toList with
  | nil =>
    rw [split] at chars
    simp [isIdentifier, chars]
  | cons c rest =>
    rw [split, List.map_cons] at chars
    rw [isIdentifier_iff chars, isIdentifierHead_underscored, List.forall_mem_map]
    simp only [isIdentifierTail_underscored, List.forall_mem_cons, List.head?_cons,
      Option.mem_def, Option.some.injEq, forall_eq']
    constructor
    · rintro ⟨⟨first, plain⟩, others⟩
      exact ⟨List.cons_ne_nil _ _, ⟨first, others⟩, plain⟩
    · rintro ⟨-, ⟨first, others⟩, plain⟩
      exact ⟨⟨first, plain⟩, others⟩

/-- Behind a lead, no name becomes a reserved word: no such word has an underscore. -/
theorem isReserved_code_of_lead (led : space ≠ .plot) : isReserved (space.code raw) = false := by
  have plain : ∀ word ∈ reservedWords, '_' ∉ word.toList := by decide +kernel
  have stroke : '_' ∈ (space.code raw).toList := by
    rw [toList_code, List.mem_append]
    cases space with
    | axes | data => exact .inl (by decide)
    | plot => exact absurd rfl led
  rw [isReserved, Bool.eq_false_iff]
  intro reserved
  exact plain _ (List.contains_iff_mem.1 reserved) stroke

/-- A name is safe in a namespace exactly when the namespace admits it. -/
theorem isSafe_iff_admits : space.isSafe raw = true ↔ space.Admits raw := by
  rw [isSafe, Bool.and_eq_true, Bool.and_eq_true, bne_iff_ne, Bool.not_eq_true', Admits]
  by_cases led : space = .plot
  · subst led
    rw [isIdentifier_code_plot, plot_code, isReserved, ← Bool.not_eq_true, List.contains_iff_mem]
    constructor
    · rintro ⟨⟨-, filled, plain, first⟩, free⟩
      exact ⟨filled, plain, fun _ => ⟨first, free⟩⟩
    · rintro ⟨filled, plain, unled⟩
      exact ⟨⟨filled, filled, plain, (unled rfl).1⟩, (unled rfl).2⟩
  · rw [isIdentifier_code_of_lead led, isReserved_code_of_lead led]
    constructor
    · rintro ⟨⟨filled, plain⟩, -⟩
      exact ⟨filled, plain, fun same => absurd same led⟩
    · rintro ⟨filled, plain, -⟩
      exact ⟨⟨filled, plain⟩, rfl⟩

end Namespace

namespace Identifier

/-- What sanitizing makes of a name. -/
structure SanitizedExactly (space : Namespace) (raw : String) : Prop where
  /-- A name is taken exactly when the namespace admits it. -/
  taken : (∃ name, sanitize space raw = .ok name) ↔ space.Admits raw
  /-- A name that is taken keeps its spelling. -/
  kept : ∀ name, sanitize space raw = .ok name → name.raw = raw
  /-- Its code is the lead and the name with underscores for hyphens. -/
  coded : ∀ name, sanitize space raw = .ok name → name.code.toList =
    space.lead.toList ++ raw.toList.map fun c => if c = '-' then '_' else c
  /-- The code starts with a letter or an underscore, and letters, digits and underscores follow. -/
  legal : ∀ name, sanitize space raw = .ok name → ∃ first rest, name.code.toList = first :: rest ∧
    (IsAsciiLetter first ∨ first = '_') ∧
      ∀ c ∈ rest, IsAsciiLetter c ∨ IsAsciiDigit c ∨ c = '_'
  /-- The code is no reserved word. -/
  unreserved : ∀ name, sanitize space raw = .ok name → name.code ∉ reservedWords
  /-- Two names get one code exactly when they differ in hyphens and underscores only. -/
  together : ∀ raw' name name', sanitize space raw = .ok name → sanitize space raw' = .ok name' →
    (name.code = name'.code ↔ SameButHyphens raw raw')
  /-- The code of a plot is a name of a plot again, and becomes itself. -/
  settled : ∀ name, sanitize .plot raw = .ok name →
    ∃ again, sanitize .plot name.code = .ok again ∧ again.code = name.code
  /-- A name that is not taken is refused as it is spelled. -/
  refused : ∀ refusal, sanitize space raw = .error refusal → refusal = .refusedName raw

variable {space : Namespace} {raw : String}

/-- An identifier starts with a letter or an underscore, and letters, digits and underscores
follow. -/
theorem code_spelled (name : Identifier space) :
    ∃ first rest, name.code.toList = first :: rest ∧ (IsAsciiLetter first ∨ first = '_') ∧
      ∀ c ∈ rest, IsAsciiLetter c ∨ IsAsciiDigit c ∨ c = '_' := by
  have legal := name.isIdentifier_code
  cases chars : name.code.toList with
  | nil => simp [isIdentifier, chars] at legal
  | cons first rest =>
    obtain ⟨head, tail⟩ := (isIdentifier_iff chars).1 legal
    exact ⟨first, rest, rfl, isIdentifierHead_iff.1 head,
      fun c member => isIdentifierTail_iff.1 (tail c member)⟩

/-- The code of a plot is its own code. -/
theorem code_code (name : Identifier .plot) : Namespace.plot.code name.code = name.code := by
  rw [code, Namespace.plot_code, Namespace.plot_code, underscored_underscored]

/-- The code of a plot is a safe name of a plot. -/
theorem isSafe_code (name : Identifier .plot) : Namespace.plot.isSafe name.code = true := by
  have filled : name.code ≠ "" := by
    obtain ⟨first, rest, chars, -⟩ := name.code_spelled
    rintro empty
    rw [empty] at chars
    cases chars
  rw [Namespace.isSafe, code_code, name.isIdentifier_code, name.isReserved_code,
    bne_iff_ne.2 filled]
  rfl

/-- Names are sanitized exactly as the rules for names say, and no axes share a code with a
series. -/
theorem sanitize_exact :
    (∀ space raw, SanitizedExactly space raw) ∧
      ∀ (axes : Identifier .axes) (series : Identifier .data), axes.code ≠ series.code := by
  refine ⟨fun space raw => ?_, axesCode_ne_dataCode⟩
  constructor
  · rw [← Namespace.isSafe_iff_admits]
    constructor
    · rintro ⟨name, taken⟩
      rw [← sanitize_eq_ok_iff.1 taken]
      exact name.safe
    · intro safe
      exact ⟨⟨raw, safe⟩, sanitize_eq_ok_iff.2 rfl⟩
  · intro name taken
    exact sanitize_eq_ok_iff.1 taken
  · intro name taken
    rw [code, sanitize_eq_ok_iff.1 taken, Namespace.toList_code]
  · intro name _
    exact name.code_spelled
  · intro name _ reserved
    have free := name.isReserved_code
    rw [isReserved, List.contains_iff_mem.2 reserved] at free
    cases free
  · intro raw' name name' taken taken'
    rw [code, code, sanitize_eq_ok_iff.1 taken, sanitize_eq_ok_iff.1 taken', Namespace.code,
      Namespace.code, String.append_right_inj, underscored_eq_iff]
  · intro name _
    exact ⟨⟨name.code, name.isSafe_code⟩, sanitize_eq_ok_iff.2 rfl, name.code_code⟩
  · intro refusal refused
    exact (sanitize_eq_error_iff.1 refused).2

end Identifier

end ChartScript
