import ChartScript.Json.Writer
import ChartScript.Proofs.Document

/-!
# Written JSON is read back

The reader undoes the writer one level at a time: a character, a text, a member, an object and a
list. Each level is stated with whatever stands behind the piece, so that the next one can use it,
and for every number of steps beyond the length of the piece. A document has about twice that many.

Only lists of objects of texts are written, so nothing is said about numbers or deeper nesting. No
object without members is written, and no key twice in one object.
-/

namespace ChartScript.Json

/-- Texts under keys, as the members of an object. -/
def ofTexts (fields : List (String × String)) : Members :=
  fields.map fun field => (field.1, .string field.2)

/-- Members that are written as an object: there is one, and no key stands twice. -/
structure IsRecord (fields : List (String × String)) : Prop where
  /-- There is a member. -/
  filled : fields ≠ []
  /-- The keys are distinct. -/
  distinct : (fields.map Prod.fst).Nodup

/-- A member under a new key goes to the end. -/
theorem Members.put_eq_append {members : Members} {key : String} (fresh : key ∉ members.keys)
    (value : Json) : members.put key value = members ++ [(key, value)] := by
  induction members with
  | nil => rfl
  | cons member members ih =>
    obtain ⟨other, deeper⟩ := not_or.1 (mt List.mem_cons.2 fresh)
    rw [put, if_neg (Ne.symm other), ih deeper, List.cons_append]

namespace Reader

open Writer (escaped memberLine record records)

section

variable {text more rest : List Char} {bound levels : Nat}

/-! ## Characters and texts -/

/-- The digits of a number below sixteen have its value. -/
theorem hexValue?_digitChar : ∀ n < 16, Text.hexValue? (Nat.digitChar n) = some n := by
  decide

/-- A control is read back from its number in four digits. -/
theorem numericEscape_control {c : Char} (control : c.toNat < 0x20) (rest : List Char) :
    numericEscape ('0' :: '0' :: Nat.digitChar (c.toNat / 16) :: Nat.digitChar (c.toNat % 16) ::
      rest) = .ok (c, rest) := by
  have value : fourHex? ('0' :: '0' :: Nat.digitChar (c.toNat / 16) ::
      Nat.digitChar (c.toNat % 16) :: rest) = some (c.toNat, rest) := by
    have zero : Text.hexValue? '0' = some 0 := by decide
    rw [fourHex?, zero, hexValue?_digitChar _ (by omega), hexValue?_digitChar _ (by omega)]
    have whole : ((0 * 16 + 0) * 16 + c.toNat / 16) * 16 + c.toNat % 16 = c.toNat := by omega
    simp only [Option.bind_eq_bind, Option.bind_some, whole, Option.pure_def]
  have lone : isLowSurrogate c.toNat = false ∧ isHighSurrogate c.toNat = false := by
    simp only [isLowSurrogate, isHighSurrogate, Bool.and_eq_false_iff, decide_eq_false_iff_not]
    omega
  rw [numericEscape, unit, value]
  simp [bind, Except.bind, lone, Char.ofNat_toNat, pure, Except.pure]

/-- A backslash takes the escape behind it along. -/
theorem characters_backslash {letters : List Char} {c : Char}
    (named : escape letters = .ok (c, text)) (follows : characters bound text = .ok (more, rest)) :
    characters (bound + 1) ('\\' :: letters) = .ok (c :: more, rest) := by
  rw [characters, if_neg (by decide), if_pos rfl, named]
  simp only [bind, Except.bind, follows]
  rfl

/-- Any other character stands for itself, unless it is the quote or a control. -/
theorem characters_plain {c : Char} (quote : c ≠ '"') (backslash : c ≠ '\\')
    (printed : ¬ c.toNat < 0x20) (follows : characters bound text = .ok (more, rest)) :
    characters (bound + 1) (c :: text) = .ok (c :: more, rest) := by
  rw [characters, if_neg quote, if_neg backslash, if_neg printed, follows]
  rfl

/-- What is written for a character is read as the character. -/
theorem characters_escaped (c : Char) (follows : characters bound text = .ok (more, rest)) :
    characters (bound + 1) (escaped c ++ text) = .ok (c :: more, rest) := by
  rw [escaped]
  split_ifs with marks backspace feed line home tab control
  · exact characters_backslash (by rcases marks with rfl | rfl <;> rfl) follows
  · exact characters_backslash (by rw [backspace]; rfl) follows
  · exact characters_backslash (by rw [feed]; rfl) follows
  · exact characters_backslash (by rw [line]; rfl) follows
  · exact characters_backslash (by rw [home]; rfl) follows
  · exact characters_backslash (by rw [tab]; rfl) follows
  -- The controls without a letter are all below 32, so their two leading digits are zeros.
  · exact characters_backslash (numericEscape_control control text) follows
  · exact characters_plain (fun same => marks (.inl same)) (fun same => marks (.inr same)) control
      follows

/-- The characters that are written for a text are read as the text. -/
theorem characters_flatMap_escaped (text rest : List Char) (enough : text.length < bound) :
    characters bound (text.flatMap escaped ++ '"' :: rest) = .ok (text, rest) := by
  induction text generalizing bound with
  | nil =>
    obtain _ | bound := bound
    · cases enough
    · rfl
  | cons c text ih =>
    obtain _ | bound := bound
    · cases enough
    · rw [List.flatMap_cons, List.append_assoc]
      exact characters_escaped c (ih (Nat.lt_of_succ_lt_succ enough))

/-- Every character is written with at least one. -/
theorem length_le_length_flatMap_escaped (text : List Char) :
    text.length ≤ (text.flatMap escaped).length := by
  induction text with
  | nil => exact Nat.zero_le _
  | cons c text ih =>
    have written : 0 < (escaped c).length := by
      rw [escaped]
      split_ifs <;> exact Nat.succ_pos _
    rw [List.flatMap_cons, List.length_append, List.length_cons]
    omega

/-- A written text begins and ends with the quote. -/
theorem string_append (text : String) (rest : List Char) :
    Writer.string text ++ rest = '"' :: (text.toList.flatMap escaped ++ '"' :: rest) := by
  simp [Writer.string]

/-- A written text is read back behind its opening quote. -/
theorem string_written (text : String) (rest : List Char)
    (enough : (Writer.string text).length ≤ bound) :
    string bound (text.toList.flatMap escaped ++ '"' :: rest) = .ok (text, rest) := by
  have short : text.toList.length < bound := by
    have escapes := length_le_length_flatMap_escaped text.toList
    simp only [Writer.string, List.length_append, List.length_cons] at enough
    omega
  rw [string, characters_flatMap_escaped _ _ short]
  simp only [bind, Except.bind, String.ofList_toList]
  rfl

/-- A written key is read back with its colon. -/
theorem key_written (name : String) (rest : List Char)
    (enough : (Writer.string name).length ≤ bound) :
    key bound (Writer.string name ++ ':' :: rest) = .ok (name, rest) := by
  rw [string_append, key, string_written _ _ enough]
  rfl

/-- A written text is a value, with a blank in front. -/
theorem value_string (text : String) (rest : List Char)
    (enough : (Writer.string text).length < bound) :
    value bound levels (' ' :: (Writer.string text ++ rest)) = .ok (.string text, rest) := by
  obtain _ | bound := bound
  · cases enough
  have blank : skipBlanks (' ' :: (Writer.string text ++ rest)) = Writer.string text ++ rest := by
    rw [string_append]
    rfl
  rw [value, blank, string_append]
  simp [bind, Except.bind, string_written text rest (Nat.le_of_lt_succ enough)]
  rfl

/-! ## Members and objects -/

/-- No blanks stand in front of a mark. -/
theorem skipBlanks_mark {c : Char} (mark : isBlank c = false) (rest : List Char) :
    skipBlanks (c :: rest) = c :: rest := by
  rw [skipBlanks, List.dropWhile_cons_of_neg (by rw [mark]; exact Bool.false_ne_true)]

/-- What is joined by commas is the first piece and each other one behind a comma. -/
theorem intercalate_comma (first : List Char) (others : List (List Char)) :
    [','].intercalate (first :: others) = first ++ others.flatMap (',' :: ·) := by
  induction others generalizing first with
  | nil => simp
  | cons next others ih => simp [ih]

/-- The line of a member is its key, a colon and its text, behind blanks. -/
theorem memberLine_append (name text : String) (rest : List Char) :
    memberLine name text ++ rest =
      '\n' :: ' ' :: ' ' :: ' ' :: ' ' ::
        (Writer.string name ++ ':' :: ' ' :: (Writer.string text ++ rest)) := by
  have shape : memberLine name text =
      '\n' :: ' ' :: ' ' :: ' ' :: ' ' :: Writer.string name ++ [':', ' '] ++
        Writer.string text := rfl
  simp only [shape, List.cons_append, List.nil_append, List.append_assoc]

/-- The blanks in front of a member are passed over. -/
theorem skipBlanks_memberLine (name text : String) (rest : List Char) :
    skipBlanks (memberLine name text ++ rest) =
      Writer.string name ++ ':' :: ' ' :: (Writer.string text ++ rest) := by
  rw [memberLine_append, string_append]
  rfl

/-- A line has room for the key and the text of its member. -/
theorem length_memberLine (name text : String) :
    (memberLine name text).length =
      (Writer.string name).length + (Writer.string text).length + 7 := by
  rw [← List.append_nil (memberLine name text), memberLine_append]
  simp only [List.length_cons, List.length_append, List.length_nil]
  omega

/-- A comma and the line of a member put the member. -/
theorem moreMembers_comma (name text : String) (found : Members) (rest : List Char)
    (enough : (memberLine name text).length < bound) :
    moreMembers (bound + 1) levels found (',' :: (memberLine name text ++ rest)) =
      moreMembers bound levels (found.put name (.string text)) rest := by
  rw [length_memberLine] at enough
  rw [moreMembers, skipBlanks_mark rfl]
  simp only [Char.reduceEq, if_false, if_true]
  rw [skipBlanks_memberLine, string_append]
  simp only [Char.reduceEq, if_false]
  -- The quote in front was needed to pass the test for a brace; the key is read with it.
  rw [← string_append, key_written name _ (by omega)]
  simp only [bind, Except.bind]
  rw [value_string text rest (by omega)]

/-- The line of a member where the members begin gives the first one. -/
theorem object_memberLine (name text : String) (rest : List Char)
    (enough : (memberLine name text).length < bound) :
    object (bound + 1) levels (memberLine name text ++ rest) =
      moreMembers bound levels [(name, .string text)] rest := by
  rw [length_memberLine] at enough
  rw [object, skipBlanks_memberLine, string_append]
  simp only [Char.reduceEq, if_false]
  rw [← string_append, key_written name _ (by omega)]
  simp only [bind, Except.bind]
  rw [value_string text rest (by omega)]

/-- The members of an object behind its first one. -/
def laterMembers (fields : List (String × String)) : List Char :=
  fields.flatMap fun field => ',' :: memberLine field.1 field.2

theorem laterMembers_cons (name text : String) (fields : List (String × String)) :
    laterMembers ((name, text) :: fields) =
      ',' :: (memberLine name text ++ laterMembers fields) := rfl

/-- The close of an object is blanks and a brace. -/
theorem skipBlanks_close (rest : List Char) :
    skipBlanks ("\n  \x7d".toList ++ rest) = '\x7d' :: rest := rfl

/-- The members behind those that were found are added in their order. -/
theorem moreMembers_laterMembers (fields : List (String × String)) (found : Members)
    (rest : List Char) (distinct : (found.keys ++ fields.map Prod.fst).Nodup)
    (enough : (laterMembers fields).length < bound) :
    moreMembers bound levels found (laterMembers fields ++ ("\n  \x7d".toList ++ rest)) =
      .ok (found ++ ofTexts fields, rest) := by
  induction fields generalizing found bound with
  | nil =>
    obtain _ | bound := bound
    · cases enough
    rw [laterMembers, List.flatMap_nil, List.nil_append, moreMembers, skipBlanks_close, ofTexts,
      List.map_nil, List.append_nil]
    rfl
  | cons field fields ih =>
    obtain _ | bound := bound
    · cases enough
    obtain ⟨name, text⟩ := field
    rw [laterMembers_cons, List.length_cons, List.length_append] at enough
    -- A key that was met would keep its old place, so the order rests on the keys being distinct.
    have fresh : name ∉ found.keys := by
      intro known
      exact (List.nodup_append.1 distinct).2.2 name known name List.mem_cons_self rfl
    rw [laterMembers_cons, List.cons_append, List.append_assoc,
      moreMembers_comma name text found _ (by omega), Members.put_eq_append fresh,
      ih _ _ (by omega)]
    · simp [ofTexts]
    · simpa [Members.keys] using distinct

/-- What stands between the braces of an object, and the closing one. -/
def inside (fields : List (String × String)) : List Char :=
  [','].intercalate (fields.map fun field => memberLine field.1 field.2) ++ "\n  \x7d".toList

/-- An object is written behind blanks and its brace. -/
theorem record_eq (fields : List (String × String)) :
    record fields = '\n' :: ' ' :: ' ' :: '\x7b' :: inside fields := rfl

/-- What is written for an object of texts is read as the object. -/
theorem value_inside {fields : List (String × String)} (good : IsRecord fields)
    (rest : List Char) (enough : (record fields).length < bound) :
    value bound (levels + 1) ('\x7b' :: (inside fields ++ rest)) =
      .ok (.object (ofTexts fields), rest) := by
  obtain _ | bound := bound
  · cases enough
  obtain _ | bound := bound
  · simp [record_eq] at enough
  cases fields with
  | nil => exact absurd rfl good.filled
  | cons field fields =>
    obtain ⟨name, text⟩ := field
    have shape : inside ((name, text) :: fields) =
        memberLine name text ++ (laterMembers fields ++ "\n  \x7d".toList) := by
      rw [inside, List.map_cons, intercalate_comma, List.flatMap_map, List.append_assoc]
      rfl
    rw [record_eq, shape] at enough
    simp only [List.length_cons, List.length_append] at enough
    have members : object (bound + 1) levels (inside ((name, text) :: fields) ++ rest) =
        .ok (ofTexts ((name, text) :: fields), rest) := by
      rw [shape, List.append_assoc, List.append_assoc,
        object_memberLine name text _ (by omega),
        moreMembers_laterMembers fields [(name, .string text)] rest good.distinct (by omega)]
      rfl
    rw [value, skipBlanks_mark rfl]
    simp [bind, Except.bind, members]
    rfl

/-! ## Items and lists -/

/-- The brace of an object is found behind the blanks. -/
theorem skipBlanks_record (fields : List (String × String)) (rest : List Char) :
    skipBlanks (record fields ++ rest) = '\x7b' :: (inside fields ++ rest) := rfl

section

variable {fields : List (String × String)} {items : List Json}

/-- A comma and an object put the object in front of the items that follow. -/
theorem moreItems_comma (good : IsRecord fields) (enough : (record fields).length < bound)
    (follows : moreItems bound (levels + 1) text = .ok (items, rest)) :
    moreItems (bound + 1) (levels + 1) (',' :: (record fields ++ text)) =
      .ok (.object (ofTexts fields) :: items, rest) := by
  rw [moreItems, skipBlanks_mark rfl]
  simp only [Char.reduceEq, if_false, if_true]
  rw [skipBlanks_record]
  simp only [Char.reduceEq, if_false]
  rw [value_inside good text enough]
  simp only [bind, Except.bind, follows]
  rfl

/-- An object where the items begin is the first one. -/
theorem list_record (good : IsRecord fields) (enough : (record fields).length < bound)
    (follows : moreItems bound (levels + 1) text = .ok (items, rest)) :
    list (bound + 1) (levels + 1) (record fields ++ text) =
      .ok (.object (ofTexts fields) :: items, rest) := by
  rw [list, skipBlanks_record]
  simp only [Char.reduceEq, if_false]
  rw [value_inside good text enough]
  simp only [bind, Except.bind, follows]
  rfl

end

/-- The items of a list behind its first one. -/
def laterRecords (items : List (List (String × String))) : List Char :=
  items.flatMap fun fields => ',' :: record fields

theorem laterRecords_cons (fields : List (String × String))
    (items : List (List (String × String))) :
    laterRecords (fields :: items) = ',' :: (record fields ++ laterRecords items) := rfl

/-- The items that are written behind the first one are read in their order. -/
theorem moreItems_laterRecords (items : List (List (String × String)))
    (good : ∀ fields ∈ items, IsRecord fields) (enough : (laterRecords items).length < bound) :
    moreItems bound (levels + 1) (laterRecords items ++ ['\n', ']']) =
      .ok (items.map fun fields => .object (ofTexts fields), []) := by
  induction items generalizing bound with
  | nil =>
    obtain _ | bound := bound
    · cases enough
    have close : skipBlanks ['\n', ']'] = [']'] := rfl
    rw [laterRecords, List.flatMap_nil, List.nil_append, moreItems, close]
    rfl
  | cons fields items ih =>
    obtain _ | bound := bound
    · cases enough
    rw [laterRecords_cons, List.length_cons, List.length_append] at enough
    rw [laterRecords_cons, List.cons_append, List.append_assoc]
    exact moreItems_comma (good fields List.mem_cons_self) (by omega)
      (ih (fun _ listed => good _ (List.mem_cons_of_mem _ listed)) (by omega))

/-- What is written for a list of objects of texts is read as the list. -/
theorem value_records (items : List (List (String × String)))
    (good : ∀ fields ∈ items, IsRecord fields)
    (enough : (records items).toList.length < bound) :
    value bound (levels + 2) (records items).toList =
      .ok (.array (items.map fun fields => .object (ofTexts fields)), []) := by
  cases items with
  | nil =>
    have two : (records []).toList.length = 2 := rfl
    obtain ⟨bound, rfl⟩ : ∃ fewer, bound = fewer + 2 := ⟨bound - 2, by omega⟩
    have brackets : (records []).toList = ['[', ']'] := rfl
    have none : list (bound + 1) (levels + 1) [']'] = .ok ([], []) := by
      rw [list, skipBlanks_mark rfl]
      rfl
    rw [brackets, value, skipBlanks_mark rfl]
    simp [bind, Except.bind, none]
    rfl
  | cons fields items =>
    have shape : (records (fields :: items)).toList =
        '[' :: (record fields ++ (laterRecords items ++ ['\n', ']'])) := by
      rw [records, if_neg (by simp), String.toList_ofList, List.map_cons, intercalate_comma,
        List.flatMap_map, List.cons_append, List.append_assoc]
      rfl
    simp only [shape, List.length_cons, List.length_append, List.length_nil] at enough
    obtain ⟨bound, rfl⟩ : ∃ fewer, bound = fewer + 2 := ⟨bound - 2, by omega⟩
    have follows : moreItems bound (levels + 1) (laterRecords items ++ ['\n', ']']) =
        .ok (items.map fun fields => .object (ofTexts fields), []) :=
      moreItems_laterRecords items (fun _ listed => good _ (List.mem_cons_of_mem _ listed))
        (by omega)
    rw [shape, value, skipBlanks_mark rfl]
    simp [bind, Except.bind, list_record (good fields List.mem_cons_self) (by omega) follows]
    rfl

end

end Reader

/-- A list of objects of texts is read back from its text. -/
theorem read_records (items : List (List (String × String)))
    (good : ∀ fields ∈ items, IsRecord fields) :
    read (Writer.records items) =
      .ok (.array (items.map fun fields => .object (ofTexts fields))) := by
  have whole : Reader.document (Writer.records items).toList =
      .ok (.array (items.map fun fields => .object (ofTexts fields))) := by
    have deepest : Reader.deepest = 125 + 2 := rfl
    rw [Reader.document, deepest, Reader.value_records items good (by omega)]
    rfl
  rw [read, whole]

end ChartScript.Json
