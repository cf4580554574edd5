import ChartScript.Proofs.Document
import ChartScript.Proofs.Siblings

/-!
# How failures arise

A failure of a check is a problem of the value itself, a field that it lacks or a key that it does
not declare, or it is a failure of a value one step below. The words of the schema, its keys and
tags, enter the places and the problems; everything else in them is what readers find or what the
value holds.

One induction over schemas gives this for every failure of a check. What is said of failures goes
by induction on how they arise from there on, without the schema.
-/

namespace ChartScript

mutual

/-- Every word of a schema has a property: the keys that it declares, and tags. -/
def Schema.EachWord {α : Type} (Has : String → Prop) : Schema α → Prop
  | .leaf _ => True
  | .nullable item => item.EachWord Has
  | .list item => item.EachWord Has
  | .object fields => fields.EachWord Has
  | .tagged tag known fields =>
    Has tag ∧ (∀ label ∈ known, Has label) ∧ ∀ label, (fields label).EachWord Has
  | .map _ item => item.EachWord Has

/-- Every word of declared fields has a property. -/
def Fields.EachWord {α : Type} (Has : String → Prop) : Fields α → Prop
  | .pure _ => True
  | .required before key item => before.EachWord Has ∧ Has key ∧ item.EachWord Has
  | .defaulted before key item _ => before.EachWord Has ∧ Has key ∧ item.EachWord Has

end

mutual

/-- A property of every text is one of every word of a schema. -/
theorem Schema.eachWord_of_forall {α : Type} {Has : String → Prop} (all : ∀ word, Has word) :
    ∀ schema : Schema α, schema.EachWord Has
  | .leaf _ => trivial
  | .nullable item => Schema.eachWord_of_forall all item
  | .list item => Schema.eachWord_of_forall all item
  | .object fields => Fields.eachWord_of_forall all fields
  | .tagged tag _ fields =>
    ⟨all tag, fun label _ => all label, fun label => Fields.eachWord_of_forall all (fields label)⟩
  | .map _ item => Schema.eachWord_of_forall all item

/-- A property of every text is one of every word of declared fields. -/
theorem Fields.eachWord_of_forall {α : Type} {Has : String → Prop} (all : ∀ word, Has word) :
    ∀ fields : Fields α, fields.EachWord Has
  | .pure _ => trivial
  | .required before key item =>
    ⟨Fields.eachWord_of_forall all before, all key, Schema.eachWord_of_forall all item⟩
  | .defaulted before key item _ =>
    ⟨Fields.eachWord_of_forall all before, all key, Schema.eachWord_of_forall all item⟩

end

/-- The words of a chart description. -/
def Chart.words : List String :=
  ["request_id", "figure", "axes", "plot", "data", "size", "row", "column", "style", "style_name",
    "code_indent_style", "code_is_function", "name", "relation", "x", "y", "linestyle", "value"]

/-- A property of the listed words is one of every word of a chart description. -/
theorem Chart.eachWord_schema {Has : String → Prop} (each : ∀ word ∈ words, Has word) :
    schema.EachWord Has := by
  simp only [words, List.forall_mem_cons] at each
  simp [schema, fields, Figure.schema, GridSize.schema, FigureStyle.schema, Axes.schema,
    Axes.styleSchema, Plot.schema, Plot.styleSchema, Relation.schema, Relation.fields,
    Relation.tagKey, Relation.tags, Series.schema, Fields.optional, Fields.chosen, Schema.EachWord,
    Fields.EachWord, Schema.text, Schema.float, Schema.boolean, Schema.uuid, Schema.positive,
    Schema.name, Schema.choice, each]

/-- How a failure arises when a value is checked. `Word` tells of the words of a schema, and `Finds`
of the problems that its readers find of a value. -/
inductive Json.Arises (Word : String → Prop) (Finds : Json → Problem → Prop) :
    Json → Failure → Prop where
  /-- A reader turns the value down. -/
  | read {value : Json} {problem : Problem} (finds : Finds value problem) :
      Arises Word Finds value ⟨.root, problem⟩
  /-- The value is no list. -/
  | notList (value : Json) : Arises Word Finds value ⟨.root, .notList⟩
  /-- The value is no object. -/
  | notDictionary (value : Json) : Arises Word Finds value ⟨.root, .notDictionary⟩
  /-- The value has no tag. -/
  | untagged (value : Json) {tag : String} (word : Word tag) :
      Arises Word Finds value ⟨.root, .untagged tag⟩
  /-- The value has another tag than those that are known. -/
  | unknownTag {value : Json} {tag found : String} {known : List String} (word : Word tag)
      (words : ∀ label ∈ known, Word label) (tells : value.at? [.key tag] = some (.string found)) :
      Arises Word Finds value ⟨.root, .unknownTag tag found known⟩
  /-- A declared key is not there. -/
  | missing {members : Members} {key : String} (word : Word key) (absent : key ∉ members.keys) :
      Arises Word Finds (.object members) ⟨Location.root.key key, .missing⟩
  /-- A key that is there is not declared. -/
  | undeclared {members : Members} {key : String} (there : key ∈ members.keys) :
      Arises Word Finds (.object members) ⟨Location.root.key key, .undeclared⟩
  /-- The failure arises in a value one step below, and a key on the way there is declared. -/
  | inside {value inner : Json} {step : Location.Step} {failure : Failure}
      (word : ∀ key, step = .key key → Word key) (leads : value.at? [step] = some inner)
      (deeper : Arises Word Finds inner failure) :
      Arises Word Finds value (failure.under ⟨[step]⟩)

/-- A reader finds certain problems of the value that it is given. -/
def FindsOnly (Finds : Json → Problem → Prop) {α : Type} (read : Json → Except Problem α) : Prop :=
  ∀ value problem, read value = .error problem → Finds value problem

/-- What has a text is a string. -/
theorem Json.eq_string_of_text? {held : Option Json} {words : String}
    (text : held.bind Json.text? = some words) : held = some (.string words) := by
  obtain ⟨value, rfl, text⟩ := Option.bind_eq_some_iff.1 text
  cases value <;> cases text
  rfl

section

variable {Word : String → Prop} {Finds : Json → Problem → Prop}

namespace Json.Arises

/-- The failures of a value one step below arise in the whole, if they arise in the value. -/
theorem of_mem_at {α : Type} {schema : Schema α} {value inner : Json} {step : Location.Step}
    (each : ∀ failure ∈ (schema.decode .root inner).failures, inner.Arises Word Finds failure)
    (word : ∀ key, step = .key key → Word key) (leads : value.at? [step] = some inner) :
    ∀ failure ∈ (schema.decode ⟨[step]⟩ inner).failures, value.Arises Word Finds failure := by
  intro failure member
  rw [schema.decode_at] at member
  obtain ⟨found, listed, rfl⟩ := List.mem_map.1 member
  exact .inside word leads (each found listed)

/-- The failures of the value of a declared key arise in the object, if they arise in the value. -/
theorem of_mem_field {α : Type} {schema : Schema α} {members : Members} {key : String}
    {inner : Json}
    (each : ∀ failure ∈ (schema.decode .root inner).failures, inner.Arises Word Finds failure)
    (word : Word key) (found : members.find? key = some inner) :
    ∀ failure ∈ (schema.decode (Location.root.key key) inner).failures,
      (object members).Arises Word Finds failure := by
  have leads : (object members).at? [.key key] = some inner :=
    at?_key.2 ⟨members, inner, rfl, found, rfl⟩
  have declared : ∀ name, Location.Step.key key = .key name → Word name := by
    intro name same
    cases same
    exact word
  exact of_mem_at each declared leads

/-- Keys that are not declared arise in their object. -/
theorem of_mem_undeclaredKeys {members : Members} {declared : List String} {failure : Failure}
    (member : failure ∈ undeclaredKeys declared .root members) :
    (object members).Arises Word Finds failure := by
  obtain ⟨key, listed, rfl⟩ := List.mem_map.1 member
  exact .undeclared (List.mem_of_mem_filter listed)

end Json.Arises

mutual

/-- The failures of a value arise in it. -/
theorem Schema.arises_of_mem {α : Type} : ∀ (schema : Schema α), schema.EachWord Word →
    schema.EachLeaf (FindsOnly Finds) → ∀ {value : Json},
      ∀ failure ∈ (schema.decode .root value).failures, value.Arises Word Finds failure
  | .leaf read, _, finds, value, failure, member => by
    rw [Schema.decode] at member
    split at member
    · cases member
    · next refused =>
      rw [List.mem_singleton.1 member]
      exact .read (finds value _ refused)
  | .nullable item, words, finds, value, failure, member => by
    rw [Schema.decode] at member
    split at member
    · cases member
    · exact Schema.arises_of_mem item words finds failure member
  | .list item, words, finds, value, failure, member => by
    cases value with
    | array items =>
      rw [Schema.decode, Outcome.failures_all, List.mem_flatMap] at member
      obtain ⟨outcome, listed, member⟩ := member
      obtain ⟨i, inside, rfl⟩ := List.mem_mapIdx.1 listed
      have leads : (Json.array items).at? [.index i] = some items[i] :=
        Json.at?_index.2 ⟨items, items[i], rfl, List.getElem?_eq_getElem inside, rfl⟩
      exact Json.Arises.of_mem_at (Schema.arises_of_mem item words finds) (by simp) leads failure
        member
    | _ =>
      rw [List.mem_singleton.1 member]
      exact .notList _
  | .object fields, words, finds, value, failure, member => by
    cases value with
    | object members =>
      rcases List.mem_append.1 member with field | undeclared
      · exact Fields.arises_of_mem fields words finds failure field
      · exact .of_mem_undeclaredKeys undeclared
    | _ =>
      rw [List.mem_singleton.1 member]
      exact .notDictionary _
  | .tagged tag known fields, words, finds, value, failure, member => by
    cases value with
    | object members =>
      rw [Schema.decode] at member
      split at member
      · rw [List.mem_singleton.1 member]
        exact .untagged _ words.1
      · next found told =>
        split at member
        · rcases List.mem_append.1 member with field | undeclared
          · exact Fields.arises_of_mem (fields _) (words.2.2 _) (finds _) failure field
          · exact .of_mem_undeclaredKeys undeclared
        · rw [List.mem_singleton.1 member]
          refine .unknownTag words.1 words.2.1 ?_
          rw [Json.at?_singleton]
          exact Json.eq_string_of_text? told
    | _ =>
      rw [List.mem_singleton.1 member]
      exact .notDictionary _
  | .map f item, words, finds, value, failure, member => by
    rw [Schema.decode] at member
    exact Schema.arises_of_mem item words finds failure member

/-- The failures of declared fields arise in their object. -/
theorem Fields.arises_of_mem {α : Type} : ∀ (fields : Fields α), fields.EachWord Word →
    fields.EachLeaf (FindsOnly Finds) → ∀ {members : Json.Members},
      ∀ failure ∈ (fields.decode .root members).failures,
        (Json.object members).Arises Word Finds failure
  | .pure _, _, _, _, _, member => by cases member
  | .required before key item, words, finds, members, failure, member => by
    obtain ⟨earlierWords, word, itemWords⟩ := words
    rw [Schema.decode_required] at member
    rcases List.mem_append.1 member with earlier | last
    · exact Fields.arises_of_mem before earlierWords finds.1 failure earlier
    · cases found : members.find? key with
      | none =>
        rw [found] at last
        rw [List.mem_singleton.1 last]
        exact .missing word (Json.Members.find?_eq_none_iff.1 found)
      | some inner =>
        rw [found] at last
        exact .of_mem_field (Schema.arises_of_mem item itemWords finds.2) word found failure last
  | .defaulted before key item absent, words, finds, members, failure, member => by
    obtain ⟨earlierWords, word, itemWords⟩ := words
    rw [Schema.decode_defaulted] at member
    rcases List.mem_append.1 member with earlier | last
    · exact Fields.arises_of_mem before earlierWords finds.1 failure earlier
    · cases found : members.find? key with
      | none =>
        rw [found] at last
        cases last
      | some inner =>
        rw [found, Schema.defaulted] at last
        split at last
        · cases last
        · exact .of_mem_field (Schema.arises_of_mem item itemWords finds.2) word found failure last

end

end

/-- What the readers of a chart description find of a value. The labels of closed sets are among the
words. -/
inductive Json.Misread (Word : String → Prop) : Json → Problem → Prop where
  /-- The value, or the one under its only key, is of another kind. -/
  | mismatch (value : Json) (found : Finding) (expected : Expected) :
      Misread Word value (.mismatch found expected)
  /-- The number is not positive. -/
  | notPositive (value : Json) : Misread Word value .notPositive
  /-- The object does not have a single key. -/
  | manyKeys (value : Json) : Misread Word value .manyKeys
  /-- The text is no label. -/
  | label (found : String) {labels : List String} (words : ∀ label ∈ labels, Word label) :
      Misread Word (.string found) (.unknownChoice found labels)
  /-- The only key is no label. -/
  | onlyKey (found : String) (inner : Json) {labels : List String}
      (words : ∀ label ∈ labels, Word label) :
      Misread Word (.object [(found, inner)]) (.unknownChoice found labels)
  /-- The text spells no unique identifier. -/
  | uuid {words : String} {fault : Uuid.Fault} (misspelled : Uuid.read words = .error fault) :
      Misread Word (.string words) (.uuid fault)
  /-- The text is no safe name. -/
  | name (space : Namespace) (raw : String) : Misread Word (.string raw) (.refusedName space raw)

namespace Schema

variable {Word : String → Prop}

theorem misread_readText : FindsOnly (Json.Misread Word) readText := by
  intro value problem refused
  cases value <;> cases refused <;> exact .mismatch _ _ _

theorem misread_readFloat : FindsOnly (Json.Misread Word) readFloat := by
  intro value problem refused
  cases value with
  | number number => cases number <;> cases refused
  | _ => cases refused; exact .mismatch _ _ _

theorem misread_readBoolean : FindsOnly (Json.Misread Word) readBoolean := by
  intro value problem refused
  cases value <;> cases refused <;> exact .mismatch _ _ _

theorem misread_readUuid : FindsOnly (Json.Misread Word) readUuid := by
  intro value problem refused
  cases value with
  | string words =>
    rw [readUuid] at refused
    split at refused
    · cases refused
    · next misspelled =>
      cases refused
      exact .uuid misspelled
  | _ => cases refused; exact .mismatch _ _ _

theorem misread_readPositive : FindsOnly (Json.Misread Word) readPositive := by
  intro value problem refused
  unfold readPositive at refused
  extract_lets whole? at refused
  cases whole : whole? with
  | none =>
    simp only [whole] at refused
    cases refused
    exact .mismatch _ _ _
  | some n =>
    simp only [whole] at refused
    split at refused <;> cases refused
    exact .notPositive _

theorem misread_readName (space : Namespace) :
    FindsOnly (Json.Misread Word) (readName space) := by
  intro value problem refused
  rw [readName] at refused
  cases spelled : readText value with
  | error misread =>
    rw [spelled] at refused
    cases refused
    exact misread_readText value _ spelled
  | ok raw =>
    cases value <;> cases spelled
    simp only [readText] at refused
    cases sanitized : Identifier.sanitize space raw with
    | ok name => simp [sanitized] at refused
    | error refusal =>
      obtain ⟨-, rfl⟩ := Identifier.sanitize_eq_error_iff.1 sanitized
      simp only [sanitized] at refused
      cases refused
      exact .name space raw

variable {α : Type} [ClosedSet α]

/-- A text that is no label is turned down with the labels. -/
theorem readLabel_eq_error {words : String} {problem : Problem}
    (refused : readLabel α words = .error problem) :
    problem = .unknownChoice words (ClosedSet.labels α) := by
  rw [readLabel] at refused
  split at refused <;> cases refused
  rfl

/-- A value that is no member of a closed set has the wrong shape. -/
theorem misread_readChoice (words : ∀ label ∈ ClosedSet.labels α, Word label) {value : Json}
    {problem : Problem} (refused : readChoice α value = .error problem) :
    value.Misread Word problem ∧ problem.kind = .shape := by
  unfold readChoice at refused
  split at refused
  · rw [readLabel_eq_error refused]
    exact ⟨.label _ words, rfl⟩
  · split at refused
    · next unknown =>
      cases refused
      rw [readLabel_eq_error unknown]
      exact ⟨.onlyKey _ _ words, rfl⟩
    · split at refused <;> cases refused
      exact ⟨.mismatch _ _ _, rfl⟩
  · cases refused
    exact ⟨.manyKeys _, rfl⟩
  · cases refused
    exact ⟨.mismatch _ _ _, rfl⟩

end Schema

end ChartScript
