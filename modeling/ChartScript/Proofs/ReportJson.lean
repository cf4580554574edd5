import ChartScript.Failure
import ChartScript.Proofs.WrittenJson
import Mathlib.Data.List.Forall2

/-!
# Reports as JSON

A report is written as a list with an object for each cause: its place and its message, in this
order. Both may hold any characters, since keys of a description and the caller's own words enter
them as they are. The text is read back as these objects, so it tells a report up to the classes of
its problems, which it leaves out. Nothing is said about the blanks between the tokens.
-/

namespace ChartScript.Report

open Json (ofTexts)

/-- What a report is read back as. -/
theorem read_json (report : Report) :
    Json.read report.json =
      .ok (.array (report.causes.map fun cause => .object (ofTexts (members cause)))) := by
  rw [json, Json.read_records, List.map_map]
  · rfl
  · intro fields listed
    obtain ⟨cause, -, rfl⟩ := List.mem_map.1 listed
    exact ⟨by simp [members], by simp [members]⟩

/-- The members of a cause tell its place and its message, and these are all they tell. -/
theorem members_eq_iff {left right : Cause} :
    members left = members right ↔
      left.location = right.location ∧ left.message = right.message := by
  simp [members]

/-- Members that are texts tell the texts. -/
theorem ofTexts_injective : Function.Injective ofTexts := by
  intro left right same
  refine List.map_injective_iff.2 ?_ same
  rintro ⟨key, text⟩ ⟨key', text'⟩ equal
  simpa using equal

/-- The JSON text of a report tells the members of its causes. -/
theorem json_eq_iff {left right : Report} :
    left.json = right.json ↔ left.causes.map members = right.causes.map members := by
  constructor
  · intro same
    have read := left.read_json.symm.trans (same ▸ right.read_json)
    simp only [Except.ok.injEq, Json.array.injEq] at read
    have objects : Function.Injective fun fields => Json.object (ofTexts fields) := by
      intro fields fields' equal
      exact ofTexts_injective (Json.object.inj equal)
    refine List.map_injective_iff.2 objects ?_
    rw [List.map_map, List.map_map]
    exact read
  · intro same
    rw [json, json, same]

/-- A report is read back from its JSON text: a list of as many items as there are failures, whose
item at each place is the object of the place and the message of that cause, in this order and with
nothing else. The class of a problem is in no text, so two reports have one text exactly when they
agree cause by cause on place and message. -/
theorem json_faithful (report : Report) :
    (∃ items : List Json,
      Json.read report.json = .ok (.array items) ∧ items.length = report.failures.length ∧
        ∀ (i : Nat) (cause : Cause), report.causes[i]? = some cause →
          items[i]? = some (.object
            [("location", .string cause.location), ("message", .string cause.message)])) ∧
    ∀ other : Report, other.json = report.json ↔
      List.Forall₂ (fun left right => left.location = right.location ∧
        left.message = right.message) other.causes report.causes := by
  constructor
  · refine ⟨_, report.read_json, by simp [causes], ?_⟩
    intro i cause listed
    rw [List.getElem?_map, listed]
    rfl
  · intro other
    rw [json_eq_iff, ← List.forall₂_eq_eq_eq, List.forall₂_map_left_iff,
      List.forall₂_map_right_iff]
    simp only [members_eq_iff]

/-- Reports that differ in nothing but a class have one text. -/
example :
    (single ⟨.root, .remark .shape "again"⟩).json =
      (single ⟨.root, .remark .placement "again"⟩).json := rfl

end ChartScript.Report
