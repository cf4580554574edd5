import ChartScript.Chart.Consistency
import ChartScript.Proofs.IndexAnswers
import Mathlib.Data.List.Count
import Mathlib.Data.List.Nodup

/-!
# Entries that come once

An entry of a list is counted once when some entry counts and no two do. A pass over names counts
each code as often as it occurs and keeps the first spelling of every code, so a spelling is
repeated when its code occurs more than once. No spelling is repeated exactly when the codes are
distinct.
-/

namespace ChartScript

/-- At most one entry counts when no two do. -/
theorem countP_le_one_of_pairwise {α : Type} {items : List α} {p : α → Bool}
    (apart : items.Pairwise fun item other => ¬ (p item = true ∧ p other = true)) :
    items.countP p ≤ 1 := by
  induction items with
  | nil => simp
  | cons item rest ih =>
    obtain ⟨first, others⟩ := List.pairwise_cons.1 apart
    rw [List.countP_cons]
    split
    · next counts =>
      have none : rest.countP p = 0 := by
        rw [List.countP_eq_zero]
        intro other member counts'
        exact first other member ⟨counts, counts'⟩
      omega
    · exact ih others

/-- One entry counts for a value when some entry has it and no value is had twice. -/
theorem countP_mem_eq_one {α β : Type} [DecidableEq β] {items : List α} {f : α → List β} {value : β}
    (distinct : (items.flatMap f).Nodup) (member : value ∈ items.flatMap f) :
    items.countP (fun item => value ∈ f item) = 1 := by
  apply Nat.le_antisymm
  · apply countP_le_one_of_pairwise
    apply (List.nodup_flatMap.1 distinct).2.imp
    intro item other apart both
    exact apart (of_decide_eq_true both.1) (of_decide_eq_true both.2)
  · rw [Nat.succ_le_iff, List.countP_pos_iff]
    obtain ⟨item, inside, found⟩ := List.mem_flatMap.1 member
    exact ⟨item, inside, decide_eq_true found⟩

variable {space : Namespace} {names : List (Identifier space)}

/-- Entries that count are the same when one entry counts. -/
theorem eq_of_countP_eq_one {α : Type} {items : List α} {p : α → Bool} (once : items.countP p = 1)
    {item other : α} (member : item ∈ items) (counts : p item = true) (member' : other ∈ items)
    (counts' : p other = true) : item = other := by
  rw [List.countP_eq_length_filter] at once
  obtain ⟨single, found⟩ := List.length_eq_one_iff.1 once
  have first : item ∈ [single] := found ▸ List.mem_filter.2 ⟨member, counts⟩
  have second : other ∈ [single] := found ▸ List.mem_filter.2 ⟨member', counts'⟩
  rw [List.mem_singleton.1 first, List.mem_singleton.1 second]

/-- The names of a list whose code does not occur earlier, each with its index. -/
def firstSpellings (names : List (Identifier space)) : List (Identifier space × Nat) :=
  names.zipIdx.filter fun entry => ∀ earlier ∈ names.take entry.2, earlier.code ≠ entry.1.code

/-- A name at the end is a first spelling when its code is new; those before it stay. -/
theorem firstSpellings_concat (names : List (Identifier space)) (last : Identifier space) :
    firstSpellings (names ++ [last]) =
      firstSpellings names ++
        if ∃ earlier ∈ names, earlier.code = last.code then [] else [(last, names.length)] := by
  have before : ∀ entry ∈ names.zipIdx, (names ++ [last]).take entry.2 = names.take entry.2 := by
    rintro ⟨name, i⟩ member
    have inside := (List.getElem?_eq_some_iff.1 (List.mem_zipIdx_iff_getElem?.1 member)).1
    exact List.take_append_of_le_length (Nat.le_of_lt inside)
  have same : (names.zipIdx.filter fun entry : Identifier space × Nat =>
      ∀ earlier ∈ (names ++ [last]).take entry.2, earlier.code ≠ entry.1.code) =
        firstSpellings names := by
    apply List.filter_congr
    intro entry member
    rw [before entry member]
  rw [firstSpellings, List.zipIdx_append, List.filter_append, same]
  by_cases known : ∃ earlier ∈ names, earlier.code = last.code
  · rw [if_pos known]
    simpa using known
  · rw [if_neg known]
    simpa using known

/-- Every name has a first spelling of its code. -/
theorem exists_firstSpelling {name : Identifier space} (h : name ∈ names) :
    ∃ first ∈ firstSpellings names, first.1.code = name.code := by
  induction names using List.reverseRecOn generalizing name with
  | nil => cases h
  | append_singleton names last ih =>
    rw [firstSpellings_concat]
    rcases List.mem_append.1 h with earlier | final
    · obtain ⟨first, spelled, same⟩ := ih earlier
      exact ⟨first, List.mem_append_left _ spelled, same⟩
    · obtain rfl := List.mem_singleton.1 final
      split
      · next known =>
        obtain ⟨earlier, member, same⟩ := known
        obtain ⟨first, spelled, same'⟩ := ih member
        exact ⟨first, List.mem_append_left _ spelled, same'.trans same⟩
      · exact ⟨_, List.mem_append_right _ List.mem_cons_self, rfl⟩

namespace Tally

/-- Meeting a name counts it for its code only. -/
theorem count_meet (tally : Tally space) (name : Identifier space) (code : String) :
    (tally.meet name).count code = tally.count code + if name.code == code then 1 else 0 := by
  rw [count, meet, Index.lookup_enter]
  by_cases same : code = name.code
  · rw [if_pos same, same, Option.getD_some, if_pos (beq_self_eq_true _)]
  · rw [if_neg same, if_neg fun equal => same (beq_iff_eq.1 equal).symm, Nat.add_zero, count]

/-- A pass meets the last name after all others. -/
theorem ofNames_concat (names : List (Identifier space)) (last : Identifier space) :
    ofNames (names ++ [last]) = (ofNames names).meet last := by
  rw [ofNames, List.foldl_append, ← ofNames, List.foldl_cons, List.foldl_nil]

/-- A pass counts each code as often as it occurs. -/
theorem count_ofNames (names : List (Identifier space)) (code : String) :
    (ofNames names).count code = names.countP fun other => other.code == code := by
  induction names using List.reverseRecOn with
  | nil => rfl
  | append_singleton names last ih =>
    rw [ofNames_concat, count_meet, ih, List.countP_append, List.countP_singleton]

/-- A pass keeps the first spellings. -/
theorem heads_ofNames (names : List (Identifier space)) :
    (ofNames names).heads = (firstSpellings names).map Prod.fst := by
  induction names using List.reverseRecOn with
  | nil => rfl
  | append_singleton names last ih =>
    have new : (ofNames names).count last.code = 0 ↔
        ¬ ∃ earlier ∈ names, earlier.code = last.code := by
      rw [count_ofNames, List.countP_eq_zero]
      simp
    rw [ofNames_concat, firstSpellings_concat, meet, List.map_append, ← ih]
    dsimp only
    by_cases known : ∃ earlier ∈ names, earlier.code = last.code
    · rw [if_neg fun fresh => new.1 fresh known, if_pos known, List.map_nil, List.append_nil]
    · rw [if_pos (new.2 known), if_neg known, List.map_singleton]

end Tally

/-- The repeated names are the first spellings whose code occurs more than once. -/
theorem repeatedNames_eq (names : List (Identifier space)) :
    repeatedNames names =
      ((firstSpellings names).filter fun entry =>
        1 < names.countP fun other => other.code == entry.1.code).map Prod.fst := by
  simp only [repeatedNames, Tally.heads_ofNames, Tally.count_ofNames, List.filter_map]
  rfl

/-- The names with a code, counted among the names or among their codes. -/
theorem countP_code (names : List (Identifier space)) (code : String) :
    names.countP (fun other => other.code == code) = (names.map Identifier.code).count code := by
  rw [List.count, List.countP_map]
  rfl

/-- No name is repeated exactly when the codes are distinct. -/
theorem repeatedNames_eq_nil_iff :
    repeatedNames names = [] ↔ (names.map Identifier.code).Nodup := by
  simp only [repeatedNames_eq, List.map_eq_nil_iff, List.filter_eq_nil_iff, decide_eq_true_eq,
    countP_code]
  rw [List.nodup_iff_count]
  constructor
  · intro single code
    by_cases present : code ∈ names.map Identifier.code
    · obtain ⟨name, member, rfl⟩ := List.mem_map.1 present
      obtain ⟨first, spelled, same⟩ := exists_firstSpelling member
      have bound := single first spelled
      rw [same] at bound
      omega
    · rw [List.count_eq_zero_of_not_mem present]
      omega
  · intro distinct entry _
    have bound := distinct entry.1.code
    omega

end ChartScript
