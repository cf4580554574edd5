import ChartScript.Proofs.Repeated

/-!
# How names that share a code are told

Names are compared by their codes and told by their spellings. A list has one failure at most, which
tells each code that occurs twice or more: once, by its first spelling, and in the order in which
the codes first occur. This is said here of any list of names, by the indices of its entries; how
the codes are counted does not matter for it.
-/

namespace ChartScript

variable {space : Namespace} {names : List (Identifier space)}

/-- A name is the first spelling at an index when no name before it has its code. -/
theorem mem_firstSpellings {name : Identifier space} {i : Nat} :
    (name, i) ∈ firstSpellings names ↔
      names[i]? = some name ∧ ∀ (j : Nat) (earlier : Identifier space), j < i →
        names[j]? = some earlier → earlier.code ≠ name.code := by
  simp only [firstSpellings, List.mem_filter, List.mem_zipIdx_iff_getElem?, decide_eq_true_eq]
  constructor
  · rintro ⟨found, new⟩
    refine ⟨found, fun j earlier before here => new earlier (List.mem_of_getElem? (i := j) ?_)⟩
    rw [List.getElem?_take_of_lt before, here]
  · rintro ⟨found, new⟩
    refine ⟨found, fun earlier member => ?_⟩
    obtain ⟨j, here⟩ := List.mem_iff_getElem?.1 member
    rw [List.getElem?_take] at here
    split at here
    · next before => exact new j earlier before here
    · cases here

/-- The first spellings come in the order of the list. -/
theorem pairwise_firstSpellings (names : List (Identifier space)) :
    (firstSpellings names).Pairwise fun entry other => entry.2 < other.2 := by
  apply List.Pairwise.filter
  rw [← List.pairwise_map, List.zipIdx_map_snd]
  exact List.pairwise_lt_range'

/-- No code has two first spellings. -/
theorem firstSpellings_apart (names : List (Identifier space)) :
    (firstSpellings names).Pairwise fun entry other => entry.1.code ≠ other.1.code := by
  apply (pairwise_firstSpellings names).imp_of_mem
  rintro ⟨name, i⟩ ⟨other, j⟩ member member' before
  exact (mem_firstSpellings.1 member').2 i name before (mem_firstSpellings.1 member).1

/-- The first spellings of the codes that occur twice or more, each with its index. -/
def duplicates (names : List (Identifier space)) : List (Identifier space × Nat) :=
  (firstSpellings names).filter fun entry => 2 ≤ (names.map Identifier.code).count entry.1.code

/-- The repeated names are the duplicates. -/
theorem repeatedNames_eq_duplicates (names : List (Identifier space)) :
    repeatedNames names = (duplicates names).map Prod.fst := by
  simp only [repeatedNames_eq, duplicates, countP_code]
  rfl

/-- A code that occurs twice or more has one duplicate, and no other code has any. -/
theorem countP_duplicates (names : List (Identifier space)) (code : String) :
    (duplicates names).countP (fun entry => entry.1.code = code) =
      if 2 ≤ (names.map Identifier.code).count code then 1 else 0 := by
  split
  · next often =>
    -- First spellings differ in their codes, and every name has one with its own code.
    apply Nat.le_antisymm
    · apply countP_le_one_of_pairwise
      apply ((firstSpellings_apart names).filter _).imp
      intro entry other differ both
      exact differ ((of_decide_eq_true both.1).trans (of_decide_eq_true both.2).symm)
    · rw [Nat.succ_le_iff, List.countP_pos_iff]
      have present : code ∈ names.map Identifier.code := by
        rw [← List.count_pos_iff]
        omega
      obtain ⟨name, member, rfl⟩ := List.mem_map.1 present
      obtain ⟨first, spelled, same⟩ := exists_firstSpelling member
      exact ⟨first, List.mem_filter.2 ⟨spelled, by simpa [same] using often⟩, decide_eq_true same⟩
  · next seldom =>
    rw [List.countP_eq_zero]
    intro entry member counts
    have often := of_decide_eq_true (List.mem_filter.1 member).2
    rw [of_decide_eq_true counts] at often
    exact seldom often

/-- The failures of a list tell its duplicates. -/
structure TellDuplicates (names : List (Identifier space)) (failures : List Failure) : Prop where
  /-- Names with different codes have no failure. -/
  clear : (names.map Identifier.code).Nodup → failures = []
  /-- Other names have one failure. It is at the list and tells the duplicates as they are spelt. -/
  told : ¬ (names.map Identifier.code).Nodup → ∃ failure, failures = [failure] ∧
    failure.location = ⟨[.key space.label]⟩ ∧
    failure.cause = ⟨.uniqueness, "request." ++ space.label,
      "Duplicate " ++ space.label ++ " name found: [" ++
        ", ".intercalate ((duplicates names).map fun entry => "'" ++ entry.1.raw ++ "'") ++ "]"⟩
  /-- A duplicate is the first name with its code, and not the only one. -/
  first : ∀ (name : Identifier space) (i : Nat), (name, i) ∈ duplicates names ↔
    names[i]? = some name ∧
      (∀ (j : Nat) (earlier : Identifier space), j < i → names[j]? = some earlier →
        earlier.code ≠ name.code) ∧
      2 ≤ (names.map Identifier.code).count name.code
  /-- The duplicates come in the order of the list. -/
  ordered : (duplicates names).Pairwise fun entry other => entry.2 < other.2
  /-- A code that occurs twice or more has one duplicate, and no other code has any. -/
  once : ∀ code, (duplicates names).countP (fun entry => entry.1.code = code) =
    if 2 ≤ (names.map Identifier.code).count code then 1 else 0

/-- The failure of repeated names, as a reader sees it. -/
theorem cause_duplicates (space : Namespace) (raws : List String) :
    Failure.cause ⟨Location.root.key space.label, .duplicates space raws⟩ =
      ⟨.uniqueness, "request." ++ space.label,
        "Duplicate " ++ space.label ++ " name found: [" ++
          ", ".intercalate (raws.map fun raw => "'" ++ raw ++ "'") ++ "]"⟩ := by
  have place : (Location.root.key space.label).render = "request." ++ space.label := by
    cases space <;> decide
  rw [Failure.cause, place]
  rfl

/-- The failures of names, of whatever namespace and in whatever number, tell the duplicates. -/
theorem repeatedFailures_exact (names : List (Identifier space)) :
    TellDuplicates names (repeatedFailures names) := by
  constructor
  · intro distinct
    rw [repeatedFailures, repeatedNames_eq_nil_iff.2 distinct]
  · intro shared
    rw [repeatedFailures]
    split
    · next none => exact absurd (repeatedNames_eq_nil_iff.1 none) shared
    · refine ⟨_, rfl, rfl, ?_⟩
      rw [cause_duplicates, repeatedNames_eq_duplicates, List.map_map, List.map_map]
      rfl
  · intro name i
    rw [duplicates, List.mem_filter, mem_firstSpellings, decide_eq_true_eq, and_assoc]
  · exact (pairwise_firstSpellings names).filter _
  · exact countP_duplicates names

example : (repeatedFailures ([⟨"b", by decide⟩, ⟨"a-b", by decide⟩, ⟨"a_b", by decide⟩,
    ⟨"b", by decide⟩, ⟨"c", by decide⟩] : List (Identifier .axes))).map
      (fun failure => failure.problem.message) =
    ["Duplicate axes name found: ['b', 'a-b']"] := by
  decide

end ChartScript
