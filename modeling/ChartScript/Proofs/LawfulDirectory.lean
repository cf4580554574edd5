import ChartScript.Command.Directory

/-!
# A directory is a lawful file system

A file of a directory is told by its name. A path that leads to a file has the name as its last
part, and a write puts the bytes under this name and nowhere else. A write that goes to a device, or
out of the directory, leaves all files as they were. So the laws of file systems can be met, and
what is shown for all lawful systems holds of runs in a directory.
-/

namespace ChartScript.Command

namespace Directory

/-- The first file of a name is the one that is found. -/
theorem lookup_file (first : String) (old : ByteArray) (rest : List (String × ByteArray))
    (name : String) :
    ((first, old) :: rest).lookup name = if name = first then some old else rest.lookup name := by
  rw [List.lookup_cons]
  split <;> simp_all

/-- Putting a file changes what stands under its name only. -/
theorem lookup_put (name : String) (bytes : ByteArray) (files : List (String × ByteArray))
    (other : String) :
    (put name bytes files).lookup other =
      if other = name then some bytes else files.lookup other := by
  induction files with
  | nil => rw [put, lookup_file]
  | cons file rest ih =>
    obtain ⟨first, old⟩ := file
    rw [put, lookup_file]
    split
    · next here =>
      subst here
      rw [lookup_file]
      split <;> rfl
    · next elsewhere =>
      rw [lookup_file, ih]
      by_cases same : other = name
      · rw [if_pos same, if_pos same, if_neg fun hit => elsewhere (hit.symm.trans same)]
      · rw [if_neg same, if_neg same]

variable {directory after : Directory} {path name : String} {bytes : ByteArray}

/-- A path leads to a file by ending in its name. -/
theorem file?_eq_some_iff :
    directory.file? path = some name ↔ directory.target path = .ok (.name .here name false) := by
  rw [file?]
  split
  · next found =>
    rw [found]
    simp
  · next other =>
    constructor
    · rintro ⟨⟩
    · intro found
      exact absurd found (other name)

/-- No device is among the files. -/
theorem find?_here_ne (device : Device) : directory.find? .here name ≠ .ok (some (.device device)) := by
  unfold find?
  split <;> simp

/-- A write under a name of the directory puts a file there; any other leaves the directory. -/
theorem write_eq_ok (writes : directory.write path bytes = .ok after) :
    (∃ name, directory.file? path = some name ∧ after = ⟨put name bytes directory.files⟩) ∨
      directory.file? path = none ∧ after = directory := by
  have away {place : Place} {name : String} {slashed : Bool}
      (leads : directory.target path = .ok (.name place name slashed)) (elsewhere : place ≠ .here) :
      directory.file? path = none := by
    rw [Option.eq_none_iff_forall_ne_some]
    intro other same
    rw [file?_eq_some_iff, leads] at same
    cases same
    exact elsewhere rfl
  rw [write] at writes
  split at writes
  · cases writes
  · cases writes
  · next place name slashed leads =>
    split at writes
    · cases writes
    · next plain =>
      rw [Bool.not_eq_true] at plain
      subst plain
      split at writes
      · cases writes
      · cases writes
      · cases writes
      · next device _ found =>
        cases writes
        refine .inr ⟨away leads ?_, rfl⟩
        rintro rfl
        exact find?_here_ne device found
      · cases writes
        by_cases here : place = .here
        · subst here
          exact .inl ⟨name, file?_eq_some_iff.2 leads, if_pos rfl⟩
        · exact .inr ⟨away leads here, if_neg here⟩

/-- A write in a directory takes effect in the file that its path leads to, and there only. -/
theorem isLawful (stdin : ByteArray) : (system stdin).IsLawful where
  replaces := by
    intro directory after path bytes name writes leads
    rcases write_eq_ok writes with ⟨other, found, rfl⟩ | ⟨found, -⟩
    · obtain rfl := Option.some.inj (leads.symm.trans found)
      exact (lookup_put name bytes directory.files name).trans (if_pos rfl)
    · cases leads.symm.trans found
  keeps := by
    intro directory after path bytes name writes elsewhere
    rcases write_eq_ok writes with ⟨other, found, rfl⟩ | ⟨-, rfl⟩
    · refine (lookup_put other bytes directory.files name).trans (if_neg ?_)
      rintro rfl
      exact elsewhere found
    · rfl

end Directory

end ChartScript.Command
