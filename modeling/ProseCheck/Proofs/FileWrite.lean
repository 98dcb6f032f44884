import ProseCheck.FileSystem.Basic

/-!
# Reading and writing files

A file can be written where a path leads to a place that is no directory and at which writing is
allowed. Writing changes that place and no other one: what stood elsewhere stays, the path still
leads to the place, and what was written stands there.
-/

namespace ProseCheck.FileSystem

variable {fs fs' : FileSystem} {p : Path} {location : Location} {content : List UInt8}

/-! ### One place -/

/-- Entries for one location do not hide those for another one. -/
private theorem lookup_filter_of_ne {other : Location} (hne : other ≠ location)
    (items : List (Location × Item)) :
    (items.filter fun (l, _) => l != location).lookup other = items.lookup other := by
  induction items with
  | nil => rfl
  | cons entry items ih =>
    obtain ⟨l, item⟩ := entry
    by_cases hl : l = location
    · have hother : (other == l) = false := by
        rw [beq_eq_false_iff_ne, hl]
        exact hne
      rw [List.filter_cons_of_neg (by simp [hl]), ih, List.lookup_cons, hother]
    · rw [List.filter_cons_of_pos (by simp [hl]), List.lookup_cons, List.lookup_cons, ih]

/-- What is put at a location stands there. The root alone stays a directory. -/
theorem item?_set_self (hroot : location ≠ []) (item : Item) :
    (fs.set location item).item? location = some item := by
  simp [item?, set, hroot]

/-- Putting something at a location leaves everything else. -/
theorem item?_set_of_ne {other : Location} (hne : other ≠ location) (item : Item) :
    (fs.set location item).item? other = fs.item? other := by
  have hbeq : (other == location) = false := by simpa using hne
  simp only [item?, set, List.lookup_cons, hbeq, lookup_filter_of_ne hne]

/-- A path that leads to a location still does so when a file is put where no directory is: every
place on the way is a directory, so it is another place. -/
theorem follow_set {target : Location} (hnot : fs.item? target ≠ some .directory) (item : Item)
    {parts : List Str} {start : Location} (hfollow : fs.follow start parts = .ok location) :
    (fs.set target item).follow start parts = .ok location := by
  induction parts generalizing start with
  | nil => exact hfollow
  | cons part parts ih =>
    cases hitem : fs.item? start with
    | none => simp [follow, hitem] at hfollow
    | some there =>
      cases there with
      | file bytes => simp [follow, hitem] at hfollow
      | directory =>
        have hne : start ≠ target := by
          rintro rfl
          exact hnot hitem
        have hitem' : (fs.set target item).item? start = some .directory := by
          rw [item?_set_of_ne hne, hitem]
        simp only [follow, hitem] at hfollow
        simp only [follow, hitem']
        exact ih hfollow

/-! ### Files -/

/-- A file can be written at the end of a path: it leads to a place that is no directory, and
writing is allowed there. -/
def Writable (fs : FileSystem) (p : Path) : Prop :=
  ∃ location, fs.locate p = .ok location ∧ fs.item? location ≠ some .directory ∧
    location ∉ fs.unwritable

/-- Writing succeeds where a file can be written, and puts the content there. -/
theorem write_eq_ok_iff : fs.write p content = .ok fs' ↔
    ∃ location, fs.locate p = .ok location ∧ fs.item? location ≠ some .directory ∧
      location ∉ fs.unwritable ∧ fs' = fs.set location (.file content) := by
  unfold write
  cases fs.locate p with
  | error trouble => simp
  | ok location =>
    by_cases hdenied : location ∈ fs.unwritable
    · cases hitem : fs.item? location with
      | none => simp [hitem, hdenied]
      | some item => cases item <;> simp [hitem, hdenied]
    · cases hitem : fs.item? location with
      | none => simp [hitem, hdenied, eq_comm]
      | some item => cases item <;> simp [hitem, hdenied, eq_comm]

/-- Whether writing succeeds does not depend on the content. -/
theorem exists_write_iff_writable : (∃ fs', fs.write p content = .ok fs') ↔ fs.Writable p := by
  simp only [write_eq_ok_iff, Writable]
  constructor
  · rintro ⟨_, location, hlocate, hnot, hallowed, _⟩
    exact ⟨location, hlocate, hnot, hallowed⟩
  · rintro ⟨location, hlocate, hnot, hallowed⟩
    exact ⟨_, location, hlocate, hnot, hallowed, rfl⟩

/-- The second file system is the first one but for the file at the end of a path. -/
structure WrittenAt (fs fs' : FileSystem) (p : Path) (content : List UInt8) : Prop where
  /-- The file has the content. -/
  holds : fs'.at? p = some (.file content)
  /-- All other places are as they were. -/
  elsewhere : ∃ location, fs.locate p = .ok location ∧
    ∀ other, other ≠ location → fs'.item? other = fs.item? other
  /-- Paths start where they did. -/
  workingDirectory : fs'.workingDirectory = fs.workingDirectory
  /-- What may be read is as it was. -/
  unreadable : fs'.unreadable = fs.unreadable
  /-- What may be written is as it was. -/
  unwritable : fs'.unwritable = fs.unwritable

/-- Writing changes one file. -/
theorem writtenAt_of_write (hwrite : fs.write p content = .ok fs') :
    WrittenAt fs fs' p content := by
  obtain ⟨location, hlocate, hnot, _, rfl⟩ := write_eq_ok_iff.mp hwrite
  have hroot : location ≠ [] := by
    rintro rfl
    exact hnot rfl
  have hlocate' : (fs.set location (.file content)).locate p = .ok location :=
    follow_set hnot _ hlocate
  refine ⟨?_, ⟨location, hlocate, fun other hne => item?_set_of_ne hne _⟩, rfl, rfl, rfl⟩
  simp only [at?, hlocate', item?_set_self hroot]

end ProseCheck.FileSystem
