import JamLang.Proofs.FileSystem.Paths

/-!
# Writing a file

Writing puts a file at the place that its path leads to.  The folders that hold the place are there
before, so every other place stays as it was (`entry?_put_of_ne`).  There are only folders on the
way, and no folder is written over, so the path leads to the same place afterwards
(`isPathTo_put_of_isWritable`) and the bytes are read back (`isWritten_of_write`).
-/

namespace JamLang.FileSystem

variable {files written : FileSystem} {place folder other after names : List String} {entry : Entry}
  {name path : String} {bytes : List UInt8} {fault : FileFault}

/-! ## Places -/

/-- Something stands at a place if there is an entry for it or for something that it holds. -/
theorem entry?_ne_none_iff :
    files.entry? place ≠ none ↔
      place = [] ∨ ∃ entry ∈ files.entries, place <+: entry.1 := by
  unfold entry?
  cases found : files.entries.lookup place with
  | some entry =>
    obtain ⟨before, after, split, -⟩ := List.lookup_eq_some_iff.1 found
    have isEntry : (place, entry) ∈ files.entries := by simp [split]
    exact iff_of_true (Option.some_ne_none entry) (.inr ⟨_, isEntry, List.prefix_refl place⟩)
  | none => simp [or_iff_not_imp_left]

theorem entry?_ne_none_of_prefix (leads : other <+: place)
    (stands : files.entry? place ≠ none) : files.entry? other ≠ none := by
  rw [ entry?_ne_none_iff] at stands ⊢
  rcases stands with rfl | ⟨entry, isEntry, below⟩
  · exact .inl (List.prefix_nil.1 leads)
  · exact .inr ⟨entry, isEntry, leads.trans below⟩

/-- A place without an entry of its own is a folder or nothing. -/
theorem entry?_congr (sameEntry : written.entries.lookup place = files.entries.lookup place)
    (sameStands : written.entry? place ≠ none ↔ files.entry? place ≠ none) :
    written.entry? place = files.entry? place := by
  cases found : files.entries.lookup place with
  | some entry => simp only [ entry?, sameEntry, found]
  | none =>
    have noneOrFolder (files : FileSystem) (missing : files.entries.lookup place = none) :
        files.entry? place = none ∨ files.entry? place = some .folder := by
      rw [ entry?, missing]
      dsimp only
      split <;> simp
    cases noneOrFolder written (sameEntry.trans found) with
    | inl isNone => rw [isNone, not_not.1 (mt sameStands.2 (not_not.2 isNone))]
    | inr isFolder =>
      have stands : files.entry? place ≠ none := sameStands.1 (by simp [isFolder])
      rw [isFolder, (noneOrFolder files found).resolve_left stands]

/-! ## Entries put at a place -/

theorem entries_put : (files.put place entry).entries =
    files.entries.filter (·.1 ≠ place) ++ [(place, entry)] :=
  rfl

theorem lookup_put_self : (files.put place entry).entries.lookup place = some entry := by
  have removed : (files.entries.filter (·.1 ≠ place)).lookup place = none := by
    rw [List.lookup_eq_none_iff]
    intro other isEntry
    have differs := (List.mem_filter.1 isEntry).2
    exact bne_iff_ne.2 (of_decide_eq_true differs).symm
  rw [entries_put, List.lookup_append, removed]
  simp

theorem lookup_put_of_ne (differs : other ≠ place) :
    (files.put place entry).entries.lookup other = files.entries.lookup other := by
  -- Only entries that are looked up under another name are filtered out.
  have kept (entries : List (List String × Entry)) :
      (entries.filter (·.1 ≠ place)).lookup other = entries.lookup other := by
    induction entries with
    | nil => rfl
    | cons first entries ih =>
      obtain ⟨key, value⟩ := first
      by_cases isRemoved : key = place
      · subst isRemoved
        rw [List.filter_cons_of_neg (by simp), ih, List.lookup_cons, beq_false_of_ne differs]
      · rw [List.filter_cons_of_pos (by simpa using isRemoved), List.lookup_cons, ih,
          List.lookup_cons]
  rw [entries_put, List.lookup_append, kept, List.lookup_cons, beq_false_of_ne differs]
  simp

theorem entry?_put_self : entry? (files.put place entry) place = some entry := by
  rw [ entry?, lookup_put_self]

/-- Other places stay as they are, if what holds the place was there before. -/
theorem entry?_put_of_ne (differs : other ≠ place)
    (holds : other <+: place → files.entry? other ≠ none) :
    entry? (files.put place entry) other = files.entry? other := by
  refine entry?_congr (lookup_put_of_ne differs) ⟨fun stands => ?_, fun stands => ?_⟩
  · rw [ entry?_ne_none_iff] at stands
    rcases stands with isTop | ⟨holder, isEntry, leads⟩
    · exact entry?_ne_none_iff.2 (.inl isTop)
    · rcases List.mem_append.1 isEntry with isKept | isNew
      · exact entry?_ne_none_iff.2 (.inr ⟨holder, (List.mem_filter.1 isKept).1, leads⟩)
      · obtain rfl := List.mem_singleton.1 isNew
        exact holds leads
  · rw [ entry?_ne_none_iff] at stands ⊢
    rcases stands with isTop | ⟨holder, isEntry, leads⟩
    · exact .inl isTop
    -- If the entry that was held is the one written over, the new one is held instead.
    · by_cases isRemoved : holder.1 = place
      · exact .inr ⟨(place, entry), by simp [put], isRemoved ▸ leads⟩
      · exact .inr ⟨holder, by simp [put, isEntry, isRemoved], leads⟩

/-! ## Ways -/

/-- Whatever holds the place that a name leads to holds the folder that the name is in, or is it. -/
theorem Step.prefix_folder (step : Step folder name place) (holds : other <+: place)
    (differs : other ≠ place) : other <+: folder := by
  cases step with
  | stay => exact holds
  | up => exact holds.trans (List.dropLast_prefix folder)
  | down => exact (List.prefix_concat_iff.1 holds).resolve_left differs

/-- The folders that names lead through stay what they are in another file system. -/
theorem LooksUp.of_stays (looksUp : files.LooksUp place name)
    (stays : ∀ place, files.entry? place = some .folder → written.entry? place = some .folder)
    (sameDenied : written.denied = files.denied) : written.LooksUp place name :=
  ⟨stays place looksUp.isFolder, sameDenied ▸ looksUp.mayEnter⟩

theorem Leads.of_stays (leads : files.Leads place names after)
    (stays : ∀ place, files.entry? place = some .folder → written.entry? place = some .folder)
    (sameDenied : written.denied = files.denied) : written.Leads place names after := by
  induction leads with
  | nil => exact .nil
  | cons looksUp step _ ih => exact .cons (looksUp.of_stays stays sameDenied) step ih

/-! ## Writing -/

theorem IsWritable.not_folder (isWritable : files.IsWritable path place) :
    files.entry? place ≠ some .folder := by
  obtain ⟨folder, -, takes⟩ := isWritable
  cases takes with
  | new isFree => simp [isFree]
  | overwrite isFile => simp [isFile]

/-- A file that is put where its path leads to leaves all other places as they were. -/
theorem entry?_put_of_isWritable (isWritable : files.IsWritable path place)
    (differs : other ≠ place) :
    entry? (files.put place (.file bytes)) other = files.entry? other := by
  obtain ⟨folder, endsIn, -⟩ := isWritable
  cases endsIn with
  | intro _ _ _ _ looksUp step =>
    -- Whatever holds the file holds its folder, which is there, and so it was there before too.
    have stands : files.entry? folder ≠ none := by simp [looksUp.isFolder]
    exact entry?_put_of_ne differs fun holds =>
      entry?_ne_none_of_prefix (step.prefix_folder holds differs) stands

/-- A path still leads to a file after that was put there. -/
theorem isPathTo_put_of_isWritable (isWritable : files.IsWritable path place) :
    (files.put place (.file bytes)).IsPathTo path place := by
  -- Folders are not written over, so they stay folders and the way to the file stays the same.
  have stays (other : List String) (isFolder : files.entry? other = some .folder) :
      entry? (files.put place (.file bytes)) other = some .folder := by
    have differs : other ≠ place := by
      rintro rfl
      exact isWritable.not_folder isFolder
    exact (entry?_put_of_isWritable isWritable differs).trans isFolder
  obtain ⟨folder, endsIn, -⟩ := isWritable
  exact ⟨endsIn.isPathTo.wellFormed, endsIn.isPathTo.leads.of_stays stays rfl⟩

/-- What writing does: the path leads to a place in the file system as it was before, where a file
of the bytes stands afterwards.  The path still leads there, and the bytes are read back if they may
be read at all.  Everything else is as before. -/
structure IsWrittenAt (before : FileSystem) (path : String) (bytes : List UInt8)
    (after : FileSystem) (place : List String) : Prop where
  isWritable : before.IsWritable path place
  isPath : after.IsPathTo path place
  isFile : after.entry? place = some (.file bytes)
  isRead : (.read, place) ∉ after.denied → after.read path = .ok bytes
  others : ∀ other, other ≠ place → after.entry? other = before.entry? other
  sameHere : after.here = before.here
  sameDenied : after.denied = before.denied

/-- A file of the bytes was written under the path, and nothing else was done. -/
def IsWritten (before : FileSystem) (path : String) (bytes : List UInt8) (after : FileSystem) :
    Prop :=
  ∃ place, before.IsWrittenAt path bytes after place

theorem isWritten_of_write (writes : files.write path bytes = .ok written) :
    files.IsWritten path bytes written := by
  rw [write] at writes
  cases isTarget : files.target path with
  | error fault =>
    rw [isTarget] at writes
    cases writes
  | ok place =>
    rw [isTarget] at writes
    obtain rfl := Except.ok.inj writes
    have isWritable := target_eq_ok_iff.1 isTarget
    have isPath : (files.put place (.file bytes)).IsPathTo path place :=
      isPathTo_put_of_isWritable isWritable
    have isRead (mayRead : (.read, place) ∉ files.denied) :
        (files.put place (.file bytes)).read path = .ok bytes :=
      read_eq_ok_iff.2 ⟨place, isPath, entry?_put_self, mayRead⟩
    exact ⟨place, isWritable, isPath, entry?_put_self, isRead,
      fun _ => entry?_put_of_isWritable isWritable, rfl, rfl⟩

/-- Writing fails only where no file can be written. -/
theorem not_isWritable_of_write (fails : files.write path bytes = .error fault) :
    ∀ place, ¬ files.IsWritable path place := by
  intro place isWritable
  rw [write, target_eq_ok_iff.2 isWritable] at fails
  cases fails

/-- A file can be written outside of the folder that the command works in. -/
example :
    let files : FileSystem :=
      { entries := [(["home", "jam"], .folder), (["tmp"], .folder)], here := ["home", "jam"] }
    files.write "/tmp/out.txt" [0x78] = .ok (files.put ["tmp", "out.txt"] (.file [0x78])) ∧
      files.write "../out.txt" [0x78] = .ok (files.put ["home", "out.txt"] (.file [0x78])) :=
  ⟨rfl, rfl⟩

end JamLang.FileSystem
