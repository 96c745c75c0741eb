import JamLang.FileSystem
import JamLang.Proofs.Results
import Mathlib.Data.List.Basic

/-!
# Where paths lead

A path is a way through folders, one name after another.  `Leads` relates the place where such a way
starts and the names along it to the place where it ends, and `walk` succeeds on these ways and no
others (`walk_eq_ok_iff`).  So which files can be read (`read_eq_ok_iff`) and where files can be
written (`target_eq_ok_iff`) depends on the tree and on what is denied in it only, wherever in the
tree a path starts or leads.
-/

namespace JamLang.FileSystem

variable {files : FileSystem} {place folder after names above : List String} {name path : String}
  {bytes : List UInt8} {access : Access}

/-! ## Single names -/

/-- A name leads from a folder to a place. -/
inductive Step : (folder : List String) → (name : String) → (place : List String) → Prop where
  | stay {folder : List String} {name : String} (isSame : name = "" ∨ name = ".") :
      Step folder name folder
  | up {folder : List String} : Step folder ".." folder.dropLast
  | down {folder : List String} {name : String} (isName : name ∉ ["", ".", ".."])
      (isShort : name.utf8ByteSize ≤ nameLimit) : Step folder name (folder ++ [name])

theorem child_eq_ok_iff : child folder name = .ok place ↔ Step folder name place := by
  unfold child
  constructor
  · intro leads
    split at leads
    · next isSame =>
      obtain rfl := Except.ok.inj leads
      exact .stay isSame
    · next notSame =>
      split at leads
      · next isUp =>
        obtain rfl := Except.ok.inj leads
        exact isUp ▸ .up
      · next notUp =>
        split at leads
        · cases leads
        · next isShort =>
          obtain rfl := Except.ok.inj leads
          exact .down (by simp_all) (Nat.not_lt.1 isShort)
  · intro step
    cases step with
    | stay isSame => rw [if_pos isSame]
    | up => rfl
    | down isName isShort =>
      simp only [List.mem_cons, List.not_mem_nil, or_false, not_or] at isName
      rw [if_neg (by simp [isName]), if_neg isName.2.2, if_neg (Nat.not_lt.2 isShort)]

/-- A name can be looked up at a place. -/
structure LooksUp (files : FileSystem) (place : List String) (name : String) : Prop where
  isFolder : files.entry? place = some .folder
  mayEnter : name ≠ "" → (.enter, place) ∉ files.denied

theorem requireFolder_eq_ok_iff :
    files.requireFolder place = .ok () ↔ files.entry? place = some .folder := by
  unfold requireFolder
  split <;> simp_all

theorem requireAccess_eq_ok_iff :
    files.requireAccess access place = .ok () ↔ (access, place) ∉ files.denied := by
  unfold requireAccess
  split <;> simp_all

theorem requireLookup_eq_ok_iff :
    files.requireLookup place name = .ok () ↔ files.LooksUp place name := by
  rw [requireLookup, bind_eq_ok]
  constructor
  · rintro ⟨_, isFolder, allowed⟩
    refine ⟨requireFolder_eq_ok_iff.1 isFolder, fun isNamed => ?_⟩
    rw [if_neg isNamed] at allowed
    exact requireAccess_eq_ok_iff.1 allowed
  · intro looksUp
    refine ⟨(), requireFolder_eq_ok_iff.2 looksUp.isFolder, ?_⟩
    split
    · rfl
    · next isNamed => exact requireAccess_eq_ok_iff.2 (looksUp.mayEnter isNamed)

theorem enter_eq_ok_iff :
    files.enter place name = .ok after ↔ files.LooksUp place name ∧ Step place name after := by
  rw [enter, bind_eq_ok, ← requireLookup_eq_ok_iff, ← child_eq_ok_iff]
  exact ⟨fun ⟨_, looksUp, leads⟩ => ⟨looksUp, leads⟩,
    fun ⟨looksUp, leads⟩ => ⟨(), looksUp, leads⟩⟩

/-! ## Ways -/

/-- Names lead from a place to another one. -/
inductive Leads (files : FileSystem) : (place names after : List String) → Prop where
  | nil {place : List String} : Leads files place [] place
  | cons {place next names after : List String} {name : String}
      (looksUp : files.LooksUp place name) (step : Step place name next)
      (rest : Leads files next names after) : Leads files place (name :: names) after

theorem walk_eq_ok_iff : files.walk place names = .ok after ↔ files.Leads place names after := by
  induction names generalizing place with
  | nil =>
    constructor
    · intro walks
      obtain rfl := Except.ok.inj walks
      exact .nil
    · rintro ⟨⟩
      rfl
  | cons name names ih =>
    have walks : files.walk place (name :: names) =
        files.enter place name >>= (files.walk · names) := rfl
    rw [walks, bind_eq_ok]
    constructor
    · rintro ⟨next, enters, rest⟩
      obtain ⟨looksUp, step⟩ := enter_eq_ok_iff.1 enters
      exact .cons looksUp step (ih.1 rest)
    · rintro ⟨⟩
      next next looksUp step rest => exact ⟨next, enter_eq_ok_iff.2 ⟨looksUp, step⟩, ih.2 rest⟩

theorem Leads.concat (leads : files.Leads place above folder) (looksUp : files.LooksUp folder name)
    (step : Step folder name after) : files.Leads place (above ++ [name]) after := by
  -- The way grows at its end, and a way is taken apart at its start.
  induction leads with
  | nil => exact .cons looksUp step .nil
  | cons looksUp' step' rest ih => exact .cons looksUp' step' (ih looksUp step)

/-- A path leads to a place, from the top or from the folder that the command works in. -/
structure IsPathTo (files : FileSystem) (path : String) (place : List String) : Prop where
  wellFormed : malformed? path = none
  leads : files.Leads (files.start path) (splitPath path) place

theorem locate_eq_ok_iff : files.locate path = .ok place ↔ files.IsPathTo path place := by
  unfold locate
  cases malformed : malformed? path with
  | some fault =>
    refine ⟨nofun, fun isPath => ?_⟩
    cases malformed.symm.trans isPath.wellFormed
  | none =>
    exact ⟨fun walks => ⟨malformed, walk_eq_ok_iff.1 walks⟩,
      fun isPath => walk_eq_ok_iff.2 isPath.leads⟩

/-! ## Reading -/

/-- A path leads to a file of the bytes, which may be read. -/
def IsReadable (files : FileSystem) (path : String) (bytes : List UInt8) : Prop :=
  ∃ place, files.IsPathTo path place ∧ files.entry? place = some (.file bytes) ∧
    (.read, place) ∉ files.denied

theorem find_eq_ok_iff : files.find path = .ok bytes ↔ files.IsReadable path bytes := by
  rw [find, bind_eq_ok]
  refine exists_congr fun place => and_congr locate_eq_ok_iff ?_
  rw [← requireAccess_eq_ok_iff]
  -- Access is asked for first, so a folder may be refused for either reason.
  cases files.entry? place with
  | none => simp
  | some entry =>
    dsimp only
    rw [bind_eq_ok]
    cases entry with
    | folder => simp
    | file =>
      constructor
      · rintro ⟨_, allowed, isFile⟩
        obtain rfl := Except.ok.inj isFile
        exact ⟨rfl, allowed⟩
      · rintro ⟨isFile, allowed⟩
        obtain rfl := Entry.file.inj (Option.some.inj isFile)
        exact ⟨(), allowed, rfl⟩

theorem read_eq_ok_iff : files.read path = .ok bytes ↔ files.IsReadable path bytes := by
  rw [← find_eq_ok_iff, read, mapError_eq_ok]

/-! ## Targets -/

/-- A path ends in a name, which leads from a folder to a place. -/
inductive EndsIn (files : FileSystem) (path : String) : (folder place : List String) → Prop where
  | intro {above folder place : List String} {name : String} (wellFormed : malformed? path = none)
      (split : splitPath path = above ++ [name]) (isNamed : name ≠ "")
      (leads : files.Leads (files.start path) above folder) (looksUp : files.LooksUp folder name)
      (step : Step folder name place) : EndsIn files path folder place

theorem EndsIn.isPathTo (endsIn : files.EndsIn path folder place) : files.IsPathTo path place := by
  cases endsIn with
  | intro wellFormed split _ leads looksUp step =>
    exact ⟨wellFormed, split ▸ leads.concat looksUp step⟩

/-- A folder takes a file at a place, as a new one or instead of one that is there. -/
inductive Takes (files : FileSystem) (folder place : List String) : Prop where
  | new (isFree : files.entry? place = none) (mayAdd : (.add, folder) ∉ files.denied)
  | overwrite {bytes : List UInt8} (isFile : files.entry? place = some (.file bytes))
      (mayWrite : (.write, place) ∉ files.denied)

theorem requireWritable_eq_ok_iff :
    files.requireWritable folder place = .ok () ↔ files.Takes folder place := by
  unfold requireWritable
  constructor
  · intro allowed
    split at allowed
    · cases allowed
    · next isFile => exact .overwrite isFile (requireAccess_eq_ok_iff.1 allowed)
    · next isFree => exact .new isFree (requireAccess_eq_ok_iff.1 allowed)
  · intro takes
    cases takes with
    | new isFree mayAdd => simpa only [isFree] using requireAccess_eq_ok_iff.2 mayAdd
    | overwrite isFile mayWrite => simpa only [isFile] using requireAccess_eq_ok_iff.2 mayWrite

/-- A file can be written under a path, and goes to a place. -/
def IsWritable (files : FileSystem) (path : String) (place : List String) : Prop :=
  ∃ folder, files.EndsIn path folder place ∧ files.Takes folder place

/-- What `target` does with a path whose last name is not empty. -/
theorem target_of_split (wellFormed : malformed? path = none)
    (split : splitPath path = above ++ [name]) (isNamed : name ≠ "") :
    files.target path = (do
      let folder ← files.walk (files.start path) above
      files.requireLookup folder name
      let place ← child folder name
      files.requireWritable folder place
      pure place) := by
  have named : ((above ++ [name]).reverse.dropWhile (· = "")).reverse = above ++ [name] := by
    simp [isNamed]
  simp only [target, wellFormed, split, named, List.dropLast_concat, List.getLast?_concat,
    Option.some.injEq, isNamed, if_false, Option.getD_some]

theorem isNamed_of_target (split : splitPath path = above ++ [name])
    (leads : files.target path = .ok place) : malformed? path = none ∧ name ≠ "" := by
  unfold target at leads
  cases malformed : malformed? path with
  | some fault =>
    rw [malformed] at leads
    cases leads
  | none =>
    refine ⟨rfl, fun isNameless => ?_⟩
    -- Such a path is refused, wherever the rest of it leads.
    simp only [malformed, split, isNameless, List.getLast?_concat, if_true] at leads
    obtain ⟨folder, -, leads⟩ := bind_eq_ok.1 leads
    obtain ⟨-, -, leads⟩ := bind_eq_ok.1 leads
    cases leads

theorem target_eq_ok_iff : files.target path = .ok place ↔ files.IsWritable path place := by
  constructor
  · intro leads
    have notEmpty : splitPath path ≠ [] := by simp [splitPath, List.splitOn_ne_nil]
    obtain ⟨above, name, split⟩ := (List.eq_nil_or_concat' _).resolve_left notEmpty
    obtain ⟨wellFormed, isNamed⟩ := isNamed_of_target split leads
    rw [target_of_split wellFormed split isNamed] at leads
    obtain ⟨folder, walks, leads⟩ := bind_eq_ok.1 leads
    obtain ⟨_, looksUp, leads⟩ := bind_eq_ok.1 leads
    obtain ⟨found, isChild, leads⟩ := bind_eq_ok.1 leads
    obtain ⟨_, takes, leads⟩ := bind_eq_ok.1 leads
    obtain rfl := Except.ok.inj leads
    exact ⟨folder,
      .intro wellFormed split isNamed (walk_eq_ok_iff.1 walks) (requireLookup_eq_ok_iff.1 looksUp)
        (child_eq_ok_iff.1 isChild),
      requireWritable_eq_ok_iff.1 takes⟩
  · rintro ⟨folder, endsIn, takes⟩
    cases endsIn with
    | intro wellFormed split isNamed leads looksUp step =>
      rw [target_of_split wellFormed split isNamed]
      refine bind_eq_ok.2 ⟨folder, walk_eq_ok_iff.2 leads, ?_⟩
      refine bind_eq_ok.2 ⟨(), requireLookup_eq_ok_iff.2 looksUp, ?_⟩
      refine bind_eq_ok.2 ⟨place, child_eq_ok_iff.2 step, ?_⟩
      exact bind_eq_ok.2 ⟨(), requireWritable_eq_ok_iff.2 takes, rfl⟩

end JamLang.FileSystem
