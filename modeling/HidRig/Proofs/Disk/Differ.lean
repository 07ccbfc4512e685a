import HidRig.Proofs.Disk.Walk

/-! # Disks that differ in files

Two disks may differ in the files at some places, and nowhere else. A path that leads to one of
those files on one disk leads to one of them on the other, or to nothing.

* `Disk.SameBut`: disks that differ at most in files.
* `Disk.Miss`, `Disk.Near`: the outcome of a walk, as far as it is the same on both.
* `Disk.walkWith_near`, `Disk.resolve_near`: walks on such disks.
* `Disk.resolve_of_avoids`: a path that leads to none of the files.
-/

namespace HidRig.Disk
variable {Image : Type} {files : Place → Prop} {d e : Disk Image}

/-- There is at most a file at a place. -/
def Loose (disk : Disk Image) (place : Place) : Prop :=
  disk.entry? place = none ∨ ∃ id content, disk.entry? place = some (.file id content)

/-- Two disks differ at most in the files at some places. They have one working directory. -/
structure SameBut (files : Place → Prop) (d e : Disk Image) : Prop where
  here : d.here = e.here
  entries : ∀ place, d.entry? place = e.entry? place ∨
    files place ∧ d.Loose place ∧ e.Loose place

/-- A walk that comes to nothing, or to one of some files. -/
inductive Miss (files : Place → Prop) : Except DiskFault (Target Image) → Prop
  | notFound : Miss files (.error .notFound)
  | notDirectory : Miss files (.error .notDirectory)
  | file {place : Place} (mine : files place) (id : FileId) (content : Content Image) :
      Miss files (.ok (.file place id content))

/-- Two walks that come to the same, or miss both. -/
def Near (files : Place → Prop) (r s : Except DiskFault (Target Image)) : Prop :=
  r = s ∨ Miss files r ∧ Miss files s

/-- A turn that comes to nothing, or to one of some files. -/
inductive Turn.Miss (files : Place → Prop) : Except DiskFault (Turn Image) → Prop
  | notFound : Turn.Miss files (.error .notFound)
  | file {place : Place} (mine : files place) (id : FileId) (content : Content Image) :
      Turn.Miss files (.ok (.to (.file place id content)))

theorem turnAt_loose (disk : Disk Image) {up : Place} {part : Bytes} (mine : files (part :: up))
    (loose : disk.Loose (part :: up)) : Turn.Miss files (disk.turnAt up part) := by
  unfold turnAt
  rcases loose with free | ⟨id, content, entry⟩
  · rw [free]
    exact .notFound
  · rw [entry]
    exact .file mine id content

/-- Where a part of a path leads is the same on both disks, or it misses on both. -/
theorem turn_near (same : SameBut files d e) (here : Place) (part : Bytes) :
    d.turn here part = e.turn here part ∨
      Turn.Miss files (d.turn here part) ∧ Turn.Miss files (e.turn here part) := by
  unfold turn
  by_cases idle : Path.isIdle part = true
  · exact .inl (by simp [idle])
  · by_cases dots : part = [Path.dot, Path.dot]
    · exact .inl (by simp [dots])
    · by_cases long : nameLimit < part.length
      · exact .inl (by simp [long])
      · simp only [idle, dots, long]
        rcases same.entries (part :: here) with entry | ⟨mine, loose, loose'⟩
        · exact .inl (by simp [turnAt, entry])
        · exact .inr ⟨d.turnAt_loose mine loose, e.turnAt_loose mine loose'⟩

theorem after_miss (disk : Disk Image)
    (follow : Place → List Bytes → Except DiskFault (Target Image)) (here : Place)
    (rest : List Bytes) {turned : Except DiskFault (Turn Image)} (miss : Turn.Miss files turned) :
    Miss files (disk.after follow here rest turned) := by
  cases miss with
  | notFound => exact .notFound
  | @file place mine id content =>
    cases rest with
    | nil =>
      rw [after, walkWith]
      exact .file mine id content
    | cons part rest =>
      have blocked := disk.walkWith_file follow place id content (List.cons_ne_nil part rest)
      simp only [after, blocked]
      exact .notDirectory

section Walks
variable (same : SameBut files d e)
include same

theorem walkWith_near {follow follow' : Place → List Bytes → Except DiskFault (Target Image)}
    (near : ∀ here parts, Near files (follow here parts) (follow' here parts))
    (there : Target Image) (parts : List Bytes) :
    Near files (d.walkWith follow there parts) (e.walkWith follow' there parts) := by
  induction parts generalizing there with
  | nil => exact .inl (by rw [walkWith, walkWith])
  | cons part rest ih =>
    cases there with
    | file place id content => exact .inl (by rw [walkWith, walkWith])
    | directory here =>
      rw [walkWith_cons, walkWith_cons]
      rcases turn_near same here part with turned | ⟨miss, miss'⟩
      · rw [turned]
        rcases e.turn here part with fault | there | target
        · exact .inl rfl
        · exact ih there
        · exact near _ _
      · -- a file ends the walk, whatever is left of the path
        exact .inr ⟨d.after_miss follow here rest miss, e.after_miss follow' here rest miss'⟩

theorem walk_near (links : Nat) (here : Place) (parts : List Bytes) :
    Near files (d.walk links here parts) (e.walk links here parts) := by
  induction links generalizing here parts with
  | zero => exact walkWith_near same (fun _ _ => .inl rfl) (.directory here) parts
  | succ links ih => exact walkWith_near same ih (.directory here) parts

theorem resolve_near (path : Path) : Near files (d.resolve path) (e.resolve path) := by
  unfold resolve
  rw [same.here]
  split
  · exact .inl rfl
  · split
    · exact .inl rfl
    · split
      · exact .inl rfl
      · exact walk_near same linkLimit _ path.parts

end Walks

/-! ## Paths to other things -/

/-- A path that leads to none of some files. -/
def Avoids (disk : Disk Image) (files : Place → Prop) (path : Path) : Prop :=
  ∀ place id content, disk.resolve path = .ok (.file place id content) → ¬ files place

theorem Avoids.fails {path : Path} (avoids : d.Avoids files path)
    (miss : Miss files (d.resolve path)) :
    d.resolve path = .error .notFound ∨ d.resolve path = .error .notDirectory := by
  generalize leads : d.resolve path = result at miss
  cases miss with
  | notFound => exact .inl rfl
  | notDirectory => exact .inr rfl
  | file mine id content => exact absurd mine (avoids _ id content leads)

section Avoiding
variable (same : SameBut files d e) {path : Path} (avoids : d.Avoids files path)
  (avoids' : e.Avoids files path)
include same avoids avoids'

/-- A path that leads to none of the files comes to the same on both disks, or to nothing on both,
though not always for the same reason. -/
theorem resolve_of_avoids :
    d.resolve path = e.resolve path ∨
      (d.resolve path = .error .notFound ∨ d.resolve path = .error .notDirectory) ∧
        (e.resolve path = .error .notFound ∨ e.resolve path = .error .notDirectory) := by
  rcases resolve_near same path with equal | ⟨miss, miss'⟩
  · exact .inl equal
  · exact .inr ⟨avoids.fails miss, avoids'.fails miss'⟩

theorem file?_of_avoids : d.file? path = e.file? path := by
  unfold file?
  rcases resolve_of_avoids same avoids avoids' with equal | ⟨h | h, h' | h'⟩
  · rw [equal]
  all_goals rw [h, h']

theorem isFile_of_avoids : d.isFile path = e.isFile path :=
  congrArg Option.isSome (file?_of_avoids same avoids avoids')

theorem isThere_of_avoids : d.isThere path = e.isThere path := by
  unfold isThere
  rcases resolve_of_avoids same avoids avoids' with equal | ⟨h | h, h' | h'⟩
  · rw [equal]
  all_goals simp [h, h', Except.isOk, Except.toBool]

theorem place?_of_avoids : d.place? path = e.place? path := by
  unfold place?
  rcases resolve_of_avoids same avoids avoids' with equal | ⟨h | h, h' | h'⟩
  · rw [equal]
  all_goals rw [h, h']

end Avoiding

/-! ## One file more -/

theorem lookup_filter_ne {place other : Place} (apart : other ≠ place)
    (entries : List (Place × Entry Image)) :
    (entries.filter fun e => e.1 ≠ place).lookup other = entries.lookup other := by
  induction entries with
  | nil => rfl
  | cons first rest ih =>
    obtain ⟨key, entry⟩ := first
    by_cases skipped : key = place
    · have different : (other == key) = false :=
        beq_false_of_ne fun same => apart (same.trans skipped)
      rw [List.filter_cons_of_neg (by simpa using skipped), ih, List.lookup_cons, different]
    · rw [List.filter_cons_of_pos (by simpa using skipped), List.lookup_cons, List.lookup_cons, ih]

theorem entry?_set {disk : Disk Image} {place : Place} (below : place.isSuffixOf disk.here = false)
    (other : Place) (entry : Entry Image) :
    Disk.entry? (disk.set place entry) other =
      if other = place then some entry else disk.entry? other := by
  unfold set entry?
  rw [List.lookup_cons]
  by_cases here : other = place
  · subst here
    simp [below]
  · rw [beq_false_of_ne here, if_neg here]
    split
    · rfl
    · exact lookup_filter_ne here disk.entries

/-- Where there is at most a file there is no directory that leads to the working directory. -/
theorem Loose.below {disk : Disk Image} {place : Place} (loose : disk.Loose place) :
    place.isSuffixOf disk.here = false := by
  refine Bool.eq_false_iff.mpr fun above => ?_
  have entry : disk.entry? place = some .directory := by
    rw [ entry?, if_pos above]
  rcases loose with free | ⟨id, content, file⟩
  · cases entry.symm.trans free
  · cases entry.symm.trans file

/-- A file that is put where there is at most a file. -/
theorem sameBut_set {disk : Disk Image} {place : Place} (loose : disk.Loose place)
    (id : FileId) (content : Content Image) :
    SameBut (· = place) (disk.set place (.file id content)) disk := by
  refine ⟨rfl, fun other => ?_⟩
  have looked := entry?_set loose.below other (.file id content)
  by_cases here : other = place
  · rw [if_pos here] at looked
    exact .inr ⟨here, .inr ⟨id, content, looked⟩, here ▸ loose⟩
  · exact .inl (looked.trans (if_neg here))

theorem avoids_of_place? {disk : Disk Image} {place : Place} {path : Path}
    (apart : disk.place? path ≠ some place) : disk.Avoids (· = place) path := by
  rintro other id content leads rfl
  apply apart
  rw [place?, leads]

end HidRig.Disk
