import HidRig.Disk
import HidRig.Proofs.Paths.Steps

/-! # Walks over a directory tree

* `Disk.turn`, `Disk.walkWith_cons`: where one part of a path leads, and a walk as one turn after
  another.
* `Path.SameWay`, `Disk.resolve_of_sameRoute`: paths that take the same steps lead to the same place
  on every disk.
* `Disk.Standing`, `Disk.standing_resolve`: what a walk comes to is an entry of the disk.
* `Disk.of_walk_append`: a walk that ends with a name goes through the directory with that entry.
-/

namespace HidRig

namespace Disk
variable {Image : Type} (disk : Disk Image)

/-! ## Turns -/

/-- What is behind one part of a path: a place to go on from, or a link to follow. -/
inductive Turn (Image : Type) where
  | to (there : Target Image)
  | over (target : Path)

/-- What one part of a path leads to in a directory, by the entry there. -/
def turnAt (up : Place) (part : Bytes) : Except DiskFault (Turn Image) :=
  match disk.entry? (part :: up) with
  | none => .error .notFound
  | some .directory => .ok (.to (.directory (part :: up)))
  | some (.file id content) => .ok (.to (.file (part :: up) id content))
  | some (.link target) => if target = [] then .error .notFound else .ok (.over target)

/-- What one part of a path leads to in a directory. -/
def turn (here : Place) (part : Bytes) : Except DiskFault (Turn Image) :=
  if Path.isIdle part then .ok (.to (.directory here))
  else if part = [Path.dot, Path.dot] then .ok (.to (.directory here.tail))
  else if nameLimit < part.length then .error .nameTooLong
  else disk.turnAt here part

/-- How a walk goes on after a turn. -/
def after (follow : Place → List Bytes → Except DiskFault (Target Image)) (here : Place)
    (rest : List Bytes) : Except DiskFault (Turn Image) → Except DiskFault (Target Image)
  | .error fault => .error fault
  | .ok (.to there) => disk.walkWith follow there rest
  | .ok (.over target) => follow (startOf target here) (target.parts ++ rest)

theorem walkWith_cons (follow : Place → List Bytes → Except DiskFault (Target Image))
    (here : Place) (part : Bytes) (rest : List Bytes) :
    disk.walkWith follow (.directory here) (part :: rest) =
      disk.after follow here rest (disk.turn here part) := by
  unfold walkWith turn
  by_cases idle : Path.isIdle part = true
  · simp [idle, after]
  · by_cases up : part = [Path.dot, Path.dot]
    · have busy : Path.isIdle [Path.dot, Path.dot] = false := by decide
      simp [busy, up, after]
    · by_cases long : nameLimit < part.length
      · simp [idle, up, long, after]
      · simp only [idle, up, long, turnAt]
        cases disk.entry? (part :: here) with
        | none => rfl
        | some entry =>
          cases entry with
          | directory => rfl
          | file id content => rfl
          | link target => by_cases empty : target = [] <;> simp [empty, after]

theorem walkWith_file (follow : Place → List Bytes → Except DiskFault (Target Image))
    (place : Place) (id : FileId) (content : Content Image) {rest : List Bytes} (h : rest ≠ []) :
    disk.walkWith follow (.file place id content) rest = .error .notDirectory := by
  obtain ⟨part, rest, rfl⟩ := List.exists_cons_of_ne_nil h
  rw [walkWith]

end Disk

/-! ## The same way -/

/-- Two lists of parts that differ in idle parts only, none of them at the end. -/
inductive Path.SameWay : List Bytes → List Bytes → Prop
  | refl (parts : List Bytes) : SameWay parts parts
  | cons (part : Bytes) {xs ys : List Bytes} (rest : SameWay xs ys) :
      SameWay (part :: xs) (part :: ys)
  | idle {part : Bytes} (idle : Path.isIdle part = true) {xs ys : List Bytes} (more : xs ≠ [])
      (rest : SameWay xs ys) : SameWay (part :: xs) ys

namespace Path.SameWay
variable {xs ys : List Bytes}

theorem ne_nil (h : SameWay xs ys) (hx : xs ≠ []) : ys ≠ [] := by
  induction h with
  | refl => exact hx
  | cons => simp
  | idle _ more _ ih => exact ih more

theorem append_left (h : SameWay xs ys) (zs : List Bytes) : SameWay (zs ++ xs) (zs ++ ys) := by
  induction zs with
  | nil => exact h
  | cons z zs ih => exact .cons z ih

theorem filter (front : List Bytes) (last : Bytes) :
    SameWay (front ++ [last]) ((front.filter fun part => !isIdle part) ++ [last]) := by
  induction front with
  | nil => exact .refl _
  | cons part front ih =>
    by_cases h : isIdle part
    · simpa [h] using SameWay.idle h (by simp) ih
    · simpa [h] using SameWay.cons part ih

end Path.SameWay

/-- The last part of the path leads somewhere. -/
def Path.Ends (path : Path) : Prop :=
  ∃ front last, path.parts = front ++ [last] ∧ Path.isIdle last = false

theorem Path.hasNull_iff (path : Path) :
    path.hasNull = true ↔ ∃ part ∈ path.steps, 0 ∈ part := by
  have mem : (0 : UInt8) ∈ path ↔ ∃ part ∈ path.parts, 0 ∈ part := Bytes.mem_splitBy (by decide)
  rw [Path.hasNull, List.contains_iff_mem, mem]
  constructor
  · rintro ⟨part, hp, zero⟩
    have busy : Path.isIdle part = false := by
      apply Bool.eq_false_iff.mpr
      intro idle
      rcases Bool.or_eq_true_iff.mp idle with h | h
      · simp [of_decide_eq_true h] at zero
      · simp [of_decide_eq_true h, Path.dot] at zero
    exact ⟨part, List.mem_filter.mpr ⟨hp, by simp [busy]⟩, zero⟩
  · rintro ⟨part, hp, zero⟩
    exact ⟨part, (List.mem_filter.mp hp).1, zero⟩

namespace Disk
variable {Image : Type} (disk : Disk Image) {xs ys : List Bytes}

theorem walkWith_sameWay {follow : Place → List Bytes → Except DiskFault (Target Image)}
    (congr : ∀ here us vs, Path.SameWay us vs → follow here us = follow here vs)
    (h : Path.SameWay xs ys) (there : Target Image) :
    disk.walkWith follow there xs = disk.walkWith follow there ys := by
  induction h generalizing there with
  | refl => rfl
  | cons part rest ih =>
    cases there with
    | file place id content =>
      rw [disk.walkWith_file follow place id content (by simp),
        disk.walkWith_file follow place id content (by simp)]
    | directory here =>
      rw [walkWith_cons, walkWith_cons]
      match disk.turn here part with
      | .error fault => rfl
      | .ok (.to there) => exact ih there
      | .ok (.over target) => exact congr _ _ _ (rest.append_left target.parts)
  | idle idle more rest ih =>
    -- an idle part keeps the walk where it is, unless that is a file: then the parts after it fail too
    cases there with
    | file place id content =>
      rw [disk.walkWith_file follow place id content (by simp),
        disk.walkWith_file follow place id content (rest.ne_nil more)]
    | directory here =>
      rw [walkWith_cons]
      simpa [turn, idle, after] using ih _

theorem walk_sameWay (links : Nat) (h : Path.SameWay xs ys) (here : Place) :
    disk.walk links here xs = disk.walk links here ys := by
  induction links generalizing xs ys here with
  | zero => exact disk.walkWith_sameWay (fun _ _ _ _ => rfl) h (.directory here)
  | succ links ih =>
    exact disk.walkWith_sameWay (fun there us vs same => ih same there) h (.directory here)

/-- Paths that take the same steps lead to the same place, unless one of them is too long. -/
theorem resolve_of_sameRoute {path other : Path} (route : path.SameRoute other) (ends : path.Ends)
    (ends' : other.Ends) (short : path.length < pathLimit) (short' : other.length < pathLimit) :
    disk.resolve path = disk.resolve other := by
  obtain ⟨front, last, split, hl⟩ := ends
  obtain ⟨front', last', split', hl'⟩ := ends'
  have steps := route.steps
  rw [Path.steps_of_parts split hl, Path.steps_of_parts split' hl'] at steps
  obtain ⟨fronts, lasts⟩ := List.append_inj_left' steps rfl, List.append_inj_right' steps rfl
  have walks (here : Place) :
      disk.walk linkLimit here path.parts = disk.walk linkLimit here other.parts := by
    rw [split, split', disk.walk_sameWay linkLimit (.filter front last),
      disk.walk_sameWay linkLimit (.filter front' last'), fronts, lasts]
  have null : path.hasNull = other.hasNull := by
    rw [Bool.eq_iff_iff, Path.hasNull_iff, Path.hasNull_iff, route.steps]
  have start : startOf path disk.here = startOf other disk.here := by
    rw [startOf, startOf, route.start]
  unfold resolve
  rw [null, if_neg (Path.ne_nil_of_parts split hl), if_neg (Path.ne_nil_of_parts split' hl'),
    if_neg (Nat.not_le.mpr short), if_neg (Nat.not_le.mpr short'), start, walks]

/-! ## What a walk comes to -/

/-- The directories that lead to a place are all on the disk. -/
def IsOpen (disk : Disk Image) : Place → Prop
  | [] => True
  | part :: up => disk.entry? (part :: up) = some .directory ∧ disk.IsOpen up

/-- A target is on the disk. -/
def Standing : Target Image → Prop
  | .directory place => disk.IsOpen place
  | .file place id content => disk.entry? place = some (.file id content) ∧ place ≠ []

theorem isOpen_of_suffix {place : Place} (h : place <:+ disk.here) : disk.IsOpen place := by
  induction place with
  | nil => trivial
  | cons part up ih =>
    have entry : disk.entry? (part :: up) = some .directory := by
      rw [ entry?, if_pos (List.isSuffixOf_iff_suffix.mpr h)]
    exact ⟨entry, ih ((List.suffix_cons part up).trans h)⟩

variable {disk}

theorem IsOpen.tail {here : Place} (h : disk.IsOpen here) : disk.IsOpen here.tail := by
  cases here with
  | nil => trivial
  | cons part up => exact h.2

theorem IsOpen.startOf {here : Place} (h : disk.IsOpen here) (path : Path) :
    disk.IsOpen (startOf path here) := by
  unfold Disk.startOf
  split
  · trivial
  · exact h

theorem Standing.turn {here : Place} {there : Target Image} (h : disk.IsOpen here) {part : Bytes}
    (ht : disk.turn here part = .ok (.to there)) : disk.Standing there := by
  unfold Disk.turn at ht
  split at ht
  · cases ht; exact h
  · split at ht
    · cases ht; exact h.tail
    · split at ht
      · cases ht
      · unfold turnAt at ht
        split at ht
        · cases ht
        · rename_i entry
          cases ht
          exact ⟨entry, h⟩
        · rename_i entry
          cases ht
          exact ⟨entry, List.cons_ne_nil _ _⟩
        · split at ht <;> cases ht

theorem Standing.walkWith {follow : Place → List Bytes → Except DiskFault (Target Image)}
    (follows : ∀ here parts there, disk.IsOpen here → follow here parts = .ok there →
      disk.Standing there)
    {start there : Target Image} (h : disk.Standing start) {parts : List Bytes}
    (hw : disk.walkWith follow start parts = .ok there) : disk.Standing there := by
  induction parts generalizing start with
  | nil =>
    rw [Disk.walkWith] at hw
    cases hw
    exact h
  | cons part rest ih =>
    cases start with
    | file place id content =>
      rw [disk.walkWith_file follow place id content (by simp)] at hw
      cases hw
    | directory here =>
      rw [walkWith_cons] at hw
      match turned : disk.turn here part with
      | .error fault => rw [turned] at hw; cases hw
      | .ok (.to next) => rw [turned] at hw; exact ih (.turn h turned) hw
      | .ok (.over target) =>
        rw [turned] at hw
        exact follows _ _ _ (IsOpen.startOf h target) hw

theorem IsOpen.walk (links : Nat) {here : Place} (h : disk.IsOpen here) {parts : List Bytes}
    {there : Target Image} (hw : disk.walk links here parts = .ok there) :
    disk.Standing there := by
  have standing : disk.Standing (.directory here) := h
  induction links generalizing here parts there with
  | zero => exact standing.walkWith (fun _ _ _ _ found => by cases found) hw
  | succ links ih => exact standing.walkWith (fun _ _ _ start found => ih start found start) hw

/-- What a path leads to is an entry of the disk. -/
theorem standing_resolve {path : Path} {there : Target Image}
    (h : disk.resolve path = .ok there) : disk.Standing there := by
  unfold resolve at h
  split at h
  · cases h
  · split at h
    · cases h
    · split at h
      · cases h
      · exact ((disk.isOpen_of_suffix List.suffix_rfl).startOf path).walk linkLimit h

/-! ### The last part of a walk -/

/-- A walk that ends with a name ends at an entry of the directory that it is in before. -/
theorem of_walkWith_append {follow : Place → List Bytes → Except DiskFault (Target Image)}
    {last : Bytes} (busy : Path.isIdle last = false) (down : last ≠ [Path.dot, Path.dot])
    (follows : ∀ here parts there, follow here (parts ++ [last]) = .ok there →
      ∃ up, follow here parts = .ok (.directory up) ∧ (disk.entry? (last :: up)).isSome)
    {start there : Target Image} {parts : List Bytes}
    (h : disk.walkWith follow start (parts ++ [last]) = .ok there) :
    ∃ up, disk.walkWith follow start parts = .ok (.directory up) ∧
      (disk.entry? (last :: up)).isSome := by
  induction parts generalizing start with
  | nil =>
    cases start with
    | file place id content =>
      rw [disk.walkWith_file follow place id content (by simp)] at h
      cases h
    | directory up =>
      refine ⟨up, by rw [walkWith], ?_⟩
      rw [List.nil_append, walkWith_cons] at h
      cases entry : disk.entry? (last :: up) with
      | some entry => rfl
      | none =>
        by_cases long : nameLimit < last.length <;>
          simp [turn, turnAt, busy, down, long, after, entry] at h
  | cons part rest ih =>
    cases start with
    | file place id content =>
      rw [disk.walkWith_file follow place id content (by simp)] at h
      cases h
    | directory here =>
      rw [List.cons_append, walkWith_cons] at h
      rw [walkWith_cons]
      match turned : disk.turn here part with
      | .error fault => rw [turned] at h; cases h
      | .ok (.to next) => rw [turned] at h; exact ih h
      | .ok (.over target) =>
        rw [turned] at h
        exact follows _ (target.parts ++ rest) _ (by rw [List.append_assoc]; exact h)

theorem of_walk_append {last : Bytes} (busy : Path.isIdle last = false)
    (down : last ≠ [Path.dot, Path.dot]) (links : Nat) {here : Place} {parts : List Bytes}
    {there : Target Image} (h : disk.walk links here (parts ++ [last]) = .ok there) :
    ∃ up, disk.walk links here parts = .ok (.directory up) ∧
      (disk.entry? (last :: up)).isSome := by
  induction links generalizing here parts there with
  | zero => exact of_walkWith_append busy down (fun _ _ _ none => by cases none) h
  | succ links ih =>
    have follows (here : Place) (parts : List Bytes) (there : Target Image) :
        disk.walk links here (parts ++ [last]) = .ok there →
          ∃ up, disk.walk links here parts = .ok (.directory up) ∧
            (disk.entry? (last :: up)).isSome :=
      fun found => ih found
    exact of_walkWith_append busy down follows h

theorem resolve_of_file? {path : Path} {id : FileId} {content : Content Image}
    (h : disk.file? path = some (id, content)) :
    ∃ place, disk.resolve path = .ok (.file place id content) := by
  unfold file? at h
  split at h
  · cases h
    exact ⟨_, ‹_›⟩
  · cases h

end Disk

end HidRig
