import HidRig.Path

/-! # The steps of a path

Empty parts and single dots lead nowhere. Without them, a path is a list of steps from the root or
from where it is seen.

* `Path.steps`, `Path.SameRoute`: the parts of a path that lead somewhere, and paths that lead the
  same way whatever the files are.
* `Path.steps_join`, `Path.steps_parent`: the steps of a path followed from another, and of the path
  without its last part.
-/

namespace HidRig

/-! ## Pieces between separators -/

namespace Bytes
variable {isSeparator : UInt8 → Bool} {xs ys last : Bytes} {front : List Bytes}

theorem splitBy_append_cons {b : UInt8} (hb : isSeparator b = true) (xs ys : Bytes) :
    splitBy isSeparator (xs ++ b :: ys) =
      splitBy isSeparator xs ++ splitBy isSeparator ys := by
  induction xs with
  | nil => simp [splitBy, hb]
  | cons x xs ih =>
    simp only [List.cons_append, splitBy, ih]
    by_cases hx : isSeparator x = true
    · simp [hx]
    · obtain ⟨piece, pieces, split⟩ :=
        List.exists_cons_of_ne_nil (splitBy_ne_nil isSeparator xs)
      simp [hx, split]

theorem splitBy_eq_singleton (h : ∀ b ∈ xs, isSeparator b = false) :
    splitBy isSeparator xs = [xs] := by
  induction xs with
  | nil => rfl
  | cons b xs ih =>
    have hb : isSeparator b = false := h b (by simp)
    have rest := ih fun x hx => h x (by simp [hx])
    simp [splitBy, hb, rest]

/-- What has no separator goes on with the last piece. -/
theorem splitBy_append (h : splitBy isSeparator xs = front ++ [last])
    (hy : ∀ b ∈ ys, isSeparator b = false) :
    splitBy isSeparator (xs ++ ys) = front ++ [last ++ ys] := by
  induction xs generalizing front last with
  | nil =>
    cases front with
    | nil =>
      obtain rfl : [] = last := by simpa [splitBy] using h
      exact splitBy_eq_singleton hy
    | cons first front => simp [splitBy] at h
  | cons b xs ih =>
    obtain ⟨piece, pieces, split⟩ := List.exists_cons_of_ne_nil (splitBy_ne_nil isSeparator xs)
    by_cases hb : isSeparator b = true
    · simp only [splitBy, hb, if_true] at h
      cases front with
      | nil => simp [split] at h
      | cons first front =>
        simp only [List.cons_append, List.cons.injEq] at h
        simp [splitBy, hb, ih h.2, h.1]
    · simp only [splitBy, hb, split] at h
      cases front with
      | nil =>
        simp at h
        have rest : splitBy isSeparator xs = [] ++ [piece] := by rw [split, h.2]; rfl
        simp [splitBy, hb, ih rest, ← h.1]
      | cons first front =>
        simp at h
        have rest : splitBy isSeparator xs = (piece :: front) ++ [last] := by rw [split, h.2]; rfl
        simp [splitBy, hb, ih rest, ← h.1]

theorem isSeparator_of_mem_splitBy {piece : Bytes} (h : piece ∈ splitBy isSeparator xs) :
    ∀ b ∈ piece, isSeparator b = false := by
  induction xs generalizing piece with
  | nil => simp_all [splitBy]
  | cons x xs ih =>
    obtain ⟨first, pieces, split⟩ := List.exists_cons_of_ne_nil (splitBy_ne_nil isSeparator xs)
    by_cases hx : isSeparator x = true
    · simp only [splitBy, hx, if_true, List.mem_cons] at h
      rcases h with rfl | h
      · simp
      · exact ih h
    · simp only [splitBy, hx, split] at h
      rcases List.mem_cons.mp h with rfl | h
      · intro b hb
        rcases List.mem_cons.mp hb with rfl | hb
        · simpa using hx
        · exact ih (by simp [split]) b hb
      · exact ih (by simp [split, h])

theorem splitBy_joinWith {separator : UInt8} (hs : isSeparator separator = true) :
    ∀ {pieces : List Bytes}, pieces ≠ [] →
      (∀ piece ∈ pieces, ∀ b ∈ piece, isSeparator b = false) →
      splitBy isSeparator (joinWith separator pieces) = pieces
  | [], h, _ => absurd rfl h
  | [piece], _, hp => splitBy_eq_singleton (hp piece (by simp))
  | piece :: next :: pieces, _, hp => by
    have rest := splitBy_joinWith hs (List.cons_ne_nil next pieces)
      fun p h => hp p (List.mem_cons_of_mem _ h)
    have first := splitBy_eq_singleton (hp piece (by simp))
    rw [joinWith, splitBy_append_cons hs, first, rest]
    · rfl
    · simp

theorem mem_splitBy {b : UInt8} (hb : isSeparator b = false) :
    b ∈ xs ↔ ∃ piece ∈ splitBy isSeparator xs, b ∈ piece := by
  induction xs with
  | nil => simp [splitBy]
  | cons x xs ih =>
    obtain ⟨first, pieces, split⟩ := List.exists_cons_of_ne_nil (splitBy_ne_nil isSeparator xs)
    by_cases hx : isSeparator x = true
    · have other : b ≠ x := by
        rintro rfl
        simp [hb] at hx
      simp [splitBy, hx, ih, other]
    · simp [splitBy, hx, split, ih, or_assoc]

end Bytes

/-! ## Steps -/

namespace Path
variable {path other last : Path} {front : List Bytes}

/-- The parts of a path that lead somewhere. -/
def steps (path : Path) : List Bytes :=
  path.parts.filter fun part => !isIdle part

/-- Two paths that take the same steps from the same start. -/
structure SameRoute (path other : Path) : Prop where
  start : path.isAbsolute = other.isAbsolute
  steps : path.steps = other.steps

theorem slash_not_mem_of_mem_parts {part : Bytes} (h : part ∈ path.parts) : slash ∉ part := by
  intro hs
  have := Bytes.isSeparator_of_mem_splitBy h slash hs
  simp at this

theorem parts_append_slash (path other : Path) :
    (path ++ slash :: other).parts = path.parts ++ other.parts :=
  Bytes.splitBy_append_cons (by simp) path other

theorem parts_append (h : path.parts = front ++ [last]) (ho : slash ∉ other) :
    (path ++ other).parts = front ++ [last ++ other] := by
  refine Bytes.splitBy_append h fun b hb => ?_
  have : b ≠ slash := fun same => ho (same ▸ hb)
  simpa using this

theorem steps_append_slash (path other : Path) :
    (path ++ slash :: other).steps = path.steps ++ other.steps := by
  rw [steps, parts_append_slash, List.filter_append]
  rfl

@[simp] theorem steps_nil : steps [] = [] := by
  decide

theorem steps_of_parts (h : path.parts = front ++ [last]) (hl : isIdle last = false) :
    path.steps = (front.filter fun part => !isIdle part) ++ [last] := by
  rw [steps, h, List.filter_append]
  simp [hl]

theorem ne_nil_of_parts (h : path.parts = front ++ [last]) (hl : isIdle last = false) :
    path ≠ [] := by
  intro empty
  have none := steps_of_parts h hl
  rw [empty, steps_nil] at none
  simp at none

theorem isAbsolute_append (h : path ≠ []) (other : Path) :
    (path ++ other).isAbsolute = path.isAbsolute := by
  obtain ⟨b, rest, rfl⟩ := List.exists_cons_of_ne_nil h
  rfl

/-! ### A path followed from another -/

theorem join_of_absolute (dir : Path) (h : other.isAbsolute = true) : dir.join other = other := by
  simp [join, h]

theorem steps_join (dir : Path) (h : other.isAbsolute = false) :
    (dir.join other).steps = dir.steps ++ other.steps := by
  unfold join
  rw [if_neg (by simp [h])]
  split
  · rename_i bare
    rcases bare with rfl | ends
    · simp
    · -- the slash at the end is the one between the two
      obtain ⟨front, rfl⟩ := List.getLast?_eq_some_iff.mp ends
      have closed : steps (front ++ [slash]) = steps front := by
        rw [steps_append_slash, steps_nil, List.append_nil]
      rw [closed, List.append_assoc]
      exact steps_append_slash front other
  · exact steps_append_slash dir other

theorem isAbsolute_join (dir : Path) (h : other.isAbsolute = false) :
    (dir.join other).isAbsolute = dir.isAbsolute := by
  unfold join
  rw [if_neg (by simp [h])]
  by_cases empty : dir = []
  · subst empty
    simpa [isAbsolute] using h
  · split <;> exact isAbsolute_append empty _

/-- What is put behind a path may be put behind its last part first. -/
theorem join_append (dir : Path) (h : path ≠ []) (other : Path) :
    dir.join (path ++ other) = dir.join path ++ other := by
  unfold join
  rw [isAbsolute_append h]
  split
  · rfl
  · split <;> simp

theorem slash_mem_join (dir : Path) (h : other.isAbsolute = false) :
    slash ∈ dir.join other ↔ dir ≠ [] ∨ slash ∈ other := by
  unfold join
  rw [if_neg (by simp [h])]
  by_cases empty : dir = []
  · simp [empty]
  · split
    · rename_i ends
      have closed := List.mem_of_getLast? (ends.resolve_left empty)
      simp [empty, closed]
    · simp [empty]

/-! ### A path without its last part -/

theorem anchor_cases (path : Path) :
    path.take (anchorLength path) = [] ∧ path.drop (anchorLength path) = path ∧
        path.isAbsolute = false ∨
      (∃ rest, path = slash :: rest) ∨
      ∃ rest, path = dot :: rest ∧ (rest = [] ∨ rest.head? = some slash) := by
  cases path with
  | nil => exact .inl ⟨rfl, rfl, rfl⟩
  | cons b rest =>
    by_cases root : b = slash
    · exact .inr (.inl ⟨rest, by rw [root]⟩)
    · by_cases here : b = dot ∧ (rest = [] ∨ rest.head? = some slash)
      · exact .inr (.inr ⟨rest, by rw [here.1], here.2⟩)
      · have zero : anchorLength (b :: rest) = 0 := by
          rw [anchorLength, if_neg root, if_neg here]
        exact .inl ⟨by simp [zero], by simp [zero], by simp [isAbsolute, root]⟩

/-- The parts before the idle ones at the end. -/
def trimmed (parts : List Bytes) : List Bytes :=
  (parts.reverse.dropWhile isIdle).reverse

theorem filter_trimmed (parts : List Bytes) :
    (trimmed parts).filter (fun part => !isIdle part) = parts.filter fun part => !isIdle part := by
  rw [trimmed, List.filter_reverse, List.reverse_eq_iff, ← List.filter_reverse]
  generalize parts.reverse = reversed
  induction reversed with
  | nil => rfl
  | cons part rest ih =>
    by_cases idle : isIdle part
    · simp [idle, ih]
    · simp [idle]

theorem trimmed_within (parts : List Bytes) : trimmed parts <+: parts := by
  have suffix := List.dropWhile_suffix (l := parts.reverse) isIdle
  simpa [trimmed] using List.reverse_prefix.mpr suffix

theorem trimmed_cons {first : Bytes} {body others : List Bytes} {part : Bytes}
    (h : trimmed (part :: body) = first :: others) : first = part := by
  obtain ⟨rest, whole⟩ := trimmed_within (part :: body)
  rw [h] at whole
  simp at whole
  exact whole.1

theorem joinWith_cons (piece : Bytes) (pieces : List Bytes) :
    ∃ rest, Bytes.joinWith slash (piece :: pieces) = piece ++ rest ∧
      (rest = [] ∨ rest.head? = some slash) := by
  cases pieces with
  | nil => exact ⟨[], by simp [Bytes.joinWith], .inl rfl⟩
  | cons next pieces => exact ⟨slash :: _, rfl, .inr rfl⟩

theorem steps_joinWith_trimmed {parts : List Bytes} (h : ∀ piece ∈ parts, slash ∉ piece) :
    steps (Bytes.joinWith slash (trimmed parts)) = parts.filter fun part => !isIdle part := by
  rw [← filter_trimmed parts]
  have kept : ∀ piece ∈ trimmed parts, slash ∉ piece :=
    fun piece hp => h piece ((trimmed_within parts).subset hp)
  by_cases empty : trimmed parts = []
  · rw [empty]
    exact steps_nil
  · have split : Path.parts (Bytes.joinWith slash (trimmed parts)) = trimmed parts := by
      refine Bytes.splitBy_joinWith (by simp) empty fun piece hp b hb => ?_
      have : b ≠ slash := fun same => kept piece hp (same ▸ hb)
      simpa using this
    rw [steps, split]

theorem parent?_eq (h : parts (path.drop (anchorLength path)) = front ++ [last])
    (hl : isIdle last = false) :
    path.parent? =
      some (path.take (anchorLength path) ++ Bytes.joinWith slash (trimmed front)) := by
  have kept : (front ++ [last]).reverse.dropWhile isIdle = last :: front.reverse := by
    simp [hl]
  simp only [parent?, h, kept]
  rfl

theorem parts_slash_cons (rest : Path) : parts (slash :: rest) = [] :: parts rest :=
  parts_append_slash [] rest

theorem parts_cons {b : UInt8} (hb : b ≠ slash) (rest : Path) :
    ∃ piece pieces, parts (b :: rest) = (b :: piece) :: pieces := by
  obtain ⟨piece, pieces, split⟩ :=
    List.exists_cons_of_ne_nil (Bytes.splitBy_ne_nil (· = slash) rest)
  exact ⟨piece, pieces, by simp [parts, Bytes.splitBy, hb, split]⟩

theorem front_of_cons_parts {first : Bytes} {rest : Path}
    (h : first :: rest.parts = front ++ [last]) :
    ∃ body, front = first :: body ∧ rest.parts = body ++ [last] := by
  cases front with
  | nil => simp [parts, Bytes.splitBy_ne_nil] at h
  | cons part body =>
    simp at h
    exact ⟨body, by rw [← h.1], h.2⟩

theorem steps_slash_cons (rest : Path) : steps (slash :: rest) = steps rest := by
  have split := steps_append_slash [] rest
  rwa [steps_nil, List.nil_append, List.nil_append] at split

theorem steps_dot_cons {rest : Path} (h : rest = [] ∨ rest.head? = some slash) :
    steps (dot :: rest) = steps rest := by
  rcases h with rfl | h
  · decide
  · obtain ⟨more, rfl⟩ := List.head?_eq_some_iff.mp h
    have split : steps ([dot] ++ slash :: more) = steps [dot] ++ steps more :=
      steps_append_slash [dot] more
    have idle : steps [dot] = [] := by decide
    rw [idle, List.nil_append] at split
    rw [steps_slash_cons]
    exact split

section Parent
variable (hl : isIdle last = false)
include hl

theorem steps_parent_of_relative (h : path.parts = front ++ [last])
    (relative : path.isAbsolute = false) (taken : path.take (anchorLength path) = [])
    (dropped : path.drop (anchorLength path) = path) :
    ∃ dir, path.parent? = some dir ∧ dir.isAbsolute = false ∧
      dir.steps = front.filter fun part => !isIdle part := by
  have found := parent?_eq (by rw [dropped]; exact h) hl
  rw [taken, List.nil_append] at found
  have plain : ∀ piece ∈ front, slash ∉ piece :=
    fun piece hp => slash_not_mem_of_mem_parts (h ▸ List.mem_append_left _ hp)
  refine ⟨_, found, ?_, steps_joinWith_trimmed plain⟩
  -- what is kept starts with the first part, which is not empty
  obtain ⟨b, rest, rfl⟩ := List.exists_cons_of_ne_nil (ne_nil_of_parts h hl)
  have hb : b ≠ slash := by simpa [isAbsolute] using relative
  obtain ⟨piece, pieces, split⟩ := parts_cons hb rest
  cases kept : trimmed front with
  | nil => rfl
  | cons first others =>
    obtain ⟨part, body, rfl⟩ : ∃ part body, front = part :: body := by
      cases front with
      | nil => simp [trimmed] at kept
      | cons part body => exact ⟨part, body, rfl⟩
    obtain rfl : b :: piece = part := by
      rw [split] at h
      simp at h
      exact h.1
    obtain ⟨tail, joined, -⟩ := joinWith_cons first others
    rw [joined, trimmed_cons kept]
    simp [isAbsolute, hb]

theorem steps_parent_of_root {rest : Path} (h : parts (slash :: rest) = front ++ [last]) :
    ∃ dir, parent? (slash :: rest) = some dir ∧ dir.isAbsolute = true ∧
      dir.steps = front.filter fun part => !isIdle part := by
  rw [parts_slash_cons] at h
  obtain ⟨body, rfl, split⟩ := front_of_cons_parts h
  have one : anchorLength (slash :: rest) = 1 := by simp [anchorLength]
  have found : parent? (slash :: rest) = some _ := parent?_eq (by rw [one]; exact split) hl
  rw [one] at found
  have plain : ∀ piece ∈ body, slash ∉ piece :=
    fun piece hp => slash_not_mem_of_mem_parts (split ▸ List.mem_append_left _ hp)
  refine ⟨_, found, rfl, ?_⟩
  calc steps (slash :: Bytes.joinWith slash (trimmed body))
    _ = steps (Bytes.joinWith slash (trimmed body)) := steps_slash_cons _
    _ = body.filter (fun part => !isIdle part) := steps_joinWith_trimmed plain
    _ = ([] :: body).filter fun part => !isIdle part := by simp [isIdle]

theorem steps_parent_of_dot {rest : Path} (h : parts (dot :: rest) = front ++ [last])
    (ends : rest = [] ∨ rest.head? = some slash) :
    ∃ dir, parent? (dot :: rest) = some dir ∧ dir.isAbsolute = false ∧
      dir.steps = front.filter fun part => !isIdle part := by
  obtain ⟨more, rfl⟩ : ∃ more, rest = slash :: more := by
    rcases ends with rfl | ends
    · -- a single dot has no part that leads somewhere
      have single := steps_of_parts h hl
      have idle : steps [dot] = [] := by decide
      rw [idle] at single
      simp at single
    · exact List.head?_eq_some_iff.mp ends
  have split : parts (dot :: slash :: more) = [dot] :: parts more := parts_append_slash [dot] more
  rw [split] at h
  obtain ⟨body, rfl, below⟩ := front_of_cons_parts h
  have one : anchorLength (dot :: slash :: more) = 1 := by simp [anchorLength, dot, slash]
  have after : parts (slash :: more) = ([] :: body) ++ [last] := by
    rw [parts_slash_cons, below]
    rfl
  have found : parent? (dot :: slash :: more) = some _ := parent?_eq (by rw [one]; exact after) hl
  rw [one] at found
  have plain : ∀ piece ∈ [] :: body, slash ∉ piece :=
    fun piece hp => slash_not_mem_of_mem_parts (after ▸ List.mem_append_left _ hp)
  have start : Bytes.joinWith slash (trimmed ([] :: body)) = [] ∨
      (Bytes.joinWith slash (trimmed ([] :: body))).head? = some slash := by
    cases kept : trimmed ([] :: body) with
    | nil => exact .inl rfl
    | cons first others =>
      obtain ⟨tail, joined, tailEnds⟩ := joinWith_cons first others
      rw [joined, trimmed_cons kept]
      exact tailEnds
  refine ⟨_, found, rfl, ?_⟩
  calc steps (dot :: Bytes.joinWith slash (trimmed ([] :: body)))
    _ = steps (Bytes.joinWith slash (trimmed ([] :: body))) := steps_dot_cons start
    _ = ([] :: body).filter (fun part => !isIdle part) := steps_joinWith_trimmed plain
    _ = ([dot] :: body).filter fun part => !isIdle part := by simp [isIdle]

/-- Without its last part, a path takes the steps before that part. -/
theorem steps_parent (h : path.parts = front ++ [last]) :
    ∃ dir, path.parent? = some dir ∧ dir.isAbsolute = path.isAbsolute ∧
      dir.steps = front.filter fun part => !isIdle part := by
  rcases anchor_cases path with ⟨taken, dropped, relative⟩ | ⟨rest, rfl⟩ | ⟨rest, rfl, ends⟩
  · rw [relative]
    exact steps_parent_of_relative hl h relative taken dropped
  · exact steps_parent_of_root hl h
  · exact steps_parent_of_dot hl h ends

end Parent

end Path

end HidRig
