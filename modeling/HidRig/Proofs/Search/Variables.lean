import HidRig.Proofs.Search.Order
import HidRig.Proofs.Text.Utf8

/-! # The search path of an environment

The value of a variable is a list of directories with colons around them.

* `SearchConfig.Spells`: the directories that a value is made of.
* `SearchConfig.splitPaths_eq_iff`: they are what the value is split into.
* `SearchConfig.MoreColons`: values that differ in colons at the ends or beside others.
* `SearchConfig.encode_searched`: the directories told when nothing is found spell the search path.
* `SearchConfig.environment_spelled`: which variables are asked for, what their values make of the
  search path, and that the directories told can be given back.
-/

namespace HidRig

namespace SearchConfig

/-! ## Values and directories -/

/-- A value is made of some directories in order: each has bytes but no colon, and goes on up to the
next colon or the end. All else is colons. -/
inductive Spells : Bytes → List Path → Prop
  | colons (n : Nat) : Spells (List.replicate n colonByte) []
  | dir (n : Nat) {dir rest : Bytes} {dirs : List Path} (some : dir ≠ []) (plain : colonByte ∉ dir)
      (ends : rest = [] ∨ rest.head? = .some colonByte) (more : Spells rest dirs) :
      Spells (List.replicate n colonByte ++ dir ++ rest) (dir :: dirs)

theorem splitPaths_append_colon (front back : Bytes) :
    splitPaths (front ++ colonByte :: back) = splitPaths front ++ splitPaths back := by
  have split : (front ++ colonByte :: back).splitBy (· = colonByte) = _ :=
    Bytes.splitBy_append_cons (by simp) front back
  rw [splitPaths, split, List.filter_append]
  rfl

theorem splitPaths_colon_cons (rest : Bytes) : splitPaths (colonByte :: rest) = splitPaths rest :=
  splitPaths_append_colon [] rest

theorem splitPaths_of_plain {dir : Bytes} (some : dir ≠ []) (plain : colonByte ∉ dir) :
    splitPaths dir = [dir] := by
  have split : dir.splitBy (· = colonByte) = [dir] := by
    refine Bytes.splitBy_eq_singleton fun b member => ?_
    have other : b ≠ colonByte := fun same => plain (same ▸ member)
    simpa using other
  simp [splitPaths, split, some]

theorem splitPaths_replicate_append (n : Nat) (rest : Bytes) :
    splitPaths (List.replicate n colonByte ++ rest) = splitPaths rest := by
  induction n with
  | zero => rfl
  | succ n ih => rw [List.replicate_succ, List.cons_append, splitPaths_colon_cons, ih]

theorem Spells.splitPaths_eq {value : Bytes} {dirs : List Path} (h : Spells value dirs) :
    splitPaths value = dirs := by
  induction h with
  | colons n =>
    have none := splitPaths_replicate_append n []
    rw [List.append_nil] at none
    exact none
  | @dir n dir rest dirs some plain ends more ih =>
    rw [List.append_assoc, splitPaths_replicate_append]
    rcases ends with rfl | ends
    · have none : dirs = [] := ih.symm
      rw [List.append_nil, splitPaths_of_plain some plain, none]
    · obtain ⟨rest, rfl⟩ := List.head?_eq_some_iff.mp ends
      rw [splitPaths_colon_cons] at ih
      rw [splitPaths_append_colon, splitPaths_of_plain some plain, ih]
      rfl

theorem Spells.cons_colon {value : Bytes} {dirs : List Path} (h : Spells value dirs) :
    Spells (colonByte :: value) dirs := by
  cases h with
  | colons n => exact .colons (n + 1)
  | dir n some plain ends more => exact .dir (n + 1) some plain ends more

theorem exists_spells (value : Bytes) : ∃ dirs, Spells value dirs := by
  induction value with
  | nil => exact ⟨[], .colons 0⟩
  | cons b rest ih =>
    obtain ⟨dirs, h⟩ := ih
    by_cases colon : b = colonByte
    · exact ⟨dirs, colon ▸ h.cons_colon⟩
    · have alone : colonByte ∉ [b] := by simpa using Ne.symm colon
      cases h with
      | colons n =>
        cases n with
        | zero => exact ⟨[[b]], .dir 0 (by simp) alone (.inl rfl) (.colons 0)⟩
        | succ n => exact ⟨[[b]], .dir 0 (by simp) alone (.inr rfl) (.colons (n + 1))⟩
      | @dir n dir rest dirs some plain ends more =>
        cases n with
        | zero =>
          -- the byte is the first of the directory that starts the rest
          have longer : colonByte ∉ b :: dir := by simp [Ne.symm colon, plain]
          exact ⟨(b :: dir) :: dirs, .dir 0 (by simp) longer ends more⟩
        | succ n =>
          exact ⟨[b] :: dir :: dirs,
            .dir 0 (by simp) alone (.inr rfl) (.dir (n + 1) some plain ends more)⟩

theorem splitPaths_eq_iff (value : Bytes) (dirs : List Path) :
    splitPaths value = dirs ↔ Spells value dirs := by
  constructor
  · rintro rfl
    obtain ⟨dirs, h⟩ := exists_spells value
    rwa [h.splitPaths_eq]
  · exact Spells.splitPaths_eq

theorem Spells.mem {value : Bytes} {dirs : List Path} (h : Spells value dirs) :
    ∀ dir ∈ dirs, dir ≠ [] ∧ colonByte ∉ dir := by
  induction h with
  | colons n => simp
  | dir n some plain ends more ih =>
    intro dir member
    rcases List.mem_cons.mp member with rfl | member
    · exact ⟨some, plain⟩
    · exact ih dir member

theorem Spells.ne_nil {value : Bytes} {dirs : List Path} (h : Spells value dirs)
    (some : dirs ≠ []) : value ≠ [] := by
  cases h with
  | colons n => exact absurd rfl some
  | dir n first plain ends more => simp [first]

theorem spells_joinWith {dirs : List Path} (h : ∀ dir ∈ dirs, dir ≠ [] ∧ colonByte ∉ dir) :
    Spells (Bytes.joinWith colonByte dirs) dirs := by
  induction dirs with
  | nil => exact .colons 0
  | cons dir dirs ih =>
    obtain ⟨some, plain⟩ := h dir List.mem_cons_self
    have more := ih fun other member => h other (List.mem_cons_of_mem _ member)
    cases dirs with
    | nil =>
      have single := Spells.dir 0 some plain (.inl rfl) (.colons 0)
      rwa [List.append_nil] at single
    | cons next dirs => exact .dir 0 some plain (.inr rfl) more.cons_colon

/-- A value with more colons, at its ends and beside others. -/
inductive MoreColons (value : Bytes) : Bytes → Prop
  | same : MoreColons value value
  | front {wide : Bytes} (h : MoreColons value wide) : MoreColons value (colonByte :: wide)
  | back {wide : Bytes} (h : MoreColons value wide) : MoreColons value (wide ++ [colonByte])
  | beside {left right : Bytes} (h : MoreColons value (left ++ colonByte :: right)) :
      MoreColons value (left ++ colonByte :: colonByte :: right)

theorem MoreColons.splitPaths_eq {value wide : Bytes} (h : MoreColons value wide) :
    splitPaths wide = splitPaths value := by
  induction h with
  | same => rfl
  | front _ ih => rw [splitPaths_colon_cons, ih]
  | @back wide _ ih =>
    have ends : splitPaths (wide ++ [colonByte]) = splitPaths wide ++ [] :=
      splitPaths_append_colon wide []
    rw [ends, List.append_nil, ih]
  | beside _ ih =>
    rw [splitPaths_append_colon] at ih ⊢
    rw [splitPaths_colon_cons, ih]

theorem spells_of_moreColons {dirs : List Path} (h : ∀ dir ∈ dirs, dir ≠ [] ∧ colonByte ∉ dir)
    {value : Bytes} (more : MoreColons (Bytes.joinWith colonByte dirs) value) :
    Spells value dirs := by
  rw [← splitPaths_eq_iff, more.splitPaths_eq]
  exact (spells_joinWith h).splitPaths_eq

/-! ## The directories told -/

theorem encode_intercalate (texts : List String) :
    Utf8.encode (":".intercalate texts) =
      Bytes.joinWith colonByte (texts.map Utf8.encode) := by
  induction texts with
  | nil => rfl
  | cons text texts ih =>
    cases texts with
    | nil => simp [Bytes.joinWith]
    | cons next texts =>
      have colon : Utf8.encode ":" = [colonByte] := by decide
      rw [String.intercalate_cons_cons, Utf8.encode_append, Utf8.encode_append, ih, colon,
        List.append_assoc]
      rfl

/-- The directories of a search path that are texts are told byte by byte. -/
theorem encode_searched (config : SearchConfig)
    (texts : ∀ dir ∈ config.searchPath, ∃ text, dir = Path.ofText text) :
    Utf8.encode config.searched = Bytes.joinWith colonByte config.searchPath := by
  have same : ∀ dir ∈ config.searchPath, Utf8.encode (Path.display dir) = dir := by
    intro dir member
    obtain ⟨text, rfl⟩ := texts dir member
    exact congrArg Utf8.encode (Utf8.display_encode text)
  have all : config.searchPath.map (Utf8.encode ∘ Path.display) = config.searchPath :=
    (List.map_congr_left same).trans (List.map_id' _)
  rw [searched, encode_intercalate, List.map_map, all]

theorem of_locate_not_found {Image : Type} (config : SearchConfig) (disk : Disk Image)
    {name artifact searched : String}
    (h : config.locate disk name = .error (.artifactNotFound artifact searched)) :
    config.searchPath ≠ [] ∧ searched = config.searched := by
  unfold locate at h
  split at h
  · cases h
  · split at h
    · cases h
    · rename_i search
      split at h
      · cases h
      · cases h
        exact ⟨search, rfl⟩

/-! ## The variables -/

def Unset (value? : Option Bytes) : Prop :=
  value? = none ∨ value? = some []

instance (value? : Option Bytes) : Decidable (Unset value?) :=
  inferInstanceAs (Decidable (_ ∨ _))

section
variable {lookup : String → Option Bytes}

theorem askVariables_of_unset (unset : Unset (lookup pathVariable)) :
    askVariables lookup = ([pathVariable, fallbackVariable], lookup fallbackVariable) := by
  unfold askVariables
  rcases unset with none | empty
  · rw [none, Option.filter_none]
  · simp [empty, Option.filter]

theorem askVariables_of_set (set_ : ¬ Unset (lookup pathVariable)) :
    askVariables lookup = ([pathVariable], lookup pathVariable) := by
  unfold askVariables
  cases value : lookup pathVariable with
  | none => exact absurd (.inl value) set_
  | some bytes =>
    have filled : bytes ≠ [] := by
      rintro rfl
      exact set_ (.inr value)
    simp [Option.filter, filled]

/-- Only the values of the variables asked for count. -/
theorem askVariables_congr {other : String → Option Bytes}
    (same : ∀ key ∈ (askVariables lookup).1, other key = lookup key) :
    askVariables other = askVariables lookup := by
  by_cases unset : Unset (lookup pathVariable)
  · rw [askVariables_of_unset unset] at same ⊢
    have first : other pathVariable = lookup pathVariable := same _ (by simp)
    have second : other fallbackVariable = lookup fallbackVariable := same _ (by simp)
    rw [askVariables_of_unset (by rwa [first]), second]
  · rw [askVariables_of_set unset] at same ⊢
    have first : other pathVariable = lookup pathVariable := same _ (by simp)
    rw [askVariables_of_set (by rwa [first]), first]

theorem searchPath_ofLookup {value : Bytes} {dirs : List Path}
    (found : (askVariables lookup).2 = some value) (spelled : Spells value dirs) :
    (ofLookup lookup).searchPath = dirs := by
  simp [ofLookup, found, spelled.splitPaths_eq]

theorem searchPath_of_first {value : Bytes} {dirs : List Path}
    (first : lookup pathVariable = some value) (some_ : dirs ≠ []) (spelled : Spells value dirs) :
    (ofLookup lookup).searchPath = dirs := by
  have set_ : ¬ Unset (lookup pathVariable) := by
    rw [first]
    rintro (none | empty)
    · cases none
    · exact spelled.ne_nil some_ (Option.some.inj empty)
  exact searchPath_ofLookup (by rw [askVariables_of_set set_, first]) spelled

theorem spells_ofLookup {value : Bytes} (found : (askVariables lookup).2 = some value) :
    Spells value (ofLookup lookup).searchPath := by
  obtain ⟨dirs, spelled⟩ := exists_spells value
  rwa [searchPath_ofLookup found spelled]

theorem searchPath_of_none (none : (askVariables lookup).2 = none) :
    (ofLookup lookup).searchPath = [] := by
  simp [ofLookup, none]

theorem mem_ofLookup : ∀ dir ∈ (ofLookup lookup).searchPath, dir ≠ [] ∧ colonByte ∉ dir := by
  cases found : (askVariables lookup).2 with
  | none => simp [searchPath_of_none found]
  | some value => exact (spells_ofLookup found).mem

/-- The directories told about a search that found nothing are those of the search path. -/
theorem ofLookup_searched (texts : ∀ dir ∈ (ofLookup lookup).searchPath,
    ∃ text, dir = Path.ofText text) (some_ : (ofLookup lookup).searchPath ≠ [])
    {again : String → Option Bytes}
    (given : again pathVariable = some (Utf8.encode (ofLookup lookup).searched)) :
    ofLookup again = ofLookup lookup := by
  rw [encode_searched _ texts] at given
  have same := searchPath_of_first given some_ (spells_joinWith mem_ofLookup)
  rw [ofLookup] at same ⊢
  exact congrArg (fun dirs => { default with searchPath := dirs }) same

end

/-- The first variable is asked for its directories, and the second if the first is not set. Its
value spells the search path, and directories joined by colons come back, whatever colons are added.
If these are texts, what is told about a search that found nothing can be given back as the value of
the first variable. -/
theorem environment_spelled (lookup : String → Option Bytes) :
    (askVariables lookup =
      if Unset (lookup pathVariable) then
        ([pathVariable, fallbackVariable], lookup fallbackVariable)
      else ([pathVariable], lookup pathVariable)) ∧
    (∀ other, (∀ key ∈ (askVariables lookup).1, other key = lookup key) →
      askVariables other = askVariables lookup ∧ ofLookup other = ofLookup lookup) ∧
    (∀ value, (askVariables lookup).2 = some value →
      Spells value (ofLookup lookup).searchPath) ∧
    ((askVariables lookup).2 = none → (ofLookup lookup).searchPath = []) ∧
    (ofLookup lookup).artifactPrefix = defaultPrefix ∧
    (∀ value dirs, (∀ dir ∈ dirs, dir ≠ [] ∧ colonByte ∉ dir) →
      MoreColons (Bytes.joinWith colonByte dirs) value →
      (dirs ≠ [] → lookup pathVariable = some value → (ofLookup lookup).searchPath = dirs) ∧
      (Unset (lookup pathVariable) → lookup fallbackVariable = some value →
        (ofLookup lookup).searchPath = dirs)) ∧
    (∀ {Image : Type} (disk : Disk Image) (name artifact searched : String),
      (∀ dir ∈ (ofLookup lookup).searchPath, ∃ text, dir = Path.ofText text) →
      (ofLookup lookup).locate disk name = .error (.artifactNotFound artifact searched) →
      ∀ again : String → Option Bytes, again pathVariable = some (Utf8.encode searched) →
        ofLookup again = ofLookup lookup) := by
  refine ⟨?_, fun other same => ?_, fun _ => spells_ofLookup, searchPath_of_none, rfl,
    fun value dirs plain more => ?_, fun disk name artifact searched texts missing again given => ?_⟩
  · split
    · exact askVariables_of_unset ‹_›
    · exact askVariables_of_set ‹_›
  · have asked := askVariables_congr same
    exact ⟨asked, by rw [ofLookup, asked, ofLookup]⟩
  · have spelled := spells_of_moreColons plain more
    refine ⟨fun some_ first => searchPath_of_first first some_ spelled, fun unset second => ?_⟩
    exact searchPath_ofLookup (by rw [askVariables_of_unset unset, second]) spelled
  · obtain ⟨some_, rfl⟩ := of_locate_not_found _ disk missing
    exact ofLookup_searched texts some_ given

/-- The first variable has nothing but colons in it, and is taken all the same. -/
example :
    let lookup (key : String) : Option Bytes :=
      if key = pathVariable then some (Path.ofText "::") else some (Path.ofText "/lib")
    (askVariables lookup).1 = [pathVariable] ∧ (ofLookup lookup).searchPath = [] := by
  decide

end SearchConfig

end HidRig
