import HidRig.Search.Locate
import HidRig.Proofs.Paths.Steps

/-! # Names of files, and where they are found

* `Utf8.mem_encode_iff`: which texts have an ASCII character among their bytes.
* `SearchConfig.stem`, `SearchConfig.folders`: what the two file names of a module have in common,
  and the directories that it leads through.
* `SearchConfig.locate_of_search`, `SearchConfig.of_locate`: the location of a module that is found
  on the search path.
-/

namespace HidRig

/-! ## Bytes of a text -/

namespace Utf8

theorem encode_append (a b : String) : encode (a ++ b) = encode a ++ encode b := by
  simp [encode]

theorem mem_utf8EncodeChar (c : Char) {b : UInt8} (hb : b.toNat < 128) :
    b ∈ String.utf8EncodeChar c ↔ c.val.toNat = b.toNat := by
  have byte (n : Nat) (hn : n < 256) : b = UInt8.ofNat n ↔ b.toNat = n := by
    rw [← UInt8.toNat_inj, UInt8.toNat_ofNat', Nat.mod_eq_of_lt hn]
  -- every byte of a longer form is 128 or more
  unfold String.utf8EncodeChar
  dsimp only
  split
  · rw [List.mem_singleton, byte _ (by omega), eq_comm]
  · split
    · simp only [List.mem_cons, List.not_mem_nil, or_false]
      rw [byte _ (by omega), byte _ (by omega)]
      omega
    · split
      · simp only [List.mem_cons, List.not_mem_nil, or_false]
        rw [byte _ (by omega), byte _ (by omega), byte _ (by omega)]
        omega
      · simp only [List.mem_cons, List.not_mem_nil, or_false]
        rw [byte _ (by omega), byte _ (by omega), byte _ (by omega), byte _ (by omega)]
        omega

theorem mem_encode_iff (text : String) {c : Char} {b : UInt8} (hb : b.toNat < 128)
    (hc : c.val.toNat = b.toNat) : b ∈ encode text ↔ c ∈ text.toList := by
  rw [encode, List.mem_flatMap]
  constructor
  · rintro ⟨d, hd, mem⟩
    have same : d.val.toNat = c.val.toNat := by
      rw [hc]
      exact (mem_utf8EncodeChar d hb).mp mem
    obtain rfl : d = c := Char.ext (UInt32.toNat_inj.mp same)
    exact hd
  · intro hd
    exact ⟨c, hd, (mem_utf8EncodeChar c hb).mpr hc⟩

theorem length_le_encode (text : String) : text.toList.length ≤ (encode text).length := by
  rw [encode, List.length_flatMap]
  induction text.toList with
  | nil => exact Nat.le_refl 0
  | cons c rest ih =>
    have one : 0 < (String.utf8EncodeChar c).length := by
      rw [String.length_utf8EncodeChar]
      exact c.utf8Size_pos
    simp only [List.map_cons, List.sum_cons, List.length_cons]
    omega

end Utf8

theorem Path.slash_mem_ofText (text : String) : Path.slash ∈ Path.ofText text ↔ '/' ∈ text.toList :=
  Utf8.mem_encode_iff text (by decide) (by decide)

theorem Path.isIdle_of_two_le {part : Bytes} (h : 2 ≤ part.length) : Path.isIdle part = false := by
  match part, h with
  | [], h => simp at h
  | [_], h => simp at h
  | _ :: _ :: _, _ => simp [Path.isIdle]

/-! ## File names -/

namespace SearchConfig
variable {Image : Type} (config : SearchConfig) (disk : Disk Image) (name : String)

/-- The bytes that the names of the shared object and of the document start with. -/
def stem : Path :=
  Path.ofText (config.artifactPrefix ++ name)

/-- How the name of a document ends. -/
def documentSuffix : Path :=
  Path.ofText ("." ++ metadataExtension)

/-- The shared object of a module, in a directory. -/
def libraryIn (dir : Path) (name : String) : Path :=
  dir.join (Path.ofText (config.artifactName name))

/-- The parts of the start of the file names, but for the last. -/
def front : List Bytes :=
  (Path.ofText config.artifactPrefix).parts.dropLast

/-- The directories that the file names lead through. -/
def folders : List Bytes :=
  config.front.filter fun part => !Path.isIdle part

/-- The last part of the file names, without its ending. -/
def base : Bytes :=
  (Path.ofText config.artifactPrefix).parts.getLast (Bytes.splitBy_ne_nil _ _) ++ Path.ofText name

theorem stem_eq : config.stem name = Path.ofText config.artifactPrefix ++ Path.ofText name :=
  Utf8.encode_append _ _

theorem ofText_artifactName :
    Path.ofText (config.artifactName name) = config.stem name ++ Path.ofText artifactSuffix :=
  Utf8.encode_append _ _

theorem ofText_metadataName :
    Path.ofText (config.metadataName name) = config.stem name ++ documentSuffix := by
  rw [metadataName, String.append_assoc]
  exact Utf8.encode_append _ _

theorem isValidName_iff :
    isValidName name = true ↔ name ≠ "" ∧ '/' ∉ name.toList ∧ '\\' ∉ name.toList := by
  simp [isValidName, and_assoc]

variable {name}

theorem slash_not_mem_of_valid (valid : isValidName name = true) :
    Path.slash ∉ Path.ofText name := by
  rw [Path.slash_mem_ofText]
  exact ((isValidName_iff name).mp valid).2.1

theorem ofText_ne_nil_of_valid (valid : isValidName name = true) : Path.ofText name ≠ [] := by
  intro empty
  have long := Utf8.length_le_encode name
  have none : (Utf8.encode name).length = 0 := congrArg List.length empty
  have chars : name.toList = [] := List.eq_nil_of_length_eq_zero (by omega)
  exact ((isValidName_iff name).mp valid).1 (String.toList_eq_nil_iff.mp chars)

theorem stem_ne_nil (valid : isValidName name = true) : config.stem name ≠ [] := by
  rw [stem_eq]
  simp [ofText_ne_nil_of_valid valid]

/-- Only the start of the file names decides whether they are seen from the root. -/
theorem isAbsolute_stem (valid : isValidName name = true) :
    (config.stem name).isAbsolute = (Path.ofText config.artifactPrefix).isAbsolute := by
  rw [stem_eq]
  by_cases empty : Path.ofText config.artifactPrefix = []
  · rw [empty, List.nil_append]
    obtain ⟨b, rest, eq⟩ := List.exists_cons_of_ne_nil (ofText_ne_nil_of_valid valid)
    have plain := slash_not_mem_of_valid valid
    rw [eq] at plain ⊢
    simp at plain
    simp [Path.isAbsolute, Ne.symm plain.1]
  · exact Path.isAbsolute_append empty _

/-- A file name leads through the folders to a last part. -/
theorem parts_stem_append (valid : isValidName name = true) (ending : Path)
    (plain : Path.slash ∉ ending) :
    (config.stem name ++ ending).parts = config.front ++ [config.base name ++ ending] := by
  have split := (List.dropLast_concat_getLast
    (Bytes.splitBy_ne_nil (· = Path.slash) (Path.ofText config.artifactPrefix))).symm
  have named := Path.parts_append split (slash_not_mem_of_valid valid)
  rw [← stem_eq] at named
  exact Path.parts_append named plain

theorem isIdle_base_append (name : String) (ending : Path) (long : 2 ≤ ending.length) :
    Path.isIdle (config.base name ++ ending) = false := by
  refine Path.isIdle_of_two_le ?_
  rw [List.length_append]
  omega

theorem steps_stem_append (valid : isValidName name = true) (ending : Path)
    (plain : Path.slash ∉ ending) (long : 2 ≤ ending.length) :
    (config.stem name ++ ending).steps = config.folders ++ [config.base name ++ ending] :=
  Path.steps_of_parts (config.parts_stem_append valid ending plain)
    (config.isIdle_base_append name ending long)

/-! ## Locations -/

theorem locate_of_invalid (invalid : isValidName name = false) :
    config.locate disk name = .error (.invalidName name) := by
  simp [locate, invalid]

theorem locate_of_bare (valid : isValidName name = true) (bare : config.searchPath = []) :
    config.locate disk name =
      .ok ⟨Path.ofText (config.artifactName name), Path.ofText (config.metadataName name)⟩ := by
  simp [locate, valid, bare]

theorem locate_of_search (valid : isValidName name = true) (search : config.searchPath ≠ []) :
    config.locate disk name =
      match (config.candidates name).find? disk.isFile with
      | some library => .ok (config.locationOf name library)
      | none => .error (.artifactNotFound (config.artifactName name) config.searched) := by
  simp only [locate, valid, search]
  rfl

theorem valid_of_locate {location : Location} (found : config.locate disk name = .ok location) :
    isValidName name = true := by
  cases valid : isValidName name with
  | true => rfl
  | false =>
    rw [config.locate_of_invalid disk valid] at found
    cases found

/-- What is found on a search path lies in one of its directories, with the document next to it as
far as `locationOf` goes. -/
theorem of_locate {location : Location} (search : config.searchPath ≠ [])
    (found : config.locate disk name = .ok location) :
    ∃ dir ∈ config.searchPath,
      location = config.locationOf name (config.libraryIn dir name) ∧
      disk.isFile location.library = true := by
  rw [config.locate_of_search disk (config.valid_of_locate disk found) search] at found
  cases first : (config.candidates name).find? disk.isFile with
  | none => rw [first] at found; cases found
  | some library =>
    rw [first] at found
    cases found
    have member := List.mem_of_find?_eq_some first
    have file := List.find?_some first
    obtain ⟨dir, hdir, rfl⟩ := List.mem_map.mp member
    exact ⟨dir, hdir, rfl, file⟩

end SearchConfig

end HidRig
