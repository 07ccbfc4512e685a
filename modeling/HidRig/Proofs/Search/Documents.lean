import Mathlib
import HidRig.Proofs.Json.Fields
import HidRig.Proofs.Json.Written
import HidRig.Proofs.Text.Utf8
import HidRig.Search.Locate

/-! # Configurations in documents

* `SearchConfig.Gives`: the documents that give each field of a configuration at most once.
* `SearchConfig.document_of_gives`: the configuration that such a document is read as.
* `SearchConfig.gives_json`: the text that is written for a configuration is one of them.
* `SearchConfig.kept_in_documents`: which configurations can be written, and that each is read back
  from every document that gives its fields.
-/

namespace HidRig

open Json (Gap IsListOf IsTextOf IsValue Item Listed Named Takes)

namespace SearchConfig

/-- A document with an object that gives a search path and a prefix, or leaves either out. -/
def Gives (text : String) (dirs? : Option (List String)) (start? : Option String) : Prop :=
  ∃ before object after, Gap before ∧ form.Object (IsListOf IsTextOf) IsTextOf object dirs? start? ∧
    Gap after ∧ text.toList = before ++ object ++ after

/-- The configuration with the given fields, where one left out is as in the default. -/
def ofFields (dirs? : Option (List String)) (start? : Option String) : SearchConfig :=
  ⟨(dirs?.map fun dirs => dirs.map Path.ofText).getD default.searchPath,
    start?.getD default.artifactPrefix⟩

/-! ## Reading -/

theorem reads_form : form.Reads (IsListOf IsTextOf) IsTextOf where
  distinct := by decide
  first _ _ _ blank list :=
    Json.takes_list (fun _ _ => Json.IsTextOf.begins)
      (fun _ _ spelled => Json.takes_string "path string" Gap.nil spelled) blank list
  second _ _ _ blank spelled := Json.takes_string "a string" blank spelled

theorem takes_read {gap object : Json.Input} {dirs? : Option (List String)}
    {start? : Option String} (blank : Gap gap)
    (fields : form.Object (IsListOf IsTextOf) IsTextOf object dirs? start?) :
    Takes read (gap ++ object) (ofFields dirs? start?) := by
  intro rest
  have dirs : dirs?.or form.first.absent? = some (dirs?.getD []) := by cases dirs? <;> rfl
  have start : start?.or form.second.absent? = some (start?.getD defaultPrefix) := by
    cases start? <;> rfl
  rw [read, Json.Pair.takes_object reads_form blank fields dirs start rest]
  cases dirs? <;> rfl

theorem document_of_gives {text : String} {dirs? : Option (List String)} {start? : Option String}
    (gives : Gives text dirs? start?) : Json.document read text = .ok (ofFields dirs? start?) := by
  obtain ⟨before, object, after, space, fields, blank, same⟩ := gives
  exact Json.document_of_takes (takes_read space fields) blank same

/-! ## Writing -/

theorem named_quoted (name : String) : Named ((Json.quoted name).toList ++ [':']) name := by
  simpa using Named.intro Gap.nil (Json.isTextOf_quoted name) Gap.nil Gap.nil

theorem gives_json (dirs : List String) (start : String) :
    Gives (Json.objectOf [(pathKey, Json.arrayOf (dirs.map Json.quoted)),
      (prefixKey, Json.quoted start)]) (some dirs) (some start) := by
  have list : IsListOf IsTextOf (Json.arrayOf (dirs.map Json.quoted)).toList dirs := by
    refine Json.isListOf_arrayOf ?_
    rw [List.forall₂_map_left_iff]
    exact List.forall₂_same.mpr fun dir _ => Json.isTextOf_quoted dir
  have tells : List.Forall₂ (form.Tells (IsListOf IsTextOf) IsTextOf)
      [Json.bareMember (pathKey, Json.arrayOf (dirs.map Json.quoted)),
        Json.bareMember (prefixKey, Json.quoted start)] [.first dirs, .second start] :=
    .cons (.first (named_quoted pathKey) list Gap.nil)
      (.cons (.second (named_quoted prefixKey) (Json.isTextOf_quoted start) Gap.nil) .nil)
  refine ⟨[], _, [], Gap.nil, ⟨_, _, _, Json.listed_bareMember [_, _], tells, rfl, rfl, rfl⟩,
    Gap.nil, ?_⟩
  simp [Json.objectOf, Json.memberText]

theorem mapM_text?_eq_some_iff (dirs : List Path) (texts : List String) :
    dirs.mapM Path.text? = some texts ↔ dirs = texts.map Path.ofText :=
  Utf8.mapM_eq_some_iff Utf8.text?_eq_some_iff dirs texts

/-- The directories of a configuration are texts. -/
def IsTextual (config : SearchConfig) : Prop :=
  ∀ dir ∈ config.searchPath, ∃ text, dir = Path.ofText text

theorem isTextual_iff (config : SearchConfig) :
    config.IsTextual ↔ ∃ texts, config.searchPath.mapM Path.text? = some texts := by
  have all := Set.ext_iff.mp (Set.range_list_map Path.ofText) config.searchPath
  simp only [Set.mem_range, Set.mem_ofPred_eq, eq_comm] at all
  simp only [mapM_text?_eq_some_iff]
  exact all.symm

theorem json_of_not_isTextual {config : SearchConfig} (h : ¬ config.IsTextual) :
    config.json = .error (.nowhere .pathNotText) := by
  rw [isTextual_iff] at h
  cases texts : config.searchPath.mapM Path.text? with
  | none => rw [json, texts]
  | some dirs => exact absurd ⟨dirs, texts⟩ h

theorem json_of_isTextual {config : SearchConfig} (h : config.IsTextual) :
    ∃ text, config.json = .ok text ∧ Json.document read text = .ok config := by
  obtain ⟨dirs, texts⟩ := (isTextual_iff config).mp h
  refine ⟨_, by rw [json, texts], ?_⟩
  rw [document_of_gives (gives_json dirs config.artifactPrefix)]
  have same := (mapM_text?_eq_some_iff _ _).mp texts
  simp [ofFields, ← same]

/-- Writing a configuration fails just when some directory is no text, and all that is written is
read back as it was, so that files are looked for under the same names and found at the same places.
Every document that gives some of the fields is read as the configuration with these fields. -/
theorem kept_in_documents (config : SearchConfig) :
    let textual := ∀ dir ∈ config.searchPath, ∃ text, dir = Utf8.encode text
    (¬ textual ↔ config.json = .error (.nowhere .pathNotText)) ∧
    (textual ↔ ∃ text, config.json = .ok text) ∧
    (∀ text, config.json = .ok text → ∃ again, Json.document read text = .ok again ∧
      again = config ∧ ∀ name, again.artifactName name = config.artifactName name ∧
        again.metadataName name = config.metadataName name ∧
        ∀ {Image : Type} (disk : Disk Image), again.locate disk name = config.locate disk name) ∧
    ∀ text dirs? start?, Gives text dirs? start? → Json.document read text = .ok
      { searchPath := (dirs?.map fun dirs => dirs.map Utf8.encode).getD [],
        artifactPrefix := start?.getD "libtest-" } := by
  intro textual
  by_cases all : textual
  · obtain ⟨text, written, read⟩ := json_of_isTextual all
    refine ⟨?_, ⟨fun _ => ⟨text, written⟩, fun _ => all⟩, ?_, fun _ _ _ => document_of_gives⟩
    · simp [written, all]
    · intro other same
      cases written.symm.trans same
      exact ⟨config, read, rfl, fun name => ⟨rfl, rfl, fun disk => rfl⟩⟩
  · have failed := json_of_not_isTextual all
    refine ⟨⟨fun _ => failed, fun _ => all⟩, ?_, ?_, fun _ _ _ => document_of_gives⟩
    · simp [failed, all]
    · intro text written
      cases failed.symm.trans written

/-- An unknown member with half a character, a number and brackets inside one another, the prefix
with a character by two numbers, and the search path behind it. -/
theorem kept_in_documents_disguised :
    let text := "\n\x7b \"\\u0078\"\t: [ \x7b\"\\ud800\":null\x7d ,-0.50E+3, [ ]]," ++
      "\"artifact_prefix\":\"\\ud83D\\uDE00\\n\" ,\"search_path\":[ \"\\/a\" , \"é\"]\x7d\t"
    let config : SearchConfig := ⟨[[47, 97], [195, 169]], "😀\n"⟩
    let dirs := ["/a", "é"]
    let written := "\x7b\"search_path\":[\"/a\",\"é\"],\"artifact_prefix\":\"😀\\n\"\x7d"
    Gives text (some dirs) (some "😀\n") ∧ Json.document read text = .ok config ∧
      config.json = .ok written ∧ Json.document read written = .ok config := by
  intro text config dirs written
  -- the unknown member, from the inside out
  have half : Json.HexNumber ['d', '8', '0', '0'] 0xd800 :=
    @Json.HexNumber.digits _ _ _ _ 13 8 0 0 (by decide) (by decide) (by decide) (by decide)
  have object : IsValue
      ['\x7b', '"', '\\', 'u', 'd', '8', '0', '0', '"', ':', 'n', 'u', 'l', 'l', '\x7d'] :=
    @IsValue.bracket .object [⟨['"', '\\', 'u', 'd', '8', '0', '0', '"', ':'], "null".toList, []⟩] _
      (.some _ []) (List.forall_mem_singleton.mpr (.object Gap.nil
        ⟨[_], List.forall_mem_singleton.mpr (.number half), rfl⟩ Gap.nil Gap.nil))
      (List.forall_mem_singleton.mpr (.word (by simp))) (List.forall_mem_singleton.mpr Gap.nil)
  have number : IsValue ['-', '0', '.', '5', '0', 'E', '+', '3'] :=
    .number (.minus (@Json.Magnitude.parts ['0'] ['.', '5', '0'] ['E', '+', '3'] .zero
      (.digits (by decide))
      (@Json.Exponent.digits 'E' ['+'] ['3'] (.inr rfl) (.inr (.inl rfl)) (by decide))))
  have empty : IsValue ['[', ' ', ']'] :=
    @IsValue.bracket .array [] [' '] (.none (by decide)) nofun nofun nofun
  have unknown : IsValue "[ \x7b\"\\ud800\":null\x7d ,-0.50E+3, [ ]]".toList :=
    @IsValue.bracket .array [⟨[' '], _, [' ']⟩, ⟨[], _, []⟩, ⟨[' '], _, []⟩] _ (.some _ [_, _])
      (List.forall_iff_forall_mem.mp ⟨.array (by decide), .array Gap.nil, .array (by decide)⟩)
      (List.forall_iff_forall_mem.mp ⟨object, number, empty⟩)
      (List.forall_iff_forall_mem.mp ⟨by decide, Gap.nil, Gap.nil⟩)
  have key : IsTextOf ['"', '\\', 'u', '0', '0', '7', '8', '"'] "x" :=
    ⟨[_], .cons (.number (@Json.HexNumber.digits '0' '0' '7' '8' 0 0 7 8 (by decide) (by decide)
      (by decide) (by decide))) .nil, rfl⟩
  -- the two fields
  have start : IsTextOf "\"\\ud83D\\uDE00\\n\"".toList "😀\n" :=
    ⟨[_, ['\\', 'n']], .cons (.pair
      (@Json.HexNumber.digits 'd' '8' '3' 'D' 13 8 3 13 (by decide) (by decide) (by decide)
        (by decide))
      (@Json.HexNumber.digits 'D' 'E' '0' '0' 13 14 0 0 (by decide) (by decide) (by decide)
        (by decide))
      (by decide) (by decide) (by decide)) (.cons (.letter (by decide)) .nil), rfl⟩
  have list : IsListOf IsTextOf "[ \"\\/a\" , \"é\"]".toList dirs :=
    ⟨[⟨[' '], _, [' ']⟩, ⟨[' '], _, []⟩], _, .some _ [_],
      List.forall_iff_forall_mem.mp ⟨⟨by decide, by decide⟩, by decide, Gap.nil⟩,
      .cons ⟨[['\\', '/'], ['a']], .cons (.letter (by decide))
        (.cons (.plain ⟨by decide, by decide, by decide⟩) .nil), rfl⟩
        (.cons ⟨[['é']], .cons (.plain ⟨by decide, by decide, by decide⟩) .nil, rfl⟩ .nil), rfl⟩
  let items : List Item :=
    [⟨[' '] ++ (['"', '\\', 'u', '0', '0', '7', '8', '"'] ++ (['\t'] ++ [':', ' '])),
        "[ \x7b\"\\ud800\":null\x7d ,-0.50E+3, [ ]]".toList, []⟩,
      ⟨(Json.quoted prefixKey).toList ++ [':'], "\"\\ud83D\\uDE00\\n\"".toList, [' ']⟩,
      ⟨(Json.quoted pathKey).toList ++ [':'], "[ \"\\/a\" , \"é\"]".toList, []⟩]
  have tells : List.Forall₂ (form.Tells (IsListOf IsTextOf) IsTextOf) items
      [.other, .second "😀\n", .first dirs] :=
    .cons (.other (.intro (by decide) key (by decide) (by decide)) (by decide) unknown Gap.nil)
      (.cons (.second (named_quoted prefixKey) start (by decide))
        (.cons (.first (named_quoted pathKey) list Gap.nil) .nil))
  have listed : Listed (items.map Item.text) _ := .some _ [_, _]
  have gives : Gives text (some dirs) (some "😀\n") :=
    ⟨['\n'], _, ['\t'], by decide, ⟨_, _, _, listed, tells, rfl, rfl, rfl⟩, by decide,
      by decide +kernel⟩
  have same : config.json = .ok written := by cbv
  obtain ⟨-, -, back, all⟩ := kept_in_documents config
  have read : Json.document SearchConfig.read text = .ok config := by
    rw [all text (some dirs) (some "😀\n") gives]
    decide
  obtain ⟨_, again, rfl, -⟩ := back written same
  exact ⟨gives, read, same, again⟩

end SearchConfig

end HidRig
