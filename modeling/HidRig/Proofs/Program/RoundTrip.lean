import HidRig.Program.Binding
import HidRig.Proofs.Json.Written
import HidRig.Proofs.Program.Decoding

/-! # Documents read back

The document of a list of programs lists these programs, whatever characters their sections and
names have, and so it does under the key of a wrapped document.

* `ProgramRecord.value`, `Document.value`: the values of a record and of a list, as they are
  written.
* `Document.reads_json`: the text of a list is read as its value, in every place of a document.
* `Document.read_back`: both forms give the programs, the bindings and the warnings back.
-/

namespace HidRig

open Json (Value Reads)

/-! ## Records -/

namespace ProgramRecord

def value (record : ProgramRecord) : Value :=
  .object [(tagKey, .text record.tag), (nameKey, .text record.name)]

theorem written_value (record : ProgramRecord) : Written record.value record :=
  .object ⟨[], [_], rfl, by simp [tagKey, nameKey]⟩ ⟨[_], [], rfl, by simp [tagKey, nameKey]⟩

theorem reads_json (depth : Nat) (record : ProgramRecord) :
    Reads (Value.readNested (depth + 1)) record.json record.value :=
  Value.reads_objectOf
    (.cons ⟨rfl, Value.reads_quoted depth _⟩ (.cons ⟨rfl, Value.reads_quoted depth _⟩ .nil))

end ProgramRecord

/-! ## Lists of records -/

namespace Document

def value (programs : List ProgramRecord) : Value :=
  .array (programs.map ProgramRecord.value)

theorem records_value (programs : List ProgramRecord) :
    List.Forall₂ ProgramRecord.Written (programs.map ProgramRecord.value) programs := by
  induction programs with
  | nil => exact .nil
  | cons record programs ih => exact .cons record.written_value ih

theorem reads_json (depth : Nat) (programs : List ProgramRecord) :
    Reads (Value.readNested (depth + 2)) (json programs) (value programs) := by
  apply Value.reads_arrayOf
  induction programs with
  | nil => exact .nil
  | cons record programs ih =>
    exact .cons ⟨Json.opens_objectOf _, ProgramRecord.reads_json depth record⟩ ih

/-- A text that is read as a value that lists some programs. -/
theorem parse_of_reads {text : String} {value : Value} {programs : List ProgramRecord}
    (reads : Reads Value.read text value) (lists : Lists value programs) :
    parse text = .ok programs :=
  (parse_of_value (Json.document_of_reads reads)).1 programs
    ((ofValue?_eq_some_iff value programs).mpr lists)

/-- The object with one member, whose value may stand behind blanks. -/
def wrap (gap text : String) : String :=
  "\x7b\"programs\":" ++ gap ++ text ++ "\x7d"

theorem wrap_eq_objectOf (gap text : String) :
    wrap gap text = Json.objectOf [(programsKey, gap ++ text)] := by
  have key : Json.quoted programsKey = "\"programs\"" := by decide
  have mark : "\x7b\"programs\":" = "\x7b" ++ ("\"programs\"" ++ ":") := by decide
  rw [wrap, Json.objectOf, List.map_singleton, String.intercalate_singleton, key, mark]
  simp only [String.append_assoc]

-- a bare list takes two brackets inside one another and a wrapped one three, of the 127 there may be
theorem parse_json (programs : List ProgramRecord) : parse (json programs) = .ok programs :=
  parse_of_reads (reads_json 125 programs) (.bare (records_value programs))

theorem parse_wrap {gap : String} (blank : ∀ c ∈ gap.toList, Json.isBlank c)
    (programs : List ProgramRecord) : parse (wrap gap (json programs)) = .ok programs := by
  rw [wrap_eq_objectOf]
  have inner : Reads (Value.readNested 126) (gap ++ json programs) (value programs) :=
    Value.reads_append blank (reads_json 124 programs)
  exact parse_of_reads (Value.reads_objectOf (.cons ⟨rfl, inner⟩ .nil))
    (.wrapped ⟨[], [], rfl, by simp⟩ (records_value programs))

/-- The text of a list of programs, on its own or wrapped, is read as this very list, and hence
binds the same symbols and warns of the same programs in both forms. -/
theorem read_back (programs : List ProgramRecord) (gap : String)
    (blank : ∀ c ∈ gap.toList, Json.isBlank c) :
    let bare := json programs
    let wrapped := "\x7b\"programs\":" ++ gap ++ bare ++ "\x7d"
    (parse bare = .ok programs ∧ parse wrapped = .ok programs) ∧
    ∀ form ∈ [bare, wrapped], ∃ listed, parse form = .ok listed ∧
      (∀ role, Binding.symbol? listed role = Binding.symbol? programs role) ∧
      Binding.duplicates listed = Binding.duplicates programs := by
  intro bare wrapped
  have first : parse bare = .ok programs := parse_json programs
  have second : parse wrapped = .ok programs := parse_wrap blank programs
  refine ⟨⟨first, second⟩, fun form mem => ⟨programs, ?_, fun _ => rfl, rfl⟩⟩
  rcases List.mem_pair.mp mem with rfl | rfl
  · exact first
  · exact second

/-- Quotes, backslashes, control characters, a character past 16 bits and empty texts, with two
programs for one role. -/
theorem read_back_escaped :
    let awkward := "\"\\/\n\x1b\x7f😀"
    let programs : List ProgramRecord :=
      [⟨awkward ++ "/device_event", awkward⟩, ⟨"", ""⟩, ⟨"s/device_event", "late"⟩]
    let written := "[\x7b\"section\":\"\\\"\\\\/\\n\\u001b\x7f😀/device_event\"," ++
      "\"name\":\"\\\"\\\\/\\n\\u001b\x7f😀\"\x7d,\x7b\"section\":\"\",\"name\":\"\"\x7d," ++
      "\x7b\"section\":\"s/device_event\",\"name\":\"late\"\x7d]"
    json programs = written ∧ parse written = .ok programs ∧
      ∃ listed, parse ("\x7b\"programs\": " ++ written ++ "\x7d") = .ok listed ∧
        Binding.symbol? listed .deviceEvent = some awkward ∧
        Binding.duplicates listed = [⟨.deviceEvent, awkward, "late"⟩] := by
  intro awkward programs written
  have same : json programs = written := by cbv
  obtain ⟨⟨bare, -⟩, alike⟩ := read_back programs " " (by simp [Json.isBlank])
  obtain ⟨listed, read, symbols, late⟩ := alike _ (List.mem_cons_of_mem _ List.mem_cons_self)
  rw [same] at bare read
  refine ⟨same, bare, listed, read, ?_, ?_⟩
  · rw [symbols]
    decide
  · rw [late]
    decide

end Document

end HidRig
