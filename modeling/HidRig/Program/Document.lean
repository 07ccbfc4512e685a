import HidRig.Program.Record

/-! # Metadata documents

A document lists the programs of a module, as an array of records or as an object with that array
under the key `programs`.

* `ProgramRecord.ofValue?`: a record as an object with its two keys, each once, or as an array of
  two texts.
* `Document.ofValue?`, `Document.parse`: the programs of a value and of a text.
-/

namespace HidRig

open Json (Value)

/-- The values of the members with a key. -/
def Json.membersAt (key : String) (members : List (String × Value)) : List Value :=
  (members.filter fun m => m.1 = key).map (·.2)

def Json.Value.text? : Value → Option String
  | .text s => some s
  | _ => none

def ProgramRecord.ofValue? : Value → Option ProgramRecord
  | .object members =>
    match Json.membersAt tagKey members, Json.membersAt nameKey members with
    | [.text tag], [.text name] => some ⟨tag, name⟩
    | _, _ => none
  | .array [.text tag, .text name] => some ⟨tag, name⟩
  | _ => none

namespace Document

/-- The key of the programs in a wrapped document. -/
def programsKey : String := "programs"

def ofItems? (items : List Value) : Option (List ProgramRecord) :=
  items.mapM ProgramRecord.ofValue?

def ofValue? : Value → Option (List ProgramRecord)
  | .array items => ofItems? items
  | .object members =>
    match Json.membersAt programsKey members with
    | [.array items] => ofItems? items
    | _ => none
  | _ => none

/-- Reads the programs of a document. The value is read as a whole before its form is looked at. -/
def read : Json.Reader (List ProgramRecord) := fun text => do
  let (value, rest) ← Value.read text
  match ofValue? value with
  | some programs => .ok (programs, rest)
  | none => .error (.pending (.noForm "Document") rest)

def parse (text : String) : Except Json.Fault (List ProgramRecord) :=
  Json.document read text

def json (programs : List ProgramRecord) : String :=
  Json.arrayOf (programs.map ProgramRecord.json)

def debug (programs : List ProgramRecord) : String :=
  Text.record "ModuleMetadata" [(programsKey, Text.list (programs.map ProgramRecord.debug))]

end Document

end HidRig
