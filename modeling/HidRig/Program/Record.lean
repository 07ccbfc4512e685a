import HidRig.Json.Typed
import HidRig.Json.Printer

/-! # Program records

* `ProgramRecord`: the section and the symbol of one exported program.
* `ProgramRecord.read`, `ProgramRecord.json`: its form in documents.
-/

namespace HidRig

structure ProgramRecord where
  tag : String
  name : String
deriving DecidableEq, Repr, Inhabited

namespace ProgramRecord

def tagKey : String := "section"

def nameKey : String := "name"

/-- The fields of a record. Both must be there. -/
def form : Json.Pair String String where
  name := "ProgramRecord"
  first := ⟨tagKey, Json.readString "a string", none⟩
  second := ⟨nameKey, Json.readString "a string", none⟩

def read : Json.Reader ProgramRecord := fun text => do
  let ((tag, name), rest) ← Json.readPair form text
  .ok (⟨tag, name⟩, rest)

def json (record : ProgramRecord) : String :=
  Json.objectOf [(tagKey, Json.quoted record.tag), (nameKey, Json.quoted record.name)]

def debug (record : ProgramRecord) : String :=
  Text.record "ProgramRecord"
    [(tagKey, Text.quote record.tag), (nameKey, Text.quote record.name)]

end ProgramRecord

end HidRig
