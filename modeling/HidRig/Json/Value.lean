import HidRig.Json.Brackets

/-! # JSON values

* `Json.Value`: a document as a tree. Members keep their order, and a key may occur twice.
* `Json.Value.read`: reads one value, with at most 127 brackets inside one another.
* `Json.document`: reads a whole document by a reader for its value.
-/

namespace HidRig.Json

inductive Value where
  | null
  | boolean (b : Bool)
  | number (n : Number)
  | text (s : String)
  | array (items : List Value)
  | object (members : List (String × Value))

/-- How many brackets may stand inside one another. -/
def nestingLimit : Nat := 127

/-- Reads a value with at most `depth` brackets inside one another. -/
def Value.readNested (depth : Nat) (text : Input) : Except Failure (Value × Input) :=
  match skipBlanks text with
  | [] => .error (.at .endInValue 0)
  | c :: rest =>
    if c = 'n' then (word ['u', 'l', 'l'] rest).map (.null, ·)
    else if c = 't' then (word ['r', 'u', 'e'] rest).map (.boolean true, ·)
    else if c = 'f' then (word ['a', 'l', 's', 'e'] rest).map (.boolean false, ·)
    else if c = '-' then (readNumber true rest).map fun (n, rest) => (.number n, rest)
    else if c.isDigit then (readNumber false (c :: rest)).map fun (n, rest) => (.number n, rest)
    else if c = '"' then (readText rest).map fun (s, rest) => (.text s, rest)
    else if c = '[' then
      match depth with
      | 0 => .error (.past .tooDeep (c :: rest))
      | depth + 1 =>
        (enclose closeArray (readItems (readNested depth) (rest.length + 1) true rest)).map
          fun (items, rest) => (.array items, rest)
    else if c = '\x7b' then
      match depth with
      | 0 => .error (.past .tooDeep (c :: rest))
      | depth + 1 =>
        (enclose closeObject (readMembers (readNested depth) (rest.length + 1) true rest)).map
          fun (members, rest) => (.object members, rest)
    else .error (.past .notAValue (c :: rest))

def Value.read : Reader Value :=
  Value.readNested nestingLimit

/-- Reads a whole document: a value with nothing but blanks around it. -/
def document {α : Type} (read : Reader α) (text : String) : Except Fault α :=
  let result : Except Failure α := do
    let (a, rest) ← read text.toList
    match skipBlanks rest with
    | [] => .ok a
    | rest => .error (.past .trailingText rest)
  result.mapError (Fault.ofFailure text)

end HidRig.Json
