import HidRig.Json.Skip
import HidRig.Json.Value

/-! # Reading values of known form

* `Json.readString`, `Json.readList`: a text and an array.
* `Json.Pair`, `Json.readPair`: a record with two fields, written as an object with the names of the
  fields, or as an array with their values in order. Unknown members are passed over.
* `Json.readName`: one of several names, written as a text or as an object with the name as its only
  key and null as its value.
-/

namespace HidRig.Json

/-- The failure of a value of the wrong form. What can be read of the value is read first, and its
own faults win. -/
def mismatch (expected : String) (text : Input) : Failure :=
  let settled (found : Found) (rest : Input) : Failure := .here (.wrongForm found expected) rest
  let ofRead {α : Type} (result : Except Failure α) (k : α → Failure) : Failure :=
    match result with
    | .ok a => k a
    | .error failure => failure
  match text with
  | [] => .at .notAValue 0
  | c :: rest =>
    if c = 'n' then ofRead (word ['u', 'l', 'l'] rest) (settled .null)
    else if c = 't' then ofRead (word ['r', 'u', 'e'] rest) (settled (.boolean true))
    else if c = 'f' then ofRead (word ['a', 'l', 's', 'e'] rest) (settled (.boolean false))
    else if c = '-' then ofRead (readNumber true rest) fun (n, rest) => settled n.found rest
    else if c.isDigit then
      ofRead (readNumber false (c :: rest)) fun (n, rest) => settled n.found rest
    else if c = '"' then ofRead (readText rest) fun (s, rest) => settled (.text s) rest
    else if c = '[' then settled .sequence (c :: rest)
    else if c = '\x7b' then settled .map (c :: rest)
    else .past .notAValue (c :: rest)

def readString (expected : String) : Reader String := fun text =>
  match skipBlanks text with
  | [] => .error (.at .endInValue 0)
  | c :: rest => if c = '"' then readText rest else .error (mismatch expected (c :: rest))

def readList {α : Type} (item : Reader α) : Reader (List α) := fun text =>
  match skipBlanks text with
  | [] => .error (.at .endInValue 0)
  | c :: rest =>
    if c = '[' then enclose closeArray (readItems item (rest.length + 1) true rest)
    else .error (mismatch "a sequence" (c :: rest))

/-! ## Records with two fields -/

structure FieldForm (α : Type) where
  name : String
  read : Reader α
  /-- The value of a field left out, unless the field must be there. -/
  absent? : Option α

structure Pair (α β : Type) where
  name : String
  first : FieldForm α
  second : FieldForm β

/-- The value of a field of an object, once its members are read. -/
def FieldForm.orAbsent {α : Type} (field : FieldForm α) (value? : Option α) (rest : Input) :
    Except Failure α :=
  match value?, field.absent? with
  | some a, _ => .ok a
  | none, some a => .ok a
  | none, none => .error (.pending (.missingField field.name) rest)

/-- Reads the next item of an array as the value of a field. -/
def FieldForm.readNext {α : Type} (field : FieldForm α) (first : Bool) (index : Nat)
    (record : String) (text : Input) : Except Failure (α × Input) := do
  let (more, rest) ← nextItem first text
  if more then field.read rest
  else
    match field.absent? with
    | some a => .ok (a, rest)
    | none => .error (.pending (.tooShort index (record ++ " with 2 elements")) rest)

variable {α β : Type}

/-- Reads the items of an array as the fields in order. -/
def Pair.readItems (pair : Pair α β) : Reader (α × β) := fun text => do
  let (a, rest) ← pair.first.readNext true 0 ("struct " ++ pair.name) text
  let (b, rest) ← pair.second.readNext false 1 ("struct " ++ pair.name) rest
  .ok ((a, b), rest)

/-- Reads the members of an object, at most `fuel` of them, with the fields found so far. -/
def Pair.readMembers (pair : Pair α β) : Nat → Bool → Option α → Option β → Reader (α × β)
  | 0, _, _, _, _ => .error (.at .endInObject 0)
  | fuel + 1, first, a?, b?, text => do
    let (key?, rest) ← nextKey first text
    match key? with
    | none =>
      let a ← pair.first.orAbsent a? rest
      let b ← pair.second.orAbsent b? rest
      .ok ((a, b), rest)
    | some key =>
      if key = pair.first.name then
        if a?.isSome then .error (.pending (.duplicateField key) rest)
        else
          let (a, rest) ← pair.first.read (← colon rest)
          pair.readMembers fuel false (some a) b? rest
      else if key = pair.second.name then
        if b?.isSome then .error (.pending (.duplicateField key) rest)
        else
          let (b, rest) ← pair.second.read (← colon rest)
          pair.readMembers fuel false a? (some b) rest
      else
        let rest ← skipValue (← colon rest)
        pair.readMembers fuel false a? b? rest

def readPair (pair : Pair α β) : Reader (α × β) := fun text =>
  match skipBlanks text with
  | [] => .error (.at .endInValue 0)
  | c :: rest =>
    if c = '[' then enclose closeArray (pair.readItems rest)
    else if c = '\x7b' then
      enclose closeObject (pair.readMembers (rest.length + 1) true none none rest)
    else .error (mismatch ("struct " ++ pair.name) (c :: rest))

/-! ## Names -/

/-- The value of a name, at the text after it. -/
def nameValue (names : List (String × α)) (name : String) (rest : Input) : Except Failure α :=
  match names.lookup name with
  | some a => .ok a
  | none => .error (.here (.unknownName name (names.map (·.1))) rest)

/-- Passes over the word that stands for no value. -/
def readUnit (text : Input) : Except Failure Input :=
  match skipBlanks text with
  | [] => .error (.at .endInValue 0)
  | c :: rest =>
    if c = 'n' then word ['u', 'l', 'l'] rest else .error (mismatch "unit" (c :: rest))

/-- Reads the name in an object with one member. -/
def readNameObject (names : List (String × α)) (text : Input) : Except Failure (α × Input) :=
  match skipBlanks text with
  | [] => .error (.at .endInObject 0)
  | c :: rest =>
    if c = '\x7d' then .error (.past .notAValue (c :: rest))
    else if c ≠ '"' then .error (.past .keyNotText (c :: rest))
    else do
      let (name, rest) ← readText rest
      let a ← nameValue names name rest
      let rest ← readUnit (← colon rest)
      match skipBlanks rest with
      | [] => .error (.at .endInObject 0)
      | d :: rest => if d = '\x7d' then .ok (a, rest) else .error (.here .notAValue (d :: rest))

/-- Reads one of the given names as its value. -/
def readName (names : List (String × α)) : Reader α := fun text =>
  match skipBlanks text with
  | [] => .error (.at .endInValue 0)
  | c :: rest =>
    if c = '"' then do
      let (name, rest) ← readText rest
      .ok (← nameValue names name rest, rest)
    else if c = '\x7b' then readNameObject names rest
    else .error (.past .notAValue (c :: rest))

end HidRig.Json
