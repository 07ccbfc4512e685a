import HidRig.Text.Quoted

/-! # Faults of JSON documents

Why a document was refused, and where.

* `Json.Cause`: the reason, with its wording in `Cause.text`.
* `Json.Failure`: a cause on the way, with the number of bytes left at the place of the fault.
* `Json.Fault`: a cause with line and column, and `Fault.message`.
-/

namespace HidRig.Json

abbrev Input := List Char

inductive Found where
  | null
  | boolean (b : Bool)
  | integer (n : Int)
  /-- A number with a fraction or out of the range of whole numbers, by its decimal text. -/
  | real (decimal : String)
  | text (s : String)
  | sequence
  | map
deriving DecidableEq, Repr

inductive Cause where
  | endInList
  | endInObject
  | endInText
  | endInValue
  | noColon
  | noCommaInList
  | noCommaInObject
  | notAWord
  | notAValue
  | badEscape
  | badNumber
  | numberTooLarge
  | controlCharacter
  | keyNotText
  | loneSurrogate
  | noTrailingEscape
  | trailingComma
  | trailingText
  | tooDeep
  | wrongForm (found : Found) (expected : String)
  | tooShort (length : Nat) (expected : String)
  | missingField (name : String)
  | duplicateField (name : String)
  | unknownName (name : String) (known : List String)
  /-- A value that fits none of the forms of a choice. -/
  | noForm (choice : String)
  | pathNotText
deriving DecidableEq, Repr

inductive Category where
  | malformed
  | cutShort
  /-- The text is JSON of the wrong form. -/
  | mismatch
deriving DecidableEq, Repr

def Cause.category : Cause → Category
  | endInList | endInObject | endInText | endInValue => .cutShort
  | wrongForm .. | tooShort .. | missingField _ | duplicateField _ | unknownName .. | noForm _
  | pathNotText => .mismatch
  | _ => .malformed

def Found.describe : Found → String
  | null => "null"
  | boolean b => "boolean `" ++ (if b then "true" else "false") ++ "`"
  | integer n => "integer `" ++ toString n ++ "`"
  | real decimal => "floating point `" ++ decimal ++ "`"
  | text s => "string " ++ Text.quote s
  | sequence => "sequence"
  | map => "map"

def oneOf : List String → String
  | [] => "there are no variants"
  | [a] => "expected `" ++ a ++ "`"
  | [a, b] => "expected `" ++ a ++ "` or `" ++ b ++ "`"
  | names => "expected one of " ++ ", ".intercalate (names.map fun n => "`" ++ n ++ "`")

def Cause.text : Cause → String
  | endInList => "EOF while parsing a list"
  | endInObject => "EOF while parsing an object"
  | endInText => "EOF while parsing a string"
  | endInValue => "EOF while parsing a value"
  | noColon => "expected `:`"
  | noCommaInList => "expected `,` or `]`"
  | noCommaInObject => "expected `,` or `\x7d`"
  | notAWord => "expected ident"
  | notAValue => "expected value"
  | badEscape => "invalid escape"
  | badNumber => "invalid number"
  | numberTooLarge => "number out of range"
  | controlCharacter =>
    "control character (\\u0000-\\u001F) found while parsing a string"
  | keyNotText => "key must be a string"
  | loneSurrogate => "lone leading surrogate in hex escape"
  | noTrailingEscape => "unexpected end of hex escape"
  | trailingComma => "trailing comma"
  | trailingText => "trailing characters"
  | tooDeep => "recursion limit exceeded"
  | wrongForm found expected => "invalid type: " ++ found.describe ++ ", expected " ++ expected
  | tooShort n expected => "invalid length " ++ toString n ++ ", expected " ++ expected
  | missingField name => "missing field `" ++ name ++ "`"
  | duplicateField name => "duplicate field `" ++ name ++ "`"
  | unknownName name known => "unknown variant `" ++ name ++ "`, " ++ oneOf known
  | noForm choice => "data did not match any variant of untagged enum " ++ choice
  | pathNotText => "path contains invalid UTF-8 characters"

/-- A cause on the way to the reader of the document. -/
inductive Failure where
  /-- At a place given by the number of bytes from there to the end. -/
  | at (cause : Cause) (left : Nat)
  /-- Not placed yet: it belongs where the enclosing value ends. -/
  | pending (cause : Cause) (rest : Input)
deriving DecidableEq, Repr

/-- Readers of the front of a text. -/
abbrev Reader (α : Type) := Input → Except Failure (α × Input)

/-- A failure before the first of the remaining characters. -/
def Failure.here (cause : Cause) (rest : Input) : Failure :=
  .at cause (Utf8.size rest)

/-- A failure after the first of the remaining bytes. -/
def Failure.past (cause : Cause) (rest : Input) : Failure :=
  .at cause (Utf8.size rest - 1)

def Failure.settle : Failure → Failure
  | .at cause left => .at cause left
  | .pending cause rest => .here cause rest

/-- A cause with its place in the document. -/
structure Fault where
  cause : Cause
  /-- The line, from one, or zero without a place. -/
  line : Nat
  /-- How many bytes of the line come before the place. -/
  column : Nat
deriving DecidableEq, Repr

def Fault.nowhere (cause : Cause) : Fault := ⟨cause, 0, 0⟩

/-- The place after the first `n` bytes of a document. -/
def Fault.after (cause : Cause) (bytes : Bytes) (n : Nat) : Fault :=
  let before := bytes.take n
  ⟨cause, 1 + before.count 10, (before.reverse.takeWhile (· ≠ 10)).length⟩

/-- The fault in a document that a failure stands for. -/
def Fault.ofFailure (document : String) : Failure → Fault
  | .at cause left =>
    let bytes := Utf8.encode document
    .after cause bytes (bytes.length - left)
  | .pending cause _ => .nowhere cause

def Fault.message (fault : Fault) : String :=
  if fault.line = 0 then fault.cause.text
  else fault.cause.text ++ " at line " ++ toString fault.line ++ " column "
    ++ toString fault.column

end HidRig.Json
