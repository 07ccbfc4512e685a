import HidRig.Bytes

/-! # Writing JSON

Compact text: no blanks, members in order, and escapes only where the format demands them.

* `Json.quoted`: a text in quotes.
* `Json.arrayOf`, `Json.objectOf`: brackets around items and members already written.
-/

namespace HidRig.Json

/-- The written form of a character inside quotes. Control characters without a letter of their own
are written by number. -/
def writeChar (c : Char) : List Char :=
  if c = '"' then ['\\', '"']
  else if c = '\\' then ['\\', '\\']
  else if c = '\x08' then ['\\', 'b']
  else if c = '\x0c' then ['\\', 'f']
  else if c = '\n' then ['\\', 'n']
  else if c = '\r' then ['\\', 'r']
  else if c = '\t' then ['\\', 't']
  else if c.toNat < 0x20 then
    ['\\', 'u', '0', '0', Bytes.hexDigit (c.toNat / 16), Bytes.hexDigit (c.toNat % 16)]
  else [c]

def quoted (text : String) : String :=
  String.ofList ('"' :: text.toList.flatMap writeChar ++ ['"'])

def arrayOf (items : List String) : String :=
  "[" ++ ",".intercalate items ++ "]"

/-- An object of members whose values are already written. -/
def objectOf (members : List (String × String)) : String :=
  "\x7b" ++ ",".intercalate (members.map fun m => quoted m.1 ++ ":" ++ m.2) ++ "\x7d"

end HidRig.Json
