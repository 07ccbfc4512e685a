import HidRig.Text.Printable
import HidRig.Text.Utf8

/-! # Quoted text and labelled records

The diagnostic form of values: text in double quotes with escapes, lists in brackets, records with
the names of their fields.

* `Text.quote`: a text in quotes.
* `Text.quotePath`: a byte string in quotes, with bytes that are no UTF-8 as `\xFF`.
* `Text.list`, `Text.record`, `Text.openRecord`, `Text.tallRecord`: brackets and fields.
-/

namespace HidRig.Text

/-- The escape of a character, or the character. Hidden and combining characters are written by
their number. -/
def escapeChar (c : Char) : List Char :=
  if c = '\x00' then ['\\', '0']
  else if c = '\t' then ['\\', 't']
  else if c = '\n' then ['\\', 'n']
  else if c = '\r' then ['\\', 'r']
  else if c = '"' then ['\\', '"']
  else if c = '\\' then ['\\', '\\']
  else if isCombining c || isHidden c then
    ['\\', 'u', '\x7b'] ++ (Bytes.hexNumber c.toNat).toList ++ ['\x7d']
  else [c]

def quote (text : String) : String :=
  String.ofList ('"' :: text.toList.flatMap escapeChar ++ ['"'])

/-- The escape of a piece of a path: a byte that belongs to no character is written as two
upper-case digits. -/
def escapeChunk : Utf8.Chunk → List Char
  | .char c => escapeChar c
  | .broken bytes => bytes.flatMap fun b =>
      ['\\', 'x', Bytes.hexDigitUpper (b.toNat / 16), Bytes.hexDigitUpper (b.toNat % 16)]

def quotePath (path : Bytes) : String :=
  String.ofList ('"' :: (Utf8.chunks path).flatMap escapeChunk ++ ['"'])

/-! ## Lists and records -/

def list (items : List String) : String :=
  "[" ++ ", ".intercalate items ++ "]"

/-- A field of a record: its name and the text of its value. -/
abbrev Field := String × String

def record (name : String) (fields : List Field) : String :=
  name ++ " \x7b " ++ ", ".intercalate (fields.map fun f => f.1 ++ ": " ++ f.2) ++ " \x7d"

/-- A record on one line that has more fields than it shows. -/
def openRecord (name : String) (fields : List Field) : String :=
  name ++ " \x7b " ++ String.join (fields.map fun f => f.1 ++ ": " ++ f.2 ++ ", ") ++ ".. \x7d"

def tallRecord (name : String) (fields : List Field) : String :=
  name ++ " \x7b\n" ++ String.join (fields.map fun f => "    " ++ f.1 ++ ": " ++ f.2 ++ ",\n")
    ++ "\x7d"

end HidRig.Text
