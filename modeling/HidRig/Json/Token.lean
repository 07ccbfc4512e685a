import HidRig.Json.Number

/-! # Words and texts

* `Json.word`: one of the words `null`, `true` and `false`.
* `Json.readText`: a text after its opening quote, with escapes and pairs of surrogates.
* `Json.skipText`: passes over a text, whatever its escapes stand for.
-/

namespace HidRig.Json

def isBlank (c : Char) : Bool :=
  c = ' ' || c = '\n' || c = '\t' || c = '\r'

/-- The text from the first character that is no blank. -/
def skipBlanks (text : Input) : Input :=
  text.dropWhile isBlank

def word : List Char → Input → Except Failure Input
  | [], text => .ok text
  | _ :: _, [] => .error (.at .endInValue 0)
  | c :: cs, d :: rest => if c = d then word cs rest else .error (.past .notAWord (d :: rest))

/-! ## Texts in quotes -/

def hexValue? (c : Char) : Option Nat :=
  if '0' ≤ c ∧ c ≤ '9' then some (c.toNat - 48)
  else if 'a' ≤ c ∧ c ≤ 'f' then some (c.toNat - 87)
  else if 'A' ≤ c ∧ c ≤ 'F' then some (c.toNat - 55)
  else none

/-- The number of four hexadecimal digits. The next four bytes are taken whatever they are. -/
def hexFour (text : Input) : Except Failure (Nat × Input) :=
  if Utf8.size text < 4 then .error (.at .endInText 0)
  else
    match text with
    | a :: b :: c :: d :: rest =>
      match hexValue? a, hexValue? b, hexValue? c, hexValue? d with
      | some a, some b, some c, some d => .ok (a * 4096 + b * 256 + c * 16 + d, rest)
      | _, _, _, _ => .error (.at .badEscape (Utf8.size text - 4))
    | _ => .error (.at .badEscape (Utf8.size text - 4))

def escaped? (c : Char) : Option Char :=
  match c with
  | '"' => some '"'
  | '\\' => some '\\'
  | '/' => some '/'
  | 'b' => some '\x08'
  | 'f' => some '\x0c'
  | 'n' => some '\n'
  | 'r' => some '\r'
  | 't' => some '\t'
  | _ => none

/-- Passes over a character that must follow a leading surrogate. -/
def surrogateMark (mark : Char) : Input → Except Failure Input
  | [] => .error (.at .endInText 0)
  | c :: rest => if c = mark then .ok rest else .error (.past .noTrailingEscape (c :: rest))

/-- Whether a number is that of a leading surrogate. -/
def isLeading (n : Nat) : Bool := 0xd800 ≤ n && n ≤ 0xdbff

/-- Whether a number is that of a trailing surrogate. -/
def isTrailing (n : Nat) : Bool := 0xdc00 ≤ n && n ≤ 0xdfff

/-- The character of an escape by number, after the letter `u`. -/
def readNumbered (text : Input) : Except Failure (Char × Input) := do
  let (n, rest) ← hexFour text
  if isTrailing n then .error (.here .loneSurrogate rest)
  else if isLeading n then
    let rest ← surrogateMark '\\' rest
    let rest ← surrogateMark 'u' rest
    let (m, rest) ← hexFour rest
    if isTrailing m then
      .ok (Char.ofNat ((n - 0xd800) * 1024 + (m - 0xdc00) + 0x10000), rest)
    else .error (.here .loneSurrogate rest)
  else .ok (Char.ofNat n, rest)

def readEscape : Input → Except Failure (Char × Input)
  | [] => .error (.at .endInText 0)
  | c :: rest =>
    match escaped? c with
    | some e => .ok (e, rest)
    | none => if c = 'u' then readNumbered rest else .error (.past .badEscape (c :: rest))

/-- The characters up to the closing quote, at most `fuel` of them. -/
def readChars : Nat → Input → Except Failure (List Char × Input)
  | 0, _ => .error (.at .endInText 0)
  | _ + 1, [] => .error (.at .endInText 0)
  | fuel + 1, c :: rest =>
    if c = '"' then .ok ([], rest)
    else if c = '\\' then do
      let (e, rest) ← readEscape rest
      let (cs, rest) ← readChars fuel rest
      .ok (e :: cs, rest)
    else if c.toNat < 0x20 then .error (.past .controlCharacter (c :: rest))
    else do
      let (cs, rest) ← readChars fuel rest
      .ok (c :: cs, rest)

def readText (text : Input) : Except Failure (String × Input) := do
  let (cs, rest) ← readChars text.length text
  .ok (String.ofList cs, rest)

def skipEscape : Input → Except Failure Input
  | [] => .error (.at .endInText 0)
  | c :: rest =>
    if (escaped? c).isSome then .ok rest
    else if c = 'u' then (hexFour rest).map (·.2)
    else .error (.past .badEscape (c :: rest))

/-- Passes over at most `fuel` characters and the closing quote. -/
def skipChars : Nat → Input → Except Failure Input
  | 0, _ => .error (.at .endInText 0)
  | _ + 1, [] => .error (.at .endInText 0)
  | fuel + 1, c :: rest =>
    if c = '"' then .ok rest
    else if c = '\\' then do skipChars fuel (← skipEscape rest)
    else if c.toNat < 0x20 then .error (.here .controlCharacter (c :: rest))
    else skipChars fuel rest

def skipText (text : Input) : Except Failure Input :=
  skipChars text.length text

end HidRig.Json
