import HidRig.Json.Brackets

/-! # Passing over a value

* `Json.skipValue`: passes over a value that nothing asks for. Its form is checked less closely than
  that of a value that is read: surrogates need no partner, numbers may have any size, and brackets
  may stand inside one another without limit.
-/

namespace HidRig.Json

/-- What a value is passed over inside of. -/
inductive Bracket where
  | array
  | object
deriving DecidableEq, Repr

def Bracket.closing : Bracket → Char
  | array => ']'
  | object => '\x7d'

/-- The fault of a text that ends inside a bracket. -/
def Bracket.unclosed : Bracket → Cause
  | array => .endInList
  | object => .endInObject

/-- The fault of a value in a bracket without comma or end after it. -/
def Bracket.noComma : Bracket → Cause
  | array => .noCommaInList
  | object => .noCommaInObject

/-- Passes over the key of a member and its colon. -/
def skipKey (text : Input) : Except Failure Input :=
  match skipBlanks text with
  | [] => .error (.at .endInObject 0)
  | c :: rest =>
    if c = '"' then do colon (← skipText rest) else .error (.past .keyNotText (c :: rest))

/-- Passes over the start of an item: the key of a member, nothing in an array. -/
def Bracket.skipStart : Bracket → Input → Except Failure Input
  | array, text => .ok text
  | object, text => skipKey text

/-- Passes over a value that is no bracket; tells a bracket from it. -/
def skipAtom (text : Input) : Except Failure (Option Bracket × Input) :=
  match skipBlanks text with
  | [] => .error (.at .endInValue 0)
  | c :: rest =>
    if c = 'n' then (word ['u', 'l', 'l'] rest).map (none, ·)
    else if c = 't' then (word ['r', 'u', 'e'] rest).map (none, ·)
    else if c = 'f' then (word ['a', 'l', 's', 'e'] rest).map (none, ·)
    else if c = '-' then (skipNumber rest).map (none, ·)
    else if c.isDigit then (skipNumber (c :: rest)).map (none, ·)
    else if c = '"' then (skipText rest).map (none, ·)
    else if c = '[' then .ok (some .array, rest)
    else if c = '\x7b' then .ok (some .object, rest)
    else .error (.past .notAValue (c :: rest))

mutual

/-- Passes over a value, in at most `fuel` steps. -/
def skipSteps : Nat → Input → Except Failure Input
  | 0, _ => .error (.at .endInValue 0)
  | fuel + 1, text => do
    match ← skipAtom text with
    | (none, rest) => .ok rest
    | (some bracket, rest) => skipItems fuel bracket true rest

/-- Passes over the items of a bracket and its end, in at most `fuel` steps. -/
def skipItems : Nat → Bracket → Bool → Input → Except Failure Input
  | 0, bracket, _, _ => .error (.at bracket.unclosed 0)
  | fuel + 1, bracket, first, text =>
    match skipBlanks text with
    | [] => .error (.at bracket.unclosed 0)
    | c :: rest => do
      if c = bracket.closing then .ok rest
      else if first then
        let rest ← skipSteps fuel (← bracket.skipStart (c :: rest))
        skipItems fuel bracket false rest
      else if c = ',' then
        let rest ← skipSteps fuel (← bracket.skipStart rest)
        skipItems fuel bracket false rest
      else .error (.past bracket.noComma (c :: rest))

end

/-- Passes over a value. Every two steps take at least one character. -/
def skipValue (text : Input) : Except Failure Input :=
  skipSteps (2 * text.length + 2) text

end HidRig.Json
