import HidRig.Json.Token

/-! # Arrays and objects

The steps by which a reader walks through brackets, and the loops over all items and members.

* `Json.nextItem`, `Json.nextKey`: whether another item or member follows.
* `Json.colon`: the mark between key and value.
* `Json.closeArray`, `Json.closeObject`: the closing bracket, and where the text stands after the
  attempt.
* `Json.enclose`: ends a bracket after its content. A failure that has no place yet gets the place
  where the bracket ends.
* `Json.readItems`, `Json.readMembers`: all items of an array and all members of an object.
-/

namespace HidRig.Json

/-- Whether another item follows, with the text from there. -/
def nextItem (first : Bool) (text : Input) : Except Failure (Bool × Input) :=
  match skipBlanks text with
  | [] => .error (.at .endInList 0)
  | c :: rest =>
    if c = ']' then .ok (false, c :: rest)
    else if first then .ok (true, c :: rest)
    else if c = ',' then
      match skipBlanks rest with
      | [] => .error (.at .endInValue 0)
      | d :: rest =>
        if d = ']' then .error (.past .trailingComma (d :: rest)) else .ok (true, d :: rest)
    else .error (.past .noCommaInList (c :: rest))

/-- The next key, if another member follows, with the text after it. -/
def nextKey (first : Bool) (text : Input) : Except Failure (Option String × Input) :=
  let key (text : Input) : Except Failure (Option String × Input) := do
    let (name, rest) ← readText text
    .ok (some name, rest)
  match skipBlanks text with
  | [] => .error (.at .endInObject 0)
  | c :: rest =>
    if c = '\x7d' then .ok (none, c :: rest)
    else if first then
      if c = '"' then key rest else .error (.past .keyNotText (c :: rest))
    else if c = ',' then
      match skipBlanks rest with
      | [] => .error (.at .endInValue 0)
      | d :: rest =>
        if d = '"' then key rest
        else if d = '\x7d' then .error (.past .trailingComma (d :: rest))
        else .error (.past .keyNotText (d :: rest))
    else .error (.past .noCommaInObject (c :: rest))

def colon (text : Input) : Except Failure Input :=
  match skipBlanks text with
  | [] => .error (.at .endInObject 0)
  | c :: rest => if c = ':' then .ok rest else .error (.past .noColon (c :: rest))

structure Close where
  failure? : Option Failure
  rest : Input

def closeArray (text : Input) : Close :=
  match skipBlanks text with
  | [] => ⟨some (.at .endInList 0), []⟩
  | c :: rest =>
    if c = ']' then ⟨none, rest⟩
    else if c = ',' then
      match skipBlanks rest with
      | ']' :: rest => ⟨some (.past .trailingComma (']' :: rest)), ']' :: rest⟩
      | rest => ⟨some (.past .trailingText rest), rest⟩
    else ⟨some (.past .trailingText (c :: rest)), c :: rest⟩

def closeObject (text : Input) : Close :=
  match skipBlanks text with
  | [] => ⟨some (.at .endInObject 0), []⟩
  | c :: rest =>
    if c = '\x7d' then ⟨none, rest⟩
    else if c = ',' then ⟨some (.past .trailingComma (c :: rest)), c :: rest⟩
    else ⟨some (.past .trailingText (c :: rest)), c :: rest⟩

/-- Ends a bracket after its content has been read, or has failed without a place. -/
def enclose {α : Type} (close : Input → Close) :
    Except Failure (α × Input) → Except Failure (α × Input)
  | .ok (a, rest) =>
    match close rest with
    | ⟨some failure, _⟩ => .error failure
    | ⟨none, rest⟩ => .ok (a, rest)
  | .error (.at cause left) => .error (.at cause left)
  | .error (.pending cause rest) => .error (.here cause (close rest).rest)

/-- The items of an array, at most `fuel` of them. -/
def readItems {α : Type} (item : Reader α) : Nat → Bool → Reader (List α)
  | 0, _, _ => .error (.at .endInList 0)
  | fuel + 1, first, text => do
    let (more, rest) ← nextItem first text
    if more then
      let (a, rest) ← item rest
      let (as, rest) ← readItems item fuel false rest
      .ok (a :: as, rest)
    else .ok ([], rest)

/-- The members of an object, at most `fuel` of them. -/
def readMembers {α : Type} (value : Reader α) : Nat → Bool → Reader (List (String × α))
  | 0, _, _ => .error (.at .endInObject 0)
  | fuel + 1, first, text => do
    let (key?, rest) ← nextKey first text
    match key? with
    | none => .ok ([], rest)
    | some key =>
      let rest ← colon rest
      let (a, rest) ← value rest
      let (as, rest) ← readMembers value fuel false rest
      .ok ((key, a) :: as, rest)

end HidRig.Json
