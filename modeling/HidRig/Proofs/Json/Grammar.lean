import HidRig.Json.Skip
import Mathlib.Data.List.Forall2

/-! # The texts of JSON values

Which texts are values, whatever blanks, escapes and digits they are written with. Nothing here
depends on how a text is read.

* `Json.Spells`, `Json.IsTextOf`: the forms of a character, and of a text in quotes.
* `Json.Piece`, `Json.IsText`: a text in quotes whose escapes need not stand for characters.
* `Json.IsNumber`: a number.
* `Json.Listed`: some texts with commas between them.
* `Json.IsListOf`: an array whose items have a given form.
* `Json.IsValue`: a value.
-/

namespace HidRig.Json

def Gap (text : Input) : Prop :=
  ∀ c ∈ text, isBlank c = true

instance : DecidablePred Gap := fun text =>
  List.decidableBAll (isBlank · = true) text

theorem Gap.nil : Gap [] := nofun

/-! ## Texts in quotes -/

/-- The letters of escapes with the characters that they stand for. -/
def escapeLetters : List (Char × Char) :=
  [('"', '"'), ('\\', '\\'), ('/', '/'), ('b', '\x08'), ('f', '\x0c'), ('n', '\n'), ('r', '\r'),
    ('t', '\t')]

/-- The digits of the base sixteen, which have two forms from ten on, with their values. -/
def hexDigits : List (Char × Nat) :=
  "0123456789abcdef".toList.zipIdx ++ "ABCDEF".toList.zipIdx 10

/-- Four digits of the base sixteen, with the number that they stand for. -/
inductive HexNumber : Input → Nat → Prop
  | digits {c d e f : Char} {k l m n : Nat} (first : (c, k) ∈ hexDigits)
      (second : (d, l) ∈ hexDigits) (third : (e, m) ∈ hexDigits) (fourth : (f, n) ∈ hexDigits) :
      HexNumber [c, d, e, f] (((k * 16 + l) * 16 + m) * 16 + n)

/-- A character that may stand for itself in quotes. -/
structure Plain (c : Char) : Prop where
  not_quote : c ≠ '"'
  not_backslash : c ≠ '\\'
  not_control : 0x20 ≤ c.toNat

/-- The forms of a character in quotes. A character past 16 bits has one by two numbers. -/
inductive Spells : Input → Char → Prop
  | plain {c : Char} (plain : Plain c) : Spells [c] c
  | letter {mark c : Char} (letter : (mark, c) ∈ escapeLetters) : Spells ['\\', mark] c
  | number {digits : Input} {c : Char} (number : HexNumber digits c.toNat) :
      Spells ('\\' :: 'u' :: digits) c
  | pair {first second : Input} {high low : Nat} {c : Char} (leading : HexNumber first high)
      (trailing : HexNumber second low) (highs : 0xd800 ≤ high ∧ high < 0xdc00)
      (lows : 0xdc00 ≤ low ∧ low < 0xe000)
      (value : c.toNat = 0x10000 + (high - 0xd800) * 0x400 + (low - 0xdc00)) :
      Spells ('\\' :: 'u' :: first ++ '\\' :: 'u' :: second) c

/-- A text in quotes that stands for a given one. -/
def IsTextOf (text : Input) (s : String) : Prop :=
  ∃ forms, List.Forall₂ Spells forms s.toList ∧ text = '"' :: forms.flatten ++ ['"']

/-- A character or an escape in quotes, where an escape by number may be half of a character. -/
inductive Piece : Input → Prop
  | plain {c : Char} (plain : Plain c) : Piece [c]
  | letter {mark c : Char} (letter : (mark, c) ∈ escapeLetters) : Piece ['\\', mark]
  | number {digits : Input} {n : Nat} (number : HexNumber digits n) :
      Piece ('\\' :: 'u' :: digits)

/-- A text in quotes, which need not stand for any. -/
def IsText (text : Input) : Prop :=
  ∃ pieces : List Input, (∀ piece ∈ pieces, Piece piece) ∧ text = '"' :: pieces.flatten ++ ['"']

/-! ## Numbers -/

structure Digits (text : Input) : Prop where
  some : text ≠ []
  all : ∀ c ∈ text, c.isDigit = true

instance : DecidablePred Digits := fun text =>
  have := List.decidableBAll (Char.isDigit · = true) text
  decidable_of_iff (text ≠ [] ∧ ∀ c ∈ text, c.isDigit = true)
    ⟨fun h => ⟨h.1, h.2⟩, fun h => ⟨h.some, h.all⟩⟩

/-- The digits before the point. Only the number zero starts with a zero. -/
inductive Whole : Input → Prop
  | zero : Whole ['0']
  | digits {c : Char} {text : Input} (digits : Digits (c :: text)) (lead : c ≠ '0') :
      Whole (c :: text)

inductive Fraction : Input → Prop
  | none : Fraction []
  | digits {text : Input} (digits : Digits text) : Fraction ('.' :: text)

inductive Exponent : Input → Prop
  | none : Exponent []
  | digits {mark : Char} {sign text : Input} (marks : mark = 'e' ∨ mark = 'E')
      (signs : sign = [] ∨ sign = ['+'] ∨ sign = ['-']) (digits : Digits text) :
      Exponent (mark :: (sign ++ text))

/-- A number without its sign. -/
inductive Magnitude : Input → Prop
  | parts {whole fraction exponent : Input} (first : Whole whole) (second : Fraction fraction)
      (third : Exponent exponent) : Magnitude (whole ++ fraction ++ exponent)

inductive IsNumber : Input → Prop
  | plain {text : Input} (magnitude : Magnitude text) : IsNumber text
  | minus {text : Input} (magnitude : Magnitude text) : IsNumber ('-' :: text)

/-! ## Values -/

/-- Some texts with commas between them, or blanks where there is none. -/
inductive Listed : List Input → Input → Prop
  | none {gap : Input} (blank : Gap gap) : Listed [] gap
  | some (first : Input) (others : List Input) :
      Listed (first :: others) (first ++ others.flatMap (',' :: ·))

/-- An item of a bracket: what stands before its value, the value, and blanks. -/
structure Item where
  start : Input
  value : Input
  stop : Input

def Item.text (item : Item) : Input :=
  item.start ++ item.value ++ item.stop

theorem Item.length_text (item : Item) :
    item.text.length = item.start.length + item.value.length + item.stop.length := by
  simp only [Item.text, List.length_append]

def Bracket.opening : Bracket → Char
  | array => '['
  | object => '\x7b'

/-- What comes after an item: other items behind commas, and the end of the bracket. -/
def following (bracket : Bracket) (items : List Item) (rest : Input) : Input :=
  items.flatMap (fun item => ',' :: item.text) ++ bracket.closing :: rest

theorem following_cons (bracket : Bracket) (item : Item) (items : List Item) (rest : Input) :
    following bracket (item :: items) rest =
      ',' :: (item.start ++ (item.value ++ (item.stop ++ following bracket items rest))) := by
  simp [following, Item.text]

theorem text_append_following (bracket : Bracket) (item : Item) (items : List Item) (rest : Input) :
    item.text ++ (items.map Item.text).flatMap (',' :: ·) ++ bracket.closing :: rest =
      item.start ++ (item.value ++ (item.stop ++ following bracket items rest)) := by
  simp [following, Item.text, List.flatMap_map]

/-- An array whose items are forms of the given values in order. -/
def IsListOf {α : Type} (form : Input → α → Prop) (text : Input) (as : List α) : Prop :=
  ∃ items inner, Listed (items.map Item.text) inner ∧
    (∀ item ∈ items, Gap item.start ∧ Gap item.stop) ∧
    List.Forall₂ (fun item a => form item.value a) items as ∧ text = '[' :: inner ++ [']']

/-- What stands before a value in a bracket: blanks, and in an object a key and a colon. -/
inductive Starts : Bracket → Input → Prop
  | array {gap : Input} (blank : Gap gap) : Starts .array gap
  | object {before key after gap : Input} (first : Gap before) (quoted : IsText key)
      (second : Gap after) (third : Gap gap) :
      Starts .object (before ++ key ++ after ++ ':' :: gap)

/-- A value, without blanks around it. -/
inductive IsValue : Input → Prop
  | word {text : String} (word : text ∈ ["null", "true", "false"]) : IsValue text.toList
  | number {text : Input} (number : IsNumber text) : IsValue text
  | text {text : Input} (quoted : IsText text) : IsValue text
  | bracket (bracket : Bracket) {items : List Item} {inner : Input}
      (listed : Listed (items.map Item.text) inner)
      (starts : ∀ item ∈ items, Starts bracket item.start)
      (values : ∀ item ∈ items, IsValue item.value)
      (stops : ∀ item ∈ items, Gap item.stop) :
      IsValue (bracket.opening :: inner ++ [bracket.closing])

end HidRig.Json
