import HidRig.Json.Value
import HidRig.Proofs.Json.Grammar
import Mathlib.Data.List.TakeWhile

/-! # Texts and arrays are read by what they spell

A reader goes by what a text stands for, whatever blanks and escapes it is written with.

* `Json.readChars_spells`, `Json.readText_spelled`: characters, and texts in quotes.
* `Json.Takes`: a reader takes a text off the front of any other, to a value.
* `Json.readItems_listed`: the items of an array, by what is known of each.
* `Json.nextKey_first`, `Json.nextKey_other`: the key of a member.
* `Json.document_of_takes`: a document with blanks around its value.
-/

namespace HidRig.Json

/-! ## Blanks -/

theorem skipBlanks_of_not_blank {c : Char} (h : isBlank c = false) (rest : Input) :
    skipBlanks (c :: rest) = c :: rest :=
  List.dropWhile_cons_of_neg (by simp [h])

theorem Gap.skip {gap : Input} (blank : Gap gap) (rest : Input) :
    skipBlanks (gap ++ rest) = skipBlanks rest :=
  List.dropWhile_append_of_pos blank

theorem Gap.skip_cons {gap : Input} (blank : Gap gap) {c : Char} (dark : isBlank c = false)
    (rest : Input) : skipBlanks (gap ++ c :: rest) = c :: rest := by
  rw [blank.skip, skipBlanks_of_not_blank dark]

/-! ## Texts in quotes -/

theorem hexValue?_of_mem : ∀ digit ∈ hexDigits, hexValue? digit.1 = some digit.2 := by
  decide

theorem escaped?_of_mem : ∀ letter ∈ escapeLetters, escaped? letter.1 = some letter.2 := by
  decide

theorem four_le_size (a b c d : Char) (rest : Input) :
    4 ≤ Utf8.size (a :: b :: c :: d :: rest) := by
  have := a.utf8Size_pos
  have := b.utf8Size_pos
  have := c.utf8Size_pos
  have := d.utf8Size_pos
  simp only [Utf8.size, List.foldr_cons]
  omega

theorem HexNumber.read {digits : Input} {n : Nat} (number : HexNumber digits n) (rest : Input) :
    hexFour (digits ++ rest) = .ok (n, rest) := by
  cases number with
  | @digits c d e f k l m n first second third fourth =>
    have long := four_le_size c d e f rest
    have value : k * 4096 + l * 256 + m * 16 + n = ((k * 16 + l) * 16 + m) * 16 + n := by omega
    simp only [hexFour, List.cons_append, List.nil_append, if_neg (Nat.not_lt.mpr long),
      hexValue?_of_mem _ first, hexValue?_of_mem _ second, hexValue?_of_mem _ third,
      hexValue?_of_mem _ fourth, value]

theorem isLeading_iff (n : Nat) : isLeading n = true ↔ 0xd800 ≤ n ∧ n < 0xdc00 := by
  simp only [isLeading, Bool.and_eq_true, decide_eq_true_eq]
  omega

theorem isTrailing_iff (n : Nat) : isTrailing n = true ↔ 0xdc00 ≤ n ∧ n < 0xe000 := by
  simp only [isTrailing, Bool.and_eq_true, decide_eq_true_eq]
  omega

/-- The number of a character is that of no surrogate. -/
theorem readNumbered_number {digits : Input} {c : Char} (number : HexNumber digits c.toNat)
    (rest : Input) : readNumbered (digits ++ rest) = .ok (c, rest) := by
  have valid : c.toNat < 0xd800 ∨ 0xdfff < c.toNat ∧ c.toNat < 0x110000 := c.valid
  have leading : isLeading c.toNat = false := by
    rw [Bool.eq_false_iff, ne_eq, isLeading_iff]
    omega
  have trailing : isTrailing c.toNat = false := by
    rw [Bool.eq_false_iff, ne_eq, isTrailing_iff]
    omega
  simp [readNumbered, number.read rest, trailing, leading, bind, Except.bind]

theorem readNumbered_pair {first second : Input} {high low : Nat} {c : Char}
    (leading : HexNumber first high) (trailing : HexNumber second low)
    (highs : 0xd800 ≤ high ∧ high < 0xdc00) (lows : 0xdc00 ≤ low ∧ low < 0xe000)
    (value : c.toNat = 0x10000 + (high - 0xd800) * 0x400 + (low - 0xdc00)) (rest : Input) :
    readNumbered (first ++ '\\' :: 'u' :: (second ++ rest)) = .ok (c, rest) := by
  have leads := (isLeading_iff high).mpr highs
  have trails := (isTrailing_iff low).mpr lows
  have other : isTrailing high = false := by
    rw [Bool.eq_false_iff, ne_eq, isTrailing_iff]
    omega
  have number : (high - 0xd800) * 1024 + (low - 0xdc00) + 0x10000 = c.toNat := by omega
  have back := c.ofNat_toNat
  rw [← number] at back
  simp [readNumbered, leading.read, trailing.read, leads, other, trails, surrogateMark, bind,
    Except.bind, back]

theorem readChars_escape {tail rest : Input} {c : Char} (read : readEscape tail = .ok (c, rest))
    (fuel : Nat) :
    readChars (fuel + 1) ('\\' :: tail) = (readChars fuel rest).map fun p => (c :: p.1, p.2) := by
  rw [readChars, if_neg (by decide), if_pos rfl, read]
  dsimp only [bind, Except.bind]
  cases readChars fuel rest <;> rfl

/-- One round of reading, with the front of the text given by the character that it stands for. -/
theorem readChars_spells {form : Input} {c : Char} (spells : Spells form c) (fuel : Nat)
    (rest : Input) :
    readChars (fuel + 1) (form ++ rest) = (readChars fuel rest).map fun p => (c :: p.1, p.2) := by
  have mark : escaped? 'u' = none := by decide
  cases spells with
  | plain plain =>
    have control : ¬ c.toNat < 0x20 := Nat.not_lt.mpr plain.not_control
    rw [List.singleton_append, readChars, if_neg plain.not_quote, if_neg plain.not_backslash,
      if_neg control]
    cases readChars fuel rest <;> rfl
  | letter letter =>
    refine readChars_escape ?_ fuel
    simp [readEscape, escaped?_of_mem _ letter]
  | number number =>
    refine readChars_escape ?_ fuel
    simpa [readEscape, mark] using readNumbered_number number rest
  | pair leading trailing highs lows value =>
    simp only [List.cons_append, List.append_assoc]
    refine readChars_escape ?_ fuel
    simpa [readEscape, mark] using readNumbered_pair leading trailing highs lows value rest

theorem Spells.length_pos {form : Input} {c : Char} (spells : Spells form c) : 0 < form.length := by
  cases spells <;> simp

-- each form is read in one step and has at least one character, so that the steps last
theorem readChars_flatten {forms : List Input} {cs : List Char}
    (spells : List.Forall₂ Spells forms cs) {fuel : Nat} (enough : forms.flatten.length < fuel)
    (rest : Input) : readChars fuel (forms.flatten ++ '"' :: rest) = .ok (cs, rest) := by
  induction spells generalizing fuel with
  | nil =>
    obtain ⟨fuel, rfl⟩ := Nat.exists_eq_add_one.mpr enough
    rfl
  | cons first _ ih =>
    have some := first.length_pos
    rw [List.flatten_cons, List.length_append] at enough
    obtain ⟨fuel, rfl⟩ := Nat.exists_eq_add_one.mpr (Nat.zero_lt_of_lt enough)
    rw [List.flatten_cons, List.append_assoc, readChars_spells first, ih (by omega)]
    rfl

theorem readText_spelled {text : Input} {s : String} (spelled : IsTextOf text s) (rest : Input) :
    ∃ inner, text ++ rest = '"' :: inner ∧ readText inner = .ok (s, rest) := by
  obtain ⟨forms, spells, rfl⟩ := spelled
  refine ⟨forms.flatten ++ '"' :: rest, by simp, ?_⟩
  rw [readText, readChars_flatten spells (by simp)]
  show Except.ok _ = _
  rw [String.ofList_toList]

/-! ## Arrays -/

/-- A reader takes a text off the front of any other, to a value. -/
def Takes {α : Type} (read : Reader α) (text : Input) (a : α) : Prop :=
  ∀ rest, read (text ++ rest) = .ok (a, rest)

/-- A text starts with a character that is no blank and closes no array. -/
def Begins (text : Input) : Prop :=
  ∃ c cs, text = c :: cs ∧ isBlank c = false ∧ c ≠ ']'

theorem Begins.length_pos {text : Input} (h : Begins text) : 0 < text.length := by
  obtain ⟨c, cs, rfl, -⟩ := h
  exact Nat.succ_pos _

variable {α : Type}

theorem nextItem_end (first : Bool) {gap : Input} (blank : Gap gap) (rest : Input) :
    nextItem first (gap ++ ']' :: rest) = .ok (false, ']' :: rest) := by
  simp [nextItem, blank.skip_cons (show isBlank ']' = false by decide)]

theorem nextItem_first {text : Input} (begins : Begins text) {gap : Input} (blank : Gap gap)
    (rest : Input) : nextItem true (gap ++ (text ++ rest)) = .ok (true, text ++ rest) := by
  obtain ⟨c, cs, rfl, dark, closes⟩ := begins
  simp [nextItem, blank.skip_cons dark, closes]

theorem nextItem_other {text : Input} (begins : Begins text) {before gap : Input}
    (space : Gap before) (blank : Gap gap) (rest : Input) :
    nextItem false (before ++ ',' :: (gap ++ (text ++ rest))) = .ok (true, text ++ rest) := by
  obtain ⟨c, cs, rfl, dark, closes⟩ := begins
  simp [nextItem, space.skip_cons (show isBlank ',' = false by decide), blank.skip_cons dark,
    closes]

theorem readItems_cons {item : Reader α} {text : Input} {a : α} (takes : Takes item text a)
    {first : Bool} {before rest : Input}
    (more : nextItem first before = .ok (true, text ++ rest)) (fuel : Nat) :
    readItems item (fuel + 1) first before =
      (readItems item fuel false rest).map fun p => (a :: p.1, p.2) := by
  rw [readItems, more]
  dsimp only [bind, Except.bind]
  rw [if_pos rfl, takes rest]
  dsimp only
  cases readItems item fuel false rest <;> rfl

/-- What is known of an item of an array with its value. -/
structure Item.Takes (read : Reader α) (item : Item) (a : α) : Prop where
  start : Gap item.start
  begins : Begins item.value
  takes : Json.Takes read item.value a
  stop : Gap item.stop

theorem readItems_end (item : Reader α) (fuel : Nat) (first : Bool) {gap : Input} (blank : Gap gap)
    (rest : Input) :
    readItems item (fuel + 1) first (gap ++ ']' :: rest) = .ok ([], ']' :: rest) := by
  simp [readItems, nextItem_end first blank, bind, Except.bind]

/-- The items after the first, each behind a comma. -/
theorem readItems_following {read : Reader α} {items : List Item} {as : List α}
    (known : List.Forall₂ (Item.Takes read) items as) {gap : Input} (blank : Gap gap) {fuel : Nat}
    (enough : (items.flatMap fun item => ',' :: item.text).length < fuel) (rest : Input) :
    readItems read fuel false (gap ++ following .array items rest) =
      .ok (as, ']' :: rest) := by
  induction known generalizing gap fuel with
  | nil =>
    obtain ⟨fuel, rfl⟩ := Nat.exists_eq_add_one.mpr enough
    exact readItems_end read fuel false blank rest
  | @cons item a items as known others ih =>
    rw [List.flatMap_cons, List.length_append, List.length_cons] at enough
    obtain ⟨fuel, rfl⟩ := Nat.exists_eq_add_one.mpr (Nat.zero_lt_of_lt enough)
    rw [following_cons,
      readItems_cons known.takes (nextItem_other known.begins blank known.start _),
      ih known.stop (by omega)]
    rfl

theorem readItems_listed {read : Reader α} {items : List Item} {as : List α} {inner : Input}
    (listed : Listed (items.map Item.text) inner)
    (known : List.Forall₂ (Item.Takes read) items as) {fuel : Nat}
    (enough : inner.length < fuel) (rest : Input) :
    readItems read fuel true (inner ++ ']' :: rest) = .ok (as, ']' :: rest) := by
  obtain ⟨fuel, rfl⟩ := Nat.exists_eq_add_one.mpr (Nat.zero_lt_of_lt enough)
  cases known with
  | nil =>
    cases listed with
    | none blank => exact readItems_end read fuel true blank rest
  | @cons item a items as known others =>
    cases listed
    have some := known.begins.length_pos
    rw [List.flatMap_map, List.length_append, Item.length_text] at enough
    have begin := nextItem_first known.begins known.start (item.stop ++ following .array items rest)
    have layout : _ ++ ']' :: rest = _ := text_append_following .array item items rest
    rw [layout, readItems_cons known.takes begin,
      readItems_following others known.stop (by omega)]
    rfl

theorem closeArray_cons (rest : Input) : closeArray (']' :: rest) = ⟨none, rest⟩ := by
  simp [closeArray, skipBlanks_of_not_blank (show isBlank ']' = false by decide)]

/-! ## Keys -/

theorem nextKey_end (first : Bool) {gap : Input} (blank : Gap gap) (rest : Input) :
    nextKey first (gap ++ '\x7d' :: rest) = .ok (none, '\x7d' :: rest) := by
  simp [nextKey, blank.skip_cons (show isBlank '\x7d' = false by decide)]

/-- The key of the first member. -/
theorem nextKey_first {key : Input} {name : String} (spelled : IsTextOf key name) {gap : Input}
    (blank : Gap gap) (rest : Input) :
    nextKey true (gap ++ (key ++ rest)) = .ok (some name, rest) := by
  obtain ⟨inner, same, read⟩ := readText_spelled spelled rest
  simp [nextKey, same, blank.skip_cons (show isBlank '"' = false by decide), read, bind,
    Except.bind]

/-- The key of another member, after its comma. -/
theorem nextKey_other {key : Input} {name : String} (spelled : IsTextOf key name)
    {before gap : Input} (space : Gap before) (blank : Gap gap) (rest : Input) :
    nextKey false (before ++ ',' :: (gap ++ (key ++ rest))) = .ok (some name, rest) := by
  obtain ⟨inner, same, read⟩ := readText_spelled spelled rest
  simp [nextKey, same, space.skip_cons (show isBlank ',' = false by decide),
    blank.skip_cons (show isBlank '"' = false by decide), read, bind, Except.bind]

theorem colon_append {gap : Input} (blank : Gap gap) (rest : Input) :
    colon (gap ++ ':' :: rest) = .ok rest := by
  simp [colon, blank.skip_cons (show isBlank ':' = false by decide)]

theorem closeObject_cons (rest : Input) : closeObject ('\x7d' :: rest) = ⟨none, rest⟩ := by
  simp [closeObject, skipBlanks_of_not_blank (show isBlank '\x7d' = false by decide)]

/-! ## Documents -/

theorem document_of_takes {read : Reader α} {text : Input} {a : α} (takes : Takes read text a)
    {gap : Input} (blank : Gap gap) {whole : String} (same : whole.toList = text ++ gap) :
    document read whole = .ok a := by
  have stop : skipBlanks gap = [] := List.dropWhile_eq_nil_iff.mpr blank
  rw [document, same, takes gap]
  simp [stop, bind, Except.bind, Except.mapError]

end HidRig.Json
