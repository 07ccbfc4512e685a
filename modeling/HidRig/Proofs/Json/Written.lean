import HidRig.Json.Printer
import HidRig.Json.Value
import HidRig.Proofs.Json.Spelled

/-! # Reading what was written

Texts in quotes, arrays and objects are read back as what they were written from, whatever comes
after them.

* `Json.writeChar_spells`, `Json.isTextOf_quoted`: what is written stands for the character and for
  the text.
* `Json.Reads`: a reader takes a text off the front of any other, to a value.
* `Json.readItems_arrayOf`, `Json.readMembers_objectOf`: the loops over items and members, by what
  is known of each item and of each value.
* `Json.Value.reads_quoted`, `Json.Value.reads_arrayOf`, `Json.Value.reads_objectOf`: the same for
  values as trees.
-/

namespace HidRig.Json

/-! ## Texts in quotes -/

theorem hexDigit_mem {n : Nat} (h : n < 16) : (Bytes.hexDigit n, n) ∈ hexDigits := by
  revert n
  decide

/-- What is written for a character stands for it. -/
theorem writeChar_spells (c : Char) : Spells (writeChar c) c := by
  unfold writeChar
  -- seven characters have a letter, other control characters a number, all others stand as they are
  split_ifs with quote slash backspace feed line back tab control
  · subst quote; exact .letter (by decide)
  · subst slash; exact .letter (by decide)
  · subst backspace; exact .letter (by decide)
  · subst feed; exact .letter (by decide)
  · subst line; exact .letter (by decide)
  · subst back; exact .letter (by decide)
  · subst tab; exact .letter (by decide)
  · have zero : ('0', 0) ∈ hexDigits := by decide
    have number := HexNumber.digits zero zero
      (hexDigit_mem (show c.toNat / 16 < 16 by omega)) (hexDigit_mem (show c.toNat % 16 < 16 by omega))
    rw [show ((0 * 16 + 0) * 16 + c.toNat / 16) * 16 + c.toNat % 16 = c.toNat by omega] at number
    exact .number number
  · exact .plain ⟨quote, slash, Nat.not_lt.mp control⟩

theorem isTextOf_quoted (text : String) : IsTextOf (quoted text).toList text := by
  refine ⟨text.toList.map writeChar, ?_, ?_⟩
  · rw [List.forall₂_map_left_iff]
    exact List.forall₂_same.mpr fun c _ => writeChar_spells c
  · rw [quoted, String.toList_ofList, List.flatMap_def]

theorem readText_quoted (text : String) (rest : Input) :
    ∃ inner, (quoted text).toList ++ rest = '"' :: inner ∧ readText inner = .ok (text, rest) :=
  readText_spelled (isTextOf_quoted text) rest

/-! ## Items and members -/

/-- A reader takes a text off the front of any other, to a value. -/
def Reads {α : Type} (read : Reader α) (text : String) (a : α) : Prop :=
  ∀ rest, read (text.toList ++ rest) = .ok (a, rest)

/-- A text starts with a character that is no blank and closes no array. -/
def Opens (text : String) : Prop :=
  ∃ c cs, text.toList = c :: cs ∧ isBlank c = false ∧ c ≠ ']'

variable {α : Type}

theorem toList_intercalate_cons (text : String) (texts : List String) :
    (",".intercalate (text :: texts)).toList =
      text.toList ++ texts.flatMap fun t => ',' :: t.toList := by
  induction texts generalizing text with
  | nil => simp
  | cons next texts ih => simp [String.intercalate_cons_cons, ih]

/-- How each item of an array is written. -/
abbrev Items (item : Reader α) : List String → List α → Prop :=
  List.Forall₂ fun text a => Opens text ∧ Reads item text a

theorem listed_intercalate (texts : List String) :
    Listed (texts.map String.toList) (",".intercalate texts).toList := by
  cases texts with
  | nil => exact .none Gap.nil
  | cons text texts =>
    rw [toList_intercalate_cons]
    simpa [List.flatMap_map] using Listed.some text.toList (texts.map String.toList)

/-- An item without blanks. -/
def bareItem (text : String) : Item :=
  ⟨[], text.toList, []⟩

theorem listed_bareItem (texts : List String) :
    Listed ((texts.map bareItem).map Item.text) (",".intercalate texts).toList := by
  have same : Item.text ∘ bareItem = String.toList := by
    funext text
    simp [bareItem, Item.text]
  rw [List.map_map, same]
  exact listed_intercalate texts

theorem isListOf_arrayOf {form : Input → α → Prop} {texts : List String} {as : List α}
    (forms : List.Forall₂ (fun text a => form text.toList a) texts as) :
    IsListOf form (arrayOf texts).toList as := by
  refine ⟨texts.map bareItem, _, listed_bareItem texts, ?_, ?_, by simp [arrayOf]⟩
  · simp [bareItem, Gap.nil]
  · rw [List.forall₂_map_left_iff]
    exact forms

theorem readItems_arrayOf {item : Reader α} {texts : List String} {as : List α}
    (items : Items item texts as) (rest : Input) :
    ∃ inner, (arrayOf texts).toList ++ rest = '[' :: inner ∧
      enclose closeArray (readItems item (inner.length + 1) true inner) = .ok (as, rest) := by
  have known : List.Forall₂ (Item.Takes item) (texts.map bareItem) as := by
    rw [List.forall₂_map_left_iff]
    exact items.imp fun text a reads => ⟨nofun, reads.1, reads.2, nofun⟩
  refine ⟨(",".intercalate texts).toList ++ ']' :: rest, by simp [arrayOf], ?_⟩
  rw [readItems_listed (listed_bareItem texts) known (by rw [List.length_append]; omega), enclose,
    closeArray_cons]

/-! ## Members -/

def memberText (m : String × String) : String := quoted m.1 ++ ":" ++ m.2

theorem toList_memberText (m : String × String) (rest : Input) :
    (memberText m).toList ++ rest = (quoted m.1).toList ++ ':' :: (m.2.toList ++ rest) := by
  simp [memberText]

/-- A member without blanks. -/
def bareMember (m : String × String) : Item :=
  ⟨(quoted m.1).toList ++ [':'], m.2.toList, []⟩

theorem listed_bareMember (ms : List (String × String)) :
    Listed ((ms.map bareMember).map Item.text) (",".intercalate (ms.map memberText)).toList := by
  have same : Item.text ∘ bareMember = String.toList ∘ memberText := by
    funext m
    simp [bareMember, memberText, Item.text]
  rw [List.map_map, same, ← List.map_map]
  exact listed_intercalate _

/-- The key of the first member, and of another after its comma. -/
theorem nextKey_quoted (key : String) (rest : Input) :
    nextKey true ((quoted key).toList ++ rest) = .ok (some key, rest) ∧
      nextKey false (',' :: ((quoted key).toList ++ rest)) = .ok (some key, rest) :=
  ⟨nextKey_first (isTextOf_quoted key) Gap.nil rest,
    nextKey_other (isTextOf_quoted key) Gap.nil Gap.nil rest⟩

theorem readMembers_end (value : Reader α) (fuel : Nat) (first : Bool) (rest : Input) :
    readMembers value (fuel + 1) first ('\x7d' :: rest) = .ok ([], '\x7d' :: rest) := by
  have stop : nextKey first ('\x7d' :: rest) = .ok (none, _) := nextKey_end first Gap.nil rest
  simp [readMembers, stop, bind, Except.bind]

theorem readMembers_cons {value : Reader α} {m : String × String} {a : α}
    (reads : Reads value m.2 a) {first : Bool} {before rest : Input}
    (key : nextKey first before = .ok (some m.1, ':' :: (m.2.toList ++ rest))) (fuel : Nat) :
    readMembers value (fuel + 1) first before =
      (readMembers value fuel false rest).map fun p => ((m.1, a) :: p.1, p.2) := by
  have mark : colon (':' :: (m.2.toList ++ rest)) = .ok _ := colon_append Gap.nil _
  rw [readMembers, key]
  dsimp only [bind, Except.bind]
  rw [mark]
  dsimp only
  rw [reads rest]
  dsimp only
  cases readMembers value fuel false rest <;> rfl

/-- The keys of the members of an object, and how each value is written. -/
abbrev Members (value : Reader α) : List (String × String) → List (String × α) → Prop :=
  List.Forall₂ fun m b => b.1 = m.1 ∧ Reads value m.2 b.2

theorem readMembers_following {value : Reader α} {ms : List (String × String)}
    {bs : List (String × α)} (members : Members value ms bs) {fuel : Nat}
    (enough : (ms.flatMap fun m => ',' :: (memberText m).toList).length < fuel) (rest : Input) :
    readMembers value fuel false
        ((ms.flatMap fun m => ',' :: (memberText m).toList) ++ '\x7d' :: rest) =
      .ok (bs, '\x7d' :: rest) := by
  induction members generalizing fuel with
  | nil =>
    obtain ⟨fuel, rfl⟩ := Nat.exists_eq_add_one.mpr enough
    exact readMembers_end value fuel false rest
  | @cons m b ms bs known others ih =>
    obtain ⟨key, a⟩ := b
    obtain ⟨rfl, reads⟩ := known
    rw [List.flatMap_cons, List.length_append, List.length_cons] at enough
    obtain ⟨fuel, rfl⟩ := Nat.exists_eq_add_one.mpr (Nat.zero_lt_of_lt enough)
    rw [List.flatMap_cons, List.append_assoc, List.cons_append, toList_memberText,
      readMembers_cons reads (nextKey_quoted m.1 _).2, ih (by omega)]
    rfl

theorem readMembers_objectOf {value : Reader α} {ms : List (String × String)}
    {bs : List (String × α)} (members : Members value ms bs) (rest : Input) :
    ∃ inner, (objectOf ms).toList ++ rest = '\x7b' :: inner ∧
      enclose closeObject (readMembers value (inner.length + 1) true inner) = .ok (bs, rest) := by
  have close := closeObject_cons rest
  cases members with
  | nil =>
    refine ⟨'\x7d' :: rest, by simp [objectOf], ?_⟩
    rw [readMembers_end, enclose, close]
  | @cons m b ms bs known others =>
    obtain ⟨key, a⟩ := b
    obtain ⟨rfl, reads⟩ := known
    refine ⟨(memberText m).toList ++
      ((ms.flatMap fun m => ',' :: (memberText m).toList) ++ '\x7d' :: rest), ?_, ?_⟩
    · rw [objectOf, String.toList_append, String.toList_append, List.map_cons,
        toList_intercalate_cons, List.flatMap_map]
      simp [memberText]
    rw [toList_memberText, readMembers_cons reads (nextKey_quoted m.1 _).1,
      readMembers_following others ?_ rest]
    · simp [Except.map, enclose, close]
    · simp only [List.length_append, List.length_cons]
      omega

/-! ## Values -/

namespace Value

theorem readNested_append {gap : Input} (blank : ∀ c ∈ gap, isBlank c) (depth : Nat)
    (text : Input) : readNested depth (gap ++ text) = readNested depth text := by
  unfold readNested
  rw [Gap.skip blank]

theorem reads_append {gap text : String} {value : Value} {depth : Nat}
    (blank : ∀ c ∈ gap.toList, isBlank c) (reads : Reads (readNested depth) text value) :
    Reads (readNested depth) (gap ++ text) value := by
  intro rest
  rw [String.toList_append, List.append_assoc, readNested_append blank, reads rest]

theorem reads_quoted (depth : Nat) (text : String) :
    Reads (readNested depth) (quoted text) (.text text) := by
  intro rest
  obtain ⟨inner, same, read⟩ := readText_quoted text rest
  have start := skipBlanks_of_not_blank (show isBlank '"' = false by decide)
  rw [same, readNested, start]
  simp [read, Except.map]

theorem reads_arrayOf {depth : Nat} {texts : List String} {items : List Value}
    (known : Items (readNested depth) texts items) :
    Reads (readNested (depth + 1)) (arrayOf texts) (.array items) := by
  intro rest
  obtain ⟨inner, same, read⟩ := readItems_arrayOf known rest
  have start := skipBlanks_of_not_blank (show isBlank '[' = false by decide)
  rw [same, readNested, start]
  simp [read, Except.map]

theorem reads_objectOf {depth : Nat} {ms : List (String × String)}
    {members : List (String × Value)} (known : Members (readNested depth) ms members) :
    Reads (readNested (depth + 1)) (objectOf ms) (.object members) := by
  intro rest
  obtain ⟨inner, same, read⟩ := readMembers_objectOf known rest
  have start := skipBlanks_of_not_blank (show isBlank '\x7b' = false by decide)
  rw [same, readNested, start]
  simp [read, Except.map]

end Value

theorem opens_objectOf (ms : List (String × String)) : Opens (objectOf ms) :=
  ⟨'\x7b', _, by simp [objectOf]; rfl, by decide, by decide⟩

theorem document_of_reads {read : Reader α} {text : String} {a : α} (reads : Reads read text a) :
    document read text = .ok a :=
  document_of_takes reads Gap.nil (List.append_nil _).symm

end HidRig.Json
