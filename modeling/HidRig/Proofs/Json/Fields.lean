import HidRig.Json.Typed
import HidRig.Proofs.Json.Skipped

/-! # Records are read from every object that has their fields

The fields of a record may stand in any order and may be left out, and any other members may stand
around them.

* `Json.Pair.Object`: the objects that give each field at most once.
* `Json.takes_string`, `Json.takes_list`: texts, and arrays by what is known of their items.
* `Json.Pair.readMembers_tells`: what one member adds to the fields found so far.
* `Json.Pair.takes_object`: the record that an object stands for.
-/

namespace HidRig.Json

variable {α β γ : Type}

/-! ## Objects with two fields -/

/-- What a member of an object says of two fields. -/
inductive Said (α β : Type) where
  | first (a : α)
  | second (b : β)
  | other

def Said.first? : Said α β → Option α
  | first a => some a
  | second _ | other => none

def Said.second? : Said α β → Option β
  | second b => some b
  | first _ | other => none

/-- What stands before the value of a member: a key that stands for a name, and a colon. -/
inductive Named : Input → String → Prop
  | intro {before key after gap : Input} {name : String} (first : Gap before)
      (spelled : IsTextOf key name) (second : Gap after) (third : Gap gap) :
      Named (before ++ (key ++ (after ++ ':' :: gap))) name

namespace Pair

/-- What a member says, with the forms that the values of the fields have. The value of a member
with another name has any form. -/
inductive Tells (pair : Pair α β) (firstForm : Input → α → Prop) (secondForm : Input → β → Prop) :
    Item → Said α β → Prop
  | first {item : Item} {a : α} (named : Named item.start pair.first.name)
      (form : firstForm item.value a) (stop : Gap item.stop) : Tells pair _ _ item (.first a)
  | second {item : Item} {b : β} (named : Named item.start pair.second.name)
      (form : secondForm item.value b) (stop : Gap item.stop) : Tells pair _ _ item (.second b)
  | other {item : Item} {name : String} (named : Named item.start name)
      (unknown : name ≠ pair.first.name ∧ name ≠ pair.second.name) (value : IsValue item.value)
      (stop : Gap item.stop) : Tells pair _ _ item .other

/-- An object that gives each field at most once, in any order and among any other members. -/
def Object (pair : Pair α β) (firstForm : Input → α → Prop) (secondForm : Input → β → Prop)
    (text : Input) (a? : Option α) (b? : Option β) : Prop :=
  ∃ items saids inner, Listed (items.map Item.text) inner ∧
    List.Forall₂ (pair.Tells firstForm secondForm) items saids ∧
    saids.filterMap Said.first? = a?.toList ∧ saids.filterMap Said.second? = b?.toList ∧
    text = '\x7b' :: inner ++ ['\x7d']

end Pair

/-! ## Texts and arrays -/

theorem takes_string (expected : String) {gap text : Input} {s : String} (blank : Gap gap)
    (spelled : IsTextOf text s) : Takes (readString expected) (gap ++ text) s := by
  intro rest
  obtain ⟨inner, same, read⟩ := readText_spelled spelled rest
  rw [List.append_assoc, same, readString, blank.skip_cons (by decide)]
  exact read

theorem IsTextOf.begins {text : Input} {s : String} (spelled : IsTextOf text s) : Begins text := by
  obtain ⟨forms, -, rfl⟩ := spelled
  exact ⟨'"', _, rfl, by decide, by decide⟩

theorem takes_list {read : Reader α} {form : Input → α → Prop}
    (begins : ∀ ⦃text a⦄, form text a → Begins text)
    (takes : ∀ ⦃text a⦄, form text a → Takes read text a) {gap text : Input} {as : List α}
    (blank : Gap gap) (list : IsListOf form text as) : Takes (readList read) (gap ++ text) as := by
  obtain ⟨items, inner, listed, gaps, forms, rfl⟩ := list
  intro rest
  have known : List.Forall₂ (Item.Takes read) items as := by
    rw [List.forall₂_iff_get] at forms ⊢
    refine ⟨forms.1, fun i inside within => ?_⟩
    have form := forms.2 i inside within
    have gaps := gaps _ (List.get_mem _ ⟨i, inside⟩)
    exact ⟨gaps.1, begins form, takes form, gaps.2⟩
  have layout : gap ++ ('[' :: inner ++ [']']) ++ rest = gap ++ '[' :: (inner ++ ']' :: rest) := by
    simp
  rw [layout, readList, blank.skip_cons (by decide)]
  dsimp only
  rw [if_pos rfl, readItems_listed listed known (by rw [List.length_append]; omega), enclose,
    closeArray_cons]

/-! ## Members -/

theorem Named.nextKey_first {start : Input} {name : String} (h : Named start name) (rest : Input) :
    ∃ after gap, Gap gap ∧ nextKey true (start ++ rest) = .ok (some name, after) ∧
      colon after = .ok (gap ++ rest) := by
  cases h with
  | @intro before key after gap name first spelled second third =>
    refine ⟨after ++ ':' :: (gap ++ rest), gap, third, ?_, colon_append second _⟩
    simpa using Json.nextKey_first spelled first (after ++ ':' :: (gap ++ rest))

theorem Named.nextKey_other {start : Input} {name : String} (h : Named start name) {before : Input}
    (space : Gap before) (rest : Input) :
    ∃ after gap, Gap gap ∧
      nextKey false (before ++ ',' :: (start ++ rest)) = .ok (some name, after) ∧
      colon after = .ok (gap ++ rest) := by
  cases h with
  | @intro between key after gap name first spelled second third =>
    refine ⟨after ++ ':' :: (gap ++ rest), gap, third, ?_, colon_append second _⟩
    simpa using Json.nextKey_other spelled space first (after ++ ':' :: (gap ++ rest))

namespace Pair

/-- The readers of two fields read the given forms. -/
structure Reads (pair : Pair α β) (firstForm : Input → α → Prop) (secondForm : Input → β → Prop) :
    Prop where
  distinct : pair.second.name ≠ pair.first.name
  first : ∀ ⦃gap text a⦄, Gap gap → firstForm text a → Takes pair.first.read (gap ++ text) a
  second : ∀ ⦃gap text b⦄, Gap gap → secondForm text b → Takes pair.second.read (gap ++ text) b

variable {pair : Pair α β} {firstForm : Input → α → Prop} {secondForm : Input → β → Prop}

/-- One round of reading. A member adds what it says to the fields found so far. -/
theorem readMembers_tells (reads : pair.Reads firstForm secondForm) {item : Item} {said : Said α β}
    (tells : pair.Tells firstForm secondForm item said) {first : Bool} {text rest : Input}
    (key : ∀ name, Named item.start name → ∃ after gap, Gap gap ∧
      nextKey first text = .ok (some name, after) ∧ colon after = .ok (gap ++ (item.value ++ rest)))
    (ends : Ends rest) {a? : Option α} {b? : Option β} (newA : said.first?.isSome → a? = none)
    (newB : said.second?.isSome → b? = none) (fuel : Nat) :
    pair.readMembers (fuel + 1) first a? b? text =
      pair.readMembers fuel false (said.first?.or a?) (said.second?.or b?) rest := by
  cases tells with
  | @first a named form stop =>
    obtain ⟨after, gap, blank, next, mark⟩ := key _ named
    have value := reads.first blank form rest
    rw [List.append_assoc] at value
    obtain rfl := newA rfl
    rw [Pair.readMembers, next]
    simp [mark, value, bind, Except.bind, Said.first?, Said.second?]
  | @second b named form stop =>
    obtain ⟨after, gap, blank, next, mark⟩ := key _ named
    have value := reads.second blank form rest
    rw [List.append_assoc] at value
    obtain rfl := newB rfl
    rw [Pair.readMembers, next]
    simp [reads.distinct, mark, value, bind, Except.bind, Said.first?, Said.second?]
  | @other name named unknown value stop =>
    obtain ⟨after, gap, blank, next, mark⟩ := key _ named
    have skip := skipValue_append value blank ends
    rw [Pair.readMembers, next]
    simp [unknown, mark, skip, bind, Except.bind, Said.first?, Said.second?]

theorem Tells.stop {item : Item} {said : Said α β} (h : pair.Tells firstForm secondForm item said) :
    Gap item.stop := by
  cases h <;> assumption

theorem toList_injective : Function.Injective (@Option.toList α) := by
  intro a? b? same
  cases a? <;> cases b? <;> simp_all

/-- A field that is said once has not been found before, and is the one found after. -/
theorem or_toList {found said : Option α} {later : List α} {all : Option α}
    (once : found.toList ++ (said.toList ++ later) = all.toList) :
    (said.isSome → found = none) ∧ (said.or found).toList ++ later = all.toList := by
  cases found <;> cases said <;> cases all <;> simp_all

theorem filterMap_cons_toList (f : Said α β → Option γ) (said : Said α β)
    (saids : List (Said α β)) :
    (said :: saids).filterMap f = (f said).toList ++ saids.filterMap f := by
  cases h : f said <;> simp [h]

theorem readMembers_end {a? : Option α} {b? : Option β} {a : α} {b : β}
    (hasA : a?.or pair.first.absent? = some a) (hasB : b?.or pair.second.absent? = some b)
    (fuel : Nat) (first : Bool) {gap : Input} (blank : Gap gap) (rest : Input) :
    pair.readMembers (fuel + 1) first a? b? (gap ++ '\x7d' :: rest) =
      .ok ((a, b), '\x7d' :: rest) := by
  have given {γ : Type} {field : FieldForm γ} {c? : Option γ} {c : γ}
      (has : c?.or field.absent? = some c) : field.orAbsent c? ('\x7d' :: rest) = .ok c := by
    cases c? <;> simp_all [FieldForm.orAbsent]
  rw [Pair.readMembers, nextKey_end first blank rest]
  simp [given hasA, given hasB, bind, Except.bind]

/-- The members after the first, each behind a comma. -/
theorem readMembers_following (reads : pair.Reads firstForm secondForm) {items : List Item}
    {saids : List (Said α β)} (tells : List.Forall₂ (pair.Tells firstForm secondForm) items saids)
    {a? foundA : Option α} {b? foundB : Option β} {a : α} {b : β}
    (onceA : foundA.toList ++ saids.filterMap Said.first? = a?.toList)
    (onceB : foundB.toList ++ saids.filterMap Said.second? = b?.toList)
    (hasA : a?.or pair.first.absent? = some a) (hasB : b?.or pair.second.absent? = some b)
    {gap : Input} (blank : Gap gap) {fuel : Nat}
    (enough : (items.flatMap fun item => ',' :: item.text).length < fuel) (rest : Input) :
    pair.readMembers fuel false foundA foundB (gap ++ following .object items rest) =
      .ok ((a, b), '\x7d' :: rest) := by
  induction tells generalizing gap fuel foundA foundB with
  | nil =>
    obtain ⟨fuel, rfl⟩ := Nat.exists_eq_add_one.mpr enough
    rw [List.filterMap_nil, List.append_nil] at onceA onceB
    obtain rfl := toList_injective onceA
    obtain rfl := toList_injective onceB
    exact readMembers_end hasA hasB fuel false blank rest
  | @cons item said items saids tells others ih =>
    rw [filterMap_cons_toList] at onceA onceB
    obtain ⟨newA, onceA⟩ := or_toList onceA
    obtain ⟨newB, onceB⟩ := or_toList onceB
    rw [List.flatMap_cons, List.length_append, List.length_cons] at enough
    obtain ⟨fuel, rfl⟩ := Nat.exists_eq_add_one.mpr (Nat.zero_lt_of_lt enough)
    have ends := ends_of_gap tells.stop (ends_following .object items rest)
    rw [following_cons, readMembers_tells reads tells
      (fun name named => named.nextKey_other blank _) ends newA newB]
    exact ih onceA onceB tells.stop (by omega)

/-- A record is read from every object that gives its fields. -/
theorem takes_object (reads : pair.Reads firstForm secondForm) {gap text : Input} (blank : Gap gap)
    {a? : Option α} {b? : Option β} (object : pair.Object firstForm secondForm text a? b?)
    {a : α} {b : β} (hasA : a?.or pair.first.absent? = some a)
    (hasB : b?.or pair.second.absent? = some b) : Takes (readPair pair) (gap ++ text) (a, b) := by
  obtain ⟨items, saids, inner, listed, tells, onceA, onceB, rfl⟩ := object
  intro rest
  have members : pair.readMembers ((inner ++ '\x7d' :: rest).length + 1) true none none
      (inner ++ '\x7d' :: rest) = .ok ((a, b), '\x7d' :: rest) := by
    cases tells with
    | nil =>
      cases listed with
      | none space =>
        obtain rfl : none = a? := toList_injective onceA
        obtain rfl : none = b? := toList_injective onceB
        exact readMembers_end hasA hasB _ true space rest
    | @cons item said items saids tells others =>
      cases listed
      rw [filterMap_cons_toList] at onceA onceB
      have layout : _ ++ '\x7d' :: rest = _ := text_append_following .object item items rest
      have ends := ends_of_gap tells.stop (ends_following .object items rest)
      rw [layout, readMembers_tells reads tells (fun name named => named.nextKey_first _) ends
        (fun _ => rfl) (fun _ => rfl)]
      refine readMembers_following reads others (by simpa using onceA) (by simpa using onceB)
        hasA hasB tells.stop ?_ rest
      simp [following]
      omega
  have layout : gap ++ ('\x7b' :: inner ++ ['\x7d']) ++ rest =
      gap ++ '\x7b' :: (inner ++ '\x7d' :: rest) := by
    simp
  rw [layout, readPair, blank.skip_cons (by decide)]
  dsimp only
  rw [if_neg (by decide), if_pos rfl, members, enclose, closeObject_cons]

end Pair

end HidRig.Json
