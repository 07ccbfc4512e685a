import Mathlib
import HidRig.Program.Document

/-! # What documents say

The programs that a document lists, told by the form of its value alone, and the changes of form
that do not show.

* `Json.Once`: a key that occurs once among the members of an object.
* `ProgramRecord.Written`, `Document.Lists`: the values of a record and of a list of programs.
* `Document.ofValue?_eq_some_iff`: these are what is read.
* `Document.ofWrapped?`, `Document.ofBare?`: the two forms of a document, each tried on its own.
* `Document.Restyled`: documents that differ in unknown keys, in the order of members, or in being
  wrapped.
* `Document.decoded`: what the text of a document is read as.
-/

namespace HidRig

open Json (Value membersAt)

/-! ## Members -/

/-- A key occurs once among some members, with a value. -/
def Json.Once (key : String) (members : List (String × Value)) (value : Value) : Prop :=
  ∃ pre post, members = pre ++ (key, value) :: post ∧ ∀ m ∈ pre ++ post, m.1 ≠ key

theorem Json.membersAt_cons (key : String) (m : String × Value) (members : List (String × Value)) :
    membersAt key (m :: members) =
      if m.1 = key then m.2 :: membersAt key members else membersAt key members := by
  by_cases same : m.1 = key <;> simp [membersAt, same]

theorem Json.membersAt_append (key : String) (xs ys : List (String × Value)) :
    membersAt key (xs ++ ys) = membersAt key xs ++ membersAt key ys := by
  simp [membersAt]

theorem Json.membersAt_eq_nil_iff (key : String) (members : List (String × Value)) :
    membersAt key members = [] ↔ ∀ m ∈ members, m.1 ≠ key := by
  simp [membersAt, List.filter_eq_nil_iff]

theorem Json.membersAt_eq_singleton_iff (key : String) (members : List (String × Value))
    (value : Value) : membersAt key members = [value] ↔ Json.Once key members value := by
  constructor
  · intro h
    induction members with
    | nil => cases h
    | cons m members ih =>
      rw [membersAt_cons] at h
      by_cases same : m.1 = key
      · rw [if_pos same] at h
        obtain ⟨rfl, rest⟩ := List.cons.inj h
        exact ⟨[], members, by rw [← same]; rfl, (membersAt_eq_nil_iff key members).mp rest⟩
      · rw [if_neg same] at h
        obtain ⟨pre, post, rfl, others⟩ := ih h
        refine ⟨m :: pre, post, rfl, ?_⟩
        intro other hother
        rcases List.mem_cons.mp hother with rfl | hother
        · exact same
        · exact others other hother
  · rintro ⟨pre, post, rfl, others⟩
    have before : membersAt key pre = [] :=
      (membersAt_eq_nil_iff key pre).mpr fun m hm => others m (List.mem_append_left _ hm)
    have after : membersAt key post = [] :=
      (membersAt_eq_nil_iff key post).mpr fun m hm => others m (List.mem_append_right _ hm)
    rw [membersAt_append, before, membersAt_cons, if_pos rfl, after]
    rfl

/-- Some members agree with others, in some order, but for keys that are not known. -/
def Json.SameKnown (known : List String) (xs ys : List (String × Value)) : Prop :=
  (xs.filter fun m => m.1 ∈ known).Perm (ys.filter fun m => m.1 ∈ known)

theorem Json.membersAt_filter {known : List String} {key : String} (mem : key ∈ known)
    (members : List (String × Value)) :
    membersAt key (members.filter fun m => m.1 ∈ known) = membersAt key members := by
  unfold membersAt
  rw [List.filter_filter]
  congr 1
  apply List.filter_congr
  intro m _
  by_cases same : m.1 = key <;> simp [same, mem]

theorem Json.SameKnown.once_iff {known : List String} {xs ys : List (String × Value)}
    (h : SameKnown known xs ys) (key : String) (mem : key ∈ known) (value : Value) :
    Json.Once key xs value ↔ Json.Once key ys value := by
  have perm : (membersAt key xs).Perm (membersAt key ys) := by
    rw [← membersAt_filter mem xs, ← membersAt_filter mem ys]
    exact (h.filter _).map _
  rw [← membersAt_eq_singleton_iff, ← membersAt_eq_singleton_iff]
  constructor
  · intro single
    rw [single] at perm
    exact (List.singleton_perm.mp perm).symm
  · intro single
    rw [single] at perm
    exact List.perm_singleton.mp perm

/-! ## Records -/

/-- The values that stand for a record. -/
inductive ProgramRecord.Written : Value → ProgramRecord → Prop
  | object {members : List (String × Value)} {tag name : String}
      (tags : Json.Once tagKey members (.text tag)) (names : Json.Once nameKey members (.text name)) :
      Written (.object members) ⟨tag, name⟩
  | pair (tag name : String) : Written (.array [.text tag, .text name]) ⟨tag, name⟩

theorem ProgramRecord.ofValue?_eq_some_iff (value : Value) (record : ProgramRecord) :
    ofValue? value = some record ↔ Written value record := by
  constructor
  · intro h
    unfold ofValue? at h
    split at h
    · rename_i members
      split at h
      · rename_i tag name tags names
        cases h
        exact .object ((Json.membersAt_eq_singleton_iff ..).mp tags)
          ((Json.membersAt_eq_singleton_iff ..).mp names)
      · cases h
    · cases h
      exact .pair _ _
    · cases h
  · rintro (⟨tags, names⟩ | ⟨tag, name⟩)
    · have first := (Json.membersAt_eq_singleton_iff ..).mpr tags
      have second := (Json.membersAt_eq_singleton_iff ..).mpr names
      simp only [ofValue?, first, second]
    · rfl

/-! ## Documents -/

namespace Document

/-- The values of a document that lists some programs. -/
inductive Lists : Value → List ProgramRecord → Prop
  | bare {items : List Value} {programs : List ProgramRecord}
      (records : List.Forall₂ ProgramRecord.Written items programs) :
      Lists (.array items) programs
  | wrapped {members : List (String × Value)} {items : List Value} {programs : List ProgramRecord}
      (once : Json.Once programsKey members (.array items))
      (records : List.Forall₂ ProgramRecord.Written items programs) :
      Lists (.object members) programs

theorem ofItems?_eq_some_iff (items : List Value) (programs : List ProgramRecord) :
    ofItems? items = some programs ↔ List.Forall₂ ProgramRecord.Written items programs := by
  unfold ofItems?
  induction items generalizing programs with
  | nil => cases programs <;> simp
  | cons item items ih =>
    rw [List.mapM_cons]
    constructor
    · intro h
      obtain ⟨record, first, h⟩ := Option.bind_eq_some_iff.mp h
      obtain ⟨rest, others, h⟩ := Option.bind_eq_some_iff.mp h
      cases h
      exact .cons ((ProgramRecord.ofValue?_eq_some_iff item record).mp first) ((ih rest).mp others)
    · rintro (_ | ⟨first, others⟩)
      have here := (ProgramRecord.ofValue?_eq_some_iff item _).mpr first
      have rest := (ih _).mpr others
      simp only [here, rest, Option.pure_def, Option.bind_eq_bind, Option.bind_some]

theorem ofValue?_eq_some_iff (value : Value) (programs : List ProgramRecord) :
    ofValue? value = some programs ↔ Lists value programs := by
  constructor
  · intro h
    unfold ofValue? at h
    split at h
    · exact .bare ((ofItems?_eq_some_iff ..).mp h)
    · split at h
      · rename_i once
        exact .wrapped ((Json.membersAt_eq_singleton_iff ..).mp once)
          ((ofItems?_eq_some_iff ..).mp h)
      · cases h
    · cases h
  · rintro (records | ⟨once, records⟩)
    · exact (ofItems?_eq_some_iff ..).mpr records
    · have single := (Json.membersAt_eq_singleton_iff ..).mpr once
      simp only [ofValue?, single]
      exact (ofItems?_eq_some_iff ..).mpr records

/-! ## The two forms -/

/-- The programs of a document that is an object. -/
def ofWrapped? : Value → Option (List ProgramRecord)
  | .object members =>
    match membersAt programsKey members with
    | [.array items] => ofItems? items
    | _ => none
  | _ => none

/-- The programs of a document that is an array. -/
def ofBare? : Value → Option (List ProgramRecord)
  | .array items => ofItems? items
  | _ => none

/-- No value has both forms, so that either may be tried first. -/
theorem ofValue?_eq_orElse (value : Value) :
    ofValue? value = (ofWrapped? value).or (ofBare? value) ∧
      ofValue? value = (ofBare? value).or (ofWrapped? value) := by
  cases value with
  | array items => exact ⟨rfl, (Option.or_none (o := ofItems? items)).symm⟩
  | object members => exact ⟨(Option.or_none (o := ofWrapped? (.object members))).symm, rfl⟩
  | _ => exact ⟨rfl, rfl⟩

end Document

/-! ## Changes of form -/

/-- Two values that are the same record, if they are records. -/
inductive ProgramRecord.Restyled : Value → Value → Prop
  | same (value : Value) : Restyled value value
  | members {xs ys : List (String × Value)} (known : Json.SameKnown [tagKey, nameKey] xs ys) :
      Restyled (.object xs) (.object ys)

theorem ProgramRecord.Restyled.ofValue? {v w : Value} (h : Restyled v w) :
    ProgramRecord.ofValue? v = ProgramRecord.ofValue? w := by
  cases h with
  | same => rfl
  | @members xs ys known =>
    have tags (value : Value) := known.once_iff tagKey (by simp) value
    have names (value : Value) := known.once_iff nameKey (by simp) value
    ext record
    rw [ofValue?_eq_some_iff, ofValue?_eq_some_iff]
    constructor
    · rintro ⟨tag, name⟩
      exact .object ((tags _).mp tag) ((names _).mp name)
    · rintro ⟨tag, name⟩
      exact .object ((tags _).mpr tag) ((names _).mpr name)

namespace Document

/-- Two documents that list the same programs, if they list any. -/
inductive Restyled : Value → Value → Prop
  | records {xs ys : List Value} (restyled : List.Forall₂ ProgramRecord.Restyled xs ys) :
      Restyled (.array xs) (.array ys)
  | inside (pre post : List (String × Value)) {xs ys : List Value}
      (restyled : List.Forall₂ ProgramRecord.Restyled xs ys) :
      Restyled (.object (pre ++ (programsKey, .array xs) :: post))
        (.object (pre ++ (programsKey, .array ys) :: post))
  | members {xs ys : List (String × Value)} (known : Json.SameKnown [programsKey] xs ys) :
      Restyled (.object xs) (.object ys)
  | wrap (items : List Value) : Restyled (.array items) (.object [(programsKey, .array items)])
  | symm {v w : Value} (h : Restyled v w) : Restyled w v
  | trans {u v w : Value} (h : Restyled u v) (k : Restyled v w) : Restyled u w

theorem ofItems?_of_restyled {xs ys : List Value}
    (h : List.Forall₂ ProgramRecord.Restyled xs ys) : ofItems? xs = ofItems? ys := by
  unfold ofItems?
  induction h with
  | nil => rfl
  | cons first _ ih => rw [List.mapM_cons, List.mapM_cons, first.ofValue?, ih]

theorem Restyled.ofValue? {v w : Value} (h : Restyled v w) :
    Document.ofValue? v = Document.ofValue? w := by
  induction h with
  | records restyled => exact ofItems?_of_restyled restyled
  | @inside pre post xs ys restyled =>
    have split (items : List Value) :
        membersAt programsKey (pre ++ (programsKey, .array items) :: post) =
          membersAt programsKey pre ++ .array items :: membersAt programsKey post := by
      rw [Json.membersAt_append, Json.membersAt_cons, if_pos rfl]
    simp only [Document.ofValue?, split]
    cases membersAt programsKey pre with
    | nil =>
      cases membersAt programsKey post with
      | nil => exact ofItems?_of_restyled restyled
      | cons value rest => rfl
    | cons value rest => cases value <;> cases rest <;> rfl
  | @members xs ys known =>
    have programs (value : Value) := known.once_iff programsKey (by simp) value
    ext listed
    rw [ofValue?_eq_some_iff, ofValue?_eq_some_iff]
    constructor
    · rintro (_ | ⟨once, records⟩)
      exact .wrapped ((programs _).mp once) records
    · rintro (_ | ⟨once, records⟩)
      exact .wrapped ((programs _).mpr once) records
  | wrap items => rfl
  | symm _ ih => exact ih.symm
  | trans _ _ ih ih' => exact ih.trans ih'

/-! ## Texts -/

theorem parse_of_value {text : String} {value : Value}
    (whole : Json.document Value.read text = .ok value) :
    (∀ programs, ofValue? value = some programs → parse text = .ok programs) ∧
      (ofValue? value = none → parse text = .error (.nowhere (.noForm "Document"))) := by
  unfold Json.document at whole
  cases buffered : Value.read text.toList with
  | error failure =>
    rw [buffered] at whole
    cases whole
  | ok pair =>
    obtain ⟨found, rest⟩ := pair
    rw [buffered] at whole
    dsimp only [bind, Except.bind] at whole
    split at whole
    · rename_i blank
      cases whole
      unfold parse Json.document read
      rw [buffered]
      dsimp only [bind, Except.bind]
      constructor
      · intro programs listed
        rw [listed]
        dsimp only
        rw [blank]
        rfl
      · intro refused
        rw [refused]
        rfl
    · cases whole

/-- A document is read as the programs that its value lists, in order, and refused as a whole with a
mismatch if it lists none. No change of unknown keys, of the order of members or of the wrapping
shows, and neither does it matter which of the two forms is tried first. -/
theorem decoded (text : String) (value : Value)
    (whole : Json.document Value.read text = .ok value) :
    (∀ programs, parse text = .ok programs ↔ Lists value programs) ∧
    ((∀ programs, ¬ Lists value programs) →
      ∃ fault, parse text = .error fault ∧ fault.cause.category = .mismatch) ∧
    (∀ other value', Restyled value value' → Json.document Value.read other = .ok value' →
      (parse other).mapError Json.Fault.cause = (parse text).mapError Json.Fault.cause) ∧
    (parse text).toOption = (ofWrapped? value).or (ofBare? value) ∧
    (parse text).toOption = (ofBare? value).or (ofWrapped? value) := by
  obtain ⟨accepts, refuses⟩ := parse_of_value whole
  have outcome : (parse text).toOption = ofValue? value := by
    cases listed : ofValue? value with
    | none => rw [refuses listed]; rfl
    | some programs => rw [accepts programs listed]; rfl
  refine ⟨fun programs => ?_, fun none => ?_, fun other value' restyled whole' => ?_, ?_, ?_⟩
  · rw [← ofValue?_eq_some_iff, ← outcome]
    cases parse text <;> simp [Except.toOption]
  · have refused : ofValue? value = .none := by
      rw [Option.eq_none_iff_forall_ne_some]
      intro programs listed
      exact none programs ((ofValue?_eq_some_iff value programs).mp listed)
    exact ⟨_, refuses refused, rfl⟩
  · obtain ⟨accepts', refuses'⟩ := parse_of_value whole'
    rw [← restyled.ofValue?] at accepts' refuses'
    cases listed : ofValue? value with
    | none => rw [refuses listed, refuses' listed]
    | some programs => rw [accepts programs listed, accepts' programs listed]
  · rw [outcome, ← (ofValue?_eq_orElse value).1]
  · rw [outcome, ← (ofValue?_eq_orElse value).2]

/-! ## One list in two forms -/

/-- A wrapped document with unknown keys, one of them twice. -/
def wrappedText : String :=
  "\x7b\"v\":1,\"programs\":[\x7b\"name\":\"f\",\"at\":null,\"section\":\"s/device_event\"\x7d,"
    ++ "[\"a\",\"b\"]],\"v\":2\x7d"

/-- The same records without wrapping and unknown keys. -/
def bareText : String :=
  "[\x7b\"section\":\"s/device_event\",\"name\":\"f\"\x7d,[\"a\",\"b\"]]"

theorem decoded_wrapped :
    let records (hook : List (String × Value)) : List Value :=
      [.object hook, .array [.text "a", .text "b"]]
    let long := records [("name", .text "f"), ("at", .null), ("section", .text "s/device_event")]
    let short := records [("section", .text "s/device_event"), ("name", .text "f")]
    let value : Value :=
      .object [("v", .number (.natural 1)), ("programs", .array long), ("v", .number (.natural 2))]
    (Json.document Value.read wrappedText = .ok value ∧
      Json.document Value.read bareText = .ok (.array short) ∧ Restyled value (.array short)) ∧
    parse wrappedText = .ok [⟨"s/device_event", "f"⟩, ⟨"a", "b"⟩] ∧
    (parse bareText).mapError Json.Fault.cause =
      (parse wrappedText).mapError Json.Fault.cause := by
  intro records long short value
  have whole : Json.document Value.read wrappedText = .ok value := by cbv
  have whole' : Json.document Value.read bareText = .ok (.array short) := by cbv
  have hook : ProgramRecord.Restyled (.object [("name", .text "f"), ("at", .null),
      ("section", .text "s/device_event")])
      (.object [("section", .text "s/device_event"), ("name", .text "f")]) :=
    .members (.swap _ _ _)
  have restyled : Restyled value (.array short) := by
    have known : Restyled value (.object [("programs", .array long)]) := .members (.refl _)
    have inner : Restyled (.array long) (.array short) :=
      .records (.cons hook (.cons (.same _) .nil))
    exact known.trans ((Restyled.wrap long).symm.trans inner)
  obtain ⟨accepts, -, alike, -⟩ := decoded wrappedText value whole
  refine ⟨⟨whole, whole', restyled⟩, (accepts _).mpr ?_, alike _ _ restyled whole'⟩
  have once : Json.Once programsKey [("v", .number (.natural 1)), ("programs", .array long),
      ("v", .number (.natural 2))] (.array long) := ⟨[_], [_], rfl, by decide⟩
  refine .wrapped once (.cons ?_ (.cons (.pair _ _) .nil))
  exact .object ⟨[_, _], [], rfl, by decide⟩ ⟨[], [_, _], rfl, by decide⟩

end Document

end HidRig
