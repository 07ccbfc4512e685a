import HidRig.Proofs.Roles.Resolution
import Mathlib.Data.List.Induction

/-! # Programs of one role

The first record of a role is bound to it, and each later one is reported. The bindings and the
reports are those of one pass over the records with a table of what is bound so far.

* `Binding.Late`: the record at a place of a list comes too late for its role.
* `Binding.Ledger`: the table and the reports of the pass. `Binding.Ledger.Tells` says what they are
  after some records: `Binding.Ledger.Tells.take` for one more, `Binding.tells_ledger` for all.
* `Binding.first_bound`: what is bound and what is reported, how it grows with the list, and that
  records without a role do not count.
-/

namespace HidRig

def ProgramRecord.isHook (program : ProgramRecord) : Bool :=
  program.role?.isSome

theorem ProgramRecord.role?_eq_some_iff (program : ProgramRecord) (role : Role) :
    program.role? = some role ↔ program.Carries role :=
  Role.ofSection?_eq_some_iff program.tag role

theorem ProgramRecord.isHook_iff (program : ProgramRecord) :
    program.isHook = true ↔ ∃ role, program.Carries role := by
  simp only [isHook, Option.isSome_iff_exists, role?_eq_some_iff]

/-- The role of a section is found in whatever order the roles are tried. -/
theorem Role.find?_matchesSection {roles : List Role} (all : ∀ role, role ∈ roles) (tag : String) :
    (roles.find? fun role => role.matchesSection tag) = ofSection? tag := by
  cases found : roles.find? fun role => role.matchesSection tag with
  | none =>
    have unmatched := List.find?_eq_none.mp found
    exact (List.find?_eq_none.mpr fun role _ => unmatched role (all role)).symm
  | some role =>
    have matched : role.matchesSection tag = true :=
      List.find?_some (p := fun other : Role => other.matchesSection tag) found
    exact ((ofSection?_eq_some_iff tag role).mpr ((role.matchesSection_iff tag).mp matched)).symm

namespace Binding
variable (programs others : List ProgramRecord)

theorem symbol?_append (role : Role) :
    symbol? (programs ++ others) role = (symbol? programs role).or (symbol? others role) := by
  simp [symbol?, List.find?_append, Option.map_or]

theorem symbol?_concat (program : ProgramRecord) (role : Role) :
    symbol? (programs ++ [program]) role =
      (symbol? programs role).or
        (if program.role? = some role then some program.name else none) := by
  rw [symbol?_append]
  by_cases its : program.role? = some role <;> simp [symbol?, its]

theorem symbol?_eq_none_iff (role : Role) :
    symbol? programs role = none ↔ ∀ program ∈ programs, ¬ program.Carries role := by
  simp [symbol?, ProgramRecord.role?_eq_some_iff]

/-! ## Records that come too late -/

/-- The record at a place of a list comes too late: its role is bound to the first record that
carries it, and that one stands before the place. -/
structure Late (programs : List ProgramRecord) (place : Nat) (duplicate : Duplicate) : Prop where
  ignored : ∃ program, programs[place]? = some program ∧ program.Carries duplicate.role ∧
    program.name = duplicate.ignored
  bound : ∃ earlier first later, programs.take place = earlier ++ first :: later ∧
    (∀ other ∈ earlier, ¬ other.Carries duplicate.role) ∧ first.Carries duplicate.role ∧
    first.name = duplicate.bound

/-- The duplicate that a record is after some others. -/
def after? (earlier : List ProgramRecord) (program : ProgramRecord) : Option Duplicate :=
  program.role?.bind fun role =>
    (symbol? earlier role).map fun bound => ⟨role, bound, program.name⟩

/-- The duplicate that the record at a place of a list is. -/
def lateAt? (programs : List ProgramRecord) (place : Nat) : Option Duplicate :=
  programs[place]?.bind (after? (programs.take place))

theorem after?_eq_some_iff (earlier : List ProgramRecord) (program : ProgramRecord)
    (duplicate : Duplicate) :
    after? earlier program = some duplicate ↔
      program.Carries duplicate.role ∧ program.name = duplicate.ignored ∧
        symbol? earlier duplicate.role = some duplicate.bound := by
  simp only [after?, Option.bind_eq_some_iff, ProgramRecord.role?_eq_some_iff,
    Option.map_eq_some_iff]
  constructor
  · rintro ⟨role, carried, bound, first, rfl⟩
    exact ⟨carried, rfl, first⟩
  · rintro ⟨carried, named, first⟩
    refine ⟨duplicate.role, carried, duplicate.bound, first, ?_⟩
    rw [named]

theorem lateAt?_eq_some_iff (place : Nat) (duplicate : Duplicate) :
    lateAt? programs place = some duplicate ↔ Late programs place duplicate := by
  simp only [lateAt?, Option.bind_eq_some_iff, after?_eq_some_iff, symbol?_eq_some_iff]
  constructor
  · rintro ⟨program, there, carried, named, first⟩
    exact ⟨⟨program, there, carried, named⟩, first⟩
  · rintro ⟨⟨program, there, carried, named⟩, first⟩
    exact ⟨program, there, carried, named, first⟩

theorem duplicatesAfter_cons (earlier : List ProgramRecord) (program : ProgramRecord) :
    duplicatesAfter earlier (program :: programs) =
      (after? earlier program).toList ++ duplicatesAfter (earlier ++ [program]) programs := by
  rw [duplicatesAfter, after?]
  cases program.role? with
  | none => rfl
  | some role => cases bound : symbol? earlier role <;> simp [bound]

theorem duplicatesAfter_append (earlier : List ProgramRecord) :
    duplicatesAfter earlier (programs ++ others) =
      duplicatesAfter earlier programs ++ duplicatesAfter (earlier ++ programs) others := by
  induction programs generalizing earlier with
  | nil => simp [duplicatesAfter]
  | cons program programs ih =>
    rw [List.cons_append, duplicatesAfter_cons, duplicatesAfter_cons, ih]
    simp

theorem duplicates_concat (program : ProgramRecord) :
    duplicates (programs ++ [program]) = duplicates programs ++ (after? programs program).toList := by
  rw [duplicates, duplicatesAfter_append, duplicatesAfter_cons]
  simp [duplicates, duplicatesAfter]

theorem duplicates_eq_filterMap :
    duplicates programs = (List.range programs.length).filterMap (lateAt? programs) := by
  induction programs using List.reverseRecOn with
  | nil => rfl
  | append_singleton programs program ih =>
    have before : ∀ place ∈ List.range programs.length,
        lateAt? programs place = lateAt? (programs ++ [program]) place := by
      intro place member
      have inside := List.mem_range.mp member
      rw [lateAt?, lateAt?, List.getElem?_append_left inside,
        List.take_append_of_le_length (Nat.le_of_lt inside)]
    have last : lateAt? (programs ++ [program]) programs.length = after? programs program := by
      simp [lateAt?]
    rw [duplicates_concat, ih, List.filterMap_congr before, List.length_append,
      List.length_singleton, List.range_succ, List.filterMap_append]
    congr 1
    cases late : after? programs program <;> simp [last, late]

/-! ## One pass over the records -/

/-- A table of the symbols bound so far, and the duplicates met so far. -/
structure Ledger where
  bound : List (Role × String)
  late : List Duplicate

namespace Ledger

def empty : Ledger := ⟨[], []⟩

/-- Binds a record to its role, or notes that it comes too late. -/
def take (ledger : Ledger) (program : ProgramRecord) : Ledger :=
  match program.role? with
  | none => ledger
  | some role =>
    match ledger.bound.lookup role with
    | some bound => { ledger with late := ledger.late ++ [⟨role, bound, program.name⟩] }
    | none => { ledger with bound := ledger.bound ++ [(role, program.name)] }

/-- The table and the duplicates are those of some records, each of which with a role is in one of
the two. -/
structure Tells (ledger : Ledger) (programs : List ProgramRecord) : Prop where
  bound : ∀ role, ledger.bound.lookup role = symbol? programs role
  roles : (ledger.bound.map Prod.fst).Nodup
  late : ledger.late = duplicates programs
  hooks : ledger.late.length + ledger.bound.length = programs.countP ProgramRecord.isHook

theorem tells_empty : empty.Tells [] where
  bound _ := rfl
  roles := List.nodup_nil
  late := rfl
  hooks := rfl

variable {ledger : Ledger} {programs : List ProgramRecord} {program : ProgramRecord}

theorem take_of_none (none : program.role? = none) : ledger.take program = ledger := by
  rw [take, none]

theorem take_of_bound {role : Role} {symbol : String} (its : program.role? = some role)
    (bound : ledger.bound.lookup role = some symbol) :
    ledger.take program =
      { ledger with late := ledger.late ++ [⟨role, symbol, program.name⟩] } := by
  simp [take, its, bound]

theorem take_of_unbound {role : Role} (its : program.role? = some role)
    (unbound : ledger.bound.lookup role = none) :
    ledger.take program = { ledger with bound := ledger.bound ++ [(role, program.name)] } := by
  simp [take, its, unbound]

theorem Tells.pass (h : ledger.Tells programs) (none : program.role? = none) :
    ledger.Tells (programs ++ [program]) := by
  refine ⟨fun role => ?_, h.roles, ?_, ?_⟩
  · rw [h.bound, symbol?_concat, none]
    simp
  · rw [h.late, duplicates_concat, after?, none]
    simp
  · rw [h.hooks, List.countP_append]
    simp [ProgramRecord.isHook, none]

section
variable (h : ledger.Tells programs) {role : Role} (its : program.role? = some role)
include h its

theorem Tells.note {symbol : String} (bound : symbol? programs role = some symbol) :
    Tells { ledger with late := ledger.late ++ [⟨role, symbol, program.name⟩] }
      (programs ++ [program]) := by
  refine ⟨fun other => ?_, h.roles, ?_, ?_⟩
  · show ledger.bound.lookup other = _
    rw [h.bound, symbol?_concat, its]
    by_cases same : role = other
    · rw [← same, bound]
      rfl
    · simp [same]
  · rw [duplicates_concat, h.late, after?, its, Option.bind_some, bound]
    rfl
  · have counted := h.hooks
    rw [List.length_append, List.countP_append, ← counted]
    simp [ProgramRecord.isHook, its]
    omega

theorem Tells.bind (unbound : symbol? programs role = none) :
    Tells { ledger with bound := ledger.bound ++ [(role, program.name)] }
      (programs ++ [program]) := by
  refine ⟨fun other => ?_, ?_, ?_, ?_⟩
  · rw [List.lookup_append, h.bound, symbol?_concat, its]
    by_cases same : role = other
    · simp [same]
    · have absent : [(role, program.name)].lookup other = none :=
        List.lookup_eq_none_iff.mpr (by simpa using Ne.symm same)
      simp [same, absent]
  · have new : role ∉ ledger.bound.map Prod.fst := by
      intro member
      obtain ⟨entry, inside, rfl⟩ := List.mem_map.mp member
      rw [← h.bound, List.lookup_eq_none_iff] at unbound
      exact absurd (unbound entry inside) (by simp)
    rw [List.map_append, List.nodup_append]
    refine ⟨h.roles, by simp, ?_⟩
    rintro other member last here rfl
    obtain rfl : other = role := by simpa using here
    exact new member
  · rw [duplicates_concat, h.late, after?, its, Option.bind_some, unbound]
    simp
  · have counted := h.hooks
    rw [List.length_append, List.countP_append, ← counted]
    simp [ProgramRecord.isHook, its]
    omega

end

theorem Tells.take (h : ledger.Tells programs) (program : ProgramRecord) :
    (ledger.take program).Tells (programs ++ [program]) := by
  -- the table tells what is bound, so that its entry decides as the records before do
  cases its : program.role? with
  | none =>
    rw [take_of_none its]
    exact h.pass its
  | some role =>
    cases there : ledger.bound.lookup role with
    | some symbol =>
      rw [take_of_bound its there]
      exact h.note its ((h.bound role).symm.trans there)
    | none =>
      rw [take_of_unbound its there]
      exact h.bind its ((h.bound role).symm.trans there)

theorem Tells.mem_roles (h : ledger.Tells programs) (role : Role) :
    role ∈ ledger.bound.map Prod.fst ↔ (symbol? programs role).isSome = true := by
  rw [← h.bound, List.lookup_isSome_iff, List.mem_map]
  constructor
  · rintro ⟨entry, inside, rfl⟩
    exact ⟨entry, inside, BEq.rfl⟩
  · rintro ⟨entry, inside, same⟩
    exact ⟨entry, inside, (eq_of_beq same).symm⟩

theorem Tells.count (h : ledger.Tells programs) :
    (Role.all.countP fun role => (symbol? programs role).isSome) = ledger.bound.length := by
  have distinct : (Role.all.filter fun role => (symbol? programs role).isSome).Nodup :=
    (by decide : Role.all.Nodup).filter _
  have same := (List.perm_ext_iff_of_nodup distinct h.roles).mpr fun role => by
    rw [List.mem_filter, h.mem_roles, and_iff_right role.mem_all]
  rw [List.countP_eq_length_filter, same.length_eq, List.length_map]

end Ledger

def ledger (programs : List ProgramRecord) : Ledger :=
  programs.foldl Ledger.take .empty

theorem tells_ledger (programs : List ProgramRecord) : (ledger programs).Tells programs := by
  induction programs using List.reverseRecOn with
  | nil => exact Ledger.tells_empty
  | append_singleton programs program ih =>
    rw [ledger, List.foldl_concat]
    exact ih.take program

theorem ledger_filter (programs : List ProgramRecord) :
    ledger (programs.filter ProgramRecord.isHook) = ledger programs := by
  unfold ledger
  -- the records that are kept change the table, so the induction is from any start
  generalize Ledger.empty = start
  induction programs generalizing start with
  | nil => rfl
  | cons program programs ih =>
    cases hook : program.isHook with
    | true => simp [hook, ih]
    | false =>
      have none : program.role? = none := by simpa [ProgramRecord.isHook] using hook
      simp [hook, ih, Ledger.take_of_none none]

theorem same_of_filter {programs others : List ProgramRecord}
    (same : programs.filter ProgramRecord.isHook = others.filter ProgramRecord.isHook) :
    symbol? programs = symbol? others ∧ duplicates programs = duplicates others := by
  have passes : ledger programs = ledger others := by
    rw [← ledger_filter programs, same, ledger_filter others]
  have mine := tells_ledger programs
  have its := tells_ledger others
  rw [← passes] at its
  exact ⟨funext fun role => (mine.bound role).symm.trans (its.bound role),
    mine.late.symm.trans its.late⟩

theorem length_duplicates (programs : List ProgramRecord) :
    (duplicates programs).length +
        (Role.all.countP fun role => (symbol? programs role).isSome) =
      programs.countP ProgramRecord.isHook := by
  have tells := tells_ledger programs
  rw [tells.count, ← tells.late, tells.hooks]

/-! ## The first record wins -/

/-- The first record of each role is bound to it, and all others with a role are duplicates. -/
structure FirstWins (programs : List ProgramRecord) : Prop where
  bound : ∀ role symbol, symbol? programs role = some symbol ↔
    ∃ earlier program later, programs = earlier ++ program :: later ∧
      (∀ other ∈ earlier, ¬ other.Carries role) ∧ program.Carries role ∧ program.name = symbol
  unbound : ∀ role, symbol? programs role = none ↔ ∀ program ∈ programs, ¬ program.Carries role
  late : ∀ place duplicate, lateAt? programs place = some duplicate ↔ Late programs place duplicate
  inOrder : duplicates programs = (List.range programs.length).filterMap (lateAt? programs)
  count : (duplicates programs).length +
      (Role.all.countP fun role => (symbol? programs role).isSome) =
    programs.countP ProgramRecord.isHook
  /-- One pass over the records comes to the same. -/
  pass : (∀ role, (ledger programs).bound.lookup role = symbol? programs role) ∧
    (ledger programs).late = duplicates programs

theorem firstWins (programs : List ProgramRecord) : FirstWins programs where
  bound := symbol?_eq_some_iff programs
  unbound := symbol?_eq_none_iff programs
  late := lateAt?_eq_some_iff programs
  inOrder := duplicates_eq_filterMap programs
  count := length_duplicates programs
  pass := ⟨(tells_ledger programs).bound, (tells_ledger programs).late⟩

/-- The first record of a role is bound to it, and a warning is reported for each later one. No
section names two roles. More records at the end bind only what is not bound yet, and records whose
section names no role change nothing, wherever they stand. -/
theorem first_bound (programs others : List ProgramRecord) :
    FirstWins programs ∧
    (∀ tag : String,
      (∀ role other : Role, role.suffix.toList <:+ tag.toList →
        other.suffix.toList <:+ tag.toList → role = other) ∧
      ∀ roles : List Role, roles.Perm Role.all →
        (roles.find? fun role => role.matchesSection tag) = Role.ofSection? tag) ∧
    (∀ role, symbol? (programs ++ others) role =
      (symbol? programs role).or (symbol? others role)) ∧
    ((∀ program : ProgramRecord, program.isHook = true ↔ ∃ role, program.Carries role) ∧
      (programs.filter ProgramRecord.isHook = others.filter ProgramRecord.isHook →
        symbol? programs = symbol? others ∧ duplicates programs = duplicates others)) ∧
    ∀ (disk : Disk Image) (image : Image) (metadata : Path),
      Document.load disk metadata = .ok programs →
        (Hook.resolve disk image metadata).2 = (duplicates programs).map .duplicateProgram := by
  refine ⟨firstWins programs, fun tag => ⟨fun _ _ => Role.eq_of_suffix, fun roles order => ?_⟩,
    symbol?_append programs others, ⟨ProgramRecord.isHook_iff, same_of_filter⟩,
    fun disk image metadata loaded => ?_⟩
  · exact Role.find?_matchesSection (fun role => order.mem_iff.mpr role.mem_all) tag
  · rw [Hook.resolve, loaded]

/-- Two events, a descriptor fixup among records without a role, and two more hooks. -/
example :
    duplicates [⟨"s/device_event", "a"⟩, ⟨"syscall", "b"⟩, ⟨"s/rdesc_fixup", "c"⟩,
        ⟨"t/device_event", "d"⟩, ⟨"s/device_event", "a"⟩] =
      [⟨.deviceEvent, "a", "d"⟩, ⟨.deviceEvent, "a", "a"⟩] := by
  decide

end Binding

end HidRig
