import HidRig.Proofs.Opening.Stages
import HidRig.Proofs.Session.Outcome

/-! # The roles of a module

A role is resolved once, when its module is opened, by the first program of the document whose
section ends like those of the role. Everything that asks a module about a role agrees on that.

* `Resolution`: a document and an image settle a symbol and an entry point on a role.
* `Hook.resolve_eq_resolved_iff`: a role is resolved in this way alone.
* `TestModule.Has`, `TestModule.Lacks`: all that shows that a module has a role, or has it not.
* `TestModule.Settled`: the roles of a module are those that the files had settled.
* `TestModule.settled_ofEntry`: so it is for every module that is opened.
-/

namespace HidRig

/-! ## Sections -/

/-- The section of a program ends like those of a role. -/
def ProgramRecord.Carries (program : ProgramRecord) (role : Role) : Prop :=
  role.suffix.toList <:+ program.tag.toList

theorem Role.matchesSection_iff (role : Role) (tag : String) :
    role.matchesSection tag = true ↔ role.suffix.toList <:+ tag.toList :=
  List.isSuffixOf_iff_suffix

/-- No section ends like those of two roles. -/
theorem Role.eq_of_suffix {role other : Role} {tag : List Char} (mine : role.suffix.toList <:+ tag)
    (its : other.suffix.toList <:+ tag) : role = other := by
  have one := List.suffix_or_suffix_of_suffix mine its
  revert one
  cases role <;> cases other <;> decide

theorem Role.ofSection?_eq_some_iff (tag : String) (role : Role) :
    ofSection? tag = some role ↔ role.suffix.toList <:+ tag.toList := by
  constructor
  · intro found
    have matched : role.matchesSection tag = true :=
      List.find?_some (p := fun other : Role => other.matchesSection tag) found
    exact (role.matchesSection_iff tag).mp matched
  · intro ends
    have matched := (role.matchesSection_iff tag).mpr ends
    cases found : ofSection? tag with
    | none => exact absurd matched (List.find?_eq_none.mp found role role.mem_all)
    | some other =>
      have other_ : other.matchesSection tag = true :=
        List.find?_some (p := fun other : Role => other.matchesSection tag) found
      have its := (other.matchesSection_iff tag).mp other_
      rw [Role.eq_of_suffix ends its]

/-- The symbol of a role is that of the first program that carries it. -/
theorem Binding.symbol?_eq_some_iff (programs : List ProgramRecord) (role : Role)
    (symbol : String) :
    symbol? programs role = some symbol ↔
      ∃ earlier program later, programs = earlier ++ program :: later ∧
        (∀ other ∈ earlier, ¬ other.Carries role) ∧ program.Carries role ∧
        program.name = symbol := by
  have carries (program : ProgramRecord) : program.role? = some role ↔ program.Carries role :=
    Role.ofSection?_eq_some_iff program.tag role
  simp only [symbol?, Option.map_eq_some_iff, List.find?_eq_some_iff_append, decide_eq_true_eq,
    carries, Bool.not_eq_true', decide_eq_false_iff_not]
  constructor
  · rintro ⟨program, ⟨carried, earlier, later, split, others⟩, named⟩
    exact ⟨earlier, program, later, split, others, carried, named⟩
  · rintro ⟨earlier, program, later, split, others, carried, named⟩
    exact ⟨program, ⟨carried, earlier, later, split, others⟩, named⟩

/-! ## Symbols -/

/-- A symbol as a document writes it, which may end with a null character, stands for an entry point
of an image. -/
def Image.Stands (image : Image) (symbol : String) (entry : EntryPoint) : Prop :=
  ∃ name, (symbol = name ∨ symbol = name ++ "\x00") ∧ '\x00' ∉ name.toList ∧
    image.exports.lookup name = some entry

theorem trimNull_append (name : String) : trimNull (name ++ "\x00") = name := by
  have written : (name ++ "\x00").toList = name.toList ++ ['\x00'] := by simp
  unfold trimNull
  rw [written, if_pos List.getLast?_concat, List.dropLast_concat, String.ofList_toList]

theorem eq_trimNull_or (symbol : String) :
    symbol = trimNull symbol ∨ symbol = trimNull symbol ++ "\x00" := by
  unfold trimNull
  split
  · rename_i last
    obtain ⟨front, written⟩ := List.getLast?_eq_some_iff.mp last
    right
    rw [← String.toList_inj, written]
    simp
  · exact .inl rfl

theorem Image.symbol_eq_ok_iff (image : Image) (symbol : String) (entry : EntryPoint) :
    image.symbol symbol = .ok entry ↔ image.Stands symbol entry := by
  constructor
  · intro found
    unfold Image.symbol at found
    dsimp only at found
    split at found
    · cases found
    · rename_i plain
      split at found
      · rename_i exported
        cases found
        exact ⟨trimNull symbol, eq_trimNull_or symbol, by simpa using plain, exported⟩
      · cases found
  · rintro ⟨name, written, plain, exported⟩
    have trimmed : trimNull symbol = name := by
      rcases written with rfl | rfl
      · exact trimNull_of_plain plain
      · exact trimNull_append name
    unfold Image.symbol
    dsimp only
    rw [trimmed, if_neg (by simpa using plain), exported]

/-! ## Hooks -/

/-- The files settle a symbol and an entry point on a role: the document can be read, the first of
its programs whose section ends like those of the role has the symbol, and the symbol is
exported. -/
def Resolution (disk : Disk Image) (image : Image) (metadata : Path) (role : Role) (symbol : String)
    (entry : EntryPoint) : Prop :=
  ∃ text earlier program later,
    disk.readText metadata = .ok text ∧
    Document.parse text = .ok (earlier ++ program :: later) ∧
    (∀ other ∈ earlier, ¬ other.Carries role) ∧ program.Carries role ∧
    program.name = symbol ∧ image.Stands symbol entry

theorem Document.load_eq_ok_iff (disk : Disk Image) (path : Path)
    (programs : List ProgramRecord) :
    load disk path = .ok programs ↔
      ∃ text, disk.readText path = .ok text ∧ parse text = .ok programs := by
  unfold load
  cases disk.readText path with
  | error cause => simp
  | ok text => cases h : parse text <;> simp [Except.mapError, h]

namespace Hook
variable {disk : Disk Image} {image : Image} {metadata : Path} {role : Role}

theorem ofPrograms_eq_resolved_iff (programs : List ProgramRecord) (symbol : String)
    (entry : EntryPoint) :
    ofPrograms image metadata programs role = .resolved symbol entry ↔
      Binding.symbol? programs role = some symbol ∧ image.symbol symbol = .ok entry := by
  unfold ofPrograms
  cases Binding.symbol? programs role with
  | none => simp
  | some bound =>
    cases found : image.symbol bound with
    | error fault =>
      simp only [found, reduceCtorEq, Option.some.injEq, false_iff, not_and]
      rintro rfl
      simp [found]
    | ok other =>
      simp only [found, resolved.injEq, Option.some.injEq]
      constructor
      · rintro ⟨rfl, rfl⟩
        exact ⟨rfl, found⟩
      · rintro ⟨rfl, same⟩
        exact ⟨rfl, Except.ok.inj (found.symm.trans same)⟩

/-- A role is resolved by the files, and in no other way. -/
theorem resolve_eq_resolved_iff (symbol : String) (entry : EntryPoint) :
    (resolve disk image metadata).1 role = .resolved symbol entry ↔
      Resolution disk image metadata role symbol entry := by
  have usable := Document.load_eq_ok_iff disk metadata
  constructor
  · intro resolved
    unfold resolve at resolved
    split at resolved
    · cases resolved
    · rename_i programs loaded
      obtain ⟨bound, exported⟩ := (ofPrograms_eq_resolved_iff programs symbol entry).mp resolved
      obtain ⟨text, read, parsed⟩ := (usable programs).mp loaded
      obtain ⟨earlier, program, later, rfl, others, carried, named⟩ :=
        (Binding.symbol?_eq_some_iff programs role symbol).mp bound
      have stands := (image.symbol_eq_ok_iff symbol entry).mp exported
      exact ⟨text, earlier, program, later, read, parsed, others, carried, named, stands⟩
  · rintro ⟨text, earlier, program, later, read, parsed, others, carried, named, stands⟩
    have loaded := (usable _).mpr ⟨text, read, parsed⟩
    have bound := (Binding.symbol?_eq_some_iff _ role symbol).mpr
      ⟨earlier, program, later, rfl, others, carried, named⟩
    have exported := (image.symbol_eq_ok_iff symbol entry).mpr stands
    unfold resolve
    rw [loaded]
    exact (ofPrograms_eq_resolved_iff _ symbol entry).mpr ⟨bound, exported⟩

theorem head?_append (front back : String) {first : Char}
    (starts : front.toList.head? = some first) :
    (front ++ back).toList.head? = some first := by
  rw [String.toList_append, List.head?_append, starts]
  rfl

/-- Every role that is not resolved has a reason of its own. -/
theorem resolve_ne_neverDiscovered :
    (resolve disk image metadata).1 role ≠ .unresolved neverDiscovered := by
  -- the reasons differ from this one in the first character
  have apart {reason : String} {first : Char} (starts : reason.toList.head? = some first)
      (other : first ≠ 'r') : Hook.unresolved reason ≠ .unresolved neverDiscovered := by
    intro same
    cases same
    exact other (Option.some.inj starts).symm
  unfold resolve
  cases Document.load disk metadata with
  | error fault =>
    cases fault with
    | unreadable path cause =>
      show Hook.unresolved ("Unable to read " ++ path.display ++ ": " ++ cause.message) ≠ _
      have starts : "Unable to read ".toList.head? = some 'U' := by decide
      have shown := head?_append _ ": " (head?_append _ path.display starts)
      exact apart (head?_append _ cause.message shown) (by decide)
    | unparsable path cause =>
      show Hook.unresolved ("Malformed program metadata in " ++ path.display ++ ": " ++
        cause.message) ≠ _
      have starts : "Malformed program metadata in ".toList.head? = some 'M' := by decide
      have shown := head?_append _ ": " (head?_append _ path.display starts)
      exact apart (head?_append _ cause.message shown) (by decide)
  | ok programs =>
    simp only [ofPrograms]
    split
    · have starts : "no program section ending in `".toList.head? = some 'n' := by decide
      have shown := head?_append _ "` in " (head?_append _ role.suffix starts)
      exact apart (head?_append _ metadata.display shown) (by decide)
    · rename_i symbol _
      split
      · exact nofun
      · rename_i fault _
        have starts : "symbol `".toList.head? = some 's' := by decide
        have shown := head?_append _ "` is not exported: " (head?_append _ symbol starts)
        exact apart (head?_append _ fault.message shown) (by decide)

end Hook

/-! ## The table of hooks -/

namespace Hook

theorem lookup_table (disk : Disk Image) (image : Image) (metadata : Path) (role : Role) :
    (table disk image metadata).lookup role = some ((resolve disk image metadata).1 role) := by
  cases role <;> rfl

end Hook

/-! ## What shows the roles of a module -/

namespace TestModule

/-- All that shows that a module has a role: its hook calls run the entry point. -/
structure Has (module : TestModule) (role : Role) (symbol : String) (entry : EntryPoint) :
    Prop where
  hasRole : module.hasRole role = true
  symbol : module.symbol? role = some symbol
  calls : ∀ (session : Session) (data : Option Bytes) (options : InvokeOptions)
    (script : Option Script), role.Admits data →
    ∃ payload, Payload.forRole role data = .ok payload ∧
      (session.hook module role data options (script.map Script.run)).2 =
        ((session.ended module (.hook role payload entry options) script).trace,
          session.called module (.hook role payload entry options) script)

/-- All that shows that a module has no such role: its hook calls are refused. -/
structure Lacks (module : TestModule) (role : Role) : Prop where
  hasRole : module.hasRole role = false
  symbol : module.symbol? role = none
  refuses : ∀ (session : Session) (data : Option Bytes) (options : InvokeOptions)
    (script : Option Script), role.Admits data →
    ∃ reason, reason ≠ Hook.neverDiscovered ∧
      session.hook module role data options (script.map Script.run) =
        (.error (.unresolvedRole module.name role reason), none, session)

/-- The roles of a module are those that the files had settled. -/
structure Settled (module : TestModule) (disk : Disk Image) (image : Image) (metadata : Path) :
    Prop where
  has : ∀ role symbol entry, Resolution disk image metadata role symbol entry →
    module.Has role symbol entry
  lacks : ∀ role, (∀ symbol entry, ¬ Resolution disk image metadata role symbol entry) →
    module.Lacks role
  /-- Every role is in the table, so that there is no call without an entry or a reason. -/
  discovered : ∀ role, ((Hook.table disk image metadata).lookup role).isSome ∧
    Hook.entryIn module.name (Hook.table disk image metadata) role = module.hookEntry role
  shown : ∃ roles : List Role, roles.Sublist Role.all ∧
    (∀ role, role ∈ roles ↔ module.hasRole role = true) ∧
    module.debug = "TestModule \x7b name: " ++ Text.quote module.name ++ ", path: " ++
      module.path.debug ++ ", roles: [" ++ ", ".intercalate (roles.map Role.name) ++ "], .. \x7d"

theorem has_of_resolved {module : TestModule} {role : Role} {symbol : String} {entry : EntryPoint}
    (resolved : module.hooks role = .resolved symbol entry) : module.Has role symbol entry := by
  have bound : module.symbol? role = some symbol := by rw [symbol?, resolved]
  refine ⟨by rw [hasRole, bound, Option.isSome_some], bound,
    fun session data options script admits => ?_⟩
  obtain ⟨payload, fits, -⟩ := Payload.forRole_of_admits admits
  have prepared := prepare_of_resolved fits resolved
  exact ⟨payload, fits,
    congrArg Prod.snd (session.hook_eq module role data options script prepared)⟩

theorem lacks_of_unresolved {module : TestModule} {role : Role} {reason : String}
    (unresolved : module.hooks role = .unresolved reason)
    (apart : reason ≠ Hook.neverDiscovered) : module.Lacks role := by
  have unbound : module.symbol? role = none := by rw [symbol?, unresolved]
  refine ⟨by rw [hasRole, unbound, Option.isSome_none], unbound,
    fun session data options script admits => ⟨reason, apart, ?_⟩⟩
  exact session.hook_of_refused (prepare_of_unresolved admits unresolved) options _

theorem debug_eq (module : TestModule) :
    module.debug = "TestModule \x7b name: " ++ Text.quote module.name ++ ", path: " ++
      module.path.debug ++ ", roles: [" ++
      ", ".intercalate ((Role.all.filter module.hasRole).map Role.name) ++ "], .. \x7d" := by
  rw [← String.toList_inj]
  simp [debug, Text.openRecord, Text.list, String.join]

theorem hooks_ofEntry (disk : Disk Image) (name : String) (location : Location)
    (object : OpenObject) (number : Nat) (probe : EntryPoint) (role : Role) :
    (ofEntry disk name location object number probe).hooks role =
      (Hook.resolve disk object.image location.metadata).1 role := by
  rw [hooks, ofEntry, Hook.lookup_table]
  rfl

/-- The roles of a module that is opened are settled by the files as they are then. -/
theorem settled_ofEntry (disk : Disk Image) (name : String) (location : Location)
    (object : OpenObject) (number : Nat) (probe : EntryPoint) :
    (ofEntry disk name location object number probe).Settled disk object.image
      location.metadata where
  has role symbol entry resolution :=
    has_of_resolved ((hooks_ofEntry disk name location object number probe role).trans
      ((Hook.resolve_eq_resolved_iff symbol entry).mpr resolution))
  lacks role none := by
    have hooks := hooks_ofEntry disk name location object number probe role
    cases hook : (Hook.resolve disk object.image location.metadata).1 role with
    | resolved symbol entry =>
      exact absurd ((Hook.resolve_eq_resolved_iff symbol entry).mp hook) (none symbol entry)
    | unresolved reason =>
      refine lacks_of_unresolved (hooks.trans hook) ?_
      rintro rfl
      exact Hook.resolve_ne_neverDiscovered hook
  discovered role := by
    rw [Hook.lookup_table]
    exact ⟨rfl, rfl⟩
  shown := by
    refine ⟨_, List.filter_sublist, fun role => ?_, debug_eq _⟩
    rw [List.mem_filter]
    exact and_iff_right role.mem_all

end TestModule

end HidRig
