import HidRig.Proofs.Cache.Opening

/-! # The stages of opening a module

A module is located, its object is opened, and two symbols are looked up in that. Each stage has a
fault of its own.

* `Image.Exports`, `Image.symbol_of_plain`: the look-up of a symbol without null characters.
* `TestModule.ofEntry`: the module made when nothing fails.
* `TestModule.open_of_astray`, …, `TestModule.open_of_exports`: the outcome by the stages.
* `TestModule.of_open_ok`: all stages of a module that was opened.
-/

namespace HidRig

theorem exists_of_map_ok {ε α β : Type} {f : α → β} {result : Except ε α} {b : β}
    (h : result.map f = .ok b) : ∃ a, result = .ok a ∧ f a = b := by
  cases result with
  | error fault => cases h
  | ok a => exact ⟨a, rfl, Except.ok.inj h⟩

theorem error_of_map_error {ε α β : Type} {f : α → β} {result : Except ε α} {fault : ε}
    (h : result.map f = .error fault) : result = .error fault := by
  cases result with
  | error other => exact congrArg Except.error (Except.error.inj h)
  | ok a => cases h

/-! ## Symbols -/

/-- A symbol is exported, as whatever it is. -/
def Image.Exports (image : Image) (symbol : String) : Prop :=
  ∃ entry, image.exports.lookup symbol = some entry

theorem trimNull_of_plain {symbol : String} (plain : '\x00' ∉ symbol.toList) :
    trimNull symbol = symbol := by
  unfold trimNull
  rw [if_neg]
  intro last
  exact plain (List.mem_of_getLast? last)

theorem Image.symbol_of_plain (image : Image) {symbol : String} (plain : '\x00' ∉ symbol.toList) :
    image.symbol symbol =
      match image.exports.lookup symbol with
      | some entry => .ok entry
      | none => .error .notExported := by
  unfold Image.symbol
  dsimp only
  rw [trimNull_of_plain plain]
  exact if_neg (by simpa using plain)

theorem Image.exports_iff (image : Image) {symbol : String} (plain : '\x00' ∉ symbol.toList) :
    image.Exports symbol ↔ ∃ entry, image.symbol symbol = .ok entry := by
  rw [image.symbol_of_plain plain, Image.Exports]
  cases image.exports.lookup symbol <;> simp

theorem Image.symbol_of_not_exports {image : Image} {symbol : String}
    (plain : '\x00' ∉ symbol.toList) (absent : ¬ image.Exports symbol) :
    image.symbol symbol = .error .notExported := by
  rw [image.symbol_of_plain plain]
  cases found : image.exports.lookup symbol with
  | none => rfl
  | some entry => exact absurd ⟨entry, found⟩ absent

theorem Abi.probeSymbol_plain : '\x00' ∉ Abi.probeSymbol.toList := by decide

theorem Abi.setCallbacksSymbol_plain : '\x00' ∉ Abi.setCallbacksSymbol.toList := by decide

/-- The image with the symbols that every module exports, and no more. -/
def Image.least : Image :=
  ⟨[(Abi.probeSymbol, .scripted), (Abi.setCallbacksSymbol, .helper)]⟩

/-! ## Stages -/

namespace TestModule

/-- The module at a location, by the object that was opened and the entry point of its probe. -/
def ofEntry (disk : Disk Image) (name : String) (location : Location) (object : OpenObject)
    (number : Nat) (probe : EntryPoint) : TestModule :=
  { id := ⟨number⟩, name, path := location.library, file := object.file,
    lock := .ofPath disk location.library, probe,
    slots := Hook.table disk object.image location.metadata }

variable {config : SearchConfig} {disk : Disk Image} {loader after : Loader} {name : String}
  {location : Location} {object : OpenObject}

theorem open_of_astray {fault : LoadFault} (astray : config.locate disk name = .error fault) :
    TestModule.open config disk loader name = .error fault := by
  unfold TestModule.open
  rw [astray]
  rfl

section Located
variable (found : config.locate disk name = .ok location)
include found

theorem open_of_refused {fault : OpenFault}
    (refused : loader.openObject disk location.library = .error fault) :
    TestModule.open config disk loader name =
      .error (.libraryLoadFailed location.library.display fault.message) := by
  rw [open_eq, found]
  simp only [refused, mapError_error, bind, Except.bind]

variable (opened : loader.openObject disk location.library = .ok (object, after))
include opened

theorem open_of_opened :
    TestModule.open config disk loader name =
      (ofImage disk name location ⟨after.opened⟩ object.file object.image).map fun made =>
        (made.1, made.2, { after with opened := after.opened + 1 }) := by
  rw [open_eq, found]
  simp only [opened, mapError_ok, bind, Except.bind]
  cases ofImage disk name location ⟨after.opened⟩ object.file object.image <;> rfl

theorem open_of_no_probe (absent : ¬ object.image.Exports Abi.probeSymbol) :
    TestModule.open config disk loader name =
      .error (.missingSymbol location.library.display Abi.probeSymbol
        SymbolFault.notExported.message) := by
  have missing := Image.symbol_of_not_exports Abi.probeSymbol_plain absent
  rw [open_of_opened found opened]
  unfold ofImage
  simp only [missing]
  rfl

theorem open_of_no_callbacks {probe : EntryPoint}
    (probes : object.image.symbol Abi.probeSymbol = .ok probe)
    (absent : ¬ object.image.Exports Abi.setCallbacksSymbol) :
    TestModule.open config disk loader name =
      .error (.missingSymbol location.library.display Abi.setCallbacksSymbol
        SymbolFault.notExported.message) := by
  have missing := Image.symbol_of_not_exports Abi.setCallbacksSymbol_plain absent
  rw [open_of_opened found opened]
  unfold ofImage
  simp only [probes, missing]
  rfl

theorem open_of_exports {probe : EntryPoint}
    (probes : object.image.symbol Abi.probeSymbol = .ok probe)
    (exports : object.image.Exports Abi.setCallbacksSymbol) :
    TestModule.open config disk loader name =
      .ok (ofEntry disk name location object after.opened probe,
        (Hook.resolve disk object.image location.metadata).2,
        { after with opened := after.opened + 1 }) := by
  obtain ⟨entry, callbacks⟩ := (object.image.exports_iff Abi.setCallbacksSymbol_plain).mp exports
  rw [open_of_opened found opened]
  unfold ofImage
  simp only [probes, callbacks]
  rfl

/-- Once an object is open, the two symbols decide. -/
theorem open_cases :
    (¬ object.image.Exports Abi.probeSymbol ∧
      TestModule.open config disk loader name =
        .error (.missingSymbol location.library.display Abi.probeSymbol
          SymbolFault.notExported.message)) ∨
    (object.image.Exports Abi.probeSymbol ∧ ¬ object.image.Exports Abi.setCallbacksSymbol ∧
      TestModule.open config disk loader name =
        .error (.missingSymbol location.library.display Abi.setCallbacksSymbol
          SymbolFault.notExported.message)) ∨
    object.image.Exports Abi.setCallbacksSymbol ∧
      ∃ probe, object.image.symbol Abi.probeSymbol = .ok probe ∧
        TestModule.open config disk loader name =
          .ok (ofEntry disk name location object after.opened probe,
            (Hook.resolve disk object.image location.metadata).2,
            { after with opened := after.opened + 1 }) := by
  by_cases probes : object.image.Exports Abi.probeSymbol
  · obtain ⟨probe, entry⟩ := (object.image.exports_iff Abi.probeSymbol_plain).mp probes
    by_cases callbacks : object.image.Exports Abi.setCallbacksSymbol
    · exact .inr (.inr ⟨callbacks, probe, entry, open_of_exports found opened entry callbacks⟩)
    · exact .inr (.inl ⟨probes, callbacks, open_of_no_callbacks found opened entry callbacks⟩)
  · exact .inl ⟨probes, open_of_no_probe found opened probes⟩

end Located

/-- All stages of a module that was opened. -/
theorem of_open_ok {module : TestModule} {events : List Event} {last : Loader}
    (h : TestModule.open config disk loader name = .ok (module, events, last)) :
    ∃ location object after probe,
      config.locate disk name = .ok location ∧
      loader.openObject disk location.library = .ok (object, after) ∧
      module = ofEntry disk name location object after.opened probe ∧
      last = { after with opened := after.opened + 1 } := by
  cases found : config.locate disk name with
  | error fault =>
    rw [open_of_astray found] at h
    cases h
  | ok location =>
    cases opened : loader.openObject disk location.library with
    | error fault =>
      rw [open_of_refused found opened] at h
      cases h
    | ok pair =>
      obtain ⟨object, after⟩ := pair
      obtain ⟨-, fails⟩ | ⟨-, -, fails⟩ | ⟨-, probe, -, made⟩ := open_cases found opened
      · rw [fails] at h
        cases h
      · rw [fails] at h
        cases h
      · rw [made] at h
        cases h
        exact ⟨location, object, after, probe, rfl, opened, rfl, rfl⟩

end TestModule

end HidRig
