import HidRig.Fixture.Basic
import HidRig.Proofs.Opening.Backing
import HidRig.Proofs.Program.RoundTrip
import HidRig.Proofs.Text.Utf8
import HidRig.Rig.UsualLoader

/-! # Modules opened on a fixture

What is known of the entry points of a module when its files are those of a fixture, wherever they
were found.

* `TestModule.OpenedOn`: the entry points of a module are those of a fixture and its document.
* `TestModule.openedOn_of_open`: so it is for every module that is opened on such files.
* `TestModule.OpenedOn.probe_eq`, `TestModule.OpenedOn.hook`: the code of the probe, and of a role
  that the document binds.
* `Fixture.exists_opened`: the files of a fixture can be opened.
-/

namespace HidRig

/-- The entry points of a module are those of a fixture, by its document if it has one. -/
structure TestModule.OpenedOn (module : TestModule) (fixture : Fixture) : Prop where
  probe : fixture.image.symbol Abi.probeSymbol = .ok module.probe
  hooks : ∀ programs, fixture.programs = some programs →
    ∃ metadata, module.hooks = Hook.ofPrograms fixture.image metadata programs

namespace TestModule
variable {module : TestModule} {fixture : Fixture}

/-- A module is opened on a fixture if its object has the image and the file beside it the
document. -/
theorem openedOn_of_open {config : SearchConfig} {disk : Disk Image} {loader after last : Loader}
    {name : String} {location : Location} {object : OpenObject} {events : List Event}
    (located : config.locate disk name = .ok location)
    (opened : loader.openObject disk location.library = .ok (object, after))
    (image : object.image = fixture.image)
    (document : ∀ text, fixture.document? = some text →
      disk.readText location.metadata = .ok text)
    (made : TestModule.open config disk loader name = .ok (module, events, last)) :
    module.OpenedOn fixture := by
  obtain ⟨-, fails⟩ | ⟨-, -, fails⟩ | ⟨-, probe, probes, makes⟩ := open_cases located opened
  · cases fails.symm.trans made
  · cases fails.symm.trans made
  · cases makes.symm.trans made
    refine ⟨image ▸ probes, fun programs documented => ⟨location.metadata, ?_⟩⟩
    have written : fixture.document? = some (Document.json programs) := by
      rw [Fixture.document?, documented]
      rfl
    have loaded : Document.load disk location.metadata = .ok programs :=
      (Document.load_eq_ok_iff disk location.metadata programs).mpr
        ⟨_, document _ written, Document.parse_json programs⟩
    funext role
    rw [hooks_ofEntry]
    simp only [Hook.resolve, loaded, image]

end TestModule

namespace Fixture

/-! ## The symbols of a fixture -/

section Symbols
variable (name : String) (probe : Native Int32) (hooks : List (String × Native Int32))
  (programs : Option (List ProgramRecord))

theorem symbol_probe :
    (ofEntries name probe hooks programs).image.symbol Abi.probeSymbol = .ok (.code probe) := by
  rw [Image.symbol_of_plain _ Abi.probeSymbol_plain]
  rfl

/-- A fixture can be given its table, be it only by one of the functions that all have. -/
theorem exports_setCallbacks :
    (ofEntries name probe hooks programs).image.Exports Abi.setCallbacksSymbol := by
  show ∃ entry, List.lookup _ (_ ++ _) = some entry
  rw [List.lookup_append]
  exact Option.isSome_iff_exists.mp (by simp [serviceSymbols])

theorem symbol_hook {symbol : String} (hook : Native Int32) (plain : '\x00' ∉ symbol.toList)
    (other : symbol ≠ Abi.probeSymbol) :
    (ofEntries name probe ((symbol, hook) :: hooks) programs).image.symbol symbol =
      .ok (.code hook) := by
  rw [Image.symbol_of_plain _ plain]
  simp [ofEntries, imageOf, List.lookup, beq_false_of_ne other]

end Symbols

end Fixture

namespace TestModule.OpenedOn
variable {module : TestModule} {name : String} {probe : Native Int32}
  {hooks : List (String × Native Int32)}

theorem probe_eq {programs : Option (List ProgramRecord)}
    (h : module.OpenedOn (.ofEntries name probe hooks programs)) : module.probe = .code probe :=
  Except.ok.inj (h.probe.symm.trans (Fixture.symbol_probe name probe hooks programs))

/-- A role that the document binds to the first hook of a fixture has the code of that hook. -/
theorem hook {programs : List ProgramRecord} {role : Role} {symbol : String} {hook : Native Int32}
    (h : module.OpenedOn (.ofEntries name probe ((symbol, hook) :: hooks) (some programs)))
    (bound : Binding.symbol? programs role = some symbol) (plain : '\x00' ∉ symbol.toList)
    (other : symbol ≠ Abi.probeSymbol) : module.hooks role = .resolved symbol (.code hook) := by
  obtain ⟨metadata, same⟩ := h.hooks programs rfl
  rw [same]
  exact (Hook.ofPrograms_eq_resolved_iff programs symbol _).mpr
    ⟨bound, Fixture.symbol_hook name probe hooks (some programs) hook plain other⟩

end TestModule.OpenedOn

namespace Fixture

/-! ## The files of a fixture -/

/-- A directory with a module and its document. -/
def disk (image : Image) (text : String) : Disk Image :=
  Disk.empty.makeAll
    [(Path.ofText "d/libtest-a.so", .file (.native image)),
      (Path.ofText "d/libtest-a.json", .file (.bytes (Utf8.encode text)))]

def searchDir : SearchConfig :=
  ⟨[Path.ofText "d"], SearchConfig.defaultPrefix⟩

theorem readText_disk (image : Image) (text : String) :
    (disk image text).readText (Path.ofText "d/libtest-a.json") = .ok text := by
  have found : (disk image text).resolve (Path.ofText "d/libtest-a.json") =
      .ok (.file [Path.ofText "libtest-a.json", Path.ofText "d", Path.ofText "work"] ⟨1⟩
        (.bytes (Utf8.encode text))) := rfl
  have decoded : Utf8.text? (Utf8.encode text) = some text :=
    (Utf8.text?_eq_some_iff _ _).mpr rfl
  rw [Disk.readText, found]
  simp only [decoded]

/-- A module can be opened on a fixture with a document. -/
theorem exists_opened (name : String) (probe : Native Int32) (hooks : List (String × Native Int32))
    (programs : List ProgramRecord) :
    let fixture := ofEntries name probe hooks (some programs)
    let loader := Loader.initial (UsualLoader.ofVariable none).system
    ∃ module events last,
      TestModule.open searchDir (disk fixture.image (Document.json programs)) loader "a" =
        .ok (module, events, last) ∧ module.OpenedOn fixture := by
  intro fixture loader
  let text := Document.json programs
  let location : Location := ⟨Path.ofText "d/libtest-a.so", Path.ofText "d/libtest-a.json"⟩
  have located : searchDir.locate (disk fixture.image text) "a" = .ok location := rfl
  obtain ⟨object, after, opened, image⟩ : ∃ object after,
      loader.openObject (disk fixture.image text) location.library =
        .ok (object, after) ∧ object.image = fixture.image := ⟨_, _, rfl, rfl⟩
  have made := TestModule.open_of_exports located opened
    (image ▸ symbol_probe name probe hooks (some programs))
    (image ▸ exports_setCallbacks name probe hooks (some programs))
  refine ⟨_, _, _, made, TestModule.openedOn_of_open located opened image ?_ made⟩
  rintro _ ⟨⟩
  exact readText_disk fixture.image text

end Fixture

end HidRig
