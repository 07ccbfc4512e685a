import HidRig.Program.Record
import HidRig.Role

/-! # Programs and roles

The first program whose section carries a role is bound to it. Later ones are ignored, with a
warning for each.

* `ProgramRecord.role?`: the role of a program.
* `Binding.symbol?`: the symbol bound to a role.
* `Binding.duplicates`: the programs ignored because their role was bound before.
-/

namespace HidRig

def ProgramRecord.role? (record : ProgramRecord) : Option Role :=
  Role.ofSection? record.tag

namespace Binding

def symbol? (programs : List ProgramRecord) (role : Role) : Option String :=
  (programs.find? fun p => p.role? = some role).map ProgramRecord.name

/-- A program whose role an earlier one has. -/
structure Duplicate where
  role : Role
  bound : String
  ignored : String
deriving DecidableEq, Repr

/-- The programs of a list that come too late, after those in `earlier`. -/
def duplicatesAfter (earlier : List ProgramRecord) : List ProgramRecord → List Duplicate
  | [] => []
  | p :: programs =>
    let late := duplicatesAfter (earlier ++ [p]) programs
    match p.role? with
    | none => late
    | some role =>
      match symbol? earlier role with
      | none => late
      | some bound => ⟨role, bound, p.name⟩ :: late

/-- The programs that come too late, in order. -/
def duplicates (programs : List ProgramRecord) : List Duplicate :=
  duplicatesAfter [] programs

end Binding

end HidRig
