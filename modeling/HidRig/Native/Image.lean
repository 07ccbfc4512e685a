import HidRig.Native.Service

/-! # Native modules

* `EntryPoint`: what an exported symbol stands for.
* `Image`: a shared object, as the symbols that it exports.
* `Image.symbol`: the look-up of a symbol.
-/

namespace HidRig

inductive EntryPoint where
  | code (body : Native Int32)
  /-- An entry point that runs the script of the step that calls it. -/
  | scripted
  /-- A function of the module that is no entry point. -/
  | helper

/-- A shared object: its exported symbols with what they stand for. -/
structure Image where
  exports : List (String × EntryPoint)

inductive SymbolFault where
  | notExported
  | nullInside
deriving DecidableEq, Repr

def SymbolFault.message : SymbolFault → String
  | notExported => "dlsym failed"
  | nullInside => "interior zero element in parameter"

/-- A symbol without the null byte that may end it. -/
def trimNull (symbol : String) : String :=
  if symbol.toList.getLast? = some '\x00' then String.ofList symbol.toList.dropLast else symbol

def Image.symbol (image : Image) (symbol : String) : Except SymbolFault EntryPoint :=
  let name := trimNull symbol
  if name.toList.contains '\x00' then .error .nullInside
  else
    match image.exports.lookup name with
    | some entry => .ok entry
    | none => .error .notExported

end HidRig
