import HidRig.Abi.Limits

/-! # Hook roles and operations

* `Role`: the kinds of hooks. A program section names a role by its end.
* `Role.ofSection?`: the role of a section.
* `Operation`: the entry points of a module as diagnostics name them.
-/

namespace HidRig

/-- The kinds of hooks, whose symbols a module chooses itself. -/
inductive Role where
  /-- Corrects the report descriptor before the device is bound. -/
  | reportDescriptorFixup
  | deviceEvent
deriving DecidableEq, Repr

namespace Role

/-- All roles, in the order in which they are resolved. -/
def all : List Role := [reportDescriptorFixup, deviceEvent]

/-- The end of the section names that carry a role. -/
def suffix : Role → String
  | reportDescriptorFixup => Abi.rdescFixupSuffix
  | deviceEvent => Abi.deviceEventSuffix

def label : Role → String
  | reportDescriptorFixup => "hid_rdesc_fixup"
  | deviceEvent => "hid_device_event"

def name : Role → String
  | reportDescriptorFixup => "ReportDescriptorFixup"
  | deviceEvent => "DeviceEvent"

def matchesSection (role : Role) (tag : String) : Bool :=
  role.suffix.toList.isSuffixOf tag.toList

/-- The role of a section, if it has one. -/
def ofSection? (tag : String) : Option Role :=
  all.find? fun role => role.matchesSection tag

theorem mem_all (role : Role) : role ∈ all := by
  cases role <;> decide

end Role

inductive Operation where
  | probe
  | hook (role : Role)
deriving DecidableEq, Repr

namespace Operation

def label : Operation → String
  | probe => Abi.probeSymbol
  | hook role => role.label

def name : Operation → String
  | probe => "Probe"
  | hook role => role.name

end Operation

end HidRig
