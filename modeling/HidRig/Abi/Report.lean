/-! # Reports and requests

The kinds of reports and of class requests of the HID protocol, with their numbers.

* `ReportType.ofRaw?`, `RequestKind.ofRaw?`: the kind with a given number.
-/

namespace HidRig

inductive ReportType where
  | input
  | output
  /-- A report that is read and written on request. -/
  | feature
deriving DecidableEq, Repr

namespace ReportType

def all : List ReportType := [input, output, feature]

def raw : ReportType → Int32
  | input => 0
  | output => 1
  | feature => 2

def ofRaw? (n : Int32) : Option ReportType :=
  all.find? fun t => t.raw = n

def name : ReportType → String
  | input => "Input"
  | output => "Output"
  | feature => "Feature"

theorem ofRaw?_raw (t : ReportType) : ofRaw? t.raw = some t := by
  cases t <;> decide

end ReportType

inductive RequestKind where
  | getReport
  | getIdle
  | getProtocol
  | setReport
  | setIdle
  | setProtocol
deriving DecidableEq, Repr

namespace RequestKind

def all : List RequestKind := [getReport, getIdle, getProtocol, setReport, setIdle, setProtocol]

def raw : RequestKind → Int32
  | getReport => 1
  | getIdle => 2
  | getProtocol => 3
  | setReport => 9
  | setIdle => 10
  | setProtocol => 11

def ofRaw? (n : Int32) : Option RequestKind :=
  all.find? fun k => k.raw = n

def name : RequestKind → String
  | getReport => "GetReport"
  | getIdle => "GetIdle"
  | getProtocol => "GetProtocol"
  | setReport => "SetReport"
  | setIdle => "SetIdle"
  | setProtocol => "SetProtocol"

theorem ofRaw?_raw (k : RequestKind) : ofRaw? k.raw = some k := by
  cases k <;> decide

end RequestKind

end HidRig
