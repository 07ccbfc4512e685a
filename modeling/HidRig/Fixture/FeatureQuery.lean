import HidRig.Fixture.Basic

/-! # A module that makes requests

The hook asks the device for a feature report on every input report, and stores the outcome in the
report.

* `FeatureQuery.hook`: one request, on a context of its own.
* `FeatureQuery.settle`, `FeatureQuery.store`: what it does with the answer.
-/

namespace HidRig.Fixture.FeatureQuery

/-- What the request sends: the number of the feature report, and room for the answer. -/
def query : Bytes := [0x05, 0, 0, 0]

/-- The size of the report that the hook needs. -/
def reportSize : UInt64 := 4

/-- The second byte of a report on which the hook keeps its context. -/
def leakMarker : UInt8 := 0xff

/-- The end of the hook. The third byte of the report gets the code of the answer and the fourth its
second byte. -/
def store (answer : Int32 × Bytes) (window : Window) : Native Int32 := do
  if answer.1 < 0 then pure answer.1
  else
    Native.write window 2 [answer.1.toUInt32.toUInt8, answer.2.getD 1 0]
    Native.setContext { (← Native.context) with retvalOrSize := answer.1 }
    pure 0

/-- The hook from the answer on. -/
def settle (id : ContextId) (answer : Int32 × Bytes) (window : Window) : Native Int32 := do
  let marker ← Native.read window 1 1
  if marker ≠ [leakMarker] then Native.release (some id)
  store answer window

/-- Makes the request. -/
def hook : Native Int32 := do
  let started ← Native.context
  withData reportSize fun window => do
    match ← Native.allocate started.index with
    | none => pure (-Abi.enomem)
    | some id =>
      let answer ← Native.request (some id) query .feature .getReport
      settle id answer window

def symbol : String := "hid_query_feature"

/-- The module. Its document also lists a program without a role. -/
def fixture : Fixture :=
  .ofEntries "0010-feature-query" acceptAll [(symbol, hook)]
    (some [hookRecord .deviceEvent symbol,
      ⟨"struct_ops/hid_hw_request", "hid_unused_hw_request"⟩, probeRecord])

end HidRig.Fixture.FeatureQuery
