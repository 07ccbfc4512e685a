import HidRig.Fixture.DecoMini4
import HidRig.Fixture.DescriptorPatch
import HidRig.Fixture.FeatureQuery
import HidRig.Fixture.MouseInvertY
import HidRig.Fixture.Plain

/-! # The fixtures by name

* `Fixture.all`: every fixture.
* `Fixture.named?`: the fixture with a name.
-/

namespace HidRig.Fixture

def all : List Fixture :=
  [RaptorMach2.fixture, M50Silent.fixture, DecoMini4.fixture, Plain.failing, FeatureQuery.fixture,
    Plain.withoutServices, MouseInvertY.fixture, Plain.unlisted, Plain.idle, Plain.probeError,
    Plain.workQueue, Plain.withoutProbe, Plain.scripted]

def named? (name : String) : Option Fixture :=
  all.find? fun fixture => fixture.name = name

end HidRig.Fixture
