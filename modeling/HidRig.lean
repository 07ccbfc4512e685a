import HidRig.Fixture.Catalog
import HidRig.Proofs.Buffers.Isolation
import HidRig.Proofs.Cache.Lasting
import HidRig.Proofs.Contexts.Balance
import HidRig.Proofs.Contexts.Nesting
import HidRig.Proofs.Fixture.DecoMini4
import HidRig.Proofs.Fixture.DescriptorPatch
import HidRig.Proofs.Fixture.FeatureQuery
import HidRig.Proofs.Fixture.MouseInvertY
import HidRig.Proofs.Opening.Documents
import HidRig.Proofs.Opening.Locks
import HidRig.Proofs.Program.Precedence
import HidRig.Proofs.Program.RoundTrip
import HidRig.Proofs.Requests.Log
import HidRig.Proofs.Roles.Lasting
import HidRig.Proofs.Search.Documents
import HidRig.Proofs.Search.Variables
import HidRig.Proofs.Session.Events
import HidRig.Proofs.Session.Independence
import HidRig.Proofs.Session.Outcome
import HidRig.Proofs.Session.Twins
