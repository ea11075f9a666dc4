import OrderedScope.Main
import OrderedScope.Proofs.Ambient
import OrderedScope.Proofs.Capture
import OrderedScope.Proofs.ClassWalk
import OrderedScope.Proofs.Exposure
import OrderedScope.Proofs.FrontEnds
import OrderedScope.Proofs.Hiding
import OrderedScope.Proofs.Inspection
import OrderedScope.Proofs.Labels
import OrderedScope.Proofs.Listing
import OrderedScope.Proofs.Names
import OrderedScope.Proofs.Overlay
import OrderedScope.Proofs.Profiles
import OrderedScope.Proofs.Ranking
import OrderedScope.Proofs.References
import OrderedScope.Proofs.Refusal
import OrderedScope.Proofs.Registration
import OrderedScope.Proofs.Routing
import OrderedScope.Proofs.Verdict
