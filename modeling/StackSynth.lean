import StackSynth.Main
import StackSynth.Proofs.Assembly.Writing
import StackSynth.Proofs.Asset.Coverage
import StackSynth.Proofs.Asset.Publication
import StackSynth.Proofs.Asset.Stream
import StackSynth.Proofs.Audit.Ingress
import StackSynth.Proofs.Audit.Ordering
import StackSynth.Proofs.Config.Precedence
import StackSynth.Proofs.Constructs.Addressing
import StackSynth.Proofs.Constructs.Buckets
import StackSynth.Proofs.Constructs.ContainerHandles
import StackSynth.Proofs.Constructs.ContainerNames
import StackSynth.Proofs.Constructs.Openings
import StackSynth.Proofs.Constructs.Overcommitted
import StackSynth.Proofs.Constructs.Placement
import StackSynth.Proofs.Constructs.Routing
import StackSynth.Proofs.Graph.Cycles
import StackSynth.Proofs.Graph.Indexed
import StackSynth.Proofs.HostedService.Acceptance
import StackSynth.Proofs.Identity.Pools
import StackSynth.Proofs.Identity.SignIn
import StackSynth.Proofs.Json.Overlay
import StackSynth.Proofs.Network.Inclusion
import StackSynth.Proofs.Network.Texts
import StackSynth.Proofs.Permissions.Deployable
import StackSynth.Proofs.Permissions.Recorded
import StackSynth.Proofs.Stack.Allocation
import StackSynth.Proofs.Stack.SharedNames
import StackSynth.Proofs.Template.Collected
import StackSynth.Proofs.Template.Encoding
import StackSynth.Proofs.Template.Placeholders
