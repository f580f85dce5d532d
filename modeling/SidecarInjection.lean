import SidecarInjection.Admission.Decode
import SidecarInjection.Main
import SidecarInjection.Proofs.Admission.Agreement
import SidecarInjection.Proofs.Direct.Injection
import SidecarInjection.Proofs.Injection.SecretsPath
import SidecarInjection.Proofs.Injection.Success
import SidecarInjection.Proofs.Injection.Templates
import SidecarInjection.Proofs.Injection.Volumes
import SidecarInjection.Proofs.Manifest.Frame
import SidecarInjection.Proofs.Context.Coherence
import SidecarInjection.Proofs.Injection.Independence
import SidecarInjection.Proofs.Json.Members
import SidecarInjection.Proofs.Injection.OwnEdits
import SidecarInjection.Proofs.Injection.Ordering
import SidecarInjection.Proofs.Injection.Preservation
import SidecarInjection.Proofs.Context.Registration
import SidecarInjection.Proofs.Injection.ModeOrder
import SidecarInjection.Proofs.Admission.Review
import SidecarInjection.Proofs.Expansion
import SidecarInjection.Proofs.Expansion.Repeated
import SidecarInjection.Proofs.Secrets.Verbatim
import SidecarInjection.Proofs.Secrets.Concatenation
import SidecarInjection.Proofs.Context.TokenMount
import SidecarInjection.Proofs.Context.Dependent
import SidecarInjection.Proofs.Rendering.Insertion
import SidecarInjection.Proofs.Rendering.Frame
import SidecarInjection.Proofs.Mode.Latest
import SidecarInjection.Proofs.Mode.Rewording
import SidecarInjection.Proofs.Proxy.Port
