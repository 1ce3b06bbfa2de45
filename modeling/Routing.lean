import Routing.Main
import Routing.Proofs.AutomaticNames
import Routing.Proofs.BuilderCalls
import Routing.Proofs.ChunkDecoding
import Routing.Proofs.Defaults
import Routing.Proofs.FailedRegistration
import Routing.Proofs.GeneratedUrl
import Routing.Proofs.IdentifierPatterns
import Routing.Proofs.MethodUnions
import Routing.Proofs.Overrides
import Routing.Proofs.ParameterValues
import Routing.Proofs.PartialRegistration
import Routing.Proofs.PlainResources
import Routing.Proofs.Compilation
import Routing.Proofs.RenderedPaths
import Routing.Proofs.RoundTrip
import Routing.Proofs.RouteEditing
import Routing.Proofs.Shadowing
import Routing.Proofs.ResourceDispatch
import Routing.Proofs.TableRegistration
import Routing.Proofs.TemplateParts
