import KubernetesIngress.Go.Strings
import KubernetesIngress.Api.V1
import KubernetesIngress.Configs.Version2
import KubernetesIngress.Configs.Namers
import KubernetesIngress.Configs.VirtualServer
import KubernetesIngress.Validation.Grammars
import KubernetesIngress.Validation.Upstreams
import KubernetesIngress.Validation.Routes
import KubernetesIngress.Validation.Soundness
import KubernetesIngress.Validation.Tiers
import KubernetesIngress.Validation.Variables
import KubernetesIngress.Validation.StatusMatch
import KubernetesIngress.Validation.Totality
import KubernetesIngress.Configs.Routing
import KubernetesIngress.Nginx.Map
import KubernetesIngress.Configs.Matches
import KubernetesIngress.Configs.Keys
import KubernetesIngress.Configs.Generation
import KubernetesIngress.Configs.Plus
import KubernetesIngress.Configs.Validated
import KubernetesIngress.Configs.Identifiers
import KubernetesIngress.Configs.Paths
import KubernetesIngress.Configs.EndpointKeys
import KubernetesIngress.Validation.UpstreamChecks
import KubernetesIngress.Configs.Provenance
import KubernetesIngress.Configs.Directives
import KubernetesIngress.Configs.Failure
import KubernetesIngress.Configs.Flavour
import KubernetesIngress.Validation.Acceptance
