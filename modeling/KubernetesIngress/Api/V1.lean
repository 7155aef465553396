import Mathlib.Data.List.Basic
import Mathlib.Data.String.Basic

set_option autoImplicit false

/-! # The VirtualServer resource family (`conf_v1`)

The input of both the validator and the generator: a `VirtualServer`, the
`VirtualServerRoute`s it delegates to, and the upstreams, routes, matches and actions inside
them, field for field as `pkg/apis/configuration/v1/types.go` declares them. Of the object
metadata only the namespace and the name are read by the code.

Go pointers become `Option`, slices become `List`, `int` becomes `Int`, and `uint16` stays
`UInt16`. Every field carries its Go zero value as default, so that `{}` is the zero value
and `{ name := "tea" }` reads like a Go composite literal. -/

namespace KubernetesIngress.V1

/-- A Go `map[string]string`, held as its entries in increasing key order: the keys are
    then distinct, and this is the order in which `labels.Set.String` prints them. -/
structure StringMap where
  entries : List (String × String) := []
  sorted : entries.Pairwise (fun a b => a.1 < b.1) := by decide
deriving DecidableEq

instance : Inhabited StringMap := ⟨{}⟩

theorem StringMap.ext : ∀ {a b : StringMap}, a.entries = b.entries → a = b
  | ⟨_, _⟩, ⟨_, _⟩, rfl => rfl

/-- `UpstreamBuffers`: the number and size of the proxy buffers. -/
structure UpstreamBuffers where
  number : Int := 0
  size : String := ""
deriving DecidableEq, Inhabited

/-- `UpstreamTLS`: whether the upstream is reached over TLS. -/
structure UpstreamTLS where
  enable : Bool := false
deriving DecidableEq, Inhabited

/-- `Header`: an HTTP header sent by an active health check. -/
structure Header where
  name : String := ""
  value : String := ""
deriving DecidableEq, Inhabited

/-- `HealthCheck`: the parameters of an active health check (NGINX Plus only). -/
structure HealthCheck where
  enable : Bool := false
  path : String := ""
  interval : String := ""
  jitter : String := ""
  fails : Int := 0
  passes : Int := 0
  port : Int := 0
  tls : Option UpstreamTLS := none
  connectTimeout : String := ""
  readTimeout : String := ""
  sendTimeout : String := ""
  headers : List Header := []
  statusMatch : String := ""
deriving DecidableEq, Inhabited

/-- `SessionCookie`: session persistence (NGINX Plus only). -/
structure SessionCookie where
  enable : Bool := false
  name : String := ""
  path : String := ""
  expires : String := ""
  domain : String := ""
  httpOnly : Bool := false
  secure : Bool := false
deriving DecidableEq, Inhabited

/-- `UpstreamQueue`: the queue of an upstream (NGINX Plus only). -/
structure UpstreamQueue where
  size : Int := 0
  timeout : String := ""
deriving DecidableEq, Inhabited

/-- `Upstream`: a named pool of endpoints of one service, with its tuning fields. -/
structure Upstream where
  name : String := ""
  service : String := ""
  subselector : StringMap := {}
  port : UInt16 := 0
  lbMethod : String := ""
  failTimeout : String := ""
  maxFails : Option Int := none
  maxConns : Option Int := none
  keepalive : Option Int := none
  proxyConnectTimeout : String := ""
  proxyReadTimeout : String := ""
  proxySendTimeout : String := ""
  proxyNextUpstream : String := ""
  proxyNextUpstreamTimeout : String := ""
  proxyNextUpstreamTries : Int := 0
  proxyBuffering : Option Bool := none
  proxyBuffers : Option UpstreamBuffers := none
  proxyBufferSize : String := ""
  clientMaxBodySize : String := ""
  tls : UpstreamTLS := {}
  healthCheck : Option HealthCheck := none
  slowStart : String := ""
  queue : Option UpstreamQueue := none
  sessionCookie : Option SessionCookie := none
deriving DecidableEq, Inhabited

/-- `ActionRedirect`. -/
structure ActionRedirect where
  url : String := ""
  code : Int := 0
deriving DecidableEq, Inhabited

/-- `ActionReturn`. -/
structure ActionReturn where
  code : Int := 0
  type : String := ""
  body : String := ""
deriving DecidableEq, Inhabited

/-- `Action`: pass to an upstream, redirect, or return a canned response. -/
structure Action where
  pass : String := ""
  redirect : Option ActionRedirect := none
  «return» : Option ActionReturn := none
deriving DecidableEq, Inhabited

/-- `Split`: one weighted branch of a traffic split. -/
structure Split where
  weight : Int := 0
  action : Option Action := none
deriving DecidableEq, Inhabited

/-- `Condition`: one test of a match, on a header, a cookie, an argument or a variable. -/
structure Condition where
  header : String := ""
  cookie : String := ""
  argument : String := ""
  «variable» : String := ""
  value : String := ""
deriving DecidableEq, Inhabited

/-- `Match`: a conjunction of conditions and what to do when all of them hold. -/
structure Match where
  conditions : List Condition := []
  action : Option Action := none
  splits : List Split := []
deriving DecidableEq, Inhabited

/-- `Route`: a path and what to do with its requests. -/
structure Route where
  path : String := ""
  route : String := ""
  action : Option Action := none
  splits : List Split := []
  «matches» : List Match := []
deriving DecidableEq, Inhabited

/-- `TLSRedirect`. -/
structure TLSRedirect where
  enable : Bool := false
  code : Option Int := none
  basedOn : String := ""
deriving DecidableEq, Inhabited

/-- `TLS`. -/
structure TLS where
  secret : String := ""
  redirect : Option TLSRedirect := none
deriving DecidableEq, Inhabited

/-- `VirtualServerSpec`. -/
structure VirtualServerSpec where
  host : String := ""
  tls : Option TLS := none
  upstreams : List Upstream := []
  routes : List Route := []
deriving DecidableEq, Inhabited

/-- `VirtualServer`, with the two fields of its `ObjectMeta` that the code reads. -/
structure VirtualServer where
  «namespace» : String := ""
  name : String := ""
  spec : VirtualServerSpec := {}
deriving DecidableEq, Inhabited

/-- `VirtualServerRouteSpec`. -/
structure VirtualServerRouteSpec where
  host : String := ""
  upstreams : List Upstream := []
  subroutes : List Route := []
deriving DecidableEq, Inhabited

/-- `VirtualServerRoute`, with the namespace and name of its `ObjectMeta`. -/
structure VirtualServerRoute where
  «namespace» : String := ""
  name : String := ""
  spec : VirtualServerRouteSpec := {}
deriving DecidableEq, Inhabited

end KubernetesIngress.V1
