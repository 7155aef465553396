import Mathlib.Data.List.Basic

set_option autoImplicit false

/-! # The generated configuration (`version2`)

The output of the generator and the input of the NGINX template: upstreams, `split_clients`
blocks, `map` blocks, status matches and one server with its locations. The declarations
mirror `internal/configs/version2`; Go's `map[string]string` of health-check headers is an
association list here, updated by `setHeader` in the generator. -/

namespace KubernetesIngress.Version2

/-- `UpstreamServer`. -/
structure UpstreamServer where
  address : String := ""
deriving DecidableEq, Inhabited

/-- `Queue`. -/
structure Queue where
  size : Int := 0
  timeout : String := ""
deriving DecidableEq, Inhabited

/-- `SessionCookie`. -/
structure SessionCookie where
  enable : Bool := false
  name : String := ""
  path : String := ""
  expires : String := ""
  domain : String := ""
  httpOnly : Bool := false
  secure : Bool := false
deriving DecidableEq, Inhabited

/-- `Upstream`: an `upstream` block. -/
structure Upstream where
  name : String := ""
  servers : List UpstreamServer := []
  lbMethod : String := ""
  resolve : Bool := false
  keepalive : Int := 0
  maxFails : Int := 0
  maxConns : Int := 0
  slowStart : String := ""
  failTimeout : String := ""
  upstreamZoneSize : String := ""
  queue : Option Queue := none
  sessionCookie : Option SessionCookie := none
deriving DecidableEq, Inhabited

/-- `SSL`. -/
structure SSL where
  http2 : Bool := false
  certificate : String := ""
  certificateKey : String := ""
  ciphers : String := ""
deriving DecidableEq, Inhabited

/-- `Return`: a `return` directive for redirects and canned responses. -/
structure Return where
  code : Int := 0
  text : String := ""
deriving DecidableEq, Inhabited

/-- `Location`: a `location` block, proxying or returning. -/
structure Location where
  path : String := ""
  snippets : List String := []
  proxyConnectTimeout : String := ""
  proxyReadTimeout : String := ""
  proxySendTimeout : String := ""
  clientMaxBodySize : String := ""
  proxyMaxTempFileSize : String := ""
  proxyBuffering : Bool := false
  proxyBuffers : String := ""
  proxyBufferSize : String := ""
  proxyPass : String := ""
  proxyNextUpstream : String := ""
  proxyNextUpstreamTimeout : String := ""
  proxyNextUpstreamTries : Int := 0
  hasKeepalive : Bool := false
  defaultType : String := ""
  «return» : Option Return := none
deriving DecidableEq, Inhabited

/-- `Distribution`: one `weight% value` line of a `split_clients` block. -/
structure Distribution where
  weight : String := ""
  value : String := ""
deriving DecidableEq, Inhabited

/-- `SplitClient`: a `split_clients` block. -/
structure SplitClient where
  source : String := ""
  «variable» : String := ""
  distributions : List Distribution := []
deriving DecidableEq, Inhabited

/-- `HealthCheck`: a `health_check` directive with its own location. -/
structure HealthCheck where
  name : String := ""
  uri : String := ""
  interval : String := ""
  jitter : String := ""
  fails : Int := 0
  passes : Int := 0
  port : Int := 0
  proxyPass : String := ""
  proxyConnectTimeout : String := ""
  proxyReadTimeout : String := ""
  proxySendTimeout : String := ""
  headers : List (String × String) := []
  «match» : String := ""
deriving DecidableEq, Inhabited

/-- `TLSRedirect`. -/
structure TLSRedirect where
  code : Int := 0
  basedOn : String := ""
deriving DecidableEq, Inhabited

/-- `InternalRedirectLocation`: a location that jumps to the value of a variable. -/
structure InternalRedirectLocation where
  path : String := ""
  destination : String := ""
deriving DecidableEq, Inhabited

/-- `Parameter`: one `value result` line of a `map` block. -/
structure Parameter where
  value : String := ""
  result : String := ""
deriving DecidableEq, Inhabited

/-- `Map`: a `map` block. -/
structure Map where
  source : String := ""
  «variable» : String := ""
  parameters : List Parameter := []
deriving DecidableEq, Inhabited

/-- `StatusMatch`: a `match` block for health-check status codes. -/
structure StatusMatch where
  name : String := ""
  code : String := ""
deriving DecidableEq, Inhabited

/-- `Server`: the `server` block. -/
structure Server where
  serverName : String := ""
  statusZone : String := ""
  proxyProtocol : Bool := false
  ssl : Option SSL := none
  serverTokens : String := ""
  realIPHeader : String := ""
  setRealIPFrom : List String := []
  realIPRecursive : Bool := false
  snippets : List String := []
  internalRedirectLocations : List InternalRedirectLocation := []
  locations : List Location := []
  healthChecks : List HealthCheck := []
  tlsRedirect : Option TLSRedirect := none
deriving DecidableEq, Inhabited

/-- `VirtualServerConfig`: everything the template renders for one VirtualServer. -/
structure VirtualServerConfig where
  server : Server := {}
  upstreams : List Upstream := []
  splitClients : List SplitClient := []
  maps : List Map := []
  statusMatches : List StatusMatch := []
deriving DecidableEq, Inhabited

end KubernetesIngress.Version2
