import Mathlib.Data.List.Sort
import KubernetesIngress.Configs.Namers
import KubernetesIngress.Configs.Version2

set_option autoImplicit false

/-! # The generator: `GenerateVirtualServerConfig` and its helpers

A model of `internal/configs/virtualserver.go`. The configurator's warnings, which the Go
code appends to in place, are threaded through as state: a helper that may warn returns the
updated configurator. A Go panic (a nil `Action` or `HealthCheck` dereferenced) is `none`:
the functions on the route path return `Option`, and so does `generateVirtualServerConfig`.

The two loops over upstreams and the two loops over routes are each one step function
(`addUpstream`, `addRoute`) run by `List.foldlM`; the Go code repeats the loop body for the
VirtualServer and for its VirtualServerRoutes with a different owner and namer, and the VS
route loop alone skips routes that delegate to a VirtualServerRoute. -/

namespace KubernetesIngress.Configs

open V1 (VirtualServer VirtualServerRoute Route Split Condition)

/-- Modelled from the spec: `ConfigParams`, the fleet-wide defaults. Its declaration is not
    under src/; the fields are the ones the generator reads, at the types it reads them. -/
structure ConfigParams where
  serverTokens : String := ""
  lbMethod : String := ""
  keepalive : Int := 0
  maxFails : Int := 0
  failTimeout : String := ""
  maxConns : Int := 0
  upstreamZoneSize : String := ""
  proxyConnectTimeout : String := ""
  proxyReadTimeout : String := ""
  proxySendTimeout : String := ""
  clientMaxBodySize : String := ""
  proxyMaxTempFileSize : String := ""
  proxyBuffering : Bool := false
  proxyBuffers : String := ""
  proxyBufferSize : String := ""
  locationSnippets : List String := []
  serverSnippets : List String := []
  proxyProtocol : Bool := false
  setRealIPFrom : List String := []
  realIPHeader : String := ""
  realIPRecursive : Bool := false
  http2 : Bool := false
deriving DecidableEq, Inhabited

/-- `nginx502Server`: the address of the server of an upstream with no endpoints (OSS). -/
def nginx502Server : String := "unix:/var/lib/nginx/nginx-502-server.sock"

/-- `incompatibleLBMethodsForSlowStart`. -/
def incompatibleLBMethodsForSlowStart : List String :=
  ["random", "ip_hash", "random two", "random two least_conn", "random two least_time=header",
    "random two least_time=last_byte"]

/-- `VirtualServerEx`: a VirtualServer with the resources it references. The two Go maps are
    lookups: a missing endpoints key reads as the empty list, and `externalNameSvcs` gives
    the stored boolean of a present key. The `TLSSecret` field is read by no modelled
    function. -/
structure VirtualServerEx where
  virtualServer : VirtualServer
  endpoints : String → List String := fun _ => []
  virtualServerRoutes : List VirtualServerRoute := []
  externalNameSvcs : String → Option Bool := fun _ => none

/-- The object a warning is attached to: the key of the Go `Warnings` map. -/
inductive Owner
  | virtualServer («namespace» name : String)
  | virtualServerRoute («namespace» name : String)
deriving DecidableEq

/-- The owner key of a VirtualServer. -/
def Owner.ofVirtualServer (vs : VirtualServer) : Owner := .virtualServer vs.namespace vs.name

/-- The owner key of a VirtualServerRoute. -/
def Owner.ofVirtualServerRoute (vsr : VirtualServerRoute) : Owner :=
  .virtualServerRoute vsr.namespace vsr.name

/-- `virtualServerConfigurator`. Its `warnings` map is the list of (owner, message) pairs in
    the order they were added; the messages of one owner are the Go map's entry for it. -/
structure VirtualServerConfigurator where
  cfgParams : ConfigParams
  isPlus : Bool
  isResolverConfigured : Bool
  warnings : List (Owner × String) := []

namespace VirtualServerConfigurator

/-- `addWarningf`, with the message already formatted. -/
def addWarningf (vsc : VirtualServerConfigurator) (obj : Owner) (msg : String) :
    VirtualServerConfigurator :=
  { vsc with warnings := vsc.warnings ++ [(obj, msg)] }

/-- `clearWarnings`. -/
def clearWarnings (vsc : VirtualServerConfigurator) : VirtualServerConfigurator :=
  { vsc with warnings := [] }

end VirtualServerConfigurator

/-- `newVirtualServerConfigurator`. -/
def newVirtualServerConfigurator (cfgParams : ConfigParams) (isPlus isResolverConfigured : Bool) :
    VirtualServerConfigurator :=
  { cfgParams, isPlus, isResolverConfigured }

/-! ## Keys of the endpoint tables -/

/-- `labels.Set.String`: the `key=value` strings sorted, joined by `,`. -/
def labelsString (subselector : V1.StringMap) : String :=
  ",".intercalate ((subselector.entries.map fun (k, v) => k ++ "=" ++ v).insertionSort
    (fun a b => a ≤ b))

/-- `GenerateEndpointsKey`. -/
def generateEndpointsKey (serviceNamespace serviceName : String) (subselector : V1.StringMap)
    (port : UInt16) : String :=
  if subselector.entries.length > 0 then
    serviceNamespace ++ "/" ++ serviceName ++ "_" ++ labelsString subselector ++ ":" ++
      toString port.toNat
  else serviceNamespace ++ "/" ++ serviceName ++ ":" ++ toString port.toNat

/-- `GenerateExternalNameSvcKey`. -/
def generateExternalNameSvcKey («namespace» service : String) : String :=
  «namespace» ++ "/" ++ service

/-! ## Pointer-or-default helpers -/

/-- `generateLBMethod`. -/
def generateLBMethod (method defaultMethod : String) : String :=
  if method = "" then defaultMethod else if method = "round_robin" then "" else method

/-- `generateIntFromPointer`. -/
def generateIntFromPointer (n : Option Int) (defaultN : Int) : Int :=
  n.getD defaultN

/-- `upstreamHasKeepalive`. -/
def upstreamHasKeepalive (upstream : V1.Upstream) (cfgParams : ConfigParams) : Bool :=
  match upstream.keepalive with
  | some k => k ≠ 0
  | none => cfgParams.keepalive ≠ 0

/-- `generateProxyPassProtocol`. -/
def generateProxyPassProtocol (enableTLS : Bool) : String :=
  if enableTLS then "https" else "http"

/-- `generateString`. -/
def generateString (s defaultS : String) : String :=
  if s = "" then defaultS else s

/-- `generateBuffers`. -/
def generateBuffers (s : Option V1.UpstreamBuffers) (defaultS : String) : String :=
  match s with
  | none => defaultS
  | some b => toString b.number ++ " " ++ b.size

/-- `generateBool`. -/
def generateBool (s : Option Bool) (defaultS : Bool) : Bool :=
  s.getD defaultS

/-! ## Upstreams, health checks, session cookies, queues -/

namespace VirtualServerConfigurator

variable (vsc : VirtualServerConfigurator)

/-- `generateEndpointsForUpstream`. -/
def generateEndpointsForUpstream (owner : Owner) («namespace» : String) (upstream : V1.Upstream)
    (virtualServerEx : VirtualServerEx) : List String × VirtualServerConfigurator :=
  let endpointsKey := generateEndpointsKey «namespace» upstream.service upstream.subselector
    upstream.port
  let externalNameSvcKey := generateExternalNameSvcKey «namespace» upstream.service
  let endpoints := virtualServerEx.endpoints endpointsKey
  if !vsc.isPlus && endpoints.length = 0 then ([nginx502Server], vsc)
  else if (virtualServerEx.externalNameSvcs externalNameSvcKey).isSome &&
      !vsc.isResolverConfigured then
    ([], vsc.addWarningf owner ("Type ExternalName service " ++ upstream.service ++
      " in upstream " ++ upstream.name ++ " will be ignored. To use ExternaName services, " ++
      "a resolver must be configured in the ConfigMap"))
  else (endpoints, vsc)

/-- `generateSlowStartForPlus`. -/
def generateSlowStartForPlus (owner : Owner) (upstream : V1.Upstream) (lbMethod : String) :
    String × VirtualServerConfigurator :=
  if upstream.slowStart = "" then ("", vsc)
  else if lbMethod ∈ incompatibleLBMethodsForSlowStart || Go.hasPrefix lbMethod "hash" then
    ("", vsc.addWarningf owner ("Slow start will be disabled for upstream " ++ upstream.name ++
      " because lb method '" ++ lbMethod ++ "' is incompatible with slow start"))
  else (upstream.slowStart, vsc)

end VirtualServerConfigurator

/-- `generateQueueForPlus`. -/
def generateQueueForPlus (upstreamQueue : Option V1.UpstreamQueue) (defaultTimeout : String) :
    Option Version2.Queue :=
  upstreamQueue.map fun q => { size := q.size, timeout := generateString q.timeout defaultTimeout }

/-- `generateSessionCookie`. -/
def generateSessionCookie (sc : Option V1.SessionCookie) : Option Version2.SessionCookie :=
  match sc with
  | some sc =>
    if sc.enable then
      some { enable := true, name := sc.name, path := sc.path, expires := sc.expires,
             domain := sc.domain, httpOnly := sc.httpOnly, secure := sc.secure }
    else none
  | none => none

/-- `generateUpstream`. -/
def VirtualServerConfigurator.generateUpstream (vsc : VirtualServerConfigurator) (owner : Owner)
    (upstreamName : String) (upstream : V1.Upstream) (isExternalNameSvc : Bool)
    (endpoints : List String) : Version2.Upstream × VirtualServerConfigurator :=
  let lbMethod := generateLBMethod upstream.lbMethod vsc.cfgParams.lbMethod
  let ups : Version2.Upstream :=
    { name := upstreamName
      servers := endpoints.map fun e => { address := e }
      resolve := isExternalNameSvc
      lbMethod
      keepalive := generateIntFromPointer upstream.keepalive vsc.cfgParams.keepalive
      maxFails := generateIntFromPointer upstream.maxFails vsc.cfgParams.maxFails
      failTimeout := generateString upstream.failTimeout vsc.cfgParams.failTimeout
      maxConns := generateIntFromPointer upstream.maxConns vsc.cfgParams.maxConns
      upstreamZoneSize := vsc.cfgParams.upstreamZoneSize }
  if vsc.isPlus then
    let (slowStart, vsc) := vsc.generateSlowStartForPlus owner upstream lbMethod
    ({ ups with
        slowStart
        queue := generateQueueForPlus upstream.queue "60s"
        sessionCookie := generateSessionCookie upstream.sessionCookie }, vsc)
  else (ups, vsc)

/-- `newHealthCheckWithDefaults`. -/
def newHealthCheckWithDefaults (upstream : V1.Upstream) (upstreamName : String)
    (cfgParams : ConfigParams) : Version2.HealthCheck :=
  { name := upstreamName, uri := "/", interval := "5s", jitter := "0s", fails := 1, passes := 1,
    port := upstream.port.toNat
    proxyPass := generateProxyPassProtocol upstream.tls.enable ++ "://" ++ upstreamName
    proxyConnectTimeout := generateString upstream.proxyConnectTimeout cfgParams.proxyConnectTimeout
    proxyReadTimeout := generateString upstream.proxyReadTimeout cfgParams.proxyReadTimeout
    proxySendTimeout := generateString upstream.proxySendTimeout cfgParams.proxySendTimeout
    headers := [] }

/-- `hc.Headers[name] = value` on the Go map of health-check headers. -/
def setHeader (headers : List (String × String)) (name value : String) : List (String × String) :=
  if headers.any (·.1 = name) then headers.map fun h => if h.1 = name then (name, value) else h
  else headers ++ [(name, value)]

/-- `generateStatusMatchName`. -/
def generateStatusMatchName (upstreamName : String) : String :=
  upstreamName ++ "_match"

/-- `generateUpstreamStatusMatch`. -/
def generateUpstreamStatusMatch (upstreamName status : String) : Version2.StatusMatch :=
  { name := generateStatusMatchName upstreamName, code := status }

/-- `generateHealthCheck`: `none` is the nil result for an absent or disabled check. -/
def generateHealthCheck (upstream : V1.Upstream) (upstreamName : String)
    (cfgParams : ConfigParams) : Option Version2.HealthCheck :=
  match upstream.healthCheck with
  | none => none
  | some hc =>
    if !hc.enable then none else
    let d := newHealthCheckWithDefaults upstream upstreamName cfgParams
    some { d with
      uri := if hc.path ≠ "" then hc.path else d.uri
      interval := if hc.interval ≠ "" then hc.interval else d.interval
      jitter := if hc.jitter ≠ "" then hc.jitter else d.jitter
      fails := if hc.fails > 0 then hc.fails else d.fails
      passes := if hc.passes > 0 then hc.passes else d.passes
      port := if hc.port > 0 then hc.port else d.port
      proxyConnectTimeout := if hc.connectTimeout ≠ "" then hc.connectTimeout
        else d.proxyConnectTimeout
      proxyReadTimeout := if hc.readTimeout ≠ "" then hc.readTimeout else d.proxyReadTimeout
      proxySendTimeout := if hc.sendTimeout ≠ "" then hc.sendTimeout else d.proxySendTimeout
      headers := hc.headers.foldl (fun hs h => setHeader hs h.name h.value) d.headers
      proxyPass := match hc.tls with
        | some tls => generateProxyPassProtocol tls.enable ++ "://" ++ upstreamName
        | none => d.proxyPass
      «match» := if hc.statusMatch ≠ "" then generateStatusMatchName upstreamName else d.match }

/-! ## SSL and TLS redirect -/

/-- `generateSSLConfig`. The sentinel `pemFileNameForMissingTLSSecret` is a constant that is
    not under src/, so it is a parameter. -/
def generateSSLConfig (pemFileNameForMissingTLSSecret : String) (tls : Option V1.TLS)
    (tlsPemFileName : String) (cfgParams : ConfigParams) : Option Version2.SSL :=
  match tls with
  | none => none
  | some tls =>
    if tls.secret = "" then none else
    let (name, ciphers) :=
      if tlsPemFileName ≠ "" then (tlsPemFileName, "") else (pemFileNameForMissingTLSSecret, "NULL")
    some { http2 := cfgParams.http2, certificate := name, certificateKey := name, ciphers }

/-- `generateTLSRedirectBasedOn`. -/
def generateTLSRedirectBasedOn (basedOn : String) : String :=
  if basedOn = "x-forwarded-proto" then "$http_x_forwarded_proto" else "$scheme"

/-- `generateTLSRedirectConfig`. -/
def generateTLSRedirectConfig (tls : Option V1.TLS) : Option Version2.TLSRedirect :=
  match tls with
  | some { redirect := some redirect, .. } =>
    if redirect.enable then
      some { code := generateIntFromPointer redirect.code 301
             basedOn := generateTLSRedirectBasedOn redirect.basedOn }
    else none
  | _ => none

/-! ## Locations -/

/-- `generatePath`: a regular expression is wrapped in double quotes. -/
def generatePath (path : String) : String :=
  if Go.hasPrefix path "~*" then "~* \"" ++ Go.trimPrefix (Go.trimPrefix path "~*") " " ++ "\""
  else if Go.hasPrefix path "~" then "~ \"" ++ Go.trimPrefix (Go.trimPrefix path "~") " " ++ "\""
  else path

/-- `generateReturnBlock`. -/
def generateReturnBlock (text : String) (code defaultCode : Int) : Version2.Return :=
  { code := if code ≠ 0 then code else defaultCode, text }

/-- `generateLocationForProxying`. -/
def generateLocationForProxying (path upstreamName : String) (upstream : V1.Upstream)
    (cfgParams : ConfigParams) : Version2.Location :=
  { path := generatePath path
    snippets := cfgParams.locationSnippets
    proxyConnectTimeout := generateString upstream.proxyConnectTimeout cfgParams.proxyConnectTimeout
    proxyReadTimeout := generateString upstream.proxyReadTimeout cfgParams.proxyReadTimeout
    proxySendTimeout := generateString upstream.proxySendTimeout cfgParams.proxySendTimeout
    clientMaxBodySize := generateString upstream.clientMaxBodySize cfgParams.clientMaxBodySize
    proxyMaxTempFileSize := cfgParams.proxyMaxTempFileSize
    proxyBuffering := generateBool upstream.proxyBuffering cfgParams.proxyBuffering
    proxyBuffers := generateBuffers upstream.proxyBuffers cfgParams.proxyBuffers
    proxyBufferSize := generateString upstream.proxyBufferSize cfgParams.proxyBufferSize
    proxyPass := generateProxyPassProtocol upstream.tls.enable ++ "://" ++ upstreamName
    proxyNextUpstream := generateString upstream.proxyNextUpstream "error timeout"
    proxyNextUpstreamTimeout := generateString upstream.proxyNextUpstreamTimeout "0s"
    proxyNextUpstreamTries := upstream.proxyNextUpstreamTries
    hasKeepalive := upstreamHasKeepalive upstream cfgParams }

/-- `generateLocationForReturnBlock`. -/
def generateLocationForReturnBlock (path : String) (locationSnippets : List String)
    (r : Version2.Return) (defaultType : String) : Version2.Location :=
  { path, snippets := locationSnippets, defaultType, «return» := some r }

/-- `generateLocation`, for a non-nil action. -/
def generateLocation (path upstreamName : String) (upstream : V1.Upstream) (action : V1.Action)
    (cfgParams : ConfigParams) : Version2.Location :=
  match action.redirect, action.return with
  | some redirect, _ =>
    generateLocationForReturnBlock path cfgParams.locationSnippets
      (generateReturnBlock redirect.url redirect.code 301) ""
  | none, some ret =>
    generateLocationForReturnBlock path cfgParams.locationSnippets
      (generateReturnBlock ret.body ret.code 200) (if ret.type = "" then "text/plain" else ret.type)
  | none, none => generateLocationForProxying path upstreamName upstream cfgParams

/-- The location of one action at `path`, named by `upstreamNamer` and looked up in
    `crUpstreams`: the Go lines `upstreamName := upstreamNamer.GetNameForUpstream(a.Pass)`,
    `upstream := crUpstreams[upstreamName]` and `generateLocation(...)`. A nil action is
    dereferenced there, a panic. -/
def generateActionLocation (path : String) (upstreamNamer : UpstreamNamer)
    (crUpstreams : String → V1.Upstream) (action : Option V1.Action) (cfgParams : ConfigParams) :
    Option Version2.Location :=
  action.map fun a =>
    let upstreamName := upstreamNamer.getNameForUpstream a.pass
    generateLocation path upstreamName (crUpstreams upstreamName) a cfgParams

/-! ## Routing: splits and matches -/

/-- `routingCfg`. -/
structure RoutingCfg where
  maps : List Version2.Map := []
  splitClients : List Version2.SplitClient := []
  locations : List Version2.Location := []
  internalRedirectLocation : Version2.InternalRedirectLocation := {}

/-- The path of the named location of split `i` of split client `scIndex`. -/
def splitLocationPath (scIndex i : Nat) : String :=
  "@splits_" ++ toString scIndex ++ "_split_" ++ toString i

/-- The first loop of `generateSplits`, from split `i` on: one distribution per split. -/
def generateDistributions (scIndex : Nat) : Nat → List Split → List Version2.Distribution
  | _, [] => []
  | i, s :: rest =>
    { weight := toString s.weight ++ "%", value := splitLocationPath scIndex i } ::
      generateDistributions scIndex (i + 1) rest

/-- The second loop of `generateSplits`, from split `i` on: one named location per split. -/
def generateSplitLocations (upstreamNamer : UpstreamNamer) (crUpstreams : String → V1.Upstream)
    (scIndex : Nat) (cfgParams : ConfigParams) : Nat → List Split → Option (List Version2.Location)
  | _, [] => some []
  | i, s :: rest => do
    let loc ← generateActionLocation (splitLocationPath scIndex i) upstreamNamer crUpstreams
      s.action cfgParams
    let locs ← generateSplitLocations upstreamNamer crUpstreams scIndex cfgParams (i + 1) rest
    pure (loc :: locs)

/-- `generateSplits`. -/
def generateSplits (splits : List Split) (upstreamNamer : UpstreamNamer)
    (crUpstreams : String → V1.Upstream) (variableNamer : VariableNamer) (scIndex : Nat)
    (cfgParams : ConfigParams) : Option (Version2.SplitClient × List Version2.Location) := do
  let splitClient : Version2.SplitClient :=
    { source := "$request_id"
      «variable» := variableNamer.getNameForSplitClientVariable scIndex
      distributions := generateDistributions scIndex 0 splits }
  let locations ← generateSplitLocations upstreamNamer crUpstreams scIndex cfgParams 0 splits
  pure (splitClient, locations)

/-- `generateDefaultSplitsConfig`. -/
def generateDefaultSplitsConfig (route : Route) (upstreamNamer : UpstreamNamer)
    (crUpstreams : String → V1.Upstream) (variableNamer : VariableNamer) (scIndex : Nat)
    (cfgParams : ConfigParams) : Option RoutingCfg := do
  let (sc, locs) ← generateSplits route.splits upstreamNamer crUpstreams variableNamer scIndex
    cfgParams
  let splitClientVarName := variableNamer.getNameForSplitClientVariable scIndex
  pure { splitClients := [sc], locations := locs
         internalRedirectLocation := { path := route.path, destination := splitClientVarName } }

/-- `specialMapParameters`. -/
def specialMapParameters : List String := ["default", "hostnames", "include", "volatile"]

/-- `generateValueForMatchesRouteMap`: the map key for a condition value, and whether the
    condition is negated (a leading `!`). -/
def generateValueForMatchesRouteMap (matchedValue : String) : String × Bool :=
  match matchedValue.data with
  | [] => ("\"\"", false)
  | c :: rest =>
    let (isNegative, matchedValue) := if c = '!' then (true, String.mk rest) else (false, matchedValue)
    if matchedValue ∈ specialMapParameters then ("\\" ++ matchedValue, isNegative)
    else ("\"" ++ matchedValue ++ "\"", isNegative)

/-- `generateParametersForMatchesRouteMap`. -/
def generateParametersForMatchesRouteMap (matchedValue successfulResult : String) :
    List Version2.Parameter :=
  let (value, isNegative) := generateValueForMatchesRouteMap matchedValue
  let (valueResult, defaultResult) :=
    if isNegative then ("0", successfulResult) else (successfulResult, "0")
  [{ value, result := valueResult }, { value := "default", result := defaultResult }]

/-- `getNameForSourceForMatchesRouteMapFromCondition`. -/
def getNameForSourceForMatchesRouteMapFromCondition (condition : Condition) : String :=
  if condition.header ≠ "" then "$http_" ++ Go.replaceAll condition.header '-' '_'
  else if condition.cookie ≠ "" then "$cookie_" ++ condition.cookie
  else if condition.argument ≠ "" then "$arg_" ++ condition.argument
  else condition.variable

/-- The inner loop of the first loop of `generateMatchesConfig`: the map of condition `j`
    of match `i` (of `n` conditions), and the maps of the conditions after it. -/
def generateConditionMaps (variableNamer : VariableNamer) (index i n : Nat) :
    Nat → List Condition → List Version2.Map
  | _, [] => []
  | j, c :: rest =>
    let successfulResult :=
      if j < n - 1 then variableNamer.getNameForVariableForMatchesRouteMap index i (j + 1) else "1"
    { source := getNameForSourceForMatchesRouteMapFromCondition c
      «variable» := variableNamer.getNameForVariableForMatchesRouteMap index i j
      parameters := generateParametersForMatchesRouteMap c.value successfulResult } ::
      generateConditionMaps variableNamer index i n (j + 1) rest

/-- The first loop of `generateMatchesConfig`, from match `i` on: the chains of
    per-condition maps. -/
def generateMatchMaps (variableNamer : VariableNamer) (index : Nat) :
    Nat → List V1.Match → List Version2.Map
  | _, [] => []
  | i, m :: rest =>
    generateConditionMaps variableNamer index i m.conditions.length 0 m.conditions ++
      generateMatchMaps variableNamer index (i + 1) rest

/-- The path of the named location of match `i` of matches route `index`. -/
def matchLocationPath (index i : Nat) : String :=
  "@matches_" ++ toString index ++ "_match_" ++ toString i

/-- The path of the default named location of matches route `index`. -/
def defaultLocationPath (index : Nat) : String :=
  "@matches_" ++ toString index ++ "_default"

/-- The second loop of `generateMatchesConfig`, from match `i` on with `scLocalIndex` split
    clients counted so far: the main map's source, its `~^0…01` parameters, and the counter
    at the end. -/
def generateMainMapParameters (variableNamer : VariableNamer) (index scIndex : Nat) :
    Nat → Nat → List V1.Match → String × List Version2.Parameter × Nat
  | _, scLocalIndex, [] => ("", [], scLocalIndex)
  | i, scLocalIndex, m :: rest =>
    let v := "~^" ++ String.mk (List.replicate i '0') ++ "1"
    let (r, scLocalIndex') :=
      if m.splits.length > 0 then
        (variableNamer.getNameForSplitClientVariable (scIndex + scLocalIndex), scLocalIndex + 1)
      else (matchLocationPath index i, scLocalIndex)
    let (source, params, scEnd) := generateMainMapParameters variableNamer index scIndex (i + 1)
      scLocalIndex' rest
    (variableNamer.getNameForVariableForMatchesRouteMap index i 0 ++ source,
      { value := v, result := r } :: params, scEnd)

/-- The third loop of `generateMatchesConfig`, from match `i` on with `scLocalIndex` split
    clients counted so far: the named locations and split clients of the matches. -/
def generateMatchLocations (upstreamNamer : UpstreamNamer) (crUpstreams : String → V1.Upstream)
    (variableNamer : VariableNamer) (index scIndex : Nat) (cfgParams : ConfigParams) :
    Nat → Nat → List V1.Match →
      Option (List Version2.Location × List Version2.SplitClient × Nat)
  | _, scLocalIndex, [] => some ([], [], scLocalIndex)
  | i, scLocalIndex, m :: rest => do
    if m.splits.length > 0 then
      let (sc, locs) ← generateSplits m.splits upstreamNamer crUpstreams variableNamer
        (scIndex + scLocalIndex) cfgParams
      let (locations, splitClients, scEnd) ← generateMatchLocations upstreamNamer crUpstreams
        variableNamer index scIndex cfgParams (i + 1) (scLocalIndex + 1) rest
      pure (locs ++ locations, sc :: splitClients, scEnd)
    else
      let loc ← generateActionLocation (matchLocationPath index i) upstreamNamer crUpstreams
        m.action cfgParams
      let (locations, splitClients, scEnd) ← generateMatchLocations upstreamNamer crUpstreams
        variableNamer index scIndex cfgParams (i + 1) scLocalIndex rest
      pure (loc :: locations, splitClients, scEnd)

/-- `generateMatchesConfig`. -/
def generateMatchesConfig (route : Route) (upstreamNamer : UpstreamNamer)
    (crUpstreams : String → V1.Upstream) (variableNamer : VariableNamer) (index scIndex : Nat)
    (cfgParams : ConfigParams) : Option RoutingCfg := do
  let (source, params, scLocalIndex) :=
    generateMainMapParameters variableNamer index scIndex 0 0 route.matches
  let defaultResult :=
    if route.splits.length > 0 then
      variableNamer.getNameForSplitClientVariable (scIndex + scLocalIndex)
    else defaultLocationPath index
  let «variable» := variableNamer.getNameForVariableForMatchesRouteMainMap index
  let mainMap : Version2.Map :=
    { source, «variable», parameters := params ++ [{ value := "default", result := defaultResult }] }
  let (locations, splitClients, scLocalIndex) ← generateMatchLocations upstreamNamer crUpstreams
    variableNamer index scIndex cfgParams 0 0 route.matches
  let (locations, splitClients) ←
    if route.splits.length > 0 then do
      let (sc, locs) ← generateSplits route.splits upstreamNamer crUpstreams variableNamer
        (scIndex + scLocalIndex) cfgParams
      pure (locations ++ locs, splitClients ++ [sc])
    else do
      let loc ← generateActionLocation (defaultLocationPath index) upstreamNamer crUpstreams
        route.action cfgParams
      pure (locations ++ [loc], splitClients)
  pure { maps := generateMatchMaps variableNamer index 0 route.matches ++ [mainMap]
         locations, splitClients
         internalRedirectLocation := { path := route.path, destination := «variable» } }

/-! ## `GenerateVirtualServerConfig` -/

/-- The accumulators of the upstream loops of `GenerateVirtualServerConfig`. -/
structure UpstreamsState where
  vsc : VirtualServerConfigurator
  upstreams : List Version2.Upstream := []
  statusMatches : List Version2.StatusMatch := []
  healthChecks : List Version2.HealthCheck := []
  crUpstreams : String → V1.Upstream := fun _ => default

/-- The body of the upstream loops: upstream `u` of the resource `owner` in `namespace`,
    named by `upstreamNamer`. Reading `u.HealthCheck.StatusMatch` dereferences the health
    check, a panic if it is nil. -/
def addUpstream (virtualServerEx : VirtualServerEx) (owner : Owner) (upstreamNamer : UpstreamNamer)
    («namespace» : String) (st : UpstreamsState) (u : V1.Upstream) : Option UpstreamsState :=
  let upstreamName := upstreamNamer.getNameForUpstream u.name
  let (endpoints, vsc) := st.vsc.generateEndpointsForUpstream owner «namespace» u virtualServerEx
  let isExternalNameSvc :=
    (virtualServerEx.externalNameSvcs (generateExternalNameSvcKey «namespace» u.service)).isSome
  let (ups, vsc) := vsc.generateUpstream owner upstreamName u isExternalNameSvc endpoints
  let st := { st with vsc, upstreams := st.upstreams ++ [ups]
                      crUpstreams := fun k => if k = upstreamName then u else st.crUpstreams k }
  match generateHealthCheck u upstreamName vsc.cfgParams with
  | none => some st
  | some hc =>
    match u.healthCheck with
    | none => none
    | some h =>
      some { st with
        healthChecks := st.healthChecks ++ [hc]
        statusMatches := if h.statusMatch ≠ "" then
            st.statusMatches ++ [generateUpstreamStatusMatch upstreamName h.statusMatch]
          else st.statusMatches }

/-- The accumulators of the route loops of `GenerateVirtualServerConfig`. -/
structure RoutesState where
  locations : List Version2.Location := []
  internalRedirectLocations : List Version2.InternalRedirectLocation := []
  splitClients : List Version2.SplitClient := []
  maps : List Version2.Map := []
  matchesRoutes : Nat := 0

/-- The body of the route loops: lower route `r` with `upstreamNamer`, numbering its split
    clients from `len(splitClients)` and its matches from `matchesRoutes`. -/
def addRoute (upstreamNamer : UpstreamNamer) (crUpstreams : String → V1.Upstream)
    (variableNamer : VariableNamer) (cfgParams : ConfigParams) (st : RoutesState) (r : Route) :
    Option RoutesState :=
  if r.matches.length > 0 then
    (generateMatchesConfig r upstreamNamer crUpstreams variableNamer st.matchesRoutes
      st.splitClients.length cfgParams).map fun cfg =>
      { maps := st.maps ++ cfg.maps
        locations := st.locations ++ cfg.locations
        internalRedirectLocations := st.internalRedirectLocations ++ [cfg.internalRedirectLocation]
        splitClients := st.splitClients ++ cfg.splitClients
        matchesRoutes := st.matchesRoutes + 1 }
  else if r.splits.length > 0 then
    (generateDefaultSplitsConfig r upstreamNamer crUpstreams variableNamer st.splitClients.length
      cfgParams).map fun cfg =>
      { st with
        splitClients := st.splitClients ++ cfg.splitClients
        locations := st.locations ++ cfg.locations
        internalRedirectLocations := st.internalRedirectLocations ++ [cfg.internalRedirectLocation] }
  else
    (generateActionLocation r.path upstreamNamer crUpstreams r.action cfgParams).map fun loc =>
      { st with locations := st.locations ++ [loc] }

/-- The body of the VirtualServer route loop: a route that references a VirtualServerRoute
    is skipped. -/
def addVirtualServerRoute (upstreamNamer : UpstreamNamer) (crUpstreams : String → V1.Upstream)
    (variableNamer : VariableNamer) (cfgParams : ConfigParams) (st : RoutesState) (r : Route) :
    Option RoutesState :=
  if r.route ≠ "" then some st else addRoute upstreamNamer crUpstreams variableNamer cfgParams st r

/-- `GenerateVirtualServerConfig`: the configuration and the warnings, or `none` where the Go
    code panics. -/
def VirtualServerConfigurator.generateVirtualServerConfig (vsc : VirtualServerConfigurator)
    (pemFileNameForMissingTLSSecret : String) (virtualServerEx : VirtualServerEx)
    (tlsPemFileName : String) : Option (Version2.VirtualServerConfig × List (Owner × String)) := do
  let vsc := vsc.clearWarnings
  let vs := virtualServerEx.virtualServer
  let ssl := generateSSLConfig pemFileNameForMissingTLSSecret vs.spec.tls tlsPemFileName vsc.cfgParams
  let tlsRedirectConfig := generateTLSRedirectConfig vs.spec.tls
  let virtualServerUpstreamNamer := newUpstreamNamerForVirtualServer vs
  let ups ← vs.spec.upstreams.foldlM
    (addUpstream virtualServerEx (Owner.ofVirtualServer vs) virtualServerUpstreamNamer vs.namespace)
    { vsc }
  let ups ← virtualServerEx.virtualServerRoutes.foldlM (fun ups vsr =>
    vsr.spec.upstreams.foldlM (addUpstream virtualServerEx (Owner.ofVirtualServerRoute vsr)
      (newUpstreamNamerForVirtualServerRoute vs vsr) vsr.namespace) ups) ups
  let variableNamer := newVariableNamer vs
  let rs ← vs.spec.routes.foldlM
    (addVirtualServerRoute virtualServerUpstreamNamer ups.crUpstreams variableNamer vsc.cfgParams) {}
  let rs ← virtualServerEx.virtualServerRoutes.foldlM (fun rs vsr =>
    vsr.spec.subroutes.foldlM (addRoute (newUpstreamNamerForVirtualServerRoute vs vsr)
      ups.crUpstreams variableNamer vsc.cfgParams) rs) rs
  pure ({ upstreams := ups.upstreams, splitClients := rs.splitClients, maps := rs.maps
          statusMatches := ups.statusMatches
          server :=
            { serverName := vs.spec.host, statusZone := vs.spec.host
              proxyProtocol := vsc.cfgParams.proxyProtocol, ssl
              serverTokens := vsc.cfgParams.serverTokens
              setRealIPFrom := vsc.cfgParams.setRealIPFrom
              realIPHeader := vsc.cfgParams.realIPHeader
              realIPRecursive := vsc.cfgParams.realIPRecursive
              snippets := vsc.cfgParams.serverSnippets
              internalRedirectLocations := rs.internalRedirectLocations
              locations := rs.locations, healthChecks := ups.healthChecks
              tlsRedirect := tlsRedirectConfig } },
    ups.vsc.warnings)

/-! ## The NGINX Plus API -/

/-- `createEndpointsFromUpstream`. -/
def createEndpointsFromUpstream (upstream : Version2.Upstream) : List String :=
  upstream.servers.map (·.address)

/-- The body of the upstream loops of `createUpstreamsForPlus`: upstream `u` of the resource
    `owner` in `namespace` is skipped when `ExternalNameSvcs` holds `true` under its key (a
    missing key reads as `false`), and is otherwise built from the endpoints stored under its
    endpoints key. The configurator is threaded through for the warnings it collects. -/
def addUpstreamForPlus (virtualServerEx : VirtualServerEx) (owner : Owner)
    (upstreamNamer : UpstreamNamer) («namespace» : String)
    (acc : VirtualServerConfigurator × List Version2.Upstream) (u : V1.Upstream) :
    VirtualServerConfigurator × List Version2.Upstream :=
  let isExternalNameSvc :=
    (virtualServerEx.externalNameSvcs (generateExternalNameSvcKey «namespace» u.service)).getD false
  if isExternalNameSvc then acc
  else
    let upstreamName := upstreamNamer.getNameForUpstream u.name
    let endpointsKey := generateEndpointsKey «namespace» u.service u.subselector u.port
    let endpoints := virtualServerEx.endpoints endpointsKey
    let (ups, vsc) := acc.1.generateUpstream owner upstreamName u isExternalNameSvc endpoints
    (vsc, acc.2 ++ [ups])

/-- `createUpstreamsForPlus`: the upstreams whose endpoints are pushed through the NGINX Plus
    API, built by a Plus configurator with no resolver. -/
def createUpstreamsForPlus (virtualServerEx : VirtualServerEx) (baseCfgParams : ConfigParams) :
    List Version2.Upstream :=
  let vs := virtualServerEx.virtualServer
  let vsc := newVirtualServerConfigurator baseCfgParams true false
  let acc := vs.spec.upstreams.foldl (addUpstreamForPlus virtualServerEx (Owner.ofVirtualServer vs)
    (newUpstreamNamerForVirtualServer vs) vs.namespace) (vsc, [])
  (virtualServerEx.virtualServerRoutes.foldl (fun acc vsr =>
    vsr.spec.upstreams.foldl (addUpstreamForPlus virtualServerEx (Owner.ofVirtualServerRoute vsr)
      (newUpstreamNamerForVirtualServerRoute vs vsr) vsr.namespace) acc) acc).2

end KubernetesIngress.Configs
