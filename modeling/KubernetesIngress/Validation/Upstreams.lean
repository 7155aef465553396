import KubernetesIngress.Api.V1
import KubernetesIngress.Go.Strings
import KubernetesIngress.Validation.Grammars

set_option autoImplicit false

/-! # The validator, part 1: errors, hosts, TLS and upstreams

A model of the first half of `pkg/apis/configuration/validation/validation.go`: the error
values of `k8s.io/apimachinery/pkg/util/validation/field`, and every check of the host, the
TLS block and the upstreams, down to `validateUpstreams`, which also returns the set of
upstream names the routes may pass to.

Three checks come from code that is not under src/: `configs.ParseTime`,
`configs.ParseLBMethod` and `configs.ParseLBMethodForPlus` (and, for routes, Go's
`regexp.Compile`). They are the fields of `Parsers`, a parameter of every check that calls
them, so that everything proved here holds whatever those parsers accept. -/

namespace KubernetesIngress.Validation

open V1

/-! ## `field.Path` and `field.Error` -/

/-- `field.Path`, as the string it prints (`spec.routes[2].matches[0]`). -/
structure Path where
  str : String
deriving DecidableEq

/-- `field.NewPath`. -/
def Path.new (name : String) : Path := ⟨name⟩

/-- `Path.Child`. -/
def Path.child (p : Path) (name : String) : Path := ⟨p.str ++ "." ++ name⟩

/-- `Path.Index`. -/
def Path.index (p : Path) (i : Nat) : Path := ⟨p.str ++ "[" ++ toString i ++ "]"⟩

/-- `field.ErrorType`. -/
inductive ErrorType
  | required | invalid | duplicate | notFound | forbidden
deriving DecidableEq

/-- The bad value of a `field.Error`: the code passes strings and integers. -/
inductive BadValue
  | str (s : String)
  | int (n : Int)
deriving DecidableEq

/-- `field.Error`. -/
structure FieldError where
  type : ErrorType
  field : String
  badValue : BadValue
  detail : String
deriving DecidableEq

/-- `field.Required`. -/
def required (p : Path) (detail : String) : FieldError := ⟨.required, p.str, .str "", detail⟩

/-- `field.Invalid`. -/
def invalid (p : Path) (value : BadValue) (detail : String) : FieldError :=
  ⟨.invalid, p.str, value, detail⟩

/-- `field.Duplicate`. -/
def duplicate (p : Path) (value : BadValue) : FieldError := ⟨.duplicate, p.str, value, ""⟩

/-- `field.NotFound`. -/
def notFound (p : Path) (value : BadValue) : FieldError := ⟨.notFound, p.str, value, ""⟩

/-- `field.Forbidden`. -/
def forbidden (p : Path) (detail : String) : FieldError := ⟨.forbidden, p.str, .str "", detail⟩

/-- `ErrorList.ToAggregate`: the errors with repeated ones dropped; an empty list is a nil
    error. The Go code drops an error whose printed message was seen before; two errors of
    this model print the same message exactly when they are equal. -/
def toAggregate (errs : List FieldError) : List FieldError := errs.eraseDups

/-- The checks the validator calls from code that is not under src/. Each returns `none`
    when its argument is accepted and the error's text otherwise. -/
structure Parsers where
  parseTime : String → Option String
  parseLBMethod : String → Option String
  parseLBMethodForPlus : String → Option String
  compileRegexp : String → Option String

variable (parsers : Parsers)

/-! ## Hosts and TLS -/

/-- `validateHost`. -/
def validateHost (host : String) (fieldPath : Path) : List FieldError :=
  if host = "" then [required fieldPath ""]
  else (isDNS1123Subdomain host).map (invalid fieldPath (.str host))

/-- `validateSecretName`. -/
def validateSecretName (name : String) (fieldPath : Path) : List FieldError :=
  if name = "" then [] else (isDNS1123Subdomain name).map (invalid fieldPath (.str name))

/-- `validRedirectStatusCodes`. -/
def validRedirectStatusCodes : List Int := [301, 302, 307, 308]

/-- `validateRedirectStatusCode`. -/
def validateRedirectStatusCode (code : Int) (fieldPath : Path) : List FieldError :=
  if code ∈ validRedirectStatusCodes then []
  else [invalid fieldPath (.int code)
    "status code out of accepted range. accepted values are '301', '302', '307', '308'"]

/-- `validateTLSRedirect`. -/
def validateTLSRedirect (redirect : Option TLSRedirect) (fieldPath : Path) : List FieldError :=
  match redirect with
  | none => []
  | some redirect =>
    (match redirect.code with
      | some code => validateRedirectStatusCode code (fieldPath.child "code")
      | none => []) ++
    (if redirect.basedOn ≠ "" ∧ redirect.basedOn ≠ "scheme" ∧ redirect.basedOn ≠ "x-forwarded-proto"
      then [invalid (fieldPath.child "basedOn") (.str redirect.basedOn)
        "accepted values are 'scheme', 'x-forwarded-proto'"]
      else [])

/-- `validateTLS`. -/
def validateTLS (tls : Option TLS) (fieldPath : Path) : List FieldError :=
  match tls with
  | none => []
  | some tls =>
    validateSecretName tls.secret (fieldPath.child "secret") ++
      validateTLSRedirect tls.redirect (fieldPath.child "redirect")

/-! ## Numbers, times, sizes, paths -/

/-- `validatePositiveIntOrZero`. -/
def validatePositiveIntOrZero (n : Int) (fieldPath : Path) : List FieldError :=
  if n < 0 then [invalid fieldPath (.int n) "must be positive"] else []

/-- `validatePositiveIntOrZeroFromPointer`. -/
def validatePositiveIntOrZeroFromPointer (n : Option Int) (fieldPath : Path) : List FieldError :=
  match n with
  | none => []
  | some n => if n < 0 then [invalid fieldPath (.int n) "must be positive or zero"] else []

/-- `validateTime`. -/
def validateTime (time : String) (fieldPath : Path) : List FieldError :=
  if time = "" then []
  else match parsers.parseTime time with
    | some err => [invalid fieldPath (.str time) err]
    | none => []

/-- `validateOffset`. -/
def validateOffset (offset : String) (fieldPath : Path) : List FieldError :=
  if offset = "" then []
  else if isNumberWithUnit ['k', 'K', 'm', 'M', 'g', 'G'] offset.data then []
  else [invalid fieldPath (.str offset) (regexError
    "must consist of numeric characters followed by a valid size suffix. 'k|K|m|M|g|G"
    "\\d+[kKmMgG]?" ["16", "32k", "64M"])]

/-- `validateSize`. -/
def validateSize (size : String) (fieldPath : Path) : List FieldError :=
  if size = "" then []
  else if isNumberWithUnit ['k', 'K', 'm', 'M'] size.data then []
  else [invalid fieldPath (.str size) (regexError
    "must consist of numeric characters followed by a valid size suffix. 'k|K|m|M"
    "\\d+[kKmM]?" ["16", "32k", "64M"])]

/-- `validateBuffer`. -/
def validateBuffer (buff : Option UpstreamBuffers) (fieldPath : Path) : List FieldError :=
  match buff with
  | none => []
  | some buff =>
    (if buff.number ≤ 0 then [invalid (fieldPath.child "number") (.int buff.number) "must be positive"]
      else []) ++
    (if buff.size = "" then [required (fieldPath.child "size") "cannot be empty"]
      else validateSize buff.size (fieldPath.child "size"))

/-- `validatePath`. -/
def validatePath (path : String) (fieldPath : Path) : List FieldError :=
  if path = "" then [required fieldPath ""]
  else if isPath path.data then []
  else [invalid fieldPath (.str path) (regexError
    "must start with / and must not include any whitespace character, `\x7b`, `\x7d` or `;`"
    "/[^\\s\x7b\x7d;]*" ["/", "/path", "/path/subpath-123"])]

/-- `isCookieName`. -/
def isCookieName (value : String) : List String :=
  if isNameOfWordChars value.data then []
  else [regexError "a valid cookie name must consist of alphanumeric characters or '_'"
    "[_A-Za-z0-9]+" ["my_cookie_123"]]

/-! ## Lb methods, status matches, health checks, session cookies, queues -/

/-- `validateUpstreamLBMethod`. -/
def validateUpstreamLBMethod (lBMethod : String) (fieldPath : Path) (isPlus : Bool) :
    List FieldError :=
  if lBMethod = "" then [] else
  match (if isPlus then parsers.parseLBMethodForPlus else parsers.parseLBMethod) lBMethod with
  | some err => [invalid fieldPath (.str lBMethod) err]
  | none => []

/-- `validateIntFromString`. -/
def validateIntFromString (number : String) : Int × String :=
  match Go.parseInt number with
  | none => (0, number ++ " must be a valid integer")
  | some n => (n, "")

/-- `validateStatusCode`. -/
def validateStatusCode (status : String) : String :=
  let (code, errMsg) := validateIntFromString status
  if errMsg ≠ "" then errMsg
  else if code < 100 ∨ code > 999 then inclusiveRangeError 100 999
  else ""

/-- `validateStatusCodeRange`. -/
def validateStatusCodeRange (statusRangeStr : String) : String :=
  match Go.split statusRangeStr '-' with
  | [lo, hi] =>
    let (min, msg) := validateIntFromString lo
    if msg ≠ "" then msg else
    let (max, msg) := validateIntFromString hi
    if msg ≠ "" then msg else
    let msg := validateStatusCode lo
    if msg ≠ "" then msg else
    let msg := validateStatusCode hi
    if msg ≠ "" then msg else
    if max ≤ min then "range limits must be " ++ toString min ++ " < " ++ toString max else ""
  | _ => "ranges must only have 2 numbers"

/-- The loop of `validateStatusMatch` over the space-separated parts, from part `i` on. -/
def validateStatusMatchParts (s : String) (fieldPath : Path) : Nat → List String → List FieldError
  | _, [] => []
  | i, value :: rest =>
    (if value = "!" then
      (if i ≠ 0 then [invalid fieldPath (.str s) "`!` can only appear once at the beginning"]
        else [])
    else if Go.contains value '-' then
      (let msg := validateStatusCodeRange value
       if msg ≠ "" then [invalid fieldPath (.str s) msg] else [])
    else
      (let msg := validateStatusCode value
       if msg ≠ "" then [invalid fieldPath (.str s) msg] else [])) ++
    validateStatusMatchParts s fieldPath (i + 1) rest

/-- `validateStatusMatch`. -/
def validateStatusMatch (s : String) (fieldPath : Path) : List FieldError :=
  if s = "" then [] else
  (if Go.hasPrefix s "!" ∧ ¬ Go.hasPrefix s "! " then
    [invalid fieldPath (.str s) "must have an space character after the `!`"] else []) ++
  validateStatusMatchParts s fieldPath 0 (Go.split s ' ')

/-- `isValidHeaderValue`. -/
def isValidHeaderValue (s : String) : List String :=
  if isHeaderValue s.data then []
  else [regexError ("a valid header must have all '\"' escaped and must not contain any '$' " ++
    "or end with an unescaped '\\'") "([^\"$\\\\]|\\\\[^$])*" ["my.service", "foo"]]

/-- `validateHeader`. -/
def validateHeader (h : Header) (fieldPath : Path) : List FieldError :=
  (if h.name = "" then [required (fieldPath.child "name") ""] else []) ++
  (isHTTPHeaderName h.name).map (invalid (fieldPath.child "name") (.str h.name)) ++
  (isValidHeaderValue h.value).map (invalid (fieldPath.child "value") (.str h.value))

/-- The loop of `validateUpstreamHealthCheck` over the headers, from header `i` on. -/
def validateHeaders (fieldPath : Path) : Nat → List Header → List FieldError
  | _, [] => []
  | i, h :: rest =>
    validateHeader h ((fieldPath.child "headers").index i) ++ validateHeaders fieldPath (i + 1) rest

/-- `validateUpstreamHealthCheck`. -/
def validateUpstreamHealthCheck (hc : Option HealthCheck) (fieldPath : Path) : List FieldError :=
  match hc with
  | none => []
  | some hc =>
    (if hc.path ≠ "" then validatePath hc.path (fieldPath.child "path") else []) ++
    validateTime parsers hc.interval (fieldPath.child "interval") ++
    validateTime parsers hc.jitter (fieldPath.child "jitter") ++
    validatePositiveIntOrZero hc.fails (fieldPath.child "fails") ++
    validatePositiveIntOrZero hc.passes (fieldPath.child "passes") ++
    validateTime parsers hc.connectTimeout (fieldPath.child "connect-timeout") ++
    validateTime parsers hc.readTimeout (fieldPath.child "read-timeout") ++
    validateTime parsers hc.sendTimeout (fieldPath.child "send-timeout") ++
    validateStatusMatch hc.statusMatch (fieldPath.child "statusMatch") ++
    validateHeaders fieldPath 0 hc.headers ++
    (if hc.port > 0 then (isValidPortNum hc.port).map (invalid (fieldPath.child "port") (.int hc.port))
      else [])

/-- `validateSessionCookie`. -/
def validateSessionCookie (sc : Option SessionCookie) (fieldPath : Path) : List FieldError :=
  match sc with
  | none => []
  | some sc =>
    (if sc.name = "" then [required (fieldPath.child "name") ""]
      else (isCookieName sc.name).map (invalid (fieldPath.child "name") (.str sc.name))) ++
    (if sc.path ≠ "" then validatePath sc.path (fieldPath.child "path") else []) ++
    (if sc.expires ≠ "max" then validateTime parsers sc.expires (fieldPath.child "expires") else []) ++
    (if sc.domain ≠ "" then
      (isDNS1123Subdomain (Go.trimPrefix sc.domain ".")).map
        (invalid (fieldPath.child "domain") (.str sc.domain))
      else [])

/-- `validateQueue`. -/
def validateQueue (queue : Option UpstreamQueue) (fieldPath : Path) : List FieldError :=
  match queue with
  | none => []
  | some queue =>
    validateTime parsers queue.timeout (fieldPath.child "timeout") ++
    (if queue.size ≤ 0 then [required (fieldPath.child "size") "must be positive"] else [])

/-- `rejectPlusResourcesInOSS`. -/
def rejectPlusResourcesInOSS (upstream : Upstream) (idxPath : Path) (isPlus : Bool) :
    List FieldError :=
  if isPlus then [] else
  (if upstream.healthCheck.isSome then [forbidden (idxPath.child "healthCheck")
    "active health checks are only supported in NGINX Plus"] else []) ++
  (if upstream.slowStart ≠ "" then [forbidden (idxPath.child "slow-start")
    "slow start is only supported in NGINX Plus"] else []) ++
  (if upstream.sessionCookie.isSome then [forbidden (idxPath.child "sessionCookie")
    "sticky cookies are only supported in NGINX Plus"] else []) ++
  (if upstream.queue.isSome then [forbidden (idxPath.child "queue")
    "queue is only supported in NGINX Plus"] else [])

/-! ## Names, labels, next-upstream -/

/-- `validateDNS1035Label`. -/
def validateDNS1035Label (name : String) (fieldPath : Path) : List FieldError :=
  if name = "" then [required fieldPath ""]
  else (isDNS1035Label name).map (invalid fieldPath (.str name))

/-- `validateUpstreamName`. -/
def validateUpstreamName (name : String) (fieldPath : Path) : List FieldError :=
  validateDNS1035Label name fieldPath

/-- `validateServiceName`. -/
def validateServiceName (name : String) (fieldPath : Path) : List FieldError :=
  validateDNS1035Label name fieldPath

/-- `isValidLabelName`. -/
def isValidLabelName (labelName : String) (fieldPath : Path) : List FieldError :=
  (isQualifiedName labelName).map (invalid fieldPath (.str labelName))

/-- `validateLabels`. Go visits the map in a random order; the model visits it in key
    order, which changes the order of the errors and nothing else. -/
def validateLabels (labels : StringMap) (fieldPath : Path) : List FieldError :=
  labels.entries.flatMap fun (labelName, labelValue) =>
    isValidLabelName labelName fieldPath ++
      (isValidLabelValue labelValue).map (invalid fieldPath (.str labelValue))

/-- `validNextUpstreamParams`. -/
def validNextUpstreamParams : List String :=
  ["error", "timeout", "invalid_header", "http_500", "http_502", "http_503", "http_504",
    "http_403", "http_404", "http_429", "non_idempotent", "off", ""]

/-- The loop of `validateNextUpstream`, with the parameters seen so far. -/
def validateNextUpstreamParams (fieldPath : Path) : List String → List String → List FieldError
  | _, [] => []
  | allParams, para :: rest =>
    (if para ∈ validNextUpstreamParams then [] else
      [invalid fieldPath (.str para) "not a valid parameter"]) ++
    (if para ∈ allParams then
      [invalid fieldPath (.str para) "can not have duplicate parameters"] ++
        validateNextUpstreamParams fieldPath allParams rest
    else validateNextUpstreamParams fieldPath (allParams ++ [para]) rest)

/-- `validateNextUpstream`. -/
def validateNextUpstream (nextUpstream : String) (fieldPath : Path) : List FieldError :=
  if nextUpstream = "" then [] else validateNextUpstreamParams fieldPath [] (Go.fields nextUpstream)

/-! ## `validateUpstreams` -/

/-- The checks of the loop body of `validateUpstreams` after the name: every field of
    upstream `u` at `idxPath`. -/
def validateUpstreamFields (u : Upstream) (idxPath : Path) (isPlus : Bool) : List FieldError :=
  validateServiceName u.service (idxPath.child "service") ++
  validateLabels u.subselector (idxPath.child "subselector") ++
  validateTime parsers u.proxyConnectTimeout (idxPath.child "connect-timeout") ++
  validateTime parsers u.proxyReadTimeout (idxPath.child "read-timeout") ++
  validateTime parsers u.proxySendTimeout (idxPath.child "send-timeout") ++
  validateNextUpstream u.proxyNextUpstream (idxPath.child "next-upstream") ++
  validateTime parsers u.proxyNextUpstreamTimeout (idxPath.child "next-upstream-timeout") ++
  validatePositiveIntOrZeroFromPointer (some u.proxyNextUpstreamTries)
    (idxPath.child "next-upstream-tries") ++
  validateUpstreamLBMethod parsers u.lbMethod (idxPath.child "lb-method") isPlus ++
  validateTime parsers u.failTimeout (idxPath.child "fail-timeout") ++
  validatePositiveIntOrZeroFromPointer u.maxFails (idxPath.child "max-fails") ++
  validatePositiveIntOrZeroFromPointer u.keepalive (idxPath.child "keepalive") ++
  validatePositiveIntOrZeroFromPointer u.maxConns (idxPath.child "max-conns") ++
  validateOffset u.clientMaxBodySize (idxPath.child "client-max-body-size") ++
  validateUpstreamHealthCheck parsers u.healthCheck (idxPath.child "healthCheck") ++
  validateTime parsers u.slowStart (idxPath.child "slow-start") ++
  validateBuffer u.proxyBuffers (idxPath.child "buffers") ++
  validateSize u.proxyBufferSize (idxPath.child "buffer-size") ++
  validateQueue parsers u.queue (idxPath.child "queue") ++
  validateSessionCookie parsers u.sessionCookie (idxPath.child "sessionCookie") ++
  (isValidPortNum u.port.toNat).map (invalid (idxPath.child "port") (.int u.port.toNat)) ++
  rejectPlusResourcesInOSS u idxPath isPlus

/-- The loop of `validateUpstreams` from upstream `i` on, with the names collected so far:
    a name is collected only when it is valid and new. -/
def validateUpstreamsFrom (fieldPath : Path) (isPlus : Bool) :
    Nat → List Upstream → List String → List FieldError × List String
  | _, [], upstreamNames => ([], upstreamNames)
  | i, u :: rest, upstreamNames =>
    let idxPath := fieldPath.index i
    let upstreamErrors := validateUpstreamName u.name (idxPath.child "name")
    let (nameErrs, upstreamNames) :=
      if upstreamErrors.length > 0 then (upstreamErrors, upstreamNames)
      else if u.name ∈ upstreamNames then
        ([duplicate (idxPath.child "name") (.str u.name)], upstreamNames)
      else ([], upstreamNames ++ [u.name])
    let (restErrs, upstreamNames) := validateUpstreamsFrom fieldPath isPlus (i + 1) rest upstreamNames
    (nameErrs ++ validateUpstreamFields parsers u idxPath isPlus ++ restErrs, upstreamNames)

/-- `validateUpstreams`: the errors, and the set of valid upstream names. -/
def validateUpstreams (upstreams : List Upstream) (fieldPath : Path) (isPlus : Bool) :
    List FieldError × List String :=
  validateUpstreamsFrom parsers fieldPath isPlus 0 upstreams []

end KubernetesIngress.Validation
