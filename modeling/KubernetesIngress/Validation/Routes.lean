import KubernetesIngress.Validation.Upstreams

set_option autoImplicit false

/-! # The validator, part 2: actions, routes and the entry points

The second half of `validation.go`: actions (with the grammar of strings that contain
`${variables}`), splits, matches, conditions, routes, the subroutes of a
VirtualServerRoute, and the three entry points `ValidateVirtualServer`,
`ValidateVirtualServerRoute` and `ValidateVirtualServerRouteForVirtualServer`.

Two spots of this code index a Go slice or string: `str[i+1]` in
`validateStringWithVariables` and `value[1]` in `validateSpecialVariable`. Where such an
index is out of range Go panics; the model makes this `none`, so every function above them
returns `Option (List FieldError)`, with `some []` for "no error", and the error lists of
consecutive checks are joined by `appendErrs`, which panics when either side does. -/

namespace KubernetesIngress.Validation

open V1

variable (parsers : Parsers)

/-- `allErrs = append(allErrs, ...)` for two checks that may panic. -/
def appendErrs : Option (List FieldError) → Option (List FieldError) → Option (List FieldError)
  | some a, some b => some (a ++ b)
  | _, _ => none

@[simp] theorem appendErrs_eq_some_nil {a b : Option (List FieldError)} :
    appendErrs a b = some [] ↔ a = some [] ∧ b = some [] := by
  match a, b with
  | some a, some b => simp [appendErrs]
  | none, _ => simp [appendErrs]
  | some _, none => simp [appendErrs]

theorem appendErrs_isSome {a b : Option (List FieldError)} :
    (appendErrs a b).isSome ↔ a.isSome ∧ b.isSome := by
  match a, b with
  | some a, some b => simp [appendErrs]
  | none, _ => simp [appendErrs]
  | some _, none => simp [appendErrs]

/-! ## Actions -/

/-- `countActions`. -/
def countActions (action : Action) : Nat :=
  (if action.pass ≠ "" then 1 else 0) + (if action.redirect.isSome then 1 else 0) +
    (if action.return.isSome then 1 else 0)

/-- `validateReferencedUpstream`. -/
def validateReferencedUpstream (name : String) (fieldPath : Path) (upstreamNames : List String) :
    List FieldError :=
  let upstreamErrs := validateUpstreamName name fieldPath
  if upstreamErrs.length > 0 then upstreamErrs
  else if name ∉ upstreamNames then [notFound fieldPath (.str name)] else []

/-- `escapedStringsErrMsg`. -/
def escapedStringsErrMsg : String :=
  "must have all '\"' (double quotes) escaped and must not end with an unescaped '\\' (backslash)"

/-- `escapedStringsFmt`. -/
def escapedStringsFmt : String := "([^\"\\\\]|\\\\.)*"

/-- `captureVariables`: the names inside the leftmost non-overlapping matches of
    `\$\{([^}]*)\}`, read in one pass. The state is `none` outside a reference and the name
    read so far inside one. A reference that is never closed ends the scan: no `}` follows,
    so no later reference can close either. -/
def captureVariablesFrom : Option (List Char) → List Char → List String
  | none, '$' :: '\x7b' :: rest => captureVariablesFrom (some []) rest
  | none, _ :: rest => captureVariablesFrom none rest
  | some name, '\x7d' :: rest => String.mk name :: captureVariablesFrom none rest
  | some name, c :: rest => captureVariablesFrom (some (name ++ [c])) rest
  | _, [] => []

/-- `captureVariables`. -/
def captureVariables (s : String) : List String :=
  captureVariablesFrom none s.data

/-- `validRedirectVariableNames`. -/
def validRedirectVariableNames : List String :=
  ["scheme", "http_x_forwarded_proto", "request_uri", "host"]

/-- `returnBodyVariables`. -/
def returnBodyVariables : List String :=
  ["request_uri", "request_method", "request_body", "scheme", "args", "host", "request_time",
    "request_length", "nginx_version", "pid", "connection", "remote_addr", "remote_port",
    "time_iso8601", "time_local", "server_addr", "server_port", "server_name", "server_protocol",
    "connections_active", "connections_reading", "connections_writing", "connections_waiting"]

/-- `returnBodySpecialVariables`. -/
def returnBodySpecialVariables : List String := ["arg_", "http_", "cookie_"]

/-- `mapToPrettyString`. Go lists a map's keys in a random order; here they are listed in
    the order of the list. -/
def mapToPrettyString (m : List String) : String := ", ".intercalate m

/-- `validateVariable`. -/
def validateVariable (nVar : String) (validVars : List String) (fieldPath : Path) :
    List FieldError :=
  if nVar ∈ validVars then []
  else [invalid fieldPath (.str nVar) ("'" ++ nVar ++
    "' contains an invalid NGINX variable. Accepted variables are: " ++ mapToPrettyString validVars)]

/-- `isArgumentName`. -/
def isArgumentName (value : String) : List String :=
  if isNameOfWordChars value.data then []
  else [regexError "a valid argument name must consist of alphanumeric characters or '_'"
    "[_A-Za-z0-9]+" ["argument_123"]]

/-- `isValidSpecialVariableHeader`: underscores in a `$http_` variable stand for `-`. -/
def isValidSpecialVariableHeader (header : String) : List String :=
  if (isHTTPHeaderName (Go.replaceAll header '_' '-')).length ≥ 1 ∨ Go.contains header '-' then
    ["a valid HTTP header must consist of alphanumeric characters or '_'"]
  else []

/-- `validateSpecialVariable`. `value[1]` is read in the three named cases; where
    `strings.SplitN` returned one part it is out of range, a panic. -/
def validateSpecialVariable (nVar : String) (fieldPath : Path) : Option (List FieldError) :=
  match Go.splitN2 nVar '_' with
  | [] => none
  | v0 :: rest =>
    let check (errs : String → List String) : Option (List FieldError) :=
      rest.head?.map fun v1 => (errs v1).map (invalid fieldPath (.str nVar))
    if v0 = "arg" then check isArgumentName
    else if v0 = "http" then check isValidSpecialVariableHeader
    else if v0 = "cookie" then check isCookieName
    else some []

/-- The `for i, c := range str` loop of `validateStringWithVariables`: `some false` at the
    first `$` that is not followed by `{`, or after which no `}` occurs; `none` where `$` is
    the last character, so that `str[i+1]` is out of range. -/
def variablesEnclosed : List Char → Option Bool
  | [] => some true
  | '$' :: rest =>
    match rest with
    | [] => none
    | c :: _ =>
      if c ≠ '\x7b' then some false
      else if '\x7d' ∉ rest then some false
      else variablesEnclosed rest
  | _ :: rest => variablesEnclosed rest

/-- The loop of `validateStringWithVariables` over the captured variables. -/
def validateCapturedVariables (fieldPath : Path) (validVars specialVars : List String) :
    List String → Option (List FieldError)
  | [] => some []
  | nVar :: rest =>
    appendErrs
      (if specialVars.any (Go.hasPrefix nVar ·) then validateSpecialVariable nVar fieldPath
        else some (validateVariable nVar validVars fieldPath))
      (validateCapturedVariables fieldPath validVars specialVars rest)

/-- `validateStringWithVariables`. -/
def validateStringWithVariables (str : String) (fieldPath : Path)
    (validVars specialVars : List String) : Option (List FieldError) :=
  if Go.hasSuffix str "$" then some [invalid fieldPath (.str str) "must not end with $"] else
  match variablesEnclosed str.data with
  | none => none
  | some false =>
    some [invalid fieldPath (.str str)
      "variables must be enclosed in curly braces, for example ${host}"]
  | some true => validateCapturedVariables fieldPath validVars specialVars (captureVariables str)

/-- `validateRedirectURL`. -/
def validateRedirectURL (redirectURL : String) (fieldPath : Path) : Option (List FieldError) :=
  if redirectURL = "" then some [required fieldPath "must specify a url"]
  else if !isEscapedString redirectURL.data then
    some [invalid fieldPath (.str redirectURL) (regexError escapedStringsErrMsg escapedStringsFmt
      ["http://www.nginx.com", "${scheme}://${host}/green/", "\\\"http://www.nginx.com\\\""])]
  else validateStringWithVariables redirectURL fieldPath validRedirectVariableNames []

/-- `validateActionRedirect`. -/
def validateActionRedirect (redirect : ActionRedirect) (fieldPath : Path) :
    Option (List FieldError) :=
  appendErrs (validateRedirectURL redirect.url (fieldPath.child "url"))
    (some (if redirect.code ≠ 0 then validateRedirectStatusCode redirect.code (fieldPath.child "code")
      else []))

/-- `validateActionReturnCode`. -/
def validateActionReturnCode (code : Int) (fieldPath : Path) : List FieldError :=
  if (code ≥ 200 ∧ code ≤ 299) ∨ (code ≥ 400 ∧ code ≤ 599) then []
  else [invalid fieldPath (.int code)
    "must be a valid status code either 2XX, 4XX or 5XX, for example, 200 or 402."]

/-- `validateActionReturnBody`. -/
def validateActionReturnBody (body : String) (fieldPath : Path) : Option (List FieldError) :=
  appendErrs
    (some (if isEscapedString body.data then [] else
      [invalid fieldPath (.str body) (regexError escapedStringsErrMsg escapedStringsFmt
        ["Hello World! \\n", "\\\"${request_uri}\\\" is unavailable. \\n"])]))
    (validateStringWithVariables body fieldPath returnBodyVariables returnBodySpecialVariables)

/-- `validateActionReturnType`. -/
def validateActionReturnType (returnType : String) (fieldPath : Path) : List FieldError :=
  if isActionReturnType returnType.data then []
  else [invalid fieldPath (.str returnType) (regexError
    ("must have all '\"' (double quotes), '\x7b', '\x7d' or ';' escaped and must not end with " ++
      "an unescaped '\\' (backslash)") "([^;\\\x7b\\\x7d\"\\\\]|\\\\.)*"
    ["type/subtype", "application/json"])]

/-- `validateActionReturn`. -/
def validateActionReturn (r : ActionReturn) (fieldPath : Path) : Option (List FieldError) :=
  if r.body = "" then some [required (fieldPath.child "body") ""] else
  appendErrs (validateActionReturnBody r.body (fieldPath.child "body"))
    (some ((if r.type ≠ "" then validateActionReturnType r.type (fieldPath.child "type") else []) ++
      (if r.code ≠ 0 then validateActionReturnCode r.code (fieldPath.child "code") else [])))

/-- `validateAction`. -/
def validateAction (action : Action) (fieldPath : Path) (upstreamNames : List String) :
    Option (List FieldError) :=
  if countActions action ≠ 1 then
    some [required fieldPath "action must specify exactly one of `pass`, `redirect` or `return`"]
  else
  appendErrs
    (some (if action.pass ≠ "" then
      validateReferencedUpstream action.pass (fieldPath.child "pass") upstreamNames else []))
    (appendErrs
      (match action.redirect with
        | some r => validateActionRedirect r (fieldPath.child "redirect")
        | none => some [])
      (match action.return with
        | some r => validateActionReturn r (fieldPath.child "return")
        | none => some []))

/-! ## Splits, conditions and matches -/

/-- The loop of `validateSplits` from split `i` on. -/
def validateSplitsFrom (fieldPath : Path) (upstreamNames : List String) :
    Nat → List Split → Option (List FieldError)
  | _, [] => some []
  | i, s :: rest =>
    let idxPath := fieldPath.index i
    appendErrs
      (appendErrs
        (some ((isInRange s.weight 1 99).map (invalid (idxPath.child "weight") (.int s.weight))))
        (match s.action with
          | none => some [required (idxPath.child "action") ""]
          | some a => validateAction a (idxPath.child "action") upstreamNames))
      (validateSplitsFrom fieldPath upstreamNames (i + 1) rest)

/-- `validateSplits`. The loop's `totalWeight += s.Weight` is the sum of the weights; Go
    sums in 64-bit `int`, which differs from this sum only when a weight is outside
    `[1, 99]`, an error already. -/
def validateSplits (splits : List Split) (fieldPath : Path) (upstreamNames : List String) :
    Option (List FieldError) :=
  if splits.length < 2 then some [invalid fieldPath (.str "") "must include at least 2 splits"]
  else
  let totalWeight := (splits.map (·.weight)).sum
  appendErrs (validateSplitsFrom fieldPath upstreamNames 0 splits)
    (some (if totalWeight ≠ 100 then
      [invalid fieldPath (.str "") "the sum of the weights of all splits must be equal to 100"]
      else []))

/-- `validVariableNames`. -/
def validVariableNames : List String :=
  ["$args", "$http2", "$https", "$remote_addr", "$remote_port", "$query_string", "$request",
    "$request_body", "$request_uri", "$request_method", "$scheme"]

/-- `validateVariableName`. -/
def validateVariableName (name : String) (fieldPath : Path) : List FieldError :=
  if !Go.hasPrefix name "$" then [invalid fieldPath (.str name) "must start with `$`"]
  else if name ∉ validVariableNames then
    [invalid fieldPath (.str name) "is not allowed or is not an NGINX variable"]
  else []

/-- `isValidMatchValue`. -/
def isValidMatchValue (value : String) : List String :=
  if isEscapedString value.data then []
  else [regexError escapedStringsErrMsg escapedStringsFmt ["value-123"]]

/-- `validateCondition`. -/
def validateCondition (condition : Condition) (fieldPath : Path) : List FieldError :=
  let fieldCount := (if condition.header ≠ "" then 1 else 0) + (if condition.cookie ≠ "" then 1 else 0) +
    (if condition.argument ≠ "" then 1 else 0) + (if condition.variable ≠ "" then 1 else 0)
  (if condition.header ≠ "" then (isHTTPHeaderName condition.header).map
    (invalid (fieldPath.child "header") (.str condition.header)) else []) ++
  (if condition.cookie ≠ "" then (isCookieName condition.cookie).map
    (invalid (fieldPath.child "cookie") (.str condition.cookie)) else []) ++
  (if condition.argument ≠ "" then (isArgumentName condition.argument).map
    (invalid (fieldPath.child "argument") (.str condition.argument)) else []) ++
  (if condition.variable ≠ "" then
    validateVariableName condition.variable (fieldPath.child "variable") else []) ++
  (if fieldCount ≠ 1 then [invalid fieldPath (.str "")
    "must specify exactly one of: `header`, `cookie`, `argument` or `variable`"] else []) ++
  (isValidMatchValue condition.value).map (invalid (fieldPath.child "value") (.str condition.value))

/-- The loop of `validateMatch` over the conditions, from condition `i` on. -/
def validateConditions (fieldPath : Path) : Nat → List Condition → List FieldError
  | _, [] => []
  | i, c :: rest => validateCondition c (fieldPath.index i) ++ validateConditions fieldPath (i + 1) rest

/-- `validateMatch`. -/
def validateMatch (m : Match) (fieldPath : Path) (upstreamNames : List String) :
    Option (List FieldError) :=
  let fieldCount := (if m.action.isSome then 1 else 0) + (if m.splits.length > 0 then 1 else 0)
  appendErrs
    (some (if m.conditions.length = 0 then
        [required (fieldPath.child "conditions") "must specify at least one condition"]
      else validateConditions (fieldPath.child "conditions") 0 m.conditions))
    (appendErrs
      (match m.action with
        | some a => validateAction a (fieldPath.child "action") upstreamNames
        | none => some [])
      (appendErrs
        (if m.splits.length > 0 then validateSplits m.splits (fieldPath.child "splits") upstreamNames
          else some [])
        (some (if fieldCount ≠ 1 then
          [invalid fieldPath (.str "") "must specify exactly one of `action` or `splits`"] else []))))

/-- The loop of `validateRoute` over the matches, from match `i` on. -/
def validateMatches (fieldPath : Path) (upstreamNames : List String) :
    Nat → List Match → Option (List FieldError)
  | _, [] => some []
  | i, m :: rest =>
    appendErrs (validateMatch m (fieldPath.index i) upstreamNames)
      (validateMatches fieldPath upstreamNames (i + 1) rest)

/-! ## Routes -/

/-- `validateRegexPath`. -/
def validateRegexPath (path : String) (fieldPath : Path) : List FieldError :=
  match parsers.compileRegexp path with
  | some err => [invalid fieldPath (.str path) ("must be a valid regular expression: " ++ err)]
  | none =>
    if isEscapedString path.data then []
    else [invalid fieldPath (.str path) (regexError escapedStringsErrMsg escapedStringsFmt
      ["*.jpg", "^/images/image_*.png$"])]

/-- `validateRoutePath`: a prefix, regular-expression or exact-match location path. -/
def validateRoutePath (path : String) (fieldPath : Path) : List FieldError :=
  if path = "" then [required fieldPath ""]
  else if Go.hasPrefix path "~" then validateRegexPath parsers path fieldPath
  else if Go.hasPrefix path "/" then validatePath path fieldPath
  else if Go.hasPrefix path "=" then validatePath (Go.trimPrefix path "=") fieldPath
  else [invalid fieldPath (.str path) "must start with /, ~ or ="]

/-- `validateRouteField`. -/
def validateRouteField (value : String) (fieldPath : Path) : List FieldError :=
  (isQualifiedName value).map (invalid fieldPath (.str value))

/-- The number `validateRoute` compares with one: the fields among `action`, `splits` and
    (where it is allowed) `route` that are set. Matches are not counted. -/
def routeFieldCount (route : Route) (isRouteFieldForbidden : Bool) : Nat :=
  (if route.action.isSome then 1 else 0) + (if route.splits.length > 0 then 1 else 0) +
    (if route.route ≠ "" ∧ !isRouteFieldForbidden then 1 else 0)

/-- `validateRoute`. -/
def validateRoute (route : Route) (fieldPath : Path) (upstreamNames : List String)
    (isRouteFieldForbidden : Bool) : Option (List FieldError) :=
  let routeErrs :=
    if route.route ≠ "" then
      if isRouteFieldForbidden then [forbidden (fieldPath.child "route") "is not allowed"]
      else validateRouteField route.route (fieldPath.child "route")
    else []
  let countErrs :=
    if routeFieldCount route isRouteFieldForbidden ≠ 1 then
      [invalid fieldPath (.str "")
        (if isRouteFieldForbidden || route.matches.length > 0 then
          "must specify exactly one of `action` or `splits`"
        else "must specify exactly one of `action`, `splits` or `route`")]
    else []
  appendErrs (some (validateRoutePath parsers route.path (fieldPath.child "path")))
    (appendErrs
      (match route.action with
        | some a => validateAction a (fieldPath.child "action") upstreamNames
        | none => some [])
      (appendErrs
        (if route.splits.length > 0 then
          validateSplits route.splits (fieldPath.child "splits") upstreamNames else some [])
        (appendErrs (validateMatches (fieldPath.child "matches") upstreamNames 0 route.matches)
          (some (routeErrs ++ countErrs)))))

/-- The loop of `validateVirtualServerRoutes` from route `i` on, with the paths seen so far:
    a path is recorded only for a route without errors. -/
def validateVirtualServerRoutesFrom (fieldPath : Path) (upstreamNames : List String) :
    Nat → List Route → List String → Option (List FieldError)
  | _, [], _ => some []
  | i, r :: rest, allPaths =>
    let idxPath := fieldPath.index i
    match validateRoute parsers r idxPath upstreamNames false with
    | none => none
    | some routeErrs =>
      if routeErrs.length > 0 then
        appendErrs (some routeErrs)
          (validateVirtualServerRoutesFrom fieldPath upstreamNames (i + 1) rest allPaths)
      else if r.path ∈ allPaths then
        appendErrs (some [duplicate (idxPath.child "path") (.str r.path)])
          (validateVirtualServerRoutesFrom fieldPath upstreamNames (i + 1) rest allPaths)
      else validateVirtualServerRoutesFrom fieldPath upstreamNames (i + 1) rest (allPaths ++ [r.path])

/-- `validateVirtualServerRoutes`. -/
def validateVirtualServerRoutes (routes : List Route) (fieldPath : Path)
    (upstreamNames : List String) : Option (List FieldError) :=
  validateVirtualServerRoutesFrom parsers fieldPath upstreamNames 0 routes []

/-! ## VirtualServer and VirtualServerRoute -/

/-- `validateVirtualServerSpec`. -/
def validateVirtualServerSpec (spec : VirtualServerSpec) (fieldPath : Path) (isPlus : Bool) :
    Option (List FieldError) :=
  let (upstreamErrs, upstreamNames) :=
    validateUpstreams parsers spec.upstreams (fieldPath.child "upstreams") isPlus
  appendErrs
    (some (validateHost spec.host (fieldPath.child "host") ++
      validateTLS spec.tls (fieldPath.child "tls") ++ upstreamErrs))
    (validateVirtualServerRoutes parsers spec.routes (fieldPath.child "routes") upstreamNames)

/-- `ValidateVirtualServer`: `none` is a panic, `some []` a nil error, and otherwise the
    errors of the aggregate. -/
def validateVirtualServer (virtualServer : VirtualServer) (isPlus : Bool) :
    Option (List FieldError) :=
  (validateVirtualServerSpec parsers virtualServer.spec (Path.new "spec") isPlus).map toAggregate

/-- `validateVirtualServerRouteHost`. -/
def validateVirtualServerRouteHost (host virtualServerHost : String) (fieldPath : Path) :
    List FieldError :=
  validateHost host fieldPath ++
    if virtualServerHost ≠ "" ∧ host ≠ virtualServerHost then
      [invalid fieldPath (.str host) ("must be equal to '" ++ virtualServerHost ++ "'")]
    else []

/-- `isRegexOrExactMatch`. -/
def isRegexOrExactMatch (path : String) : Bool :=
  Go.hasPrefix path "~" || Go.hasPrefix path "="

/-- The check of `validateVirtualServerRouteSubroutes` that a subroute lies under the
    prefix `vsPath`. -/
def validateSubroutePath (path vsPath : String) (idxPath : Path) : List FieldError :=
  if vsPath ≠ "" ∧ ¬ Go.hasPrefix path vsPath ∧ ¬ isRegexOrExactMatch path then
    [invalid idxPath (.str path) ("must start with '" ++ vsPath ++ "'")]
  else []

/-- The loop of `validateVirtualServerRouteSubroutes` for a prefix `vsPath`, from subroute
    `i` on, with the paths seen so far. -/
def validateVirtualServerRouteSubroutesFrom (fieldPath : Path) (upstreamNames : List String)
    (vsPath : String) : Nat → List Route → List String → Option (List FieldError)
  | _, [], _ => some []
  | i, r :: rest, allPaths =>
    let idxPath := fieldPath.index i
    match validateRoute parsers r idxPath upstreamNames true with
    | none => none
    | some routeErrs =>
      let routeErrs := routeErrs ++ validateSubroutePath r.path vsPath idxPath
      if routeErrs.length > 0 then
        appendErrs (some routeErrs)
          (validateVirtualServerRouteSubroutesFrom fieldPath upstreamNames vsPath (i + 1) rest allPaths)
      else if r.path ∈ allPaths then
        appendErrs (some [duplicate (idxPath.child "path") (.str r.path)])
          (validateVirtualServerRouteSubroutesFrom fieldPath upstreamNames vsPath (i + 1) rest allPaths)
      else
        validateVirtualServerRouteSubroutesFrom fieldPath upstreamNames vsPath (i + 1) rest
          (allPaths ++ [r.path])

/-- `validateVirtualServerRouteSubroutes`. -/
def validateVirtualServerRouteSubroutes (routes : List Route) (fieldPath : Path)
    (upstreamNames : List String) (vsPath : String) : Option (List FieldError) :=
  if isRegexOrExactMatch vsPath then
    match routes with
    | [r] =>
      if r.path ≠ vsPath then
        some [invalid ((fieldPath.index 0).child "path") (.str r.path)
          "must have the same path as the referenced VirtualServer route path"]
      else validateRoute parsers r (fieldPath.index 0) upstreamNames true
    | _ => some [invalid fieldPath (.str "subroutes")
        "must have only one subroute if regex match or exact match are being used"]
  else validateVirtualServerRouteSubroutesFrom parsers fieldPath upstreamNames vsPath 0 routes []

/-- `validateVirtualServerRouteSpec`. -/
def validateVirtualServerRouteSpec (spec : VirtualServerRouteSpec) (fieldPath : Path)
    (virtualServerHost vsPath : String) (isPlus : Bool) : Option (List FieldError) :=
  let (upstreamErrs, upstreamNames) :=
    validateUpstreams parsers spec.upstreams (fieldPath.child "upstreams") isPlus
  appendErrs
    (some (validateVirtualServerRouteHost spec.host virtualServerHost (fieldPath.child "host") ++
      upstreamErrs))
    (validateVirtualServerRouteSubroutes parsers spec.subroutes (fieldPath.child "subroutes")
      upstreamNames vsPath)

/-- `ValidateVirtualServerRoute`: a VirtualServerRoute on its own (no parent host, path `/`). -/
def validateVirtualServerRoute (virtualServerRoute : VirtualServerRoute) (isPlus : Bool) :
    Option (List FieldError) :=
  (validateVirtualServerRouteSpec parsers virtualServerRoute.spec (Path.new "spec") "" "/"
    isPlus).map toAggregate

/-- `ValidateVirtualServerRouteForVirtualServer`: a VirtualServerRoute against the host and
    the route path of the VirtualServer that references it. -/
def validateVirtualServerRouteForVirtualServer (virtualServerRoute : VirtualServerRoute)
    (virtualServerHost vsPath : String) (isPlus : Bool) : Option (List FieldError) :=
  (validateVirtualServerRouteSpec parsers virtualServerRoute.spec (Path.new "spec")
    virtualServerHost vsPath isPlus).map toAggregate

end KubernetesIngress.Validation
