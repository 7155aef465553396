import KubernetesIngress.Validation.UpstreamChecks
import KubernetesIngress.Validation.Variables

set_option autoImplicit false

/-! # What the validator accepts

`Soundness` reads a clean validation in one direction: a resource the validator accepts
satisfies the invariants the configuration generator relies on. This file reads it in both.
It states, as predicates over the `v1` records, everything the checks of
`ValidateVirtualServer` and `ValidateVirtualServerRouteForVirtualServer` look at: the host
and the TLS block, the upstreams (`UpstreamChecks`), the URLs and bodies with their
`${variables}` (`Variables`), the return types and codes, the route paths, the `route`
references and the conditions of matches. It then proves that the validator returns no
error exactly when they hold (`validateVirtualServer_eq_some_nil_iff`,
`validateVirtualServerRouteForVirtualServer_eq_some_nil_iff`): it rejects nothing that
satisfies them. The predicates refine the invariants of `Soundness`
(`VirtualServerAccepted.specValid`), and they show two facts about the validator as a whole:
the standalone check of a VirtualServerRoute is weaker than the check against its
VirtualServer, and the order of the upstreams and routes never changes a verdict.

The paths in the errors only label them, so every lemma holds at every path. A `pass` is
checked as an upstream name before it is looked up among the upstreams; the lemmas for
actions and routes take the upstream names as DNS-1035 labels, which is what the upstream
loop establishes before the routes are checked. -/

namespace KubernetesIngress.Validation

open V1

attribute [mk_iff] ActionValid

/-! ## Hosts and TLS -/

/-- A TLS redirect `validateTLSRedirect` accepts: a redirect code, if any, and the scheme
    read from `scheme` or `x-forwarded-proto`, if any. -/
def TLSRedirectValid (rd : TLSRedirect) : Prop :=
  (∀ c, rd.code = some c → c ∈ validRedirectStatusCodes) ∧
    (rd.basedOn = "" ∨ rd.basedOn = "scheme" ∨ rd.basedOn = "x-forwarded-proto")

/-- A TLS block `validateTLS` accepts: a secret name that is empty or a DNS-1123 subdomain,
    and a valid redirect, if any. -/
def TLSValid : Option TLS → Prop
  | none => True
  | some tls => (tls.secret = "" ∨ isDNS1123Subdomain tls.secret = []) ∧
      ∀ rd, tls.redirect = some rd → TLSRedirectValid rd

section
variable (fieldPath : Path)

@[simp] theorem validateHost_eq_nil_iff (host : String) :
    validateHost host fieldPath = [] ↔ isDNS1123Subdomain host = [] := by
  by_cases h : host = ""
  · simp only [validateHost, h, if_true]
    exact iff_of_false (List.cons_ne_nil _ _) (by decide)
  · simp [validateHost, h]

@[simp] theorem validateRedirectStatusCode_eq_nil_iff (code : Int) :
    validateRedirectStatusCode code fieldPath = [] ↔ code ∈ validRedirectStatusCodes := by
  by_cases h : code ∈ validRedirectStatusCodes <;> simp [validateRedirectStatusCode, h]

@[simp] theorem validateTLS_eq_nil_iff (tls : Option TLS) :
    validateTLS tls fieldPath = [] ↔ TLSValid tls := by
  rcases tls with _ | ⟨secret, _ | ⟨enable, _ | code, basedOn⟩⟩
  · simp [validateTLS, TLSValid]
  all_goals
    by_cases hs : secret = "" <;>
    simp [validateTLS, TLSValid, TLSRedirectValid, validateTLSRedirect, validateSecretName, hs,
      or_iff_not_imp_left]

@[simp] theorem validateVirtualServerRouteHost_eq_nil_iff (host virtualServerHost : String) :
    validateVirtualServerRouteHost host virtualServerHost fieldPath = [] ↔
      isDNS1123Subdomain host = [] ∧ (virtualServerHost ≠ "" → host = virtualServerHost) := by
  simp [validateVirtualServerRouteHost]

end

/-! ## Actions -/

/-- A redirect `validateActionRedirect` accepts: a URL with every `"` escaped, no unescaped
    `\` at the end and only the redirect variables, and a redirect code, if any. -/
@[mk_iff]
structure RedirectAccepted (r : ActionRedirect) : Prop where
  url_ne_empty : r.url ≠ ""
  url_escaped : isEscapedString r.url.data = true
  url_variables : WithVariables validRedirectVariableNames [] r.url
  code : r.code ≠ 0 → r.code ∈ validRedirectStatusCodes

/-- A canned response `validateActionReturn` accepts: a body with every `"` escaped and only
    the return-body variables, a type NGINX can read, if any, and a 2XX, 4XX or 5XX code, if
    any. -/
@[mk_iff]
structure ReturnAccepted (r : ActionReturn) : Prop where
  body_ne_empty : r.body ≠ ""
  body_escaped : isEscapedString r.body.data = true
  body_variables : WithVariables returnBodyVariables returnBodySpecialVariables r.body
  type : r.type ≠ "" → isActionReturnType r.type.data = true
  code : r.code ≠ 0 → (200 ≤ r.code ∧ r.code ≤ 299) ∨ (400 ≤ r.code ∧ r.code ≤ 599)

/-- An action `validateAction` accepts: a valid action whose redirect and canned response,
    if any, are accepted. -/
@[mk_iff]
structure ActionAccepted (upstreamNames : List String) (a : Action)
    extends ActionValid upstreamNames a : Prop where
  redirect_accepted : ∀ r, a.redirect = some r → RedirectAccepted r
  return_accepted : ∀ r, a.return = some r → ReturnAccepted r

section
variable (fieldPath : Path)

theorem validateRedirectURL_eq_some_nil_iff (url : String) :
    validateRedirectURL url fieldPath = some [] ↔
      url ≠ "" ∧ isEscapedString url.data = true ∧
        WithVariables validRedirectVariableNames [] url := by
  have hvars := @validateStringWithVariables_eq_nil_iff validRedirectVariableNames []
    (by simp) (by decide) url fieldPath
  unfold validateRedirectURL
  by_cases h1 : url = ""
  · simp [h1]
  by_cases h2 : isEscapedString url.data = true <;> simp [h1, h2, hvars]

theorem validateActionRedirect_eq_some_nil_iff (r : ActionRedirect) :
    validateActionRedirect r fieldPath = some [] ↔ RedirectAccepted r := by
  simp only [validateActionRedirect, appendErrs_eq_some_nil, validateRedirectURL_eq_some_nil_iff,
    Option.some.injEq, ite_eq_right_iff, validateRedirectStatusCode_eq_nil_iff,
    redirectAccepted_iff, and_assoc]

theorem validateActionReturn_eq_some_nil_iff (r : ActionReturn) :
    validateActionReturn r fieldPath = some [] ↔ ReturnAccepted r := by
  have hvars := @validateStringWithVariables_eq_nil_iff returnBodyVariables
    returnBodySpecialVariables (fun _ h => h) (by decide) r.body (fieldPath.child "body")
  by_cases hbody : r.body = ""
  · simp [validateActionReturn, hbody, returnAccepted_iff]
  by_cases hesc : isEscapedString r.body.data = true
  · rw [returnAccepted_iff, and_iff_right hbody]
    simp only [validateActionReturn, if_neg hbody, validateActionReturnBody, hesc, if_true,
      appendErrs_eq_some_nil, hvars, Option.some.injEq, List.append_eq_nil, ite_eq_right_iff,
      validateActionReturnType, validateActionReturnCode, ite_eq_left_iff, List.cons_ne_nil,
      imp_false, not_not, ge_iff_le, true_and]
  · simp [validateActionReturn, hbody, validateActionReturnBody, hesc, returnAccepted_iff]

theorem validateReferencedUpstream_eq_nil_iff {upstreamNames : List String}
    (hnames : ∀ n ∈ upstreamNames, IsDNS1035Label n) (name : String) :
    validateReferencedUpstream name fieldPath upstreamNames = [] ↔ name ∈ upstreamNames := by
  unfold validateReferencedUpstream
  by_cases hmem : name ∈ upstreamNames
  · have hname : validateUpstreamName name fieldPath = [] :=
      (validateDNS1035Label_eq_nil_iff _ _).2 (hnames _ hmem)
    simp [hname, hmem]
  · simp only [hmem, not_false_eq_true, if_true, iff_false]
    split_ifs with h
    · exact List.ne_nil_of_length_pos h
    · simp

theorem validateAction_eq_some_nil_iff {upstreamNames : List String}
    (hnames : ∀ n ∈ upstreamNames, IsDNS1035Label n) (a : Action) :
    validateAction a fieldPath upstreamNames = some [] ↔ ActionAccepted upstreamNames a := by
  by_cases hcount : countActions a = 1
  · rw [actionAccepted_iff, actionValid_iff, and_iff_right (countActions_eq_one.1 hcount)]
    simp only [validateAction, hcount, ne_eq, not_true_eq_false, if_false, appendErrs_eq_some_nil,
      Option.some.injEq, ite_eq_right_iff, validateReferencedUpstream_eq_nil_iff _ hnames]
    rcases a.redirect with _ | rd <;> rcases a.return with _ | ret <;>
      simp [validateActionRedirect_eq_some_nil_iff, validateActionReturn_eq_some_nil_iff]
  · simp only [validateAction, ne_eq, hcount, not_false_eq_true, if_true, Option.some.injEq,
      List.cons_ne_nil, false_iff]
    exact fun h => hcount (countActions_eq_one.2 h.exactly_one)

end

/-! ## Splits, conditions and matches -/

/-- Splits `validateSplits` accepts: two or more, each with an accepted action and a weight
    in `[1, 99]`, the weights summing to 100. -/
structure SplitsAccepted (upstreamNames : List String) (splits : List Split) : Prop where
  two_le : 2 ≤ splits.length
  action : ∀ s ∈ splits, ∃ a, s.action = some a ∧ ActionAccepted upstreamNames a
  weight : ∀ s ∈ splits, 1 ≤ s.weight ∧ s.weight ≤ 99
  sum : (splits.map (·.weight)).sum = 100

/-- A match `validateMatch` accepts: a condition or more, each valid, and exactly one of an
    accepted action and accepted splits. -/
@[mk_iff]
structure MatchAccepted (upstreamNames : List String) (m : Match) : Prop where
  conditions_ne_nil : m.conditions ≠ []
  conditions : ∀ c ∈ m.conditions, ConditionValid c
  exactly_one : ExactlyOne [m.action.isSome, m.splits ≠ []]
  action : ∀ a, m.action = some a → ActionAccepted upstreamNames a
  splits : m.splits ≠ [] → SplitsAccepted upstreamNames m.splits

section
variable (fieldPath : Path) {upstreamNames : List String}
  (hnames : ∀ n ∈ upstreamNames, IsDNS1035Label n)
include hnames

theorem validateSplitsFrom_eq_some_nil_iff :
    ∀ (i : Nat) (splits : List Split),
      validateSplitsFrom fieldPath upstreamNames i splits = some [] ↔
        ∀ s ∈ splits, (∃ a, s.action = some a ∧ ActionAccepted upstreamNames a) ∧
          1 ≤ s.weight ∧ s.weight ≤ 99
  | _, [] => by simp [validateSplitsFrom]
  | i, s :: rest => by
    rw [validateSplitsFrom, appendErrs_eq_some_nil, appendErrs_eq_some_nil,
      validateSplitsFrom_eq_some_nil_iff (i + 1) rest, List.forall_mem_cons]
    rcases s with ⟨weight, _ | a⟩ <;>
      simp [validateAction_eq_some_nil_iff _ hnames, and_comm]

theorem validateSplits_eq_some_nil_iff (splits : List Split) :
    validateSplits splits fieldPath upstreamNames = some [] ↔ SplitsAccepted upstreamNames splits := by
  by_cases hlen : splits.length < 2
  · simp only [validateSplits, hlen, if_true, Option.some.injEq, List.cons_ne_nil, false_iff]
    exact fun h => absurd h.two_le (by omega)
  · simp only [validateSplits, hlen, if_false, appendErrs_eq_some_nil, Option.some.injEq,
      ite_eq_right_iff, validateSplitsFrom_eq_some_nil_iff _ hnames, List.cons_ne_nil, imp_false,
      not_not]
    exact ⟨fun ⟨h, hsum⟩ => ⟨by omega, fun s hs => (h s hs).1, fun s hs => (h s hs).2, hsum⟩,
      fun h => ⟨fun s hs => ⟨h.action s hs, h.weight s hs⟩, h.sum⟩⟩

omit hnames in
theorem validateCondition_eq_nil_iff (c : Condition) :
    validateCondition c fieldPath = [] ↔ ConditionValid c := by
  refine ⟨validateCondition_sound, fun h => ?_⟩
  have hcount := h.exactly_one
  simp only [ExactlyOne, count_true_cons, List.count_nil, decide_eq_true_eq] at hcount
  have hvar : c.variable ≠ "" → validateVariableName c.variable (fieldPath.child "variable") = [] :=
    fun hne => by
      have hmem := h.variable_name hne
      have hpre : ∀ v ∈ validVariableNames, Go.hasPrefix v "$" = true := by decide
      simp [validateVariableName, hpre _ hmem, hmem]
  simp only [validateCondition, List.append_eq_nil, ite_eq_right_iff, List.map_eq_nil_iff]
  exact ⟨⟨⟨⟨⟨h.header, h.cookie⟩, h.argument⟩, hvar⟩, fun hne => absurd hcount (by omega)⟩,
    by simp [isValidMatchValue, h.value]⟩

omit hnames in
theorem validateConditions_eq_nil_iff :
    ∀ (i : Nat) (cs : List Condition),
      validateConditions fieldPath i cs = [] ↔ ∀ c ∈ cs, ConditionValid c
  | _, [] => by simp [validateConditions]
  | i, c :: rest => by
    simp [validateConditions, validateCondition_eq_nil_iff, validateConditions_eq_nil_iff (i + 1) rest]

theorem validateMatch_eq_some_nil_iff (m : Match) :
    validateMatch m fieldPath upstreamNames = some [] ↔ MatchAccepted upstreamNames m := by
  rcases m with ⟨conditions, _ | a, splits⟩ <;> by_cases hc : conditions = [] <;>
    by_cases hs : splits = [] <;>
    simp [validateMatch, matchAccepted_iff, hc, hs, List.length_pos, ExactlyOne,
      validateConditions_eq_nil_iff, validateAction_eq_some_nil_iff _ hnames,
      validateSplits_eq_some_nil_iff _ hnames]

theorem validateMatches_eq_some_nil_iff :
    ∀ (i : Nat) (ms : List Match),
      validateMatches fieldPath upstreamNames i ms = some [] ↔ ∀ m ∈ ms, MatchAccepted upstreamNames m
  | _, [] => by simp [validateMatches]
  | i, m :: rest => by
    simp [validateMatches, validateMatch_eq_some_nil_iff _ hnames,
      validateMatches_eq_some_nil_iff (i + 1) rest]

end

/-! ## Routes -/

/-- A route path `validateRoutePath` accepts: `~` and a regular expression that compiles,
    with every `"` escaped; `=` and a path; or a path, `/` followed by no blank, brace or
    `;`. -/
def RoutePathAccepted (parsers : Parsers) (path : String) : Prop :=
  match path.data with
  | '~' :: _ => parsers.compileRegexp path = none ∧ isEscapedString path.data = true
  | '=' :: rest => isPath rest = true
  | _ => isPath path.data = true

/-- A route `validateRoute` accepts, where `isRouteFieldForbidden` says whether it may
    delegate to a VirtualServerRoute: an accepted path, action, splits and matches, a `route`
    only where one is allowed and then a qualified name, and exactly one of an action,
    splits and a `route`. -/
@[mk_iff]
structure RouteAccepted (parsers : Parsers) (upstreamNames : List String)
    (isRouteFieldForbidden : Bool) (r : Route) : Prop where
  path : RoutePathAccepted parsers r.path
  action : ∀ a, r.action = some a → ActionAccepted upstreamNames a
  splits : r.splits ≠ [] → SplitsAccepted upstreamNames r.splits
  matches_accepted : ∀ m ∈ r.matches, MatchAccepted upstreamNames m
  route : r.route ≠ "" → isRouteFieldForbidden = false ∧ isQualifiedName r.route = []
  exactly_one : ExactlyOne [r.action.isSome, r.splits ≠ [], r.route ≠ ""]

/-- A path starts with `/`. -/
theorem eq_of_isPath_cons {c : Char} {rest : List Char} (h : isPath (c :: rest) = true) :
    c = '/' := by
  unfold isPath at h
  split at h <;> simp_all

section
variable {parsers : Parsers} (fieldPath : Path)

theorem validateRoutePath_eq_nil_iff (path : String) :
    validateRoutePath parsers path fieldPath = [] ↔ RoutePathAccepted parsers path := by
  rcases path with ⟨_ | ⟨c, rest⟩⟩
  · simp [validateRoutePath, RoutePathAccepted, isPath]
  by_cases h1 : c = '~'
  · subst h1
    cases h : parsers.compileRegexp ⟨'~' :: rest⟩ <;>
      simp [validateRoutePath, validateRegexPath, RoutePathAccepted, Go.hasPrefix, h, String.ext_iff]
  by_cases h2 : c = '='
  · subst h2
    have hlen : "=".length = 1 := rfl
    simp [validateRoutePath, RoutePathAccepted, Go.hasPrefix, Go.trimPrefix, String.ext_iff, hlen]
  have hacc : RoutePathAccepted parsers ⟨c :: rest⟩ ↔ isPath (c :: rest) = true := by
    unfold RoutePathAccepted
    split <;> simp_all
  rw [hacc]
  by_cases h3 : c = '/'
  · subst h3
    simp [validateRoutePath, Go.hasPrefix, String.ext_iff]
  · refine iff_of_false ?_ fun h => h3 (eq_of_isPath_cons h)
    simp [validateRoutePath, Go.hasPrefix, String.ext_iff, Ne.symm h1, Ne.symm h2, Ne.symm h3]

variable {upstreamNames : List String} (hnames : ∀ n ∈ upstreamNames, IsDNS1035Label n)
include hnames

theorem validateRoute_eq_some_nil_iff (r : Route) (isRouteFieldForbidden : Bool) :
    validateRoute parsers r fieldPath upstreamNames isRouteFieldForbidden = some [] ↔
      RouteAccepted parsers upstreamNames isRouteFieldForbidden r := by
  simp only [validateRoute, appendErrs_eq_some_nil, Option.some.injEq, List.append_eq_nil,
    validateRoutePath_eq_nil_iff, validateMatches_eq_some_nil_iff _ hnames, routeAccepted_iff]
  refine and_congr_right' (and_congr ?action (and_congr ?splits (and_congr_right' ?fields)))
  case action => cases r.action <;> simp [validateAction_eq_some_nil_iff _ hnames]
  case splits =>
    by_cases hs : r.splits = [] <;>
      simp [hs, List.length_pos, validateSplits_eq_some_nil_iff _ hnames]
  case fields =>
    cases isRouteFieldForbidden
    · simp [routeFieldCount_false_eq_one, validateRouteField]
    · by_cases hr : r.route = ""
      · simp [hr, routeFieldCount_true_eq_one, ExactlyOne]
      · simp [hr]

/-- The loop of `validateVirtualServerRoutes` from route `i` on, with the distinct paths
    `allPaths` recorded before: no error exactly when the paths stay distinct and every route
    is accepted. -/
theorem validateVirtualServerRoutesFrom_eq_some_nil_iff :
    ∀ (i : Nat) (routes : List Route) (allPaths : List String), allPaths.Nodup →
      (validateVirtualServerRoutesFrom parsers fieldPath upstreamNames i routes allPaths = some [] ↔
        (allPaths ++ routes.map (·.path)).Nodup ∧
          ∀ r ∈ routes, RouteAccepted parsers upstreamNames false r)
  | _, [], _, hpaths => by simpa [validateVirtualServerRoutesFrom] using hpaths
  | i, r :: rest, allPaths, hpaths => by
    have hr := @validateRoute_eq_some_nil_iff parsers (fieldPath.index i) upstreamNames hnames r false
    rw [validateVirtualServerRoutesFrom]
    rcases hv : validateRoute parsers r (fieldPath.index i) upstreamNames false with _ | errs
    · simp [hv] at hr
      simp [hr]
    rcases errs with _ | ⟨e, errs⟩
    · have hacc := hr.1 hv
      by_cases hmem : r.path ∈ allPaths
      · simp [hmem, List.nodup_append]
      · simp only [hv, List.length_nil, gt_iff_lt, Nat.lt_irrefl, if_false, hmem,
          validateVirtualServerRoutesFrom_eq_some_nil_iff (i + 1) rest (allPaths ++ [r.path])
            (List.nodup_append.2 ⟨hpaths, List.nodup_singleton _, by simpa using hmem⟩),
          List.map_cons, List.forall_mem_cons, List.append_assoc, List.singleton_append, hacc,
          true_and]
    · have hnacc : ¬RouteAccepted parsers upstreamNames false r := fun h => by
        simp [hr.2 h] at hv
      simp [hnacc]

end

/-! ## VirtualServers -/

/-- A VirtualServer spec `validateVirtualServerSpec` accepts: a DNS-1123 host, a valid TLS
    block, valid upstreams, distinct route paths, and routes accepted against the names of
    the upstreams. -/
@[mk_iff]
structure VirtualServerAccepted (parsers : Parsers) (isPlus : Bool) (spec : VirtualServerSpec) :
    Prop where
  host : isDNS1123Subdomain spec.host = []
  tls : TLSValid spec.tls
  upstreams : UpstreamsValid spec.upstreams
  upstream_fields : ∀ u ∈ spec.upstreams, UpstreamFieldsValid parsers isPlus u
  paths_nodup : (spec.routes.map (·.path)).Nodup
  routes : ∀ r ∈ spec.routes, RouteAccepted parsers (spec.upstreams.map (·.name)) false r

section
variable {parsers : Parsers} (fieldPath : Path) (isPlus : Bool)

/-- The upstream loop finds no error in valid upstreams. -/
theorem validateUpstreams_eq_nil_of_valid {us : List Upstream} (hvalid : UpstreamsValid us)
    (hfields : ∀ u ∈ us, UpstreamFieldsValid parsers isPlus u) :
    (validateUpstreams parsers us fieldPath isPlus).1 = [] :=
  (validateUpstreamsFrom_eq_nil_iff fieldPath isPlus 0 us [] List.nodup_nil).2
    ⟨by simpa using hvalid.names_nodup, fun u hu => ⟨hvalid.names_label u hu, hfields u hu⟩⟩

/-- The names the upstream loop returns for upstreams it accepts are DNS-1035 labels. -/
theorem validateUpstreams_names_label {us : List Upstream}
    (h : (validateUpstreams parsers us fieldPath isPlus).1 = []) :
    ∀ n ∈ (validateUpstreams parsers us fieldPath isPlus).2, IsDNS1035Label n := by
  obtain ⟨hnames, hvalid⟩ := validateUpstreams_sound h
  rw [hnames]
  intro n hn
  obtain ⟨u, hu, rfl⟩ := List.mem_map.1 hn
  exact hvalid.names_label u hu

theorem validateVirtualServerSpec_eq_some_nil_iff (spec : VirtualServerSpec) :
    validateVirtualServerSpec parsers spec fieldPath isPlus = some [] ↔
      VirtualServerAccepted parsers isPlus spec := by
  simp only [validateVirtualServerSpec, validateVirtualServerRoutes, appendErrs_eq_some_nil,
    Option.some.injEq, List.append_eq_nil, validateHost_eq_nil_iff, validateTLS_eq_nil_iff,
    virtualServerAccepted_iff]
  by_cases hclean : (validateUpstreams parsers spec.upstreams (fieldPath.child "upstreams") isPlus).1 = []
  · obtain ⟨hnames, hvalid⟩ := validateUpstreams_sound hclean
    have hroutes := @validateVirtualServerRoutesFrom_eq_some_nil_iff parsers
      (fieldPath.child "routes") _ (validateUpstreams_names_label _ _ hclean) 0 spec.routes []
      List.nodup_nil
    rw [hnames] at hroutes
    simp only [hclean, hvalid, hnames, hroutes, List.nil_append, true_and, and_assoc,
      iff_true_intro (upstreamFieldsValid_of_validateUpstreams _ _ hclean)]
  · simp only [hclean, and_false, false_and, false_iff]
    exact fun h => hclean (validateUpstreams_eq_nil_of_valid _ _ h.2.2.1 h.2.2.2.1)

/-- **What `ValidateVirtualServer` accepts.** The validator returns no error for a
    VirtualServer exactly when its host is a DNS-1123 subdomain, its TLS block is valid, its
    upstreams are valid (`UpstreamChecks`), its route paths are distinct, and every route
    has an accepted path, exactly one of an action, splits and a qualified `route`, and
    accepted actions, splits and matches: each `pass` names one of the upstreams, each
    redirect URL and return body is in the language of its variables, each code and type is
    one NGINX reads. -/
theorem validateVirtualServer_eq_some_nil_iff (vs : VirtualServer) :
    validateVirtualServer parsers vs isPlus = some [] ↔
      VirtualServerAccepted parsers isPlus vs.spec := by
  rw [validateVirtualServer, map_toAggregate_eq_some_nil, validateVirtualServerSpec_eq_some_nil_iff]

end

/-! ## VirtualServerRoutes -/

/-- A VirtualServerRoute spec `validateVirtualServerRouteSpec` accepts for a VirtualServer
    with host `virtualServerHost` that delegates the path `vsPath` to it: a DNS-1123 host, the
    VirtualServer's if it has one, valid upstreams, distinct subroute paths, subroutes
    accepted with no `route` against the names of the upstreams and lying where
    `SubroutePathValid` allows, and a single subroute for a regular-expression or exact
    `vsPath`. -/
@[mk_iff]
structure VirtualServerRouteAccepted (parsers : Parsers) (isPlus : Bool)
    (virtualServerHost vsPath : String) (spec : VirtualServerRouteSpec) : Prop where
  host : isDNS1123Subdomain spec.host = []
  host_eq : virtualServerHost ≠ "" → spec.host = virtualServerHost
  upstreams : UpstreamsValid spec.upstreams
  upstream_fields : ∀ u ∈ spec.upstreams, UpstreamFieldsValid parsers isPlus u
  paths_nodup : (spec.subroutes.map (·.path)).Nodup
  subroutes : ∀ r ∈ spec.subroutes, RouteAccepted parsers (spec.upstreams.map (·.name)) true r
  paths_under : ∀ r ∈ spec.subroutes, SubroutePathValid vsPath r.path
  single_of_regex : isRegexOrExactMatch vsPath = true → spec.subroutes.length = 1

section
variable {parsers : Parsers} (fieldPath : Path) {vsPath : String}

theorem validateSubroutePath_eq_nil_iff (hvs : isRegexOrExactMatch vsPath = false)
    (path : String) (idxPath : Path) :
    validateSubroutePath path vsPath idxPath = [] ↔ SubroutePathValid vsPath path := by
  rw [SubroutePathValid, hvs, if_neg Bool.false_ne_true]
  by_cases h1 : vsPath = "" <;> by_cases h2 : Go.hasPrefix path vsPath = true <;>
    simp [validateSubroutePath, h1, h2]

variable {upstreamNames : List String} (hnames : ∀ n ∈ upstreamNames, IsDNS1035Label n)
include hnames

/-- The loop of `validateVirtualServerRouteSubroutes` for a prefix `vsPath`, from subroute
    `i` on, with the distinct paths `allPaths` recorded before: no error exactly when the
    paths stay distinct and every subroute is accepted and lies under `vsPath`. -/
theorem validateVirtualServerRouteSubroutesFrom_eq_some_nil_iff
    (hvs : isRegexOrExactMatch vsPath = false) :
    ∀ (i : Nat) (routes : List Route) (allPaths : List String), allPaths.Nodup →
      (validateVirtualServerRouteSubroutesFrom parsers fieldPath upstreamNames vsPath i routes
          allPaths = some [] ↔
        (allPaths ++ routes.map (·.path)).Nodup ∧
          ∀ r ∈ routes, RouteAccepted parsers upstreamNames true r ∧ SubroutePathValid vsPath r.path)
  | _, [], _, hpaths => by simpa [validateVirtualServerRouteSubroutesFrom] using hpaths
  | i, r :: rest, allPaths, hpaths => by
    have hr := @validateRoute_eq_some_nil_iff parsers (fieldPath.index i) upstreamNames hnames r true
    have hp := validateSubroutePath_eq_nil_iff hvs r.path (fieldPath.index i)
    rw [validateVirtualServerRouteSubroutesFrom]
    rcases hv : validateRoute parsers r (fieldPath.index i) upstreamNames true with _ | errs
    · simp [hv] at hr
      simp [hr]
    by_cases hclean : errs ++ validateSubroutePath r.path vsPath (fieldPath.index i) = []
    · obtain ⟨rfl, hpath⟩ := List.append_eq_nil.1 hclean
      have hacc := hr.1 hv
      by_cases hmem : r.path ∈ allPaths
      · simp [hpath, hmem, List.nodup_append]
      · simp only [hpath, List.append_nil, List.length_nil, gt_iff_lt, Nat.lt_irrefl, if_false,
          hmem, validateVirtualServerRouteSubroutesFrom_eq_some_nil_iff hvs (i + 1) rest
            (allPaths ++ [r.path])
            (List.nodup_append.2 ⟨hpaths, List.nodup_singleton _, by simpa using hmem⟩),
          List.map_cons, List.forall_mem_cons, List.append_assoc, List.singleton_append, hacc,
          hp.1 hpath, and_self, true_and]
    · have hnacc : ¬(RouteAccepted parsers upstreamNames true r ∧ SubroutePathValid vsPath r.path) :=
        fun ⟨h1, h2⟩ => hclean (by rw [Option.some.inj (hv.symm.trans (hr.2 h1)), hp.2 h2]; rfl)
      simp only [gt_iff_lt, List.length_pos.2 hclean, if_true, appendErrs_eq_some_nil,
        Option.some.injEq, hclean, false_and, false_iff]
      simp [hnacc]

theorem validateVirtualServerRouteSubroutes_eq_some_nil_iff (routes : List Route) :
    validateVirtualServerRouteSubroutes parsers routes fieldPath upstreamNames vsPath = some [] ↔
      (routes.map (·.path)).Nodup ∧ (∀ r ∈ routes, RouteAccepted parsers upstreamNames true r) ∧
        (∀ r ∈ routes, SubroutePathValid vsPath r.path) ∧
        (isRegexOrExactMatch vsPath = true → routes.length = 1) := by
  unfold validateVirtualServerRouteSubroutes
  cases hvs : isRegexOrExactMatch vsPath
  · rw [if_neg Bool.false_ne_true, validateVirtualServerRouteSubroutesFrom_eq_some_nil_iff _ hnames
      hvs 0 routes [] List.nodup_nil]
    simp [forall_and]
  · rcases routes with _ | ⟨r, _ | ⟨r', rest⟩⟩
    · simp
    · by_cases hp : r.path = vsPath <;>
        simp [hp, SubroutePathValid, hvs, validateRoute_eq_some_nil_iff _ hnames]
    · simp

end

section
variable {parsers : Parsers} (fieldPath : Path) (isPlus : Bool)

theorem validateVirtualServerRouteSpec_eq_some_nil_iff (spec : VirtualServerRouteSpec)
    (virtualServerHost vsPath : String) :
    validateVirtualServerRouteSpec parsers spec fieldPath virtualServerHost vsPath isPlus = some [] ↔
      VirtualServerRouteAccepted parsers isPlus virtualServerHost vsPath spec := by
  simp only [validateVirtualServerRouteSpec, appendErrs_eq_some_nil, Option.some.injEq,
    List.append_eq_nil, validateVirtualServerRouteHost_eq_nil_iff, virtualServerRouteAccepted_iff]
  by_cases hclean : (validateUpstreams parsers spec.upstreams (fieldPath.child "upstreams") isPlus).1 = []
  · obtain ⟨hnames, hvalid⟩ := validateUpstreams_sound hclean
    have hsubroutes := @validateVirtualServerRouteSubroutes_eq_some_nil_iff parsers
      (fieldPath.child "subroutes") vsPath _ (validateUpstreams_names_label _ _ hclean)
      spec.subroutes
    rw [hnames] at hsubroutes
    simp only [hclean, hvalid, hnames, hsubroutes, true_and, and_true, and_assoc,
      iff_true_intro (upstreamFieldsValid_of_validateUpstreams _ _ hclean)]
  · simp only [hclean, and_false, false_and, false_iff]
    exact fun h => hclean (validateUpstreams_eq_nil_of_valid _ _ h.2.2.1 h.2.2.2.1)

/-- **What `ValidateVirtualServerRouteForVirtualServer` accepts.** The validator returns no
    error for a VirtualServerRoute, checked against the host of a VirtualServer and the path
    that VirtualServer delegates to it, exactly when its host is a DNS-1123 subdomain equal
    to the VirtualServer's (if that has one), its upstreams are valid, its subroute paths are
    distinct, every subroute is accepted with no `route` and lies where the delegated path
    allows, and a regular-expression or exact delegated path has a single subroute. -/
theorem validateVirtualServerRouteForVirtualServer_eq_some_nil_iff (vsr : VirtualServerRoute)
    (virtualServerHost vsPath : String) :
    validateVirtualServerRouteForVirtualServer parsers vsr virtualServerHost vsPath isPlus =
        some [] ↔
      VirtualServerRouteAccepted parsers isPlus virtualServerHost vsPath vsr.spec := by
  rw [validateVirtualServerRouteForVirtualServer, map_toAggregate_eq_some_nil,
    validateVirtualServerRouteSpec_eq_some_nil_iff]

end

/-! ## What acceptance gives the generator

Acceptance refines the invariants of `Soundness`: they forget the grammars of the strings,
the codes and the types. -/

section
variable {parsers : Parsers} {isPlus : Bool}

/-- An accepted route path is a location path: it starts with `/`, `~` or `=`. -/
theorem RoutePathAccepted.isRoutePath {path : String} (h : RoutePathAccepted parsers path) :
    IsRoutePath path := by
  rcases path with ⟨_ | ⟨c, rest⟩⟩
  · simp [RoutePathAccepted, isPath] at h
  unfold RoutePathAccepted at h
  split at h
  · simp_all [IsRoutePath, Go.hasPrefix]
  · simp_all [IsRoutePath, Go.hasPrefix]
  · simp [IsRoutePath, Go.hasPrefix, eq_of_isPath_cons h]

section
variable {names : List String}

theorem SplitsAccepted.splitsValid {splits : List Split} (h : SplitsAccepted names splits) :
    SplitsValid names splits :=
  { h with action := fun s hs => (h.action s hs).imp fun _ ⟨ha, hacc⟩ => ⟨ha, hacc.toActionValid⟩ }

theorem MatchAccepted.matchValid {m : Match} (h : MatchAccepted names m) : MatchValid names m :=
  { h with
    action := fun a ha => (h.action a ha).toActionValid
    splits := fun hs => (h.splits hs).splitsValid }

theorem RouteAccepted.routeValid {forbidden : Bool} {r : Route}
    (h : RouteAccepted parsers names forbidden r) : RouteValid names r :=
  ⟨h.path.isRoutePath, fun a ha => (h.action a ha).toActionValid,
    fun hs => (h.splits hs).splitsValid, fun m hm => (h.matches_accepted m hm).matchValid⟩

end

theorem VirtualServerAccepted.specValid {spec : VirtualServerSpec}
    (h : VirtualServerAccepted parsers isPlus spec) : VirtualServerSpecValid spec :=
  ⟨h.upstreams, h.paths_nodup, fun r hr => (h.routes r hr).routeValid,
    fun r hr => (h.routes r hr).exactly_one⟩

theorem VirtualServerRouteAccepted.specValid {virtualServerHost vsPath : String}
    {spec : VirtualServerRouteSpec}
    (h : VirtualServerRouteAccepted parsers isPlus virtualServerHost vsPath spec) :
    VirtualServerRouteSpecValid vsPath spec := by
  have hempty : ∀ r ∈ spec.subroutes, r.route = "" := fun r hr =>
    Classical.byContradiction fun hne => absurd ((h.subroutes r hr).route hne).1 (by simp)
  refine ⟨h.upstreams, h.paths_nodup, fun r hr => (h.subroutes r hr).routeValid, hempty,
    fun r hr => ?_, h.paths_under, h.single_of_regex⟩
  simpa [ExactlyOne, hempty r hr] using (h.subroutes r hr).exactly_one

/-! ## The standalone check of a VirtualServerRoute -/

/-- Every location path lies where a VirtualServerRoute delegated `/` allows. -/
theorem IsRoutePath.subroutePathValid_root {path : String} (h : IsRoutePath path) :
    SubroutePathValid "/" path := by
  rw [SubroutePathValid, if_neg (by decide)]
  rcases h with h | h | h
  · exact .inr (.inl h)
  · exact .inr (.inr (by simp [isRegexOrExactMatch, h]))
  · exact .inr (.inr (by simp [isRegexOrExactMatch, h]))

/-- **A VirtualServerRoute accepted for a VirtualServer is accepted on its own.** The check
    `ValidateVirtualServerRoute` runs on a VirtualServerRoute before the VirtualServer that
    delegates to it is known, with no host and the path `/`; it rejects nothing that
    `ValidateVirtualServerRouteForVirtualServer` accepts for some host and delegated path. -/
theorem validateVirtualServerRoute_of_forVirtualServer {vsr : VirtualServerRoute}
    {virtualServerHost vsPath : String}
    (h : validateVirtualServerRouteForVirtualServer parsers vsr virtualServerHost vsPath isPlus =
      some []) :
    validateVirtualServerRoute parsers vsr isPlus = some [] := by
  rw [validateVirtualServerRouteForVirtualServer, map_toAggregate_eq_some_nil,
    validateVirtualServerRouteSpec_eq_some_nil_iff] at h
  rw [validateVirtualServerRoute, map_toAggregate_eq_some_nil,
    validateVirtualServerRouteSpec_eq_some_nil_iff]
  exact { h with
    host_eq := fun hne => absurd rfl hne
    paths_under := fun r hr => (h.subroutes r hr).path.isRoutePath.subroutePathValid_root
    single_of_regex := fun hregex => absurd hregex (by decide) }

theorem coffee_accepted_alone :
    validateVirtualServerRouteForVirtualServer lenientParsers coffee "cafe.example.com" "/coffee"
        false = some [] ∧
      validateVirtualServerRoute lenientParsers coffee false = some [] :=
  ⟨by decide, @validateVirtualServerRoute_of_forVirtualServer lenientParsers false coffee
    "cafe.example.com" "/coffee" (by decide)⟩

/-! ## The order of the lists -/

section
variable {names names' : List String} (hsub : names ⊆ names')
include hsub

/-- An action accepted against some upstream names is accepted against more. -/
theorem ActionAccepted.mono {a : Action} (h : ActionAccepted names a) : ActionAccepted names' a :=
  { h with pass_mem := fun hp => hsub (h.pass_mem hp) }

theorem SplitsAccepted.mono {splits : List Split} (h : SplitsAccepted names splits) :
    SplitsAccepted names' splits :=
  { h with action := fun s hs => (h.action s hs).imp fun _ ⟨ha, hacc⟩ => ⟨ha, hacc.mono hsub⟩ }

theorem MatchAccepted.mono {m : Match} (h : MatchAccepted names m) : MatchAccepted names' m :=
  { h with
    action := fun a ha => (h.action a ha).mono hsub
    splits := fun hs => (h.splits hs).mono hsub }

theorem RouteAccepted.mono {parsers : Parsers} {forbidden : Bool} {r : Route}
    (h : RouteAccepted parsers names forbidden r) : RouteAccepted parsers names' forbidden r :=
  { h with
    action := fun a ha => (h.action a ha).mono hsub
    splits := fun hs => (h.splits hs).mono hsub
    matches_accepted := fun m hm => (h.matches_accepted m hm).mono hsub }

end

theorem UpstreamsValid.perm {us us' : List Upstream} (hp : us.Perm us') (h : UpstreamsValid us) :
    UpstreamsValid us' :=
  ⟨((hp.map _).nodup_iff).1 h.names_nodup, fun u hu => h.names_label u (hp.mem_iff.2 hu)⟩

theorem VirtualServerAccepted.perm {spec spec' : VirtualServerSpec} (hhost : spec'.host = spec.host)
    (htls : spec'.tls = spec.tls) (hups : spec.upstreams.Perm spec'.upstreams)
    (hroutes : spec.routes.Perm spec'.routes) (h : VirtualServerAccepted parsers isPlus spec) :
    VirtualServerAccepted parsers isPlus spec' where
  host := hhost ▸ h.host
  tls := htls ▸ h.tls
  upstreams := h.upstreams.perm hups
  upstream_fields u hu := h.upstream_fields u (hups.mem_iff.2 hu)
  paths_nodup := ((hroutes.map _).nodup_iff).1 h.paths_nodup
  routes r hr := (h.routes r (hroutes.mem_iff.2 hr)).mono fun _ hn => ((hups.map _).mem_iff).1 hn

/-- **The order of the upstreams and of the routes never changes whether
    `ValidateVirtualServer` accepts.** Two VirtualServers with the same host and TLS block,
    whose upstreams and routes are the same up to order, are both accepted or both
    rejected. (The errors themselves follow the order.) -/
theorem validateVirtualServer_perm {vs vs' : VirtualServer} (hhost : vs'.spec.host = vs.spec.host)
    (htls : vs'.spec.tls = vs.spec.tls) (hups : vs.spec.upstreams.Perm vs'.spec.upstreams)
    (hroutes : vs.spec.routes.Perm vs'.spec.routes) :
    validateVirtualServer parsers vs' isPlus = some [] ↔
      validateVirtualServer parsers vs isPlus = some [] := by
  simp only [validateVirtualServer, map_toAggregate_eq_some_nil,
    validateVirtualServerSpec_eq_some_nil_iff]
  exact ⟨(·.perm hhost.symm htls.symm hups.symm hroutes.symm), (·.perm hhost htls hups hroutes)⟩

/-- `cafe` with its two routes in the other order. -/
def cafeReordered : VirtualServer :=
  { cafe with spec := { cafe.spec with routes := cafe.spec.routes.reverse } }

theorem cafeReordered_accepted :
    (validateVirtualServer lenientParsers cafeReordered false = some [] ↔
      validateVirtualServer lenientParsers cafe false = some []) :=
  validateVirtualServer_perm rfl rfl (List.Perm.refl _) (List.reverse_perm _).symm

end

end KubernetesIngress.Validation
