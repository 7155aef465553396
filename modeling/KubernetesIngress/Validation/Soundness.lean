import KubernetesIngress.Validation.Routes

set_option autoImplicit false

/-! # What a clean validation establishes

`ValidateVirtualServer` and `ValidateVirtualServerRouteForVirtualServer` return a list of
errors. This file states, as predicates over the `v1` types, the invariants that the
configuration generator relies on, and proves that a resource for which the validator
returns no error satisfies them at every depth: the actions of routes, matches and splits,
the splits of routes and of matches, and the conditions of matches.

Each check gets one lemma saying what its clean result means (`validateAction_sound`,
`validateSplits_sound`, ...); the lemmas for a whole resource are assembled from them.
The loops over upstreams and routes record a name or a path only for an entry without
errors, so their lemmas carry the list recorded so far. -/

namespace KubernetesIngress.Validation

open V1

/-! ## The invariants -/

/-- Exactly one of the flags is set. -/
def ExactlyOne (flags : List Bool) : Prop := flags.count true = 1

/-- A DNS-1035 label: at most 63 bytes of `[a-z]([-a-z0-9]*[a-z0-9])?`. -/
def IsDNS1035Label (name : String) : Prop :=
  name.utf8ByteSize ≤ 63 ∧ isDNS1035LabelChars name.data = true

/-- A DNS-1035 label has no `_`, the separator of the names the generator builds from it. -/
theorem IsDNS1035Label.underscore_not_mem {name : String} (h : IsDNS1035Label name) :
    '_' ∉ name.data := fun hm => by
  have h := h.2
  simp only [isDNS1035LabelChars, isDNS1123LabelChars, Bool.and_eq_true, List.all_eq_true] at h
  exact absurd (h.2.2 '_' hm) (by decide)

/-- The upstreams of a resource: pairwise distinct names, each a DNS-1035 label. -/
structure UpstreamsValid (upstreams : List Upstream) : Prop where
  names_nodup : (upstreams.map (·.name)).Nodup
  names_label : ∀ u ∈ upstreams, IsDNS1035Label u.name

/-- An action sets exactly one of `pass`, `redirect` and `return`, and a `pass` names one
    of the upstreams of its resource. -/
structure ActionValid (upstreamNames : List String) (a : Action) : Prop where
  exactly_one : ExactlyOne [a.pass ≠ "", a.redirect.isSome, a.return.isSome]
  pass_mem : a.pass ≠ "" → a.pass ∈ upstreamNames

/-- A list of splits has two entries or more, each with a valid action and a weight in
    `[1, 99]`, and the weights sum to 100. -/
structure SplitsValid (upstreamNames : List String) (splits : List Split) : Prop where
  two_le : 2 ≤ splits.length
  action : ∀ s ∈ splits, ∃ a, s.action = some a ∧ ActionValid upstreamNames a
  weight : ∀ s ∈ splits, 1 ≤ s.weight ∧ s.weight ≤ 99
  sum : (splits.map (·.weight)).sum = 100

/-- A condition reads exactly one of a header, a cookie, an argument and a variable, each
    named in its grammar, and its value is an escaped string. -/
structure ConditionValid (c : Condition) : Prop where
  exactly_one : ExactlyOne [c.header ≠ "", c.cookie ≠ "", c.argument ≠ "", c.variable ≠ ""]
  header : c.header ≠ "" → isHTTPHeaderName c.header = []
  cookie : c.cookie ≠ "" → isCookieName c.cookie = []
  argument : c.argument ≠ "" → isArgumentName c.argument = []
  variable_name : c.variable ≠ "" → c.variable ∈ validVariableNames
  value : isEscapedString c.value.data = true

/-- A match has a condition or more, each valid, and exactly one of an action and splits. -/
structure MatchValid (upstreamNames : List String) (m : Match) : Prop where
  conditions_ne_nil : m.conditions ≠ []
  conditions : ∀ c ∈ m.conditions, ConditionValid c
  exactly_one : ExactlyOne [m.action.isSome, m.splits ≠ []]
  action : ∀ a, m.action = some a → ActionValid upstreamNames a
  splits : m.splits ≠ [] → SplitsValid upstreamNames m.splits

/-- A prefix (`/`), regular-expression (`~`) or exact-match (`=`) location path. -/
def IsRoutePath (path : String) : Prop :=
  Go.hasPrefix path "/" = true ∨ Go.hasPrefix path "~" = true ∨ Go.hasPrefix path "=" = true

/-- What every route of either resource satisfies: its path is a location path, and its
    action, splits and matches are valid. Which of them a route must set depends on the
    resource. -/
structure RouteValid (upstreamNames : List String) (r : Route) : Prop where
  path : IsRoutePath r.path
  action : ∀ a, r.action = some a → ActionValid upstreamNames a
  splits : r.splits ≠ [] → SplitsValid upstreamNames r.splits
  matches_valid : ∀ m ∈ r.matches, MatchValid upstreamNames m

/-- A valid VirtualServer: valid upstreams, distinct route paths, and routes that are valid
    and set exactly one of an action, splits and a reference to a VirtualServerRoute. -/
structure VirtualServerSpecValid (spec : VirtualServerSpec) : Prop where
  upstreams : UpstreamsValid spec.upstreams
  paths_nodup : (spec.routes.map (·.path)).Nodup
  routes : ∀ r ∈ spec.routes, RouteValid (spec.upstreams.map (·.name)) r
  exactly_one : ∀ r ∈ spec.routes, ExactlyOne [r.action.isSome, r.splits ≠ [], r.route ≠ ""]

/-- Where a subroute of a VirtualServerRoute referenced from the route path `vsPath` may
    be: at `vsPath` itself for a regular-expression or exact `vsPath`, and otherwise under
    the prefix `vsPath`, or at a regular-expression or exact path. -/
def SubroutePathValid (vsPath path : String) : Prop :=
  if isRegexOrExactMatch vsPath = true then path = vsPath
  else vsPath = "" ∨ Go.hasPrefix path vsPath = true ∨ isRegexOrExactMatch path = true

/-- A valid VirtualServerRoute for the route path `vsPath`: valid upstreams, distinct
    subroute paths under `vsPath` (only one subroute for a regular-expression or exact
    `vsPath`), and subroutes that are valid, set no `route` and exactly one of an action
    and splits. -/
structure VirtualServerRouteSpecValid (vsPath : String) (spec : VirtualServerRouteSpec) :
    Prop where
  upstreams : UpstreamsValid spec.upstreams
  paths_nodup : (spec.subroutes.map (·.path)).Nodup
  subroutes : ∀ r ∈ spec.subroutes, RouteValid (spec.upstreams.map (·.name)) r
  route_empty : ∀ r ∈ spec.subroutes, r.route = ""
  exactly_one : ∀ r ∈ spec.subroutes, ExactlyOne [r.action.isSome, r.splits ≠ []]
  paths_under : ∀ r ∈ spec.subroutes, SubroutePathValid vsPath r.path
  single_of_regex : isRegexOrExactMatch vsPath = true → spec.subroutes.length = 1

/-! ## Counting flags -/

@[simp] theorem count_true_cons (b : Bool) (l : List Bool) :
    (b :: l).count true = l.count true + if b then 1 else 0 := by
  cases b <;> simp

theorem countActions_eq_one {a : Action} :
    countActions a = 1 ↔ ExactlyOne [a.pass ≠ "", a.redirect.isSome, a.return.isSome] := by
  simp only [countActions, ExactlyOne, count_true_cons, List.count_nil, decide_eq_true_eq]
  omega

theorem routeFieldCount_false_eq_one {r : Route} :
    routeFieldCount r false = 1 ↔ ExactlyOne [r.action.isSome, r.splits ≠ [], r.route ≠ ""] := by
  simp only [routeFieldCount, ExactlyOne, count_true_cons, List.count_nil, decide_eq_true_eq,
    Bool.not_false, and_true, List.length_pos]
  omega

theorem routeFieldCount_true_eq_one {r : Route} :
    routeFieldCount r true = 1 ↔ ExactlyOne [r.action.isSome, r.splits ≠ []] := by
  simp only [routeFieldCount, ExactlyOne, count_true_cons, List.count_nil, decide_eq_true_eq,
    Bool.not_true, Bool.false_eq_true, and_false, if_false, List.length_pos]
  omega

/-! ## Clean results of the checks -/

private theorem eraseDups_loop_ne_nil {α : Type} [BEq α] (l bs : List α) (h : bs ≠ []) :
    List.eraseDups.loop l bs ≠ [] := by
  induction l generalizing bs with
  | nil => simpa [List.eraseDups.loop] using h
  | cons a l ih =>
    unfold List.eraseDups.loop
    split
    · exact ih bs h
    · exact ih _ (List.cons_ne_nil _ _)

@[simp] theorem toAggregate_eq_nil {errs : List FieldError} : toAggregate errs = [] ↔ errs = [] := by
  cases errs with
  | nil => rfl
  | cons a l =>
    simpa [toAggregate, List.eraseDups, List.eraseDups.loop] using
      eraseDups_loop_ne_nil l [a] (by simp)

@[simp] theorem isInRange_eq_nil {value lo hi : Int} :
    isInRange value lo hi = [] ↔ lo ≤ value ∧ value ≤ hi := by
  simp only [isInRange]
  split_ifs <;> simp <;> omega

theorem validateUpstreamName_sound {name : String} {fieldPath : Path}
    (h : validateUpstreamName name fieldPath = []) : IsDNS1035Label name := by
  simp only [validateUpstreamName, validateDNS1035Label, isDNS1035Label] at h
  split_ifs at h with hname hlen hchars <;> simp_all [IsDNS1035Label]

theorem mem_of_validateReferencedUpstream_eq_nil {name : String} {fieldPath : Path}
    {upstreamNames : List String} (h : validateReferencedUpstream name fieldPath upstreamNames = []) :
    name ∈ upstreamNames := by
  simp only [validateReferencedUpstream] at h
  split_ifs at h with herrs hmem
  · simp [h] at herrs
  · exact hmem

section
variable {fieldPath : Path} {upstreamNames : List String}

theorem validateAction_sound {a : Action} (h : validateAction a fieldPath upstreamNames = some []) :
    ActionValid upstreamNames a := by
  by_cases hcount : countActions a ≠ 1
  · simp [validateAction, hcount] at h
  simp only [validateAction, if_neg hcount, appendErrs_eq_some_nil, Option.some.injEq] at h
  refine ⟨countActions_eq_one.1 (not_not.1 hcount), fun hpass => ?_⟩
  exact mem_of_validateReferencedUpstream_eq_nil (by simpa [hpass] using h.1)

theorem validateSplitsFrom_sound {i : Nat} {splits : List Split}
    (h : validateSplitsFrom fieldPath upstreamNames i splits = some []) :
    ∀ s ∈ splits, (∃ a, s.action = some a ∧ ActionValid upstreamNames a) ∧
      1 ≤ s.weight ∧ s.weight ≤ 99 := by
  induction splits generalizing i with
  | nil => simp
  | cons s rest ih =>
    simp only [validateSplitsFrom, appendErrs_eq_some_nil, Option.some.injEq, List.map_eq_nil_iff,
      isInRange_eq_nil] at h
    obtain ⟨⟨hweight, haction⟩, hrest⟩ := h
    refine List.forall_mem_cons.2 ⟨⟨?_, hweight⟩, ih hrest⟩
    cases hs : s.action with
    | none => simp [hs] at haction
    | some a => exact ⟨a, rfl, validateAction_sound (by simpa [hs] using haction)⟩

theorem validateSplits_sound {splits : List Split}
    (h : validateSplits splits fieldPath upstreamNames = some []) : SplitsValid upstreamNames splits := by
  by_cases hlen : splits.length < 2
  · simp [validateSplits, hlen] at h
  simp only [validateSplits, if_neg hlen, appendErrs_eq_some_nil, Option.some.injEq,
    ite_eq_right_iff] at h
  have hsplits := validateSplitsFrom_sound h.1
  exact ⟨by omega, fun s hs => (hsplits s hs).1, fun s hs => (hsplits s hs).2,
    by simpa using h.2⟩

theorem validateCondition_sound {c : Condition} (h : validateCondition c fieldPath = []) :
    ConditionValid c := by
  simp only [validateCondition, List.append_eq_nil, ite_eq_right_iff, List.map_eq_nil_iff] at h
  obtain ⟨⟨⟨⟨⟨hheader, hcookie⟩, hargument⟩, hvariable⟩, hcount⟩, hvalue⟩ := h
  refine ⟨?_, hheader, hcookie, hargument, fun hne => ?_, by simpa [isValidMatchValue] using hvalue⟩
  · simp only [ExactlyOne, count_true_cons, List.count_nil, decide_eq_true_eq]
    by_contra hne
    exact absurd (hcount (by omega)) (by simp)
  · have h := hvariable hne
    simp only [validateVariableName] at h
    split_ifs at h with h1 h2
    exact h2

theorem validateConditions_sound {i : Nat} {cs : List Condition}
    (h : validateConditions fieldPath i cs = []) : ∀ c ∈ cs, ConditionValid c := by
  induction cs generalizing i with
  | nil => simp
  | cons c rest ih =>
    simp only [validateConditions, List.append_eq_nil] at h
    exact List.forall_mem_cons.2 ⟨validateCondition_sound h.1, ih h.2⟩

theorem validateMatch_sound {m : Match} (h : validateMatch m fieldPath upstreamNames = some []) :
    MatchValid upstreamNames m := by
  simp only [validateMatch, appendErrs_eq_some_nil, Option.some.injEq] at h
  obtain ⟨hconds, haction, hsplits, hcount⟩ := h
  split_ifs at hconds with hlen
  refine ⟨by simpa using hlen, validateConditions_sound hconds, ?_, ?_, ?_⟩
  · simp only [ite_eq_right_iff] at hcount
    simp only [ExactlyOne, count_true_cons, List.count_nil, decide_eq_true_eq]
    by_contra hne
    exact absurd (hcount (by simp only [List.length_pos] at *; omega)) (by simp)
  · intro a ha
    exact validateAction_sound (by simpa [ha] using haction)
  · intro hne
    exact validateSplits_sound (by simpa [List.length_pos.2 hne] using hsplits)

theorem validateMatches_sound {i : Nat} {ms : List Match}
    (h : validateMatches fieldPath upstreamNames i ms = some []) :
    ∀ m ∈ ms, MatchValid upstreamNames m := by
  induction ms generalizing i with
  | nil => simp
  | cons m rest ih =>
    simp only [validateMatches, appendErrs_eq_some_nil] at h
    exact List.forall_mem_cons.2 ⟨validateMatch_sound h.1, ih h.2⟩

variable {parsers : Parsers}

theorem validateRoutePath_sound {path : String} (h : validateRoutePath parsers path fieldPath = []) :
    IsRoutePath path := by
  simp only [validateRoutePath] at h
  split_ifs at h with hempty htilde hslash hexact
  · exact .inr (.inl htilde)
  · exact .inl hslash
  · exact .inr (.inr hexact)

theorem validateRoute_sound {r : Route} {isRouteFieldForbidden : Bool}
    (h : validateRoute parsers r fieldPath upstreamNames isRouteFieldForbidden = some []) :
    RouteValid upstreamNames r ∧ routeFieldCount r isRouteFieldForbidden = 1 ∧
      (isRouteFieldForbidden = true → r.route = "") := by
  simp only [validateRoute, appendErrs_eq_some_nil, Option.some.injEq, List.append_eq_nil] at h
  obtain ⟨hpath, haction, hsplits, hmatches, hroute, hcount⟩ := h
  refine ⟨⟨validateRoutePath_sound hpath, fun a ha => validateAction_sound (by simpa [ha] using haction),
    fun hne => validateSplits_sound (by simpa [List.length_pos.2 hne] using hsplits),
    validateMatches_sound hmatches⟩, ?_, fun hforbidden => ?_⟩
  · by_contra hne
    simp [hne] at hcount
  · by_contra hne
    simp [hne, hforbidden] at hroute

theorem validateUpstreamsFrom_sound {isPlus : Bool} {i : Nat} {upstreams : List Upstream}
    {acc : List String} (h : (validateUpstreamsFrom parsers fieldPath isPlus i upstreams acc).1 = [])
    (hacc : acc.Nodup) :
    (validateUpstreamsFrom parsers fieldPath isPlus i upstreams acc).2 =
        acc ++ upstreams.map (·.name) ∧
      (acc ++ upstreams.map (·.name)).Nodup ∧ ∀ u ∈ upstreams, IsDNS1035Label u.name := by
  induction upstreams generalizing i acc with
  | nil => simpa [validateUpstreamsFrom] using hacc
  | cons u rest ih =>
    simp only [validateUpstreamsFrom, List.append_eq_nil] at h ⊢
    obtain ⟨⟨hname, -⟩, hrest⟩ := h
    split_ifs at hname hrest ⊢ with herrs hmem
    · exact absurd hname (List.ne_nil_of_length_pos herrs)
    · have hname : validateUpstreamName u.name ((fieldPath.index i).child "name") = [] :=
        List.eq_nil_of_length_eq_zero (by omega)
      obtain ⟨hnames, hnodup, hlabels⟩ :=
        ih hrest (by simp [List.nodup_append, hacc, hmem])
      simp only [List.append_assoc, List.singleton_append] at hnames hnodup
      exact ⟨by simpa using hnames, by simpa using hnodup,
        List.forall_mem_cons.2 ⟨validateUpstreamName_sound hname, hlabels⟩⟩

theorem validateUpstreams_sound {upstreams : List Upstream} {isPlus : Bool}
    (h : (validateUpstreams parsers upstreams fieldPath isPlus).1 = []) :
    (validateUpstreams parsers upstreams fieldPath isPlus).2 = upstreams.map (·.name) ∧
      UpstreamsValid upstreams := by
  obtain ⟨hnames, hnodup, hlabels⟩ := validateUpstreamsFrom_sound h List.nodup_nil
  exact ⟨by simpa using hnames, by simpa using hnodup, hlabels⟩

theorem validateVirtualServerRoutesFrom_sound {i : Nat} {routes : List Route}
    {allPaths : List String}
    (h : validateVirtualServerRoutesFrom parsers fieldPath upstreamNames i routes allPaths = some [])
    (hpaths : allPaths.Nodup) :
    (allPaths ++ routes.map (·.path)).Nodup ∧
      ∀ r ∈ routes, RouteValid upstreamNames r ∧ routeFieldCount r false = 1 := by
  induction routes generalizing i allPaths with
  | nil => simpa using hpaths
  | cons r rest ih =>
    simp only [validateVirtualServerRoutesFrom] at h
    cases hr : validateRoute parsers r (fieldPath.index i) upstreamNames false with
    | none => simp [hr] at h
    | some errs =>
      simp only [hr] at h
      split_ifs at h with herrs hmem
      · simp only [appendErrs_eq_some_nil, Option.some.injEq] at h
        simp [h.1] at herrs
      · simp at h
      · rw [List.eq_nil_of_length_eq_zero (by omega : errs.length = 0)] at hr
        obtain ⟨hnodup, hrest⟩ := ih h (by simp [List.nodup_append, hpaths, hmem])
        obtain ⟨hvalid, hcount, -⟩ := validateRoute_sound hr
        exact ⟨by simpa using hnodup, List.forall_mem_cons.2 ⟨⟨hvalid, hcount⟩, hrest⟩⟩

theorem validateVirtualServerSpec_sound {spec : VirtualServerSpec} {isPlus : Bool}
    (h : validateVirtualServerSpec parsers spec fieldPath isPlus = some []) :
    VirtualServerSpecValid spec := by
  simp only [validateVirtualServerSpec, validateVirtualServerRoutes, appendErrs_eq_some_nil,
    Option.some.injEq, List.append_eq_nil] at h
  obtain ⟨⟨⟨-, -⟩, hupstreams⟩, hroutes⟩ := h
  obtain ⟨hnames, hvalid⟩ := validateUpstreams_sound hupstreams
  rw [hnames] at hroutes
  obtain ⟨hnodup, hrs⟩ := validateVirtualServerRoutesFrom_sound hroutes List.nodup_nil
  exact ⟨hvalid, by simpa using hnodup, fun r hr => (hrs r hr).1,
    fun r hr => routeFieldCount_false_eq_one.1 (hrs r hr).2⟩

theorem validateVirtualServer_sound {vs : VirtualServer} {isPlus : Bool}
    (h : validateVirtualServer parsers vs isPlus = some []) : VirtualServerSpecValid vs.spec := by
  obtain ⟨errs, herrs, hnil⟩ := Option.map_eq_some'.1 h
  exact validateVirtualServerSpec_sound (by rwa [toAggregate_eq_nil.1 hnil] at herrs)

/-- What a subroute accepted by `validateVirtualServerRouteSubroutes` satisfies, besides its
    path being distinct from the others. -/
structure SubrouteValid (upstreamNames : List String) (vsPath : String) (r : Route) : Prop where
  valid : RouteValid upstreamNames r
  route_empty : r.route = ""
  exactly_one : ExactlyOne [r.action.isSome, r.splits ≠ []]
  path_under : SubroutePathValid vsPath r.path

theorem subrouteValid_of_validateRoute {vsPath : String} {r : Route}
    (h : validateRoute parsers r fieldPath upstreamNames true = some [])
    (hpath : SubroutePathValid vsPath r.path) : SubrouteValid upstreamNames vsPath r := by
  obtain ⟨hvalid, hcount, hroute⟩ := validateRoute_sound h
  exact ⟨hvalid, hroute rfl, routeFieldCount_true_eq_one.1 hcount, hpath⟩

theorem validateVirtualServerRouteSubroutesFrom_sound {vsPath : String} {i : Nat}
    {routes : List Route} {allPaths : List String}
    (hregex : isRegexOrExactMatch vsPath = false)
    (h : validateVirtualServerRouteSubroutesFrom parsers fieldPath upstreamNames vsPath i routes
      allPaths = some [])
    (hpaths : allPaths.Nodup) :
    (allPaths ++ routes.map (·.path)).Nodup ∧ ∀ r ∈ routes, SubrouteValid upstreamNames vsPath r := by
  induction routes generalizing i allPaths with
  | nil => simpa using hpaths
  | cons r rest ih =>
    simp only [validateVirtualServerRouteSubroutesFrom] at h
    cases hr : validateRoute parsers r (fieldPath.index i) upstreamNames true with
    | none => simp [hr] at h
    | some errs =>
      simp only [hr] at h
      split_ifs at h with herrs hmem
      · simp only [appendErrs_eq_some_nil, Option.some.injEq] at h
        simp [h.1] at herrs
      · simp at h
      · simp only [List.length_append, gt_iff_lt, not_lt, Nat.le_zero, Nat.add_eq_zero,
          List.length_eq_zero] at herrs
        rw [herrs.1] at hr
        obtain ⟨hnodup, hrest⟩ := ih h (by simp [List.nodup_append, hpaths, hmem])
        have hpath : SubroutePathValid vsPath r.path := by
          have hunder := herrs.2
          simp only [validateSubroutePath, ite_eq_right_iff, reduceCtorEq, imp_false, not_and,
            not_not] at hunder
          simp only [SubroutePathValid, hregex, Bool.false_eq_true, if_false]
          by_cases hempty : vsPath = ""
          · exact .inl hempty
          · by_cases hpre : Go.hasPrefix r.path vsPath = true
            · exact .inr (.inl hpre)
            · exact .inr (.inr (by simpa using hunder hempty hpre))
        exact ⟨by simpa using hnodup,
          List.forall_mem_cons.2 ⟨subrouteValid_of_validateRoute hr hpath, hrest⟩⟩

theorem validateVirtualServerRouteSubroutes_sound {routes : List Route} {vsPath : String}
    (h : validateVirtualServerRouteSubroutes parsers routes fieldPath upstreamNames vsPath = some []) :
    (routes.map (·.path)).Nodup ∧ (∀ r ∈ routes, SubrouteValid upstreamNames vsPath r) ∧
      (isRegexOrExactMatch vsPath = true → routes.length = 1) := by
  simp only [validateVirtualServerRouteSubroutes] at h
  cases hregex : isRegexOrExactMatch vsPath with
  | false =>
    simp only [hregex, Bool.false_eq_true, if_false] at h
    obtain ⟨hnodup, hrs⟩ := validateVirtualServerRouteSubroutesFrom_sound hregex h List.nodup_nil
    exact ⟨by simpa using hnodup, hrs, by simp⟩
  | true =>
    simp only [hregex, if_true] at h
    match routes, h with
    | [r], h =>
      by_cases hpath : r.path = vsPath
      · simp only [hpath, ne_eq, not_true_eq_false, if_false] at h
        refine ⟨List.nodup_singleton _, ?_, fun _ => rfl⟩
        exact List.forall_mem_singleton.2 <| subrouteValid_of_validateRoute h (by
          simp [SubroutePathValid, hregex, hpath])
      · simp [hpath] at h
    | [], h => simp at h
    | _ :: _ :: _, h => simp at h

theorem validateVirtualServerRouteSpec_sound {spec : VirtualServerRouteSpec}
    {virtualServerHost vsPath : String} {isPlus : Bool}
    (h : validateVirtualServerRouteSpec parsers spec fieldPath virtualServerHost vsPath isPlus =
      some []) :
    VirtualServerRouteSpecValid vsPath spec := by
  simp only [validateVirtualServerRouteSpec, appendErrs_eq_some_nil, Option.some.injEq,
    List.append_eq_nil] at h
  obtain ⟨⟨-, hupstreams⟩, hsubroutes⟩ := h
  obtain ⟨hnames, hvalid⟩ := validateUpstreams_sound hupstreams
  rw [hnames] at hsubroutes
  obtain ⟨hnodup, hrs, hsingle⟩ := validateVirtualServerRouteSubroutes_sound hsubroutes
  exact ⟨hvalid, hnodup, fun r hr => (hrs r hr).valid, fun r hr => (hrs r hr).route_empty,
    fun r hr => (hrs r hr).exactly_one, fun r hr => (hrs r hr).path_under, hsingle⟩

theorem validateVirtualServerRouteForVirtualServer_sound {vsr : VirtualServerRoute}
    {virtualServerHost vsPath : String} {isPlus : Bool}
    (h : validateVirtualServerRouteForVirtualServer parsers vsr virtualServerHost vsPath isPlus =
      some []) :
    VirtualServerRouteSpecValid vsPath vsr.spec := by
  obtain ⟨errs, herrs, hnil⟩ := Option.map_eq_some'.1 h
  exact validateVirtualServerRouteSpec_sound (by rwa [toAggregate_eq_nil.1 hnil] at herrs)

end

/-! ## Both entry points

The fixtures are the `cafe` VirtualServer, which serves `/tea` itself and delegates
`/coffee` to the `coffee` VirtualServerRoute. They have no time, load-balancing method or
regular expression, so the validator calls none of its parsers on them. -/

/-- Parsers that accept every time, method and regular expression. -/
def lenientParsers : Parsers :=
  { parseTime := fun _ => none, parseLBMethod := fun _ => none
    parseLBMethodForPlus := fun _ => none, compileRegexp := fun _ => none }

/-- The VirtualServer `default/cafe`. -/
def cafe : VirtualServer :=
  { «namespace» := "default", name := "cafe"
    spec := { host := "cafe.example.com"
              upstreams := [{ name := "tea", service := "tea-svc", port := 80 }]
              routes := [{ path := "/tea", action := some { pass := "tea" } },
                         { path := "/coffee", route := "default/coffee" }] } }

/-- The VirtualServerRoute `default/coffee`, referenced from the route `/coffee` of `cafe`. -/
def coffee : VirtualServerRoute :=
  { «namespace» := "default", name := "coffee"
    spec := { host := "cafe.example.com"
              upstreams := [{ name := "coffee", service := "coffee-svc", port := 80 }]
              subroutes := [{ path := "/coffee", action := some { pass := "coffee" } }] } }

/-- The VirtualServer `default/cafe` with splits and matches: `/tea` splits between its
    upstreams `tea` and `coffee`, `/coffee` delegates to `default/coffee`, and `/specials`
    sends a request with the header `x-version: v2` to splits of its own, one with a cookie
    `user` other than `admin` and the argument `mode=beta` to `tea`, and any other to its
    default splits. -/
def cafeSplits : VirtualServer :=
  { «namespace» := "default", name := "cafe"
    spec := {
      host := "cafe.example.com"
      upstreams := [{ name := "tea", service := "tea-svc", port := 80 },
                    { name := "coffee", service := "coffee-svc", port := 80 }]
      routes := [
        { path := "/tea"
          splits := [{ weight := 90, action := some { pass := "tea" } },
                     { weight := 10, action := some { pass := "coffee" } }] },
        { path := "/coffee", route := "default/coffee" },
        { path := "/specials"
          «matches» := [
            { conditions := [{ header := "x-version", value := "v2" }]
              splits := [{ weight := 50, action := some { pass := "tea" } },
                         { weight := 50, action := some { pass := "coffee" } }] },
            { conditions := [{ cookie := "user", value := "!admin" },
                             { argument := "mode", value := "beta" }]
              action := some { pass := "tea" } }]
          splits := [{ weight := 80, action := some { pass := "coffee" } },
                     { weight := 20, action := some { pass := "tea" } }] }] } }

theorem cafeSplits_validated : validateVirtualServer lenientParsers cafeSplits false = some [] := by
  decide

/-- **The validator establishes the invariants.** A VirtualServer without errors, and a
    VirtualServerRoute without errors for the route path `vsPath` that references it,
    satisfy their invariants, whatever the parsers of times, methods and regular
    expressions accept. -/
theorem validation_establishes_invariants (parsers : Parsers) :
    (∀ (vs : VirtualServer) (isPlus : Bool), validateVirtualServer parsers vs isPlus = some [] →
      VirtualServerSpecValid vs.spec) ∧
    (∀ (vsr : VirtualServerRoute) (virtualServerHost vsPath : String) (isPlus : Bool),
      validateVirtualServerRouteForVirtualServer parsers vsr virtualServerHost vsPath isPlus =
        some [] → VirtualServerRouteSpecValid vsPath vsr.spec) :=
  ⟨fun _ _ => validateVirtualServer_sound, fun _ _ _ _ => validateVirtualServerRouteForVirtualServer_sound⟩

theorem cafe_satisfies_invariants :
    VirtualServerSpecValid cafeSplits.spec ∧ VirtualServerRouteSpecValid "/coffee" coffee.spec :=
  ⟨(validation_establishes_invariants lenientParsers).1 cafeSplits false cafeSplits_validated,
    (validation_establishes_invariants lenientParsers).2 coffee "cafe.example.com" "/coffee" false
      (by decide)⟩

end KubernetesIngress.Validation
