import KubernetesIngress.Configs.Validated

set_option autoImplicit false

/-! # The paths a server answers at

A `server` block answers requests at the paths of its locations that are not named (`@…`
locations are reached only by an internal redirect) and of its internal redirect
locations. Each route the generator lowers adds exactly one such path: a route with an
action adds its location, a route with splits or matches its internal redirect location.
For a route path that is not a regular expression that path is the route's own, so the
served paths are a permutation of the route paths of the VirtualServer and of all its
VirtualServerRoutes.

The validator checks that the route paths of one resource are distinct, but not across
resources: a VirtualServer route `/tea` and a subroute `/tea` of a VirtualServerRoute that
the route `/` delegates to are both accepted, and the server then has two locations
`/tea`.

A regular-expression path `~ p` is rendered by `generatePath` with its pattern in quotes,
`~ "p"`, but only where the route proxies to an upstream: a redirect, a return, splits and
matches answer at the path as written (`routePiece_servedPaths_eq`). And the validator
compiles the whole path, marker included, not the pattern that `generatePath` quotes
(`regexPath_pattern_not_compiled`). -/

namespace KubernetesIngress.Configs

open V1 Validation

/-- The paths a server answers at: those of its locations that are not named, and of its
    internal redirect locations. -/
def servedPaths (locations : List Version2.Location)
    (internalRedirectLocations : List Version2.InternalRedirectLocation) : List String :=
  (locations.map (·.path)).filter (fun path => !isNamedLocation path) ++
    internalRedirectLocations.map (·.path)

theorem servedPaths_append (l1 l2 : List Version2.Location)
    (i1 i2 : List Version2.InternalRedirectLocation) :
    (servedPaths (l1 ++ l2) (i1 ++ i2)).Perm (servedPaths l1 i1 ++ servedPaths l2 i2) := by
  simp only [servedPaths, List.map_append, List.filter_append, List.append_assoc]
  exact (List.perm_append_comm_assoc _ _ _).append_left _

/-- `generatePath` leaves a path that is not a regular expression alone. -/
theorem generatePath_of_not_regex {path : String} (h : Go.hasPrefix path "~" = false) :
    generatePath path = path := by
  have h' : Go.hasPrefix path "~*" = false := by
    rw [Bool.eq_false_iff] at h ⊢
    intro h'
    obtain ⟨t, ht⟩ := (Go.hasPrefix_iff _ _).1 h'
    exact h ((Go.hasPrefix_iff _ _).2 ⟨'*' :: t, by simpa using ht⟩)
  simp [generatePath, h, h']

/-! ## Regular-expression paths -/

/-- The pattern of a regular-expression path: the path without its `~*` or `~` marker and at
    most one space after it. -/
def regexPattern (path : String) : String :=
  Go.trimPrefix (if Go.hasPrefix path "~*" then Go.trimPrefix path "~*" else Go.trimPrefix path "~")
    " "

/-- `generatePath` quotes the pattern of a regular-expression path after its marker. -/
theorem generatePath_of_regex {path : String} (h : Go.hasPrefix path "~" = true) :
    generatePath path =
      (if Go.hasPrefix path "~*" then "~* \"" else "~ \"") ++ regexPattern path ++ "\"" := by
  unfold generatePath regexPattern
  split_ifs <;> rfl

/-- **The validator compiles the path, not the pattern NGINX receives.** With a library of
    regular expressions that compiles `~+a` (one or more `~`, then `a`) but not `+a` (a
    repetition of nothing), as RE2 does, the route path `~+a` is accepted, and the pattern
    `generatePath` quotes for it is `+a`, which the library rejects. -/
theorem regexPath_pattern_not_compiled {parsers : Parsers}
    (hpath : parsers.compileRegexp "~+a" = none) (hpattern : parsers.compileRegexp "+a" ≠ none)
    (fieldPath : Path) :
    validateRoutePath parsers "~+a" fieldPath = [] ∧
      generatePath "~+a" = "~ \"" ++ regexPattern "~+a" ++ "\"" ∧
      parsers.compileRegexp (regexPattern "~+a") ≠ none := by
  have hpre : Go.hasPrefix "~+a" "~" = true := by decide
  have hpat : regexPattern "~+a" = "+a" := by decide
  refine ⟨?_, by rw [generatePath_of_regex hpre]; rfl, hpat ▸ hpattern⟩
  rw [validateRoutePath, if_neg (by decide), if_pos hpre, validateRegexPath, hpath]
  rfl

/-- A library of regular expressions that, as RE2, compiles `~+a` and rejects `+a`. -/
def re2Sample : Parsers :=
  { lenientParsers with
    compileRegexp := fun re => if re = "+a" then some "missing argument to repetition operator: +"
      else none }

theorem re2Sample_regexPath_pattern :
    re2Sample.compileRegexp "~+a" = none ∧ re2Sample.compileRegexp "+a" ≠ none ∧
      (validateRoutePath re2Sample "~+a" (.new "path") = [] ∧
        generatePath "~+a" = "~ \"" ++ regexPattern "~+a" ++ "\"" ∧
        re2Sample.compileRegexp (regexPattern "~+a") ≠ none) :=
  ⟨rfl, by decide, regexPath_pattern_not_compiled rfl (by decide) _⟩

/-! ## One route -/

/-- Whether the lowering of route `r` is a location that proxies to an upstream: the route
    has no matches and no splits, and its action neither redirects nor returns. -/
def proxiesAtOwnPath (r : Route) : Bool :=
  r.matches.isEmpty && r.splits.isEmpty &&
    r.action.any fun a => !(a.redirect.isSome || a.return.isSome)

section
variable {upstreamNamer : UpstreamNamer} {crUpstreams : String → V1.Upstream}
  {variableNamer : VariableNamer} {cfgParams : ConfigParams} {index scIndex : Nat} {r : Route}
  {p : RoutePiece} {upstreamNames : List String}

/-- **The path at which the lowering of a valid route answers**: `generatePath` of the
    route's path where the route proxies to an upstream, the path itself for every other
    shape, a redirect, a return, splits or matches. -/
theorem routePiece_servedPaths_eq (hv : RouteValid upstreamNames r)
    (h : routePiece upstreamNamer crUpstreams variableNamer cfgParams index scIndex r = some p) :
    servedPaths p.locations p.internalRedirectLocations =
      [if proxiesAtOwnPath r then generatePath r.path else r.path] := by
  have hpaths := (routePiece_paths hv h).2
  have named : r.matches.length > 0 ∨ r.splits.length > 0 →
      (p.locations.map (·.path)).filter (fun path => !isNamedLocation path) = [] := by
    intro hms
    simp only [List.filter_eq_nil_iff, List.mem_map, Bool.not_eq_true', Bool.not_eq_false]
    rintro _ ⟨loc, hloc, rfl⟩
    rcases hpaths loc hloc with ⟨k, j, -, -, hp⟩ | ⟨-, ⟨i, hp⟩ | hp⟩ | ⟨hm, hs, -⟩
    · simp [hp]
    · simp [hp]
    · simp [hp]
    · omega
  rcases routePiece_cases h with ⟨hm, c, hc, rfl⟩ | ⟨hm, hs, sc, locs, hsp, rfl⟩ |
    ⟨hm, hs, a, ha, rfl⟩
  · obtain ⟨-, -, -, -, hirl, -⟩ := generateMatchesConfig_eq_some hc
    simp [servedPaths, named (.inl hm), hirl, proxiesAtOwnPath, List.length_pos.1 hm]
  · simp [servedPaths, named (.inr hs), proxiesAtOwnPath, List.length_pos.1 hs]
  · have hnamed := isNamedLocation_of_isRoutePath hv.path
    have hproxies : proxiesAtOwnPath r = !(a.redirect.isSome || a.return.isSome) := by
      simp only [gt_iff_lt, List.length_pos, not_not] at hm hs
      simp only [proxiesAtOwnPath, hm, hs, ha, List.isEmpty_nil, Option.any_some, Bool.true_and]
    simp only [servedPaths, List.map_cons, List.map_nil, generateLocation_path, List.append_nil,
      hproxies]
    cases a.redirect.isSome || a.return.isSome <;> simp [hnamed.1, hnamed.2]

/-- The VirtualServer `cafe` with two regular-expression routes: `~ ^/tea` returns a fixed
    answer, and `~ ^/coffee` splits between two passes to `tea`. -/
def cafeRegex : VirtualServer :=
  { cafe with spec := { cafe.spec with
      routes := [{ path := "~ ^/tea", action := some { «return» := some { code := 200, body := "tea" } } },
                 { path := "~ ^/coffee", splits := [{ weight := 50, action := some { pass := "tea" } },
                                                    { weight := 50, action := some { pass := "tea" } }] }] } }

/-- **A regular-expression path is quoted only where the route proxies.** Both routes of
    `cafeRegex` are valid, and the server answers at their paths as written, not at the quoted
    paths that `generatePath` renders. -/
theorem regexPaths_unquoted :
    validateVirtualServer lenientParsers cafeRegex false = some [] ∧
    (ossConfigurator.generateVirtualServerConfig "" { virtualServer := cafeRegex } "").map
        (fun g => servedPaths g.1.server.locations g.1.server.internalRedirectLocations) =
      some ["~ ^/tea", "~ ^/coffee"] ∧
    generatePath "~ ^/tea" = "~ \"^/tea\"" ∧ generatePath "~ ^/coffee" = "~ \"^/coffee\"" := by
  decide

/-- **The lowering of a valid route answers at the route's path and nowhere else**, for a
    path that is not a regular expression. -/
theorem routePiece_servedPaths (hv : RouteValid upstreamNames r)
    (hr : Go.hasPrefix r.path "~" = false)
    (h : routePiece upstreamNamer crUpstreams variableNamer cfgParams index scIndex r = some p) :
    servedPaths p.locations p.internalRedirectLocations = [r.path] := by
  rw [routePiece_servedPaths_eq hv h, generatePath_of_not_regex hr, ite_self]

theorem addRoute_servedPaths {st st' : RoutesState} (hv : RouteValid upstreamNames r)
    (hr : Go.hasPrefix r.path "~" = false)
    (h : addRoute upstreamNamer crUpstreams variableNamer cfgParams st r = some st') :
    (servedPaths st'.locations st'.internalRedirectLocations).Perm
      (servedPaths st.locations st.internalRedirectLocations ++ [r.path]) := by
  rw [addRoute_eq] at h
  obtain ⟨p, hp, rfl⟩ := Option.map_eq_some'.1 h
  rw [← routePiece_servedPaths hv hr hp]
  exact servedPaths_append _ _ _ _

end

/-! ## The route loops -/

section
variable {crUpstreams : String → V1.Upstream} {variableNamer : VariableNamer}
  {cfgParams : ConfigParams}

/-- **A loop over subroutes adds their paths.** -/
theorem subroutes_servedPaths {upstreamNamer : UpstreamNamer} {upstreamNames : List String} :
    ∀ {routes : List Route}, (∀ r ∈ routes, RouteValid upstreamNames r ∧
      Go.hasPrefix r.path "~" = false) → ∀ {st st' : RoutesState},
      routes.foldlM (addRoute upstreamNamer crUpstreams variableNamer cfgParams) st = some st' →
      (servedPaths st'.locations st'.internalRedirectLocations).Perm
        (servedPaths st.locations st.internalRedirectLocations ++ routes.map (·.path))
  | [], _, _, _, h => by cases h; simp
  | r :: routes, hv, st, st', h => by
    simp only [List.foldlM_cons, Option.bind_eq_bind, Option.bind_eq_some] at h
    obtain ⟨st1, h1, h2⟩ := h
    have ih := subroutes_servedPaths (fun r' hr' => hv r' (List.mem_cons_of_mem _ hr')) h2
    have hr := hv r (List.mem_cons_self _ _)
    simpa using ih.trans ((addRoute_servedPaths hr.1 hr.2 h1).append_right _)

/-- **The loop over the routes of a VirtualServer adds the paths of the routes that do not
    delegate.** -/
theorem virtualServerRoutes_servedPaths {upstreamNamer : UpstreamNamer}
    {upstreamNames : List String} :
    ∀ {routes : List Route}, (∀ r ∈ routes, r.route = "" → RouteValid upstreamNames r ∧
      Go.hasPrefix r.path "~" = false) → ∀ {st st' : RoutesState},
      routes.foldlM (addVirtualServerRoute upstreamNamer crUpstreams variableNamer cfgParams) st =
        some st' →
      (servedPaths st'.locations st'.internalRedirectLocations).Perm
        (servedPaths st.locations st.internalRedirectLocations ++
          (routes.filter (·.route == "")).map (·.path))
  | [], _, _, _, h => by cases h; simp
  | r :: routes, hv, st, st', h => by
    simp only [List.foldlM_cons, Option.bind_eq_bind, Option.bind_eq_some] at h
    obtain ⟨st1, h1, h2⟩ := h
    have ih := virtualServerRoutes_servedPaths (fun r' hr' => hv r' (List.mem_cons_of_mem _ hr')) h2
    unfold addVirtualServerRoute at h1
    by_cases hroute : r.route = ""
    · rw [if_neg (not_not_intro hroute)] at h1
      have hr := hv r (List.mem_cons_self _ _) hroute
      simpa [hroute] using ih.trans ((addRoute_servedPaths hr.1 hr.2 h1).append_right _)
    · rw [if_pos hroute] at h1
      cases h1
      simpa [hroute] using ih

/-- **The loop over the VirtualServerRoutes adds the paths of all their subroutes.** -/
theorem virtualServerRouteSubroutes_servedPaths (vs : VirtualServer) :
    ∀ {vsrs : List VirtualServerRoute}, (∀ vsr ∈ vsrs, ∀ r ∈ vsr.spec.subroutes,
      RouteValid (vsr.spec.upstreams.map (·.name)) r ∧ Go.hasPrefix r.path "~" = false) →
      ∀ {st st' : RoutesState},
      vsrs.foldlM (fun rs vsr => vsr.spec.subroutes.foldlM (addRoute
        (newUpstreamNamerForVirtualServerRoute vs vsr) crUpstreams variableNamer cfgParams) rs) st =
        some st' →
      (servedPaths st'.locations st'.internalRedirectLocations).Perm
        (servedPaths st.locations st.internalRedirectLocations ++
          (vsrs.map fun vsr => vsr.spec.subroutes.map (·.path)).flatten)
  | [], _, _, _, h => by cases h; simp
  | vsr :: vsrs, hv, st, st', h => by
    simp only [List.foldlM_cons, Option.bind_eq_bind, Option.bind_eq_some] at h
    obtain ⟨st1, h1, h2⟩ := h
    have ih := virtualServerRouteSubroutes_servedPaths vs
      (fun vsr' hvsr' => hv vsr' (List.mem_cons_of_mem _ hvsr')) h2
    simpa using ih.trans ((subroutes_servedPaths (hv vsr (List.mem_cons_self _ _)) h1).append_right _)

end

/-! ## The whole server -/

/-- The paths of the routes a configuration lowers: the VirtualServer's routes that do not
    delegate, then the subroutes of every VirtualServerRoute. -/
def routePaths (vsx : VirtualServerEx) : List String :=
  (vsx.virtualServer.spec.routes.filter (·.route == "")).map (·.path) ++
    (vsx.virtualServerRoutes.map fun vsr => vsr.spec.subroutes.map (·.path)).flatten

/-- **A server answers at the paths of the routes, each once**, when no route path is a
    regular expression: its paths are a permutation of the route paths, so they are
    distinct exactly when the route paths of the VirtualServer and of all its
    VirtualServerRoutes are. -/
theorem generateVirtualServerConfig_servedPaths_perm {parsers : Parsers} {isPlus : Bool}
    (vsc : VirtualServerConfigurator) (pemFileNameForMissingTLSSecret tlsPemFileName : String)
    {vsx : VirtualServerEx} (hvs : validateVirtualServer parsers vsx.virtualServer isPlus = some [])
    (hvsrs : VirtualServerRoutesAccepted parsers isPlus vsx)
    (hregex : ∀ path ∈ routePaths vsx, Go.hasPrefix path "~" = false) :
    ∃ cfg warnings, vsc.generateVirtualServerConfig pemFileNameForMissingTLSSecret vsx
      tlsPemFileName = some (cfg, warnings) ∧
      (servedPaths cfg.server.locations cfg.server.internalRedirectLocations).Perm (routePaths vsx) ∧
      ((servedPaths cfg.server.locations cfg.server.internalRedirectLocations).Nodup ↔
        (routePaths vsx).Nodup) := by
  have hspec := validateVirtualServer_sound hvs
  obtain ⟨cfg, _, -, hgen, -⟩ := generateVirtualServerConfig_of_valid vsc
    pemFileNameForMissingTLSSecret tlsPemFileName vsx hspec hvsrs.specValid
  obtain ⟨_, _, r1, rs, -, -, h3, h4, -, -, -, hlocs, hirls⟩ := generateVirtualServerConfig_eq_some hgen
  have hr1 := virtualServerRoutes_servedPaths
    (fun r hr hroute => ⟨hspec.routes r hr, hregex _ (List.mem_append_left _
      (List.mem_map_of_mem _ (List.mem_filter.2 ⟨hr, by simpa using hroute⟩)))⟩) h3
  have hrs := virtualServerRouteSubroutes_servedPaths vsx.virtualServer (fun vsr hvsr r hr => by
    obtain ⟨_, hvalid⟩ := hvsrs.specValid vsr hvsr
    exact ⟨hvalid.subroutes r hr, hregex _ (List.mem_append_right _ (List.mem_flatten.2
      ⟨_, List.mem_map_of_mem _ hvsr, List.mem_map_of_mem _ hr⟩))⟩) h4
  have hperm : (servedPaths cfg.server.locations cfg.server.internalRedirectLocations).Perm
      (routePaths vsx) := by
    rw [hlocs, hirls]
    simpa [servedPaths, routePaths] using hrs.trans (hr1.append_right _)
  exact ⟨cfg, _, hgen, hperm, hperm.nodup_iff⟩

theorem cafe_servedPaths_perm : ∃ cfg warnings,
    ossConfigurator.generateVirtualServerConfig "" cafeEx "" = some (cfg, warnings) ∧
      cfg.server.internalRedirectLocations.length = 2 ∧
      (servedPaths cfg.server.locations cfg.server.internalRedirectLocations).Perm
        (routePaths cafeEx) ∧
      ((servedPaths cfg.server.locations cfg.server.internalRedirectLocations).Nodup ↔
        (routePaths cafeEx).Nodup) := by
  obtain ⟨cfg, warnings, hgen, hperm⟩ := generateVirtualServerConfig_servedPaths_perm
    ossConfigurator "" "" cafeSplits_validated cafeEx_accepted (by decide)
  exact ⟨cfg, warnings, hgen, (cafeEx_lowered hgen).2.2.2, hperm⟩

/-- The VirtualServer `cafe` with a route `/tea` of its own and a route `/` delegated to the
    VirtualServerRoute `default/menu`. -/
def cafeWithMenu : VirtualServer :=
  { cafe with spec := { cafe.spec with
      routes := [{ path := "/tea", action := some { pass := "tea" } },
                 { path := "/", route := "default/menu" }] } }

/-- The VirtualServerRoute `default/menu`, with a subroute `/tea`. -/
def menu : VirtualServerRoute :=
  { «namespace» := "default", name := "menu"
    spec := { host := "cafe.example.com"
              upstreams := [{ name := "tea", service := "tea-svc", port := 80 }]
              subroutes := [{ path := "/tea", action := some { pass := "tea" } }] } }

/-- **A VirtualServer route and a subroute can share a path.** Both resources are valid, the
    VirtualServerRoute against the path `/` of the route that delegates to it, and the server
    has two locations `/tea`. -/
theorem servedPaths_duplicate :
    validateVirtualServer lenientParsers cafeWithMenu false = some [] ∧
    validateVirtualServerRouteForVirtualServer lenientParsers menu "cafe.example.com" "/" false =
      some [] ∧
    (ossConfigurator.generateVirtualServerConfig ""
      { virtualServer := cafeWithMenu, virtualServerRoutes := [menu] } "").map
        (fun g => servedPaths g.1.server.locations g.1.server.internalRedirectLocations) =
      some ["/tea", "/tea"] := by
  decide

end KubernetesIngress.Configs
