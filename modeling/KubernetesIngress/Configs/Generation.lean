import KubernetesIngress.Configs.Routing

set_option autoImplicit false

/-! # What `GenerateVirtualServerConfig` produces from validated resources

The loops of `GenerateVirtualServerConfig` thread accumulators through the upstreams of the
VirtualServer and of each VirtualServerRoute, then through the routes of the VirtualServer
and the subroutes of each VirtualServerRoute. For each loop this file states the invariant
of its accumulators, proves that one step keeps it (from the lemmas on one route in
`Routing`), and lifts it to the whole run. The results: on validated input the generator
returns, every split client carries valid weights, the identifiers it numbers are distinct,
and every name the configuration uses is defined in it. -/

namespace KubernetesIngress.Configs

open V1 Validation

/-! ## Runs of a loop -/

/-- A loop whose step, from a state with `P`, returns a state with `P`, returns one too. -/
theorem foldlM_preserves {α β : Type} (f : β → α → Option β) (P : β → Prop) (l : List α)
    (hstep : ∀ b x, x ∈ l → P b → ∃ b', f b x = some b' ∧ P b') (b : β) (hb : P b) :
    ∃ b', l.foldlM f b = some b' ∧ P b' := by
  induction l generalizing b with
  | nil => exact ⟨b, rfl, hb⟩
  | cons x l ih =>
    obtain ⟨b', hb', hp⟩ := hstep b x (by simp) hb
    obtain ⟨b'', hb'', hp'⟩ := ih (fun b y hy => hstep b y (by simp [hy])) b' hp
    exact ⟨b'', by simp [hb', hb''], hp'⟩

/-- What every step of a loop keeps holds at the end of a run that returns. -/
theorem foldlM_inv {α β : Type} {f : β → α → Option β} (P : β → Prop)
    (hstep : ∀ b x b', P b → f b x = some b' → P b') :
    ∀ (l : List α) {b b' : β}, P b → l.foldlM f b = some b' → P b'
  | [], _, _, hb, h => by cases h; exact hb
  | x :: l, b, b', hb, h => by
    simp only [List.foldlM_cons, Option.bind_eq_bind, Option.bind_eq_some] at h
    obtain ⟨b1, h1, h2⟩ := h
    exact foldlM_inv P hstep l (hstep b x b1 hb h1) h2

/-- A run of a loop that can fail and a run of a total loop over the same list stay related
    when every pair of steps keeps them related. -/
theorem foldlM_foldl_rel {α β γ : Type} {f : β → α → Option β} {g : γ → α → γ}
    (R : β → γ → Prop) (hstep : ∀ b c x b', R b c → f b x = some b' → R b' (g c x)) :
    ∀ (l : List α) {b b' : β} {c : γ}, R b c → l.foldlM f b = some b' → R b' (l.foldl g c)
  | [], _, _, _, hb, h => by cases h; exact hb
  | x :: l, b, b', c, hb, h => by
    simp only [List.foldlM_cons, Option.bind_eq_bind, Option.bind_eq_some] at h
    obtain ⟨b1, h1, h2⟩ := h
    exact foldlM_foldl_rel R hstep l (hstep b c x b1 hb h1) h2

/-! ## The route loops -/

/-- A named location path of the pieces before: a split location of one of the first
    `scCount` split clients, or a location of one of the first `matchesCount` matches
    routes. -/
def NamedBelow (scCount matchesCount : Nat) (path : String) : Prop :=
  (∃ k j, k < scCount ∧ path = splitLocationPath k j) ∨
    (∃ idx i, idx < matchesCount ∧ path = matchLocationPath idx i) ∨
    (∃ idx, idx < matchesCount ∧ path = defaultLocationPath idx)

/-- A map variable of one of the first `matchesCount` matches routes. -/
def MapVariableBelow (variableNamer : VariableNamer) (matchesCount : Nat) (v : String) : Prop :=
  (∃ idx i j, idx < matchesCount ∧ v = variableNamer.getNameForVariableForMatchesRouteMap idx i j) ∨
    (∃ idx, idx < matchesCount ∧ v = variableNamer.getNameForVariableForMatchesRouteMainMap idx)

/-- The invariant of the accumulators of the route loops. `LocOK` is what each location
    satisfies (where a proxying location points). -/
structure RoutesInvariant (variableNamer : VariableNamer) (LocOK : Version2.Location → Prop)
    (st : RoutesState) : Prop where
  weights : ∀ sc ∈ st.splitClients, SplitClientWeightsValid sc
  numbered : st.splitClients.map (·.variable) =
    (List.range st.splitClients.length).map variableNamer.getNameForSplitClientVariable
  map_vars : ∀ m ∈ st.maps, MapVariableBelow variableNamer st.matchesRoutes m.variable
  map_vars_nodup : (st.maps.map (·.variable)).Nodup
  named : ∀ loc ∈ st.locations, isNamedLocation loc.path = true →
    NamedBelow st.splitClients.length st.matchesRoutes loc.path
  named_nodup : ((st.locations.map (·.path)).filter isNamedLocation).Nodup
  distributions : ∀ sc ∈ st.splitClients, ∀ d ∈ sc.distributions,
    d.value ∈ st.locations.map (·.path)
  results : ∀ m ∈ st.maps,
    ((∃ idx, m.variable = variableNamer.getNameForVariableForMatchesRouteMainMap idx) ∧
      ∀ q ∈ m.parameters, (isNamedLocation q.result = true ∧ q.result ∈ st.locations.map (·.path)) ∨
        q.result ∈ st.splitClients.map (·.variable)) ∨
    ((∃ idx i j, m.variable = variableNamer.getNameForVariableForMatchesRouteMap idx i j) ∧
      ∀ q ∈ m.parameters, q.result = "0" ∨ q.result = "1" ∨ q.result ∈ st.maps.map (·.variable))
  destinations : ∀ irl ∈ st.internalRedirectLocations,
    irl.destination ∈ st.maps.map (·.variable) ∨ irl.destination ∈ st.splitClients.map (·.variable)
  locations : ∀ loc ∈ st.locations, LocOK loc

/-- Every variable the route loops have defined starts with `$`. -/
theorem RoutesInvariant.hasPrefix_variable {variableNamer : VariableNamer}
    {LocOK : Version2.Location → Prop} {st : RoutesState} (hinv : RoutesInvariant variableNamer LocOK st) :
    ∀ v ∈ st.splitClients.map (·.variable) ++ st.maps.map (·.variable), Go.hasPrefix v "$" = true := by
  intro v hv
  rcases List.mem_append.1 hv with hv | hv
  · rw [hinv.numbered] at hv
    obtain ⟨i, -, rfl⟩ := List.mem_map.1 hv
    exact variableNamer.hasPrefix_dollar_of_data (variableNamer.data_getNameForSplitClientVariable i)
  · obtain ⟨m, hm, rfl⟩ := List.mem_map.1 hv
    rcases hinv.map_vars m hm with ⟨idx, i, j, -, hv⟩ | ⟨idx, -, hv⟩ <;> rw [hv]
    · exact variableNamer.hasPrefix_dollar_of_data
        (variableNamer.data_getNameForVariableForMatchesRouteMap idx i j)
    · exact variableNamer.hasPrefix_dollar_of_data
        (variableNamer.data_getNameForVariableForMatchesRouteMainMap idx)

theorem routesInvariant_empty (variableNamer : VariableNamer) (LocOK : Version2.Location → Prop) :
    RoutesInvariant variableNamer LocOK {} :=
  ⟨by simp, rfl, by simp, List.nodup_nil, by simp, List.nodup_nil, by simp, by simp, by simp,
    by simp⟩

section
variable {variableNamer : VariableNamer} {LocOK : Version2.Location → Prop} {st : RoutesState}
  {p : RoutePiece} {b : Bool}

@[simp] theorem RoutesState.append_maps : (st.append p b).maps = st.maps ++ p.maps := rfl
@[simp] theorem RoutesState.append_locations :
    (st.append p b).locations = st.locations ++ p.locations := rfl
@[simp] theorem RoutesState.append_internalRedirectLocations :
    (st.append p b).internalRedirectLocations =
      st.internalRedirectLocations ++ p.internalRedirectLocations := rfl
@[simp] theorem RoutesState.append_splitClients :
    (st.append p b).splitClients = st.splitClients ++ p.splitClients := rfl
@[simp] theorem RoutesState.append_matchesRoutes :
    (st.append p b).matchesRoutes = st.matchesRoutes + if b then 1 else 0 := rfl

theorem MapVariableBelow.mono {m m' : Nat} {v : String} (h : MapVariableBelow variableNamer m v)
    (hm : m ≤ m') : MapVariableBelow variableNamer m' v := by
  rcases h with ⟨idx, i, j, hidx, hv⟩ | ⟨idx, hidx, hv⟩
  · exact .inl ⟨idx, i, j, by omega, hv⟩
  · exact .inr ⟨idx, by omega, hv⟩

/-- A map variable of an earlier matches route is none of those of matches route `m`. -/
theorem MapVariableBelow.ne {m : Nat} {v v' : String} (h : MapVariableBelow variableNamer m v)
    (h' : (∃ i j, v' = variableNamer.getNameForVariableForMatchesRouteMap m i j) ∨
      v' = variableNamer.getNameForVariableForMatchesRouteMainMap m) : v ≠ v' := by
  rintro rfl
  rcases h with ⟨idx, i, j, hidx, rfl⟩ | ⟨idx, hidx, rfl⟩ <;>
    rcases h' with ⟨i', j', h'⟩ | h'
  · have := (VariableNamer.getNameForVariableForMatchesRouteMap_inj _ h').1
    omega
  · exact VariableNamer.getNameForVariableForMatchesRouteMap_ne_mainMap _ _ _ _ _ h'
  · exact VariableNamer.getNameForVariableForMatchesRouteMap_ne_mainMap _ _ _ _ _ h'.symm
  · have := VariableNamer.getNameForVariableForMatchesRouteMainMap_inj _ h'
    omega

theorem NamedBelow.mono {n n' m m' : Nat} {path : String} (h : NamedBelow n m path) (hn : n ≤ n')
    (hm : m ≤ m') : NamedBelow n' m' path := by
  rcases h with ⟨k, j, hk, hp⟩ | ⟨idx, i, hidx, hp⟩ | ⟨idx, hidx, hp⟩
  · exact .inl ⟨k, j, by omega, hp⟩
  · exact .inr (.inl ⟨idx, i, by omega, hp⟩)
  · exact .inr (.inr ⟨idx, by omega, hp⟩)

theorem NamedBelow.ne_splitLocationPath {n m k j : Nat} {path : String} (h : NamedBelow n m path)
    (hk : n ≤ k) : path ≠ splitLocationPath k j := by
  rintro rfl
  rcases h with ⟨k', j', hk', hp⟩ | ⟨idx, i, -, hp⟩ | ⟨idx, -, hp⟩
  · have := (splitLocationPath_inj hp).1
    omega
  · exact splitLocationPath_ne_matchLocationPath _ _ _ _ hp
  · exact splitLocationPath_ne_defaultLocationPath _ _ _ hp

theorem NamedBelow.ne_matchesPath {n m : Nat} {path : String} (h : NamedBelow n m path)
    (h' : (∃ i, path = matchLocationPath m i) ∨ path = defaultLocationPath m) : False := by
  rcases h with ⟨k, j, -, hp⟩ | ⟨idx, i, hidx, hp⟩ | ⟨idx, hidx, hp⟩ <;>
    rcases h' with ⟨i', h'⟩ | h'
  · exact splitLocationPath_ne_matchLocationPath _ _ _ _ (hp.symm.trans h')
  · exact splitLocationPath_ne_defaultLocationPath _ _ _ (hp.symm.trans h')
  · have := (matchLocationPath_inj (hp.symm.trans h')).1
    omega
  · exact matchLocationPath_ne_defaultLocationPath _ _ _ (hp.symm.trans h')
  · exact matchLocationPath_ne_defaultLocationPath _ _ _ (h'.symm.trans hp)
  · have := defaultLocationPath_inj (hp.symm.trans h')
    omega

/-- **Appending the piece of a valid route keeps the invariant.** -/
theorem routesInvariant_append {upstreamNamer : UpstreamNamer} {crUpstreams : String → V1.Upstream}
    {cfgParams : ConfigParams} {upstreamNames : List String} {r : Route}
    (hinv : RoutesInvariant variableNamer LocOK st) (hv : RouteValid upstreamNames r)
    (h : routePiece upstreamNamer crUpstreams variableNamer cfgParams st.matchesRoutes
      st.splitClients.length r = some p)
    (hloc : ∀ loc ∈ p.locations, LocOK loc) :
    RoutesInvariant variableNamer LocOK (st.append p (r.matches.length > 0)) := by
  have hmaps := routePiece_maps h
  have hpaths := routePiece_paths hv h
  constructor
  case weights =>
    simp only [RoutesState.append_splitClients, List.mem_append]
    rintro sc (hsc | hsc)
    · exact hinv.weights sc hsc
    · exact routePiece_weights hv h sc hsc
  case numbered =>
    rw [RoutesState.append_splitClients, List.map_append, hinv.numbered, routePiece_variables h,
      List.length_append, List.range_eq_range', List.range_eq_range', ← List.map_append]
    congr 1
    rw [Nat.add_comm]
    simpa using List.range'_append_1 0 st.splitClients.length p.splitClients.length
  case map_vars =>
    simp only [RoutesState.append_maps, RoutesState.append_matchesRoutes, List.mem_append]
    rintro m (hm | hm)
    · exact (hinv.map_vars m hm).mono (by omega)
    · obtain ⟨hmatches, hvar⟩ := hmaps.2 m hm
      simp only [hmatches, decide_True, if_true]
      rcases hvar with ⟨i, j, hj⟩ | hj
      · exact .inl ⟨_, i, j, Nat.lt_succ_self _, hj⟩
      · exact .inr ⟨_, Nat.lt_succ_self _, hj⟩
  case map_vars_nodup =>
    rw [RoutesState.append_maps, List.map_append, List.nodup_append]
    refine ⟨hinv.map_vars_nodup, hmaps.1, fun v hv hv' => ?_⟩
    obtain ⟨m, hm, rfl⟩ := List.mem_map.1 hv
    obtain ⟨m', hm', hvar⟩ := List.mem_map.1 hv'
    exact (hinv.map_vars m hm).ne (hmaps.2 m' hm').2 hvar.symm
  case named =>
    simp only [RoutesState.append_locations, RoutesState.append_splitClients,
      RoutesState.append_matchesRoutes, List.length_append, List.mem_append]
    rintro loc (hloc | hloc) hnamed
    · exact (hinv.named loc hloc hnamed).mono (by omega) (by omega)
    · rcases hpaths.2 loc hloc with ⟨k, j, hk, hk', hp⟩ | ⟨hm, hp⟩ | ⟨-, -, hn, -⟩
      · exact .inl ⟨k, j, by omega, hp⟩
      · simp only [hm, decide_True, if_true]
        rcases hp with ⟨i, hp⟩ | hp
        · exact .inr (.inl ⟨_, i, Nat.lt_succ_self _, hp⟩)
        · exact .inr (.inr ⟨_, Nat.lt_succ_self _, hp⟩)
      · simp [hn] at hnamed
  case named_nodup =>
    rw [RoutesState.append_locations, List.map_append, List.filter_append, List.nodup_append]
    refine ⟨hinv.named_nodup, hpaths.1.filter _, fun q hq hq' => ?_⟩
    rw [List.mem_filter] at hq hq'
    obtain ⟨loc, hloc, rfl⟩ := List.mem_map.1 hq.1
    obtain ⟨loc', hloc', hpath⟩ := List.mem_map.1 hq'.1
    have hold := hinv.named loc hloc hq.2
    rcases hpaths.2 loc' hloc' with ⟨k, j, hk, -, hp⟩ | ⟨-, hp⟩ | ⟨-, -, hn, -⟩
    · exact hold.ne_splitLocationPath hk (hpath ▸ hp)
    · exact hold.ne_matchesPath (hpath ▸ hp)
    · have hnamed := hq'.2
      rw [← hpath, hn] at hnamed
      exact absurd hnamed (by decide)
  case distributions =>
    simp only [RoutesState.append_splitClients, RoutesState.append_locations, List.mem_append,
      List.map_append]
    rintro sc (hsc | hsc) d hd
    · exact .inl (hinv.distributions sc hsc d hd)
    · exact .inr (routePiece_distributions h sc hsc d hd)
  case results =>
    simp only [RoutesState.append_maps, RoutesState.append_splitClients,
      RoutesState.append_locations, List.mem_append, List.map_append]
    rintro m (hm | hm)
    · rcases hinv.results m hm with ⟨hv, hq⟩ | ⟨hv, hq⟩
      · exact .inl ⟨hv, fun q hq' => (hq q hq').imp (fun h => ⟨h.1, .inl h.2⟩) .inl⟩
      · exact .inr ⟨hv, fun q hq' => (hq q hq').imp_right (Or.imp_right .inl)⟩
    · rcases routePiece_results h m hm with ⟨hv, hq⟩ | ⟨⟨i, j, hv⟩, hq⟩
      · exact .inl ⟨⟨_, hv⟩, fun q hq' => (hq q hq').imp (fun h => ⟨h.1, .inr h.2⟩) .inr⟩
      · exact .inr ⟨⟨_, i, j, hv⟩, fun q hq' => (hq q hq').imp_right (Or.imp_right .inr)⟩
  case destinations =>
    simp only [RoutesState.append_internalRedirectLocations, RoutesState.append_maps,
      RoutesState.append_splitClients, List.mem_append, List.map_append]
    rintro irl (hirl | hirl)
    · exact (hinv.destinations irl hirl).imp .inl .inl
    · exact (routePiece_destinations h irl hirl).2.imp .inr .inr
  case locations =>
    simp only [RoutesState.append_locations, List.mem_append]
    rintro loc (hl | hl)
    · exact hinv.locations loc hl
    · exact hloc loc hl

end

/-! ## The upstream loops -/

/-- `ups` is what `generateUpstream` builds from the declaration `u` under `cfgParams` and
    `isPlus`, whatever the owner, the endpoints and the warnings so far. -/
def UpstreamBuiltFrom (cfgParams : ConfigParams) (isPlus : Bool) (u : V1.Upstream)
    (ups : Version2.Upstream) : Prop :=
  ∃ (vsc : VirtualServerConfigurator) (owner : Owner) (isExternalNameSvc : Bool)
    (endpoints : List String), vsc.cfgParams = cfgParams ∧ vsc.isPlus = isPlus ∧
      ups = (vsc.generateUpstream owner ups.name u isExternalNameSvc endpoints).1

section
variable (vsc : VirtualServerConfigurator) (owner : Owner) (upstreamName : String)
  (u : V1.Upstream) (isExternalNameSvc : Bool) (endpoints : List String)

@[simp] theorem VirtualServerConfigurator.addWarningf_cfgParams (msg : String) :
    (vsc.addWarningf owner msg).cfgParams = vsc.cfgParams := rfl

@[simp] theorem VirtualServerConfigurator.addWarningf_isPlus (msg : String) :
    (vsc.addWarningf owner msg).isPlus = vsc.isPlus := rfl

@[simp] theorem VirtualServerConfigurator.clearWarnings_cfgParams :
    vsc.clearWarnings.cfgParams = vsc.cfgParams := rfl

theorem generateEndpointsForUpstream_settings («namespace» : String) (vsx : VirtualServerEx) :
    (vsc.generateEndpointsForUpstream owner «namespace» u vsx).2.cfgParams = vsc.cfgParams ∧
      (vsc.generateEndpointsForUpstream owner «namespace» u vsx).2.isPlus = vsc.isPlus := by
  unfold VirtualServerConfigurator.generateEndpointsForUpstream
  dsimp only
  split_ifs <;> simp

theorem generateUpstream_settings :
    (vsc.generateUpstream owner upstreamName u isExternalNameSvc endpoints).2.cfgParams =
        vsc.cfgParams ∧
      (vsc.generateUpstream owner upstreamName u isExternalNameSvc endpoints).2.isPlus =
        vsc.isPlus := by
  unfold VirtualServerConfigurator.generateUpstream VirtualServerConfigurator.generateSlowStartForPlus
  dsimp only
  split_ifs <;> simp

@[simp] theorem generateUpstream_name :
    (vsc.generateUpstream owner upstreamName u isExternalNameSvc endpoints).1.name = upstreamName := by
  unfold VirtualServerConfigurator.generateUpstream
  dsimp only
  split_ifs <;> rfl

@[simp] theorem generateUpstream_resolve :
    (vsc.generateUpstream owner upstreamName u isExternalNameSvc endpoints).1.resolve =
      isExternalNameSvc := by
  unfold VirtualServerConfigurator.generateUpstream
  dsimp only
  split_ifs <;> rfl

@[simp] theorem generateUpstream_keepalive :
    (vsc.generateUpstream owner upstreamName u isExternalNameSvc endpoints).1.keepalive =
      generateIntFromPointer u.keepalive vsc.cfgParams.keepalive := by
  unfold VirtualServerConfigurator.generateUpstream
  dsimp only
  split_ifs <;> rfl

end

/-- An upstream block keeps its declaration's `keepalive`, or the default. -/
theorem UpstreamBuiltFrom.keepalive {cfgParams : ConfigParams} {isPlus : Bool} {u : V1.Upstream}
    {ups : Version2.Upstream} (h : UpstreamBuiltFrom cfgParams isPlus u ups) :
    ups.keepalive = generateIntFromPointer u.keepalive cfgParams.keepalive := by
  obtain ⟨vsc, owner, isExt, endpoints, rfl, -, hups⟩ := h
  rw [hups, generateUpstream_keepalive]

theorem generateHealthCheck_eq_some {u : V1.Upstream} {upstreamName : String}
    {cfgParams : ConfigParams} {hc : Version2.HealthCheck}
    (h : generateHealthCheck u upstreamName cfgParams = some hc) :
    ∃ h', u.healthCheck = some h' ∧ hc.name = upstreamName ∧
      hc.match = if h'.statusMatch ≠ "" then generateStatusMatchName upstreamName else "" := by
  unfold generateHealthCheck at h
  cases hu : u.healthCheck with
  | none => simp [hu] at h
  | some h' =>
    cases henable : h'.enable
    · simp [hu, henable] at h
    · simp only [hu, henable, Bool.not_true, Bool.false_eq_true, if_false, Option.some.injEq] at h
      subst h
      exact ⟨h', rfl, rfl, rfl⟩

/-- The invariant of the accumulators of the upstream loops: the configurator keeps its
    settings; the last upstream built under each name is the one `crUpstreams` holds; and
    every health check is named after an upstream and matches a defined status match. -/
structure UpstreamsInvariant (cfgParams : ConfigParams) (isPlus : Bool) (st : UpstreamsState) :
    Prop where
  cfgParams_eq : st.vsc.cfgParams = cfgParams
  isPlus_eq : st.vsc.isPlus = isPlus
  built : ∀ k ∈ st.upstreams.map (·.name), ∃ ups ∈ st.upstreams, ups.name = k ∧
    UpstreamBuiltFrom cfgParams isPlus (st.crUpstreams k) ups
  health_names : ∀ hc ∈ st.healthChecks, hc.name ∈ st.upstreams.map (·.name)
  health_matches : ∀ hc ∈ st.healthChecks, hc.match ≠ "" →
    hc.match ∈ st.statusMatches.map (·.name)

private theorem built_append {cfgParams : ConfigParams} {isPlus : Bool} {ups : List Version2.Upstream}
    {crUpstreams : String → V1.Upstream}
    (h : ∀ k ∈ ups.map (·.name), ∃ x ∈ ups, x.name = k ∧
      UpstreamBuiltFrom cfgParams isPlus (crUpstreams k) x)
    {u : V1.Upstream} {up : Version2.Upstream} (hb : UpstreamBuiltFrom cfgParams isPlus u up) :
    ∀ k ∈ (ups ++ [up]).map (·.name), ∃ x ∈ ups ++ [up], x.name = k ∧
      UpstreamBuiltFrom cfgParams isPlus (if k = up.name then u else crUpstreams k) x := by
  intro k hk
  by_cases hkn : k = up.name
  · exact ⟨up, by simp, hkn.symm, by simpa [hkn] using hb⟩
  · simp only [List.map_append, List.map_singleton, List.mem_append, List.mem_singleton, hkn,
      or_false] at hk
    obtain ⟨x, hx, hxk, hxb⟩ := h k hk
    exact ⟨x, List.mem_append_left _ hx, hxk, by simpa [hkn] using hxb⟩

/-- What one step of an upstream loop does to the configurator and the upstreams: it appends
    the upstream `generateUpstream` builds from the endpoints `generateEndpointsForUpstream`
    returns, and keeps the configurator they leave. -/
theorem addUpstream_eq_some {vsx : VirtualServerEx} {owner : Owner} {upstreamNamer : UpstreamNamer}
    {«namespace» : String} {st st' : UpstreamsState} {u : V1.Upstream}
    (h : addUpstream vsx owner upstreamNamer «namespace» st u = some st') :
    ∃ endpoints vsc1, st.vsc.generateEndpointsForUpstream owner «namespace» u vsx = (endpoints, vsc1) ∧
      let G := vsc1.generateUpstream owner (upstreamNamer.getNameForUpstream u.name) u
        (vsx.externalNameSvcs (generateExternalNameSvcKey «namespace» u.service)).isSome endpoints
      st'.vsc = G.2 ∧ st'.upstreams = st.upstreams ++ [G.1] := by
  generalize hE : st.vsc.generateEndpointsForUpstream owner «namespace» u vsx = E
  obtain ⟨endpoints, vsc1⟩ := E
  refine ⟨endpoints, vsc1, rfl, ?_⟩
  generalize hG : vsc1.generateUpstream owner (upstreamNamer.getNameForUpstream u.name) u
    (vsx.externalNameSvcs (generateExternalNameSvcKey «namespace» u.service)).isSome endpoints = G
  obtain ⟨ups, vsc2⟩ := G
  simp only [addUpstream, hE, hG] at h
  split at h
  · cases h
    exact ⟨rfl, rfl⟩
  · split at h
    · cases h
    · cases h
      exact ⟨rfl, rfl⟩

/-- **One step of an upstream loop returns, appends one upstream named by the namer, and
    keeps the invariant.** -/
theorem addUpstream_spec {cfgParams : ConfigParams} {isPlus : Bool} (vsx : VirtualServerEx)
    (owner : Owner) (upstreamNamer : UpstreamNamer) («namespace» : String) (st : UpstreamsState)
    (u : V1.Upstream) (hinv : UpstreamsInvariant cfgParams isPlus st) :
    ∃ st', addUpstream vsx owner upstreamNamer «namespace» st u = some st' ∧
      UpstreamsInvariant cfgParams isPlus st' ∧
      st'.upstreams.map (·.name) =
        st.upstreams.map (·.name) ++ [upstreamNamer.getNameForUpstream u.name] := by
  set name := upstreamNamer.getNameForUpstream u.name
  set isExt := (vsx.externalNameSvcs (generateExternalNameSvcKey «namespace» u.service)).isSome
  obtain ⟨hc1, hp1⟩ := generateEndpointsForUpstream_settings st.vsc owner u «namespace» vsx
  generalize hE : st.vsc.generateEndpointsForUpstream owner «namespace» u vsx = E at hc1 hp1
  obtain ⟨endpoints, vsc1⟩ := E
  obtain ⟨hc2, hp2⟩ := generateUpstream_settings vsc1 owner name u isExt endpoints
  have hbuilt : UpstreamBuiltFrom cfgParams isPlus u
      (vsc1.generateUpstream owner name u isExt endpoints).1 :=
    ⟨vsc1, owner, isExt, endpoints, hc1.trans hinv.cfgParams_eq, hp1.trans hinv.isPlus_eq, by simp⟩
  have hname := generateUpstream_name vsc1 owner name u isExt endpoints
  generalize hG : vsc1.generateUpstream owner name u isExt endpoints = G at hc2 hp2 hbuilt hname
  obtain ⟨ups, vsc2⟩ := G
  have hcfg : vsc2.cfgParams = cfgParams := hc2.trans (hc1.trans hinv.cfgParams_eq)
  have hplus : vsc2.isPlus = isPlus := hp2.trans (hp1.trans hinv.isPlus_eq)
  have hbuilt' := built_append hinv.built hbuilt
  simp only at hname
  rw [hname] at hbuilt'
  simp only [addUpstream, hE, hG]
  cases hhc : generateHealthCheck u name vsc2.cfgParams with
  | none =>
    refine ⟨_, rfl, ⟨hcfg, hplus, hbuilt', ?_, hinv.health_matches⟩, by simp [hname]⟩
    intro hc hhc'
    simpa using Or.inl (hinv.health_names hc hhc')
  | some hc =>
    obtain ⟨h', hu, hcname, hcmatch⟩ := generateHealthCheck_eq_some hhc
    simp only [hu]
    refine ⟨_, rfl, ⟨hcfg, hplus, hbuilt', ?_, ?_⟩, by simp [hname]⟩
    · simp only [List.mem_append, List.mem_singleton, List.map_append, List.map_singleton]
      rintro x (hx | rfl)
      · exact .inl (hinv.health_names x hx)
      · exact .inr (hcname.trans hname.symm)
    · simp only [List.mem_append, List.mem_singleton]
      rintro x (hx | rfl) hne
      · split_ifs <;> simp [hinv.health_matches x hx hne]
      · rw [hcmatch] at hne ⊢
        split_ifs at hne ⊢ with hsm
        · simp [generateUpstreamStatusMatch]
        · exact absurd rfl hne


/-- **An upstream loop returns**, keeps the invariant, and appends one upstream per
    declaration, named by the namer. -/
theorem upstreams_run {cfgParams : ConfigParams} {isPlus : Bool} (vsx : VirtualServerEx)
    (owner : Owner) (upstreamNamer : UpstreamNamer) («namespace» : String) (us : List V1.Upstream)
    (st : UpstreamsState) (hinv : UpstreamsInvariant cfgParams isPlus st) :
    ∃ st', us.foldlM (addUpstream vsx owner upstreamNamer «namespace») st = some st' ∧
      UpstreamsInvariant cfgParams isPlus st' ∧
      st'.upstreams.map (·.name) =
        st.upstreams.map (·.name) ++ us.map fun u => upstreamNamer.getNameForUpstream u.name := by
  induction us generalizing st with
  | nil => exact ⟨st, rfl, hinv, by simp⟩
  | cons u us ih =>
    obtain ⟨st1, h1, hinv1, hnames1⟩ := addUpstream_spec vsx owner upstreamNamer «namespace» st u hinv
    obtain ⟨st2, h2, hinv2, hnames2⟩ := ih st1 hinv1
    exact ⟨st2, by simp [h1, h2], hinv2, by simp [hnames2, hnames1]⟩

/-! ## Route loops, run -/

section
variable {upstreamNamer : UpstreamNamer} {crUpstreams : String → V1.Upstream}
  {variableNamer : VariableNamer} {cfgParams : ConfigParams} {LocOK : Version2.Location → Prop}
  {upstreamNames : List String}

/-- **One step of a route loop returns and keeps the invariant**, for a valid route that sets
    exactly one of an action and splits. -/
theorem addRoute_spec {r : Route} {st : RoutesState} (hv : RouteValid upstreamNames r)
    (hone : ExactlyOne [r.action.isSome, r.splits ≠ []])
    (hloc : ∀ a, ActionOfRoute r a → ∀ loc,
      LocationOfAction upstreamNamer crUpstreams cfgParams a loc → LocOK loc)
    (hinv : RoutesInvariant variableNamer LocOK st) :
    ∃ st', addRoute upstreamNamer crUpstreams variableNamer cfgParams st r = some st' ∧
      RoutesInvariant variableNamer LocOK st' := by
  obtain ⟨p, hp⟩ := Option.isSome_iff_exists.1 (routePiece_isSome hv hone :
    (routePiece upstreamNamer crUpstreams variableNamer cfgParams st.matchesRoutes
      st.splitClients.length r).isSome)
  refine ⟨_, by rw [addRoute_eq, hp]; rfl, routesInvariant_append hinv hv hp fun loc hl => ?_⟩
  obtain ⟨a, ha, hla⟩ := routePiece_actions hp loc hl
  exact hloc a ha loc hla

/-- **A loop over subroutes returns and keeps the invariant.** -/
theorem subroutes_run (routes : List Route)
    (hv : ∀ r ∈ routes, RouteValid upstreamNames r ∧ ExactlyOne [r.action.isSome, r.splits ≠ []])
    (hloc : ∀ r ∈ routes, ∀ a, ActionOfRoute r a → ∀ loc,
      LocationOfAction upstreamNamer crUpstreams cfgParams a loc → LocOK loc)
    (st : RoutesState) (hinv : RoutesInvariant variableNamer LocOK st) :
    ∃ st', routes.foldlM (addRoute upstreamNamer crUpstreams variableNamer cfgParams) st = some st' ∧
      RoutesInvariant variableNamer LocOK st' :=
  foldlM_preserves _ _ routes (fun _ r hr hinv =>
    addRoute_spec (hv r hr).1 (hv r hr).2 (hloc r hr) hinv) st hinv

/-- **The loop over the routes of a VirtualServer returns and keeps the invariant**; the
    routes that reference a VirtualServerRoute are skipped. -/
theorem virtualServerRoutes_run (routes : List Route)
    (hv : ∀ r ∈ routes, r.route = "" →
      RouteValid upstreamNames r ∧ ExactlyOne [r.action.isSome, r.splits ≠ []])
    (hloc : ∀ r ∈ routes, ∀ a, ActionOfRoute r a → ∀ loc,
      LocationOfAction upstreamNamer crUpstreams cfgParams a loc → LocOK loc)
    (st : RoutesState) (hinv : RoutesInvariant variableNamer LocOK st) :
    ∃ st', routes.foldlM (addVirtualServerRoute upstreamNamer crUpstreams variableNamer cfgParams)
      st = some st' ∧ RoutesInvariant variableNamer LocOK st' := by
  refine foldlM_preserves _ _ routes (fun st r hr hinv => ?_) st hinv
  by_cases hroute : r.route = ""
  · simpa [addVirtualServerRoute, hroute] using
      addRoute_spec (hv r hr hroute).1 (hv r hr hroute).2 (hloc r hr) hinv
  · exact ⟨st, by simp [addVirtualServerRoute, hroute], hinv⟩

end

/-- The upstream loop over the VirtualServerRoutes, each with its own namer. -/
theorem virtualServerRouteUpstreams_run {cfgParams : ConfigParams} {isPlus : Bool}
    (vsx : VirtualServerEx) (vs : VirtualServer) (vsrs : List VirtualServerRoute)
    (st : UpstreamsState) (hinv : UpstreamsInvariant cfgParams isPlus st) :
    ∃ st', vsrs.foldlM (fun ups vsr => vsr.spec.upstreams.foldlM (addUpstream vsx
        (Owner.ofVirtualServerRoute vsr) (newUpstreamNamerForVirtualServerRoute vs vsr)
        vsr.namespace) ups) st = some st' ∧
      UpstreamsInvariant cfgParams isPlus st' ∧
      st'.upstreams.map (·.name) = st.upstreams.map (·.name) ++ (vsrs.map fun vsr =>
        vsr.spec.upstreams.map fun u =>
          (newUpstreamNamerForVirtualServerRoute vs vsr).getNameForUpstream u.name).flatten := by
  induction vsrs generalizing st with
  | nil => exact ⟨st, rfl, hinv, by simp⟩
  | cons vsr vsrs ih =>
    obtain ⟨st1, h1, hinv1, hnames1⟩ := upstreams_run vsx (Owner.ofVirtualServerRoute vsr)
      (newUpstreamNamerForVirtualServerRoute vs vsr) vsr.namespace vsr.spec.upstreams st hinv
    obtain ⟨st2, h2, hinv2, hnames2⟩ := ih st1 hinv1
    exact ⟨st2, by simp [h1, h2], hinv2, by simp [hnames2, hnames1]⟩

/-! ## The whole generator -/

/-- Where a proxying location points: an emitted upstream, built from the declaration whose
    settings the location uses. -/
def ProxiesToUpstream (cfgParams : ConfigParams) (isPlus : Bool)
    (upstreams : List Version2.Upstream) (loc : Version2.Location) : Prop :=
  loc.return = none → ∃ ups ∈ upstreams, ∃ u path, UpstreamBuiltFrom cfgParams isPlus u ups ∧
    loc = generateLocationForProxying path ups.name u cfgParams

/-- A location keeps its upstream's connections alive exactly when the upstream block it
    names has a non-zero `keepalive`. -/
theorem upstreamHasKeepalive_iff (u : V1.Upstream) (cfgParams : ConfigParams) :
    upstreamHasKeepalive u cfgParams = true ↔
      generateIntFromPointer u.keepalive cfgParams.keepalive ≠ 0 := by
  unfold upstreamHasKeepalive generateIntFromPointer
  cases u.keepalive <;> simp

theorem generateLocation_eq_proxying {path upstreamName : String} {u : V1.Upstream} {a : Action}
    {cfgParams : ConfigParams} (h : (generateLocation path upstreamName u a cfgParams).return = none) :
    a.redirect = none ∧ a.return = none ∧
      generateLocation path upstreamName u a cfgParams =
        generateLocationForProxying path upstreamName u cfgParams := by
  rcases a with ⟨pass, _ | redirect, _ | ret⟩ <;>
    simp_all [generateLocation, generateLocationForReturnBlock]

/-- A location of a valid action proxies to an emitted upstream, once the upstream loops have
    named every upstream of the action's resource. -/
theorem proxiesToUpstream_of_actionValid {cfgParams : ConfigParams} {isPlus : Bool}
    {st : UpstreamsState} (hinv : UpstreamsInvariant cfgParams isPlus st)
    {upstreamNamer : UpstreamNamer} {upstreamNames : List String}
    (hdecl : ∀ n ∈ upstreamNames, upstreamNamer.getNameForUpstream n ∈ st.upstreams.map (·.name))
    {a : Action} (ha : ActionValid upstreamNames a) {loc : Version2.Location}
    (hloc : LocationOfAction upstreamNamer st.crUpstreams cfgParams a loc) :
    ProxiesToUpstream cfgParams isPlus st.upstreams loc := by
  obtain ⟨path, rfl⟩ := hloc
  intro hret
  obtain ⟨hred, hreturn, heq⟩ := generateLocation_eq_proxying hret
  have hpass : a.pass ≠ "" := by
    have := ha.exactly_one
    simp only [ExactlyOne, count_true_cons, hred, hreturn, Option.isSome_none, List.count_nil] at this
    simpa using this
  obtain ⟨ups, hups, hname, hbuilt⟩ := hinv.built _ (hdecl _ (ha.pass_mem hpass))
  exact ⟨ups, hups, _, path, hbuilt, by rw [heq, hname]⟩

theorem exactlyOne_of_route_empty {r : Route} (hone : ExactlyOne [r.action.isSome, r.splits ≠ [], r.route ≠ ""])
    (hroute : r.route = "") : ExactlyOne [r.action.isSome, r.splits ≠ []] := by
  simpa [ExactlyOne, hroute] using hone

/-- **What the generator returns on validated resources**: the runs of its four loops return,
    with their invariants, and the configuration is made of their accumulators. -/
theorem generateVirtualServerConfig_of_valid (vsc : VirtualServerConfigurator)
    (pemFileNameForMissingTLSSecret tlsPemFileName : String) (vsx : VirtualServerEx)
    (hvs : VirtualServerSpecValid vsx.virtualServer.spec)
    (hvsrs : ∀ vsr ∈ vsx.virtualServerRoutes, ∃ vsPath, VirtualServerRouteSpecValid vsPath vsr.spec) :
    ∃ cfg, ∃ u : UpstreamsState, ∃ rs : RoutesState,
      vsc.generateVirtualServerConfig pemFileNameForMissingTLSSecret vsx tlsPemFileName =
        some (cfg, u.vsc.warnings) ∧
      UpstreamsInvariant vsc.cfgParams vsc.isPlus u ∧
      u.upstreams.map (·.name) =
        vsx.virtualServer.spec.upstreams.map (fun x =>
          (newUpstreamNamerForVirtualServer vsx.virtualServer).getNameForUpstream x.name) ++
        (vsx.virtualServerRoutes.map fun vsr => vsr.spec.upstreams.map fun x =>
          (newUpstreamNamerForVirtualServerRoute vsx.virtualServer vsr).getNameForUpstream x.name).flatten ∧
      RoutesInvariant (newVariableNamer vsx.virtualServer)
        (ProxiesToUpstream vsc.cfgParams vsc.isPlus u.upstreams) rs ∧
      cfg.upstreams = u.upstreams ∧ cfg.statusMatches = u.statusMatches ∧
      cfg.server.healthChecks = u.healthChecks ∧ cfg.splitClients = rs.splitClients ∧
      cfg.maps = rs.maps ∧ cfg.server.locations = rs.locations ∧
      cfg.server.internalRedirectLocations = rs.internalRedirectLocations := by
  set vs := vsx.virtualServer
  have hinv0 : UpstreamsInvariant vsc.cfgParams vsc.isPlus { vsc := vsc.clearWarnings } :=
    ⟨rfl, rfl, by simp, by simp, by simp⟩
  obtain ⟨u1, h1, hinv1, hn1⟩ := upstreams_run vsx (Owner.ofVirtualServer vs)
    (newUpstreamNamerForVirtualServer vs) vs.namespace vs.spec.upstreams _ hinv0
  obtain ⟨u2, h2, hinv2, hn2⟩ := virtualServerRouteUpstreams_run vsx vs vsx.virtualServerRoutes u1 hinv1
  have hnames : u2.upstreams.map (·.name) =
      vs.spec.upstreams.map (fun x => (newUpstreamNamerForVirtualServer vs).getNameForUpstream x.name) ++
      (vsx.virtualServerRoutes.map fun vsr => vsr.spec.upstreams.map fun x =>
        (newUpstreamNamerForVirtualServerRoute vs vsr).getNameForUpstream x.name).flatten := by
    simpa [hn1] using hn2
  have hdeclVS : ∀ n ∈ vs.spec.upstreams.map (·.name),
      (newUpstreamNamerForVirtualServer vs).getNameForUpstream n ∈ u2.upstreams.map (·.name) := by
    intro n hn
    obtain ⟨x, hx, rfl⟩ := List.mem_map.1 hn
    rw [hnames]
    exact List.mem_append_left _ (List.mem_map_of_mem _ hx)
  have hdeclVSR : ∀ vsr ∈ vsx.virtualServerRoutes, ∀ n ∈ vsr.spec.upstreams.map (·.name),
      (newUpstreamNamerForVirtualServerRoute vs vsr).getNameForUpstream n ∈
        u2.upstreams.map (·.name) := by
    intro vsr hvsr n hn
    obtain ⟨x, hx, rfl⟩ := List.mem_map.1 hn
    rw [hnames]
    exact List.mem_append_right _
      (List.mem_flatten.2 ⟨_, List.mem_map_of_mem _ hvsr, List.mem_map_of_mem _ hx⟩)
  obtain ⟨r1, h3, hr1⟩ : ∃ st', vs.spec.routes.foldlM (addVirtualServerRoute
      (newUpstreamNamerForVirtualServer vs) u2.crUpstreams (newVariableNamer vs) vsc.cfgParams) {} =
        some st' ∧ RoutesInvariant (newVariableNamer vs)
          (ProxiesToUpstream vsc.cfgParams vsc.isPlus u2.upstreams) st' :=
    virtualServerRoutes_run vs.spec.routes
    (fun r hr hroute => ⟨hvs.routes r hr, exactlyOne_of_route_empty (hvs.exactly_one r hr) hroute⟩)
    (fun r hr a ha loc hloc => proxiesToUpstream_of_actionValid hinv2 hdeclVS
      (actionValid_of_actionOfRoute (hvs.routes r hr) ha) hloc) {} (routesInvariant_empty _ _)
  obtain ⟨r2, h4, hr2⟩ := foldlM_preserves _ _ vsx.virtualServerRoutes (fun st vsr hvsr hinv => by
    obtain ⟨vsPath, hvalid⟩ := hvsrs vsr hvsr
    exact subroutes_run vsr.spec.subroutes
      (fun r hr => ⟨hvalid.subroutes r hr, hvalid.exactly_one r hr⟩)
      (fun r hr a ha loc hloc => proxiesToUpstream_of_actionValid hinv2 (hdeclVSR vsr hvsr)
        (actionValid_of_actionOfRoute (hvalid.subroutes r hr) ha) hloc) st hinv) r1 hr1
  have hgen : ∃ cfg, vsc.generateVirtualServerConfig pemFileNameForMissingTLSSecret vsx
      tlsPemFileName = some (cfg, u2.vsc.warnings) ∧
      cfg.upstreams = u2.upstreams ∧ cfg.statusMatches = u2.statusMatches ∧
      cfg.server.healthChecks = u2.healthChecks ∧ cfg.splitClients = r2.splitClients ∧
      cfg.maps = r2.maps ∧ cfg.server.locations = r2.locations ∧
      cfg.server.internalRedirectLocations = r2.internalRedirectLocations := by
    simp only [VirtualServerConfigurator.generateVirtualServerConfig, Option.bind_eq_bind,
      VirtualServerConfigurator.clearWarnings_cfgParams]
    rw [h1, Option.some_bind, h2, Option.some_bind, h3, Option.some_bind, h4, Option.some_bind]
    exact ⟨_, rfl, rfl, rfl, rfl, rfl, rfl, rfl, rfl⟩
  obtain ⟨cfg, hgen, hrest⟩ := hgen
  exact ⟨cfg, u2, r2, hgen, hinv2, hnames, hr2, hrest⟩

/-- **What a configuration the generator returned is made of**: the runs of its four loops,
    whatever the input. -/
theorem generateVirtualServerConfig_eq_some {vsc : VirtualServerConfigurator}
    {pemFileNameForMissingTLSSecret tlsPemFileName : String} {vsx : VirtualServerEx}
    {cfg : Version2.VirtualServerConfig} {warnings : List (Owner × String)}
    (h : vsc.generateVirtualServerConfig pemFileNameForMissingTLSSecret vsx tlsPemFileName =
      some (cfg, warnings)) :
    ∃ (u1 u : UpstreamsState) (r1 rs : RoutesState),
      vsx.virtualServer.spec.upstreams.foldlM (addUpstream vsx
        (Owner.ofVirtualServer vsx.virtualServer) (newUpstreamNamerForVirtualServer vsx.virtualServer)
        vsx.virtualServer.namespace) { vsc := vsc.clearWarnings } = some u1 ∧
      vsx.virtualServerRoutes.foldlM (fun ups vsr => vsr.spec.upstreams.foldlM (addUpstream vsx
        (Owner.ofVirtualServerRoute vsr) (newUpstreamNamerForVirtualServerRoute vsx.virtualServer vsr)
        vsr.namespace) ups) u1 = some u ∧
      vsx.virtualServer.spec.routes.foldlM (addVirtualServerRoute
        (newUpstreamNamerForVirtualServer vsx.virtualServer) u.crUpstreams
        (newVariableNamer vsx.virtualServer) vsc.cfgParams) {} = some r1 ∧
      vsx.virtualServerRoutes.foldlM (fun rs vsr => vsr.spec.subroutes.foldlM (addRoute
        (newUpstreamNamerForVirtualServerRoute vsx.virtualServer vsr) u.crUpstreams
        (newVariableNamer vsx.virtualServer) vsc.cfgParams) rs) r1 = some rs ∧
      cfg.upstreams = u.upstreams ∧ cfg.splitClients = rs.splitClients ∧ cfg.maps = rs.maps ∧
      cfg.server.locations = rs.locations ∧
      cfg.server.internalRedirectLocations = rs.internalRedirectLocations := by
  simp only [VirtualServerConfigurator.generateVirtualServerConfig, Option.bind_eq_bind,
    VirtualServerConfigurator.clearWarnings_cfgParams, Option.bind_eq_some, Option.pure_def,
    Option.some.injEq] at h
  obtain ⟨u1, h1, u, h2, r1, h3, rs, h4, hcfg⟩ := h
  obtain ⟨rfl, -⟩ := Prod.mk.inj hcfg
  exact ⟨u1, u, r1, rs, h1, h2, h3, h4, rfl, rfl, rfl, rfl, rfl⟩

end KubernetesIngress.Configs
