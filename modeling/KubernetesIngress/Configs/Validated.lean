import KubernetesIngress.Configs.Generation

set_option autoImplicit false

/-! # The generator on validated resources

The controller hands `GenerateVirtualServerConfig` a VirtualServer that `ValidateVirtualServer`
accepted, with VirtualServerRoutes that `ValidateVirtualServerRouteForVirtualServer` accepted
against the VirtualServer's host. This file chains what the validator establishes
(`Validation.Soundness`) with the invariants of the generator's loops (`Configs.Generation`):
on such input the generator returns, its split clients carry valid weights, every name the
configuration uses is defined in it, and the identifiers it numbers are distinct. -/

namespace KubernetesIngress.Configs

open V1 Validation

/-- Every VirtualServerRoute of `vsx` passes `ValidateVirtualServerRouteForVirtualServer`
    against the VirtualServer's host and the path of some route. -/
def VirtualServerRoutesAccepted (parsers : Parsers) (isPlus : Bool) (vsx : VirtualServerEx) :
    Prop :=
  ∀ vsr ∈ vsx.virtualServerRoutes, ∃ vsPath, validateVirtualServerRouteForVirtualServer parsers
    vsr vsx.virtualServer.spec.host vsPath isPlus = some []

theorem VirtualServerRoutesAccepted.specValid {parsers : Parsers} {isPlus : Bool}
    {vsx : VirtualServerEx} (h : VirtualServerRoutesAccepted parsers isPlus vsx) :
    ∀ vsr ∈ vsx.virtualServerRoutes, ∃ vsPath, VirtualServerRouteSpecValid vsPath vsr.spec :=
  fun vsr hvsr =>
    let ⟨vsPath, hv⟩ := h vsr hvsr
    ⟨vsPath, validateVirtualServerRouteForVirtualServer_sound hv⟩

/-- The VirtualServer `cafeSplits`, with a splits route and a matches route with nested and
    default splits, and its VirtualServerRoute `coffee`. -/
def cafeEx : VirtualServerEx := { virtualServer := cafeSplits, virtualServerRoutes := [coffee] }

theorem cafeEx_accepted : VirtualServerRoutesAccepted lenientParsers false cafeEx := by
  simp only [VirtualServerRoutesAccepted, cafeEx, List.mem_singleton, forall_eq]
  exact ⟨"/coffee", by decide⟩

/-- The configurator of the examples: default parameters, NGINX OSS. -/
def ossConfigurator : VirtualServerConfigurator := newVirtualServerConfigurator {} false false

/-- The configuration of `cafeEx` has the split clients of `/tea` and of the nested and the
    default splits of `/specials`, the maps of its three conditions and its main map, an `@`
    location for each split and for the match with an action, and an internal redirect for
    each of the two routes. -/
theorem cafeEx_lowered {cfg : Version2.VirtualServerConfig} {warnings : List (Owner × String)}
    (h : ossConfigurator.generateVirtualServerConfig "" cafeEx "" = some (cfg, warnings)) :
    cfg.splitClients.length = 3 ∧ cfg.maps.length = 4 ∧
      ((cfg.server.locations.map (·.path)).filter isNamedLocation).length = 7 ∧
      cfg.server.internalRedirectLocations.length = 2 := by
  have hs : (ossConfigurator.generateVirtualServerConfig "" cafeEx "").isSome := by decide
  obtain ⟨rfl, -⟩ := Prod.mk.inj_iff.1 (Option.some.inj (h.symm.trans (Option.some_get hs).symm))
  decide

/-! ## Upstream names -/

/-- **The upstream names of one configuration are distinct**, when the VirtualServerRoutes
    have distinct namespace and name pairs, none with `_`. -/
theorem upstreamNames_nodup {vs : VirtualServer} {vsrs : List VirtualServerRoute}
    (hvs : UpstreamsValid vs.spec.upstreams)
    (hvsrs : ∀ vsr ∈ vsrs, UpstreamsValid vsr.spec.upstreams)
    (hkeys : (vsrs.map fun vsr => (vsr.namespace, vsr.name)).Nodup)
    (hns : ∀ vsr ∈ vsrs, '_' ∉ vsr.namespace.data ∧ '_' ∉ vsr.name.data) :
    (vs.spec.upstreams.map (fun x => (newUpstreamNamerForVirtualServer vs).getNameForUpstream x.name) ++
      (vsrs.map fun vsr => vsr.spec.upstreams.map fun x =>
        (newUpstreamNamerForVirtualServerRoute vs vsr).getNameForUpstream x.name).flatten).Nodup := by
  have names : ∀ (namer : UpstreamNamer) (us : List Upstream), UpstreamsValid us →
      (us.map fun x => namer.getNameForUpstream x.name).Nodup := fun namer us h => by
    simpa [List.map_map] using h.names_nodup.map namer.getNameForUpstream_injective
  rw [List.nodup_append, List.nodup_flatten, List.pairwise_map]
  refine ⟨names _ _ hvs, ⟨?_, ?_⟩, ?_⟩
  · simp only [List.mem_map]
    rintro _ ⟨vsr, hvsr, rfl⟩
    exact names _ _ (hvsrs vsr hvsr)
  · refine (List.pairwise_map.1 hkeys).imp_of_mem fun {a b} ha hb hne x hxa hxb => hne ?_
    obtain ⟨ua, -, rfl⟩ := List.mem_map.1 hxa
    obtain ⟨ub, -, hub⟩ := List.mem_map.1 hxb
    obtain ⟨h1, h2, -⟩ := getNameForUpstream_virtualServerRoute_inj vs (hns a ha).1 (hns b hb).1
      (hns a ha).2 (hns b hb).2 hub.symm
    rw [h1, h2]
  · intro x hx hx'
    obtain ⟨u, hu, rfl⟩ := List.mem_map.1 hx
    obtain ⟨l, hl, hxl⟩ := List.mem_flatten.1 hx'
    obtain ⟨vsr, -, rfl⟩ := List.mem_map.1 hl
    obtain ⟨u', -, hu'⟩ := List.mem_map.1 hxl
    exact getNameForUpstream_virtualServer_ne_virtualServerRoute vs vsr u'.name
      (hvs.names_label u hu).underscore_not_mem hu'.symm

/-! ## What the generator guarantees -/

section
variable {parsers : Parsers} {isPlus : Bool} (vsc : VirtualServerConfigurator)
  (pemFileNameForMissingTLSSecret tlsPemFileName : String) {vsx : VirtualServerEx}

/-- **Generation never fails on validated input**: no nil action or health check is
    dereferenced. -/
theorem generateVirtualServerConfig_returns_of_validated
    (hvs : validateVirtualServer parsers vsx.virtualServer isPlus = some [])
    (hvsrs : VirtualServerRoutesAccepted parsers isPlus vsx) :
    ∃ cfg warnings, vsc.generateVirtualServerConfig pemFileNameForMissingTLSSecret vsx
      tlsPemFileName = some (cfg, warnings) := by
  obtain ⟨cfg, u, -, hgen, -⟩ := generateVirtualServerConfig_of_valid vsc
    pemFileNameForMissingTLSSecret tlsPemFileName vsx (validateVirtualServer_sound hvs)
    hvsrs.specValid
  exact ⟨cfg, _, hgen⟩

theorem cafe_generates : ∃ cfg warnings,
    ossConfigurator.generateVirtualServerConfig "" cafeEx "" = some (cfg, warnings) :=
  generateVirtualServerConfig_returns_of_validated ossConfigurator "" "" cafeSplits_validated
    cafeEx_accepted

/-- **Every split client of a validated configuration has valid weights**: two
    distributions or more, each weight `w%` with `1 ≤ w ≤ 99`, summing to 100; for the
    splits of routes, of matches, and the default splits of matches routes alike. -/
theorem generateVirtualServerConfig_splitClients_valid
    (hvs : validateVirtualServer parsers vsx.virtualServer isPlus = some [])
    (hvsrs : VirtualServerRoutesAccepted parsers isPlus vsx) :
    ∃ cfg warnings, vsc.generateVirtualServerConfig pemFileNameForMissingTLSSecret vsx
      tlsPemFileName = some (cfg, warnings) ∧ ∀ sc ∈ cfg.splitClients, SplitClientWeightsValid sc := by
  obtain ⟨cfg, u, rs, hgen, -, -, hrs, -, -, -, hsc, -⟩ := generateVirtualServerConfig_of_valid vsc
    pemFileNameForMissingTLSSecret tlsPemFileName vsx (validateVirtualServer_sound hvs)
    hvsrs.specValid
  exact ⟨cfg, _, hgen, hsc ▸ hrs.weights⟩

theorem cafe_splitClients_valid : ∃ cfg warnings,
    ossConfigurator.generateVirtualServerConfig "" cafeEx "" = some (cfg, warnings) ∧
      cfg.splitClients.length = 3 ∧ ∀ sc ∈ cfg.splitClients, SplitClientWeightsValid sc := by
  obtain ⟨cfg, warnings, hgen, hsc⟩ := generateVirtualServerConfig_splitClients_valid
    ossConfigurator "" "" cafeSplits_validated cafeEx_accepted
  exact ⟨cfg, warnings, hgen, (cafeEx_lowered hgen).1, hsc⟩

/-- Every name a configuration uses is defined in it. A proxying location is the location
    `generateLocationForProxying` builds from an upstream declaration, and passes to an
    upstream block built from that same declaration, so that it keeps connections alive
    exactly when that block has a `keepalive`. A distribution value is a location path. A
    map is a main map, whose results are the `@` paths of locations or the `$` variables of
    split clients, or a per-condition map, whose results are `0`, `1` or the `$` variable of
    a map. An internal redirect goes to a split client or a map. A health check names an
    upstream block and, when it matches statuses, a status match. -/
structure ReferencesDefined (cfgParams : ConfigParams) (isPlus : Bool)
    (variableNamer : VariableNamer) (cfg : Version2.VirtualServerConfig) : Prop where
  proxying : ∀ loc ∈ cfg.server.locations, loc.return = none →
    ∃ ups ∈ cfg.upstreams, ∃ (u : V1.Upstream) (path : String),
      UpstreamBuiltFrom cfgParams isPlus u ups ∧
      loc = generateLocationForProxying path ups.name u cfgParams ∧
      loc.proxyPass = generateProxyPassProtocol u.tls.enable ++ "://" ++ ups.name ∧
      (loc.hasKeepalive = true ↔ ups.keepalive ≠ 0)
  distributions : ∀ sc ∈ cfg.splitClients, ∀ d ∈ sc.distributions,
    d.value ∈ cfg.server.locations.map (·.path)
  maps : ∀ m ∈ cfg.maps,
    ((∃ idx, m.variable = variableNamer.getNameForVariableForMatchesRouteMainMap idx) ∧
      ∀ q ∈ m.parameters,
        (isNamedLocation q.result = true ∧ q.result ∈ cfg.server.locations.map (·.path)) ∨
        (Go.hasPrefix q.result "$" = true ∧ q.result ∈ cfg.splitClients.map (·.variable))) ∨
    ((∃ idx i j, m.variable = variableNamer.getNameForVariableForMatchesRouteMap idx i j) ∧
      ∀ q ∈ m.parameters, q.result = "0" ∨ q.result = "1" ∨
        (Go.hasPrefix q.result "$" = true ∧ q.result ∈ cfg.maps.map (·.variable)))
  destinations : ∀ irl ∈ cfg.server.internalRedirectLocations,
    irl.destination ∈ cfg.splitClients.map (·.variable) ++ cfg.maps.map (·.variable)
  health_checks : ∀ hc ∈ cfg.server.healthChecks, hc.name ∈ cfg.upstreams.map (·.name) ∧
    (hc.match ≠ "" → hc.match ∈ cfg.statusMatches.map (·.name))

/-- **No dangling references**: every name a configuration generated from validated
    resources uses is defined in it. -/
theorem generateVirtualServerConfig_references_defined
    (hvs : validateVirtualServer parsers vsx.virtualServer isPlus = some [])
    (hvsrs : VirtualServerRoutesAccepted parsers isPlus vsx) :
    ∃ cfg warnings, vsc.generateVirtualServerConfig pemFileNameForMissingTLSSecret vsx
      tlsPemFileName = some (cfg, warnings) ∧
      ReferencesDefined vsc.cfgParams vsc.isPlus (newVariableNamer vsx.virtualServer) cfg := by
  obtain ⟨cfg, u, rs, hgen, hu, -, hrs, hups, hsm, hhc, hsc, hmaps, hlocs, hirls⟩ :=
    generateVirtualServerConfig_of_valid vsc pemFileNameForMissingTLSSecret tlsPemFileName vsx
      (validateVirtualServer_sound hvs) hvsrs.specValid
  have hvars := hrs.hasPrefix_variable
  rw [← hsc, ← hmaps] at hvars
  refine ⟨cfg, _, hgen, ⟨fun loc hloc hret => ?_, ?_, fun m hm => ?_, ?_, ?_⟩⟩
  · rw [hlocs] at hloc
    obtain ⟨ups, hups', u', path, hbuilt, rfl⟩ := hrs.locations loc hloc hret
    refine ⟨ups, hups ▸ hups', u', path, hbuilt, rfl, rfl, ?_⟩
    rw [hbuilt.keepalive]
    exact upstreamHasKeepalive_iff u' vsc.cfgParams
  · rw [hsc, hlocs]
    exact hrs.distributions
  · rw [hmaps] at hm
    rcases hrs.results m hm with ⟨hv, hq⟩ | ⟨hv, hq⟩
    · refine .inl ⟨hv, fun q hq' => (hq q hq').imp (hlocs ▸ id) fun h => ?_⟩
      exact ⟨hvars _ (List.mem_append_left _ (hsc ▸ h)), hsc ▸ h⟩
    · refine .inr ⟨hv, fun q hq' => (hq q hq').imp_right (Or.imp_right fun h => ?_)⟩
      exact ⟨hvars _ (List.mem_append_right _ (hmaps ▸ h)), hmaps ▸ h⟩
  · rw [hirls, hsc, hmaps]
    intro irl hirl
    rcases hrs.destinations irl hirl with h | h
    · exact List.mem_append_right _ h
    · exact List.mem_append_left _ h
  · rw [hhc, hups, hsm]
    exact fun hc hhc' => ⟨hu.health_names hc hhc', hu.health_matches hc hhc'⟩

theorem cafe_references_defined : ∃ cfg warnings,
    ossConfigurator.generateVirtualServerConfig "" cafeEx "" = some (cfg, warnings) ∧
      (cfg.splitClients.length = 3 ∧ cfg.maps.length = 4 ∧
        ((cfg.server.locations.map (·.path)).filter isNamedLocation).length = 7 ∧
        cfg.server.internalRedirectLocations.length = 2) ∧
      ReferencesDefined ossConfigurator.cfgParams ossConfigurator.isPlus
        (newVariableNamer cafeEx.virtualServer) cfg := by
  obtain ⟨cfg, warnings, hgen, hrefs⟩ := generateVirtualServerConfig_references_defined
    ossConfigurator "" "" cafeSplits_validated cafeEx_accepted
  exact ⟨cfg, warnings, hgen, cafeEx_lowered hgen, hrefs⟩

/-- The identifiers of a configuration are distinct: the upstream names, the split-client
    variables, which are `$vs_<safe>_splits_<i>` at position `i`, the map variables, and the
    `@` location paths. -/
structure IdentifiersUnique (variableNamer : VariableNamer) (cfg : Version2.VirtualServerConfig) :
    Prop where
  upstreams : (cfg.upstreams.map (·.name)).Nodup
  numbered : cfg.splitClients.map (·.variable) =
    (List.range cfg.splitClients.length).map variableNamer.getNameForSplitClientVariable
  splitClients : (cfg.splitClients.map (·.variable)).Nodup
  maps : (cfg.maps.map (·.variable)).Nodup
  named_locations : ((cfg.server.locations.map (·.path)).filter isNamedLocation).Nodup

/-- **The identifiers of one configuration are distinct**, for VirtualServerRoutes of
    distinct namespace and name pairs, none with `_`: the counters threaded through the
    route loops never reuse an index. -/
theorem generateVirtualServerConfig_identifiers_unique
    (hvs : validateVirtualServer parsers vsx.virtualServer isPlus = some [])
    (hvsrs : VirtualServerRoutesAccepted parsers isPlus vsx)
    (hkeys : (vsx.virtualServerRoutes.map fun vsr => (vsr.namespace, vsr.name)).Nodup)
    (hns : ∀ vsr ∈ vsx.virtualServerRoutes, '_' ∉ vsr.namespace.data ∧ '_' ∉ vsr.name.data) :
    ∃ cfg warnings, vsc.generateVirtualServerConfig pemFileNameForMissingTLSSecret vsx
      tlsPemFileName = some (cfg, warnings) ∧
      IdentifiersUnique (newVariableNamer vsx.virtualServer) cfg := by
  have hspec := validateVirtualServer_sound hvs
  obtain ⟨cfg, u, rs, hgen, -, hnames, hrs, hups, -, -, hsc, hmaps, hlocs, -⟩ :=
    generateVirtualServerConfig_of_valid vsc pemFileNameForMissingTLSSecret tlsPemFileName vsx
      hspec hvsrs.specValid
  have hnumbered : cfg.splitClients.map (·.variable) = (List.range cfg.splitClients.length).map
      (newVariableNamer vsx.virtualServer).getNameForSplitClientVariable := hsc ▸ hrs.numbered
  refine ⟨cfg, _, hgen, ⟨?_, hnumbered, ?_, hmaps ▸ hrs.map_vars_nodup, hlocs ▸ hrs.named_nodup⟩⟩
  · rw [hups, hnames]
    refine upstreamNames_nodup hspec.upstreams (fun vsr hvsr => ?_) hkeys hns
    obtain ⟨_, h⟩ := hvsrs.specValid vsr hvsr
    exact h.upstreams
  · rw [hnumbered]
    exact (List.nodup_range _).map fun _ _ h => VariableNamer.getNameForSplitClientVariable_inj _ h

theorem cafe_identifiers_unique : ∃ cfg warnings,
    ossConfigurator.generateVirtualServerConfig "" cafeEx "" = some (cfg, warnings) ∧
      (cfg.splitClients.length = 3 ∧ cfg.maps.length = 4 ∧
        ((cfg.server.locations.map (·.path)).filter isNamedLocation).length = 7) ∧
      IdentifiersUnique (newVariableNamer cafeEx.virtualServer) cfg := by
  obtain ⟨cfg, warnings, hgen, hids⟩ := generateVirtualServerConfig_identifiers_unique
    ossConfigurator "" "" cafeSplits_validated cafeEx_accepted (by decide) (by decide)
  obtain ⟨hsc, hmaps, hnamed, -⟩ := cafeEx_lowered hgen
  exact ⟨cfg, warnings, hgen, ⟨hsc, hmaps, hnamed⟩, hids⟩

end

/-! ## Matches of a delegating route -/

/-- The VirtualServer `cafe` whose route `/coffee`, which delegates to `coffee`, also has a
    match on the header `x-version`. -/
def cafeWithDelegatedMatch : VirtualServer :=
  { cafe with spec := { cafe.spec with
      routes := [{ path := "/tea", action := some { pass := "tea" } },
                 { path := "/coffee", route := "default/coffee"
                   «matches» := [{ conditions := [{ header := "x-version", value := "v2" }]
                                   action := some { pass := "tea" } }] }] } }

/-- **A route with both a `route` and matches is accepted, and its matches are dropped.**
    `validateRoute` counts the `route` as the one of `action`, `splits` and `route` that a
    route sets, whatever its matches; the generator skips a route that delegates, so the
    configuration has no map at all. -/
theorem delegated_match_dropped :
    validateVirtualServer lenientParsers cafeWithDelegatedMatch false = some [] ∧
    validateVirtualServerRouteForVirtualServer lenientParsers coffee "cafe.example.com" "/coffee"
      false = some [] ∧
    (ossConfigurator.generateVirtualServerConfig ""
      { virtualServer := cafeWithDelegatedMatch, virtualServerRoutes := [coffee] } "").map
        (fun g => g.1.maps) = some [] := by
  decide

end KubernetesIngress.Configs
