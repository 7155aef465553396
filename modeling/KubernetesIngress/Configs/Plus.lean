import KubernetesIngress.Configs.Generation

set_option autoImplicit false

/-! # What the NGINX Plus API is sent

`createUpstreamsForPlus` walks the upstreams of a VirtualServer and of each of its
VirtualServerRoutes, skips those whose service `ExternalNameSvcs` stores as an ExternalName
service, and builds the others with a Plus configurator and no resolver. The configurator
it threads through only collects warnings, so each step keeps the base settings and appends
the upstream its declaration gives under them, from the endpoints stored under its key
(`addUpstreamForPlus_spec`). Run side by side with the upstream loops of
`GenerateVirtualServerConfig`, the loops send the upstreams the configuration declares, less
those marked `resolve` (`createUpstreamsForPlus_eq_unresolved`). -/

namespace KubernetesIngress.Configs

open V1

/-! ## One upstream -/

section
variable (vsc vsc' : VirtualServerConfigurator) (owner owner' : Owner) (upstreamName : String)
  (u : V1.Upstream) (isExternalNameSvc : Bool) (endpoints : List String)

/-- The upstream `generateUpstream` builds depends on the configurator only through its
    settings: neither on the warnings so far nor on the owner they are filed under. -/
theorem generateUpstream_fst_congr (hcfg : vsc.cfgParams = vsc'.cfgParams)
    (hplus : vsc.isPlus = vsc'.isPlus) :
    (vsc.generateUpstream owner upstreamName u isExternalNameSvc endpoints).1 =
      (vsc'.generateUpstream owner' upstreamName u isExternalNameSvc endpoints).1 := by
  unfold VirtualServerConfigurator.generateUpstream
    VirtualServerConfigurator.generateSlowStartForPlus
  simp only [hcfg, hplus]
  split_ifs <;> rfl

/-- A Plus configurator takes the endpoints of a service that is not an ExternalName service
    as they are stored, and adds no warning. -/
theorem generateEndpointsForUpstream_of_plus («namespace» : String) (vsx : VirtualServerEx)
    (hplus : vsc.isPlus = true)
    (hext : vsx.externalNameSvcs (generateExternalNameSvcKey «namespace» u.service) = none) :
    vsc.generateEndpointsForUpstream owner «namespace» u vsx =
      (vsx.endpoints (generateEndpointsKey «namespace» u.service u.subselector u.port), vsc) := by
  simp [VirtualServerConfigurator.generateEndpointsForUpstream, hplus, hext]

end

/-! ## One step of the loops -/

/-- Whether `createUpstreamsForPlus` skips declaration `u` of a resource in `namespace`: the
    stored value under its ExternalName key is `true`. -/
def skippedForPlus (virtualServerEx : VirtualServerEx) («namespace» : String) (u : V1.Upstream) :
    Bool :=
  (virtualServerEx.externalNameSvcs (generateExternalNameSvcKey «namespace» u.service)).getD false

/-- The upstream the Plus API is sent for declaration `u` of a resource: built by a fresh
    Plus configurator from the endpoints stored under its key. -/
def plusUpstream (virtualServerEx : VirtualServerEx) (cfgParams : ConfigParams) (owner : Owner)
    (upstreamNamer : UpstreamNamer) («namespace» : String) (u : V1.Upstream) : Version2.Upstream :=
  ((newVirtualServerConfigurator cfgParams true false).generateUpstream owner
    (upstreamNamer.getNameForUpstream u.name) u false
    (virtualServerEx.endpoints (generateEndpointsKey «namespace» u.service u.subselector u.port))).1

/-- The upstreams the Plus API is sent for the declarations `us` of one resource. -/
def plusUpstreams (virtualServerEx : VirtualServerEx) (cfgParams : ConfigParams) (owner : Owner)
    (upstreamNamer : UpstreamNamer) («namespace» : String) (us : List V1.Upstream) :
    List Version2.Upstream :=
  (us.filter fun u => !skippedForPlus virtualServerEx «namespace» u).map
    (plusUpstream virtualServerEx cfgParams owner upstreamNamer «namespace»)

/-- A configurator with the settings `createUpstreamsForPlus` gives it. -/
def PlusSettings (cfgParams : ConfigParams) (vsc : VirtualServerConfigurator) : Prop :=
  vsc.cfgParams = cfgParams ∧ vsc.isPlus = true

section
variable (virtualServerEx : VirtualServerEx) {cfgParams : ConfigParams} (owner : Owner)
  (upstreamNamer : UpstreamNamer) («namespace» : String)

/-- **One step of a loop of `createUpstreamsForPlus`** keeps the settings and appends the
    upstream of the declaration, unless it is skipped. -/
theorem addUpstreamForPlus_spec {acc : VirtualServerConfigurator × List Version2.Upstream}
    (h : PlusSettings cfgParams acc.1) (u : V1.Upstream) :
    PlusSettings cfgParams (addUpstreamForPlus virtualServerEx owner upstreamNamer «namespace» acc u).1 ∧
      (addUpstreamForPlus virtualServerEx owner upstreamNamer «namespace» acc u).2 =
        acc.2 ++ plusUpstreams virtualServerEx cfgParams owner upstreamNamer «namespace» [u] := by
  have hskip : (virtualServerEx.externalNameSvcs
      (generateExternalNameSvcKey «namespace» u.service)).getD false =
      skippedForPlus virtualServerEx «namespace» u := rfl
  unfold addUpstreamForPlus plusUpstreams
  rw [hskip, List.filter_singleton]
  cases hs : skippedForPlus virtualServerEx «namespace» u
  · obtain ⟨hcfg, hplus⟩ := generateUpstream_settings acc.1 owner
      (upstreamNamer.getNameForUpstream u.name) u false
      (virtualServerEx.endpoints (generateEndpointsKey «namespace» u.service u.subselector u.port))
    refine ⟨⟨hcfg.trans h.1, hplus.trans h.2⟩, ?_⟩
    simp only [Bool.not_false, cond_true, List.map_singleton, plusUpstream]
    rw [generateUpstream_fst_congr acc.1 (newVirtualServerConfigurator cfgParams true false) owner
      owner _ _ _ _ h.1 h.2]
    rfl
  · simpa using h

end

/-! ## The Plus list against the generated configuration -/

/-- The upstream loops of `GenerateVirtualServerConfig` and of `createUpstreamsForPlus` run
    side by side: both configurators have the Plus settings, and the Plus list is the
    generated one without the upstreams marked `resolve`. -/
structure PlusSimulates (cfgParams : ConfigParams) (st : UpstreamsState)
    (acc : VirtualServerConfigurator × List Version2.Upstream) : Prop where
  generated : PlusSettings cfgParams st.vsc
  plus : PlusSettings cfgParams acc.1
  upstreams : acc.2 = st.upstreams.filter fun ups => !ups.resolve

/-- `ExternalNameSvcs` used as a set: every key it holds is stored with `true`, as the
    controller fills it. -/
def StoresOnlyTrue (virtualServerEx : VirtualServerEx) : Prop :=
  ∀ k b, virtualServerEx.externalNameSvcs k = some b → b = true

section
variable {virtualServerEx : VirtualServerEx} {cfgParams : ConfigParams} {owner : Owner}
  {upstreamNamer : UpstreamNamer} {«namespace» : String}

/-- **One step of each loop keeps the two runs in step.** -/
theorem plusSimulates_step (hstored : StoresOnlyTrue virtualServerEx) {st st' : UpstreamsState}
    {acc : VirtualServerConfigurator × List Version2.Upstream}
    (hsim : PlusSimulates cfgParams st acc) {u : V1.Upstream}
    (h : addUpstream virtualServerEx owner upstreamNamer «namespace» st u = some st') :
    PlusSimulates cfgParams st'
      (addUpstreamForPlus virtualServerEx owner upstreamNamer «namespace» acc u) := by
  obtain ⟨endpoints, vsc1, hE, hvsc, hups⟩ := addUpstream_eq_some h
  obtain ⟨hplus, hacc⟩ :=
    addUpstreamForPlus_spec virtualServerEx owner upstreamNamer «namespace» hsim.plus u
  obtain ⟨hc1, hp1⟩ := generateEndpointsForUpstream_settings st.vsc owner u «namespace» virtualServerEx
  rw [hE] at hc1 hp1
  obtain ⟨hc2, hp2⟩ := generateUpstream_settings vsc1 owner (upstreamNamer.getNameForUpstream u.name)
    u (virtualServerEx.externalNameSvcs (generateExternalNameSvcKey «namespace» u.service)).isSome
    endpoints
  refine ⟨⟨?_, ?_⟩, hplus, ?_⟩
  · rw [hvsc, hc2, hc1, hsim.generated.1]
  · rw [hvsc, hp2, hp1, hsim.generated.2]
  · rw [hacc, hsim.upstreams, hups, List.filter_append]
    congr 1
    simp only [plusUpstreams, skippedForPlus, List.filter_singleton, generateUpstream_resolve]
    cases hk : virtualServerEx.externalNameSvcs (generateExternalNameSvcKey «namespace» u.service) with
    | none =>
      rw [generateEndpointsForUpstream_of_plus st.vsc owner u «namespace» virtualServerEx
        hsim.generated.2 hk] at hE
      obtain ⟨rfl, rfl⟩ := Prod.mk.inj hE
      simp only [Option.getD_none, Bool.not_false, cond_true, List.map_singleton,
        Option.isSome_none, plusUpstream]
      rw [generateUpstream_fst_congr st.vsc (newVirtualServerConfigurator cfgParams true false) owner
        owner _ _ _ _ hsim.generated.1 hsim.generated.2]
    | some b =>
      rw [hstored _ b hk]
      simp

/-- **A whole upstream loop keeps the two runs in step.** -/
theorem plusSimulates_run (hstored : StoresOnlyTrue virtualServerEx) (us : List V1.Upstream) :
    ∀ {st st' : UpstreamsState} {acc : VirtualServerConfigurator × List Version2.Upstream},
      PlusSimulates cfgParams st acc →
      us.foldlM (addUpstream virtualServerEx owner upstreamNamer «namespace») st = some st' →
      PlusSimulates cfgParams st'
        (us.foldl (addUpstreamForPlus virtualServerEx owner upstreamNamer «namespace») acc) :=
  foldlM_foldl_rel (f := addUpstream virtualServerEx owner upstreamNamer «namespace»)
    (PlusSimulates cfgParams) (fun _ _ _ _ hsim h => plusSimulates_step hstored hsim h) us

end

/-- The loops over the VirtualServerRoutes keep the two runs in step. -/
theorem plusSimulates_virtualServerRoutes {virtualServerEx : VirtualServerEx} {cfgParams : ConfigParams}
    (hstored : StoresOnlyTrue virtualServerEx) (vs : VirtualServer) (vsrs : List VirtualServerRoute) :
    ∀ {st st' : UpstreamsState} {acc : VirtualServerConfigurator × List Version2.Upstream},
      PlusSimulates cfgParams st acc →
      vsrs.foldlM (fun ups vsr => vsr.spec.upstreams.foldlM (addUpstream virtualServerEx
        (Owner.ofVirtualServerRoute vsr) (newUpstreamNamerForVirtualServerRoute vs vsr)
        vsr.namespace) ups) st = some st' →
      PlusSimulates cfgParams st' (vsrs.foldl (fun acc vsr =>
        vsr.spec.upstreams.foldl (addUpstreamForPlus virtualServerEx (Owner.ofVirtualServerRoute vsr)
          (newUpstreamNamerForVirtualServerRoute vs vsr) vsr.namespace) acc) acc) :=
  foldlM_foldl_rel (PlusSimulates cfgParams)
    (fun _ _ vsr _ hsim h => plusSimulates_run hstored vsr.spec.upstreams hsim h) vsrs

/-- **The Plus API is sent the upstreams written into the configuration, less those marked
    `resolve`**, in the same order and field for field, when `ExternalNameSvcs` holds only
    `true`: for every VirtualServerEx and settings, and a Plus configurator with those
    settings and any resolver flag whose `GenerateVirtualServerConfig` returns. -/
theorem createUpstreamsForPlus_eq_unresolved {virtualServerEx : VirtualServerEx}
    {cfgParams : ConfigParams} {isResolverConfigured : Bool}
    {pemFileNameForMissingTLSSecret tlsPemFileName : String} {cfg : Version2.VirtualServerConfig}
    {warnings : List (Owner × String)} (hstored : StoresOnlyTrue virtualServerEx)
    (h : (newVirtualServerConfigurator cfgParams true isResolverConfigured).generateVirtualServerConfig
      pemFileNameForMissingTLSSecret virtualServerEx tlsPemFileName = some (cfg, warnings)) :
    createUpstreamsForPlus virtualServerEx cfgParams = cfg.upstreams.filter fun ups => !ups.resolve := by
  obtain ⟨u1, u, -, -, h1, h2, -, -, hups, -⟩ := generateVirtualServerConfig_eq_some h
  have hinit : PlusSimulates cfgParams
      { vsc := (newVirtualServerConfigurator cfgParams true isResolverConfigured).clearWarnings }
      (newVirtualServerConfigurator cfgParams true false, []) := ⟨⟨rfl, rfl⟩, ⟨rfl, rfl⟩, rfl⟩
  have hsim := plusSimulates_virtualServerRoutes hstored _ _ (plusSimulates_run hstored _ hinit h1) h2
  rw [hups, ← hsim.upstreams]
  rfl

/-- The cafe resources, with the service `tea-svc` an ExternalName service. -/
def cafeResources : VirtualServerEx :=
  { virtualServer := Validation.cafe, virtualServerRoutes := [Validation.coffee]
    externalNameSvcs := fun k => if k = "default/tea-svc" then some true else none }

theorem cafe_plus_upstreams : ∃ cfg warnings,
    (newVirtualServerConfigurator {} true false).generateVirtualServerConfig "" cafeResources "" =
      some (cfg, warnings) ∧
    createUpstreamsForPlus cafeResources {} = cfg.upstreams.filter (fun ups => !ups.resolve) ∧
    cfg.upstreams.map (·.resolve) = [true, false] := by
  have hstored : StoresOnlyTrue cafeResources := fun k b hk => by
    simp only [cafeResources] at hk
    split_ifs at hk
    exact (Option.some.inj hk).symm
  have hs : ((newVirtualServerConfigurator {} true false).generateVirtualServerConfig ""
      cafeResources "").isSome := by
    decide
  have h := (Option.some_get hs).symm
  exact ⟨_, _, h, createUpstreamsForPlus_eq_unresolved hstored h, by decide⟩

/-- The cafe resources, with `false` stored under every key of `ExternalNameSvcs`. -/
def cafeStoredFalse : VirtualServerEx := { cafeResources with externalNameSvcs := fun _ => some false }

/-- **A key stored with `false` splits the two lists**: `GenerateVirtualServerConfig` tests
    that the key is present and marks both upstreams `resolve`, while `createUpstreamsForPlus`
    reads the stored `false` and sends both to the Plus API. -/
theorem createUpstreamsForPlus_stored_false :
    ((newVirtualServerConfigurator {} true false).generateVirtualServerConfig "" cafeStoredFalse
        "").map (fun r => r.1.upstreams.filter fun ups => !ups.resolve) = some [] ∧
      (createUpstreamsForPlus cafeStoredFalse {}).length = 2 := by
  decide

end KubernetesIngress.Configs
