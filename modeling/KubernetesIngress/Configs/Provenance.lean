import KubernetesIngress.Configs.Validated

set_option autoImplicit false

/-! # Where a generated configuration comes from

`GenerateVirtualServerConfig` builds every block of its output from a declaration of its
input: an upstream block and a health check from an upstream of the VirtualServer or of one
of its VirtualServerRoutes, a location from an action of one of their routes, with the
settings of the upstream the action passes to, or of the zero `Upstream` where the name is
not declared. This file states that provenance as invariants of the upstream loops and of the
route loops, which hold from any input, validated or not, and lifts them to the whole
generator (`generateVirtualServerConfig_from`).

Two things the generator never does, on any input, follow from the upstream loops: it never
keeps a slow start with a load-balancing method that NGINX rejects it with
(`generateVirtualServerConfig_slowStart`), and for NGINX OSS it never emits an upstream block
without a server, except for an ExternalName service when no resolver is configured, which it
warns about (`generateVirtualServerConfig_oss_servers`). -/

namespace KubernetesIngress.Configs

open V1 Validation

/-- A loop keeps `P` when each step over an element of the list keeps it. -/
theorem foldlM_inv_mem {α β : Type} {f : β → α → Option β} (P : β → Prop) :
    ∀ (l : List α), (∀ b x b', x ∈ l → P b → f b x = some b' → P b') →
      ∀ {b b' : β}, P b → l.foldlM f b = some b' → P b'
  | [], _, _, _, hb, h => by cases h; exact hb
  | x :: l, hstep, b, b', hb, h => by
    simp only [List.foldlM_cons, Option.bind_eq_bind, Option.bind_eq_some] at h
    obtain ⟨b1, h1, h2⟩ := h
    exact foldlM_inv_mem P l (fun b y b' hy => hstep b y b' (List.mem_cons_of_mem _ hy))
      (hstep b x b1 (List.mem_cons_self _ _) hb h1) h2

/-! ## The declarations of the input -/

/-- The upstreams the upstream loops visit: those of the VirtualServer, then those of each
    VirtualServerRoute. -/
def declaredUpstreams (vsx : VirtualServerEx) : List V1.Upstream :=
  vsx.virtualServer.spec.upstreams ++ (vsx.virtualServerRoutes.map (·.spec.upstreams)).flatten

/-- The routes the route loops visit: those of the VirtualServer, then the subroutes of each
    VirtualServerRoute. -/
def declaredRoutes (vsx : VirtualServerEx) : List Route :=
  vsx.virtualServer.spec.routes ++ (vsx.virtualServerRoutes.map (·.spec.subroutes)).flatten

theorem mem_declaredUpstreams_of_vsr {vsx : VirtualServerEx} {vsr : VirtualServerRoute}
    (hvsr : vsr ∈ vsx.virtualServerRoutes) {u : V1.Upstream} (hu : u ∈ vsr.spec.upstreams) :
    u ∈ declaredUpstreams vsx :=
  List.mem_append_right _ (List.mem_flatten.2 ⟨_, List.mem_map_of_mem _ hvsr, hu⟩)

theorem mem_declaredRoutes_of_vsr {vsx : VirtualServerEx} {vsr : VirtualServerRoute}
    (hvsr : vsr ∈ vsx.virtualServerRoutes) {r : Route} (hr : r ∈ vsr.spec.subroutes) :
    r ∈ declaredRoutes vsx :=
  List.mem_append_right _ (List.mem_flatten.2 ⟨_, List.mem_map_of_mem _ hvsr, hr⟩)

/-! ## One step of an upstream loop -/

section
variable {vsx : VirtualServerEx} {owner : Owner} {upstreamNamer : UpstreamNamer}
  {«namespace» : String} {st st' : UpstreamsState} {u : V1.Upstream}

/-- **Everything one step of an upstream loop does**: it builds the endpoints, then the
    upstream block, records the declaration under the block's name, and appends the health
    check and the status match of the declaration, if it has them. -/
theorem addUpstream_cases (h : addUpstream vsx owner upstreamNamer «namespace» st u = some st') :
    ∃ endpoints vsc1 ups vsc2,
      st.vsc.generateEndpointsForUpstream owner «namespace» u vsx = (endpoints, vsc1) ∧
      vsc1.generateUpstream owner (upstreamNamer.getNameForUpstream u.name) u
        (vsx.externalNameSvcs (generateExternalNameSvcKey «namespace» u.service)).isSome endpoints =
        (ups, vsc2) ∧
      st'.vsc = vsc2 ∧ st'.upstreams = st.upstreams ++ [ups] ∧
      st'.crUpstreams = (fun k => if k = upstreamNamer.getNameForUpstream u.name then u
        else st.crUpstreams k) ∧
      ((generateHealthCheck u (upstreamNamer.getNameForUpstream u.name) vsc2.cfgParams = none ∧
          st'.healthChecks = st.healthChecks ∧ st'.statusMatches = st.statusMatches) ∨
        ∃ hc h', generateHealthCheck u (upstreamNamer.getNameForUpstream u.name) vsc2.cfgParams =
            some hc ∧ u.healthCheck = some h' ∧ st'.healthChecks = st.healthChecks ++ [hc] ∧
          st'.statusMatches = if h'.statusMatch ≠ "" then st.statusMatches ++
            [generateUpstreamStatusMatch (upstreamNamer.getNameForUpstream u.name) h'.statusMatch]
          else st.statusMatches) := by
  generalize hE : st.vsc.generateEndpointsForUpstream owner «namespace» u vsx = E
  obtain ⟨endpoints, vsc1⟩ := E
  generalize hG : vsc1.generateUpstream owner (upstreamNamer.getNameForUpstream u.name) u
    (vsx.externalNameSvcs (generateExternalNameSvcKey «namespace» u.service)).isSome endpoints = G
  obtain ⟨ups, vsc2⟩ := G
  refine ⟨endpoints, vsc1, ups, vsc2, rfl, hG, ?_⟩
  simp only [addUpstream, hE, hG] at h
  split at h
  · cases h
    exact ⟨rfl, rfl, rfl, .inl ⟨‹_›, rfl, rfl⟩⟩
  · rename_i hc hhc
    split at h
    · cases h
    · cases h
      exact ⟨rfl, rfl, rfl, .inr ⟨hc, _, hhc, ‹_›, rfl, rfl⟩⟩

end

/-! ## The upstream loops -/

/-- Where the accumulators of the upstream loops come from: the declarations `decls`. The
    configurator keeps its settings; the declaration looked up under any name is a
    declaration or the zero `Upstream`; every upstream block is built from a declaration,
    every health check is the one `generateHealthCheck` builds from a declaration, and every
    status match holds the status match of a declaration's health check. -/
structure UpstreamsFrom (cfgParams : ConfigParams) (isPlus : Bool) (decls : List V1.Upstream)
    (st : UpstreamsState) : Prop where
  cfgParams_eq : st.vsc.cfgParams = cfgParams
  isPlus_eq : st.vsc.isPlus = isPlus
  lookup : ∀ k, st.crUpstreams k = default ∨ st.crUpstreams k ∈ decls
  upstreams : ∀ ups ∈ st.upstreams, ∃ u ∈ decls, UpstreamBuiltFrom cfgParams isPlus u ups
  healthChecks : ∀ hc ∈ st.healthChecks, ∃ u ∈ decls,
    generateHealthCheck u hc.name cfgParams = some hc
  statusMatches : ∀ sm ∈ st.statusMatches, ∃ u ∈ decls, ∃ h, u.healthCheck = some h ∧
    h.statusMatch ≠ "" ∧ sm.code = h.statusMatch

theorem upstreamsFrom_init (vsc : VirtualServerConfigurator) (decls : List V1.Upstream) :
    UpstreamsFrom vsc.cfgParams vsc.isPlus decls { vsc := vsc.clearWarnings } :=
  ⟨rfl, rfl, fun _ => .inl rfl, by simp, by simp, by simp⟩

/-- **One step of an upstream loop over a declaration keeps the provenance.** -/
theorem addUpstream_from {cfgParams : ConfigParams} {isPlus : Bool} {decls : List V1.Upstream}
    {vsx : VirtualServerEx} {owner : Owner} {upstreamNamer : UpstreamNamer} {«namespace» : String}
    {st st' : UpstreamsState} {u : V1.Upstream} (hu : u ∈ decls)
    (hinv : UpstreamsFrom cfgParams isPlus decls st)
    (h : addUpstream vsx owner upstreamNamer «namespace» st u = some st') :
    UpstreamsFrom cfgParams isPlus decls st' := by
  obtain ⟨endpoints, vsc1, ups, vsc2, hE, hG, hvsc, hups, hcr, hhc⟩ := addUpstream_cases h
  obtain ⟨hc1, hp1⟩ := generateEndpointsForUpstream_settings st.vsc owner u «namespace» vsx
  obtain ⟨hc2, hp2⟩ := generateUpstream_settings vsc1 owner (upstreamNamer.getNameForUpstream u.name)
    u (vsx.externalNameSvcs (generateExternalNameSvcKey «namespace» u.service)).isSome endpoints
  have hname := generateUpstream_name vsc1 owner (upstreamNamer.getNameForUpstream u.name)
    u (vsx.externalNameSvcs (generateExternalNameSvcKey «namespace» u.service)).isSome endpoints
  rw [hE] at hc1 hp1
  rw [hG] at hc2 hp2 hname
  have hcfg : vsc2.cfgParams = cfgParams := hc2.trans (hc1.trans hinv.cfgParams_eq)
  have hbuilt : UpstreamBuiltFrom cfgParams isPlus u ups :=
    ⟨vsc1, owner, _, endpoints, hc1.trans hinv.cfgParams_eq, hp1.trans hinv.isPlus_eq,
      by rw [hname, hG]⟩
  refine ⟨hvsc ▸ hcfg, hvsc ▸ hp2.trans (hp1.trans hinv.isPlus_eq), fun k => ?_, ?_, ?_, ?_⟩
  · rw [hcr]
    dsimp only
    split_ifs
    · exact .inr hu
    · exact hinv.lookup k
  · rw [hups]
    intro x hx
    rcases List.mem_append.1 hx with hx | hx
    · exact hinv.upstreams x hx
    · rw [List.mem_singleton.1 hx]
      exact ⟨u, hu, hbuilt⟩
  · rcases hhc with ⟨-, hhcs, -⟩ | ⟨hc, h', hgen, -, hhcs, -⟩ <;> rw [hhcs]
    · exact hinv.healthChecks
    · intro x hx
      rcases List.mem_append.1 hx with hx | hx
      · exact hinv.healthChecks x hx
      · rw [List.mem_singleton.1 hx, ← hcfg]
        obtain ⟨-, -, hcname, -⟩ := generateHealthCheck_eq_some hgen
        exact ⟨u, hu, hcname ▸ hgen⟩
  · rcases hhc with ⟨-, -, hsms⟩ | ⟨hc, h', -, hh', -, hsms⟩ <;> rw [hsms]
    · exact hinv.statusMatches
    · split_ifs with hsm
      · intro x hx
        rcases List.mem_append.1 hx with hx | hx
        · exact hinv.statusMatches x hx
        · rw [List.mem_singleton.1 hx]
          exact ⟨u, hu, h', hh', hsm, rfl⟩
      · exact hinv.statusMatches

/-- **The upstream loops of the generator keep the provenance**: the loop over the
    VirtualServer's upstreams, then the loops over each VirtualServerRoute's upstreams. -/
theorem upstreamLoops_from (vsc : VirtualServerConfigurator) (vsx : VirtualServerEx)
    {u1 u : UpstreamsState}
    (h1 : vsx.virtualServer.spec.upstreams.foldlM (addUpstream vsx
      (Owner.ofVirtualServer vsx.virtualServer) (newUpstreamNamerForVirtualServer vsx.virtualServer)
      vsx.virtualServer.namespace) { vsc := vsc.clearWarnings } = some u1)
    (h2 : vsx.virtualServerRoutes.foldlM (fun ups vsr => vsr.spec.upstreams.foldlM (addUpstream vsx
      (Owner.ofVirtualServerRoute vsr) (newUpstreamNamerForVirtualServerRoute vsx.virtualServer vsr)
      vsr.namespace) ups) u1 = some u) :
    UpstreamsFrom vsc.cfgParams vsc.isPlus (declaredUpstreams vsx) u := by
  have hu1 := foldlM_inv_mem (UpstreamsFrom vsc.cfgParams vsc.isPlus (declaredUpstreams vsx))
    _ (fun _ x _ hx hinv h => addUpstream_from (List.mem_append_left _ hx) hinv h)
    (upstreamsFrom_init vsc _) h1
  exact foldlM_inv_mem (UpstreamsFrom vsc.cfgParams vsc.isPlus (declaredUpstreams vsx)) _
    (fun _ vsr _ hvsr hinv h => foldlM_inv_mem _ _
      (fun _ x _ hx hinv h => addUpstream_from (mem_declaredUpstreams_of_vsr hvsr hx) hinv h)
      hinv h) hu1 h2

/-! ## The route loops -/

/-- A location generated for an action of one of `routes`, at some path, passing to some
    upstream name with the settings that `crUpstreams` holds under that name. -/
def LocationFrom (routes : List Route) (crUpstreams : String → V1.Upstream)
    (cfgParams : ConfigParams) (loc : Version2.Location) : Prop :=
  ∃ r ∈ routes, ∃ a, ActionOfRoute r a ∧
    ∃ path name, loc = generateLocation path name (crUpstreams name) a cfgParams

section
variable {routes : List Route} {upstreamNamer : UpstreamNamer} {crUpstreams : String → V1.Upstream}
  {variableNamer : VariableNamer} {cfgParams : ConfigParams} {st st' : RoutesState} {r : Route}

/-- One step of a route loop over one of `routes` appends locations of its actions only. -/
theorem addRoute_from (hr : r ∈ routes)
    (hinv : ∀ loc ∈ st.locations, LocationFrom routes crUpstreams cfgParams loc)
    (h : addRoute upstreamNamer crUpstreams variableNamer cfgParams st r = some st') :
    ∀ loc ∈ st'.locations, LocationFrom routes crUpstreams cfgParams loc := by
  rw [addRoute_eq] at h
  obtain ⟨p, hp, rfl⟩ := Option.map_eq_some'.1 h
  simp only [RoutesState.append_locations, List.mem_append]
  rintro loc (hloc | hloc)
  · exact hinv loc hloc
  · obtain ⟨a, ha, path, rfl⟩ := routePiece_actions hp loc hloc
    exact ⟨r, hr, a, ha, path, _, rfl⟩

theorem addVirtualServerRoute_from (hr : r ∈ routes)
    (hinv : ∀ loc ∈ st.locations, LocationFrom routes crUpstreams cfgParams loc)
    (h : addVirtualServerRoute upstreamNamer crUpstreams variableNamer cfgParams st r = some st') :
    ∀ loc ∈ st'.locations, LocationFrom routes crUpstreams cfgParams loc := by
  unfold addVirtualServerRoute at h
  split_ifs at h
  · cases h
    exact hinv
  · exact addRoute_from hr hinv h

end

/-! ## The whole generator -/

section
variable {vsc : VirtualServerConfigurator} {pemFileNameForMissingTLSSecret tlsPemFileName : String}
  {vsx : VirtualServerEx} {cfg : Version2.VirtualServerConfig} {warnings : List (Owner × String)}

/-- **What a returned configuration is**, block for block: the accumulators of the four loops,
    the SSL and TLS-redirect blocks of the VirtualServer's TLS, and the settings of the
    configurator. -/
theorem generateVirtualServerConfig_inv
    (h : vsc.generateVirtualServerConfig pemFileNameForMissingTLSSecret vsx tlsPemFileName =
      some (cfg, warnings)) :
    ∃ (u1 u : UpstreamsState) (r1 rs : RoutesState),
      vsx.virtualServer.spec.upstreams.foldlM (addUpstream vsx
        (Owner.ofVirtualServer vsx.virtualServer) (newUpstreamNamerForVirtualServer vsx.virtualServer)
        vsx.virtualServer.namespace) { vsc := vsc.clearWarnings } = some u1 ∧
      vsx.virtualServerRoutes.foldlM (fun ups vsr => vsr.spec.upstreams.foldlM (addUpstream vsx
        (Owner.ofVirtualServerRoute vsr) (newUpstreamNamerForVirtualServerRoute vsx.virtualServer vsr)
        vsr.namespace) ups) u1 = some u ∧
      vsx.virtualServer.spec.routes.foldlM (addVirtualServerRoute
        (newUpstreamNamerForVirtualServer vsx.virtualServer) u.crUpstreams
        (newVariableNamer vsx.virtualServer) vsc.cfgParams) {} = some r1 ∧
      vsx.virtualServerRoutes.foldlM (fun rs vsr => vsr.spec.subroutes.foldlM (addRoute
        (newUpstreamNamerForVirtualServerRoute vsx.virtualServer vsr) u.crUpstreams
        (newVariableNamer vsx.virtualServer) vsc.cfgParams) rs) r1 = some rs ∧
      warnings = u.vsc.warnings ∧
      cfg = { upstreams := u.upstreams, splitClients := rs.splitClients, maps := rs.maps
              statusMatches := u.statusMatches
              server :=
                { serverName := vsx.virtualServer.spec.host
                  statusZone := vsx.virtualServer.spec.host
                  proxyProtocol := vsc.cfgParams.proxyProtocol
                  ssl := generateSSLConfig pemFileNameForMissingTLSSecret
                    vsx.virtualServer.spec.tls tlsPemFileName vsc.cfgParams
                  serverTokens := vsc.cfgParams.serverTokens
                  setRealIPFrom := vsc.cfgParams.setRealIPFrom
                  realIPHeader := vsc.cfgParams.realIPHeader
                  realIPRecursive := vsc.cfgParams.realIPRecursive
                  snippets := vsc.cfgParams.serverSnippets
                  internalRedirectLocations := rs.internalRedirectLocations
                  locations := rs.locations, healthChecks := u.healthChecks
                  tlsRedirect := generateTLSRedirectConfig vsx.virtualServer.spec.tls } } := by
  simp only [VirtualServerConfigurator.generateVirtualServerConfig, Option.bind_eq_bind,
    VirtualServerConfigurator.clearWarnings_cfgParams, Option.bind_eq_some, Option.pure_def,
    Option.some.injEq] at h
  obtain ⟨u1, h1, u, h2, r1, h3, rs, h4, hcfg⟩ := h
  obtain ⟨rfl, rfl⟩ := Prod.mk.inj hcfg
  exact ⟨u1, u, r1, rs, h1, h2, h3, h4, rfl, rfl⟩

/-- Where a configuration comes from: the declarations of the input and the settings of the
    configurator. -/
structure ConfigFrom (vsc : VirtualServerConfigurator) (vsx : VirtualServerEx)
    (cfg : Version2.VirtualServerConfig) : Prop where
  locations : ∃ crUpstreams : String → V1.Upstream,
    (∀ k, crUpstreams k = default ∨ crUpstreams k ∈ declaredUpstreams vsx) ∧
    ∀ loc ∈ cfg.server.locations, LocationFrom (declaredRoutes vsx) crUpstreams vsc.cfgParams loc
  upstreams : ∀ ups ∈ cfg.upstreams, ∃ u ∈ declaredUpstreams vsx,
    UpstreamBuiltFrom vsc.cfgParams vsc.isPlus u ups
  healthChecks : ∀ hc ∈ cfg.server.healthChecks, ∃ u ∈ declaredUpstreams vsx,
    generateHealthCheck u hc.name vsc.cfgParams = some hc
  statusMatches : ∀ sm ∈ cfg.statusMatches, ∃ u ∈ declaredUpstreams vsx, ∃ h,
    u.healthCheck = some h ∧ h.statusMatch ≠ "" ∧ sm.code = h.statusMatch
  tlsRedirect : cfg.server.tlsRedirect = generateTLSRedirectConfig vsx.virtualServer.spec.tls

/-- **Every block of a returned configuration is built from a declaration of the input**,
    whatever the input: every upstream block and health check from a declared upstream, every
    status match from a declared health check, every location from an action of a declared
    route, with the settings of a declared upstream or of the zero `Upstream`. -/
theorem generateVirtualServerConfig_from
    (h : vsc.generateVirtualServerConfig pemFileNameForMissingTLSSecret vsx tlsPemFileName =
      some (cfg, warnings)) :
    ConfigFrom vsc vsx cfg := by
  obtain ⟨u1, u, r1, rs, h1, h2, h3, h4, -, rfl⟩ := generateVirtualServerConfig_inv h
  have hu := upstreamLoops_from vsc vsx h1 h2
  have hr1 := foldlM_inv_mem (fun st => ∀ loc ∈ st.locations,
      LocationFrom (declaredRoutes vsx) u.crUpstreams vsc.cfgParams loc) _
    (fun _ r _ hr hinv h => addVirtualServerRoute_from (List.mem_append_left _ hr) hinv h)
    (fun _ h => absurd h (List.not_mem_nil _)) h3
  have hrs := foldlM_inv_mem (fun st => ∀ loc ∈ st.locations,
      LocationFrom (declaredRoutes vsx) u.crUpstreams vsc.cfgParams loc) _
    (fun _ vsr _ hvsr hinv h => foldlM_inv_mem _ _
      (fun _ r _ hr hinv h => addRoute_from (mem_declaredRoutes_of_vsr hvsr hr) hinv h) hinv h)
    hr1 h4
  exact ⟨⟨u.crUpstreams, hu.lookup, hrs⟩, hu.upstreams, hu.healthChecks, hu.statusMatches, rfl⟩

end

/-! ## Slow start -/

/-- A load-balancing method NGINX accepts a slow start with: none of
    `incompatibleLBMethodsForSlowStart`, and no `hash` method. -/
def SlowStartCompatible (lbMethod : String) : Prop :=
  lbMethod ∉ incompatibleLBMethodsForSlowStart ∧ Go.hasPrefix lbMethod "hash" = false

instance decidableSlowStartCompatible (lbMethod : String) :
    Decidable (SlowStartCompatible lbMethod) :=
  inferInstanceAs (Decidable (_ ∧ _))

section
variable (vsc : VirtualServerConfigurator) (owner : Owner) (upstreamName : String)
  (u : V1.Upstream) (isExternalNameSvc : Bool) (endpoints : List String)

@[simp] theorem generateUpstream_lbMethod :
    (vsc.generateUpstream owner upstreamName u isExternalNameSvc endpoints).1.lbMethod =
      generateLBMethod u.lbMethod vsc.cfgParams.lbMethod := by
  unfold VirtualServerConfigurator.generateUpstream
  split_ifs <;> rfl

/-- An upstream block keeps the slow start of its declaration exactly for NGINX Plus and a
    method compatible with it. -/
theorem generateUpstream_slowStart :
    (vsc.generateUpstream owner upstreamName u isExternalNameSvc endpoints).1.slowStart =
      if vsc.isPlus = true ∧ SlowStartCompatible (generateLBMethod u.lbMethod vsc.cfgParams.lbMethod)
      then u.slowStart else "" := by
  unfold VirtualServerConfigurator.generateUpstream VirtualServerConfigurator.generateSlowStartForPlus
    SlowStartCompatible
  dsimp only
  cases vsc.isPlus
  · rfl
  · by_cases hs : u.slowStart = ""
    · simp [hs]
    · by_cases hc : generateLBMethod u.lbMethod vsc.cfgParams.lbMethod ∈ incompatibleLBMethodsForSlowStart <;>
        by_cases hh : Go.hasPrefix (generateLBMethod u.lbMethod vsc.cfgParams.lbMethod) "hash" = true <;>
        simp [hs, hc, hh]

end

section
variable {vsc : VirtualServerConfigurator} {pemFileNameForMissingTLSSecret tlsPemFileName : String}
  {vsx : VirtualServerEx} {cfg : Version2.VirtualServerConfig} {warnings : List (Owner × String)}

/-- **The generator never keeps a slow start that NGINX would reject.** On any input, every
    upstream block of a returned configuration has the load-balancing method of a declared
    upstream (or the default), and that declaration's slow start exactly when the
    configurator is for NGINX Plus and the method is compatible with slow start; otherwise it
    has none. -/
theorem generateVirtualServerConfig_slowStart
    (h : vsc.generateVirtualServerConfig pemFileNameForMissingTLSSecret vsx tlsPemFileName =
      some (cfg, warnings)) :
    ∀ ups ∈ cfg.upstreams, ∃ u ∈ declaredUpstreams vsx,
      ups.lbMethod = generateLBMethod u.lbMethod vsc.cfgParams.lbMethod ∧
      ups.slowStart = if vsc.isPlus = true ∧ SlowStartCompatible ups.lbMethod then u.slowStart
        else "" := by
  intro ups hups
  obtain ⟨u, hu, vsc', owner, isExt, endpoints, hcfg, hplus, hb⟩ :=
    (generateVirtualServerConfig_from h).upstreams ups hups
  have hlb : ups.lbMethod = generateLBMethod u.lbMethod vsc.cfgParams.lbMethod := by
    rw [hb, generateUpstream_lbMethod, hcfg]
  refine ⟨u, hu, hlb, ?_⟩
  rw [hlb, hb, generateUpstream_slowStart, hcfg, hplus]

end

/-- The configurator of the examples for NGINX Plus: default parameters, no resolver. -/
def plusConfigurator : VirtualServerConfigurator := newVirtualServerConfigurator {} true false

/-- `cafe` with two upstreams given a slow start: `tea` balanced by `ip_hash`, which is
    incompatible with it, and `coffee` by `least_conn`. -/
def cafeSlowStart : VirtualServerEx :=
  { virtualServer := { cafe with spec := { cafe.spec with
      upstreams := [{ name := "tea", service := "tea-svc", port := 80, lbMethod := "ip_hash"
                      slowStart := "10s" },
                    { name := "coffee", service := "coffee-svc", port := 80
                      lbMethod := "least_conn", slowStart := "5s" }] } } }

theorem cafeSlowStart_slowStart : ∃ cfg warnings,
    plusConfigurator.generateVirtualServerConfig "" cafeSlowStart "" = some (cfg, warnings) ∧
    ∀ ups ∈ cfg.upstreams, ∃ u ∈ declaredUpstreams cafeSlowStart,
      ups.lbMethod = generateLBMethod u.lbMethod plusConfigurator.cfgParams.lbMethod ∧
      ups.slowStart = if plusConfigurator.isPlus = true ∧ SlowStartCompatible ups.lbMethod
        then u.slowStart else "" :=
  have hs : (plusConfigurator.generateVirtualServerConfig "" cafeSlowStart "").isSome := by decide
  ⟨_, _, (Option.some_get hs).symm, generateVirtualServerConfig_slowStart (Option.some_get hs).symm⟩

example : (plusConfigurator.generateVirtualServerConfig "" cafeSlowStart "").map
    (·.1.upstreams.map (·.slowStart)) = some ["", "5s"] := by
  decide

/-! ## Upstream blocks without a server -/

/-- The warning `generateEndpointsForUpstream` records for the ExternalName service of `u`. -/
def externalNameWarning (u : V1.Upstream) : String :=
  "Type ExternalName service " ++ u.service ++ " in upstream " ++ u.name ++
    " will be ignored. To use ExternaName services, " ++ "a resolver must be configured in the ConfigMap"

section
variable (vsc : VirtualServerConfigurator) (owner : Owner) (u : V1.Upstream)

/-- In NGINX OSS, `generateEndpointsForUpstream` keeps the configurator's settings and
    warnings, and returns a server, unless the service is an ExternalName service and no
    resolver is configured: then it returns none, after a warning that names the upstream. -/
theorem generateEndpointsForUpstream_oss («namespace» : String) (vsx : VirtualServerEx)
    (hoss : vsc.isPlus = false) :
    (vsc.generateEndpointsForUpstream owner «namespace» u vsx).2.isPlus = false ∧
      (vsc.generateEndpointsForUpstream owner «namespace» u vsx).2.cfgParams = vsc.cfgParams ∧
      (vsc.generateEndpointsForUpstream owner «namespace» u vsx).2.isResolverConfigured =
        vsc.isResolverConfigured ∧
      vsc.warnings <+: (vsc.generateEndpointsForUpstream owner «namespace» u vsx).2.warnings ∧
      ((vsc.generateEndpointsForUpstream owner «namespace» u vsx).1 ≠ [] ∨
        ((vsx.externalNameSvcs (generateExternalNameSvcKey «namespace» u.service)).isSome = true ∧
          vsc.isResolverConfigured = false ∧
          (owner, externalNameWarning u) ∈
            (vsc.generateEndpointsForUpstream owner «namespace» u vsx).2.warnings)) := by
  unfold VirtualServerConfigurator.generateEndpointsForUpstream
  dsimp only
  by_cases hlen : (vsx.endpoints (generateEndpointsKey «namespace» u.service u.subselector
    u.port)).length = 0
  · simp [hoss, hlen]
  · by_cases hext : (vsx.externalNameSvcs (generateExternalNameSvcKey «namespace» u.service)).isSome = true ∧
      vsc.isResolverConfigured = false
    · simp [hoss, hlen, hext, VirtualServerConfigurator.addWarningf, externalNameWarning]
    · have hcond : ((vsx.externalNameSvcs (generateExternalNameSvcKey «namespace» u.service)).isSome &&
          !vsc.isResolverConfigured) = false := by
        simpa using hext
      have hne : vsx.endpoints (generateEndpointsKey «namespace» u.service u.subselector u.port) ≠ [] :=
        fun h => hlen (by simp [h])
      simp [hoss, hcond, hne]

/-- In NGINX OSS, `generateUpstream` leaves the configurator as it is. -/
theorem generateUpstream_oss (upstreamName : String) (isExternalNameSvc : Bool)
    (endpoints : List String) (hoss : vsc.isPlus = false) :
    (vsc.generateUpstream owner upstreamName u isExternalNameSvc endpoints).2 = vsc := by
  simp [VirtualServerConfigurator.generateUpstream, hoss]

@[simp] theorem generateUpstream_servers (upstreamName : String) (isExternalNameSvc : Bool)
    (endpoints : List String) :
    (vsc.generateUpstream owner upstreamName u isExternalNameSvc endpoints).1.servers =
      endpoints.map fun e => { address := e } := by
  unfold VirtualServerConfigurator.generateUpstream
  split_ifs <;> rfl

end

/-- The invariant of the upstream loops of an NGINX OSS configurator: every upstream block so
    far has a server, or is for an ExternalName service with no resolver configured, built
    from a declaration that a warning names. -/
structure ServedOrWarned (cfgParams : ConfigParams) (isResolverConfigured : Bool)
    (decls : List V1.Upstream) (st : UpstreamsState) : Prop where
  isPlus_eq : st.vsc.isPlus = false
  cfgParams_eq : st.vsc.cfgParams = cfgParams
  resolver_eq : st.vsc.isResolverConfigured = isResolverConfigured
  served : ∀ ups ∈ st.upstreams, ups.servers ≠ [] ∨
    (ups.resolve = true ∧ isResolverConfigured = false ∧ ∃ u ∈ decls,
      UpstreamBuiltFrom cfgParams false u ups ∧
        ∃ owner, (owner, externalNameWarning u) ∈ st.vsc.warnings)

/-- One step of an upstream loop of an NGINX OSS configurator keeps the invariant. -/
theorem addUpstream_served {cfgParams : ConfigParams} {isResolverConfigured : Bool}
    {decls : List V1.Upstream} {vsx : VirtualServerEx} {owner : Owner}
    {upstreamNamer : UpstreamNamer} {«namespace» : String} {st st' : UpstreamsState}
    {u : V1.Upstream} (hu : u ∈ decls) (hinv : ServedOrWarned cfgParams isResolverConfigured decls st)
    (h : addUpstream vsx owner upstreamNamer «namespace» st u = some st') :
    ServedOrWarned cfgParams isResolverConfigured decls st' := by
  obtain ⟨endpoints, vsc1, ups, vsc2, hE, hG, hvsc, hups, -, -⟩ := addUpstream_cases h
  obtain ⟨hp1, hc1, hr1, hw1, hserved⟩ :=
    generateEndpointsForUpstream_oss st.vsc owner u «namespace» vsx hinv.isPlus_eq
  rw [hE] at hp1 hc1 hr1 hw1 hserved
  have hvsc2 : vsc2 = vsc1 := by
    have := generateUpstream_oss vsc1 owner u (upstreamNamer.getNameForUpstream u.name)
      (vsx.externalNameSvcs (generateExternalNameSvcKey «namespace» u.service)).isSome endpoints hp1
    rwa [hG] at this
  subst hvsc2
  have hname := generateUpstream_name vsc2 owner (upstreamNamer.getNameForUpstream u.name)
    u (vsx.externalNameSvcs (generateExternalNameSvcKey «namespace» u.service)).isSome endpoints
  have hservers := generateUpstream_servers vsc2 owner u (upstreamNamer.getNameForUpstream u.name)
    (vsx.externalNameSvcs (generateExternalNameSvcKey «namespace» u.service)).isSome endpoints
  have hresolve := generateUpstream_resolve vsc2 owner (upstreamNamer.getNameForUpstream u.name)
    u (vsx.externalNameSvcs (generateExternalNameSvcKey «namespace» u.service)).isSome endpoints
  rw [hG] at hname hservers hresolve
  dsimp only at hname hservers hresolve
  refine ⟨hvsc ▸ hp1, hvsc ▸ hc1.trans hinv.cfgParams_eq, hvsc ▸ hr1.trans hinv.resolver_eq, ?_⟩
  rw [hups, hvsc]
  intro x hx
  rcases List.mem_append.1 hx with hx | hx
  · refine (hinv.served x hx).imp_right fun ⟨hres, hno, v, hv, hb, owner', hw⟩ => ?_
    exact ⟨hres, hno, v, hv, hb, owner', hw1.subset hw⟩
  · rw [List.mem_singleton.1 hx]
    rcases hserved with hne | ⟨hext, hno, hw⟩
    · exact .inl (by simpa [hservers] using hne)
    · refine .inr ⟨hresolve.trans hext, hinv.resolver_eq ▸ hno, u, hu,
        ⟨vsc2, owner, _, endpoints, hc1.trans hinv.cfgParams_eq, hp1, by rw [hname, hG]⟩, owner, hw⟩

section
variable {vsc : VirtualServerConfigurator} {pemFileNameForMissingTLSSecret tlsPemFileName : String}
  {vsx : VirtualServerEx} {cfg : Version2.VirtualServerConfig} {warnings : List (Owner × String)}

/-- **NGINX OSS never gets an upstream block without a server, unless it is warned.** For an
    OSS configurator and any input, every upstream block of a returned configuration has a
    server (the endpoints of its service, or the 502 server when it has none), except the
    block of an ExternalName service when no resolver is configured: that block is marked
    `resolve`, and the returned warnings name its upstream and service. -/
theorem generateVirtualServerConfig_oss_servers (hoss : vsc.isPlus = false)
    (h : vsc.generateVirtualServerConfig pemFileNameForMissingTLSSecret vsx tlsPemFileName =
      some (cfg, warnings)) :
    ∀ ups ∈ cfg.upstreams, ups.servers ≠ [] ∨
      (ups.resolve = true ∧ vsc.isResolverConfigured = false ∧ ∃ u ∈ declaredUpstreams vsx,
        UpstreamBuiltFrom vsc.cfgParams false u ups ∧
          ∃ owner, (owner, externalNameWarning u) ∈ warnings) := by
  obtain ⟨u1, u, r1, rs, h1, h2, -, -, rfl, rfl⟩ := generateVirtualServerConfig_inv h
  have hinit : ServedOrWarned vsc.cfgParams vsc.isResolverConfigured (declaredUpstreams vsx)
      { vsc := vsc.clearWarnings } := ⟨hoss, rfl, rfl, by simp⟩
  have hu1 := foldlM_inv_mem _ _
    (fun _ x _ hx hinv h => addUpstream_served (List.mem_append_left _ hx) hinv h) hinit h1
  exact (foldlM_inv_mem _ _ (fun _ vsr _ hvsr hinv h => foldlM_inv_mem _ _
    (fun _ x _ hx hinv h => addUpstream_served (mem_declaredUpstreams_of_vsr hvsr hx) hinv h)
    hinv h) hu1 h2).served

end

/-- `cafeEx` where the service of `tea` is an ExternalName service, and every service has an
    endpoint. -/
def cafeExternalName : VirtualServerEx :=
  { cafeEx with
    endpoints := fun _ => ["10.0.0.1:80"]
    externalNameSvcs := fun k => if k = "default/tea-svc" then some true else none }

theorem cafeExternalName_servers : ∃ cfg warnings,
    ossConfigurator.generateVirtualServerConfig "" cafeExternalName "" = some (cfg, warnings) ∧
    ∀ ups ∈ cfg.upstreams, ups.servers ≠ [] ∨
      (ups.resolve = true ∧ ossConfigurator.isResolverConfigured = false ∧
        ∃ u ∈ declaredUpstreams cafeExternalName,
          UpstreamBuiltFrom ossConfigurator.cfgParams false u ups ∧
            ∃ owner, (owner, externalNameWarning u) ∈ warnings) :=
  have hs : (ossConfigurator.generateVirtualServerConfig "" cafeExternalName "").isSome := by decide
  ⟨_, _, (Option.some_get hs).symm,
    generateVirtualServerConfig_oss_servers rfl (Option.some_get hs).symm⟩

example : (ossConfigurator.generateVirtualServerConfig "" cafeExternalName "").map
    (fun g => (g.1.upstreams.map (·.servers.length), g.2.length)) = some ([0, 1, 1], 1) := by
  decide

/-! ## Warnings

The configurator collects warnings in two places: `generateEndpointsForUpstream` when it
ignores an ExternalName service, and `generateSlowStartForPlus` when it drops a slow start.
The upstream loops thread it through every declared upstream; what the generator returns is,
in order, the warnings of each declared upstream, each attached to the resource that declares
it (`generateVirtualServerConfig_warnings`). -/

/-- A loop whose every step keeps `S` and appends `g x` to `w` appends `l.flatMap g`. -/
theorem foldlM_appends {α β γ : Type} {f : β → α → Option β} (S : β → Prop) (w : β → List γ)
    (g : α → List γ) :
    ∀ (l : List α), (∀ b x b', x ∈ l → S b → f b x = some b' → S b' ∧ w b' = w b ++ g x) →
      ∀ {b b' : β}, S b → l.foldlM f b = some b' → S b' ∧ w b' = w b ++ l.flatMap g
  | [], _, _, _, hb, h => by cases h; exact ⟨hb, by simp⟩
  | x :: l, hstep, b, b', hb, h => by
    simp only [List.foldlM_cons, Option.bind_eq_bind, Option.bind_eq_some] at h
    obtain ⟨b1, h1, h2⟩ := h
    obtain ⟨hS1, hw1⟩ := hstep b x b1 (List.mem_cons_self _ _) hb h1
    obtain ⟨hS, hw⟩ := foldlM_appends S w g l
      (fun b y b' hy => hstep b y b' (List.mem_cons_of_mem _ hy)) hS1 h2
    exact ⟨hS, by rw [hw, hw1, List.flatMap_cons, List.append_assoc]⟩

/-- When `generateEndpointsForUpstream` ignores the ExternalName service of `u`, declared in
    `namespace`: for NGINX Plus, or for NGINX OSS when the service has endpoints, and only
    without a resolver. -/
def ExternalNameIgnored (vsc : VirtualServerConfigurator) (vsx : VirtualServerEx)
    («namespace» : String) (u : V1.Upstream) : Prop :=
  (vsc.isPlus = true ∨
      vsx.endpoints (generateEndpointsKey «namespace» u.service u.subselector u.port) ≠ []) ∧
    (vsx.externalNameSvcs (generateExternalNameSvcKey «namespace» u.service)).isSome = true ∧
    vsc.isResolverConfigured = false

instance decidableExternalNameIgnored (vsc : VirtualServerConfigurator) (vsx : VirtualServerEx)
    («namespace» : String) (u : V1.Upstream) : Decidable (ExternalNameIgnored vsc vsx «namespace» u) :=
  inferInstanceAs (Decidable (_ ∧ _))

/-- When `generateSlowStartForPlus` drops the slow start of `u`: for NGINX Plus, a slow start
    set with a load-balancing method incompatible with it. -/
def SlowStartDropped (vsc : VirtualServerConfigurator) (u : V1.Upstream) : Prop :=
  vsc.isPlus = true ∧ u.slowStart ≠ "" ∧
    ¬SlowStartCompatible (generateLBMethod u.lbMethod vsc.cfgParams.lbMethod)

instance decidableSlowStartDropped (vsc : VirtualServerConfigurator) (u : V1.Upstream) :
    Decidable (SlowStartDropped vsc u) :=
  inferInstanceAs (Decidable (_ ∧ _))

/-- The warning `generateSlowStartForPlus` records for `u` balanced by `lbMethod`. -/
def slowStartWarning (u : V1.Upstream) (lbMethod : String) : String :=
  "Slow start will be disabled for upstream " ++ u.name ++ " because lb method '" ++ lbMethod ++
    "' is incompatible with slow start"

/-- The warnings recorded for the upstream `u` that `owner` declares in `namespace`: the
    ExternalName service first, then the slow start. -/
def upstreamWarnings (vsc : VirtualServerConfigurator) (vsx : VirtualServerEx) (owner : Owner)
    («namespace» : String) (u : V1.Upstream) : List (Owner × String) :=
  (if ExternalNameIgnored vsc vsx «namespace» u then [(owner, externalNameWarning u)] else []) ++
    if SlowStartDropped vsc u then
      [(owner, slowStartWarning u (generateLBMethod u.lbMethod vsc.cfgParams.lbMethod))]
    else []

/-- `vsc'` has the settings of `vsc`: the ConfigMap's parameters, the NGINX flavour and the
    resolver flag. -/
def SameSettings (vsc vsc' : VirtualServerConfigurator) : Prop :=
  vsc'.cfgParams = vsc.cfgParams ∧ vsc'.isPlus = vsc.isPlus ∧
    vsc'.isResolverConfigured = vsc.isResolverConfigured

theorem SameSettings.trans {vsc vsc' vsc'' : VirtualServerConfigurator}
    (h : SameSettings vsc vsc') (h' : SameSettings vsc' vsc'') : SameSettings vsc vsc'' :=
  ⟨h'.1.trans h.1, h'.2.1.trans h.2.1, h'.2.2.trans h.2.2⟩

theorem upstreamWarnings_congr {vsc vsc' : VirtualServerConfigurator} (h : SameSettings vsc vsc')
    (vsx : VirtualServerEx) (owner : Owner) («namespace» : String) (u : V1.Upstream) :
    upstreamWarnings vsc' vsx owner «namespace» u = upstreamWarnings vsc vsx owner «namespace» u := by
  obtain ⟨hc, hp, hr⟩ := h
  simp only [upstreamWarnings, ExternalNameIgnored, SlowStartDropped, hc, hp, hr]

section
variable (vsc : VirtualServerConfigurator) (owner : Owner) (u : V1.Upstream)

theorem generateEndpointsForUpstream_snd («namespace» : String) (vsx : VirtualServerEx) :
    (vsc.generateEndpointsForUpstream owner «namespace» u vsx).2 =
      if ExternalNameIgnored vsc vsx «namespace» u then
        vsc.addWarningf owner (externalNameWarning u)
      else vsc := by
  unfold VirtualServerConfigurator.generateEndpointsForUpstream ExternalNameIgnored
  by_cases hp : vsc.isPlus <;>
    by_cases he : vsx.endpoints (generateEndpointsKey «namespace» u.service u.subselector u.port) = [] <;>
    by_cases hx : (vsx.externalNameSvcs (generateExternalNameSvcKey «namespace» u.service)).isSome <;>
    by_cases hr : vsc.isResolverConfigured <;>
    simp [hp, he, hx, hr, externalNameWarning]

theorem generateUpstream_snd (upstreamName : String) (isExternalNameSvc : Bool)
    (endpoints : List String) :
    (vsc.generateUpstream owner upstreamName u isExternalNameSvc endpoints).2 =
      if SlowStartDropped vsc u then
        vsc.addWarningf owner (slowStartWarning u (generateLBMethod u.lbMethod vsc.cfgParams.lbMethod))
      else vsc := by
  unfold VirtualServerConfigurator.generateUpstream VirtualServerConfigurator.generateSlowStartForPlus
    SlowStartDropped SlowStartCompatible
  dsimp only
  by_cases hp : vsc.isPlus = true
  · by_cases hs : u.slowStart = ""
    · simp [hp, hs]
    · by_cases hc : generateLBMethod u.lbMethod vsc.cfgParams.lbMethod ∈ incompatibleLBMethodsForSlowStart <;>
        by_cases hh : Go.hasPrefix (generateLBMethod u.lbMethod vsc.cfgParams.lbMethod) "hash" = true <;>
        simp [hp, hs, hc, hh, slowStartWarning]
  · simp [hp]

end

/-- **One step of an upstream loop appends the warnings of its upstream** and keeps the
    configurator's settings. -/
theorem addUpstream_warnings {vsx : VirtualServerEx} {owner : Owner} {upstreamNamer : UpstreamNamer}
    {«namespace» : String} {st st' : UpstreamsState} {u : V1.Upstream}
    (h : addUpstream vsx owner upstreamNamer «namespace» st u = some st') :
    SameSettings st.vsc st'.vsc ∧
      st'.vsc.warnings = st.vsc.warnings ++ upstreamWarnings st.vsc vsx owner «namespace» u := by
  obtain ⟨endpoints, vsc1, ups, vsc2, hE, hG, rfl, -⟩ := addUpstream_cases h
  have h1 := generateEndpointsForUpstream_snd st.vsc owner u «namespace» vsx
  have h2 := generateUpstream_snd vsc1 owner u (upstreamNamer.getNameForUpstream u.name)
    (vsx.externalNameSvcs (generateExternalNameSvcKey «namespace» u.service)).isSome endpoints
  rw [hE] at h1
  rw [hG] at h2
  dsimp only at h1 h2
  have hs1 : SameSettings st.vsc vsc1 := by
    rw [h1]
    split_ifs <;> exact ⟨rfl, rfl, rfl⟩
  have hdrop : SlowStartDropped vsc1 u ↔ SlowStartDropped st.vsc u := by
    simp only [SlowStartDropped, hs1.1, hs1.2.1]
  simp only [hdrop, hs1.1] at h2
  rw [h2, h1]
  unfold upstreamWarnings
  split_ifs <;> exact ⟨⟨rfl, rfl, rfl⟩, by simp [VirtualServerConfigurator.addWarningf]⟩

section
variable {vsc : VirtualServerConfigurator} {pemFileNameForMissingTLSSecret tlsPemFileName : String}
  {vsx : VirtualServerEx} {cfg : Version2.VirtualServerConfig} {warnings : List (Owner × String)}

/-- **The warnings of a returned configuration, exactly.** On any input, the warnings are, in
    order, those of each upstream of the VirtualServer and then of each upstream of each
    VirtualServerRoute: that its ExternalName service is ignored, when the generator ignores
    it, then that its slow start is dropped, when the generator drops it. Each is attached to
    the resource that declares the upstream. -/
theorem generateVirtualServerConfig_warnings
    (h : vsc.generateVirtualServerConfig pemFileNameForMissingTLSSecret vsx tlsPemFileName =
      some (cfg, warnings)) :
    warnings = vsx.virtualServer.spec.upstreams.flatMap (upstreamWarnings vsc vsx
        (Owner.ofVirtualServer vsx.virtualServer) vsx.virtualServer.namespace) ++
      vsx.virtualServerRoutes.flatMap fun vsr => vsr.spec.upstreams.flatMap
        (upstreamWarnings vsc vsx (Owner.ofVirtualServerRoute vsr) vsr.namespace) := by
  obtain ⟨u1, u, r1, rs, h1, h2, -, -, rfl, -⟩ := generateVirtualServerConfig_inv h
  have hstep : ∀ (owner : Owner) («namespace» : String) (upstreamNamer : UpstreamNamer)
      (st : UpstreamsState) (x : V1.Upstream) (st' : UpstreamsState), SameSettings vsc st.vsc →
      addUpstream vsx owner upstreamNamer «namespace» st x = some st' →
      SameSettings vsc st'.vsc ∧ st'.vsc.warnings =
        st.vsc.warnings ++ upstreamWarnings vsc vsx owner «namespace» x := by
    intro owner «namespace» upstreamNamer st x st' hs hadd
    obtain ⟨hs', hw⟩ := addUpstream_warnings hadd
    exact ⟨hs.trans hs', by rw [hw, upstreamWarnings_congr hs]⟩
  obtain ⟨hs1, hw1⟩ := foldlM_appends (fun st : UpstreamsState => SameSettings vsc st.vsc)
    (·.vsc.warnings) _ _ (fun st x st' _ => hstep _ _ _ st x st') ⟨rfl, rfl, rfl⟩ h1
  obtain ⟨-, hw⟩ := foldlM_appends (fun st : UpstreamsState => SameSettings vsc st.vsc)
    (·.vsc.warnings) _ _ (fun st vsr st' _ hs hvsr => foldlM_appends _ _ _ _
      (fun st x st' _ => hstep _ _ _ st x st') hs hvsr) hs1 h2
  rw [hw, hw1]
  rfl

end

theorem cafeSlowStart_warnings : ∃ cfg warnings,
    plusConfigurator.generateVirtualServerConfig "" cafeSlowStart "" = some (cfg, warnings) ∧
    warnings = cafeSlowStart.virtualServer.spec.upstreams.flatMap (upstreamWarnings
        plusConfigurator cafeSlowStart (Owner.ofVirtualServer cafeSlowStart.virtualServer)
        cafeSlowStart.virtualServer.namespace) ++
      cafeSlowStart.virtualServerRoutes.flatMap fun vsr => vsr.spec.upstreams.flatMap
        (upstreamWarnings plusConfigurator cafeSlowStart (Owner.ofVirtualServerRoute vsr)
          vsr.namespace) :=
  have hs : (plusConfigurator.generateVirtualServerConfig "" cafeSlowStart "").isSome := by decide
  ⟨_, _, (Option.some_get hs).symm, generateVirtualServerConfig_warnings (Option.some_get hs).symm⟩

example : (plusConfigurator.generateVirtualServerConfig "" cafeSlowStart "").map (·.2) =
    some [(.virtualServer "default" "cafe",
      "Slow start will be disabled for upstream tea because lb method 'ip_hash' is incompatible with slow start")] := by
  decide

end KubernetesIngress.Configs
