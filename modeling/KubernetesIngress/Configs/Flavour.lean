import KubernetesIngress.Configs.Failure

set_option autoImplicit false

/-! # What the NGINX flavour changes

A configurator is for NGINX or NGINX Plus (`isPlus`), with or without a resolver
(`isResolverConfigured`). Both flags reach the upstream blocks only: which servers a block
lists (the endpoints, the 502 server, or none for an ignored ExternalName service), its NGINX
Plus directives (slow start, queue, sticky cookie), and the warnings about them. Everything
else the generator returns depends on the ConfigMap's parameters and the resources alone: the
server with its locations, internal redirects and health checks, the split clients, the maps,
the status matches, and every other setting of every upstream block, and so does whether the
generator panics (`generateVirtualServerConfig_flavourFree`).

The flags are read through the configurator the upstream loops thread from step to step; the
proof runs the two loops side by side and keeps them in agreement on everything but what the
flags decide (`addUpstream_flavourFree`). -/

namespace KubernetesIngress.Configs

open V1

/-- An upstream block without what the flavour and the resolver decide: its servers and its
    NGINX Plus directives. -/
def flavourFreeUpstream (ups : Version2.Upstream) : Version2.Upstream :=
  { ups with servers := [], slowStart := "", queue := none, sessionCookie := none }

/-- A configuration without what the flavour and the resolver decide. -/
def flavourFree (cfg : Version2.VirtualServerConfig) : Version2.VirtualServerConfig :=
  { cfg with upstreams := cfg.upstreams.map flavourFreeUpstream }

/-- What the upstream loops have built so far, without what the flavour and the resolver
    decide. -/
def UpstreamsState.flavourFree (st : UpstreamsState) :
    ConfigParams × (String → V1.Upstream) × List Version2.HealthCheck ×
      List Version2.StatusMatch × List Version2.Upstream :=
  (st.vsc.cfgParams, st.crUpstreams, st.healthChecks, st.statusMatches,
    st.upstreams.map flavourFreeUpstream)

/-- Two runs of one loop from starting points that agree on `F` end at points that agree on
    `F`, and fail together, when every step keeps the agreement. -/
theorem foldlM_map_congr {α β γ : Type} {f : β → α → Option β} (F : β → γ)
    (hstep : ∀ b b' x, F b = F b' → (f b x).map F = (f b' x).map F) :
    ∀ (l : List α) {b b' : β}, F b = F b' → (l.foldlM f b).map F = (l.foldlM f b').map F
  | [], _, _, h => by simp [h]
  | x :: l, b, b', h => by
    have hx := hstep b b' x h
    simp only [List.foldlM_cons, Option.bind_eq_bind]
    cases hb : f b x with
    | none =>
      cases hb' : f b' x with
      | none => rfl
      | some c' => simp [hb, hb'] at hx
    | some c =>
      cases hb' : f b' x with
      | none => simp [hb, hb'] at hx
      | some c' =>
        simp only [hb, hb', Option.map_some', Option.some.injEq] at hx
        exact foldlM_map_congr F hstep l hx

/-! ## One upstream -/

/-- The flags change no setting of an upstream block but its servers and NGINX Plus
    directives. -/
theorem flavourFreeUpstream_generateUpstream (vsc vsc' : VirtualServerConfigurator)
    (hcfg : vsc.cfgParams = vsc'.cfgParams) (owner owner' : Owner) (upstreamName : String)
    (u : V1.Upstream) (isExternalNameSvc : Bool) (endpoints endpoints' : List String) :
    flavourFreeUpstream (vsc.generateUpstream owner upstreamName u isExternalNameSvc endpoints).1 =
      flavourFreeUpstream
        (vsc'.generateUpstream owner' upstreamName u isExternalNameSvc endpoints').1 := by
  unfold VirtualServerConfigurator.generateUpstream flavourFreeUpstream
  rw [hcfg]
  split_ifs <;> rfl

/-- **One step of an upstream loop keeps two runs in agreement** on everything but what the
    flags decide. -/
theorem addUpstream_flavourFree {vsx : VirtualServerEx} {owner : Owner}
    {upstreamNamer : UpstreamNamer} {«namespace» : String} {st st' : UpstreamsState}
    (u : V1.Upstream) (h : st.flavourFree = st'.flavourFree) :
    (addUpstream vsx owner upstreamNamer «namespace» st u).map UpstreamsState.flavourFree =
      (addUpstream vsx owner upstreamNamer «namespace» st' u).map UpstreamsState.flavourFree := by
  obtain ⟨c, hc⟩ := Option.isSome_iff_exists.1
    (addUpstream_isSome vsx owner upstreamNamer «namespace» st u)
  obtain ⟨c', hc'⟩ := Option.isSome_iff_exists.1
    (addUpstream_isSome vsx owner upstreamNamer «namespace» st' u)
  rw [hc, hc', Option.map_some', Option.map_some', Option.some.injEq]
  obtain ⟨e, vsc1, ups, vsc2, hE, hG, hvsc, hups, hcr, hhc⟩ := addUpstream_cases hc
  obtain ⟨e', vsc1', ups', vsc2', hE', hG', hvsc', hups', hcr', hhc'⟩ := addUpstream_cases hc'
  simp only [UpstreamsState.flavourFree, Prod.mk.injEq] at h ⊢
  obtain ⟨hcfg, hcrs, hhcs, hsms, hupss⟩ := h
  -- the settings each configurator keeps through the step
  have hs1 := (generateEndpointsForUpstream_settings st.vsc owner u «namespace» vsx).1
  have hs1' := (generateEndpointsForUpstream_settings st'.vsc owner u «namespace» vsx).1
  rw [hE] at hs1
  rw [hE'] at hs1'
  have hs2 := (generateUpstream_settings vsc1 owner (upstreamNamer.getNameForUpstream u.name) u
    (vsx.externalNameSvcs (generateExternalNameSvcKey «namespace» u.service)).isSome e).1
  have hs2' := (generateUpstream_settings vsc1' owner (upstreamNamer.getNameForUpstream u.name) u
    (vsx.externalNameSvcs (generateExternalNameSvcKey «namespace» u.service)).isSome e').1
  rw [hG] at hs2
  rw [hG'] at hs2'
  have hcfg2 : vsc2.cfgParams = vsc2'.cfgParams := by
    simp only at hs2 hs2'
    rw [hs2, hs1, hcfg, ← hs1', ← hs2']
  have hblock := flavourFreeUpstream_generateUpstream vsc1 vsc1' (hs1.trans (hcfg.trans hs1'.symm))
    owner owner (upstreamNamer.getNameForUpstream u.name) u
    (vsx.externalNameSvcs (generateExternalNameSvcKey «namespace» u.service)).isSome e e'
  rw [hG, hG'] at hblock
  -- the health check and its status match: the same declaration under the same parameters
  have hchecks : c.healthChecks = c'.healthChecks ∧ c.statusMatches = c'.statusMatches := by
    rw [hcfg2] at hhc
    rcases hhc with ⟨hn, hh, hm⟩ | ⟨hc1, h1, hg, hu, hh, hm⟩ <;>
      rcases hhc' with ⟨hn', hh', hm'⟩ | ⟨hc1', h1', hg', hu', hh', hm'⟩
    · exact ⟨by rw [hh, hh', hhcs], by rw [hm, hm', hsms]⟩
    · rw [hn] at hg'
      cases hg'
    · rw [hn'] at hg
      cases hg
    · rw [hg] at hg'
      rw [hu] at hu'
      cases hg'
      cases hu'
      exact ⟨by rw [hh, hh', hhcs], by rw [hm, hm', hsms]⟩
  exact ⟨by rw [hvsc, hvsc', hcfg2], by rw [hcr, hcr', hcrs], hchecks.1, hchecks.2,
    by simpa [hups, hups', hupss] using hblock⟩

/-! ## The whole generator -/

/-- **The NGINX flavour and the resolver change only servers and NGINX Plus directives.** For
    two configurators with the same ConfigMap parameters, whatever their flavour and resolver,
    and any input, the generator panics for both or for neither, and the configurations it
    returns agree on everything but the servers and the NGINX Plus directives (slow start,
    queue, sticky cookie) of their upstream blocks: the server with its locations, internal
    redirects and health checks, the split clients, the maps, the status matches, and the name
    and every other setting of each upstream block, in order. -/
theorem generateVirtualServerConfig_flavourFree {vsc vsc' : VirtualServerConfigurator}
    (hcfg : vsc.cfgParams = vsc'.cfgParams) (pemFileNameForMissingTLSSecret : String)
    (vsx : VirtualServerEx) (tlsPemFileName : String) :
    (vsc.generateVirtualServerConfig pemFileNameForMissingTLSSecret vsx tlsPemFileName).map
        (flavourFree ·.1) =
      (vsc'.generateVirtualServerConfig pemFileNameForMissingTLSSecret vsx tlsPemFileName).map
        (flavourFree ·.1) := by
  -- the upstream loops return for both configurators, in agreement
  have hinit : UpstreamsState.flavourFree { vsc := vsc.clearWarnings } =
      UpstreamsState.flavourFree { vsc := vsc'.clearWarnings } := by
    simp [UpstreamsState.flavourFree, hcfg]
  obtain ⟨u1, h1⟩ := Option.isSome_iff_exists.1 (foldlM_addUpstream_isSome vsx
    (Owner.ofVirtualServer vsx.virtualServer) (newUpstreamNamerForVirtualServer vsx.virtualServer)
    vsx.virtualServer.namespace vsx.virtualServer.spec.upstreams { vsc := vsc.clearWarnings })
  obtain ⟨u1', h1'⟩ := Option.isSome_iff_exists.1 (foldlM_addUpstream_isSome vsx
    (Owner.ofVirtualServer vsx.virtualServer) (newUpstreamNamerForVirtualServer vsx.virtualServer)
    vsx.virtualServer.namespace vsx.virtualServer.spec.upstreams { vsc := vsc'.clearWarnings })
  obtain ⟨u, h2⟩ := Option.isSome_iff_exists.1 (virtualServerRouteUpstreams_isSome vsx u1)
  obtain ⟨u', h2'⟩ := Option.isSome_iff_exists.1 (virtualServerRouteUpstreams_isSome vsx u1')
  have hu1 := foldlM_map_congr UpstreamsState.flavourFree
    (fun _ _ x h => @addUpstream_flavourFree vsx (Owner.ofVirtualServer vsx.virtualServer)
      (newUpstreamNamerForVirtualServer vsx.virtualServer) vsx.virtualServer.namespace _ _ x h)
    vsx.virtualServer.spec.upstreams hinit
  rw [h1, h1', Option.map_some', Option.map_some', Option.some.injEq] at hu1
  have hu := foldlM_map_congr UpstreamsState.flavourFree
    (fun _ _ vsr h => foldlM_map_congr _
      (fun _ _ x h => @addUpstream_flavourFree vsx (Owner.ofVirtualServerRoute vsr)
        (newUpstreamNamerForVirtualServerRoute vsx.virtualServer vsr) vsr.namespace _ _ x h)
      vsr.spec.upstreams h)
    vsx.virtualServerRoutes hu1
  rw [h2, h2', Option.map_some', Option.map_some', Option.some.injEq] at hu
  simp only [UpstreamsState.flavourFree, Prod.mk.injEq] at hu
  obtain ⟨-, hcr, hhc, hsm, hups⟩ := hu
  -- the route loops read the same upstreams under the same parameters
  simp only [VirtualServerConfigurator.generateVirtualServerConfig, Option.bind_eq_bind,
    VirtualServerConfigurator.clearWarnings_cfgParams, h1, h2, h1', h2', Option.some_bind,
    Option.pure_def, ← hcfg, ← hcr]
  cases vsx.virtualServer.spec.routes.foldlM (addVirtualServerRoute
    (newUpstreamNamerForVirtualServer vsx.virtualServer) u.crUpstreams
    (newVariableNamer vsx.virtualServer) vsc.cfgParams) {} with
  | none => rfl
  | some r1 =>
    simp only [Option.some_bind]
    cases vsx.virtualServerRoutes.foldlM (fun rs vsr => vsr.spec.subroutes.foldlM (addRoute
      (newUpstreamNamerForVirtualServerRoute vsx.virtualServer vsr) u.crUpstreams
      (newVariableNamer vsx.virtualServer) vsc.cfgParams) rs) r1 with
    | none => rfl
    | some rs => simp [flavourFree, hhc, hsm, hups]

theorem cafe_flavourFree : ossConfigurator.cfgParams = plusConfigurator.cfgParams ∧
    (ossConfigurator.generateVirtualServerConfig "" cafeEx "").map (flavourFree ·.1) =
      (plusConfigurator.generateVirtualServerConfig "" cafeEx "").map (flavourFree ·.1) :=
  ⟨rfl, generateVirtualServerConfig_flavourFree rfl "" cafeEx ""⟩

/-- Without endpoints, NGINX gets the 502 server and NGINX Plus no server. -/
example : (ossConfigurator.generateVirtualServerConfig "" cafeEx "").map
      (·.1.upstreams.map (·.servers.length)) = some [1, 1, 1] ∧
    (plusConfigurator.generateVirtualServerConfig "" cafeEx "").map
      (·.1.upstreams.map (·.servers.length)) = some [0, 0, 0] := by
  decide

end KubernetesIngress.Configs
