import KubernetesIngress.Configs.Validated

set_option autoImplicit false

/-! # Identifiers across VirtualServers

The `upstream`, `split_clients` and `map` blocks of all VirtualServers share NGINX's `http`
context, so the names one VirtualServer defines must not clash with another's. This file
states which names every configuration the generator returns defines, whatever its input:
upstream names start with `vs_<namespace>_<name>_`, and variables are those of the
VirtualServer's variable namer. Upstream names of two VirtualServers are then disjoint, and
so are their variables when the namers differ; but the namer's safe name, `<namespace>_<name>`
with every `-` made `_`, is the same for `a-b/c` and `a/b-c`. The safe name also keeps the
`.` of a VirtualServer name, which is not a character of an NGINX variable name. -/

namespace KubernetesIngress.Configs

open V1 Validation

/-! ## The names every configuration defines -/

/-- Every name in the list starts with the upstream-name prefix of `vs`. -/
theorem hasVirtualServerPrefix_of_mem {vs : VirtualServer} {vsrs : List VirtualServerRoute}
    {us : List V1.Upstream} {n : String}
    (h : n ∈ us.map (fun x => (newUpstreamNamerForVirtualServer vs).getNameForUpstream x.name) ++
      (vsrs.map fun vsr => vsr.spec.upstreams.map fun x =>
        (newUpstreamNamerForVirtualServerRoute vs vsr).getNameForUpstream x.name).flatten) :
    HasVirtualServerPrefix vs n := by
  rcases List.mem_append.1 h with h | h
  · obtain ⟨u, -, rfl⟩ := List.mem_map.1 h
    exact ⟨_, data_getNameForUpstream_virtualServer vs u.name⟩
  · obtain ⟨l, hl, hn⟩ := List.mem_flatten.1 h
    obtain ⟨vsr, -, rfl⟩ := List.mem_map.1 hl
    obtain ⟨u, -, rfl⟩ := List.mem_map.1 hn
    exact ⟨_, data_getNameForUpstream_virtualServerRoute vs vsr u.name⟩

/-- **The upstream names of any configuration the generator returns** are those of the
    upstreams of the VirtualServer, then of each VirtualServerRoute, each named by its
    resource's namer. -/
theorem generateVirtualServerConfig_upstreamNames {vsc : VirtualServerConfigurator}
    {pemFileNameForMissingTLSSecret tlsPemFileName : String} {vsx : VirtualServerEx}
    {cfg : Version2.VirtualServerConfig} {warnings : List (Owner × String)}
    (h : vsc.generateVirtualServerConfig pemFileNameForMissingTLSSecret vsx tlsPemFileName =
      some (cfg, warnings)) :
    cfg.upstreams.map (·.name) =
      vsx.virtualServer.spec.upstreams.map (fun x =>
        (newUpstreamNamerForVirtualServer vsx.virtualServer).getNameForUpstream x.name) ++
      (vsx.virtualServerRoutes.map fun vsr => vsr.spec.upstreams.map fun x =>
        (newUpstreamNamerForVirtualServerRoute vsx.virtualServer vsr).getNameForUpstream x.name).flatten := by
  obtain ⟨u1, u, -, -, h1, h2, -, -, hups, -⟩ := generateVirtualServerConfig_eq_some h
  obtain ⟨u1', h1', hinv1, hn1⟩ := upstreams_run vsx (Owner.ofVirtualServer vsx.virtualServer)
    (newUpstreamNamerForVirtualServer vsx.virtualServer) vsx.virtualServer.namespace
    vsx.virtualServer.spec.upstreams { vsc := vsc.clearWarnings }
    (show UpstreamsInvariant vsc.cfgParams vsc.isPlus _ from ⟨rfl, rfl, by simp, by simp, by simp⟩)
  cases Option.some.inj (h1.symm.trans h1')
  obtain ⟨u', h2', -, hn2⟩ := virtualServerRouteUpstreams_run vsx vsx.virtualServer
    vsx.virtualServerRoutes u1 hinv1
  cases Option.some.inj (h2.symm.trans h2')
  simpa [hups, hn1] using hn2

/-- Every split-client and map variable of the accumulators is a variable of `namer`. -/
def VariablesOf (namer : VariableNamer) (st : RoutesState) : Prop :=
  ∀ v ∈ st.splitClients.map (·.variable) ++ st.maps.map (·.variable), namer.IsVariable v

theorem addRoute_variablesOf {upstreamNamer : UpstreamNamer} {crUpstreams : String → V1.Upstream}
    {namer : VariableNamer} {cfgParams : ConfigParams} {st st' : RoutesState} {r : Route}
    (hst : VariablesOf namer st) (h : addRoute upstreamNamer crUpstreams namer cfgParams st r = some st') :
    VariablesOf namer st' := by
  rw [addRoute_eq] at h
  obtain ⟨p, hp, rfl⟩ := Option.map_eq_some'.1 h
  intro v hv
  simp only [RoutesState.append_splitClients, RoutesState.append_maps, List.map_append,
    List.mem_append] at hv
  rcases hv with (hv | hv) | (hv | hv)
  · exact hst v (List.mem_append_left _ hv)
  · rw [routePiece_variables hp] at hv
    obtain ⟨i, -, rfl⟩ := List.mem_map.1 hv
    exact .inl ⟨i, rfl⟩
  · exact hst v (List.mem_append_right _ hv)
  · obtain ⟨m, hm, rfl⟩ := List.mem_map.1 hv
    rcases ((routePiece_maps hp).2 m hm).2 with ⟨i, j, h⟩ | h
    · exact .inr (.inl ⟨_, i, j, h⟩)
    · exact .inr (.inr ⟨_, h⟩)

/-- **The variables of any configuration the generator returns** are variables of the
    VirtualServer's namer. -/
theorem generateVirtualServerConfig_variables {vsc : VirtualServerConfigurator}
    {pemFileNameForMissingTLSSecret tlsPemFileName : String} {vsx : VirtualServerEx}
    {cfg : Version2.VirtualServerConfig} {warnings : List (Owner × String)}
    (h : vsc.generateVirtualServerConfig pemFileNameForMissingTLSSecret vsx tlsPemFileName =
      some (cfg, warnings)) :
    ∀ v ∈ cfg.splitClients.map (·.variable) ++ cfg.maps.map (·.variable),
      (newVariableNamer vsx.virtualServer).IsVariable v := by
  obtain ⟨_, _, r1, rs, -, -, h3, h4, -, hsc, hmaps, -, -⟩ := generateVirtualServerConfig_eq_some h
  have hr1 : VariablesOf (newVariableNamer vsx.virtualServer) r1 :=
    foldlM_inv _ (fun st r st' hst hr => by
      unfold addVirtualServerRoute at hr
      split_ifs at hr
      · exact Option.some.inj hr ▸ hst
      · exact addRoute_variablesOf hst hr) _ (by simp [VariablesOf]) h3
  have hrs : VariablesOf (newVariableNamer vsx.virtualServer) rs :=
    foldlM_inv _ (fun st vsr st' hst hr =>
      foldlM_inv _ (fun _ _ _ hst hr => addRoute_variablesOf hst hr) _ hst hr) _ hr1 h4
  rw [hsc, hmaps]
  exact hrs

/-! ## Two VirtualServers -/

/-- Two configurations define no upstream of the same name, and, when the variable namers of
    their VirtualServers differ, no split client or map of the same variable. -/
def NamesDisjoint (vs vs' : VirtualServer) (cfg cfg' : Version2.VirtualServerConfig) : Prop :=
  (cfg.upstreams.map (·.name)).Disjoint (cfg'.upstreams.map (·.name)) ∧
    (newVariableNamer vs ≠ newVariableNamer vs' →
      (cfg.splitClients.map (·.variable) ++ cfg.maps.map (·.variable)).Disjoint
        (cfg'.splitClients.map (·.variable) ++ cfg'.maps.map (·.variable)))

/-- **Configurations of different VirtualServers share no upstream name, and no variable
    unless their safe names coincide**, when namespaces and names have no `_`. -/
theorem generateVirtualServerConfig_names_disjoint {vsc vsc' : VirtualServerConfigurator}
    {pemFileNameForMissingTLSSecret tlsPemFileName pemFileNameForMissingTLSSecret'
      tlsPemFileName' : String} {vsx vsx' : VirtualServerEx}
    {cfg cfg' : Version2.VirtualServerConfig} {warnings warnings' : List (Owner × String)}
    (hns : '_' ∉ vsx.virtualServer.namespace.data) (hn : '_' ∉ vsx.virtualServer.name.data)
    (hns' : '_' ∉ vsx'.virtualServer.namespace.data) (hn' : '_' ∉ vsx'.virtualServer.name.data)
    (hne : (vsx.virtualServer.namespace, vsx.virtualServer.name) ≠
      (vsx'.virtualServer.namespace, vsx'.virtualServer.name))
    (hgen : vsc.generateVirtualServerConfig pemFileNameForMissingTLSSecret vsx tlsPemFileName =
      some (cfg, warnings))
    (hgen' : vsc'.generateVirtualServerConfig pemFileNameForMissingTLSSecret' vsx'
      tlsPemFileName' = some (cfg', warnings')) :
    NamesDisjoint vsx.virtualServer vsx'.virtualServer cfg cfg' := by
  refine ⟨fun n h h' => hne ?_, fun hnamer v h h' => hnamer ?_⟩
  · rw [generateVirtualServerConfig_upstreamNames hgen] at h
    rw [generateVirtualServerConfig_upstreamNames hgen'] at h'
    obtain ⟨h1, h2⟩ := (hasVirtualServerPrefix_of_mem h).inj hns hns' hn hn'
      (hasVirtualServerPrefix_of_mem h')
    rw [h1, h2]
  · exact VariableNamer.eq_of_isVariable (generateVirtualServerConfig_variables hgen v h)
      (generateVirtualServerConfig_variables hgen' v h')

/-- A VirtualServer `<namespace>/<name>` that splits `/` evenly between its upstreams `tea`
    and `coffee`. -/
def splitsVirtualServer («namespace» name : String) : VirtualServer :=
  { «namespace», name
    spec := { host := "cafe.example.com"
              upstreams := [{ name := "tea", service := "tea-svc", port := 80 },
                            { name := "coffee", service := "coffee-svc", port := 80 }]
              routes := [{ path := "/", splits := [{ weight := 50, action := some { pass := "tea" } },
                                                  { weight := 50, action := some { pass := "coffee" } }] }] } }

theorem cafe_tea_names_disjoint : ∃ cfg warnings cfg' warnings',
    ossConfigurator.generateVirtualServerConfig "" cafeEx "" = some (cfg, warnings) ∧
    ossConfigurator.generateVirtualServerConfig ""
      { virtualServer := splitsVirtualServer "default" "tea" } "" = some (cfg', warnings') ∧
    (cfg.splitClients.length = 3 ∧ cfg'.splitClients.length = 1) ∧
    NamesDisjoint cafeSplits (splitsVirtualServer "default" "tea") cfg cfg' :=
  have h := (Option.some_get (by decide :
    (ossConfigurator.generateVirtualServerConfig "" cafeEx "").isSome)).symm
  have h' := (Option.some_get (by decide : (ossConfigurator.generateVirtualServerConfig ""
    { virtualServer := splitsVirtualServer "default" "tea" } "").isSome)).symm
  ⟨_, _, _, _, h, h', ⟨(cafeEx_lowered h).1, by decide⟩,
    generateVirtualServerConfig_names_disjoint (by decide) (by decide) (by decide) (by decide)
      (by decide) h h'⟩

/-- **Two VirtualServers with the same safe name define the same variable.** `a-b/c` and
    `a/b-c` are distinct Kubernetes objects, both validated, and each defines the split
    client `$vs_a_b_c_splits_0`. -/
theorem splitClient_variables_collide :
    validateVirtualServer lenientParsers (splitsVirtualServer "a-b" "c") false = some [] ∧
    validateVirtualServer lenientParsers (splitsVirtualServer "a" "b-c") false = some [] ∧
    (ossConfigurator.generateVirtualServerConfig ""
      { virtualServer := splitsVirtualServer "a-b" "c" } "").map
        (fun g => g.1.splitClients.map (·.variable)) = some ["$vs_a_b_c_splits_0"] ∧
    (ossConfigurator.generateVirtualServerConfig ""
      { virtualServer := splitsVirtualServer "a" "b-c" } "").map
        (fun g => g.1.splitClients.map (·.variable)) = some ["$vs_a_b_c_splits_0"] := by
  decide

/-! ## Characters of variable names -/

/-- **A VirtualServer name with a `.` gives a variable with a `.`.** `cafe.v2` is a
    DNS-1123 subdomain, so a valid VirtualServer name, and the split client of the
    validated VirtualServer `default/cafe.v2` is `$vs_default_cafe.v2_splits_0`; NGINX
    reads a variable name only up to the `.`. -/
theorem splitClient_variable_with_dot :
    isDNS1123Label "default" = [] ∧ isDNS1123Subdomain "cafe.v2" = [] ∧
    validateVirtualServer lenientParsers (splitsVirtualServer "default" "cafe.v2") false = some [] ∧
    (ossConfigurator.generateVirtualServerConfig ""
      { virtualServer := splitsVirtualServer "default" "cafe.v2" } "").map
        (fun g => g.1.splitClients.map (·.variable)) = some ["$vs_default_cafe.v2_splits_0"] := by
  decide

end KubernetesIngress.Configs
