import KubernetesIngress.Configs.Provenance

set_option autoImplicit false

/-! # When the generator panics

`GenerateVirtualServerConfig` dereferences an `Action` wherever it lowers one: the action of a
route or of a match without splits, and the action of each split. On input the validator has
not checked, such an action may be nil, and the Go code panics. This file gives the exact
condition, for any input: the generator returns exactly when every route it lowers has the
actions it dereferences (`generateVirtualServerConfig_isSome_iff`). Which routes those are is
the code's own choice: the VirtualServer's routes that do not delegate to a
VirtualServerRoute, and every subroute of every VirtualServerRoute. The upstream loops never
panic: the health check they dereference is the one `generateHealthCheck` found. -/

namespace KubernetesIngress.Configs

open V1

/-- A loop whose every step succeeds exactly when `P` holds of its element, whatever the
    accumulator, succeeds exactly when `P` holds of every element. -/
theorem foldlM_isSome_iff {α β : Type} {f : β → α → Option β} (P : α → Prop)
    (hf : ∀ b x, (f b x).isSome ↔ P x) :
    ∀ (l : List α) (b : β), (l.foldlM f b).isSome ↔ ∀ x ∈ l, P x
  | [], _ => by simp
  | x :: l, b => by
    rw [List.foldlM_cons, List.forall_mem_cons, ← hf b x]
    cases f b x with
    | none => simp
    | some b' => simpa using foldlM_isSome_iff P hf l b'

/-! ## The lowering of one route -/

/-- The actions the lowering of route `r` dereferences are all set: those of its matches, and
    its own or those of its splits. -/
def ActionsPresent (r : Route) : Prop :=
  (∀ m ∈ r.matches, HasActions m.action m.splits) ∧ HasActions r.action r.splits

section
variable {upstreamNamer : UpstreamNamer} {crUpstreams : String → V1.Upstream}
  {variableNamer : VariableNamer} {cfgParams : ConfigParams}

@[simp] theorem generateActionLocation_isSome (path : String) (action : Option Action) :
    (generateActionLocation path upstreamNamer crUpstreams action cfgParams).isSome =
      action.isSome := by
  cases action <;> rfl

theorem generateSplitLocations_isSome_iff (scIndex : Nat) :
    ∀ (i : Nat) (splits : List Split),
      (generateSplitLocations upstreamNamer crUpstreams scIndex cfgParams i splits).isSome ↔
        ∀ s ∈ splits, s.action.isSome
  | _, [] => by simp [generateSplitLocations]
  | i, s :: rest => by
    rw [List.forall_mem_cons, ← generateSplitLocations_isSome_iff scIndex (i + 1) rest,
      ← @generateActionLocation_isSome upstreamNamer crUpstreams cfgParams
        (splitLocationPath scIndex i) s.action]
    simp only [generateSplitLocations, Option.bind_eq_bind, Option.pure_def]
    cases generateActionLocation (splitLocationPath scIndex i) upstreamNamer crUpstreams s.action
      cfgParams <;>
    cases generateSplitLocations upstreamNamer crUpstreams scIndex cfgParams (i + 1) rest <;> simp

theorem generateSplits_isSome_iff (splits : List Split) (scIndex : Nat) :
    (generateSplits splits upstreamNamer crUpstreams variableNamer scIndex cfgParams).isSome ↔
      ∀ s ∈ splits, s.action.isSome := by
  rw [generateSplits_eq, Option.isSome_map', generateSplitLocations_isSome_iff]

theorem generateMatchLocations_isSome_iff (index scIndex : Nat) :
    ∀ (i sl : Nat) (ms : List Match),
      (generateMatchLocations upstreamNamer crUpstreams variableNamer index scIndex cfgParams i
        sl ms).isSome ↔ ∀ m ∈ ms, HasActions m.action m.splits
  | _, _, [] => by simp [generateMatchLocations]
  | i, sl, m :: rest => by
    have ih := fun sl => generateMatchLocations_isSome_iff index scIndex (i + 1) sl rest
    rw [List.forall_mem_cons, generateMatchLocations]
    simp only [Option.bind_eq_bind, Option.pure_def]
    split_ifs with hs
    · -- a match with splits lowers them, then the matches after it
      have hA : HasActions m.action m.splits ↔ ∀ s ∈ m.splits, s.action.isSome := by
        simp [HasActions, hs]
      rw [hA, ← @generateSplits_isSome_iff upstreamNamer crUpstreams variableNamer cfgParams
        m.splits (scIndex + sl), ← ih (sl + 1)]
      cases generateSplits m.splits upstreamNamer crUpstreams variableNamer (scIndex + sl)
        cfgParams <;>
      cases generateMatchLocations upstreamNamer crUpstreams variableNamer index scIndex cfgParams
        (i + 1) (sl + 1) rest <;> simp
    · -- a match without splits lowers its action, then the matches after it
      have hA : HasActions m.action m.splits ↔ m.action.isSome := by simp [HasActions, hs]
      rw [hA, ← @generateActionLocation_isSome upstreamNamer crUpstreams cfgParams
        (matchLocationPath index i) m.action, ← ih sl]
      cases generateActionLocation (matchLocationPath index i) upstreamNamer crUpstreams m.action
        cfgParams <;>
      cases generateMatchLocations upstreamNamer crUpstreams variableNamer index scIndex cfgParams
        (i + 1) sl rest <;> simp

theorem generateMatchesConfig_isSome_iff (r : Route) (index scIndex : Nat) :
    (generateMatchesConfig r upstreamNamer crUpstreams variableNamer index scIndex
      cfgParams).isSome ↔ ActionsPresent r := by
  rw [ActionsPresent, ← @generateMatchLocations_isSome_iff upstreamNamer crUpstreams variableNamer
    cfgParams index scIndex 0 0 r.matches]
  simp only [generateMatchesConfig, Option.bind_eq_bind, Option.pure_def]
  cases generateMatchLocations upstreamNamer crUpstreams variableNamer index scIndex cfgParams 0 0
    r.matches with
  | none => simp
  | some p =>
    obtain ⟨locs, scs, sl⟩ := p
    simp only [Option.some_bind, Option.isSome_some, true_and, HasActions]
    split_ifs with hs
    · rw [← @generateSplits_isSome_iff upstreamNamer crUpstreams variableNamer cfgParams r.splits
        (scIndex + sl)]
      cases generateSplits r.splits upstreamNamer crUpstreams variableNamer (scIndex + sl)
        cfgParams <;> simp [hs]
    · cases hr : r.action <;> simp [hs, hr, generateActionLocation]

/-- **One route lowers without a panic exactly when its actions are present**, whatever the
    accumulators so far. -/
theorem addRoute_isSome_iff (st : RoutesState) (r : Route) :
    (addRoute upstreamNamer crUpstreams variableNamer cfgParams st r).isSome ↔
      ActionsPresent r := by
  unfold addRoute
  split_ifs with hm hs
  · rw [Option.isSome_map', generateMatchesConfig_isSome_iff]
  · have hnil : r.matches = [] := List.eq_nil_of_length_eq_zero (by omega)
    rw [Option.isSome_map', ActionsPresent, hnil, HasActions, ← @generateSplits_isSome_iff
      upstreamNamer crUpstreams variableNamer cfgParams r.splits st.splitClients.length]
    simp only [generateDefaultSplitsConfig, Option.bind_eq_bind, Option.pure_def]
    cases generateSplits r.splits upstreamNamer crUpstreams variableNamer st.splitClients.length
      cfgParams <;> simp [hs]
  · have hnil : r.matches = [] := List.eq_nil_of_length_eq_zero (by omega)
    simp [ActionsPresent, HasActions, hnil, hs]

theorem addVirtualServerRoute_isSome_iff (st : RoutesState) (r : Route) :
    (addVirtualServerRoute upstreamNamer crUpstreams variableNamer cfgParams st r).isSome ↔
      (r.route = "" → ActionsPresent r) := by
  unfold addVirtualServerRoute
  split_ifs with hr
  · simp [hr]
  · simp only [ne_eq, not_not] at hr
    simp [hr, addRoute_isSome_iff]

end

/-! ## The upstream loops -/

/-- One step of an upstream loop never panics. -/
theorem addUpstream_isSome (vsx : VirtualServerEx) (owner : Owner) (upstreamNamer : UpstreamNamer)
    («namespace» : String) (st : UpstreamsState) (u : V1.Upstream) :
    (addUpstream vsx owner upstreamNamer «namespace» st u).isSome := by
  unfold addUpstream
  dsimp only
  split
  · rfl
  · rename_i hc hgen
    obtain ⟨h', hh', -⟩ := generateHealthCheck_eq_some hgen
    simp [hh']

/-- An upstream loop never panics. -/
theorem foldlM_addUpstream_isSome (vsx : VirtualServerEx) (owner : Owner)
    (upstreamNamer : UpstreamNamer) («namespace» : String) (us : List V1.Upstream)
    (st : UpstreamsState) : (us.foldlM (addUpstream vsx owner upstreamNamer «namespace») st).isSome :=
  (foldlM_isSome_iff (fun _ => True)
    (fun st u => iff_true_intro (addUpstream_isSome vsx owner upstreamNamer «namespace» st u))
    us st).2 fun _ _ => trivial

/-- The loops over the upstreams of the VirtualServerRoutes never panic. -/
theorem virtualServerRouteUpstreams_isSome (vsx : VirtualServerEx) (st : UpstreamsState) :
    (vsx.virtualServerRoutes.foldlM (fun ups (vsr : VirtualServerRoute) => vsr.spec.upstreams.foldlM
      (addUpstream vsx (Owner.ofVirtualServerRoute vsr)
        (newUpstreamNamerForVirtualServerRoute vsx.virtualServer vsr) vsr.namespace) ups)
      st).isSome :=
  (foldlM_isSome_iff (fun _ => True)
    (fun st (vsr : VirtualServerRoute) =>
      iff_true_intro (foldlM_addUpstream_isSome vsx _ _ _ vsr.spec.upstreams st))
    vsx.virtualServerRoutes st).2 fun _ _ => trivial

/-! ## The whole generator -/

/-- **When `GenerateVirtualServerConfig` panics, exactly.** On any input, the generator returns
    a configuration exactly when every route of the VirtualServer that does not delegate to a
    VirtualServerRoute, and every subroute of every VirtualServerRoute, has the actions its
    lowering dereferences: its own action when it has no splits, an action for each of its
    splits, and the same for each of its matches. -/
theorem generateVirtualServerConfig_isSome_iff (vsc : VirtualServerConfigurator)
    (pemFileNameForMissingTLSSecret : String) (vsx : VirtualServerEx) (tlsPemFileName : String) :
    (vsc.generateVirtualServerConfig pemFileNameForMissingTLSSecret vsx tlsPemFileName).isSome ↔
      (∀ r ∈ vsx.virtualServer.spec.routes, r.route = "" → ActionsPresent r) ∧
        ∀ vsr ∈ vsx.virtualServerRoutes, ∀ r ∈ vsr.spec.subroutes, ActionsPresent r := by
  obtain ⟨u1, h1⟩ := Option.isSome_iff_exists.1 (foldlM_addUpstream_isSome vsx
    (Owner.ofVirtualServer vsx.virtualServer) (newUpstreamNamerForVirtualServer vsx.virtualServer)
    vsx.virtualServer.namespace vsx.virtualServer.spec.upstreams { vsc := vsc.clearWarnings })
  obtain ⟨u, h2⟩ := Option.isSome_iff_exists.1 (virtualServerRouteUpstreams_isSome vsx u1)
  have hvs := foldlM_isSome_iff _ (@addVirtualServerRoute_isSome_iff
    (newUpstreamNamerForVirtualServer vsx.virtualServer) u.crUpstreams
    (newVariableNamer vsx.virtualServer) vsc.cfgParams) vsx.virtualServer.spec.routes {}
  have hvsr := fun r1 => foldlM_isSome_iff (fun vsr => ∀ r ∈ vsr.spec.subroutes, ActionsPresent r)
    (fun rs vsr => foldlM_isSome_iff _ (@addRoute_isSome_iff
      (newUpstreamNamerForVirtualServerRoute vsx.virtualServer vsr) u.crUpstreams
      (newVariableNamer vsx.virtualServer) vsc.cfgParams) vsr.spec.subroutes rs)
    vsx.virtualServerRoutes r1
  simp only [VirtualServerConfigurator.generateVirtualServerConfig, Option.bind_eq_bind,
    VirtualServerConfigurator.clearWarnings_cfgParams, h1, h2, Option.some_bind, Option.pure_def]
  rw [← hvs]
  cases vsx.virtualServer.spec.routes.foldlM (addVirtualServerRoute
    (newUpstreamNamerForVirtualServer vsx.virtualServer) u.crUpstreams
    (newVariableNamer vsx.virtualServer) vsc.cfgParams) {} with
  | none => simp
  | some r1 =>
    rw [Option.some_bind, ← hvsr r1]
    cases vsx.virtualServerRoutes.foldlM (fun rs vsr => vsr.spec.subroutes.foldlM (addRoute
      (newUpstreamNamerForVirtualServerRoute vsx.virtualServer vsr) u.crUpstreams
      (newVariableNamer vsx.virtualServer) vsc.cfgParams) rs) r1 <;> simp

/-- `cafe` with a route that passes nowhere: its action is nil. -/
example : (ossConfigurator.generateVirtualServerConfig ""
    { virtualServer := { Validation.cafe with spec := { Validation.cafe.spec with
        routes := Validation.cafe.spec.routes ++ [{ path := "/broken" }] } } } "").isSome = false := by
  decide

end KubernetesIngress.Configs
