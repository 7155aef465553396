import KubernetesIngress.Configs.VirtualServer
import KubernetesIngress.Validation.Soundness

set_option autoImplicit false

/-! # The routing configuration of one route

`GenerateVirtualServerConfig` lowers each route on its own, with `generateLocation`,
`generateDefaultSplitsConfig` or `generateMatchesConfig`, and appends what it gets to its
accumulators. This file states what the lowering of one valid route is: it exists (no nil
action is dereferenced), its split clients are numbered from the counter it was given and
carry valid weights, its named locations and its map variables are distinct, and the names
its maps and split clients use are defined in it. -/

namespace KubernetesIngress.Configs

open V1 Validation

/-! ## Named locations -/

/-- A named location (`@name`), which only an internal redirect reaches. -/
def isNamedLocation (path : String) : Bool := Go.hasPrefix path "@"

theorem isNamedLocation_iff {path : String} :
    isNamedLocation path = true ↔ ∃ t, path.data = '@' :: t := by
  simp only [isNamedLocation, Go.hasPrefix_iff]
  constructor
  · rintro ⟨t, ht⟩
    exact ⟨t, ht.symm⟩
  · rintro ⟨t, ht⟩
    exact ⟨t, ht.symm⟩

theorem data_splitLocationPath (k j : Nat) :
    (splitLocationPath k j).data =
      "@splits_".data ++ (Nat.toDigits 10 k ++ '_' :: ("split_".data ++ Nat.toDigits 10 j)) := by
  simp [splitLocationPath]

theorem data_matchLocationPath (k i : Nat) :
    (matchLocationPath k i).data =
      "@matches_".data ++ (Nat.toDigits 10 k ++ '_' :: ("match_".data ++ Nat.toDigits 10 i)) := by
  simp [matchLocationPath]

theorem data_defaultLocationPath (k : Nat) :
    (defaultLocationPath k).data = "@matches_".data ++ (Nat.toDigits 10 k ++ '_' :: "default".data) := by
  simp [defaultLocationPath]

@[simp] theorem isNamedLocation_splitLocationPath (k j : Nat) :
    isNamedLocation (splitLocationPath k j) = true := by
  simp [isNamedLocation_iff, data_splitLocationPath]

@[simp] theorem isNamedLocation_matchLocationPath (k i : Nat) :
    isNamedLocation (matchLocationPath k i) = true := by
  simp [isNamedLocation_iff, data_matchLocationPath]

@[simp] theorem isNamedLocation_defaultLocationPath (k : Nat) :
    isNamedLocation (defaultLocationPath k) = true := by
  simp [isNamedLocation_iff, data_defaultLocationPath]

theorem splitLocationPath_inj {k j k' j' : Nat} (h : splitLocationPath k j = splitLocationPath k' j') :
    k = k' ∧ j = j' := by
  have h := congrArg String.data h
  simp only [data_splitLocationPath, List.append_cancel_left_eq] at h
  obtain ⟨hk, h⟩ := Go.append_sep_inj_left (VariableNamer.underscore_not_mem_toDigits k)
    (VariableNamer.underscore_not_mem_toDigits k') h
  simp only [List.append_cancel_left_eq] at h
  exact ⟨Go.toDigits_ten_injective hk, Go.toDigits_ten_injective h⟩

theorem matchLocationPath_inj {k i k' i' : Nat} (h : matchLocationPath k i = matchLocationPath k' i') :
    k = k' ∧ i = i' := by
  have h := congrArg String.data h
  simp only [data_matchLocationPath, List.append_cancel_left_eq] at h
  obtain ⟨hk, h⟩ := Go.append_sep_inj_left (VariableNamer.underscore_not_mem_toDigits k)
    (VariableNamer.underscore_not_mem_toDigits k') h
  simp only [List.append_cancel_left_eq] at h
  exact ⟨Go.toDigits_ten_injective hk, Go.toDigits_ten_injective h⟩

theorem defaultLocationPath_inj {k k' : Nat} (h : defaultLocationPath k = defaultLocationPath k') :
    k = k' := by
  have h := congrArg String.data h
  simp only [data_defaultLocationPath, List.append_cancel_left_eq] at h
  exact Go.toDigits_ten_injective (Go.append_sep_inj_left (VariableNamer.underscore_not_mem_toDigits k)
    (VariableNamer.underscore_not_mem_toDigits k') h).1

theorem splitLocationPath_ne_matchLocationPath (k j k' i : Nat) :
    splitLocationPath k j ≠ matchLocationPath k' i := fun h => by
  simpa [data_splitLocationPath, data_matchLocationPath] using congrArg String.data h

theorem splitLocationPath_ne_defaultLocationPath (k j k' : Nat) :
    splitLocationPath k j ≠ defaultLocationPath k' := fun h => by
  simpa [data_splitLocationPath, data_defaultLocationPath] using congrArg String.data h

theorem matchLocationPath_ne_defaultLocationPath (k i k' : Nat) :
    matchLocationPath k i ≠ defaultLocationPath k' := fun h => by
  have h := congrArg String.data h
  simp only [data_matchLocationPath, data_defaultLocationPath, List.append_cancel_left_eq] at h
  have := (Go.append_sep_inj_left (VariableNamer.underscore_not_mem_toDigits k)
    (VariableNamer.underscore_not_mem_toDigits k') h).2
  simp at this

/-! ## Locations of actions -/

/-- `loc` is the location `generateLocation` builds for the action `a` at some path, with the
    upstream that `upstreamNamer` names for `a.pass`, as `crUpstreams` holds it. -/
def LocationOfAction (upstreamNamer : UpstreamNamer) (crUpstreams : String → V1.Upstream)
    (cfgParams : ConfigParams) (a : Action) (loc : Version2.Location) : Prop :=
  ∃ path, loc = generateLocation path (upstreamNamer.getNameForUpstream a.pass)
    (crUpstreams (upstreamNamer.getNameForUpstream a.pass)) a cfgParams

section
variable (path : String) (upstreamNamer : UpstreamNamer) (crUpstreams : String → V1.Upstream)
  (cfgParams : ConfigParams)

@[simp] theorem generateActionLocation_none :
    generateActionLocation path upstreamNamer crUpstreams none cfgParams = none := rfl

@[simp] theorem generateActionLocation_some (a : Action) :
    generateActionLocation path upstreamNamer crUpstreams (some a) cfgParams =
      some (generateLocation path (upstreamNamer.getNameForUpstream a.pass)
        (crUpstreams (upstreamNamer.getNameForUpstream a.pass)) a cfgParams) := rfl

end

/-- What `generateActionLocation` returns: the location `generateLocation` builds, for an
    action that is set. -/
theorem generateActionLocation_eq_some {path : String} {upstreamNamer : UpstreamNamer}
    {crUpstreams : String → V1.Upstream} {cfgParams : ConfigParams} {action : Option Action}
    {loc : Version2.Location}
    (h : generateActionLocation path upstreamNamer crUpstreams action cfgParams = some loc) :
    ∃ a, action = some a ∧ loc = generateLocation path (upstreamNamer.getNameForUpstream a.pass)
      (crUpstreams (upstreamNamer.getNameForUpstream a.pass)) a cfgParams := by
  cases action with
  | none => cases h
  | some a => exact ⟨a, rfl, (Option.some.inj h).symm⟩

theorem generatePath_of_isNamedLocation {path : String} (h : isNamedLocation path = true) :
    generatePath path = path := by
  obtain ⟨t, ht⟩ := isNamedLocation_iff.1 h
  simp [generatePath, Go.hasPrefix, ht, List.isPrefixOf]

theorem generateLocation_path (path upstreamName : String) (u : V1.Upstream) (a : Action)
    (cfgParams : ConfigParams) :
    (generateLocation path upstreamName u a cfgParams).path =
      if a.redirect.isSome || a.return.isSome then path else generatePath path := by
  rcases a with ⟨pass, _ | redirect, _ | ret⟩ <;> rfl

theorem generateLocation_path_of_isNamedLocation {path upstreamName : String} {u : V1.Upstream}
    {a : Action} {cfgParams : ConfigParams} (h : isNamedLocation path = true) :
    (generateLocation path upstreamName u a cfgParams).path = path := by
  simp [generateLocation_path, generatePath_of_isNamedLocation h]

/-! ## Splits -/

/-- The weights of a split client: two or more, each `w%` for a `w` in `[1, 99]`, and they
    sum to 100. -/
def SplitClientWeightsValid (sc : Version2.SplitClient) : Prop :=
  ∃ ws : List Nat, 2 ≤ ws.length ∧ (∀ w ∈ ws, 1 ≤ w ∧ w ≤ 99) ∧ ws.sum = 100 ∧
    sc.distributions.map (·.weight) = ws.map fun w => toString w ++ "%"

@[simp] theorem length_generateDistributions (scIndex i : Nat) (splits : List Split) :
    (generateDistributions scIndex i splits).length = splits.length := by
  induction splits generalizing i <;> simp [generateDistributions, *]

theorem map_value_generateDistributions (scIndex i : Nat) (splits : List Split) :
    (generateDistributions scIndex i splits).map (·.value) =
      (List.range' i splits.length).map (splitLocationPath scIndex) := by
  induction splits generalizing i with
  | nil => rfl
  | cons s rest ih => simp [generateDistributions, ih, List.range'_succ]

theorem map_weight_generateDistributions (scIndex i : Nat) (splits : List Split) :
    (generateDistributions scIndex i splits).map (·.weight) =
      splits.map fun s => toString s.weight ++ "%" := by
  induction splits generalizing i with
  | nil => rfl
  | cons s rest ih => simp [generateDistributions, ih]

private theorem sum_map_toNat_weight {splits : List Split} (h : ∀ s ∈ splits, 0 ≤ s.weight) :
    (((splits.map (·.weight.toNat)).sum : Nat) : Int) = (splits.map (·.weight)).sum := by
  induction splits with
  | nil => rfl
  | cons s rest ih =>
    simp only [List.map_cons, List.sum_cons, Nat.cast_add, ih (fun t ht => h t (by simp [ht]))]
    rw [Int.toNat_of_nonneg (h s (by simp))]

theorem weightsValid_of_splitsValid {upstreamNames : List String} {splits : List Split}
    (h : SplitsValid upstreamNames splits) {sc : Version2.SplitClient} {scIndex : Nat}
    (hd : sc.distributions = generateDistributions scIndex 0 splits) :
    SplitClientWeightsValid sc := by
  have hnonneg : ∀ s ∈ splits, 0 ≤ s.weight := fun s hs => by have := h.weight s hs; omega
  refine ⟨splits.map (·.weight.toNat), by simpa using h.two_le, ?_, ?_, ?_⟩
  · simp only [List.mem_map, forall_exists_index, and_imp]
    rintro _ s hs rfl
    have := h.weight s hs
    omega
  · have := sum_map_toNat_weight hnonneg
    rw [h.sum] at this
    omega
  · simp only [hd, map_weight_generateDistributions, List.map_map]
    refine List.map_congr_left fun s hs => ?_
    simp only [Function.comp]
    rw [← Int.toNat_of_nonneg (hnonneg s hs)]
    rfl

section
variable (upstreamNamer : UpstreamNamer) (crUpstreams : String → V1.Upstream)
  (variableNamer : VariableNamer) (cfgParams : ConfigParams)

theorem generateSplitLocations_isSome (scIndex : Nat) {i : Nat} {splits : List Split}
    (h : ∀ s ∈ splits, s.action.isSome) :
    (generateSplitLocations upstreamNamer crUpstreams scIndex cfgParams i splits).isSome := by
  induction splits generalizing i with
  | nil => rfl
  | cons s rest ih =>
    obtain ⟨a, ha⟩ := Option.isSome_iff_exists.1 (h s (by simp))
    obtain ⟨locs, hlocs⟩ := Option.isSome_iff_exists.1
      (ih (i := i + 1) fun t ht => h t (by simp [ht]))
    simp [generateSplitLocations, ha, hlocs]

theorem generateSplitLocations_spec {scIndex i : Nat} {splits : List Split}
    {locs : List Version2.Location}
    (h : generateSplitLocations upstreamNamer crUpstreams scIndex cfgParams i splits = some locs) :
    locs.map (·.path) = (List.range' i splits.length).map (splitLocationPath scIndex) ∧
      ∀ loc ∈ locs, ∃ s ∈ splits, ∃ a, s.action = some a ∧
        LocationOfAction upstreamNamer crUpstreams cfgParams a loc := by
  induction splits generalizing i locs with
  | nil =>
    simp only [generateSplitLocations, Option.some.injEq] at h
    simp [← h]
  | cons s rest ih =>
    simp only [generateSplitLocations, Option.bind_eq_bind, Option.bind_eq_some,
      Option.pure_def, Option.some.injEq] at h
    obtain ⟨loc, hloc, locs', hlocs', rfl⟩ := h
    obtain ⟨hpaths, hrest⟩ := ih hlocs'
    obtain ⟨a, ha, rfl⟩ := generateActionLocation_eq_some hloc
    refine ⟨?_, ?_⟩
    · simp [hpaths, List.range'_succ, generateLocation_path_of_isNamedLocation]
    · simp only [List.mem_cons, forall_eq_or_imp]
      exact ⟨⟨s, by simp, a, ha, _, rfl⟩, fun loc hloc => by
        obtain ⟨t, ht, b, hb, hl⟩ := hrest loc hloc
        exact ⟨t, by simp [ht], b, hb, hl⟩⟩

theorem generateSplits_eq (splits : List Split) (scIndex : Nat) :
    generateSplits splits upstreamNamer crUpstreams variableNamer scIndex cfgParams =
      (generateSplitLocations upstreamNamer crUpstreams scIndex cfgParams 0 splits).map fun locs =>
        ({ source := "$request_id"
           «variable» := variableNamer.getNameForSplitClientVariable scIndex
           distributions := generateDistributions scIndex 0 splits }, locs) := by
  simp only [generateSplits, Option.bind_eq_bind, Option.pure_def]
  cases generateSplitLocations upstreamNamer crUpstreams scIndex cfgParams 0 splits <;> rfl

theorem generateSplits_spec {splits : List Split} {scIndex : Nat} {sc : Version2.SplitClient}
    {locs : List Version2.Location}
    (h : generateSplits splits upstreamNamer crUpstreams variableNamer scIndex cfgParams =
      some (sc, locs)) :
    sc.variable = variableNamer.getNameForSplitClientVariable scIndex ∧
      sc.distributions = generateDistributions scIndex 0 splits ∧
      locs.map (·.path) = (List.range' 0 splits.length).map (splitLocationPath scIndex) ∧
      ∀ loc ∈ locs, ∃ s ∈ splits, ∃ a, s.action = some a ∧
        LocationOfAction upstreamNamer crUpstreams cfgParams a loc := by
  rw [generateSplits_eq, Option.map_eq_some'] at h
  obtain ⟨locs', hlocs, heq⟩ := h
  obtain ⟨rfl, rfl⟩ := Prod.mk.inj heq
  exact ⟨rfl, rfl, generateSplitLocations_spec upstreamNamer crUpstreams cfgParams hlocs⟩

/-- The split locations of one split client have distinct paths, each a split location of it. -/
theorem generateSplits_paths {splits : List Split} {scIndex : Nat} {sc : Version2.SplitClient}
    {locs : List Version2.Location}
    (h : generateSplits splits upstreamNamer crUpstreams variableNamer scIndex cfgParams =
      some (sc, locs)) :
    (locs.map (·.path)).Nodup ∧ ∀ loc ∈ locs, ∃ j, loc.path = splitLocationPath scIndex j := by
  obtain ⟨-, -, hpaths, -⟩ := generateSplits_spec _ _ _ _ h
  refine ⟨hpaths ▸ (List.nodup_range' _ _).map fun _ _ hj => (splitLocationPath_inj hj).2,
    fun loc hloc => ?_⟩
  have hmem : loc.path ∈ locs.map (·.path) := List.mem_map_of_mem _ hloc
  rw [hpaths] at hmem
  obtain ⟨j, -, hj⟩ := List.mem_map.1 hmem
  exact ⟨j, hj.symm⟩

theorem generateSplits_values {splits : List Split} {scIndex : Nat} {sc : Version2.SplitClient}
    {locs : List Version2.Location}
    (h : generateSplits splits upstreamNamer crUpstreams variableNamer scIndex cfgParams =
      some (sc, locs)) :
    sc.distributions.map (·.value) = locs.map (·.path) := by
  obtain ⟨-, hdist, hpaths, -⟩ := generateSplits_spec _ _ _ _ h
  rw [hdist, map_value_generateDistributions, hpaths]

/-! ## Matches -/

/-- The actions a route holds: its own, those of its splits, and those of its matches and of
    their splits. -/
def ActionOfRoute (r : Route) (a : Action) : Prop :=
  r.action = some a ∨ (∃ s ∈ r.splits, s.action = some a) ∨
    ∃ m ∈ r.matches, m.action = some a ∨ ∃ s ∈ m.splits, s.action = some a

theorem actionValid_of_actionOfRoute {upstreamNames : List String} {r : Route} {a : Action}
    (hr : RouteValid upstreamNames r) (h : ActionOfRoute r a) : ActionValid upstreamNames a := by
  rcases h with ha | ⟨s, hs, ha⟩ | ⟨m, hm, ha | ⟨s, hs, ha⟩⟩
  · exact hr.action a ha
  · obtain ⟨b, hb, hvalid⟩ := (hr.splits (List.ne_nil_of_mem hs)).action s hs
    exact (Option.some.inj (ha.symm.trans hb)) ▸ hvalid
  · exact (hr.matches_valid m hm).action a ha
  · have hmv := hr.matches_valid m hm
    obtain ⟨b, hb, hvalid⟩ := (hmv.splits (List.ne_nil_of_mem hs)).action s hs
    exact (Option.some.inj (ha.symm.trans hb)) ▸ hvalid

/-- The actions a lowering dereferences are set: a route or a match without splits has an
    action, and each of its splits has one. -/
def HasActions (action : Option Action) (splits : List Split) : Prop :=
  (splits.length > 0 → ∀ s ∈ splits, s.action.isSome) ∧ (¬ splits.length > 0 → action.isSome)

theorem exactlyOne_pair {a b : Bool} : ExactlyOne [a, b] ↔ (a = !b) := by
  cases a <;> cases b <;> simp [ExactlyOne]

theorem hasActions_of_splitsValid {upstreamNames : List String} {action : Option Action}
    {splits : List Split} (hs : splits ≠ [] → SplitsValid upstreamNames splits)
    (hone : ExactlyOne [action.isSome, splits ≠ []]) : HasActions action splits := by
  refine ⟨fun hlen s hmem => ?_, fun hlen => ?_⟩
  · obtain ⟨a, ha, -⟩ := (hs (List.ne_nil_of_length_pos hlen)).action s hmem
    simp [ha]
  · have hnil : splits = [] := List.eq_nil_of_length_eq_zero (by omega)
    simpa [exactlyOne_pair, hnil] using hone

/-- A named location path of a matches route numbered `index`: a split location of a split
    client numbered in `[lo, hi)`, or the location of one of its matches from `i` on. -/
def MatchesLocationPath (index i lo hi : Nat) (path : String) : Prop :=
  (∃ k j, lo ≤ k ∧ k < hi ∧ path = splitLocationPath k j) ∨
    ∃ i', i ≤ i' ∧ path = matchLocationPath index i'


theorem generateMainMapParameters_cons (index scIndex i sl : Nat) (m : Match) (ms : List Match) :
    generateMainMapParameters variableNamer index scIndex i sl (m :: ms) =
      let t := generateMainMapParameters variableNamer index scIndex (i + 1)
        (if m.splits.length > 0 then sl + 1 else sl) ms
      (variableNamer.getNameForVariableForMatchesRouteMap index i 0 ++ t.1,
        { value := "~^" ++ String.mk (List.replicate i '0') ++ "1"
          result := if m.splits.length > 0 then variableNamer.getNameForSplitClientVariable (scIndex + sl)
            else matchLocationPath index i } :: t.2.1, t.2.2) := by
  simp only [generateMainMapParameters]
  split_ifs <;> rfl

theorem generateMatchLocations_cons {index scIndex i sl : Nat} {m : Match} {ms : List Match}
    {locs : List Version2.Location} {scs : List Version2.SplitClient} {e : Nat}
    (h : generateMatchLocations upstreamNamer crUpstreams variableNamer index scIndex cfgParams i sl
      (m :: ms) = some (locs, scs, e)) :
    (m.splits.length > 0 ∧ ∃ sc slocs locs' scs',
      generateSplits m.splits upstreamNamer crUpstreams variableNamer (scIndex + sl) cfgParams =
        some (sc, slocs) ∧
      generateMatchLocations upstreamNamer crUpstreams variableNamer index scIndex cfgParams (i + 1)
        (sl + 1) ms = some (locs', scs', e) ∧ locs = slocs ++ locs' ∧ scs = sc :: scs') ∨
    (¬ m.splits.length > 0 ∧ ∃ loc locs',
      generateActionLocation (matchLocationPath index i) upstreamNamer crUpstreams m.action
        cfgParams = some loc ∧
      generateMatchLocations upstreamNamer crUpstreams variableNamer index scIndex cfgParams (i + 1)
        sl ms = some (locs', scs, e) ∧ locs = loc :: locs') := by
  simp only [generateMatchLocations] at h
  split_ifs at h with hs
  · simp only [Option.bind_eq_bind, Option.bind_eq_some, Option.pure_def, Option.some.injEq,
      Prod.exists, Prod.mk.injEq] at h
    obtain ⟨sc, slocs, hsplits, locs', scs', e', hrest, rfl, rfl, rfl⟩ := h
    exact .inl ⟨hs, sc, slocs, locs', scs', hsplits, hrest, rfl, rfl⟩
  · simp only [Option.bind_eq_bind, Option.bind_eq_some, Option.pure_def, Option.some.injEq,
      Prod.exists, Prod.mk.injEq] at h
    obtain ⟨loc, hloc, locs', scs', e', hrest, rfl, rfl, rfl⟩ := h
    exact .inr ⟨hs, loc, locs', hloc, hrest, rfl⟩

theorem generateMainMapParameters_scEnd (index scIndex i sl : Nat) (ms : List Match) :
    (generateMainMapParameters variableNamer index scIndex i sl ms).2.2 =
      sl + ms.countP (fun m => m.splits.length > 0) := by
  induction ms generalizing i sl with
  | nil => rfl
  | cons m ms ih =>
    rw [generateMainMapParameters_cons]
    simp only [ih, List.countP_cons]
    by_cases hs : m.splits.length > 0 <;> simp [hs]
    omega

variable {upstreamNamer crUpstreams variableNamer cfgParams}
variable {index scIndex : Nat}

theorem generateMatchLocations_isSome {i sl : Nat} {ms : List Match}
    (h : ∀ m ∈ ms, HasActions m.action m.splits) :
    (generateMatchLocations upstreamNamer crUpstreams variableNamer index scIndex cfgParams i sl
      ms).isSome := by
  induction ms generalizing i sl with
  | nil => rfl
  | cons m ms ih =>
    have hrest : ∀ sl, (generateMatchLocations upstreamNamer crUpstreams variableNamer index scIndex
        cfgParams (i + 1) sl ms).isSome := fun _ => ih fun m' hm' => h m' (by simp [hm'])
    simp only [generateMatchLocations]
    split_ifs with hs
    · obtain ⟨locs, hlocs⟩ := Option.isSome_iff_exists.1
        (generateSplitLocations_isSome upstreamNamer crUpstreams cfgParams (scIndex + sl) (i := 0)
          ((h m (by simp)).1 hs))
      obtain ⟨⟨locs', scs', e⟩, hrest⟩ := Option.isSome_iff_exists.1 (hrest (sl + 1))
      simp [generateSplits_eq, hlocs, hrest]
    · obtain ⟨a, ha⟩ := Option.isSome_iff_exists.1 ((h m (by simp)).2 hs)
      obtain ⟨⟨locs', scs', e⟩, hrest⟩ := Option.isSome_iff_exists.1 (hrest sl)
      simp [ha, hrest]

section
variable {i sl : Nat} {ms : List Match} {locs : List Version2.Location}
  {scs : List Version2.SplitClient} {e : Nat}

theorem generateMatchLocations_scEnd
    (h : generateMatchLocations upstreamNamer crUpstreams variableNamer index scIndex cfgParams i sl
      ms = some (locs, scs, e)) :
    e = sl + ms.countP (fun m => m.splits.length > 0) := by
  induction ms generalizing i sl locs scs with
  | nil =>
    simp only [generateMatchLocations, Option.some.injEq, Prod.mk.injEq] at h
    simp [h.2.2]
  | cons m ms ih =>
    rcases generateMatchLocations_cons _ _ _ _ h with
      ⟨hs, sc, slocs, locs', scs', -, hrest, -, -⟩ | ⟨hs, loc, locs', -, hrest, -⟩
    · rw [ih hrest, List.countP_cons]
      simp [hs]
      omega
    · rw [ih hrest, List.countP_cons]
      simp [hs]

theorem generateMatchLocations_variables
    (h : generateMatchLocations upstreamNamer crUpstreams variableNamer index scIndex cfgParams i sl
      ms = some (locs, scs, e)) :
    scs.map (·.variable) = (List.range' (scIndex + sl) (ms.countP fun m => m.splits.length > 0)).map
      variableNamer.getNameForSplitClientVariable := by
  induction ms generalizing i sl locs scs with
  | nil =>
    simp only [generateMatchLocations, Option.some.injEq, Prod.mk.injEq] at h
    simp [← h.2.1]
  | cons m ms ih =>
    rcases generateMatchLocations_cons _ _ _ _ h with
      ⟨hs, sc, slocs, locs', scs', hsplits, hrest, -, rfl⟩ | ⟨hs, loc, locs', -, hrest, -⟩
    · simp [ih hrest, (generateSplits_spec _ _ _ _ hsplits).1, List.countP_cons, hs,
        List.range'_succ, Nat.add_assoc]
    · simp [ih hrest, List.countP_cons, hs]

theorem generateMatchLocations_weights {upstreamNames : List String}
    (hv : ∀ m ∈ ms, MatchValid upstreamNames m)
    (h : generateMatchLocations upstreamNamer crUpstreams variableNamer index scIndex cfgParams i sl
      ms = some (locs, scs, e)) :
    ∀ sc ∈ scs, SplitClientWeightsValid sc := by
  induction ms generalizing i sl locs scs with
  | nil =>
    simp only [generateMatchLocations, Option.some.injEq, Prod.mk.injEq] at h
    simp [← h.2.1]
  | cons m ms ih =>
    have hrestv := fun m' (hm' : m' ∈ ms) => hv m' (by simp [hm'])
    rcases generateMatchLocations_cons _ _ _ _ h with
      ⟨hs, sc, slocs, locs', scs', hsplits, hrest, -, rfl⟩ | ⟨hs, loc, locs', -, hrest, -⟩
    · refine List.forall_mem_cons.2 ⟨?_, ih hrestv hrest⟩
      exact weightsValid_of_splitsValid ((hv m (by simp)).splits (List.ne_nil_of_length_pos hs))
        (generateSplits_spec _ _ _ _ hsplits).2.1
    · exact ih hrestv hrest

theorem generateMatchLocations_distributions
    (h : generateMatchLocations upstreamNamer crUpstreams variableNamer index scIndex cfgParams i sl
      ms = some (locs, scs, e)) :
    ∀ sc ∈ scs, ∀ d ∈ sc.distributions, d.value ∈ locs.map (·.path) := by
  induction ms generalizing i sl locs scs with
  | nil =>
    simp only [generateMatchLocations, Option.some.injEq, Prod.mk.injEq] at h
    simp [← h.2.1]
  | cons m ms ih =>
    rcases generateMatchLocations_cons _ _ _ _ h with
      ⟨hs, sc, slocs, locs', scs', hsplits, hrest, rfl, rfl⟩ | ⟨hs, loc, locs', -, hrest, rfl⟩
    · obtain ⟨-, hdist, hpaths, -⟩ := generateSplits_spec _ _ _ _ hsplits
      refine List.forall_mem_cons.2 ⟨fun d hd => ?_, fun sc' hsc' d hd => ?_⟩
      · have : d.value ∈ sc.distributions.map (·.value) := List.mem_map_of_mem _ hd
        rw [hdist, map_value_generateDistributions, ← hpaths] at this
        simp only [List.map_append, List.mem_append]
        exact .inl this
      · simp only [List.map_append, List.mem_append]
        exact .inr (ih hrest sc' hsc' d hd)
    · intro sc' hsc' d hd
      exact List.mem_cons_of_mem _ (ih hrest sc' hsc' d hd)

theorem generateMatchLocations_paths
    (h : generateMatchLocations upstreamNamer crUpstreams variableNamer index scIndex cfgParams i sl
      ms = some (locs, scs, e)) :
    ∀ loc ∈ locs, MatchesLocationPath index i (scIndex + sl) (scIndex + e) loc.path := by
  induction ms generalizing i sl locs scs with
  | nil =>
    simp only [generateMatchLocations, Option.some.injEq, Prod.mk.injEq] at h
    simp [← h.1]
  | cons m ms ih =>
    rcases generateMatchLocations_cons _ _ _ _ h with
      ⟨hs, sc, slocs, locs', scs', hsplits, hrest, rfl, -⟩ | ⟨hs, loc, locs', hloc, hrest, rfl⟩
    · have hle' := generateMatchLocations_scEnd hrest
      intro loc hloc
      rcases List.mem_append.1 hloc with hloc | hloc
      · obtain ⟨j, hj⟩ := (generateSplits_paths _ _ _ _ hsplits).2 loc hloc
        exact .inl ⟨scIndex + sl, j, le_refl _, by omega, hj⟩
      · rcases ih hrest loc hloc with ⟨k, j, hk, hk', hp⟩ | ⟨i', hi', hp⟩
        · exact .inl ⟨k, j, by omega, hk', hp⟩
        · exact .inr ⟨i', by omega, hp⟩
    · obtain ⟨a, ha, rfl⟩ := generateActionLocation_eq_some hloc
      refine List.forall_mem_cons.2 ⟨.inr ⟨i, le_refl _,
        generateLocation_path_of_isNamedLocation (isNamedLocation_matchLocationPath _ _)⟩, ?_⟩
      intro loc hloc
      rcases ih hrest loc hloc with ⟨k, j, hk, hk', hp⟩ | ⟨i', hi', hp⟩
      · exact .inl ⟨k, j, hk, hk', hp⟩
      · exact .inr ⟨i', by omega, hp⟩

theorem generateMatchLocations_nodup
    (h : generateMatchLocations upstreamNamer crUpstreams variableNamer index scIndex cfgParams i sl
      ms = some (locs, scs, e)) :
    (locs.map (·.path)).Nodup := by
  induction ms generalizing i sl locs scs with
  | nil =>
    simp only [generateMatchLocations, Option.some.injEq, Prod.mk.injEq] at h
    simp [← h.1]
  | cons m ms ih =>
    rcases generateMatchLocations_cons _ _ _ _ h with
      ⟨hs, sc, slocs, locs', scs', hsplits, hrest, rfl, -⟩ | ⟨hs, loc, locs', hloc, hrest, rfl⟩
    · obtain ⟨hnodup, hsplit⟩ := generateSplits_paths _ _ _ _ hsplits
      rw [List.map_append, List.nodup_append]
      refine ⟨hnodup, ih hrest, fun p hp hp' => ?_⟩
      obtain ⟨sloc, hsloc, rfl⟩ := List.mem_map.1 hp
      obtain ⟨j, hj⟩ := hsplit sloc hsloc
      obtain ⟨loc, hloc, hpath⟩ := List.mem_map.1 hp'
      rw [hj] at hpath
      rcases generateMatchLocations_paths hrest loc hloc with ⟨k, j', hk, -, hp⟩ | ⟨i', -, hp⟩
      · have := (splitLocationPath_inj (hpath.symm.trans hp)).1
        omega
      · exact splitLocationPath_ne_matchLocationPath _ _ _ _ (hpath.symm.trans hp)
    · obtain ⟨a, ha, rfl⟩ := generateActionLocation_eq_some hloc
      rw [List.map_cons, List.nodup_cons,
        generateLocation_path_of_isNamedLocation (isNamedLocation_matchLocationPath _ _)]
      refine ⟨fun hp => ?_, ih hrest⟩
      obtain ⟨loc, hloc, hpath⟩ := List.mem_map.1 hp
      rcases generateMatchLocations_paths hrest loc hloc with ⟨k, j, -, -, hp⟩ | ⟨i', hi', hp⟩
      · exact splitLocationPath_ne_matchLocationPath _ _ _ _ (hp.symm.trans hpath)
      · have := (matchLocationPath_inj (hpath.symm.trans hp)).2
        omega

theorem generateMatchLocations_actions
    (h : generateMatchLocations upstreamNamer crUpstreams variableNamer index scIndex cfgParams i sl
      ms = some (locs, scs, e)) :
    ∀ loc ∈ locs, ∃ m ∈ ms, ∃ a, (m.action = some a ∨ ∃ s ∈ m.splits, s.action = some a) ∧
      LocationOfAction upstreamNamer crUpstreams cfgParams a loc := by
  induction ms generalizing i sl locs scs with
  | nil =>
    simp only [generateMatchLocations, Option.some.injEq, Prod.mk.injEq] at h
    simp [← h.1]
  | cons m ms ih =>
    have lift : ∀ {sl' : Nat} {locs' : List Version2.Location} {scs' : List Version2.SplitClient},
        generateMatchLocations upstreamNamer crUpstreams variableNamer index scIndex cfgParams
          (i + 1) sl' ms = some (locs', scs', e) →
        ∀ loc ∈ locs', ∃ m' ∈ m :: ms, ∃ a, (m'.action = some a ∨ ∃ s ∈ m'.splits, s.action = some a) ∧
          LocationOfAction upstreamNamer crUpstreams cfgParams a loc := fun hrest loc hloc => by
      obtain ⟨m', hm', a, ha, hl⟩ := ih hrest loc hloc
      exact ⟨m', List.mem_cons_of_mem _ hm', a, ha, hl⟩
    rcases generateMatchLocations_cons _ _ _ _ h with
      ⟨hs, sc, slocs, locs', scs', hsplits, hrest, rfl, -⟩ | ⟨hs, loc, locs', hloc, hrest, rfl⟩
    · obtain ⟨-, -, -, hacts⟩ := generateSplits_spec _ _ _ _ hsplits
      intro loc hloc
      rcases List.mem_append.1 hloc with hloc | hloc
      · obtain ⟨s, hs', a, ha, hl⟩ := hacts loc hloc
        exact ⟨m, by simp, a, .inr ⟨s, hs', ha⟩, hl⟩
      · exact lift hrest loc hloc
    · obtain ⟨a, ha, rfl⟩ := generateActionLocation_eq_some hloc
      exact List.forall_mem_cons.2 ⟨⟨m, by simp, a, .inl ha, _, rfl⟩, lift hrest⟩

theorem generateMainMapParameters_results
    (h : generateMatchLocations upstreamNamer crUpstreams variableNamer index scIndex cfgParams i sl
      ms = some (locs, scs, e)) :
    ∀ p ∈ (generateMainMapParameters variableNamer index scIndex i sl ms).2.1,
      (isNamedLocation p.result = true ∧ p.result ∈ locs.map (·.path)) ∨
        p.result ∈ scs.map (·.variable) := by
  induction ms generalizing i sl locs scs with
  | nil => simp [generateMainMapParameters]
  | cons m ms ih =>
    rw [generateMainMapParameters_cons]
    rcases generateMatchLocations_cons _ _ _ _ h with
      ⟨hs, sc, slocs, locs', scs', hsplits, hrest, rfl, rfl⟩ | ⟨hs, loc, locs', hloc, hrest, rfl⟩
    · simp only [hs, if_true, List.mem_cons, forall_eq_or_imp]
      refine ⟨.inr ?_, fun p hp => ?_⟩
      · simp [(generateSplits_spec _ _ _ _ hsplits).1]
      · rcases ih hrest p hp with hp | hp
        · exact .inl ⟨hp.1, by simp only [List.map_append, List.mem_append]; exact .inr hp.2⟩
        · exact .inr (List.mem_cons_of_mem _ hp)
    · simp only [hs, if_false, List.mem_cons, forall_eq_or_imp]
      refine ⟨.inl ?_, fun p hp => ?_⟩
      · obtain ⟨a, ha, rfl⟩ := generateActionLocation_eq_some hloc
        simp [generateLocation_path_of_isNamedLocation]
      · rcases ih hrest p hp with hp | hp
        · exact .inl ⟨hp.1, List.mem_cons_of_mem _ hp.2⟩
        · exact .inr hp

end

/-! ## The maps of the conditions -/

theorem generateParametersForMatchesRouteMap_results (matchedValue successfulResult : String) :
    ∀ p ∈ generateParametersForMatchesRouteMap matchedValue successfulResult,
      p.result = successfulResult ∨ p.result = "0" := by
  simp only [generateParametersForMatchesRouteMap]
  split_ifs <;> simp

theorem generateConditionMaps_variables (index i n j : Nat) (cs : List Condition) :
    (generateConditionMaps variableNamer index i n j cs).map (·.variable) =
      (List.range' j cs.length).map (variableNamer.getNameForVariableForMatchesRouteMap index i) := by
  induction cs generalizing j with
  | nil => rfl
  | cons c cs ih => simp [generateConditionMaps, ih, List.range'_succ]

theorem generateConditionMaps_results (index i n j : Nat) (cs : List Condition) :
    ∀ m ∈ generateConditionMaps variableNamer index i n j cs, ∀ p ∈ m.parameters,
      p.result = "0" ∨ p.result = "1" ∨
        ∃ j', j < j' ∧ j' < n ∧ p.result = variableNamer.getNameForVariableForMatchesRouteMap index i j' := by
  induction cs generalizing j with
  | nil => simp [generateConditionMaps]
  | cons c cs ih =>
    simp only [generateConditionMaps, List.mem_cons, forall_eq_or_imp]
    refine ⟨fun p hp => ?_, fun m hm p hp => ?_⟩
    · rcases generateParametersForMatchesRouteMap_results _ _ p hp with hp | hp
      · split_ifs at hp with hj
        · exact .inr (.inr ⟨j + 1, by omega, by omega, hp⟩)
        · exact .inr (.inl hp)
      · exact .inl hp
    · rcases ih (j + 1) m hm p hp with hp | hp | ⟨j', hj', hj'', hp⟩
      · exact .inl hp
      · exact .inr (.inl hp)
      · exact .inr (.inr ⟨j', by omega, hj'', hp⟩)

theorem generateMatchMaps_variables (index i : Nat) (ms : List Match) :
    ∀ m ∈ generateMatchMaps variableNamer index i ms,
      ∃ i' j, i ≤ i' ∧ m.variable = variableNamer.getNameForVariableForMatchesRouteMap index i' j := by
  induction ms generalizing i with
  | nil => simp [generateMatchMaps]
  | cons m ms ih =>
    intro mp hmp
    rcases List.mem_append.1 hmp with hmp | hmp
    · have := List.mem_map_of_mem (·.variable) hmp
      rw [generateConditionMaps_variables] at this
      obtain ⟨j, -, hj⟩ := List.mem_map.1 this
      exact ⟨i, j, le_refl _, hj.symm⟩
    · obtain ⟨i', j, hi', hj⟩ := ih (i + 1) mp hmp
      exact ⟨i', j, by omega, hj⟩

theorem generateMatchMaps_nodup (index i : Nat) (ms : List Match) :
    ((generateMatchMaps variableNamer index i ms).map (·.variable)).Nodup := by
  induction ms generalizing i with
  | nil => simp [generateMatchMaps]
  | cons m ms ih =>
    rw [generateMatchMaps, List.map_append, List.nodup_append, generateConditionMaps_variables]
    refine ⟨(List.nodup_range' _ _).map fun _ _ hj =>
      (VariableNamer.getNameForVariableForMatchesRouteMap_inj _ hj).2.2, ih (i + 1), ?_⟩
    intro v hv hv'
    obtain ⟨j, -, rfl⟩ := List.mem_map.1 hv
    obtain ⟨mp, hmp, hvar⟩ := List.mem_map.1 hv'
    obtain ⟨i', j', hi', hj'⟩ := generateMatchMaps_variables index (i + 1) ms mp hmp
    have := (VariableNamer.getNameForVariableForMatchesRouteMap_inj _ (hvar.symm.trans hj')).2.1
    omega

theorem generateMatchMaps_results (index i : Nat) (ms : List Match) :
    ∀ m ∈ generateMatchMaps variableNamer index i ms, ∀ p ∈ m.parameters,
      p.result = "0" ∨ p.result = "1" ∨
        p.result ∈ (generateMatchMaps variableNamer index i ms).map (·.variable) := by
  induction ms generalizing i with
  | nil => simp [generateMatchMaps]
  | cons m ms ih =>
    intro mp hmp p hp
    simp only [generateMatchMaps, List.map_append, List.mem_append] at hmp ⊢
    rcases hmp with hmp | hmp
    · rcases generateConditionMaps_results _ _ _ _ _ mp hmp p hp with hp | hp | ⟨j', -, hj', hp⟩
      · exact .inl hp
      · exact .inr (.inl hp)
      · refine .inr (.inr (.inl ?_))
        rw [generateConditionMaps_variables, hp]
        exact List.mem_map_of_mem _ (List.mem_range'_1.2 ⟨by omega, by omega⟩)
    · rcases ih (i + 1) mp hmp p hp with hp | hp | hp
      · exact .inl hp
      · exact .inr (.inl hp)
      · exact .inr (.inr (.inr hp))


/-! ## A matches route, a splits route -/


theorem generateMatchesConfig_eq_some {r : Route} {c : RoutingCfg}
    (h : generateMatchesConfig r upstreamNamer crUpstreams variableNamer index scIndex cfgParams =
      some c) :
    ∃ locs scs, generateMatchLocations upstreamNamer crUpstreams variableNamer index scIndex
        cfgParams 0 0 r.matches = some (locs, scs, r.matches.countP fun m => m.splits.length > 0) ∧
      c.maps = generateMatchMaps variableNamer index 0 r.matches ++
        [{ source := (generateMainMapParameters variableNamer index scIndex 0 0 r.matches).1
           «variable» := variableNamer.getNameForVariableForMatchesRouteMainMap index
           parameters := (generateMainMapParameters variableNamer index scIndex 0 0 r.matches).2.1 ++
             [{ value := "default"
                result := if r.splits.length > 0 then variableNamer.getNameForSplitClientVariable
                    (scIndex + r.matches.countP fun m => m.splits.length > 0)
                  else defaultLocationPath index }] }] ∧
      c.internalRedirectLocation =
        { path := r.path, destination := variableNamer.getNameForVariableForMatchesRouteMainMap index } ∧
      ((r.splits.length > 0 ∧ ∃ sc slocs, generateSplits r.splits upstreamNamer crUpstreams
          variableNamer (scIndex + r.matches.countP fun m => m.splits.length > 0) cfgParams =
            some (sc, slocs) ∧ c.locations = locs ++ slocs ∧ c.splitClients = scs ++ [sc]) ∨
       (¬ r.splits.length > 0 ∧ ∃ loc, generateActionLocation (defaultLocationPath index)
          upstreamNamer crUpstreams r.action cfgParams = some loc ∧
            c.locations = locs ++ [loc] ∧ c.splitClients = scs)) := by
  obtain ⟨⟨locs, scs, e⟩, hlocs⟩ : ∃ t, generateMatchLocations upstreamNamer crUpstreams
      variableNamer index scIndex cfgParams 0 0 r.matches = some t := by
    cases hl : generateMatchLocations upstreamNamer crUpstreams variableNamer index scIndex cfgParams
      0 0 r.matches with
    | none => simp [generateMatchesConfig, hl] at h
    | some t => exact ⟨t, rfl⟩
  have he := generateMatchLocations_scEnd hlocs
  simp only [Nat.zero_add] at he
  subst he
  refine ⟨locs, scs, hlocs, ?_⟩
  by_cases hs : r.splits.length > 0
  · cases hsp : generateSplits r.splits upstreamNamer crUpstreams variableNamer
      (scIndex + r.matches.countP fun m => m.splits.length > 0) cfgParams with
    | none => simp [generateMatchesConfig, hlocs, hs, hsp] at h
    | some p =>
      simp only [generateMatchesConfig, hlocs, hs, hsp, if_true, Option.bind_eq_bind,
        Option.some_bind, Option.pure_def, Option.some.injEq, generateMainMapParameters_scEnd,
        Nat.zero_add] at h
      subst h
      exact ⟨by simp [hs], rfl, .inl ⟨hs, p.1, p.2, rfl, rfl, rfl⟩⟩
  · cases hloc : generateActionLocation (defaultLocationPath index) upstreamNamer crUpstreams
      r.action cfgParams with
    | none => simp [generateMatchesConfig, hlocs, hs, hloc] at h
    | some loc =>
      simp only [generateMatchesConfig, hlocs, hs, hloc, if_false, Option.bind_eq_bind,
        Option.some_bind, Option.pure_def, Option.some.injEq] at h
      subst h
      exact ⟨by simp [hs], rfl, .inr ⟨hs, loc, rfl, rfl, rfl⟩⟩

theorem generateMatchesConfig_isSome {r : Route} (hm : ∀ m ∈ r.matches, HasActions m.action m.splits)
    (hd : HasActions r.action r.splits) :
    (generateMatchesConfig r upstreamNamer crUpstreams variableNamer index scIndex cfgParams).isSome := by
  obtain ⟨⟨locs, scs, e⟩, hlocs⟩ := Option.isSome_iff_exists.1
    (generateMatchLocations_isSome hm :
      (generateMatchLocations upstreamNamer crUpstreams variableNamer index scIndex cfgParams 0 0
        r.matches).isSome)
  by_cases hs : r.splits.length > 0
  · obtain ⟨slocs, hslocs⟩ := Option.isSome_iff_exists.1
      (generateSplitLocations_isSome upstreamNamer crUpstreams cfgParams (scIndex + e) (i := 0)
        (hd.1 hs))
    simp [generateMatchesConfig, hlocs, hs, generateSplits_eq, hslocs]
  · obtain ⟨a, ha⟩ := Option.isSome_iff_exists.1 (hd.2 hs)
    simp [generateMatchesConfig, hlocs, hs, ha]

/-- The maps of a matches route have distinct variables: its per-condition variables and
    its main variable. -/
theorem generateMatchesConfig_maps {r : Route} {c : RoutingCfg}
    (h : generateMatchesConfig r upstreamNamer crUpstreams variableNamer index scIndex cfgParams =
      some c) :
    (c.maps.map (·.variable)).Nodup ∧ ∀ m ∈ c.maps,
      (∃ i j, m.variable = variableNamer.getNameForVariableForMatchesRouteMap index i j) ∨
        m.variable = variableNamer.getNameForVariableForMatchesRouteMainMap index := by
  obtain ⟨-, -, -, hmaps, -, -⟩ := generateMatchesConfig_eq_some h
  simp only [hmaps, List.map_append, List.map_singleton, List.nodup_append, List.nodup_singleton,
    List.disjoint_singleton, List.mem_append, List.mem_singleton]
  refine ⟨⟨generateMatchMaps_nodup _ _ _, trivial, fun hmem => ?_⟩, ?_⟩
  · obtain ⟨m, hm', hvar⟩ := List.mem_map.1 hmem
    obtain ⟨i, j, -, hj⟩ := generateMatchMaps_variables _ _ _ m hm'
    exact VariableNamer.getNameForVariableForMatchesRouteMap_ne_mainMap _ _ _ _ _ (hj.symm.trans hvar)
  · rintro m (hm' | rfl)
    · obtain ⟨i, j, -, hj⟩ := generateMatchMaps_variables _ _ _ m hm'
      exact .inl ⟨i, j, hj⟩
    · exact .inr rfl

theorem generateDefaultSplitsConfig_eq_some {r : Route} {c : RoutingCfg}
    (h : generateDefaultSplitsConfig r upstreamNamer crUpstreams variableNamer scIndex cfgParams =
      some c) :
    ∃ sc locs, generateSplits r.splits upstreamNamer crUpstreams variableNamer scIndex cfgParams =
        some (sc, locs) ∧
      c = { splitClients := [sc], locations := locs
            internalRedirectLocation :=
              { path := r.path, destination := variableNamer.getNameForSplitClientVariable scIndex } } := by
  cases hsp : generateSplits r.splits upstreamNamer crUpstreams variableNamer scIndex cfgParams with
  | none => simp [generateDefaultSplitsConfig, hsp] at h
  | some p =>
    simp only [generateDefaultSplitsConfig, hsp, Option.bind_eq_bind, Option.some_bind,
      Option.pure_def, Option.some.injEq] at h
    exact ⟨p.1, p.2, rfl, h.symm⟩

end

/-! ## One route of the route loops -/

/-- What lowering one route adds to each accumulator of the route loops of
    `GenerateVirtualServerConfig`. -/
structure RoutePiece where
  maps : List Version2.Map := []
  splitClients : List Version2.SplitClient := []
  locations : List Version2.Location := []
  internalRedirectLocations : List Version2.InternalRedirectLocation := []

/-- The lowering of the route `r`, as the three branches of `addRoute` build it, where
    `index` matches routes and `scIndex` split clients precede it. -/
def routePiece (upstreamNamer : UpstreamNamer) (crUpstreams : String → V1.Upstream)
    (variableNamer : VariableNamer) (cfgParams : ConfigParams) (index scIndex : Nat) (r : Route) :
    Option RoutePiece :=
  if r.matches.length > 0 then
    (generateMatchesConfig r upstreamNamer crUpstreams variableNamer index scIndex cfgParams).map
      fun c => { maps := c.maps, splitClients := c.splitClients, locations := c.locations
                 internalRedirectLocations := [c.internalRedirectLocation] }
  else if r.splits.length > 0 then
    (generateDefaultSplitsConfig r upstreamNamer crUpstreams variableNamer scIndex cfgParams).map
      fun c => { splitClients := c.splitClients, locations := c.locations
                 internalRedirectLocations := [c.internalRedirectLocation] }
  else
    (generateActionLocation r.path upstreamNamer crUpstreams r.action cfgParams).map
      fun loc => { locations := [loc] }

/-- The accumulators after a piece is appended; `isMatches` counts one more matches route. -/
def RoutesState.append (st : RoutesState) (p : RoutePiece) (isMatches : Bool) : RoutesState :=
  { maps := st.maps ++ p.maps
    locations := st.locations ++ p.locations
    internalRedirectLocations := st.internalRedirectLocations ++ p.internalRedirectLocations
    splitClients := st.splitClients ++ p.splitClients
    matchesRoutes := st.matchesRoutes + if isMatches then 1 else 0 }

/-- **The body of the route loops appends the route's piece.** -/
theorem addRoute_eq (upstreamNamer : UpstreamNamer) (crUpstreams : String → V1.Upstream)
    (variableNamer : VariableNamer) (cfgParams : ConfigParams) (st : RoutesState) (r : Route) :
    addRoute upstreamNamer crUpstreams variableNamer cfgParams st r =
      (routePiece upstreamNamer crUpstreams variableNamer cfgParams st.matchesRoutes
        st.splitClients.length r).map (st.append · (r.matches.length > 0)) := by
  unfold addRoute routePiece
  split_ifs with hm hs
  · cases generateMatchesConfig r upstreamNamer crUpstreams variableNamer st.matchesRoutes
      st.splitClients.length cfgParams <;> simp [RoutesState.append, hm]
  · cases generateDefaultSplitsConfig r upstreamNamer crUpstreams variableNamer
      st.splitClients.length cfgParams <;> simp [RoutesState.append, hm]
  · cases generateActionLocation r.path upstreamNamer crUpstreams r.action cfgParams <;>
      simp [RoutesState.append, hm]

section
variable {upstreamNamer : UpstreamNamer} {crUpstreams : String → V1.Upstream}
  {variableNamer : VariableNamer} {cfgParams : ConfigParams} {index scIndex : Nat} {r : Route}
  {p : RoutePiece}

/-- The three shapes of a piece: a matches route, a route with splits, a route with an action. -/
theorem routePiece_cases
    (h : routePiece upstreamNamer crUpstreams variableNamer cfgParams index scIndex r = some p) :
    (r.matches.length > 0 ∧ ∃ c, generateMatchesConfig r upstreamNamer crUpstreams variableNamer
        index scIndex cfgParams = some c ∧
      p = { maps := c.maps, splitClients := c.splitClients, locations := c.locations
            internalRedirectLocations := [c.internalRedirectLocation] }) ∨
    (¬ r.matches.length > 0 ∧ r.splits.length > 0 ∧ ∃ sc locs, generateSplits r.splits upstreamNamer
        crUpstreams variableNamer scIndex cfgParams = some (sc, locs) ∧
      p = { splitClients := [sc], locations := locs
            internalRedirectLocations :=
              [{ path := r.path, destination := variableNamer.getNameForSplitClientVariable scIndex }] }) ∨
    (¬ r.matches.length > 0 ∧ ¬ r.splits.length > 0 ∧ ∃ a, r.action = some a ∧
      p = { locations := [generateLocation r.path (upstreamNamer.getNameForUpstream a.pass)
              (crUpstreams (upstreamNamer.getNameForUpstream a.pass)) a cfgParams] }) := by
  unfold routePiece at h
  split_ifs at h with hm hs
  · obtain ⟨c, hc, rfl⟩ := Option.map_eq_some'.1 h
    exact .inl ⟨hm, c, hc, rfl⟩
  · obtain ⟨c, hc, rfl⟩ := Option.map_eq_some'.1 h
    obtain ⟨sc, locs, hsp, rfl⟩ := generateDefaultSplitsConfig_eq_some hc
    exact .inr (.inl ⟨hm, hs, sc, locs, hsp, rfl⟩)
  · obtain ⟨loc, hloc, rfl⟩ := Option.map_eq_some'.1 h
    obtain ⟨a, ha, hloc⟩ := generateActionLocation_eq_some hloc
    exact .inr (.inr ⟨hm, hs, a, ha, by rw [hloc]⟩)

/-- **The lowering of a valid route exists**: it dereferences no nil action. -/
theorem routePiece_isSome {upstreamNames : List String} (hv : RouteValid upstreamNames r)
    (hone : ExactlyOne [r.action.isSome, r.splits ≠ []]) :
    (routePiece upstreamNamer crUpstreams variableNamer cfgParams index scIndex r).isSome := by
  have hd := hasActions_of_splitsValid hv.splits hone
  unfold routePiece
  split_ifs with hm hs
  · rw [Option.isSome_map']
    exact generateMatchesConfig_isSome (fun m hm' =>
      hasActions_of_splitsValid (hv.matches_valid m hm').splits (hv.matches_valid m hm').exactly_one) hd
  · obtain ⟨slocs, hslocs⟩ := Option.isSome_iff_exists.1
      (generateSplitLocations_isSome upstreamNamer crUpstreams cfgParams scIndex (i := 0) (hd.1 hs))
    simp [generateDefaultSplitsConfig, generateSplits_eq, hslocs]
  · obtain ⟨a, ha⟩ := Option.isSome_iff_exists.1 (hd.2 hs)
    simp [ha]

theorem routePiece_weights {upstreamNames : List String} (hv : RouteValid upstreamNames r)
    (h : routePiece upstreamNamer crUpstreams variableNamer cfgParams index scIndex r = some p) :
    ∀ sc ∈ p.splitClients, SplitClientWeightsValid sc := by
  rcases routePiece_cases h with ⟨-, c, hc, rfl⟩ | ⟨-, hs, sc, locs, hsp, rfl⟩ | ⟨-, -, a, -, rfl⟩
  · obtain ⟨locs, scs, hlocs, -, -, hdef⟩ := generateMatchesConfig_eq_some hc
    have hscs := generateMatchLocations_weights hv.matches_valid hlocs
    rcases hdef with ⟨hs, sc, slocs, hsp, -, hsc⟩ | ⟨-, loc, -, -, hsc⟩
    · simp only [hsc, List.mem_append, List.mem_singleton]
      rintro sc' (hsc' | rfl)
      · exact hscs sc' hsc'
      · exact weightsValid_of_splitsValid (hv.splits (List.ne_nil_of_length_pos hs))
          (generateSplits_spec _ _ _ _ hsp).2.1
    · simpa [hsc] using hscs
  · simp only [List.mem_singleton, forall_eq]
    exact weightsValid_of_splitsValid (hv.splits (List.ne_nil_of_length_pos hs))
      (generateSplits_spec _ _ _ _ hsp).2.1
  · simp

theorem routePiece_variables
    (h : routePiece upstreamNamer crUpstreams variableNamer cfgParams index scIndex r = some p) :
    p.splitClients.map (·.variable) =
      (List.range' scIndex p.splitClients.length).map variableNamer.getNameForSplitClientVariable := by
  rcases routePiece_cases h with ⟨-, c, hc, rfl⟩ | ⟨-, hs, sc, locs, hsp, rfl⟩ | ⟨-, -, a, -, rfl⟩
  · obtain ⟨locs, scs, hlocs, -, -, hdef⟩ := generateMatchesConfig_eq_some hc
    have hvars := generateMatchLocations_variables hlocs
    have hlen : scs.length = r.matches.countP fun m => m.splits.length > 0 := by
      simpa using congrArg List.length hvars
    simp only [Nat.add_zero] at hvars
    rcases hdef with ⟨-, sc, slocs, hsp, -, hsc⟩ | ⟨-, loc, -, -, hsc⟩
    · simp [hsc, hvars, hlen, List.range'_1_concat, (generateSplits_spec _ _ _ _ hsp).1]
    · simp [hsc, hvars, hlen]
  · simp [(generateSplits_spec _ _ _ _ hsp).1]
  · rfl

theorem routePiece_maps
    (h : routePiece upstreamNamer crUpstreams variableNamer cfgParams index scIndex r = some p) :
    (p.maps.map (·.variable)).Nodup ∧ ∀ m ∈ p.maps, r.matches.length > 0 ∧
      ((∃ i j, m.variable = variableNamer.getNameForVariableForMatchesRouteMap index i j) ∨
        m.variable = variableNamer.getNameForVariableForMatchesRouteMainMap index) := by
  rcases routePiece_cases h with ⟨hm, c, hc, rfl⟩ | ⟨-, -, sc, locs, -, rfl⟩ | ⟨-, -, a, -, rfl⟩
  · obtain ⟨hnodup, hvars⟩ := generateMatchesConfig_maps hc
    exact ⟨hnodup, fun m hm' => ⟨hm, hvars m hm'⟩⟩
  · simp
  · simp

/-- A route path never names a location: it starts with `/`, `~` or `=`, and so does its
    location path. -/
theorem isNamedLocation_of_isRoutePath {path : String} (h : IsRoutePath path) :
    isNamedLocation path = false ∧ isNamedLocation (generatePath path) = false := by
  have hpath : isNamedLocation path = false := by
    rcases h with h | h | h <;>
    · obtain ⟨t, ht⟩ := (Go.hasPrefix_iff _ _).1 h
      simp [isNamedLocation, Go.hasPrefix, ← ht, List.isPrefixOf]
  refine ⟨hpath, ?_⟩
  unfold generatePath
  split_ifs
  · simp [isNamedLocation, Go.hasPrefix, List.isPrefixOf]
  · simp [isNamedLocation, Go.hasPrefix, List.isPrefixOf]
  · exact hpath

theorem routePiece_paths {upstreamNames : List String} (hv : RouteValid upstreamNames r)
    (h : routePiece upstreamNamer crUpstreams variableNamer cfgParams index scIndex r = some p) :
    (p.locations.map (·.path)).Nodup ∧ ∀ loc ∈ p.locations,
      (∃ k j, scIndex ≤ k ∧ k < scIndex + p.splitClients.length ∧ loc.path = splitLocationPath k j) ∨
      (r.matches.length > 0 ∧
        ((∃ i, loc.path = matchLocationPath index i) ∨ loc.path = defaultLocationPath index)) ∨
      (¬ r.matches.length > 0 ∧ ¬ r.splits.length > 0 ∧ isNamedLocation loc.path = false ∧
        (loc.path = r.path ∨ loc.path = generatePath r.path)) := by
  rcases routePiece_cases h with ⟨hm, c, hc, rfl⟩ | ⟨-, -, sc, locs, hsp, rfl⟩ |
    ⟨hm, hs, a, -, rfl⟩
  · obtain ⟨locs, scs, hlocs, -, -, hdef⟩ := generateMatchesConfig_eq_some hc
    have hnodup := generateMatchLocations_nodup hlocs
    have hpaths := generateMatchLocations_paths hlocs
    have hlen : scs.length = r.matches.countP fun m => m.splits.length > 0 := by
      simpa using congrArg List.length (generateMatchLocations_variables hlocs)
    have lift : ∀ loc ∈ locs, (∃ k j, scIndex ≤ k ∧ k < scIndex + scs.length ∧
        loc.path = splitLocationPath k j) ∨ ∃ i, loc.path = matchLocationPath index i := by
      intro loc hloc
      rcases hpaths loc hloc with ⟨k, j, hk, hk', hp⟩ | ⟨i, -, hp⟩
      · exact .inl ⟨k, j, by omega, by omega, hp⟩
      · exact .inr ⟨i, hp⟩
    rcases hdef with ⟨-, sc, slocs, hsp, hlocs', hsc⟩ | ⟨-, loc, hloc, hlocs', hsc⟩
    · obtain ⟨hsnodup, hsplit⟩ := generateSplits_paths _ _ _ _ hsp
      simp only [hlocs', hsc]
      refine ⟨?_, fun loc hloc => ?_⟩
      · rw [List.map_append, List.nodup_append]
        refine ⟨hnodup, hsnodup, fun q hq hq' => ?_⟩
        obtain ⟨sloc, hsloc, rfl⟩ := List.mem_map.1 hq'
        obtain ⟨j, hj⟩ := hsplit sloc hsloc
        obtain ⟨loc, hloc, hq⟩ := List.mem_map.1 hq
        rw [hj] at hq
        rcases hpaths loc hloc with ⟨k, j', -, hk', hp⟩ | ⟨i, -, hp⟩
        · have := (splitLocationPath_inj (hp.symm.trans hq)).1
          omega
        · exact splitLocationPath_ne_matchLocationPath _ _ _ _ ((hp.symm.trans hq).symm)
      · rcases List.mem_append.1 hloc with hloc | hloc
        · rcases lift loc hloc with ⟨k, j, hk, hk', hp⟩ | hp
          · exact .inl ⟨k, j, hk, by simp; omega, hp⟩
          · exact .inr (.inl ⟨hm, .inl hp⟩)
        · obtain ⟨j, hj⟩ := hsplit loc hloc
          exact .inl ⟨_, j, by omega, by simp [hlen], hj⟩
    · obtain ⟨a, ha, rfl⟩ := generateActionLocation_eq_some hloc
      have hdp : (generateLocation (defaultLocationPath index) (upstreamNamer.getNameForUpstream
          a.pass) (crUpstreams (upstreamNamer.getNameForUpstream a.pass)) a cfgParams).path =
          defaultLocationPath index :=
        generateLocation_path_of_isNamedLocation (isNamedLocation_defaultLocationPath index)
      simp only [hlocs', hsc]
      refine ⟨?_, fun loc hloc => ?_⟩
      · rw [List.map_append, List.nodup_append]
        refine ⟨hnodup, List.nodup_singleton _, ?_⟩
        simp only [List.map_singleton, List.disjoint_singleton, hdp]
        intro hmem
        obtain ⟨loc, hloc, hq⟩ := List.mem_map.1 hmem
        rcases hpaths loc hloc with ⟨k, j, -, -, hp⟩ | ⟨i, -, hp⟩
        · exact splitLocationPath_ne_defaultLocationPath _ _ _ (hp.symm.trans hq)
        · exact matchLocationPath_ne_defaultLocationPath _ _ _ (hp.symm.trans hq)
      · rcases List.mem_append.1 hloc with hloc | hloc
        · rcases lift loc hloc with hp | hp
          · exact .inl hp
          · exact .inr (.inl ⟨hm, .inl hp⟩)
        · rw [List.mem_singleton.1 hloc]
          exact .inr (.inl ⟨hm, .inr hdp⟩)
  · obtain ⟨hnodup, hsplit⟩ := generateSplits_paths _ _ _ _ hsp
    refine ⟨hnodup, fun loc hloc => ?_⟩
    obtain ⟨j, hj⟩ := hsplit loc hloc
    exact .inl ⟨scIndex, j, le_refl _, by simp, hj⟩
  · refine ⟨List.nodup_singleton _, fun loc hloc => .inr (.inr ⟨hm, hs, ?_⟩)⟩
    rw [List.mem_singleton.1 hloc, generateLocation_path]
    have := isNamedLocation_of_isRoutePath hv.path
    split_ifs <;> simp [this]

theorem routePiece_distributions
    (h : routePiece upstreamNamer crUpstreams variableNamer cfgParams index scIndex r = some p) :
    ∀ sc ∈ p.splitClients, ∀ d ∈ sc.distributions, d.value ∈ p.locations.map (·.path) := by
  rcases routePiece_cases h with ⟨-, c, hc, rfl⟩ | ⟨-, -, sc, locs, hsp, rfl⟩ | ⟨-, -, a, -, rfl⟩
  · obtain ⟨locs, scs, hlocs, -, -, hdef⟩ := generateMatchesConfig_eq_some hc
    have hscs := generateMatchLocations_distributions hlocs
    rcases hdef with ⟨-, sc, slocs, hsp, hlocs', hsc⟩ | ⟨-, loc, -, hlocs', hsc⟩
    · simp only [hlocs', hsc, List.mem_append, List.mem_singleton, List.map_append]
      rintro sc' (hsc' | rfl) d hd
      · exact .inl (hscs sc' hsc' d hd)
      · exact .inr (generateSplits_values _ _ _ _ hsp ▸ List.mem_map_of_mem _ hd)
    · simp only [hlocs', hsc, List.map_append, List.mem_append]
      exact fun sc' hsc' d hd => .inl (hscs sc' hsc' d hd)
  · simp only [List.mem_singleton, forall_eq]
    exact fun d hd => generateSplits_values _ _ _ _ hsp ▸ List.mem_map_of_mem _ hd
  · simp

theorem routePiece_results
    (h : routePiece upstreamNamer crUpstreams variableNamer cfgParams index scIndex r = some p) :
    ∀ m ∈ p.maps,
      (m.variable = variableNamer.getNameForVariableForMatchesRouteMainMap index ∧
        ∀ q ∈ m.parameters, (isNamedLocation q.result = true ∧ q.result ∈ p.locations.map (·.path)) ∨
          q.result ∈ p.splitClients.map (·.variable)) ∨
      ((∃ i j, m.variable = variableNamer.getNameForVariableForMatchesRouteMap index i j) ∧
        ∀ q ∈ m.parameters, q.result = "0" ∨ q.result = "1" ∨ q.result ∈ p.maps.map (·.variable)) := by
  rcases routePiece_cases h with ⟨-, c, hc, rfl⟩ | ⟨-, -, sc, locs, hsp, rfl⟩ | ⟨-, -, a, -, rfl⟩
  · obtain ⟨locs, scs, hlocs, hmaps, -, hdef⟩ := generateMatchesConfig_eq_some hc
    have hmain := generateMainMapParameters_results hlocs
    have hlocs_sub : ∀ x ∈ locs.map (·.path), x ∈ c.locations.map (·.path) := fun x hx => by
      rcases hdef with ⟨-, _, _, -, hl, -⟩ | ⟨-, _, -, hl, -⟩ <;>
        exact hl ▸ List.map_append _ _ _ ▸ List.mem_append_left _ hx
    have hscs_sub : ∀ x ∈ scs.map (·.variable), x ∈ c.splitClients.map (·.variable) := fun x hx => by
      rcases hdef with ⟨-, _, _, -, -, hl⟩ | ⟨-, _, -, -, hl⟩
      · exact hl ▸ List.map_append _ _ _ ▸ List.mem_append_left _ hx
      · exact hl ▸ hx
    simp only [hmaps, List.mem_append, List.mem_singleton]
    rintro m (hm | rfl)
    · obtain ⟨i', j, -, hj⟩ := generateMatchMaps_variables _ _ _ m hm
      refine .inr ⟨⟨i', j, hj⟩, fun q hq => ?_⟩
      rcases generateMatchMaps_results _ _ _ m hm q hq with hq | hq | hq
      · exact .inl hq
      · exact .inr (.inl hq)
      · exact .inr (.inr (by simp only [List.map_append, List.mem_append]; exact .inl hq))
    · refine .inl ⟨rfl, fun q hq => ?_⟩
      simp only [List.mem_append, List.mem_singleton] at hq
      rcases hq with hq | rfl
      · rcases hmain q hq with hq | hq
        · exact .inl ⟨hq.1, hlocs_sub _ hq.2⟩
        · exact .inr (hscs_sub _ hq)
      · rcases hdef with ⟨hs, sc, slocs, hsp, -, hsc⟩ | ⟨hs, loc, hloc, hl, -⟩
        · refine .inr ?_
          simp [hs, hsc, (generateSplits_spec _ _ _ _ hsp).1]
        · refine .inl ?_
          obtain ⟨a, ha, hloc⟩ := generateActionLocation_eq_some hloc
          simp [hs, hl, hloc, generateLocation_path_of_isNamedLocation]
  · simp
  · simp

theorem routePiece_destinations
    (h : routePiece upstreamNamer crUpstreams variableNamer cfgParams index scIndex r = some p) :
    ∀ irl ∈ p.internalRedirectLocations, irl.path = r.path ∧
      (irl.destination ∈ p.maps.map (·.variable) ∨ irl.destination ∈ p.splitClients.map (·.variable)) := by
  rcases routePiece_cases h with ⟨-, c, hc, rfl⟩ | ⟨-, -, sc, locs, hsp, rfl⟩ | ⟨-, -, a, -, rfl⟩
  · obtain ⟨-, -, -, hmaps, hirl, -⟩ := generateMatchesConfig_eq_some hc
    simp [hmaps, hirl]
  · simp [(generateSplits_spec _ _ _ _ hsp).1]
  · simp

theorem routePiece_actions
    (h : routePiece upstreamNamer crUpstreams variableNamer cfgParams index scIndex r = some p) :
    ∀ loc ∈ p.locations, ∃ a, ActionOfRoute r a ∧
      LocationOfAction upstreamNamer crUpstreams cfgParams a loc := by
  have ofSplits : ∀ {k : Nat} {sc : Version2.SplitClient} {locs : List Version2.Location},
      generateSplits r.splits upstreamNamer crUpstreams variableNamer k cfgParams = some (sc, locs) →
      ∀ loc ∈ locs, ∃ a, ActionOfRoute r a ∧ LocationOfAction upstreamNamer crUpstreams cfgParams a loc :=
    fun hsp loc hloc => by
      obtain ⟨s, hs, a, ha, hl⟩ := (generateSplits_spec _ _ _ _ hsp).2.2.2 loc hloc
      exact ⟨a, .inr (.inl ⟨s, hs, ha⟩), hl⟩
  rcases routePiece_cases h with ⟨-, c, hc, rfl⟩ | ⟨-, -, sc, locs, hsp, rfl⟩ | ⟨-, -, a, ha, rfl⟩
  · obtain ⟨locs, scs, hlocs, -, -, hdef⟩ := generateMatchesConfig_eq_some hc
    have hmatches : ∀ loc ∈ locs, ∃ a, ActionOfRoute r a ∧
        LocationOfAction upstreamNamer crUpstreams cfgParams a loc := fun loc hloc => by
      obtain ⟨m, hm, a, ha, hl⟩ := generateMatchLocations_actions hlocs loc hloc
      exact ⟨a, .inr (.inr ⟨m, hm, ha⟩), hl⟩
    rcases hdef with ⟨-, sc, slocs, hsp, hl, -⟩ | ⟨-, loc, hloc, hl, -⟩
    · simp only [hl, List.mem_append]
      rintro loc (hloc | hloc)
      · exact hmatches loc hloc
      · exact ofSplits hsp loc hloc
    · obtain ⟨a, ha, hloc⟩ := generateActionLocation_eq_some hloc
      simp only [hl, List.mem_append, List.mem_singleton]
      rintro loc' (hloc' | rfl)
      · exact hmatches loc' hloc'
      · exact ⟨a, .inl ha, _, hloc⟩
  · exact ofSplits hsp
  · simp only [List.mem_singleton, forall_eq]
    exact ⟨a, .inl ha, _, rfl⟩

end

end KubernetesIngress.Configs
