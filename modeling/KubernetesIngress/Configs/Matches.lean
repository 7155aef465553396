import KubernetesIngress.Configs.Routing
import KubernetesIngress.Nginx.Map

set_option autoImplicit false

/-! # What the maps of a matches route compute

`generateMatchesConfig` lowers the matches of a route to NGINX `map` blocks. Each match
becomes a chain of maps, one per condition: a condition's map gives the next condition's
variable when the condition holds and `0` when it fails, and the last one gives `1`. The main
map concatenates the first variable of every chain into a string of `0`s and `1`s, and its
keys `~^1`, `~^01`, `~^001`, … pick the first `1`; its `default` is the route's own target.

`matchesRouteTarget` says where a request should go: to the target of the first match all of
whose conditions hold, or to the route's default. The main theorem,
`evalVariable_generateMatchesConfig`, evaluates the main variable over the generated maps
(`Nginx.evalVariable`) and gets that target, for every valid route and every request. -/

namespace KubernetesIngress.Configs

open V1 Validation Nginx

/-! ## Where a request should go -/

/-- Whether a condition with value `matchedValue` holds for a value of its source: the value
    is `matchedValue`, or, for `matchedValue = !w`, is not `w`. -/
def valueHolds (matchedValue value : String) : Bool :=
  match matchedValue.data with
  | '!' :: w => value != String.mk w
  | _ => value == matchedValue

/-- Whether condition `c` holds in a request whose variables have the values `env`. -/
def conditionHolds (env : String → String) (c : Condition) : Bool :=
  valueHolds c.value (env (getNameForSourceForMatchesRouteMapFromCondition c))

/-- Whether all conditions of a match hold. -/
def matchHolds (env : String → String) (m : Match) : Bool :=
  m.conditions.all (conditionHolds env)

/-- The target of match `k` of matches route `index`: its named location, or, for a match
    with splits, the split client numbered after those of the matches before it. -/
def matchTarget (variableNamer : VariableNamer) (index scIndex : Nat) (ms : List Match)
    (k : Nat) : String :=
  if (ms.getD k {}).splits ≠ [] then
    variableNamer.getNameForSplitClientVariable (scIndex + (ms.take k).countP (·.splits ≠ []))
  else matchLocationPath index k

/-- The target of matches route `index` when no match applies: its default location, or,
    for a route with splits, the split client numbered after those of all its matches. -/
def defaultTarget (variableNamer : VariableNamer) (index scIndex : Nat) (r : Route) : String :=
  if r.splits ≠ [] then
    variableNamer.getNameForSplitClientVariable (scIndex + r.matches.countP (·.splits ≠ []))
  else defaultLocationPath index

/-- **Where a matches route sends a request**: to the target of its first match whose
    conditions all hold, else to its default target. -/
def matchesRouteTarget (env : String → String) (variableNamer : VariableNamer)
    (index scIndex : Nat) (r : Route) : String :=
  match r.matches.findIdx? (matchHolds env) with
  | some k => matchTarget variableNamer index scIndex r.matches k
  | none => defaultTarget variableNamer index scIndex r

/-! ## The keys the generator writes -/

/-- The key of a condition value stands for the value without its `!`. -/
theorem keyMatches_quoted (w value : String) :
    let key := if w ∈ specialMapParameters then "\\" ++ w else "\"" ++ w ++ "\""
    key ≠ "default" ∧ keyMatches key value = (value == w) := by
  intro key
  have hkey : keyLiteral key = w ∧ key.data.head? ≠ some '~' ∧ key.data.head? ≠ some 'd' := by
    by_cases hw : w ∈ specialMapParameters <;>
      simp [key, hw, keyLiteral, List.dropLast_append_of_ne_nil]
  refine ⟨fun h => by simp [h] at hkey, ?_⟩
  unfold keyMatches
  split
  · rename_i pattern hdata; simp [hdata] at hkey
  · rw [hkey.1, Bool.beq_comm]

/-- A condition value `!w` is negated and keyed by `w`; any other value is keyed by itself. -/
theorem generateValueForMatchesRouteMap_eq (matchedValue : String) :
    ∃ w, (generateValueForMatchesRouteMap matchedValue).1 =
        (if w ∈ specialMapParameters then "\\" ++ w else "\"" ++ w ++ "\"") ∧
      ∀ value, valueHolds matchedValue value =
        ((value == w) != (generateValueForMatchesRouteMap matchedValue).2) := by
  obtain ⟨data⟩ := matchedValue
  rcases data with _ | ⟨ch, rest⟩
  · exact ⟨"", rfl, fun value => by simp [valueHolds, generateValueForMatchesRouteMap]⟩
  · by_cases hch : ch = '!'
    · subst hch
      refine ⟨⟨rest⟩, ?_, fun value => ?_⟩ <;>
        simp only [generateValueForMatchesRouteMap, valueHolds, if_true] <;> split_ifs <;>
        first | rfl | simp [bne]
    · refine ⟨⟨ch :: rest⟩, ?_, fun value => ?_⟩ <;>
        simp only [generateValueForMatchesRouteMap, valueHolds, hch, if_false]
      · split_ifs <;> rfl
      · split
        · simp_all
        · split_ifs <;> simp

/-- **A condition's map** gives its successful result exactly when the condition holds. -/
theorem selectResult_generateParametersForMatchesRouteMap
    (matchedValue successfulResult value : String) :
    selectResult (generateParametersForMatchesRouteMap matchedValue successfulResult) value =
      if valueHolds matchedValue value then successfulResult else "0" := by
  obtain ⟨w, hkey, hholds⟩ := generateValueForMatchesRouteMap_eq matchedValue
  obtain ⟨hne, hmatch⟩ := keyMatches_quoted w value
  rw [hholds]
  rcases hv : generateValueForMatchesRouteMap matchedValue with ⟨key, isNegative⟩
  rw [hv] at hkey
  subst hkey
  simp only [generateParametersForMatchesRouteMap, hv]
  rw [← List.singleton_append, selectResult_append_default (by simpa using hne)]
  by_cases hw : value = w <;> cases isNegative <;> simp_all

/-! ## References and variables -/

/-- The maps of matches route `index`: distinct variables, each the variable of one of its
    conditions or its main variable. -/
structure MatchesRouteMaps (variableNamer : VariableNamer) (index : Nat)
    (maps : List Version2.Map) : Prop where
  nodup : (maps.map (·.variable)).Nodup
  kind : ∀ m ∈ maps,
    (∃ i j, m.variable = variableNamer.getNameForVariableForMatchesRouteMap index i j) ∨
      m.variable = variableNamer.getNameForVariableForMatchesRouteMainMap index

/-- `$` and a name without `$` that does not start with `v`: one reference, and none of the
    generated variables, which all start with `$v`. -/
private theorem requestReference {v : String} {c : Char} {name : List Char}
    (hv : v.data = '$' :: c :: name) (hc : c ≠ 'v') (hname : '$' ∉ c :: name) :
    IsReference v ∧ ∀ t, v.data ≠ '$' :: 'v' :: t :=
  ⟨⟨_, hv, hname⟩, fun _ h => hc (List.cons.inj (List.cons.inj (hv.symm.trans h)).2).1⟩

private theorem dollar_not_mem_of_chars {s : List Char}
    (h : ∀ x ∈ s, x.isAlphanum = true ∨ x = '-' ∨ x = '_') : '$' ∉ s := fun hm => by
  rcases h _ hm with h | h | h <;> revert h <;> decide

/-- **The source of a valid condition** is one reference, to a variable of the request and
    never to one of the generated maps. -/
theorem conditionSource_of_valid {c : Condition} (h : ConditionValid c) :
    IsReference (getNameForSourceForMatchesRouteMapFromCondition c) ∧
      ∀ t, (getNameForSourceForMatchesRouteMapFromCondition c).data ≠ '$' :: 'v' :: t := by
  have hword : ∀ s : List Char, isNameOfWordChars s = true → '$' ∉ s := fun _ hs =>
    Go.not_mem_of_all (Bool.and_eq_true_iff.1 hs).2 (by decide)
  unfold getNameForSourceForMatchesRouteMapFromCondition
  split_ifs with hheader hcookie hargument
  · have hchars := h.header hheader
    simp only [isHTTPHeaderName, Bool.and_eq_true, List.all_eq_true, Bool.or_eq_true,
      decide_eq_true_eq, ite_eq_left_iff, reduceCtorEq, imp_false, not_not] at hchars
    have hd := dollar_not_mem_of_chars fun x hx => (hchars.2 x hx).imp_right .inl
    have hd' : '$' ∉ (Go.replaceAll c.header '-' '_').data := by
      simp only [Go.data_replaceAll, List.mem_map, not_exists, not_and]
      intro x hx
      split_ifs
      · decide
      · exact fun e => hd (e ▸ hx)
    refine requestReference rfl (by decide) ?_
    simpa using hd'
  · refine requestReference rfl (by decide) ?_
    simpa using hword _ (by simpa [isCookieName] using h.cookie hcookie)
  · refine requestReference rfl (by decide) ?_
    simpa using hword _ (by simpa [isArgumentName] using h.argument hargument)
  · have hvariable : c.variable ≠ "" := by
      have := h.exactly_one
      simp_all [ExactlyOne]
    have hmem := h.variable_name hvariable
    simp only [validVariableNames, List.mem_cons, List.mem_singleton, List.not_mem_nil,
      or_false] at hmem
    rcases hmem with h | h | h | h | h | h | h | h | h | h | h <;> rw [h] <;>
      exact requestReference rfl (by decide) (by decide)

section
variable {variableNamer : VariableNamer} {index : Nat} {maps : List Version2.Map}

/-- A string that does not start with `$v` is no variable of the maps. -/
theorem MatchesRouteMaps.not_mem_of_data (hm : MatchesRouteMaps variableNamer index maps)
    {v : String} (hv : ∀ t, v.data ≠ '$' :: 'v' :: t) : v ∉ maps.map (·.variable) := by
  intro hmem
  obtain ⟨m, hm', rfl⟩ := List.mem_map.1 hmem
  rcases hm.kind m hm' with ⟨i, j, h⟩ | h <;> rw [h] at hv
  · exact hv _ ((variableNamer.data_getNameForVariableForMatchesRouteMap _ _ _).trans rfl)
  · exact hv _ ((variableNamer.data_getNameForVariableForMatchesRouteMainMap _).trans rfl)

/-- A split client variable is no variable of the maps. -/
theorem MatchesRouteMaps.splitVariable_not_mem (hm : MatchesRouteMaps variableNamer index maps)
    (k : Nat) : variableNamer.getNameForSplitClientVariable k ∉ maps.map (·.variable) := by
  intro hmem
  obtain ⟨m, hm', hv⟩ := List.mem_map.1 hmem
  rcases hm.kind m hm' with ⟨i, j, h⟩ | h
  · exact variableNamer.getNameForSplitClientVariable_ne_matchesRouteMap k _ _ _ (hv.symm.trans h)
  · exact variableNamer.getNameForSplitClientVariable_ne_mainMap k _ (hv.symm.trans h)

/-- With a safe name without `$`, the variable of a condition is one reference. -/
theorem isReference_getNameForVariableForMatchesRouteMap
    (hsafe : '$' ∉ variableNamer.safeNsName.data) (m k c : Nat) :
    IsReference (variableNamer.getNameForVariableForMatchesRouteMap m k c) := by
  have hdigits : ∀ n, '$' ∉ Nat.toDigits 10 n := fun n => by
    simpa using Go.not_mem_toString (c := '$') rfl n
  refine ⟨_, (variableNamer.data_getNameForVariableForMatchesRouteMap m k c).trans rfl, ?_⟩
  simp [hsafe, hdigits]

end

/-! ## The chain of a match's conditions -/

section
variable {variableNamer : VariableNamer} {index : Nat} {maps : List Version2.Map}
  {env : String → String}

/-- **The chain of a match's conditions**: with enough fuel, the variable of condition `j`
    evaluates to `1` when it and every condition after it hold, and to `0` otherwise. -/
theorem evalVariable_generateConditionMaps (hm : MatchesRouteMaps variableNamer index maps)
    {i n : Nat} : ∀ (cs : List Condition) (j fuel : Nat), cs ≠ [] → j + cs.length = n →
      (∀ c ∈ cs, ConditionValid c) →
      (∀ M ∈ generateConditionMaps variableNamer index i n j cs, M ∈ maps) → cs.length < fuel →
      evalVariable maps env fuel (variableNamer.getNameForVariableForMatchesRouteMap index i j) =
        some (if cs.all (conditionHolds env) then "1" else "0")
  | [], _, _, hne, _, _, _, _ => absurd rfl hne
  | _ :: _, _, 0, _, _, _, _, hfuel => absurd hfuel (Nat.not_lt_zero _)
  | c :: rest, j, fuel + 1, _, hlen, hvalid, hmaps, hfuel => by
    simp only [List.forall_mem_cons] at hvalid
    simp only [generateConditionMaps, List.forall_mem_cons] at hmaps
    obtain ⟨hsource, hnot⟩ := conditionSource_of_valid hvalid.1
    obtain ⟨f, rfl⟩ : ∃ f, fuel = f + 1 := ⟨fuel - 1, by simp at hfuel; omega⟩
    have href : sourceReferences (getNameForSourceForMatchesRouteMapFromCondition c) =
        [getNameForSourceForMatchesRouteMapFromCondition c] := by
      simpa using sourceReferences_concatValues
        (by simpa using hsource : ∀ v ∈ [getNameForSourceForMatchesRouteMapFromCondition c],
          IsReference v)
    have hvalues : (sourceReferences (getNameForSourceForMatchesRouteMapFromCondition c)).mapM
        (evalVariable maps env (f + 1)) =
          some [env (getNameForSourceForMatchesRouteMapFromCondition c)] := by
      rw [href, List.mapM_cons, evalVariable_of_not_mem (hm.not_mem_of_data hnot)]
      rfl
    rw [evalVariable_of_mem hm.nodup hmaps.1 hvalues
      (show _ = if conditionHolds env c then _ else "0" by
        simp only [concatValues_cons, concatValues_nil, String.append_empty,
          selectResult_generateParametersForMatchesRouteMap]; rfl)]
    have hzero : "0" ∉ maps.map (·.variable) := hm.not_mem_of_data (by simp)
    by_cases hc : conditionHolds env c
    · rcases rest with _ | ⟨c', rest⟩
      · have hone : "1" ∉ maps.map (·.variable) := hm.not_mem_of_data (by simp)
        have hj : ¬ j < n - 1 := by simp at hlen; omega
        simp only [hc, hj, hone, if_true, if_false, List.all_cons, List.all_nil, Bool.and_true]
      · have hj : j < n - 1 := by simp at hlen; omega
        have hnext : variableNamer.getNameForVariableForMatchesRouteMap index i (j + 1) ∈
            maps.map (·.variable) := List.mem_map_of_mem _ (hmaps.2 _ (List.mem_cons_self _ _))
        simp only [hc, hj, if_true, hnext]
        rw [evalVariable_generateConditionMaps hm (c' :: rest) (j + 1) (f + 1)
          (List.cons_ne_nil _ _) (by simp at hlen ⊢; omega) hvalid.2 hmaps.2
          (by simp at hfuel ⊢; omega)]
        simp [hc]
    · simp only [hc, hzero, if_false, Bool.false_eq_true, List.all_cons, Bool.false_and]

/-- **The main map's source** evaluates, match by match, to `1` when all the match's
    conditions hold and to `0` otherwise. -/
theorem mapM_evalVariable_conditionVariables (hm : MatchesRouteMaps variableNamer index maps)
    {upstreamNames : List String} {fuel : Nat} : ∀ (i : Nat) (ms : List Match),
      (∀ m ∈ ms, MatchValid upstreamNames m) →
      (∀ M ∈ generateMatchMaps variableNamer index i ms, M ∈ maps) →
      (∀ m ∈ ms, m.conditions.length < fuel) →
      ((List.range' i ms.length).map
          (variableNamer.getNameForVariableForMatchesRouteMap index · 0)).mapM
          (evalVariable maps env fuel) =
        some (ms.map fun m => if matchHolds env m then "1" else "0")
  | _, [], _, _, _ => rfl
  | i, m :: ms, hvalid, hmaps, hfuel => by
    simp only [List.forall_mem_cons] at hvalid hfuel
    simp only [generateMatchMaps, List.mem_append] at hmaps
    rw [List.length_cons, List.range'_succ, List.map_cons, List.mapM_cons,
      evalVariable_generateConditionMaps hm m.conditions 0 fuel hvalid.1.conditions_ne_nil
        (Nat.zero_add _) hvalid.1.conditions (fun M hM => hmaps M (.inl hM)) hfuel.1,
      mapM_evalVariable_conditionVariables hm (i + 1) ms hvalid.2 (fun M hM => hmaps M (.inr hM))
        hfuel.2]
    rfl

end

/-! ## The main map -/

theorem generateMainMapParameters_source (variableNamer : VariableNamer) (index scIndex : Nat) :
    ∀ (i sl : Nat) (ms : List Match),
      (generateMainMapParameters variableNamer index scIndex i sl ms).1 =
        concatValues ((List.range' i ms.length).map
          (variableNamer.getNameForVariableForMatchesRouteMap index · 0))
  | _, _, [] => rfl
  | i, sl, m :: ms => by
    rw [generateMainMapParameters_cons]
    dsimp only
    rw [List.length_cons, List.range'_succ, List.map_cons, concatValues_cons,
      generateMainMapParameters_source]

private theorem isPrefixOf_replicate_append (i : Nat) (b : Char) (rest : List Char) :
    (List.replicate i '0' ++ ['1']).isPrefixOf (List.replicate i '0' ++ b :: rest) = (b == '1') := by
  induction i with
  | zero => simp [List.isPrefixOf, Bool.beq_comm]
  | succ i ih => simpa [List.replicate_succ, List.isPrefixOf] using ih

/-- The key `~^0…01` with `i` zeros matches a string of `i` zeros and a bit when the bit
    is `1`. -/
theorem keyMatches_mainMapKey (i : Nat) (b : Char) (rest : List Char) :
    keyMatches ("~^" ++ String.mk (List.replicate i '0') ++ "1") ⟨List.replicate i '0' ++ b :: rest⟩ =
      (b == '1') := by
  have hdata : ("~^" ++ String.mk (List.replicate i '0') ++ "1").data =
      '~' :: '^' :: (List.replicate i '0' ++ ['1']) := by simp
  unfold keyMatches
  rw [hdata]
  exact isPrefixOf_replicate_append i b rest

/-- The string of bits the main map's source evaluates to. -/
theorem concatValues_bits (env : String → String) (ms : List Match) :
    concatValues (ms.map fun m => if matchHolds env m then "1" else "0") =
      ⟨ms.map fun m => if matchHolds env m then '1' else '0'⟩ := by
  induction ms with
  | nil => rfl
  | cons m ms ih =>
    rw [List.map_cons, concatValues_cons, ih, List.map_cons]
    split <;> rfl

/-- **The keys of the main map**: after `i` zeros, the first key that matches the bits of
    the matches is that of the first match whose conditions all hold, and its result is the
    target of that match. -/
theorem find?_generateMainMapParameters (variableNamer : VariableNamer) (index scIndex : Nat)
    (env : String → String) : ∀ (i sl : Nat) (ms : List Match),
      ((generateMainMapParameters variableNamer index scIndex i sl ms).2.1.find? fun p =>
          keyMatches p.value
            ⟨List.replicate i '0' ++ ms.map fun m => if matchHolds env m then '1' else '0'⟩).map
          (·.result) =
        (ms.findIdx? (matchHolds env)).map fun k =>
          if (ms.getD k {}).splits ≠ [] then
            variableNamer.getNameForSplitClientVariable
              (scIndex + sl + (ms.take k).countP (·.splits ≠ []))
          else matchLocationPath index (i + k)
  | _, _, [] => rfl
  | i, sl, m :: ms => by
    rw [generateMainMapParameters_cons]
    simp only [List.map_cons, List.find?_cons, keyMatches_mainMapKey]
    by_cases hm : matchHolds env m
    · simp [hm, List.length_pos]
    · have hbits : List.replicate i '0' ++ '0' :: ms.map (fun m => if matchHolds env m then '1' else '0') =
          List.replicate (i + 1) '0' ++ ms.map (fun m => if matchHolds env m then '1' else '0') := by
        simp [List.replicate_succ']
      simp only [hm, Bool.false_eq_true, if_false, beq_iff_eq, hbits, List.findIdx?_cons,
        List.findIdx?_succ, Option.map_map]
      rw [show ('0' == '1') = false from rfl]
      dsimp only
      rw [find?_generateMainMapParameters variableNamer index scIndex env (i + 1) _ ms]
      congr 1
      funext k
      by_cases hs : m.splits = [] <;>
        simp [hs, List.length_pos, Nat.add_assoc, Nat.add_comm 1, Nat.add_left_comm]

/-! ## The main variable -/

theorem generateMainMapParameters_value_ne_default (variableNamer : VariableNamer)
    (index scIndex : Nat) : ∀ (i sl : Nat) (ms : List Match),
      ∀ p ∈ (generateMainMapParameters variableNamer index scIndex i sl ms).2.1,
        p.value ≠ "default"
  | _, _, [] => by simp [generateMainMapParameters]
  | i, sl, m :: ms => by
    rw [generateMainMapParameters_cons]
    intro p hp
    rcases List.mem_cons.1 hp with rfl | hp
    · intro h
      simpa using congrArg String.data h
    · exact generateMainMapParameters_value_ne_default variableNamer index scIndex _ _ ms p hp

/-- The target of a request is a location or a split client, never a variable of the maps. -/
theorem MatchesRouteMaps.matchesRouteTarget_not_mem {variableNamer : VariableNamer}
    {index : Nat} {maps : List Version2.Map} (hm : MatchesRouteMaps variableNamer index maps)
    (env : String → String) (scIndex : Nat) (r : Route) :
    matchesRouteTarget env variableNamer index scIndex r ∉ maps.map (·.variable) := by
  unfold matchesRouteTarget matchTarget defaultTarget
  split <;> split_ifs
  all_goals first
    | exact hm.splitVariable_not_mem _
    | exact hm.not_mem_of_data (by simp [data_matchLocationPath, data_defaultLocationPath])

/-- The default result the generator writes is the default target. -/
theorem defaultTarget_eq (variableNamer : VariableNamer) (index scIndex : Nat) (r : Route) :
    defaultTarget variableNamer index scIndex r =
      if r.splits.length > 0 then variableNamer.getNameForSplitClientVariable
        (scIndex + r.matches.countP fun m => m.splits.length > 0) else defaultLocationPath index := by
  simp [defaultTarget, List.length_pos]

/-- **The main map selects the target**: for the bits of the matches, its keys and its
    `default` give where the route sends the request. -/
theorem selectResult_mainMap (variableNamer : VariableNamer) (index scIndex : Nat)
    (env : String → String) (r : Route) :
    selectResult ((generateMainMapParameters variableNamer index scIndex 0 0 r.matches).2.1 ++
        [{ value := "default", result := defaultTarget variableNamer index scIndex r }])
      (concatValues (r.matches.map fun m => if matchHolds env m then "1" else "0")) =
    matchesRouteTarget env variableNamer index scIndex r := by
  have hselect := find?_generateMainMapParameters variableNamer index scIndex env 0 0 r.matches
  simp only [List.replicate_zero, List.nil_append, Nat.zero_add, Nat.add_zero] at hselect
  rw [selectResult_append_default (generateMainMapParameters_value_ne_default _ _ _ _ _ _),
    concatValues_bits, hselect]
  unfold matchesRouteTarget matchTarget
  cases r.matches.findIdx? (matchHolds env) <;> rfl

/-- **What the main variable of a matches route evaluates to.** For a route that validation
    accepts and the maps `generateMatchesConfig` returns for it, evaluating the main variable
    in any request gives the target of the first match whose conditions all hold, or the
    route's default target: with enough fuel for the longest chain of conditions, and for a
    variable namer whose safe name has no `$`, so that every generated variable is one
    reference. -/
theorem evalVariable_generateMatchesConfig {parsers : Parsers} {fieldPath : Path}
    {upstreamNames : List String} {isRouteFieldForbidden : Bool} {r : Route}
    {upstreamNamer : UpstreamNamer} {crUpstreams : String → V1.Upstream}
    {variableNamer : VariableNamer} {index scIndex : Nat} {cfgParams : ConfigParams}
    {c : RoutingCfg}
    (hvalid : validateRoute parsers r fieldPath upstreamNames isRouteFieldForbidden = some [])
    (hsafe : '$' ∉ variableNamer.safeNsName.data)
    (h : generateMatchesConfig r upstreamNamer crUpstreams variableNamer index scIndex cfgParams =
      some c)
    (env : String → String) (fuel : Nat) (hfuel : ∀ m ∈ r.matches, m.conditions.length ≤ fuel) :
    evalVariable c.maps env (fuel + 2)
        (variableNamer.getNameForVariableForMatchesRouteMainMap index) =
      some (matchesRouteTarget env variableNamer index scIndex r) := by
  obtain ⟨hroute, -, -⟩ := validateRoute_sound hvalid
  obtain ⟨-, -, -, hmaps, -, -⟩ := generateMatchesConfig_eq_some h
  have hm : MatchesRouteMaps variableNamer index c.maps :=
    ⟨(generateMatchesConfig_maps h).1, (generateMatchesConfig_maps h).2⟩
  rw [← defaultTarget_eq] at hmaps
  set P := generateMainMapParameters variableNamer index scIndex 0 0 r.matches with hP
  have hrefs : sourceReferences P.1 = (List.range' 0 r.matches.length).map
      (variableNamer.getNameForVariableForMatchesRouteMap index · 0) := by
    rw [hP, generateMainMapParameters_source]
    exact sourceReferences_concatValues (List.forall_mem_map.2 fun k _ =>
      isReference_getNameForVariableForMatchesRouteMap hsafe index k 0)
  have hvalues : (sourceReferences P.1).mapM (evalVariable c.maps env (fuel + 1)) =
      some (r.matches.map fun m => if matchHolds env m then "1" else "0") :=
    hrefs ▸ mapM_evalVariable_conditionVariables hm 0 r.matches hroute.matches_valid
      (fun M hM => hmaps ▸ List.mem_append_left _ hM) (fun m hm => Nat.lt_succ_of_le (hfuel m hm))
  exact (evalVariable_of_mem hm.nodup (hmaps ▸ List.mem_append_right _ (List.mem_singleton_self _))
    hvalues (selectResult_mainMap variableNamer index scIndex env r)).trans
    (if_neg (hm.matchesRouteTarget_not_mem env scIndex r))

/-- A route of `cafe` with two matches: the header `x-version: v2` with any cookie `user` but
    `guest`, then the argument `beta=1`. -/
def teaMatchesRoute : Route :=
  { path := "/tea"
    «matches» := [
      { conditions := [{ header := "x-version", value := "v2" },
          { cookie := "user", value := "!guest" }]
        action := some { pass := "tea" } },
      { conditions := [{ argument := "beta", value := "1" }], action := some { pass := "coffee" } }]
    action := some { pass := "tea" } }

/-- A request for `/tea?beta=1` with the header `x-version: v1`. -/
def betaRequest (v : String) : String :=
  if v = "$http_x_version" then "v1" else if v = "$arg_beta" then "1" else ""

theorem teaMatchesRoute_betaRequest :
    evalVariable ((generateMatchesConfig teaMatchesRoute (newUpstreamNamerForVirtualServer cafe)
        (fun _ => default) (newVariableNamer cafe) 0 0 {}).get (by decide)).maps betaRequest 4
        ((newVariableNamer cafe).getNameForVariableForMatchesRouteMainMap 0) =
      some "@matches_0_match_1" :=
  (evalVariable_generateMatchesConfig
    (by decide : validateRoute lenientParsers teaMatchesRoute (Path.new "spec") ["tea", "coffee"]
      false = some [])
    (by decide) (Option.some_get _).symm betaRequest 2 (by decide)).trans (by decide)

end KubernetesIngress.Configs
