import KubernetesIngress.Api.V1
import KubernetesIngress.Go.Strings

set_option autoImplicit false

/-! # Name algebra: the identifiers the generator emits

`upstreamNamer` names the `upstream` blocks of one resource (`vs_<ns>_<name>_<upstream>`,
and `vs_<ns>_<name>_vsr_<vsrns>_<vsr>_<upstream>` for a VirtualServerRoute), and
`variableNamer` names the NGINX variables of the `split_clients` and `map` blocks of one
VirtualServer, with the namespace and name made "safe" by turning `-` into `_`.

The lemmas say when two of these names can coincide. For one namer: never for different
indices (`%d` is injective and its digits never contain `_`), and never across the three
kinds of variable. -/

namespace KubernetesIngress.Configs

open V1

/-- `upstreamNamer`. The source calls its one field `prefix`, a Lean keyword. -/
structure UpstreamNamer where
  namePrefix : String
deriving DecidableEq

/-- `newUpstreamNamerForVirtualServer`. -/
def newUpstreamNamerForVirtualServer (virtualServer : VirtualServer) : UpstreamNamer :=
  ⟨"vs_" ++ virtualServer.namespace ++ "_" ++ virtualServer.name⟩

/-- `newUpstreamNamerForVirtualServerRoute`. -/
def newUpstreamNamerForVirtualServerRoute (virtualServer : VirtualServer)
    (virtualServerRoute : VirtualServerRoute) : UpstreamNamer :=
  ⟨"vs_" ++ virtualServer.namespace ++ "_" ++ virtualServer.name ++ "_vsr_" ++
    virtualServerRoute.namespace ++ "_" ++ virtualServerRoute.name⟩

/-- `upstreamNamer.GetNameForUpstream`. -/
def UpstreamNamer.getNameForUpstream (namer : UpstreamNamer) (upstream : String) : String :=
  namer.namePrefix ++ "_" ++ upstream

/-- `variableNamer`. -/
structure VariableNamer where
  safeNsName : String
deriving DecidableEq

/-- `newVariableNamer`: `<ns>_<name>` with every `-` replaced by `_`. -/
def newVariableNamer (virtualServer : VirtualServer) : VariableNamer :=
  ⟨Go.replaceAll (virtualServer.namespace ++ "_" ++ virtualServer.name) '-' '_'⟩

/-- `variableNamer.GetNameForSplitClientVariable`. -/
def VariableNamer.getNameForSplitClientVariable (namer : VariableNamer) (index : Nat) : String :=
  "$vs_" ++ namer.safeNsName ++ "_splits_" ++ toString index

/-- `variableNamer.GetNameForVariableForMatchesRouteMap`. -/
def VariableNamer.getNameForVariableForMatchesRouteMap (namer : VariableNamer)
    (matchesIndex matchIndex conditionIndex : Nat) : String :=
  "$vs_" ++ namer.safeNsName ++ "_matches_" ++ toString matchesIndex ++ "_match_" ++
    toString matchIndex ++ "_cond_" ++ toString conditionIndex

/-- `variableNamer.GetNameForVariableForMatchesRouteMainMap`. -/
def VariableNamer.getNameForVariableForMatchesRouteMainMap (namer : VariableNamer)
    (matchesIndex : Nat) : String :=
  "$vs_" ++ namer.safeNsName ++ "_matches_" ++ toString matchesIndex

/-! ## The names as character lists -/

namespace VariableNamer

variable (namer : VariableNamer)

/-- The characters every variable of `namer` starts with. -/
def stem : List Char := '$' :: 'v' :: 's' :: '_' :: namer.safeNsName.data ++ ['_']

theorem data_getNameForSplitClientVariable (i : Nat) :
    (namer.getNameForSplitClientVariable i).data =
      namer.stem ++ ("splits_".data ++ Nat.toDigits 10 i) := by
  simp [getNameForSplitClientVariable, stem]

theorem data_getNameForVariableForMatchesRouteMainMap (m : Nat) :
    (namer.getNameForVariableForMatchesRouteMainMap m).data =
      namer.stem ++ ("matches_".data ++ Nat.toDigits 10 m) := by
  simp [getNameForVariableForMatchesRouteMainMap, stem]

theorem data_getNameForVariableForMatchesRouteMap (m k c : Nat) :
    (namer.getNameForVariableForMatchesRouteMap m k c).data =
      namer.stem ++ ("matches_".data ++ (Nat.toDigits 10 m ++ '_' :: ("match_".data ++
        (Nat.toDigits 10 k ++ '_' :: ("cond_".data ++ Nat.toDigits 10 c))))) := by
  simp [getNameForVariableForMatchesRouteMap, stem]

/-- Every variable of a namer starts with `$`. -/
theorem hasPrefix_dollar_of_data {v : String} {t : List Char} (h : v.data = namer.stem ++ t) :
    Go.hasPrefix v "$" = true := by
  simp [Go.hasPrefix, h, stem]

theorem underscore_not_mem_toDigits (n : Nat) : '_' ∉ Nat.toDigits 10 n :=
  Go.not_mem_toString (c := '_') rfl n

/-! ## One namer never gives two things the same name -/

theorem getNameForSplitClientVariable_inj {i j : Nat}
    (h : namer.getNameForSplitClientVariable i = namer.getNameForSplitClientVariable j) :
    i = j := by
  have h := congrArg String.data h
  simp only [data_getNameForSplitClientVariable, List.append_cancel_left_eq] at h
  exact Go.toDigits_ten_injective h

theorem getNameForVariableForMatchesRouteMainMap_inj {i j : Nat}
    (h : namer.getNameForVariableForMatchesRouteMainMap i =
      namer.getNameForVariableForMatchesRouteMainMap j) : i = j := by
  have h := congrArg String.data h
  simp only [data_getNameForVariableForMatchesRouteMainMap, List.append_cancel_left_eq] at h
  exact Go.toDigits_ten_injective h

theorem getNameForVariableForMatchesRouteMap_inj {m k c m' k' c' : Nat}
    (h : namer.getNameForVariableForMatchesRouteMap m k c =
      namer.getNameForVariableForMatchesRouteMap m' k' c') : m = m' ∧ k = k' ∧ c = c' := by
  have h := congrArg String.data h
  simp only [data_getNameForVariableForMatchesRouteMap, List.append_cancel_left_eq] at h
  obtain ⟨hm, h⟩ := Go.append_sep_inj_left (underscore_not_mem_toDigits m)
    (underscore_not_mem_toDigits m') h
  simp only [List.append_cancel_left_eq] at h
  obtain ⟨hk, h⟩ := Go.append_sep_inj_left (underscore_not_mem_toDigits k)
    (underscore_not_mem_toDigits k') h
  simp only [List.append_cancel_left_eq] at h
  exact ⟨Go.toDigits_ten_injective hm, Go.toDigits_ten_injective hk, Go.toDigits_ten_injective h⟩

theorem getNameForVariableForMatchesRouteMap_ne_mainMap (m k c m' : Nat) :
    namer.getNameForVariableForMatchesRouteMap m k c ≠
      namer.getNameForVariableForMatchesRouteMainMap m' := fun h => by
  have h := congrArg String.data h
  simp only [data_getNameForVariableForMatchesRouteMap,
    data_getNameForVariableForMatchesRouteMainMap, List.append_cancel_left_eq] at h
  exact underscore_not_mem_toDigits m' (h ▸ List.mem_append_right _ (List.mem_cons_self _ _))

theorem getNameForSplitClientVariable_ne_matchesRouteMap (i m k c : Nat) :
    namer.getNameForSplitClientVariable i ≠ namer.getNameForVariableForMatchesRouteMap m k c :=
  fun h => by
  have h := congrArg String.data h
  simp [data_getNameForSplitClientVariable, data_getNameForVariableForMatchesRouteMap] at h

theorem getNameForSplitClientVariable_ne_mainMap (i m : Nat) :
    namer.getNameForSplitClientVariable i ≠ namer.getNameForVariableForMatchesRouteMainMap m :=
  fun h => by
  have h := congrArg String.data h
  simp [data_getNameForSplitClientVariable, data_getNameForVariableForMatchesRouteMainMap] at h

/-! ## Variables of different namers

Read from the right, a variable is a number, `_`, the word of its kind (`splits`,
`matches`, or `cond` after two more numbers), and the namer's stem; the numbers have no
`_`, so the stem, and with it the safe name, is read back. Two namers with different safe
names therefore never name the same variable. -/

/-- A variable `namer` gives a name to: of a split client, a per-condition map or a main
    map. -/
def IsVariable (v : String) : Prop :=
  (∃ i, v = namer.getNameForSplitClientVariable i) ∨
    (∃ m k c, v = namer.getNameForVariableForMatchesRouteMap m k c) ∨
    (∃ m, v = namer.getNameForVariableForMatchesRouteMainMap m)

theorem reverse_data_getNameForSplitClientVariable (i : Nat) :
    (namer.getNameForSplitClientVariable i).data.reverse = (Nat.toDigits 10 i).reverse ++
      '_' :: 's' :: 't' :: 'i' :: 'l' :: 'p' :: 's' :: '_' ::
        (namer.safeNsName.data.reverse ++ ['_', 's', 'v', '$']) := by
  simp [getNameForSplitClientVariable]

theorem reverse_data_getNameForVariableForMatchesRouteMainMap (m : Nat) :
    (namer.getNameForVariableForMatchesRouteMainMap m).data.reverse = (Nat.toDigits 10 m).reverse ++
      '_' :: 's' :: 'e' :: 'h' :: 'c' :: 't' :: 'a' :: 'm' :: '_' ::
        (namer.safeNsName.data.reverse ++ ['_', 's', 'v', '$']) := by
  simp [getNameForVariableForMatchesRouteMainMap]

theorem reverse_data_getNameForVariableForMatchesRouteMap (m k c : Nat) :
    (namer.getNameForVariableForMatchesRouteMap m k c).data.reverse = (Nat.toDigits 10 c).reverse ++
      '_' :: 'd' :: 'n' :: 'o' :: 'c' :: '_' :: ((Nat.toDigits 10 k).reverse ++
      '_' :: 'h' :: 'c' :: 't' :: 'a' :: 'm' :: '_' :: ((Nat.toDigits 10 m).reverse ++
      '_' :: 's' :: 'e' :: 'h' :: 'c' :: 't' :: 'a' :: 'm' :: '_' ::
        (namer.safeNsName.data.reverse ++ ['_', 's', 'v', '$']))) := by
  simp [getNameForVariableForMatchesRouteMap]

end VariableNamer

/-- Cutting a reversed number and its `_` off the front of two lists. -/
theorem reverse_toDigits_sep_inj {a b : Nat} {x y : List Char}
    (h : (Nat.toDigits 10 a).reverse ++ '_' :: x = (Nat.toDigits 10 b).reverse ++ '_' :: y) :
    x = y :=
  (Go.append_sep_inj_left (by simpa using VariableNamer.underscore_not_mem_toDigits a)
    (by simpa using VariableNamer.underscore_not_mem_toDigits b) h).2

/-- **A variable determines its namer.** -/
theorem VariableNamer.eq_of_isVariable {n n' : VariableNamer} {v : String} (h : n.IsVariable v)
    (h' : n'.IsVariable v) : n = n' := by
  suffices hs : n.safeNsName.data = n'.safeNsName.data by
    cases n; cases n'
    simpa [String.ext_iff] using hs
  rcases h with ⟨i, rfl⟩ | ⟨m, k, c, rfl⟩ | ⟨m, rfl⟩ <;>
    rcases h' with ⟨i', h'⟩ | ⟨m', k', c', h'⟩ | ⟨m', h'⟩ <;>
    have h' := reverse_toDigits_sep_inj (by simpa only [reverse_data_getNameForSplitClientVariable,
      reverse_data_getNameForVariableForMatchesRouteMap,
      reverse_data_getNameForVariableForMatchesRouteMainMap] using congrArg (·.data.reverse) h') <;>
    simp at h'
  all_goals first | exact h' | skip
  -- two per-condition variables: cut off the match and condition numbers as well
  have h' := reverse_toDigits_sep_inj h'
  simp only [List.cons.injEq, true_and] at h'
  simpa using reverse_toDigits_sep_inj h'

/-! ## Upstream names

An upstream name is the namer's prefix, `_`, and the upstream's own name. Kubernetes object
names and DNS-1035 labels contain no `_`, so the separators cut a name back into its
parts. -/

theorem UpstreamNamer.getNameForUpstream_injective (namer : UpstreamNamer) :
    Function.Injective namer.getNameForUpstream := fun a b h => by
  have h := congrArg String.data h
  simp only [UpstreamNamer.getNameForUpstream, String.data_append, List.append_assoc,
    List.append_cancel_left_eq] at h
  exact String.ext h

theorem data_getNameForUpstream_virtualServer (vs : VirtualServer) (upstream : String) :
    ((newUpstreamNamerForVirtualServer vs).getNameForUpstream upstream).data =
      'v' :: 's' :: '_' :: (vs.namespace.data ++ '_' :: (vs.name.data ++ '_' :: upstream.data)) := by
  simp [UpstreamNamer.getNameForUpstream, newUpstreamNamerForVirtualServer]

theorem data_getNameForUpstream_virtualServerRoute (vs : VirtualServer) (vsr : VirtualServerRoute)
    (upstream : String) :
    ((newUpstreamNamerForVirtualServerRoute vs vsr).getNameForUpstream upstream).data =
      'v' :: 's' :: '_' :: (vs.namespace.data ++ '_' :: (vs.name.data ++ '_' ::
        ('v' :: 's' :: 'r' :: '_' :: (vsr.namespace.data ++ '_' :: (vsr.name.data ++ '_' ::
          upstream.data))))) := by
  simp [UpstreamNamer.getNameForUpstream, newUpstreamNamerForVirtualServerRoute]

/-- An upstream of a VirtualServer and one of its VirtualServerRoutes never share a name,
    when the first upstream's name has no `_`. -/
theorem getNameForUpstream_virtualServer_ne_virtualServerRoute (vs : VirtualServer)
    (vsr : VirtualServerRoute) {a : String} (b : String) (ha : '_' ∉ a.data) :
    (newUpstreamNamerForVirtualServer vs).getNameForUpstream a ≠
      (newUpstreamNamerForVirtualServerRoute vs vsr).getNameForUpstream b := fun h => by
  have h := congrArg String.data h
  simp only [data_getNameForUpstream_virtualServer, data_getNameForUpstream_virtualServerRoute,
    List.cons.injEq, List.append_cancel_left_eq, true_and] at h
  exact ha (h ▸ by simp)

/-- Upstreams of two VirtualServerRoutes of one VirtualServer share a name only if the
    routes have the same namespace and name, and the upstreams the same name. -/
theorem getNameForUpstream_virtualServerRoute_inj (vs : VirtualServer)
    {vsr vsr' : VirtualServerRoute} {a b : String} (hns : '_' ∉ vsr.namespace.data)
    (hns' : '_' ∉ vsr'.namespace.data) (hn : '_' ∉ vsr.name.data) (hn' : '_' ∉ vsr'.name.data)
    (h : (newUpstreamNamerForVirtualServerRoute vs vsr).getNameForUpstream a =
      (newUpstreamNamerForVirtualServerRoute vs vsr').getNameForUpstream b) :
    vsr.namespace = vsr'.namespace ∧ vsr.name = vsr'.name ∧ a = b := by
  have h := congrArg String.data h
  simp only [data_getNameForUpstream_virtualServerRoute, List.cons.injEq,
    List.append_cancel_left_eq, true_and] at h
  obtain ⟨h1, h⟩ := Go.append_sep_inj_left hns hns' h
  obtain ⟨h2, h3⟩ := Go.append_sep_inj_left hn hn' h
  exact ⟨String.ext h1, String.ext h2, String.ext h3⟩

/-- Every upstream name of a VirtualServer's configuration starts with
    `vs_<namespace>_<name>_`, from either of its namers. -/
def HasVirtualServerPrefix (vs : VirtualServer) (n : String) : Prop :=
  ∃ rest, n.data = 'v' :: 's' :: '_' :: (vs.namespace.data ++ '_' :: (vs.name.data ++ '_' :: rest))

/-- Two VirtualServers whose namespaces and names have no `_` share an upstream-name prefix
    only if they have the same namespace and name. -/
theorem HasVirtualServerPrefix.inj {vs vs' : VirtualServer} {n : String}
    (hns : '_' ∉ vs.namespace.data) (hns' : '_' ∉ vs'.namespace.data)
    (hn : '_' ∉ vs.name.data) (hn' : '_' ∉ vs'.name.data)
    (h : HasVirtualServerPrefix vs n) (h' : HasVirtualServerPrefix vs' n) :
    vs.namespace = vs'.namespace ∧ vs.name = vs'.name := by
  obtain ⟨r, hr⟩ := h
  obtain ⟨r', hr'⟩ := h'
  simp only [hr, List.cons.injEq, true_and] at hr'
  obtain ⟨h1, h⟩ := Go.append_sep_inj_left hns hns' hr'
  exact ⟨String.ext h1, String.ext (Go.append_sep_inj_left hn hn' h).1⟩

end KubernetesIngress.Configs
