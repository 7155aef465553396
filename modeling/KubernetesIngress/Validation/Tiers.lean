import KubernetesIngress.Validation.Soundness

set_option autoImplicit false

/-! # NGINX OSS validation against NGINX Plus validation

The validator takes the tier as a flag `isPlus`. It reads the flag in two places only, both
in the loop body of `validateUpstreams`: `validateUpstreamLBMethod` asks the OSS or the Plus
parser of load-balancing methods, and `rejectPlusResourcesInOSS` forbids, in OSS, the four
fields only NGINX Plus implements (a health check, a slow start, a session cookie, a queue).
The names the loop collects, and with them every check of the routes, do not depend on it.

So where every method is one both parsers accept, OSS validation is Plus validation with
the four fields forbidden (`validate_oss_iff_plus`). -/

namespace KubernetesIngress.Validation

open V1

variable (parsers : Parsers)

/-! ## The two checks that read the tier -/

/-- A load-balancing method both parsers accept, or none. -/
def LBMethodAcceptedByBoth (lbMethod : String) : Prop :=
  lbMethod = "" ∨ (parsers.parseLBMethod lbMethod = none ∧ parsers.parseLBMethodForPlus lbMethod = none)

/-- An upstream that sets none of the fields only NGINX Plus implements. -/
def PlusFieldsUnset (u : Upstream) : Prop :=
  u.healthCheck = none ∧ u.slowStart = "" ∧ u.sessionCookie = none ∧ u.queue = none

instance (lbMethod : String) : Decidable (LBMethodAcceptedByBoth parsers lbMethod) :=
  inferInstanceAs (Decidable (_ ∨ _))

instance (u : Upstream) : Decidable (PlusFieldsUnset u) := inferInstanceAs (Decidable (_ ∧ _))

theorem validateUpstreamLBMethod_eq_nil {lbMethod : String}
    (h : LBMethodAcceptedByBoth parsers lbMethod) (fieldPath : Path) (isPlus : Bool) :
    validateUpstreamLBMethod parsers lbMethod fieldPath isPlus = [] := by
  rcases h with h | ⟨hoss, hplus⟩
  · simp [validateUpstreamLBMethod, h]
  · unfold validateUpstreamLBMethod
    cases isPlus <;> simp [hoss, hplus]

@[simp] theorem rejectPlusResourcesInOSS_true (u : Upstream) (idxPath : Path) :
    rejectPlusResourcesInOSS u idxPath true = [] := rfl

theorem rejectPlusResourcesInOSS_eq_nil_iff (u : Upstream) (idxPath : Path) :
    rejectPlusResourcesInOSS u idxPath false = [] ↔ PlusFieldsUnset u := by
  simp [rejectPlusResourcesInOSS, PlusFieldsUnset, Option.isSome_iff_ne_none]

/-- **The OSS checks of one upstream are the Plus checks and the ban**, when both parsers
    accept its method. -/
theorem validateUpstreamFields_oss {u : Upstream} (h : LBMethodAcceptedByBoth parsers u.lbMethod)
    (idxPath : Path) :
    validateUpstreamFields parsers u idxPath false =
      validateUpstreamFields parsers u idxPath true ++ rejectPlusResourcesInOSS u idxPath false := by
  simp only [validateUpstreamFields, validateUpstreamLBMethod_eq_nil parsers h,
    rejectPlusResourcesInOSS_true, List.append_nil, List.append_assoc]

/-! ## The upstream loop -/

/-- The name check of the loop body of `validateUpstreams`: its errors, and the names
    collected after it. -/
def upstreamNameCheck (idxPath : Path) (u : Upstream) (upstreamNames : List String) :
    List FieldError × List String :=
  let upstreamErrors := validateUpstreamName u.name (idxPath.child "name")
  if upstreamErrors.length > 0 then (upstreamErrors, upstreamNames)
  else if u.name ∈ upstreamNames then
    ([duplicate (idxPath.child "name") (.str u.name)], upstreamNames)
  else ([], upstreamNames ++ [u.name])

theorem validateUpstreamsFrom_cons (fieldPath : Path) (isPlus : Bool) (i : Nat) (u : Upstream)
    (us : List Upstream) (names : List String) :
    validateUpstreamsFrom parsers fieldPath isPlus i (u :: us) names =
      let nc := upstreamNameCheck (fieldPath.index i) u names
      let rest := validateUpstreamsFrom parsers fieldPath isPlus (i + 1) us nc.2
      (nc.1 ++ validateUpstreamFields parsers u (fieldPath.index i) isPlus ++ rest.1, rest.2) := by
  simp only [validateUpstreamsFrom, upstreamNameCheck]

/-- **The upstream loop under both tiers**: it collects the same names, and finds no error in
    OSS exactly when it finds none in Plus and no upstream sets a Plus field. -/
theorem validateUpstreamsFrom_oss (fieldPath : Path) :
    ∀ (us : List Upstream) (i : Nat) (names : List String),
      (∀ u ∈ us, LBMethodAcceptedByBoth parsers u.lbMethod) →
      (validateUpstreamsFrom parsers fieldPath false i us names).2 =
          (validateUpstreamsFrom parsers fieldPath true i us names).2 ∧
        ((validateUpstreamsFrom parsers fieldPath false i us names).1 = [] ↔
          (validateUpstreamsFrom parsers fieldPath true i us names).1 = [] ∧
            ∀ u ∈ us, PlusFieldsUnset u)
  | [], _, _, _ => by simp [validateUpstreamsFrom]
  | u :: us, i, names, h => by
    have hu := validateUpstreamFields_oss parsers (h u (List.mem_cons_self _ _)) (fieldPath.index i)
    obtain ⟨hnames, herrs⟩ := validateUpstreamsFrom_oss fieldPath us (i + 1)
      (upstreamNameCheck (fieldPath.index i) u names).2 fun v hv => h v (List.mem_cons_of_mem _ hv)
    rw [validateUpstreamsFrom_cons, validateUpstreamsFrom_cons]
    refine ⟨hnames, ?_⟩
    simp only [hu, List.append_eq_nil, herrs, rejectPlusResourcesInOSS_eq_nil_iff,
      List.forall_mem_cons]
    exact ⟨fun ⟨⟨he, hf, hp⟩, hr, hq⟩ => ⟨⟨⟨he, hf⟩, hr⟩, hp, hq⟩,
      fun ⟨⟨⟨he, hf⟩, hr⟩, hp, hq⟩ => ⟨⟨he, hf, hp⟩, hr, hq⟩⟩

/-! ## Both entry points -/

theorem map_toAggregate_eq_some_nil {errs : Option (List FieldError)} :
    errs.map toAggregate = some [] ↔ errs = some [] := by
  cases errs <;> simp

section
variable {parsers}

theorem validateVirtualServerSpec_oss {spec : VirtualServerSpec}
    (h : ∀ u ∈ spec.upstreams, LBMethodAcceptedByBoth parsers u.lbMethod) (fieldPath : Path) :
    validateVirtualServerSpec parsers spec fieldPath false = some [] ↔
      validateVirtualServerSpec parsers spec fieldPath true = some [] ∧
        ∀ u ∈ spec.upstreams, PlusFieldsUnset u := by
  obtain ⟨hnames, herrs⟩ :=
    validateUpstreamsFrom_oss parsers (fieldPath.child "upstreams") spec.upstreams 0 [] h
  simp only [validateVirtualServerSpec, validateUpstreams, hnames, appendErrs_eq_some_nil,
    Option.some.injEq, List.append_eq_nil, herrs]
  tauto

theorem validateVirtualServerRouteSpec_oss {spec : VirtualServerRouteSpec}
    (h : ∀ u ∈ spec.upstreams, LBMethodAcceptedByBoth parsers u.lbMethod) (fieldPath : Path)
    (virtualServerHost vsPath : String) :
    validateVirtualServerRouteSpec parsers spec fieldPath virtualServerHost vsPath false = some [] ↔
      validateVirtualServerRouteSpec parsers spec fieldPath virtualServerHost vsPath true = some [] ∧
        ∀ u ∈ spec.upstreams, PlusFieldsUnset u := by
  obtain ⟨hnames, herrs⟩ :=
    validateUpstreamsFrom_oss parsers (fieldPath.child "upstreams") spec.upstreams 0 [] h
  simp only [validateVirtualServerRouteSpec, validateUpstreams, hnames, appendErrs_eq_some_nil,
    Option.some.injEq, List.append_eq_nil, herrs]
  tauto

end

/-- **OSS validation is Plus validation plus the ban on Plus fields.** For every VirtualServer,
    and every VirtualServerRoute with any parent host and path, whose load-balancing methods
    are all empty or accepted by both parsers: validation for NGINX OSS finds no error exactly
    when validation for NGINX Plus finds none and no upstream sets a health check, a slow
    start, a session cookie or a queue. -/
theorem validate_oss_iff_plus :
    (∀ vs : VirtualServer, (∀ u ∈ vs.spec.upstreams, LBMethodAcceptedByBoth parsers u.lbMethod) →
      (validateVirtualServer parsers vs false = some [] ↔
        validateVirtualServer parsers vs true = some [] ∧
          ∀ u ∈ vs.spec.upstreams, PlusFieldsUnset u)) ∧
    (∀ (vsr : VirtualServerRoute) (virtualServerHost vsPath : String),
      (∀ u ∈ vsr.spec.upstreams, LBMethodAcceptedByBoth parsers u.lbMethod) →
      (validateVirtualServerRouteForVirtualServer parsers vsr virtualServerHost vsPath false =
          some [] ↔
        validateVirtualServerRouteForVirtualServer parsers vsr virtualServerHost vsPath true =
            some [] ∧ ∀ u ∈ vsr.spec.upstreams, PlusFieldsUnset u)) :=
  ⟨fun _ h => by
    simpa only [validateVirtualServer, map_toAggregate_eq_some_nil] using
      validateVirtualServerSpec_oss h _,
   fun _ _ _ h => by
    simpa only [validateVirtualServerRouteForVirtualServer, map_toAggregate_eq_some_nil] using
      validateVirtualServerRouteSpec_oss h _ _ _⟩

/-- `cafe` whose upstream `tea` balances with `least_conn` and starts slowly, which only
    NGINX Plus implements. -/
def cafeLeastConn : VirtualServer :=
  { cafe with spec := { cafe.spec with upstreams :=
      [{ name := "tea", service := "tea-svc", port := 80, lbMethod := "least_conn",
         slowStart := "10s" }] } }

/-- `coffee` whose upstream balances with `ip_hash`. -/
def coffeeIpHash : VirtualServerRoute :=
  { coffee with spec := { coffee.spec with upstreams :=
      [{ name := "coffee", service := "coffee-svc", port := 80, lbMethod := "ip_hash" }] } }

theorem cafe_oss_iff_plus :
    (∀ u ∈ cafeLeastConn.spec.upstreams, LBMethodAcceptedByBoth lenientParsers u.lbMethod) ∧
    (validateVirtualServer lenientParsers cafeLeastConn false = some [] ↔
      validateVirtualServer lenientParsers cafeLeastConn true = some [] ∧
        ∀ u ∈ cafeLeastConn.spec.upstreams, PlusFieldsUnset u) ∧
    validateVirtualServer lenientParsers cafeLeastConn true = some [] ∧
    validateVirtualServer lenientParsers cafeLeastConn false ≠ some [] ∧
    (∀ u ∈ coffeeIpHash.spec.upstreams, LBMethodAcceptedByBoth lenientParsers u.lbMethod) ∧
    (validateVirtualServerRouteForVirtualServer lenientParsers coffeeIpHash "cafe.example.com"
        "/coffee" false = some [] ↔
      validateVirtualServerRouteForVirtualServer lenientParsers coffeeIpHash "cafe.example.com"
          "/coffee" true = some [] ∧ ∀ u ∈ coffeeIpHash.spec.upstreams, PlusFieldsUnset u) ∧
    validateVirtualServerRouteForVirtualServer lenientParsers coffeeIpHash "cafe.example.com"
      "/coffee" false = some [] :=
  have hcafe : ∀ u ∈ cafeLeastConn.spec.upstreams,
      LBMethodAcceptedByBoth lenientParsers u.lbMethod := by
    decide
  have hcoffee : ∀ u ∈ coffeeIpHash.spec.upstreams,
      LBMethodAcceptedByBoth lenientParsers u.lbMethod := by
    decide
  ⟨hcafe, (validate_oss_iff_plus lenientParsers).1 cafeLeastConn hcafe, by decide, by decide,
    hcoffee, (validate_oss_iff_plus lenientParsers).2 coffeeIpHash _ _ hcoffee, by decide⟩

end KubernetesIngress.Validation
