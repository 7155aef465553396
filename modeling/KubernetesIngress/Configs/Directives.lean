import KubernetesIngress.Configs.Provenance
import KubernetesIngress.Validation.UpstreamChecks

set_option autoImplicit false

/-! # The directives of a configuration generated from validated resources

The validator checks the values a user writes (times, sizes, `proxy_next_upstream`
parameters, health checks, redirect codes, return bodies); the generator copies them into
NGINX directives or puts a default in their place. This file proves that the directives of a
configuration generated from validated resources are exactly such values: every proxying
location, every health check, every upstream block and every `return` is one NGINX reads as
the user meant it.

The proofs chain three layers: what validation guarantees of each declaration
(`declarationsValid_of_validated`), where the generator takes each block of its output from
(`generateVirtualServerConfig_from`, any input), and what one helper of the generator makes
of a valid declaration. -/

namespace KubernetesIngress.Configs

open V1 Validation

/-! ## What validation guarantees of the declarations -/

section
variable {parsers : Parsers} {fieldPath : Path} {upstreamNames : List String}

/-- Every action of a clean split list passes its check. -/
theorem validateSplitsFrom_actions {i : Nat} {splits : List Split}
    (h : validateSplitsFrom fieldPath upstreamNames i splits = some []) :
    ∀ s ∈ splits, ∀ a, s.action = some a → ∃ p, validateAction a p upstreamNames = some [] := by
  induction splits generalizing i with
  | nil => simp
  | cons s rest ih =>
    simp only [validateSplitsFrom, appendErrs_eq_some_nil] at h
    obtain ⟨⟨-, haction⟩, hrest⟩ := h
    refine List.forall_mem_cons.2 ⟨fun a ha => ⟨(fieldPath.index i).child "action", ?_⟩, ih hrest⟩
    simpa [ha] using haction

theorem validateSplits_actions {splits : List Split}
    (h : validateSplits splits fieldPath upstreamNames = some []) :
    ∀ s ∈ splits, ∀ a, s.action = some a → ∃ p, validateAction a p upstreamNames = some [] := by
  by_cases hlen : splits.length < 2
  · simp [validateSplits, hlen] at h
  · simp only [validateSplits, if_neg hlen, appendErrs_eq_some_nil] at h
    exact validateSplitsFrom_actions h.1

theorem validateMatches_actions {i : Nat} {ms : List Match}
    (h : validateMatches fieldPath upstreamNames i ms = some []) :
    ∀ m ∈ ms, ∀ a, (m.action = some a ∨ ∃ s ∈ m.splits, s.action = some a) →
      ∃ p, validateAction a p upstreamNames = some [] := by
  induction ms generalizing i with
  | nil => simp
  | cons m rest ih =>
    simp only [validateMatches, appendErrs_eq_some_nil] at h
    refine List.forall_mem_cons.2 ⟨fun a ha => ?_, ih h.2⟩
    simp only [validateMatch, appendErrs_eq_some_nil] at h
    obtain ⟨⟨-, haction, hsplits, -⟩, -⟩ := h
    rcases ha with ha | ⟨s, hs, ha⟩
    · exact ⟨(fieldPath.index i).child "action", by simpa [ha] using haction⟩
    · have hne : m.splits.length > 0 := List.length_pos.2 (List.ne_nil_of_mem hs)
      exact validateSplits_actions (by simpa [hne] using hsplits) s hs a ha

/-- **Every action of a clean route passes its check**: the route's own, those of its splits,
    and those of its matches and their splits. -/
theorem validateRoute_actions {r : Route} {isRouteFieldForbidden : Bool}
    (h : validateRoute parsers r fieldPath upstreamNames isRouteFieldForbidden = some []) :
    ∀ a, ActionOfRoute r a → ∃ p, validateAction a p upstreamNames = some [] := by
  simp only [validateRoute, appendErrs_eq_some_nil] at h
  obtain ⟨-, haction, hsplits, hmatches, -⟩ := h
  rintro a (ha | ⟨s, hs, ha⟩ | ⟨m, hm, ha⟩)
  · exact ⟨fieldPath.child "action", by simpa [ha] using haction⟩
  · have hne : r.splits.length > 0 := List.length_pos.2 (List.ne_nil_of_mem hs)
    exact validateSplits_actions (by simpa [hne] using hsplits) s hs a ha
  · exact validateMatches_actions hmatches m hm a ha

theorem validateVirtualServerRoutesFrom_routes {i : Nat} {routes : List Route}
    {allPaths : List String}
    (h : validateVirtualServerRoutesFrom parsers fieldPath upstreamNames i routes allPaths = some []) :
    ∀ r ∈ routes, ∃ p, validateRoute parsers r p upstreamNames false = some [] := by
  induction routes generalizing i allPaths with
  | nil => simp
  | cons r rest ih =>
    simp only [validateVirtualServerRoutesFrom] at h
    cases hr : validateRoute parsers r (fieldPath.index i) upstreamNames false with
    | none => simp [hr] at h
    | some errs =>
      simp only [hr] at h
      split_ifs at h with herrs hmem
      · simp only [appendErrs_eq_some_nil, Option.some.injEq] at h
        simp [h.1] at herrs
      · simp at h
      · rw [List.eq_nil_of_length_eq_zero (by omega : errs.length = 0)] at hr
        exact List.forall_mem_cons.2 ⟨⟨_, hr⟩, ih h⟩

theorem validateVirtualServerRouteSubroutesFrom_routes {vsPath : String} {i : Nat}
    {routes : List Route} {allPaths : List String}
    (h : validateVirtualServerRouteSubroutesFrom parsers fieldPath upstreamNames vsPath i routes
      allPaths = some []) :
    ∀ r ∈ routes, ∃ p, validateRoute parsers r p upstreamNames true = some [] := by
  induction routes generalizing i allPaths with
  | nil => simp
  | cons r rest ih =>
    simp only [validateVirtualServerRouteSubroutesFrom] at h
    cases hr : validateRoute parsers r (fieldPath.index i) upstreamNames true with
    | none => simp [hr] at h
    | some errs =>
      simp only [hr] at h
      split_ifs at h with herrs hmem
      · simp only [appendErrs_eq_some_nil, Option.some.injEq] at h
        simp [h.1] at herrs
      · simp at h
      · simp only [List.length_append, gt_iff_lt, not_lt, Nat.le_zero, Nat.add_eq_zero,
          List.length_eq_zero] at herrs
        rw [herrs.1] at hr
        exact List.forall_mem_cons.2 ⟨⟨_, hr⟩, ih h⟩

theorem validateVirtualServerRouteSubroutes_routes {routes : List Route} {vsPath : String}
    (h : validateVirtualServerRouteSubroutes parsers routes fieldPath upstreamNames vsPath = some []) :
    ∀ r ∈ routes, ∃ p, validateRoute parsers r p upstreamNames true = some [] := by
  unfold validateVirtualServerRouteSubroutes at h
  split_ifs at h
  · match routes, h with
    | [r], h =>
      by_cases hpath : r.path = vsPath
      · simp only [hpath, ne_eq, not_true_eq_false, if_false] at h
        exact List.forall_mem_singleton.2 ⟨_, h⟩
      · simp [hpath] at h
    | [], h => simp at h
    | _ :: _ :: _, h => simp at h
  · exact validateVirtualServerRouteSubroutesFrom_routes h

end

/-- What validation guarantees of the declarations the generator reads: every upstream of
    the VirtualServer and of its VirtualServerRoutes passes its checks, the TLS block passes
    `validateTLS`, and every action of every route passes `validateAction`. -/
structure DeclarationsValid (parsers : Parsers) (isPlus : Bool) (vsx : VirtualServerEx) : Prop where
  upstreams : ∀ u ∈ declaredUpstreams vsx, UpstreamFieldsValid parsers isPlus u
  tls : ∃ p, validateTLS vsx.virtualServer.spec.tls p = []
  actions : ∀ r ∈ declaredRoutes vsx, ∀ a, ActionOfRoute r a →
    ∃ p upstreamNames, validateAction a p upstreamNames = some []

/-- **Validated resources have valid declarations.** -/
theorem declarationsValid_of_validated {parsers : Parsers} {isPlus : Bool} {vsx : VirtualServerEx}
    (hvs : validateVirtualServer parsers vsx.virtualServer isPlus = some [])
    (hvsrs : VirtualServerRoutesAccepted parsers isPlus vsx) :
    DeclarationsValid parsers isPlus vsx := by
  obtain ⟨errs, hspec, hnil⟩ := Option.map_eq_some'.1 hvs
  rw [toAggregate_eq_nil.1 hnil] at hspec
  simp only [validateVirtualServerSpec, appendErrs_eq_some_nil, Option.some.injEq,
    List.append_eq_nil] at hspec
  obtain ⟨⟨⟨-, htls⟩, hupstreams⟩, hroutes⟩ := hspec
  have hvsr : ∀ vsr ∈ vsx.virtualServerRoutes,
      (∀ u ∈ vsr.spec.upstreams, UpstreamFieldsValid parsers isPlus u) ∧
      ∀ r ∈ vsr.spec.subroutes, ∃ p, validateRoute parsers r p
        (validateUpstreams parsers vsr.spec.upstreams ((Path.new "spec").child "upstreams") isPlus).2
        true = some [] := by
    intro vsr hvsr
    obtain ⟨vsPath, h⟩ := hvsrs vsr hvsr
    obtain ⟨errs, hspec, hnil⟩ := Option.map_eq_some'.1 h
    rw [toAggregate_eq_nil.1 hnil] at hspec
    simp only [validateVirtualServerRouteSpec, appendErrs_eq_some_nil, Option.some.injEq,
      List.append_eq_nil] at hspec
    exact ⟨upstreamFieldsValid_of_validateUpstreams _ _ hspec.1.2,
      validateVirtualServerRouteSubroutes_routes hspec.2⟩
  refine ⟨fun u hu => ?_, ⟨_, htls⟩, fun r hr a ha => ?_⟩
  · rcases List.mem_append.1 hu with hu | hu
    · exact upstreamFieldsValid_of_validateUpstreams _ _ hupstreams u hu
    · obtain ⟨us, hus, hu⟩ := List.mem_flatten.1 hu
      obtain ⟨vsr, hvsr', rfl⟩ := List.mem_map.1 hus
      exact (hvsr vsr hvsr').1 u hu
  · rcases List.mem_append.1 hr with hr | hr
    · obtain ⟨p, hp⟩ := validateVirtualServerRoutesFrom_routes hroutes r hr
      obtain ⟨q, hq⟩ := validateRoute_actions hp a ha
      exact ⟨q, _, hq⟩
    · obtain ⟨rs, hrs, hr⟩ := List.mem_flatten.1 hr
      obtain ⟨vsr, hvsr', rfl⟩ := List.mem_map.1 hrs
      obtain ⟨p, hp⟩ := (hvsr vsr hvsr').2 r hr
      obtain ⟨q, hq⟩ := validateRoute_actions hp a ha
      exact ⟨q, _, hq⟩

/-! ## Directive values -/

/-- The value of a directive the generator writes from a field: the default where the field
    is unset, and otherwise the field's value, which passed its check. -/
def DefaultOr (valid : String → Prop) (default value : String) : Prop :=
  value = default ∨ (value ≠ "" ∧ valid value)

theorem defaultOr_generateString (valid : String → Prop) {s : String} (h : s = "" ∨ valid s)
    (d : String) : DefaultOr valid d (generateString s d) := by
  unfold generateString DefaultOr
  by_cases hs : s = ""
  · exact .inl (if_pos hs)
  · rw [if_neg hs]
    exact .inr ⟨hs, h.resolve_left hs⟩

/-- A field the user set, and otherwise a directive value from another source. -/
theorem DefaultOr.ite {valid : String → Prop} {s d t : String} (h : s = "" ∨ valid s)
    (ht : DefaultOr valid d t) : DefaultOr valid d (if s ≠ "" then s else t) := by
  by_cases hs : s = ""
  · rwa [if_neg (not_not.2 hs)]
  · rw [if_pos hs]
    exact .inr ⟨hs, h.resolve_left hs⟩

theorem defaultOr_time {parsers : Parsers} {s : String} (h : TimeValid parsers s) (d : String) :
    DefaultOr (parsers.parseTime · = none) d (generateString s d) :=
  defaultOr_generateString (parsers.parseTime · = none) h d

theorem defaultOr_offset {s : String} (h : OffsetValid s) (d : String) :
    DefaultOr (isNumberWithUnit ['k', 'K', 'm', 'M', 'g', 'G'] ·.data = true) d (generateString s d) :=
  defaultOr_generateString (isNumberWithUnit ['k', 'K', 'm', 'M', 'g', 'G'] ·.data = true) h d

theorem defaultOr_size {s : String} (h : SizeValid s) (d : String) :
    DefaultOr (isNumberWithUnit ['k', 'K', 'm', 'M'] ·.data = true) d (generateString s d) :=
  defaultOr_generateString (isNumberWithUnit ['k', 'K', 'm', 'M'] ·.data = true) h d

/-! ## Proxying locations -/

/-- The directives of a proxying location that come from its upstream's declaration: each
    is its default or a value the validator accepted. A time is one `configs.ParseTime`
    reads, a body size an NGINX offset, a buffer size an NGINX size, `proxy_buffers` a
    positive number and a size, `proxy_next_upstream` distinct known parameters. -/
structure ProxyDirectivesValid (parsers : Parsers) (cfgParams : ConfigParams)
    (loc : Version2.Location) : Prop where
  connectTimeout : DefaultOr (parsers.parseTime · = none) cfgParams.proxyConnectTimeout
    loc.proxyConnectTimeout
  readTimeout : DefaultOr (parsers.parseTime · = none) cfgParams.proxyReadTimeout
    loc.proxyReadTimeout
  sendTimeout : DefaultOr (parsers.parseTime · = none) cfgParams.proxySendTimeout
    loc.proxySendTimeout
  clientMaxBodySize : DefaultOr (isNumberWithUnit ['k', 'K', 'm', 'M', 'g', 'G'] ·.data = true)
    cfgParams.clientMaxBodySize loc.clientMaxBodySize
  buffers : loc.proxyBuffers = cfgParams.proxyBuffers ∨ ∃ (number : Int) (size : String),
    0 < number ∧ isNumberWithUnit ['k', 'K', 'm', 'M'] size.data = true ∧
      loc.proxyBuffers = toString number ++ " " ++ size
  bufferSize : DefaultOr (isNumberWithUnit ['k', 'K', 'm', 'M'] ·.data = true)
    cfgParams.proxyBufferSize loc.proxyBufferSize
  nextUpstream : DefaultOr NextUpstreamValid "error timeout" loc.proxyNextUpstream
  nextUpstreamTimeout : DefaultOr (parsers.parseTime · = none) "0s" loc.proxyNextUpstreamTimeout
  nextUpstreamTries : 0 ≤ loc.proxyNextUpstreamTries

/-- A location proxying to a valid upstream, or to the zero `Upstream` of an undeclared name,
    has valid directives. -/
theorem proxyDirectivesValid_generateLocationForProxying {parsers : Parsers} {isPlus : Bool}
    {u : V1.Upstream} (hu : u = default ∨ UpstreamFieldsValid parsers isPlus u)
    (path upstreamName : String) (cfgParams : ConfigParams) :
    ProxyDirectivesValid parsers cfgParams
      (generateLocationForProxying path upstreamName u cfgParams) := by
  rcases hu with rfl | hu
  · exact ⟨.inl rfl, .inl rfl, .inl rfl, .inl rfl, .inl rfl, .inl rfl, .inl rfl, .inl rfl,
      le_refl _⟩
  refine ⟨defaultOr_time hu.connectTimeout _, defaultOr_time hu.readTimeout _,
    defaultOr_time hu.sendTimeout _, defaultOr_offset hu.clientMaxBodySize _, ?_,
    defaultOr_size hu.bufferSize _, defaultOr_generateString NextUpstreamValid ?_ _,
    defaultOr_time hu.nextUpstreamTimeout _, hu.nextUpstreamTries⟩
  · have hb := hu.buffers
    simp only [generateLocationForProxying, generateBuffers]
    rcases hbuf : u.proxyBuffers with _ | b
    · exact .inl rfl
    · rw [hbuf] at hb
      obtain ⟨hnum, hne, hsize⟩ := hb
      exact .inr ⟨b.number, b.size, hnum, hsize.resolve_left hne, rfl⟩
  · by_cases hs : u.proxyNextUpstream = ""
    · exact .inl hs
    · exact .inr hu.nextUpstream

section
variable {parsers : Parsers} {isPlus : Bool} (vsc : VirtualServerConfigurator)
  (pemFileNameForMissingTLSSecret tlsPemFileName : String) {vsx : VirtualServerEx}

/-- **The proxying locations of a validated configuration have valid directives.** For a
    VirtualServer and VirtualServerRoutes that the validator accepts, every location of the
    returned configuration that proxies has timeouts that `configs.ParseTime` reads, a body
    size, buffers and a buffer size in NGINX syntax, `proxy_next_upstream` parameters that
    NGINX knows with none repeated, and a non-negative number of tries, or the defaults. -/
theorem generateVirtualServerConfig_proxyDirectives_valid
    (hvs : validateVirtualServer parsers vsx.virtualServer isPlus = some [])
    (hvsrs : VirtualServerRoutesAccepted parsers isPlus vsx) :
    ∃ cfg warnings, vsc.generateVirtualServerConfig pemFileNameForMissingTLSSecret vsx
      tlsPemFileName = some (cfg, warnings) ∧
      ∀ loc ∈ cfg.server.locations, loc.return = none →
        ProxyDirectivesValid parsers vsc.cfgParams loc := by
  obtain ⟨cfg, u, -, hgen, -⟩ := generateVirtualServerConfig_of_valid vsc
    pemFileNameForMissingTLSSecret tlsPemFileName vsx (validateVirtualServer_sound hvs)
    hvsrs.specValid
  have hdecl := declarationsValid_of_validated hvs hvsrs
  obtain ⟨crUpstreams, hlookup, hlocs⟩ := (generateVirtualServerConfig_from hgen).locations
  refine ⟨cfg, _, hgen, fun loc hloc hret => ?_⟩
  obtain ⟨r, -, a, -, path, name, rfl⟩ := hlocs loc hloc
  rw [(generateLocation_eq_proxying hret).2.2]
  exact proxyDirectivesValid_generateLocationForProxying
    ((hlookup name).imp_right (hdecl.upstreams _)) path name vsc.cfgParams

/-- `cafeEx` whose upstream `tea` sets every directive of the locations that proxy to it. -/
def cafeTuned : VirtualServerEx :=
  { cafeEx with virtualServer := { cafeSplits with spec := { cafeSplits.spec with upstreams :=
      [{ name := "tea", service := "tea-svc", port := 80
         proxyConnectTimeout := "30s", proxyReadTimeout := "1m", proxySendTimeout := "45s"
         clientMaxBodySize := "4m", proxyBuffers := some { number := 8, size := "4k" }
         proxyBufferSize := "8k", proxyNextUpstream := "error timeout http_502"
         proxyNextUpstreamTimeout := "10s", proxyNextUpstreamTries := 3 },
       { name := "coffee", service := "coffee-svc", port := 80 }] } } }

theorem cafe_proxyDirectives_valid : ∃ cfg warnings,
    ossConfigurator.generateVirtualServerConfig "" cafeTuned "" = some (cfg, warnings) ∧
      (∃ loc ∈ cfg.server.locations, loc.proxyConnectTimeout = "30s" ∧
        loc.proxyReadTimeout = "1m" ∧ loc.proxySendTimeout = "45s" ∧
        loc.clientMaxBodySize = "4m" ∧ loc.proxyBuffers = "8 4k" ∧ loc.proxyBufferSize = "8k" ∧
        loc.proxyNextUpstream = "error timeout http_502" ∧
        loc.proxyNextUpstreamTimeout = "10s" ∧ loc.proxyNextUpstreamTries = 3) ∧
      ∀ loc ∈ cfg.server.locations, loc.return = none →
        ProxyDirectivesValid lenientParsers ossConfigurator.cfgParams loc := by
  have hvsrs : VirtualServerRoutesAccepted lenientParsers false cafeTuned := cafeEx_accepted
  obtain ⟨cfg, warnings, hgen, hvalid⟩ :=
    generateVirtualServerConfig_proxyDirectives_valid ossConfigurator "" "" (by decide) hvsrs
  refine ⟨cfg, warnings, hgen, ?_, hvalid⟩
  have hs : (ossConfigurator.generateVirtualServerConfig "" cafeTuned "").isSome := by decide
  obtain ⟨rfl, -⟩ := Prod.mk.inj_iff.1 (Option.some.inj (hgen.symm.trans (Option.some_get hs).symm))
  decide

end

/-! ## `return` directives and the TLS redirect -/

/-- A `return` that NGINX reads as the user meant it. A redirect has no default type, one
    of the redirect codes and a URL; a canned response has a default type NGINX can read
    and a 2XX, 4XX or 5XX code, so that NGINX never takes its body for a redirect URL. The
    text is never empty and fits between double quotes. -/
def ReturnWellFormed (loc : Version2.Location) : Prop :=
  ∀ r, loc.return = some r → r.text ≠ "" ∧ isEscapedString r.text.data = true ∧
    ((loc.defaultType = "" ∧ r.code ∈ validRedirectStatusCodes) ∨
      (loc.defaultType ≠ "" ∧ isActionReturnType loc.defaultType.data = true ∧
        ((200 ≤ r.code ∧ r.code ≤ 299) ∨ (400 ≤ r.code ∧ r.code ≤ 599))))

section
variable {fieldPath : Path}

theorem validateRedirectURL_eq_some_nil {url : String} (h : validateRedirectURL url fieldPath = some []) :
    url ≠ "" ∧ isEscapedString url.data = true := by
  unfold validateRedirectURL at h
  by_cases h1 : url = ""
  · simp [h1] at h
  by_cases h2 : isEscapedString url.data = true
  · exact ⟨h1, h2⟩
  · simp [h1, h2] at h

theorem validateRedirectStatusCode_eq_nil {code : Int}
    (h : validateRedirectStatusCode code fieldPath = []) : code ∈ validRedirectStatusCodes := by
  unfold validateRedirectStatusCode at h
  split_ifs at h with hc
  exact hc

theorem validateActionReturn_eq_some_nil {r : ActionReturn}
    (h : validateActionReturn r fieldPath = some []) :
    r.body ≠ "" ∧ isEscapedString r.body.data = true ∧
      (r.type ≠ "" → isActionReturnType r.type.data = true) ∧
      (r.code ≠ 0 → (200 ≤ r.code ∧ r.code ≤ 299) ∨ (400 ≤ r.code ∧ r.code ≤ 599)) := by
  by_cases hbody : r.body = ""
  · simp [validateActionReturn, hbody] at h
  simp only [validateActionReturn, if_neg hbody, appendErrs_eq_some_nil, validateActionReturnBody,
    Option.some.injEq, List.append_eq_nil] at h
  obtain ⟨⟨hesc, -⟩, htype, hcode⟩ := h
  refine ⟨hbody, by simpa using hesc, fun hne => ?_, fun hne => ?_⟩
  · simpa [hne, validateActionReturnType] using htype
  · simp only [hne, ne_eq, not_false_eq_true, if_true, validateActionReturnCode] at hcode
    split_ifs at hcode with hrange
    omega

/-- **A location built from a validated action has a well-formed `return`**, or none. -/
theorem generateLocation_returnWellFormed {a : Action} {upstreamNames : List String}
    (h : validateAction a fieldPath upstreamNames = some []) (path upstreamName : String)
    (u : V1.Upstream) (cfgParams : ConfigParams) :
    ReturnWellFormed (generateLocation path upstreamName u a cfgParams) := by
  by_cases hcount : countActions a ≠ 1
  · simp [validateAction, hcount] at h
  simp only [validateAction, if_neg hcount, appendErrs_eq_some_nil] at h
  obtain ⟨-, hredirect, hreturn⟩ := h
  rcases hrd : a.redirect with _ | rd
  · rcases hret : a.return with _ | ret
    · simp [generateLocation, hrd, hret, generateLocationForProxying, ReturnWellFormed]
    · simp only [hret] at hreturn
      obtain ⟨hbody, hesc, htype, hcode⟩ := validateActionReturn_eq_some_nil hreturn
      simp only [generateLocation, hrd, hret, generateLocationForReturnBlock, generateReturnBlock,
        ReturnWellFormed, Option.some.injEq, forall_eq']
      refine ⟨hbody, hesc, .inr ⟨by split_ifs <;> simp_all, ?_, ?_⟩⟩
      · split_ifs with ht
        · rfl
        · exact htype ht
      · split_ifs with hc
        · exact hcode hc
        · decide
  · simp only [hrd, validateActionRedirect, appendErrs_eq_some_nil, Option.some.injEq] at hredirect
    obtain ⟨hurl, hcode⟩ := hredirect
    obtain ⟨hne, hesc⟩ := validateRedirectURL_eq_some_nil hurl
    simp only [generateLocation, hrd, generateLocationForReturnBlock, generateReturnBlock,
      ReturnWellFormed, Option.some.injEq, forall_eq']
    refine ⟨hne, hesc, .inl ⟨by trivial, ?_⟩⟩
    split_ifs at hcode ⊢ with hc
    · exact validateRedirectStatusCode_eq_nil hcode
    · decide

/-- The TLS redirect of a TLS block that passes `validateTLS` uses a redirect code. -/
theorem generateTLSRedirectConfig_valid {tls : Option TLS} (h : validateTLS tls fieldPath = []) :
    ∀ t, generateTLSRedirectConfig tls = some t → t.code ∈ validRedirectStatusCodes ∧
      (t.basedOn = "$scheme" ∨ t.basedOn = "$http_x_forwarded_proto") := by
  intro t ht
  rcases tls with _ | ⟨secret, _ | rd⟩
  · cases ht
  · cases ht
  simp only [validateTLS, validateTLSRedirect, List.append_eq_nil] at h
  simp only [generateTLSRedirectConfig] at ht
  split_ifs at ht
  cases ht
  refine ⟨?_, ?_⟩
  · rcases hc : rd.code with _ | c
    · simp [generateIntFromPointer, hc, validRedirectStatusCodes]
    · simp only [hc] at h
      simpa [generateIntFromPointer, hc] using validateRedirectStatusCode_eq_nil h.2.1
  · unfold generateTLSRedirectBasedOn
    split_ifs
    · exact .inr rfl
    · exact .inl rfl

end

section
variable {parsers : Parsers} {isPlus : Bool} (vsc : VirtualServerConfigurator)
  (pemFileNameForMissingTLSSecret tlsPemFileName : String) {vsx : VirtualServerEx}

/-- **Every `return` of a validated configuration is one NGINX reads as meant.** For a
    VirtualServer and VirtualServerRoutes that the validator accepts, every location of the
    returned configuration that returns is a redirect with a redirect code and a URL, or a
    response with a default type and a 2XX, 4XX or 5XX code, never a 3XX code whose body
    NGINX would take for a URL; the text is never empty and fits between double quotes. The
    TLS redirect of the server, if any, uses a redirect code. -/
theorem generateVirtualServerConfig_returns_wellFormed
    (hvs : validateVirtualServer parsers vsx.virtualServer isPlus = some [])
    (hvsrs : VirtualServerRoutesAccepted parsers isPlus vsx) :
    ∃ cfg warnings, vsc.generateVirtualServerConfig pemFileNameForMissingTLSSecret vsx
      tlsPemFileName = some (cfg, warnings) ∧
      (∀ loc ∈ cfg.server.locations, ReturnWellFormed loc) ∧
      ∀ t, cfg.server.tlsRedirect = some t → t.code ∈ validRedirectStatusCodes ∧
        (t.basedOn = "$scheme" ∨ t.basedOn = "$http_x_forwarded_proto") := by
  obtain ⟨cfg, u, -, hgen, -⟩ := generateVirtualServerConfig_of_valid vsc
    pemFileNameForMissingTLSSecret tlsPemFileName vsx (validateVirtualServer_sound hvs)
    hvsrs.specValid
  have hdecl := declarationsValid_of_validated hvs hvsrs
  have hfrom := generateVirtualServerConfig_from hgen
  obtain ⟨crUpstreams, -, hlocs⟩ := hfrom.locations
  obtain ⟨p, htls⟩ := hdecl.tls
  refine ⟨cfg, _, hgen, fun loc hloc => ?_, hfrom.tlsRedirect ▸ generateTLSRedirectConfig_valid htls⟩
  obtain ⟨r, hr, a, ha, path, name, rfl⟩ := hlocs loc hloc
  obtain ⟨q, names, hq⟩ := hdecl.actions r hr a ha
  exact generateLocation_returnWellFormed hq path name _ vsc.cfgParams

/-- `cafe` with a route that redirects and one that returns. -/
def cafeReturns : VirtualServer :=
  { cafe with spec := { cafe.spec with
      routes := [{ path := "/tea", action := some { pass := "tea" } },
                 { path := "/old", action := some { redirect := some { url := "/tea" } } },
                 { path := "/teapot", action := some { «return» := some { code := 418, body := "I'm a teapot" } } }] } }

theorem cafeReturns_wellFormed : ∃ cfg warnings,
    ossConfigurator.generateVirtualServerConfig "" { virtualServer := cafeReturns } "" =
      some (cfg, warnings) ∧
      (∀ loc ∈ cfg.server.locations, ReturnWellFormed loc) ∧
      ∀ t, cfg.server.tlsRedirect = some t → t.code ∈ validRedirectStatusCodes ∧
        (t.basedOn = "$scheme" ∨ t.basedOn = "$http_x_forwarded_proto") :=
  @generateVirtualServerConfig_returns_wellFormed lenientParsers false ossConfigurator "" ""
    { virtualServer := cafeReturns } (by decide) (fun _ h => absurd h (List.not_mem_nil _))

end

/-! ## Health checks

`generateHealthCheck` starts from an empty Go map of headers and runs
`hc.Headers[h.Name] = h.Value` for each declared header: a header of a name already in the
map replaces its value in place, any other is added. -/

section
variable (headers : List (String × String)) (n v : String)

theorem mem_setHeader {p : String × String} (hp : p ∈ setHeader headers n v) :
    p ∈ headers ∨ p = (n, v) := by
  unfold setHeader at hp
  split_ifs at hp
  · obtain ⟨x, hx, rfl⟩ := List.mem_map.1 hp
    split_ifs
    · exact .inr rfl
    · exact .inl hx
  · simpa using hp

theorem nodup_setHeader (h : (headers.map (·.1)).Nodup) :
    ((setHeader headers n v).map (·.1)).Nodup := by
  unfold setHeader
  split_ifs with hany
  · rw [List.map_map]
    convert h using 1
    exact List.map_congr_left fun x _ => by simp only [Function.comp_apply]; split_ifs <;> simp_all
  · rw [List.map_append, List.nodup_append]
    refine ⟨h, List.nodup_singleton _, fun a ha hb => hany ?_⟩
    obtain ⟨x, hx, rfl⟩ := List.mem_map.1 ha
    exact List.any_eq_true.2 ⟨x, hx, by simpa using hb⟩

end

theorem foldl_setHeader_mem (hs : List Header) (acc : List (String × String)) :
    ∀ p ∈ hs.foldl (fun m h => setHeader m h.name h.value) acc,
      p ∈ acc ∨ ∃ x ∈ hs, p = (x.name, x.value) := by
  induction hs generalizing acc with
  | nil => exact fun p hp => .inl hp
  | cons h t ih =>
    intro p hp
    rcases ih _ p hp with hp | ⟨x, hx, rfl⟩
    · rcases mem_setHeader acc h.name h.value hp with hp | rfl
      · exact .inl hp
      · exact .inr ⟨h, List.mem_cons_self _ _, rfl⟩
    · exact .inr ⟨x, List.mem_cons_of_mem _ hx, rfl⟩

theorem foldl_setHeader_nodup (hs : List Header) (acc : List (String × String))
    (h : (acc.map (·.1)).Nodup) :
    ((hs.foldl (fun m h => setHeader m h.name h.value) acc).map (·.1)).Nodup := by
  induction hs generalizing acc with
  | nil => exact h
  | cons x t ih => exact ih _ (nodup_setHeader acc x.name x.value h)

section
variable {u : V1.Upstream} {upstreamName : String} {cfgParams : ConfigParams}
  {hc : Version2.HealthCheck}

/-- What `generateHealthCheck` returns, field by field: each field of the declared health
    check where it is set, and otherwise the default of `newHealthCheckWithDefaults`. -/
theorem generateHealthCheck_fields (h : generateHealthCheck u upstreamName cfgParams = some hc) :
    ∃ h', u.healthCheck = some h' ∧
      hc.uri = (if h'.path ≠ "" then h'.path else "/") ∧
      hc.interval = (if h'.interval ≠ "" then h'.interval else "5s") ∧
      hc.jitter = (if h'.jitter ≠ "" then h'.jitter else "0s") ∧
      hc.fails = (if h'.fails > 0 then h'.fails else 1) ∧
      hc.passes = (if h'.passes > 0 then h'.passes else 1) ∧
      hc.port = (if h'.port > 0 then h'.port else u.port.toNat) ∧
      hc.proxyConnectTimeout = (if h'.connectTimeout ≠ "" then h'.connectTimeout
        else generateString u.proxyConnectTimeout cfgParams.proxyConnectTimeout) ∧
      hc.proxyReadTimeout = (if h'.readTimeout ≠ "" then h'.readTimeout
        else generateString u.proxyReadTimeout cfgParams.proxyReadTimeout) ∧
      hc.proxySendTimeout = (if h'.sendTimeout ≠ "" then h'.sendTimeout
        else generateString u.proxySendTimeout cfgParams.proxySendTimeout) ∧
      hc.headers = h'.headers.foldl (fun hs x => setHeader hs x.name x.value) [] := by
  unfold generateHealthCheck at h
  rcases hu : u.healthCheck with _ | h'
  · simp [hu] at h
  · rw [hu] at h
    by_cases he : h'.enable = true
    · simp only [he, Bool.not_true, Bool.false_eq_true, if_false, Option.some.injEq] at h
      subst h
      exact ⟨h', rfl, rfl, rfl, rfl, rfl, rfl, rfl, rfl, rfl, rfl, rfl⟩
    · simp [he] at h

end

/-- A `health_check` that NGINX runs as the user meant it: it probes a valid path at a port
    NGINX accepts, needs at least one failure and one pass to change state, sends valid
    headers under distinct names, and its times are defaults or values `configs.ParseTime`
    reads. -/
structure HealthCheckDirectivesValid (parsers : Parsers) (cfgParams : ConfigParams)
    (hc : Version2.HealthCheck) : Prop where
  uri : isPath hc.uri.data = true
  interval : DefaultOr (parsers.parseTime · = none) "5s" hc.interval
  jitter : DefaultOr (parsers.parseTime · = none) "0s" hc.jitter
  fails : 1 ≤ hc.fails
  passes : 1 ≤ hc.passes
  port : 1 ≤ hc.port ∧ hc.port ≤ 65535
  connectTimeout : DefaultOr (parsers.parseTime · = none) cfgParams.proxyConnectTimeout
    hc.proxyConnectTimeout
  readTimeout : DefaultOr (parsers.parseTime · = none) cfgParams.proxyReadTimeout
    hc.proxyReadTimeout
  sendTimeout : DefaultOr (parsers.parseTime · = none) cfgParams.proxySendTimeout
    hc.proxySendTimeout
  headers_nodup : (hc.headers.map (·.1)).Nodup
  headers : ∀ p ∈ hc.headers, HeaderValid { name := p.1, value := p.2 }

/-- A health check generated from a valid upstream is one NGINX runs as meant. -/
theorem healthCheckDirectivesValid_of_generateHealthCheck {parsers : Parsers} {isPlus : Bool}
    {u : V1.Upstream} {upstreamName : String} {cfgParams : ConfigParams} {hc : Version2.HealthCheck}
    (hu : UpstreamFieldsValid parsers isPlus u)
    (h : generateHealthCheck u upstreamName cfgParams = some hc) :
    HealthCheckDirectivesValid parsers cfgParams hc := by
  obtain ⟨h', hh', huri, hint, hjit, hfails, hpasses, hport, hct, hrt, hst, hheaders⟩ :=
    generateHealthCheck_fields h
  have hv := hu.healthCheck h' hh'
  have hportu : u.port.toNat ≠ 0 := fun h0 => hu.port (UInt16.toNat.inj (by rw [h0]; rfl))
  have hportlt : u.port.toNat < 65536 := u.port.toBitVec.isLt
  refine ⟨?_, hint ▸ DefaultOr.ite hv.interval (.inl rfl), hjit ▸ DefaultOr.ite hv.jitter (.inl rfl),
    ?_, ?_, ?_, hct ▸ DefaultOr.ite hv.connectTimeout (defaultOr_time hu.connectTimeout _),
    hrt ▸ DefaultOr.ite hv.readTimeout (defaultOr_time hu.readTimeout _),
    hst ▸ DefaultOr.ite hv.sendTimeout (defaultOr_time hu.sendTimeout _),
    hheaders ▸ foldl_setHeader_nodup _ _ List.nodup_nil, fun p hp => ?_⟩
  · rw [huri]
    split_ifs with hpath
    · exact hv.path hpath
    · rfl
  · rw [hfails]
    split_ifs <;> omega
  · rw [hpasses]
    split_ifs <;> omega
  · rw [hport]
    split_ifs with hp
    · exact ⟨hp, hv.port hp⟩
    · omega
  · rw [hheaders] at hp
    rcases foldl_setHeader_mem _ _ p hp with hp | ⟨x, hx, rfl⟩
    · cases hp
    · exact hv.headers x hx

section
variable {parsers : Parsers} {isPlus : Bool} (vsc : VirtualServerConfigurator)
  (pemFileNameForMissingTLSSecret tlsPemFileName : String) {vsx : VirtualServerEx}

/-- **The health checks of a validated configuration run as meant.** For a VirtualServer and
    VirtualServerRoutes that the validator accepts, every health check of the returned
    configuration probes a valid path at a port in `1..65535`, needs at least one failure and
    one pass, sends valid headers under distinct names, and has times that are defaults or
    values `configs.ParseTime` reads. -/
theorem generateVirtualServerConfig_healthChecks_valid
    (hvs : validateVirtualServer parsers vsx.virtualServer isPlus = some [])
    (hvsrs : VirtualServerRoutesAccepted parsers isPlus vsx) :
    ∃ cfg warnings, vsc.generateVirtualServerConfig pemFileNameForMissingTLSSecret vsx
      tlsPemFileName = some (cfg, warnings) ∧
      ∀ hc ∈ cfg.server.healthChecks, HealthCheckDirectivesValid parsers vsc.cfgParams hc := by
  obtain ⟨cfg, u, -, hgen, -⟩ := generateVirtualServerConfig_of_valid vsc
    pemFileNameForMissingTLSSecret tlsPemFileName vsx (validateVirtualServer_sound hvs)
    hvsrs.specValid
  have hdecl := declarationsValid_of_validated hvs hvsrs
  refine ⟨cfg, _, hgen, fun hc hhc => ?_⟩
  obtain ⟨u, hu, h⟩ := (generateVirtualServerConfig_from hgen).healthChecks hc hhc
  exact healthCheckDirectivesValid_of_generateHealthCheck (hdecl.upstreams u hu) h

/-- The upstream `tea` with a health check that sets its probe and sends `Host` twice. -/
def teaHealthChecked : V1.Upstream :=
  { name := "tea", service := "tea-svc", port := 80
    healthCheck := some { enable := true, path := "/healthz", interval := "10s", jitter := "1s"
                          fails := 3, passes := 2, port := 8080, connectTimeout := "5s"
                          headers := [{ name := "Host", value := "tea" },
                                      { name := "Accept", value := "text/plain" },
                                      { name := "Host", value := "tea.example.com" }] } }

/-- `cafe` with the health-checked upstream `tea`. -/
def cafeHealthChecked : VirtualServer :=
  { cafe with spec := { cafe.spec with upstreams := [teaHealthChecked] } }

theorem cafeHealthChecked_valid : ∃ cfg warnings,
    plusConfigurator.generateVirtualServerConfig "" { virtualServer := cafeHealthChecked } "" =
      some (cfg, warnings) ∧
      ∀ hc ∈ cfg.server.healthChecks,
        HealthCheckDirectivesValid lenientParsers plusConfigurator.cfgParams hc :=
  @generateVirtualServerConfig_healthChecks_valid lenientParsers true plusConfigurator "" ""
    { virtualServer := cafeHealthChecked } (by decide) (fun _ h => absurd h (List.not_mem_nil _))

example : (plusConfigurator.generateVirtualServerConfig "" { virtualServer := cafeHealthChecked }
    "").map (·.1.server.healthChecks.map (·.headers)) =
      some [[("Host", "tea.example.com"), ("Accept", "text/plain")]] := by
  decide

end

/-! ## Status match blocks

NGINX Plus declares each `match` block at the `http` level, under its name. The generator
names the block of a health check after the upstream block it checks
(`generateStatusMatchName`), so the status matches follow the upstream blocks in order, and
their names are distinct where the blocks' names are. -/

section
variable {parsers : Parsers} {isPlus : Bool} (vsc : VirtualServerConfigurator)
  (pemFileNameForMissingTLSSecret tlsPemFileName : String) {vsx : VirtualServerEx}

end

/-! ## Upstream blocks -/

/-- The settings of an upstream block: each the declared value or the ConfigMap's, and the
    NGINX Plus directives only for NGINX Plus. -/
theorem generateUpstream_directives (vsc : VirtualServerConfigurator) (owner : Owner)
    (upstreamName : String) (u : V1.Upstream) (isExternalNameSvc : Bool)
    (endpoints : List String) :
    (vsc.generateUpstream owner upstreamName u isExternalNameSvc endpoints).1.keepalive =
        generateIntFromPointer u.keepalive vsc.cfgParams.keepalive ∧
      (vsc.generateUpstream owner upstreamName u isExternalNameSvc endpoints).1.maxFails =
        generateIntFromPointer u.maxFails vsc.cfgParams.maxFails ∧
      (vsc.generateUpstream owner upstreamName u isExternalNameSvc endpoints).1.maxConns =
        generateIntFromPointer u.maxConns vsc.cfgParams.maxConns ∧
      (vsc.generateUpstream owner upstreamName u isExternalNameSvc endpoints).1.failTimeout =
        generateString u.failTimeout vsc.cfgParams.failTimeout ∧
      (vsc.generateUpstream owner upstreamName u isExternalNameSvc endpoints).1.queue =
        (if vsc.isPlus then generateQueueForPlus u.queue "60s" else none) ∧
      (vsc.generateUpstream owner upstreamName u isExternalNameSvc endpoints).1.sessionCookie =
        if vsc.isPlus then generateSessionCookie u.sessionCookie else none := by
  unfold VirtualServerConfigurator.generateUpstream
  split_ifs <;> exact ⟨rfl, rfl, rfl, rfl, rfl, rfl⟩

theorem generateIntFromPointer_count {n : Option Int} (h : CountValid n) (d : Int) :
    generateIntFromPointer n d = d ∨ 0 ≤ generateIntFromPointer n d := by
  cases n with
  | none => exact .inl rfl
  | some k => exact .inr (h k rfl)

theorem generateLBMethod_valid {parsers : Parsers} {isPlus : Bool} {method : String}
    (h : LBMethodValid parsers isPlus method) (d : String) :
    generateLBMethod method d = d ∨ LBMethodValid parsers isPlus (generateLBMethod method d) := by
  unfold generateLBMethod
  split_ifs
  · exact .inl rfl
  · exact .inr (.inl rfl)
  · exact .inr h

/-- An `upstream` block NGINX runs as the user meant it: its load-balancing method, counts
    and `fail_timeout` are the ConfigMap's or values the validator accepted, and its NGINX
    Plus directives (slow start, queue, session cookie) are well formed. -/
structure UpstreamDirectivesValid (parsers : Parsers) (cfgParams : ConfigParams) (isPlus : Bool)
    (ups : Version2.Upstream) : Prop where
  lbMethod : ups.lbMethod = cfgParams.lbMethod ∨ LBMethodValid parsers isPlus ups.lbMethod
  failTimeout : DefaultOr (parsers.parseTime · = none) cfgParams.failTimeout ups.failTimeout
  maxFails : ups.maxFails = cfgParams.maxFails ∨ 0 ≤ ups.maxFails
  maxConns : ups.maxConns = cfgParams.maxConns ∨ 0 ≤ ups.maxConns
  keepalive : ups.keepalive = cfgParams.keepalive ∨ 0 ≤ ups.keepalive
  slowStart : TimeValid parsers ups.slowStart
  queue : ∀ q, ups.queue = some q →
    0 < q.size ∧ DefaultOr (parsers.parseTime · = none) "60s" q.timeout
  sessionCookie : ∀ sc, ups.sessionCookie = some sc → sc.enable = true ∧
    SessionCookieValid parsers
      { name := sc.name, path := sc.path, expires := sc.expires, domain := sc.domain }

/-- An upstream block built from a valid declaration is one NGINX runs as meant. -/
theorem upstreamDirectivesValid_of_builtFrom {parsers : Parsers} {isPlus isPlus' : Bool}
    {cfgParams : ConfigParams} {u : V1.Upstream} {ups : Version2.Upstream}
    (hu : UpstreamFieldsValid parsers isPlus u) (h : UpstreamBuiltFrom cfgParams isPlus' u ups) :
    UpstreamDirectivesValid parsers cfgParams isPlus ups := by
  obtain ⟨vsc, owner, isExt, endpoints, rfl, -, hups⟩ := h
  obtain ⟨hka, hmf, hmc, hft, hq, hsc⟩ :=
    generateUpstream_directives vsc owner ups.name u isExt endpoints
  rw [← hups] at hka hmf hmc hft hq hsc
  refine ⟨?_, hft ▸ defaultOr_time hu.failTimeout _, hmf ▸ generateIntFromPointer_count hu.maxFails _,
    hmc ▸ generateIntFromPointer_count hu.maxConns _, hka ▸ generateIntFromPointer_count hu.keepalive _,
    ?_, fun q hqs => ?_, fun sc hscs => ?_⟩
  · rw [hups, generateUpstream_lbMethod]
    exact generateLBMethod_valid hu.lbMethod _
  · rw [hups, generateUpstream_slowStart]
    split_ifs
    · exact hu.slowStart
    · exact .inl rfl
  · rw [hq] at hqs
    split_ifs at hqs
    obtain ⟨q', hq', rfl⟩ := Option.map_eq_some'.1 hqs
    have hv := hu.queue q' hq'
    exact ⟨hv.2, defaultOr_time hv.1 _⟩
  · rw [hsc] at hscs
    split_ifs at hscs
    unfold generateSessionCookie at hscs
    split at hscs
    · rename_i sc' hsc'
      split_ifs at hscs
      cases hscs
      have hv := hu.sessionCookie sc' hsc'
      exact ⟨rfl, hv.name, hv.path, hv.expires, hv.domain⟩
    · cases hscs

section
variable {parsers : Parsers} {isPlus : Bool} (vsc : VirtualServerConfigurator)
  (pemFileNameForMissingTLSSecret tlsPemFileName : String) {vsx : VirtualServerEx}

/-- **The upstream blocks of a validated configuration run as meant.** For a VirtualServer
    and VirtualServerRoutes that the validator accepts, every upstream block of the returned
    configuration has a load-balancing method, `max_fails`, `max_conns`, `keepalive` and
    `fail_timeout` that are the ConfigMap's or values the validator accepted, a slow start
    `configs.ParseTime` reads, a queue of positive size with a valid timeout, and an enabled
    session cookie with a valid name, path, expiry and domain. -/
theorem generateVirtualServerConfig_upstreams_valid
    (hvs : validateVirtualServer parsers vsx.virtualServer isPlus = some [])
    (hvsrs : VirtualServerRoutesAccepted parsers isPlus vsx) :
    ∃ cfg warnings, vsc.generateVirtualServerConfig pemFileNameForMissingTLSSecret vsx
      tlsPemFileName = some (cfg, warnings) ∧
      ∀ ups ∈ cfg.upstreams, UpstreamDirectivesValid parsers vsc.cfgParams isPlus ups := by
  obtain ⟨cfg, u, -, hgen, -⟩ := generateVirtualServerConfig_of_valid vsc
    pemFileNameForMissingTLSSecret tlsPemFileName vsx (validateVirtualServer_sound hvs)
    hvsrs.specValid
  have hdecl := declarationsValid_of_validated hvs hvsrs
  refine ⟨cfg, _, hgen, fun ups hups => ?_⟩
  obtain ⟨u, hu, h⟩ := (generateVirtualServerConfig_from hgen).upstreams ups hups
  exact upstreamDirectivesValid_of_builtFrom (hdecl.upstreams u hu) h

/-- `cafe` for NGINX Plus, with a queue and a session cookie on `coffee`. -/
def cafeSessions : VirtualServer :=
  { cafe with spec := { cafe.spec with
      upstreams := [teaHealthChecked,
        { name := "coffee", service := "coffee-svc", port := 80, lbMethod := "least_time header"
          queue := some { size := 10 }
          sessionCookie := some { enable := true, name := "srv_id", path := "/", expires := "1h" } }] } }

theorem cafeSessions_upstreams_valid : ∃ cfg warnings,
    plusConfigurator.generateVirtualServerConfig "" { virtualServer := cafeSessions } "" =
      some (cfg, warnings) ∧
      ∀ ups ∈ cfg.upstreams, UpstreamDirectivesValid lenientParsers plusConfigurator.cfgParams true ups :=
  @generateVirtualServerConfig_upstreams_valid lenientParsers true plusConfigurator "" ""
    { virtualServer := cafeSessions } (by decide) (fun _ h => absurd h (List.not_mem_nil _))

end

/-! ## NGINX OSS

`generateHealthCheck` does not look at the NGINX flavour: an OSS configurator emits the
health check of any upstream that declares one. It is the OSS tier of the validator,
`rejectPlusResourcesInOSS`, that keeps NGINX OSS from being given one. -/

/-- An upstream block an OSS configurator builds has no NGINX Plus directive. -/
theorem UpstreamBuiltFrom.plusFree {cfgParams : ConfigParams} {u : V1.Upstream}
    {ups : Version2.Upstream} (h : UpstreamBuiltFrom cfgParams false u ups) :
    ups.slowStart = "" ∧ ups.queue = none ∧ ups.sessionCookie = none := by
  obtain ⟨vsc, owner, isExt, endpoints, -, hoss, hups⟩ := h
  obtain ⟨-, -, -, -, hq, hsc⟩ := generateUpstream_directives vsc owner ups.name u isExt endpoints
  rw [← hups, hoss] at hq hsc
  refine ⟨?_, hq, hsc⟩
  rw [hups, generateUpstream_slowStart, hoss]
  simp

section
variable {parsers : Parsers} (vsc : VirtualServerConfigurator)
  (pemFileNameForMissingTLSSecret tlsPemFileName : String) {vsx : VirtualServerEx}

/-- **NGINX OSS is never given a directive only NGINX Plus implements.** For an OSS
    configurator and a VirtualServer and VirtualServerRoutes that the OSS tier of the
    validator accepts, the returned configuration has no active health check and no `match`
    block, and no upstream block has a slow start, a queue or a sticky cookie. -/
theorem generateVirtualServerConfig_oss_plusFree (hoss : vsc.isPlus = false)
    (hvs : validateVirtualServer parsers vsx.virtualServer false = some [])
    (hvsrs : VirtualServerRoutesAccepted parsers false vsx) :
    ∃ cfg warnings, vsc.generateVirtualServerConfig pemFileNameForMissingTLSSecret vsx
      tlsPemFileName = some (cfg, warnings) ∧
      cfg.server.healthChecks = [] ∧ cfg.statusMatches = [] ∧
      ∀ ups ∈ cfg.upstreams, ups.slowStart = "" ∧ ups.queue = none ∧ ups.sessionCookie = none := by
  obtain ⟨cfg, u, -, hgen, -⟩ := generateVirtualServerConfig_of_valid vsc
    pemFileNameForMissingTLSSecret tlsPemFileName vsx (validateVirtualServer_sound hvs)
    hvsrs.specValid
  have hdecl := declarationsValid_of_validated hvs hvsrs
  have hfrom := generateVirtualServerConfig_from hgen
  have hnone : ∀ u ∈ declaredUpstreams vsx, u.healthCheck = none := fun u hu =>
    ((hdecl.upstreams u hu).plusFields rfl).1
  refine ⟨cfg, _, hgen, List.eq_nil_iff_forall_not_mem.2 fun hc hhc => ?_,
    List.eq_nil_iff_forall_not_mem.2 fun sm hsm => ?_, fun ups hups => ?_⟩
  · obtain ⟨u, hu, h⟩ := hfrom.healthChecks hc hhc
    obtain ⟨h', hh', -⟩ := generateHealthCheck_fields h
    simp [hnone u hu] at hh'
  · obtain ⟨u, hu, h', hh', -⟩ := hfrom.statusMatches sm hsm
    simp [hnone u hu] at hh'
  · obtain ⟨u, -, h⟩ := hfrom.upstreams ups hups
    exact (hoss ▸ h).plusFree

theorem cafe_oss_plusFree : ∃ cfg warnings,
    ossConfigurator.generateVirtualServerConfig "" cafeEx "" = some (cfg, warnings) ∧
      cfg.server.healthChecks = [] ∧ cfg.statusMatches = [] ∧
      ∀ ups ∈ cfg.upstreams, ups.slowStart = "" ∧ ups.queue = none ∧ ups.sessionCookie = none :=
  generateVirtualServerConfig_oss_plusFree ossConfigurator "" "" rfl cafeSplits_validated
    cafeEx_accepted

end

/-- Validated for NGINX Plus, the health check of `cafeHealthChecked` reaches an OSS
    configuration. -/
example : (ossConfigurator.generateVirtualServerConfig "" { virtualServer := cafeHealthChecked } "").map
    (·.1.server.healthChecks.length) = some 1 := by
  decide

end KubernetesIngress.Configs
