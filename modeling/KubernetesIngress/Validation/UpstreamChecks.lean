import KubernetesIngress.Validation.Tiers
import KubernetesIngress.Validation.StatusMatch
import KubernetesIngress.Configs.EndpointKeys

set_option autoImplicit false

/-! # What the upstream checks accept

The loop body of `validateUpstreams` runs some twenty checks on one upstream: times that
`configs.ParseTime` must read, offsets and sizes in NGINX syntax, the parameters of
`proxy_next_upstream`, the health check with its headers, the session cookie, the queue, the
port, and in OSS the ban on the fields only NGINX Plus implements. This file states what each
check accepts as a predicate over the `v1` record, and proves that the check finds no error
exactly when the predicate holds. The loop of `validateNextUpstream` carries the set of the
parameters seen so far, so what it accepts is a list of valid parameters, none twice
(`validateNextUpstream_eq_nil_iff`).

Assembled, they give the exact meaning of the upstream loop (`validateUpstreams_eq_nil_iff`):
it finds no error in a list of upstreams exactly when their names are pairwise distinct
DNS-1035 labels and each upstream is `UpstreamFieldsValid`. -/

namespace KubernetesIngress.Validation

open V1

variable (parsers : Parsers)

/-! ## Times, offsets, sizes and counts -/

/-- A time `validateTime` accepts: none, or one that `configs.ParseTime` reads. -/
def TimeValid (time : String) : Prop := time = "" ∨ parsers.parseTime time = none

/-- An offset `validateOffset` accepts: none, or `\d+[kKmMgG]?`. -/
def OffsetValid (offset : String) : Prop :=
  offset = "" ∨ isNumberWithUnit ['k', 'K', 'm', 'M', 'g', 'G'] offset.data = true

/-- A size `validateSize` accepts: none, or `\d+[kKmM]?`. -/
def SizeValid (size : String) : Prop :=
  size = "" ∨ isNumberWithUnit ['k', 'K', 'm', 'M'] size.data = true

/-- A count `validatePositiveIntOrZeroFromPointer` accepts: unset, or not negative. -/
def CountValid (n : Option Int) : Prop := ∀ k, n = some k → 0 ≤ k

/-- Buffers `validateBuffer` accepts: none, or a positive number of buffers of a given size. -/
def BuffersValid : Option UpstreamBuffers → Prop
  | none => True
  | some b => 0 < b.number ∧ b.size ≠ "" ∧ SizeValid b.size

/-- A load-balancing method `validateUpstreamLBMethod` accepts under the tier `isPlus`. -/
def LBMethodValid (isPlus : Bool) (lbMethod : String) : Prop :=
  lbMethod = "" ∨
    (if isPlus then parsers.parseLBMethodForPlus else parsers.parseLBMethod) lbMethod = none

section
variable {parsers} (fieldPath : Path)

@[simp] theorem validateTime_eq_nil_iff (time : String) :
    validateTime parsers time fieldPath = [] ↔ TimeValid parsers time := by
  unfold validateTime TimeValid
  by_cases h : time = ""
  · simp [h]
  · cases hp : parsers.parseTime time <;> simp [h, hp]

@[simp] theorem validateOffset_eq_nil_iff (offset : String) :
    validateOffset offset fieldPath = [] ↔ OffsetValid offset := by
  unfold validateOffset OffsetValid
  split_ifs <;> simp_all

@[simp] theorem validateSize_eq_nil_iff (size : String) :
    validateSize size fieldPath = [] ↔ SizeValid size := by
  unfold validateSize SizeValid
  split_ifs <;> simp_all

@[simp] theorem validatePositiveIntOrZeroFromPointer_eq_nil_iff (n : Option Int) :
    validatePositiveIntOrZeroFromPointer n fieldPath = [] ↔ CountValid n := by
  cases n <;> simp [validatePositiveIntOrZeroFromPointer, CountValid]

@[simp] theorem validatePositiveIntOrZero_eq_nil_iff (n : Int) :
    validatePositiveIntOrZero n fieldPath = [] ↔ 0 ≤ n := by
  simp [validatePositiveIntOrZero]

@[simp] theorem validateBuffer_eq_nil_iff (buff : Option UpstreamBuffers) :
    validateBuffer buff fieldPath = [] ↔ BuffersValid buff := by
  rcases buff with _ | b
  · simp [validateBuffer, BuffersValid]
  · by_cases hsize : b.size = "" <;> simp [validateBuffer, BuffersValid, hsize]

@[simp] theorem validateUpstreamLBMethod_eq_nil_iff (lbMethod : String) (isPlus : Bool) :
    validateUpstreamLBMethod parsers lbMethod fieldPath isPlus = [] ↔
      LBMethodValid parsers isPlus lbMethod := by
  unfold validateUpstreamLBMethod LBMethodValid
  by_cases h : lbMethod = ""
  · simp [h]
  · cases hp : (if isPlus then parsers.parseLBMethodForPlus else parsers.parseLBMethod) lbMethod <;>
      simp [h, hp]

end

/-! ## Paths, names and headers -/

section
variable (fieldPath : Path)

@[simp] theorem validatePath_eq_nil_iff (path : String) :
    validatePath path fieldPath = [] ↔ isPath path.data = true := by
  unfold validatePath
  by_cases h : path = ""
  · simp [h, isPath]
  · split_ifs <;> simp_all

@[simp] theorem validateDNS1035Label_eq_nil_iff (name : String) :
    validateDNS1035Label name fieldPath = [] ↔ IsDNS1035Label name := by
  unfold validateDNS1035Label IsDNS1035Label
  by_cases h : name = ""
  · simp [h, isDNS1035LabelChars]
  · simp [h, isDNS1035Label]

/-- A header `validateHeader` accepts: an HTTP header name and a value with every `"`
    escaped, no `$`, and no unescaped `\` at the end. -/
def HeaderValid (h : Header) : Prop :=
  isHTTPHeaderName h.name = [] ∧ isHeaderValue h.value.data = true

@[simp] theorem validateHeader_eq_nil_iff (h : Header) :
    validateHeader h fieldPath = [] ↔ HeaderValid h := by
  unfold validateHeader HeaderValid isValidHeaderValue
  by_cases hname : h.name = ""
  · simp [hname, isHTTPHeaderName]
  · split_ifs <;> simp_all

theorem validateHeaders_eq_nil_iff :
    ∀ (i : Nat) (headers : List Header),
      validateHeaders fieldPath i headers = [] ↔ ∀ h ∈ headers, HeaderValid h
  | _, [] => by simp [validateHeaders]
  | i, h :: rest => by
    simp [validateHeaders, validateHeaders_eq_nil_iff (i + 1) rest]

/-- Whether a status match is accepted does not depend on where it is: the path only
    labels the errors. -/
theorem validateStatusMatch_eq_nil_congr (s : String) (q : Path) :
    validateStatusMatch s fieldPath = [] ↔ validateStatusMatch s q = [] := by
  have hparts : ∀ values, validateStatusMatchParts s fieldPath 0 values = [] ↔
      validateStatusMatchParts s q 0 values = []
    | [] => by simp [validateStatusMatchParts]
    | v :: vs => by
      rw [validateStatusMatchParts_zero_eq_nil_iff, validateStatusMatchParts_zero_eq_nil_iff]
  unfold validateStatusMatch
  split_ifs <;> simp [hparts]

end

/-! ## Health checks, session cookies and queues -/

/-- A health check `validateUpstreamHealthCheck` accepts. -/
structure HealthCheckValid (hc : HealthCheck) : Prop where
  path : hc.path ≠ "" → isPath hc.path.data = true
  interval : TimeValid parsers hc.interval
  jitter : TimeValid parsers hc.jitter
  fails : 0 ≤ hc.fails
  passes : 0 ≤ hc.passes
  connectTimeout : TimeValid parsers hc.connectTimeout
  readTimeout : TimeValid parsers hc.readTimeout
  sendTimeout : TimeValid parsers hc.sendTimeout
  statusMatch : ∀ fieldPath, validateStatusMatch hc.statusMatch fieldPath = []
  headers : ∀ h ∈ hc.headers, HeaderValid h
  port : 0 < hc.port → hc.port ≤ 65535

/-- A session cookie `validateSessionCookie` accepts. A domain may start with `.`. -/
structure SessionCookieValid (sc : SessionCookie) : Prop where
  name : isNameOfWordChars sc.name.data = true
  path : sc.path ≠ "" → isPath sc.path.data = true
  expires : sc.expires ≠ "max" → TimeValid parsers sc.expires
  domain : sc.domain ≠ "" → isDNS1123Subdomain (Go.trimPrefix sc.domain ".") = []

/-- A queue `validateQueue` accepts: a time and a positive size. -/
def QueueValid (q : UpstreamQueue) : Prop := TimeValid parsers q.timeout ∧ 0 < q.size

section
variable {parsers} (fieldPath : Path)

theorem validateUpstreamHealthCheck_eq_nil_iff (hc : HealthCheck) :
    validateUpstreamHealthCheck parsers (some hc) fieldPath = [] ↔ HealthCheckValid parsers hc := by
  have hport : (if hc.port > 0 then (isValidPortNum hc.port).map
      (invalid (fieldPath.child "port") (.int hc.port)) else []) = [] ↔ (0 < hc.port → hc.port ≤ 65535) := by
    by_cases h : 0 < hc.port <;> simp [h, isValidPortNum]
    omega
  have hpath : (if hc.path ≠ "" then validatePath hc.path (fieldPath.child "path") else []) = [] ↔
      (hc.path ≠ "" → isPath hc.path.data = true) := by
    by_cases h : hc.path = "" <;> simp [h]
  simp only [validateUpstreamHealthCheck, List.append_eq_nil, hport, hpath, validateTime_eq_nil_iff,
    validatePositiveIntOrZero_eq_nil_iff, validateHeaders_eq_nil_iff, and_assoc]
  constructor
  · rintro ⟨h1, h2, h3, h4, h5, h6, h7, h8, h9, h10, h11⟩
    exact ⟨h1, h2, h3, h4, h5, h6, h7, h8, fun q => (validateStatusMatch_eq_nil_congr _ _ q).1 h9,
      h10, h11⟩
  · rintro ⟨h1, h2, h3, h4, h5, h6, h7, h8, h9, h10, h11⟩
    exact ⟨h1, h2, h3, h4, h5, h6, h7, h8, h9 _, h10, h11⟩

theorem validateSessionCookie_eq_nil_iff (sc : SessionCookie) :
    validateSessionCookie parsers (some sc) fieldPath = [] ↔ SessionCookieValid parsers sc := by
  have hname : (if sc.name = "" then [required (fieldPath.child "name") ""]
      else (isCookieName sc.name).map (invalid (fieldPath.child "name") (.str sc.name))) = [] ↔
      isNameOfWordChars sc.name.data = true := by
    by_cases h : sc.name = ""
    · simp [h, isNameOfWordChars]
    · by_cases hw : isNameOfWordChars sc.name.data = true <;> simp [h, hw, isCookieName]
  have hpath : (if sc.path ≠ "" then validatePath sc.path (fieldPath.child "path") else []) = [] ↔
      (sc.path ≠ "" → isPath sc.path.data = true) := by
    by_cases h : sc.path = "" <;> simp [h]
  have hexpires : (if sc.expires ≠ "max" then validateTime parsers sc.expires
      (fieldPath.child "expires") else []) = [] ↔ (sc.expires ≠ "max" → TimeValid parsers sc.expires) := by
    by_cases h : sc.expires = "max" <;> simp [h]
  have hdomain : (if sc.domain ≠ "" then (isDNS1123Subdomain (Go.trimPrefix sc.domain ".")).map
      (invalid (fieldPath.child "domain") (.str sc.domain)) else []) = [] ↔
      (sc.domain ≠ "" → isDNS1123Subdomain (Go.trimPrefix sc.domain ".") = []) := by
    by_cases h : sc.domain = "" <;> simp [h]
  simp only [validateSessionCookie, List.append_eq_nil, hname, hpath, hexpires, hdomain, and_assoc]
  exact ⟨fun ⟨h1, h2, h3, h4⟩ => ⟨h1, h2, h3, h4⟩, fun ⟨h1, h2, h3, h4⟩ => ⟨h1, h2, h3, h4⟩⟩

theorem validateQueue_eq_nil_iff (q : UpstreamQueue) :
    validateQueue parsers (some q) fieldPath = [] ↔ QueueValid parsers q := by
  by_cases h : q.size ≤ 0 <;> simp [validateQueue, QueueValid, h]
  omega

end

/-! ## `proxy_next_upstream` -/

/-- The `proxy_next_upstream` parameters `validateNextUpstream` accepts: each one of
    `validNextUpstreamParams`, none twice. -/
def NextUpstreamValid (nextUpstream : String) : Prop :=
  (Go.fields nextUpstream).Nodup ∧ ∀ p ∈ Go.fields nextUpstream, p ∈ validNextUpstreamParams

/-- The loop of `validateNextUpstream`, from the parameters `allParams` seen so far: no
    error exactly when the parameters left are valid, pairwise distinct and none seen. -/
theorem validateNextUpstreamParams_eq_nil_iff (fieldPath : Path) :
    ∀ (allParams params : List String),
      validateNextUpstreamParams fieldPath allParams params = [] ↔
        params.Nodup ∧ (∀ p ∈ params, p ∉ allParams) ∧ ∀ p ∈ params, p ∈ validNextUpstreamParams
  | _, [] => by simp [validateNextUpstreamParams]
  | allParams, para :: rest => by
    by_cases hseen : para ∈ allParams
    · simp [validateNextUpstreamParams, hseen]
    · rw [validateNextUpstreamParams, if_neg hseen, List.append_eq_nil,
        validateNextUpstreamParams_eq_nil_iff fieldPath (allParams ++ [para]) rest]
      simp only [List.nodup_cons, List.forall_mem_cons, List.mem_append, List.mem_singleton,
        not_or, ite_eq_left_iff, reduceCtorEq, imp_false, not_not]
      constructor
      · rintro ⟨hvalid, hrest, hfresh, hall⟩
        exact ⟨⟨fun hmem => (hfresh para hmem).2 rfl, hrest⟩,
          ⟨hseen, fun p hp => (hfresh p hp).1⟩, hvalid, hall⟩
      · rintro ⟨⟨hnot, hrest⟩, ⟨-, hfresh⟩, hvalid, hall⟩
        exact ⟨hvalid, hrest, fun p hp => ⟨hfresh p hp, fun h => hnot (h ▸ hp)⟩, hall⟩

/-- **The parameters of `proxy_next_upstream`.** `validateNextUpstream` finds no error in a
    value exactly when its whitespace-separated parameters are each one NGINX knows and
    pairwise distinct: the set of parameters seen so far, which the loop carries, catches
    every repetition. -/
theorem validateNextUpstream_eq_nil_iff (nextUpstream : String) (fieldPath : Path) :
    validateNextUpstream nextUpstream fieldPath = [] ↔ NextUpstreamValid nextUpstream := by
  by_cases h : nextUpstream = ""
  · subst h
    exact ⟨fun _ => ⟨List.nodup_nil, fun _ hp => absurd hp (List.not_mem_nil _)⟩, fun _ => rfl⟩
  · rw [validateNextUpstream, if_neg h, validateNextUpstreamParams_eq_nil_iff, NextUpstreamValid]
    simp

example : validateNextUpstream "error timeout http_502" (.new "next-upstream") = [] := by decide

example : validateNextUpstream "error timeout error" (.new "next-upstream") ≠ [] := by decide

/-! ## One upstream -/

/-- An upstream whose every field passes its check in the loop body of `validateUpstreams`,
    under the tier `isPlus`; the name, which the loop also checks against the names before
    it, apart. -/
@[mk_iff] structure UpstreamFieldsValid (isPlus : Bool) (u : Upstream) : Prop where
  service : IsDNS1035Label u.service
  subselector : Configs.LabelsValid u.subselector
  connectTimeout : TimeValid parsers u.proxyConnectTimeout
  readTimeout : TimeValid parsers u.proxyReadTimeout
  sendTimeout : TimeValid parsers u.proxySendTimeout
  nextUpstream : NextUpstreamValid u.proxyNextUpstream
  nextUpstreamTimeout : TimeValid parsers u.proxyNextUpstreamTimeout
  nextUpstreamTries : 0 ≤ u.proxyNextUpstreamTries
  lbMethod : LBMethodValid parsers isPlus u.lbMethod
  failTimeout : TimeValid parsers u.failTimeout
  maxFails : CountValid u.maxFails
  keepalive : CountValid u.keepalive
  maxConns : CountValid u.maxConns
  clientMaxBodySize : OffsetValid u.clientMaxBodySize
  healthCheck : ∀ hc, u.healthCheck = some hc → HealthCheckValid parsers hc
  slowStart : TimeValid parsers u.slowStart
  buffers : BuffersValid u.proxyBuffers
  bufferSize : SizeValid u.proxyBufferSize
  queue : ∀ q, u.queue = some q → QueueValid parsers q
  sessionCookie : ∀ sc, u.sessionCookie = some sc → SessionCookieValid parsers sc
  port : u.port ≠ 0
  plusFields : isPlus = false → PlusFieldsUnset u

section
variable {parsers} (fieldPath : Path)

theorem validateOptional_eq_nil_iff {α : Type} (check : Option α → Path → List FieldError)
    (P : α → Prop) (hnone : check none fieldPath = [])
    (hsome : ∀ a, check (some a) fieldPath = [] ↔ P a) (x : Option α) :
    check x fieldPath = [] ↔ ∀ a, x = some a → P a := by
  cases x <;> simp [hnone, hsome]

theorem isValidPortNum_toNat_eq_nil_iff (port : UInt16) (idxPath : Path) :
    (isValidPortNum port.toNat).map (invalid idxPath (.int port.toNat)) = [] ↔ port ≠ 0 := by
  have hlt : port.toNat < 65536 := port.toBitVec.isLt
  have hne : port ≠ 0 ↔ port.toNat ≠ 0 :=
    not_congr ⟨fun h => by rw [h]; rfl, fun h => UInt16.toNat.inj (by rw [h]; rfl)⟩
  rw [hne]
  simp only [isValidPortNum, List.map_eq_nil_iff]
  split_ifs <;> simp <;> omega

theorem rejectPlusResourcesInOSS_eq_nil_iff' (u : Upstream) (isPlus : Bool) :
    rejectPlusResourcesInOSS u fieldPath isPlus = [] ↔ (isPlus = false → PlusFieldsUnset u) := by
  cases isPlus
  · simpa using rejectPlusResourcesInOSS_eq_nil_iff u fieldPath
  · simp

/-- **The checks of one upstream**: they find no error exactly when the upstream is
    `UpstreamFieldsValid`. -/
theorem validateUpstreamFields_eq_nil_iff (u : Upstream) (isPlus : Bool) :
    validateUpstreamFields parsers u fieldPath isPlus = [] ↔ UpstreamFieldsValid parsers isPlus u := by
  have hhc := validateOptional_eq_nil_iff (fieldPath.child "healthCheck")
    (validateUpstreamHealthCheck parsers) _ rfl (validateUpstreamHealthCheck_eq_nil_iff _) u.healthCheck
  have hq := validateOptional_eq_nil_iff (fieldPath.child "queue")
    (validateQueue parsers) _ rfl (validateQueue_eq_nil_iff _) u.queue
  have hsc := validateOptional_eq_nil_iff (fieldPath.child "sessionCookie")
    (validateSessionCookie parsers) _ rfl (validateSessionCookie_eq_nil_iff _) u.sessionCookie
  simp only [validateUpstreamFields, List.append_eq_nil, validateServiceName,
    validateDNS1035Label_eq_nil_iff, Configs.validateLabels_eq_nil_iff, validateTime_eq_nil_iff,
    validateNextUpstream_eq_nil_iff, validatePositiveIntOrZeroFromPointer_eq_nil_iff,
    validateUpstreamLBMethod_eq_nil_iff, validateOffset_eq_nil_iff, hhc, validateBuffer_eq_nil_iff,
    validateSize_eq_nil_iff, hq, hsc, isValidPortNum_toNat_eq_nil_iff,
    rejectPlusResourcesInOSS_eq_nil_iff', upstreamFieldsValid_iff, and_assoc]
  simp [CountValid]

end

/-! ## The upstream loop -/

section
variable {parsers} (fieldPath : Path) (isPlus : Bool)

/-- The loop of `validateUpstreams` from upstream `i` on, with the distinct names `names`
    collected before: no error exactly when the names stay distinct, each a DNS-1035 label,
    and every upstream is valid. -/
theorem validateUpstreamsFrom_eq_nil_iff :
    ∀ (i : Nat) (us : List Upstream) (names : List String), names.Nodup →
      ((validateUpstreamsFrom parsers fieldPath isPlus i us names).1 = [] ↔
        (names ++ us.map (·.name)).Nodup ∧
          ∀ u ∈ us, IsDNS1035Label u.name ∧ UpstreamFieldsValid parsers isPlus u)
  | _, [], _, hnames => by simpa [validateUpstreamsFrom] using hnames
  | i, u :: us, names, hnames => by
    have hfields := @validateUpstreamFields_eq_nil_iff parsers (fieldPath.index i) u isPlus
    rw [validateUpstreamsFrom_cons, upstreamNameCheck]
    by_cases hlabel : IsDNS1035Label u.name
    · have herrs : validateUpstreamName u.name ((fieldPath.index i).child "name") = [] :=
        (validateDNS1035Label_eq_nil_iff _ _).2 hlabel
      by_cases hmem : u.name ∈ names
      · have hdup : ¬(names ++ u.name :: us.map (·.name)).Nodup := fun h =>
          (List.nodup_append.1 h).2.2 hmem (List.mem_cons_self _ _)
        simp [herrs, hmem, hdup]
      · have hrest := validateUpstreamsFrom_eq_nil_iff (i + 1) us (names ++ [u.name])
          (List.nodup_append.2 ⟨hnames, List.nodup_singleton _, by simpa using hmem⟩)
        simp only [herrs, List.length_nil, gt_iff_lt, Nat.lt_irrefl, if_false, hmem,
          List.nil_append, List.append_eq_nil, hfields, hrest, List.map_cons,
          List.forall_mem_cons, List.append_assoc, List.singleton_append]
        exact ⟨fun ⟨hf, hn, hr⟩ => ⟨hn, ⟨hlabel, hf⟩, hr⟩, fun ⟨hn, ⟨_, hf⟩, hr⟩ => ⟨hf, hn, hr⟩⟩
    · have herrs : validateUpstreamName u.name ((fieldPath.index i).child "name") ≠ [] :=
        fun h => hlabel ((validateDNS1035Label_eq_nil_iff _ _).1 h)
      simp [herrs, List.length_pos.2 herrs, hlabel]

/-- Every upstream of a list `validateUpstreams` accepts is valid. -/
theorem upstreamFieldsValid_of_validateUpstreams {us : List Upstream}
    (h : (validateUpstreams parsers us fieldPath isPlus).1 = []) :
    ∀ u ∈ us, UpstreamFieldsValid parsers isPlus u := fun u hu =>
  (((validateUpstreamsFrom_eq_nil_iff fieldPath isPlus 0 us [] List.nodup_nil).1 h).2 u hu).2

/-- **The exact meaning of the upstream checks.** `validateUpstreams` finds no error in a
    list of upstreams exactly when their names are pairwise distinct DNS-1035 labels and
    every upstream has valid times, sizes, offsets, counts, `proxy_next_upstream`
    parameters, health check, queue, session cookie and port, a load-balancing method the
    tier's parser accepts, and, in OSS, none of the fields only NGINX Plus implements. -/
theorem validateUpstreams_eq_nil_iff (us : List Upstream) :
    (validateUpstreams parsers us fieldPath isPlus).1 = [] ↔
      UpstreamsValid us ∧ ∀ u ∈ us, UpstreamFieldsValid parsers isPlus u := by
  rw [validateUpstreams, validateUpstreamsFrom_eq_nil_iff fieldPath isPlus 0 us [] List.nodup_nil]
  exact ⟨fun ⟨hnodup, h⟩ => ⟨⟨by simpa using hnodup, fun u hu => (h u hu).1⟩, fun u hu => (h u hu).2⟩,
    fun ⟨⟨hnodup, hlabels⟩, h⟩ => ⟨by simpa using hnodup, fun u hu => ⟨hlabels u hu, h u hu⟩⟩⟩

end

end KubernetesIngress.Validation
