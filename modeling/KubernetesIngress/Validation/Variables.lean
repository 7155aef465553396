import KubernetesIngress.Validation.Routes

set_option autoImplicit false

/-! # The grammar of strings with variables

A redirect URL and a return body may refer to NGINX variables as `${name}`. The validator
checks such a string in three passes (`validateStringWithVariables`): the string must not end
with `$`; every `$` must be followed by `{`, with a `}` somewhere after it; and every name
that `captureVariables` reads between `${` and the next `}` must be allowed, either on a
whitelist or, after one of the special prefixes `arg_`, `http_` and `cookie_`, as a name of
its family.

This file states the language of these strings, `(c | ${v})*` with `c` a character other
than `$` and `v` an allowed name (`WithVariables`), and proves that the validator accepts
exactly it for the whitelist and the prefixes each of its two callers passes
(`validateStringWithVariables_iff`). The proof reads the pieces of an accepted string off
the two scans (`exists_pieces`), and runs the scans over the rendering of allowed pieces
(`variablesEnclosed_render`, `captureVariables_render`). -/

namespace KubernetesIngress.Validation

/-! ## The language -/

/-- A piece of a string with variables: a character, or a reference `${v}`. -/
inductive Piece
  | char (c : Char)
  | var (v : String)

/-- The characters of a piece. -/
def Piece.render : Piece → List Char
  | .char c => [c]
  | .var v => '$' :: '\x7b' :: (v.data ++ ['\x7d'])

/-- The name a piece refers to, if it is a reference. -/
def Piece.reference : Piece → Option String
  | .char _ => none
  | .var v => some v

/-- The names a reference may have: a name of the whitelist `validVars`, or a prefix of
    `specialVars` followed by a name of its family, which is word characters after `arg_`
    and `cookie_`, and after `http_` an HTTP header name with each `-` written `_`. -/
inductive VariableName (validVars specialVars : List String) : String → Prop
  | listed {v : String} : v ∈ validVars → VariableName validVars specialVars v
  | arg {x : String} : "arg_" ∈ specialVars → isNameOfWordChars x.data = true →
      VariableName validVars specialVars ("arg_" ++ x)
  | cookie {x : String} : "cookie_" ∈ specialVars → isNameOfWordChars x.data = true →
      VariableName validVars specialVars ("cookie_" ++ x)
  | http {x : String} : "http_" ∈ specialVars →
      isHTTPHeaderName (Go.replaceAll x '_' '-') = [] → '-' ∉ x.data →
      VariableName validVars specialVars ("http_" ++ x)

/-- A piece the language allows: a character other than `$`, or a reference to an allowed
    name. -/
def Piece.Allowed (validVars specialVars : List String) : Piece → Prop
  | .char c => c ≠ '$'
  | .var v => VariableName validVars specialVars v

/-- **The strings with variables**: the renderings of the lists of allowed pieces. -/
def WithVariables (validVars specialVars : List String) (s : String) : Prop :=
  ∃ ps : List Piece, (∀ p ∈ ps, p.Allowed validVars specialVars) ∧ ps.flatMap Piece.render = s.data

/-! ## The `$` loop and the capture scan -/

theorem variablesEnclosed_append {l : List Char} (h : '$' ∉ l) (r : List Char) :
    variablesEnclosed (l ++ r) = variablesEnclosed r := by
  induction l with
  | nil => rfl
  | cons c l ih =>
    rw [List.mem_cons, not_or] at h
    rw [List.cons_append, variablesEnclosed.eq_4 _ _ (Ne.symm h.1), ih h.2]

/-- What the `$` loop accepts, it accepts of every suffix: each `$` is checked against what
    follows it only. -/
theorem variablesEnclosed_of_append (l : List Char) {r : List Char}
    (h : variablesEnclosed (l ++ r) = some true) : variablesEnclosed r = some true := by
  induction l with
  | nil => exact h
  | cons c l ih =>
    apply ih
    by_cases hc : c = '$'
    · subst hc
      cases hl : l ++ r with
      | nil => rw [List.cons_append, hl, variablesEnclosed.eq_2] at h; cases h
      | cons d t =>
        rw [List.cons_append, hl, variablesEnclosed.eq_3] at h
        split_ifs at h <;> first | exact h | cases h
    · rwa [List.cons_append, variablesEnclosed.eq_4 _ _ hc] at h

/-- The `$` loop never accepts a string that ends with `$`. -/
theorem variablesEnclosed_append_dollar (l : List Char) :
    variablesEnclosed (l ++ ['$']) ≠ some true := fun h => by
  have := variablesEnclosed_of_append l h
  rw [variablesEnclosed.eq_2] at this
  cases this

theorem captureVariablesFrom_append_close {l : List Char} (h : '\x7d' ∉ l)
    (name rest : List Char) :
    captureVariablesFrom (some name) (l ++ '\x7d' :: rest) =
      String.mk (name ++ l) :: captureVariablesFrom none rest := by
  induction l generalizing name with
  | nil => rw [List.nil_append, List.append_nil]; rfl
  | cons c l ih =>
    rw [List.mem_cons, not_or] at h
    rw [List.cons_append, captureVariablesFrom.eq_4 _ _ _ (Ne.symm h.1), ih h.2,
      List.append_assoc, List.singleton_append]

/-- The first occurrence of a character cuts a list. -/
private theorem exists_split_first {a : Char} :
    ∀ {l : List Char}, a ∈ l → ∃ s t, l = s ++ a :: t ∧ a ∉ s
  | b :: l, h => by
    by_cases hb : b = a
    · exact ⟨[], l, by rw [hb]; rfl, List.not_mem_nil _⟩
    · obtain ⟨s, t, rfl, hs⟩ := exists_split_first ((List.mem_cons.1 h).resolve_left (Ne.symm hb))
      exact ⟨b :: s, t, rfl, by simp [hs, Ne.symm hb]⟩

/-- **An accepted string is made of pieces**: where the `$` loop accepts a list and every name
    the scan captures is allowed, the list is the rendering of allowed pieces. -/
theorem exists_pieces {validVars specialVars : List String} :
    ∀ (n : Nat) (l : List Char), l.length ≤ n → variablesEnclosed l = some true →
      (∀ v ∈ captureVariablesFrom none l, VariableName validVars specialVars v) →
      ∃ ps : List Piece, (∀ p ∈ ps, p.Allowed validVars specialVars) ∧ ps.flatMap Piece.render = l
  | _, [], _, _, _ => ⟨[], by simp, rfl⟩
  | 0, _ :: _, hn, _, _ => absurd hn (by simp)
  | n + 1, c :: rest, hn, hv, hnames => by
    by_cases hc : c = '$'
    · subst hc
      obtain ⟨d, t, rfl⟩ : ∃ d t, rest = d :: t := by
        cases rest with
        | nil => rw [variablesEnclosed.eq_2] at hv; cases hv
        | cons d t => exact ⟨d, t, rfl⟩
      rw [variablesEnclosed.eq_3] at hv
      split_ifs at hv with hd hclose <;> try cases hv
      rw [not_not] at hd
      subst hd
      obtain ⟨v, r, rfl, hvr⟩ := exists_split_first ((List.mem_cons.1 hclose).resolve_left
        (by decide))
      rw [captureVariablesFrom.eq_1, captureVariablesFrom_append_close hvr, List.nil_append] at hnames
      have hr : variablesEnclosed r = some true :=
        variablesEnclosed_of_append ('\x7b' :: v ++ ['\x7d']) (by simpa using hv)
      obtain ⟨ps, hps, hrender⟩ := exists_pieces n r (by simp at hn; omega) hr
        fun w hw => hnames w (List.mem_cons_of_mem _ hw)
      refine ⟨.var ⟨v⟩ :: ps, ?_, ?_⟩
      · exact List.forall_mem_cons.2 ⟨hnames _ (List.mem_cons_self _ _), hps⟩
      · simp [Piece.render, hrender]
    · rw [variablesEnclosed.eq_4 _ _ hc] at hv
      rw [captureVariablesFrom.eq_2 _ _ fun _ h _ => hc h] at hnames
      obtain ⟨ps, hps, hrender⟩ := exists_pieces n rest (by simpa using hn) hv hnames
      exact ⟨.char c :: ps, List.forall_mem_cons.2 ⟨hc, hps⟩, by simp [Piece.render, hrender]⟩

/-! ## The names -/

theorem hasPrefix_append_self (p x : String) : Go.hasPrefix (p ++ x) p = true :=
  List.isPrefixOf_iff_prefix.2 (List.prefix_append _ _)

/-- `strings.SplitN(name, "_", 2)` on a name whose prefix ends with its only `_`. -/
theorem splitN2_prefix {pre : List Char} (hpre : '_' ∉ pre) (x : String) :
    Go.splitN2 (⟨pre ++ ['_']⟩ ++ x) '_' = [⟨pre⟩, x] := by
  have hne : ∀ a ∈ pre, decide (a ≠ '_') = true := fun a ha => by
    simpa using fun h : a = '_' => hpre (h ▸ ha)
  have hdata : (String.mk (pre ++ ['_']) ++ x).data = pre ++ '_' :: x.data := by
    simp [String.data_append]
  rw [Go.splitN2, if_pos (by simp [hdata]), hdata, List.takeWhile_append_of_pos hne,
    List.dropWhile_append_of_pos hne]
  simp

section
variable (x : String) (fieldPath : Path)

theorem validateSpecialVariable_arg : validateSpecialVariable ("arg_" ++ x) fieldPath =
    some ((isArgumentName x).map (invalid fieldPath (.str ("arg_" ++ x)))) := by
  rw [validateSpecialVariable, show "arg_" = String.mk (['a', 'r', 'g'] ++ ['_']) from rfl,
    splitN2_prefix (by decide) x]
  rfl

theorem validateSpecialVariable_http : validateSpecialVariable ("http_" ++ x) fieldPath =
    some ((isValidSpecialVariableHeader x).map (invalid fieldPath (.str ("http_" ++ x)))) := by
  rw [validateSpecialVariable, show "http_" = String.mk (['h', 't', 't', 'p'] ++ ['_']) from rfl,
    splitN2_prefix (by decide) x]
  rfl

theorem validateSpecialVariable_cookie : validateSpecialVariable ("cookie_" ++ x) fieldPath =
    some ((isCookieName x).map (invalid fieldPath (.str ("cookie_" ++ x)))) := by
  rw [validateSpecialVariable,
    show "cookie_" = String.mk (['c', 'o', 'o', 'k', 'i', 'e'] ++ ['_']) from rfl,
    splitN2_prefix (by decide) x]
  rfl

end

theorem isValidSpecialVariableHeader_eq_nil_iff (header : String) :
    isValidSpecialVariableHeader header = [] ↔
      isHTTPHeaderName (Go.replaceAll header '_' '-') = [] ∧ '-' ∉ header.data := by
  simp [isValidSpecialVariableHeader, Go.contains, ← List.length_eq_zero]

/-- **The check of one captured name passes exactly for the allowed names**, when every
    special prefix is one of `arg_`, `http_` and `cookie_` and no whitelisted name starts with
    one. -/
theorem checkVariable_eq_nil_iff {validVars specialVars : List String}
    (hspecial : ∀ p ∈ specialVars, p ∈ returnBodySpecialVariables)
    (hvalid : ∀ v ∈ validVars, ∀ p ∈ specialVars, Go.hasPrefix v p = false)
    (v : String) (fieldPath : Path) :
    (if specialVars.any (Go.hasPrefix v ·) then validateSpecialVariable v fieldPath
      else some (validateVariable v validVars fieldPath)) = some [] ↔
    VariableName validVars specialVars v := by
  constructor
  · intro h
    split_ifs at h with hsp
    · obtain ⟨p, hp, hpre⟩ := List.any_eq_true.1 hsp
      obtain ⟨t, ht⟩ := (Go.hasPrefix_iff v p).1 hpre
      obtain rfl : v = p ++ ⟨t⟩ := by cases v; cases ht; rfl
      have hfamily := hspecial p hp
      simp only [returnBodySpecialVariables, List.mem_cons, List.mem_singleton, List.not_mem_nil,
        or_false] at hfamily
      rcases hfamily with rfl | rfl | rfl
      · rw [validateSpecialVariable_arg] at h
        exact .arg hp (by simpa [isArgumentName] using h)
      · rw [validateSpecialVariable_http] at h
        obtain ⟨hname, hdash⟩ := (isValidSpecialVariableHeader_eq_nil_iff _).1 (by simpa using h)
        exact .http hp hname hdash
      · rw [validateSpecialVariable_cookie] at h
        exact .cookie hp (by simpa [isCookieName] using h)
    · exact .listed (by simpa [validateVariable] using h)
  · intro h
    cases h with
    | listed hv =>
      rw [if_neg (by simpa [List.any_eq_true] using hvalid v hv)]
      simp [validateVariable, hv]
    | @arg x hp hx =>
      rw [if_pos (List.any_eq_true.2 ⟨_, hp, hasPrefix_append_self _ _⟩), validateSpecialVariable_arg]
      simp [isArgumentName, hx]
    | @cookie x hp hx =>
      rw [if_pos (List.any_eq_true.2 ⟨_, hp, hasPrefix_append_self _ _⟩),
        validateSpecialVariable_cookie]
      simp [isCookieName, hx]
    | @http x hp hname hdash =>
      rw [if_pos (List.any_eq_true.2 ⟨_, hp, hasPrefix_append_self _ _⟩),
        validateSpecialVariable_http, (isValidSpecialVariableHeader_eq_nil_iff x).2 ⟨hname, hdash⟩]
      rfl

theorem validateCapturedVariables_eq_nil_iff {validVars specialVars : List String}
    (hspecial : ∀ p ∈ specialVars, p ∈ returnBodySpecialVariables)
    (hvalid : ∀ v ∈ validVars, ∀ p ∈ specialVars, Go.hasPrefix v p = false) (fieldPath : Path) :
    ∀ names : List String, validateCapturedVariables fieldPath validVars specialVars names = some [] ↔
      ∀ v ∈ names, VariableName validVars specialVars v
  | [] => by simp [validateCapturedVariables]
  | v :: names => by
    rw [validateCapturedVariables, appendErrs_eq_some_nil, checkVariable_eq_nil_iff hspecial hvalid,
      validateCapturedVariables_eq_nil_iff hspecial hvalid fieldPath names, List.forall_mem_cons]

/-! ## The scans over the rendering of pieces -/

/-- A piece the two scans read back: a character other than `$`, or a reference to a name with
    no `$` and no `}`. -/
def Piece.Scannable : Piece → Prop
  | .char c => c ≠ '$'
  | .var v => '$' ∉ v.data ∧ '\x7d' ∉ v.data

theorem isHTTPHeaderName_eq_nil_iff (value : String) : isHTTPHeaderName value = [] ↔
    (value.data ≠ [] && value.data.all fun c => c.isAlphanum || c = '-') = true := by
  unfold isHTTPHeaderName
  split_ifs with h <;> simpa using h

/-- No allowed name holds a `$` or a `}`, when no whitelisted one does. -/
theorem VariableName.scannable {validVars specialVars : List String}
    (hvalid : ∀ v ∈ validVars, '$' ∉ v.data ∧ '\x7d' ∉ v.data) {v : String}
    (h : VariableName validVars specialVars v) : (Piece.var v).Scannable := by
  have word : ∀ {pre x : String}, '$' ∉ pre.data → '\x7d' ∉ pre.data →
      isNameOfWordChars x.data = true → (Piece.var (pre ++ x)).Scannable := fun hd hc hx => by
    have hall := Bool.and_eq_true_iff.1 hx
    exact ⟨by simpa [String.data_append, hd] using Go.not_mem_of_all hall.2 (by decide),
      by simpa [String.data_append, hc] using Go.not_mem_of_all hall.2 (by decide)⟩
  cases h with
  | listed hv => exact hvalid _ hv
  | arg _ hx => exact word (by decide) (by decide) hx
  | cookie _ hx => exact word (by decide) (by decide) hx
  | @http x _ hname _ =>
    have hall := (Bool.and_eq_true_iff.1 ((isHTTPHeaderName_eq_nil_iff _).1 hname)).2
    simp only [Go.replaceAll, List.all_map] at hall
    exact ⟨by simpa [String.data_append] using Go.not_mem_of_all hall (by decide),
      by simpa [String.data_append] using Go.not_mem_of_all hall (by decide)⟩

/-- The `$` loop accepts the rendering of scannable pieces. -/
theorem variablesEnclosed_render :
    ∀ ps : List Piece, (∀ p ∈ ps, p.Scannable) → variablesEnclosed (ps.flatMap Piece.render) = some true
  | [], _ => rfl
  | .char c :: ps, h => by
    rw [List.flatMap_cons, Piece.render, List.singleton_append,
      variablesEnclosed.eq_4 _ _ (List.forall_mem_cons.1 h).1,
      variablesEnclosed_render ps (List.forall_mem_cons.1 h).2]
  | .var v :: ps, h => by
    obtain ⟨⟨hd, _⟩, hps⟩ := List.forall_mem_cons.1 h
    rw [List.flatMap_cons, Piece.render, List.cons_append, List.cons_append, variablesEnclosed.eq_3,
      if_neg (by simp), if_neg (by simp), ← List.cons_append,
      variablesEnclosed_append (by simpa using hd), variablesEnclosed_render ps hps]

/-- The capture scan reads from the rendering of scannable pieces the names they refer to. -/
theorem captureVariables_render : ∀ ps : List Piece, (∀ p ∈ ps, p.Scannable) →
    captureVariablesFrom none (ps.flatMap Piece.render) = ps.filterMap Piece.reference
  | [], _ => by rw [List.flatMap_nil, captureVariablesFrom.eq_5]; rfl
  | .char c :: ps, h => by
    rw [List.flatMap_cons, Piece.render, List.singleton_append,
      captureVariablesFrom.eq_2 _ _ fun _ hc _ => (List.forall_mem_cons.1 h).1 hc,
      captureVariables_render ps (List.forall_mem_cons.1 h).2]
    rfl
  | .var v :: ps, h => by
    obtain ⟨⟨_, hc⟩, hps⟩ := List.forall_mem_cons.1 h
    rw [List.flatMap_cons, Piece.render, List.cons_append, List.cons_append,
      captureVariablesFrom.eq_1, List.append_assoc, List.singleton_append,
      captureVariablesFrom_append_close hc, captureVariables_render ps hps]
    rfl

/-! ## The grammar -/

/-- **The grammar of strings with variables.** When every special prefix is `arg_`, `http_` or
    `cookie_`, and no whitelisted name holds a `$` or a `}` or starts with a special prefix,
    a string passes `validateStringWithVariables` exactly when it is in the language
    `(c | ${v})*`. -/
theorem validateStringWithVariables_eq_nil_iff {validVars specialVars : List String}
    (hspecial : ∀ p ∈ specialVars, p ∈ returnBodySpecialVariables)
    (hvalid : ∀ v ∈ validVars,
      '$' ∉ v.data ∧ '\x7d' ∉ v.data ∧ ∀ p ∈ specialVars, Go.hasPrefix v p = false)
    (s : String) (fieldPath : Path) :
    validateStringWithVariables s fieldPath validVars specialVars = some [] ↔
      WithVariables validVars specialVars s := by
  have hnames := validateCapturedVariables_eq_nil_iff hspecial (fun v hv => (hvalid v hv).2.2)
    fieldPath
  rw [validateStringWithVariables]
  constructor
  · intro h
    split_ifs at h
    · simp at h
    split at h
    · cases h
    · simp at h
    · rename_i hv
      exact exists_pieces _ _ le_rfl hv ((hnames _).1 h)
  · rintro ⟨ps, hps, hrender⟩
    have hscan : ∀ p ∈ ps, p.Scannable := fun p hp => by
      cases p with
      | char c => exact hps _ hp
      | var v => exact (hps _ hp).scannable fun w hw => ⟨(hvalid w hw).1, (hvalid w hw).2.1⟩
    have hv : variablesEnclosed s.data = some true := hrender ▸ variablesEnclosed_render ps hscan
    have hsuf : Go.hasSuffix s "$" = false := Bool.eq_false_iff.2 fun hsuf => by
      obtain ⟨l, hl⟩ := List.isSuffixOf_iff_suffix.1 hsuf
      exact variablesEnclosed_append_dollar l (hl ▸ hv)
    rw [if_neg (by simp [hsuf]), hv]
    dsimp only
    rw [captureVariables, ← hrender, captureVariables_render ps hscan, hnames]
    intro v hv
    obtain ⟨p, hp, hpv⟩ := List.mem_filterMap.1 hv
    cases p with
    | char c => cases hpv
    | var w => cases hpv; exact hps _ hp

/-- **The grammars of the two callers.** A redirect URL is checked with the redirect whitelist
    and no special prefix, a return body with the return-body whitelist and the prefixes `arg_`,
    `http_` and `cookie_`; under each, a string passes exactly when it is in the language
    `(c | ${v})*` of those names. -/
theorem validateStringWithVariables_iff (s : String) (fieldPath : Path) :
    (validateStringWithVariables s fieldPath validRedirectVariableNames [] = some [] ↔
      WithVariables validRedirectVariableNames [] s) ∧
    (validateStringWithVariables s fieldPath returnBodyVariables returnBodySpecialVariables =
        some [] ↔ WithVariables returnBodyVariables returnBodySpecialVariables s) :=
  ⟨validateStringWithVariables_eq_nil_iff (by simp) (by decide) s fieldPath,
    validateStringWithVariables_eq_nil_iff (fun _ h => h) (by decide) s fieldPath⟩

end KubernetesIngress.Validation
