import KubernetesIngress.Validation.Upstreams

set_option autoImplicit false

/-! # The grammar of status matches

The `statusMatch` of a health check lists status codes and ranges of codes, after an optional
`! ` that negates the list. `validateStatusMatch` splits the string at each space and checks
each part: `!` only as the first, a part with a `-` as a range `lo-hi` with `lo < hi`, any
other part as a code, an integer that `strconv.ParseInt` reads and that lies in `[100, 999]`.
`ParseInt` reads an optional sign: a code may start with `+`, and a `-` makes the part a range.

This file states the grammar (`IsStatusMatch`) and proves that the validator accepts exactly
it (`validateStatusMatch_eq_nil_iff`), built up from the same statement for one code
(`validateStatusCode_eq_empty_iff`), one range (`validateStatusCodeRange_eq_empty_iff`) and
one part (`statusPartErrors_eq_nil_iff`). -/

namespace KubernetesIngress.Validation

/-! ## Codes -/

/-- The value of a string of decimal digits. -/
def decimalValue (digits : List Char) : Nat :=
  digits.foldl (fun n c => n * 10 + (c.toNat - '0'.toNat)) 0

/-- The digits of a code: the code without a leading `+`. -/
def codeDigits : List Char → List Char
  | '+' :: digits => digits
  | digits => digits

/-- The value of a code. -/
def codeValue (code : List Char) : Nat := decimalValue (codeDigits code)

/-- A status code: an optional `+` and at least one ASCII decimal digit, with a value in
    `[100, 999]`. -/
def IsStatusCode (code : List Char) : Prop :=
  codeDigits code ≠ [] ∧ (∀ c ∈ codeDigits code, c.isDigit) ∧
    100 ≤ codeValue code ∧ codeValue code ≤ 999

theorem foldl_parseInt (digits : List Char) (acc : Nat) :
    digits.foldl (fun (acc : Int) c => 10 * acc + ((c.toNat - 48 : Nat) : Int)) (acc : Int) =
      ((digits.foldl (fun n c => n * 10 + (c.toNat - '0'.toNat)) acc : Nat) : Int) := by
  induction digits generalizing acc with
  | nil => rfl
  | cons c digits ih =>
    rw [List.foldl_cons, List.foldl_cons, ← ih]
    congr 1
    push_cast
    omega


theorem foldl_parseInt_zero (digits : List Char) :
    digits.foldl (fun (acc : Int) c => 10 * acc + ((c.toNat - 48 : Nat) : Int)) 0 =
      (decimalValue digits : Int) := by
  simpa using foldl_parseInt digits 0

/-- The sign `ParseInt` reads: a `-` before the digits, or a `+` or no sign. -/
theorem parseInt_sign {data digits : List Char} {neg : Bool}
    (h : (match data with
      | '+' :: r => (false, r)
      | '-' :: r => (true, r)
      | r => (false, r)) = (neg, digits)) :
    (neg = true ∧ data = '-' :: digits) ∨ (neg = false ∧ codeDigits data = digits) := by
  rcases data with _ | ⟨c, r⟩
  · cases h
    exact .inr ⟨rfl, rfl⟩
  by_cases hp : c = '+'
  · subst hp
    cases h
    exact .inr ⟨rfl, rfl⟩
  by_cases hm : c = '-'
  · subst hm
    cases h
    exact .inl ⟨rfl, rfl⟩
  · rw [codeDigits.eq_2 _ fun _ h => hp (List.cons.inj h).1]
    split at h <;> simp_all

theorem digits_check_eq_false {digits : List Char} :
    (decide (digits = []) || !digits.all Char.isDigit) = false ↔
      digits ≠ [] ∧ ∀ c ∈ digits, c.isDigit := by
  simp [List.all_eq_true]

/-- `ParseInt` reads an optional sign, then decimal digits. -/
theorem parseInt_eq_some {s : String} {n : Int} (h : Go.parseInt s = some n) :
    ∃ digits, digits ≠ [] ∧ (∀ c ∈ digits, c.isDigit) ∧
      ((s.data = '-' :: digits ∧ n = -(decimalValue digits : Int)) ∨
        (codeDigits s.data = digits ∧ n = decimalValue digits)) := by
  unfold Go.parseInt at h
  split at h
  rename_i neg digits hsplit
  simp only [foldl_parseInt_zero] at h
  split_ifs at h with h1 h2 h3 <;> cases h
  all_goals
    obtain ⟨hne, hdig⟩ := digits_check_eq_false.1 (Bool.eq_false_iff.2 h1)
    refine ⟨digits, hne, hdig, ?_⟩
  · rcases parseInt_sign hsplit with ⟨-, hdata⟩ | ⟨hneg, -⟩
    · exact .inl ⟨hdata, rfl⟩
    · exact absurd h2 (by simp [hneg])
  · rcases parseInt_sign hsplit with ⟨hneg, -⟩ | ⟨-, hdata⟩
    · exact absurd hneg h2
    · exact .inr ⟨hdata, rfl⟩

/-- `ParseInt` reads a status code as the value of its digits. -/
theorem parseInt_of_isStatusCode {s : String} (h : IsStatusCode s.data) :
    Go.parseInt s = some (codeValue s.data : Int) := by
  obtain ⟨hne, hdig, -, hle⟩ := h
  unfold codeValue at hle ⊢
  unfold Go.parseInt
  split
  rename_i neg digits hsplit
  obtain ⟨rfl, rfl⟩ : neg = false ∧ digits = codeDigits s.data := by
    rcases parseInt_sign hsplit with ⟨-, hdata⟩ | ⟨hneg, hdata⟩
    · rw [hdata] at hdig
      exact absurd (hdig '-' (List.mem_cons_self _ _)) (by decide)
    · exact ⟨hneg, hdata.symm⟩
  simp only [foldl_parseInt_zero, digits_check_eq_false.2 ⟨hne, hdig⟩, Bool.false_eq_true, if_false]
  rw [if_neg (by simp only [Bool.or_eq_true, decide_eq_true_eq]; omega)]

theorem parseInt_codeValue {s : String} {n : Int} (h : Go.parseInt s = some n)
    (hn : 100 ≤ n ∧ n ≤ 999) : IsStatusCode s.data ∧ n = codeValue s.data := by
  obtain ⟨digits, hne, hdig, ⟨-, rfl⟩ | ⟨hdata, rfl⟩⟩ := parseInt_eq_some h
  · omega
  · subst hdata
    exact ⟨⟨hne, hdig, by unfold codeValue; omega, by unfold codeValue; omega⟩, rfl⟩

theorem append_must_be_valid_integer_ne (number : String) :
    number ++ " must be a valid integer" ≠ "" := fun h => by
  simpa using congrArg String.data h

theorem rangeLimits_ne (min max : Int) :
    "range limits must be " ++ toString min ++ " < " ++ toString max ≠ "" := fun h => by
  simpa using congrArg String.data h

/-- A chain of checks that returns its first message is silent exactly when each check is. -/
theorem ite_msg_eq_empty (msg other : String) :
    (if msg ≠ "" then msg else other) = "" ↔ msg = "" ∧ other = "" := by
  by_cases h : msg = "" <;> simp [h]

/-- **One code**: `validateStatusCode` accepts exactly the status codes. -/
theorem validateStatusCode_eq_empty_iff (status : String) :
    validateStatusCode status = "" ↔ IsStatusCode status.data := by
  simp only [validateStatusCode, validateIntFromString, ite_msg_eq_empty]
  constructor
  · rintro ⟨hmsg, hrange⟩
    rcases hp : Go.parseInt status with _ | n
    · simp [hp, append_must_be_valid_integer_ne] at hmsg
    · simp only [hp, ite_eq_right_iff] at hrange
      exact (parseInt_codeValue hp (by by_contra hn; exact absurd (hrange (by omega)) (by decide))).1
  · intro h
    have hv := h.2.2
    simp only [parseInt_of_isStatusCode h, true_and, ite_eq_right_iff]
    omega

/-- **One range**: `validateStatusCodeRange` accepts exactly two codes around one `-`, the
    first below the second. -/
theorem validateStatusCodeRange_eq_empty_iff (statusRange : String) :
    validateStatusCodeRange statusRange = "" ↔ ∃ lo hi : String,
      Go.split statusRange '-' = [lo, hi] ∧ IsStatusCode lo.data ∧ IsStatusCode hi.data ∧
        codeValue lo.data < codeValue hi.data := by
  unfold validateStatusCodeRange
  split
  · rename_i lo hi hsplit
    simp only [validateIntFromString, ite_msg_eq_empty, validateStatusCode_eq_empty_iff, hsplit,
      List.cons.injEq, and_true, exists_and_left, exists_eq_left', and_assoc]
    constructor
    · rintro ⟨-, -, hl, hh, hlt⟩
      simp only [parseInt_of_isStatusCode hl, parseInt_of_isStatusCode hh] at hlt
      exact ⟨hl, hh, by simpa [rangeLimits_ne] using hlt⟩
    · rintro ⟨hl, hh, hlt⟩
      simp [parseInt_of_isStatusCode hl, parseInt_of_isStatusCode hh, hl, hh, hlt]
  · rename_i hnot
    simp only [show "ranges must only have 2 numbers" ≠ "" by decide, false_iff, not_exists,
      not_and]
    exact fun lo hi hsplit => absurd hsplit (hnot lo hi)

/-! ## Parts -/

/-- A part of a status match: a code, or a range `lo-hi` of codes with `lo < hi`. -/
def IsStatusPart (part : List Char) : Prop :=
  IsStatusCode part ∨ ∃ lo hi, part = lo ++ '-' :: hi ∧ IsStatusCode lo ∧ IsStatusCode hi ∧
    codeValue lo < codeValue hi

/-- Every character of a code is a digit or `+`. -/
theorem IsStatusCode.mem {code : List Char} (h : IsStatusCode code) {c : Char} (hc : c ∈ code) :
    c.isDigit ∨ c = '+' := by
  rcases code with _ | ⟨d, r⟩
  · cases hc
  by_cases hp : d = '+'
  · subst hp
    rcases List.mem_cons.1 hc with rfl | hc
    · exact .inr rfl
    · exact .inl (h.2.1 c hc)
  · rw [IsStatusCode, codeDigits.eq_2 _ fun _ h => hp (List.cons.inj h).1] at h
    exact .inl (h.2.1 c hc)

theorem IsStatusCode.ne_nil {code : List Char} (h : IsStatusCode code) : code ≠ [] := by
  rintro rfl
  exact h.1 rfl

/-- Every character of a part is a digit, `+` or `-`. -/
theorem IsStatusPart.mem {part : List Char} (h : IsStatusPart part) {c : Char} (hc : c ∈ part) :
    c.isDigit ∨ c = '+' ∨ c = '-' := by
  rcases h with h | ⟨lo, hi, rfl, hlo, hhi, -⟩
  · exact (h.mem hc).imp_right .inl
  · rcases List.mem_append.1 hc with hc | hc
    · exact (hlo.mem hc).imp_right .inl
    · rcases List.mem_cons.1 hc with rfl | hc
      · exact .inr (.inr rfl)
      · exact (hhi.mem hc).imp_right .inl

theorem IsStatusPart.not_mem {part : List Char} (h : IsStatusPart part) {c : Char}
    (hc : c.isDigit = false) (hp : c ≠ '+') (hm : c ≠ '-') : c ∉ part := fun hmem => by
  rcases h.mem hmem with hd | rfl | rfl
  · simp [hd] at hc
  · exact hp rfl
  · exact hm rfl

theorem IsStatusPart.ne_nil {part : List Char} (h : IsStatusPart part) : part ≠ [] := by
  rcases h with h | ⟨lo, hi, rfl, -⟩
  · exact h.ne_nil
  · simp

theorem data_split {s : String} {sep : Char} {parts : List String} (h : Go.split s sep = parts) :
    s.data.splitOn sep = parts.map String.data := by
  rw [← h, Go.split, List.map_map]
  exact (List.map_id _).symm

theorem split_intercalate {sep : Char} {parts : List (List Char)} (hsep : ∀ p ∈ parts, sep ∉ p)
    (hne : parts ≠ []) (s : String) (hs : s.data = [sep].intercalate parts) :
    Go.split s sep = parts.map String.mk := by
  rw [Go.split, hs, List.splitOn_intercalate _ sep hsep hne]

/-- A part with a `-` is a part exactly when it is a range. -/
theorem isStatusPart_iff_range {part : String} (hdash : '-' ∈ part.data) :
    IsStatusPart part.data ↔ ∃ lo hi : String, Go.split part '-' = [lo, hi] ∧
      IsStatusCode lo.data ∧ IsStatusCode hi.data ∧ codeValue lo.data < codeValue hi.data := by
  constructor
  · rintro (h | ⟨lo, hi, hpart, hlo, hhi, hlt⟩)
    · exact absurd hdash fun hm => by simpa using h.mem hm
    · have hsep : ∀ p ∈ [lo, hi], '-' ∉ p := by
        simp only [List.mem_cons, List.mem_singleton, List.not_mem_nil, or_false]
        rintro p (rfl | rfl) hm
        · simpa using hlo.mem hm
        · simpa using hhi.mem hm
      exact ⟨⟨lo⟩, ⟨hi⟩, split_intercalate hsep (List.cons_ne_nil _ _) part
        (by simp [hpart, List.intercalate]), hlo, hhi, hlt⟩
  · rintro ⟨lo, hi, hsplit, hlo, hhi, hlt⟩
    refine .inr ⟨lo.data, hi.data, ?_, hlo, hhi, hlt⟩
    rw [← List.intercalate_splitOn part.data '-', data_split hsplit]
    simp [List.intercalate]

/-- The check of one part, the body of the loop of `validateStatusMatch`. -/
def statusPartErrors (s : String) (fieldPath : Path) (i : Nat) (value : String) :
    List FieldError :=
  if value = "!" then
    (if i ≠ 0 then [invalid fieldPath (.str s) "`!` can only appear once at the beginning"]
      else [])
  else if Go.contains value '-' then
    (let msg := validateStatusCodeRange value
     if msg ≠ "" then [invalid fieldPath (.str s) msg] else [])
  else
    (let msg := validateStatusCode value
     if msg ≠ "" then [invalid fieldPath (.str s) msg] else [])

theorem validateStatusMatchParts_cons (s : String) (fieldPath : Path) (i : Nat) (value : String)
    (rest : List String) :
    validateStatusMatchParts s fieldPath i (value :: rest) =
      statusPartErrors s fieldPath i value ++ validateStatusMatchParts s fieldPath (i + 1) rest :=
  rfl

theorem msgErrors_eq_nil_iff (fieldPath : Path) (s msg : String) :
    (if msg ≠ "" then [invalid fieldPath (.str s) msg] else []) = [] ↔ msg = "" := by
  split_ifs with h <;> simp_all

/-- **One part**: its check passes exactly for a status part, and for `!` as the first part. -/
theorem statusPartErrors_eq_nil_iff (s : String) (fieldPath : Path) (i : Nat) (value : String) :
    statusPartErrors s fieldPath i value = [] ↔ (value = "!" ∧ i = 0) ∨ IsStatusPart value.data := by
  unfold statusPartErrors
  by_cases hbang : value = "!"
  · subst hbang
    have hnot : ¬ IsStatusPart "!".data := fun h => h.not_mem (c := '!') rfl (by decide) (by decide)
      (List.mem_singleton_self _)
    simp only [if_true, hnot, or_false, true_and]
    split_ifs with hi <;> simp_all
  rw [if_neg hbang]
  simp only [hbang, false_and, false_or]
  by_cases hdash : Go.contains value '-' = true
  · rw [if_pos hdash, msgErrors_eq_nil_iff, validateStatusCodeRange_eq_empty_iff,
      isStatusPart_iff_range (by simpa [Go.contains] using hdash)]
  · rw [if_neg hdash, msgErrors_eq_nil_iff, validateStatusCode_eq_empty_iff]
    have hdash : '-' ∉ value.data := by simpa [Go.contains] using hdash
    constructor
    · exact .inl
    · rintro (h | ⟨lo, hi, hpart, -⟩)
      · exact h
      · exact absurd (by simp [hpart]) hdash

/-- **The parts after the first** pass exactly when each is a status part. -/
theorem validateStatusMatchParts_succ_eq_nil_iff (s : String) (fieldPath : Path) :
    ∀ (i : Nat) (values : List String),
      validateStatusMatchParts s fieldPath (i + 1) values = [] ↔ ∀ v ∈ values, IsStatusPart v.data
  | _, [] => by simp [validateStatusMatchParts]
  | i, v :: values => by
    rw [validateStatusMatchParts_cons, List.append_eq_nil, statusPartErrors_eq_nil_iff,
      validateStatusMatchParts_succ_eq_nil_iff s fieldPath (i + 1) values, List.forall_mem_cons]
    simp

/-! ## Status matches -/

/-- **The status matches**: the empty string, and one or more status parts separated by single
    spaces, after an optional `! `. -/
def IsStatusMatch (s : String) : Prop :=
  s = "" ∨ ∃ parts : List (List Char), parts ≠ [] ∧ (∀ p ∈ parts, IsStatusPart p) ∧
    (s.data = [' '].intercalate parts ∨ s.data = '!' :: ' ' :: [' '].intercalate parts)

theorem intercalate_cons_eq_append (sep : Char) (a : List Char) :
    ∀ l : List (List Char), ∃ rest, [sep].intercalate (a :: l) = a ++ rest
  | [] => ⟨[], by simp [List.intercalate]⟩
  | b :: l => ⟨sep :: [sep].intercalate (b :: l), Go.intercalate_cons_cons _ _ _ _⟩

theorem hasPrefix_bang {s : String} {c : Char} {rest : List Char} (hs : s.data = c :: rest)
    (h : Go.hasPrefix s "!" = true) : c = '!' := by
  have hp : ['!'] <+: c :: rest := hs ▸ (Go.hasPrefix_iff s "!").1 h
  exact (List.cons_prefix_cons.1 hp).1.symm

/-- The check of the first part of `validateStatusMatch`: no error, or `!` as the part. -/
theorem validateStatusMatchParts_zero_eq_nil_iff (s : String) (fieldPath : Path) (value : String)
    (values : List String) :
    validateStatusMatchParts s fieldPath 0 (value :: values) = [] ↔
      (value = "!" ∨ IsStatusPart value.data) ∧ ∀ v ∈ values, IsStatusPart v.data := by
  rw [validateStatusMatchParts_cons, List.append_eq_nil, statusPartErrors_eq_nil_iff,
    validateStatusMatchParts_succ_eq_nil_iff]
  simp

/-- **The grammar of status matches.** `validateStatusMatch` finds no error in a string exactly
    when it is empty, or one or more status parts separated by single spaces, after an optional
    `! `. -/
theorem validateStatusMatch_eq_nil_iff (s : String) (fieldPath : Path) :
    validateStatusMatch s fieldPath = [] ↔ IsStatusMatch s := by
  by_cases hs : s = ""
  · simp [validateStatusMatch, hs, IsStatusMatch]
  obtain ⟨t, ts, hsplit⟩ := List.exists_cons_of_ne_nil (List.splitOnP_ne_nil (· == ' ') s.data)
  have hdata : s.data = [' '].intercalate (t :: ts) := hsplit ▸ (List.intercalate_splitOn _ _).symm
  rw [validateStatusMatch, if_neg hs, List.append_eq_nil, Go.split,
    show s.data.splitOn ' ' = t :: ts from hsplit, List.map_cons,
    validateStatusMatchParts_zero_eq_nil_iff]
  simp only [IsStatusMatch, hs, false_or, List.forall_mem_map]
  constructor
  · rintro ⟨hbang, hfirst | hfirst, hrest⟩
    · obtain rfl : t = ['!'] := congrArg String.data hfirst
      rcases ts with _ | ⟨t', ts⟩
      · have hbang' : Go.hasPrefix s "!" = true ∧ ¬Go.hasPrefix s "! " = true := by
          rw [Go.hasPrefix, Go.hasPrefix, hdata]
          decide
        rw [if_pos hbang'] at hbang
        cases hbang
      · exact ⟨t' :: ts, List.cons_ne_nil _ _, hrest, .inr (by rw [hdata, Go.intercalate_cons_cons]; rfl)⟩
    · exact ⟨t :: ts, List.cons_ne_nil _ _, List.forall_mem_cons.2 ⟨hfirst, hrest⟩, .inl hdata⟩
  · have hsep : ∀ p, IsStatusPart p → ' ' ∉ p := fun p hp => hp.not_mem rfl (by decide) (by decide)
    rintro ⟨parts, hne, hparts, hform | hform⟩
    · have hsplit' : s.data.splitOn ' ' = parts := by
        rw [hform]
        exact List.splitOn_intercalate _ _ (fun p hp => hsep p (hparts p hp)) hne
      rw [show s.data.splitOn ' ' = t :: ts from hsplit] at hsplit'
      subst hsplit'
      obtain ⟨hfirst, hrest⟩ := List.forall_mem_cons.1 hparts
      obtain ⟨c, t', rfl⟩ := List.exists_cons_of_ne_nil hfirst.ne_nil
      obtain ⟨rest, hrest'⟩ := intercalate_cons_eq_append ' ' (c :: t') ts
      have hc : c ≠ '!' := fun hc =>
        hfirst.not_mem (c := '!') rfl (by decide) (by decide) (hc ▸ List.mem_cons_self _ _)
      refine ⟨?_, .inr hfirst, hrest⟩
      rw [if_neg fun hp => hc (hasPrefix_bang (hform.trans hrest') hp.1)]
    · have hdata' : s.data = [' '].intercalate (['!'] :: parts) := by
        obtain ⟨p, ps, rfl⟩ := List.exists_cons_of_ne_nil hne
        rw [hform, Go.intercalate_cons_cons]
        rfl
      have hsplit' : s.data.splitOn ' ' = ['!'] :: parts := by
        rw [hdata']
        refine List.splitOn_intercalate _ _ (fun p hp => ?_) (List.cons_ne_nil _ _)
        rcases List.mem_cons.1 hp with rfl | hp
        · decide
        · exact hsep p (hparts p hp)
      rw [show s.data.splitOn ' ' = t :: ts from hsplit] at hsplit'
      obtain ⟨rfl, rfl⟩ := List.cons.inj hsplit'
      refine ⟨?_, .inl rfl, hparts⟩
      rw [if_neg fun hp => hp.2 ((Go.hasPrefix_iff _ _).2 ⟨[' '].intercalate ts, by rw [hform]; rfl⟩)]

example : validateStatusMatch "! 500-599 404" (.new "statusMatch") = [] := by decide

/-- The status match `+200` passes, as `ParseInt` reads the code `+200`, though its `+` is
    none of the digits, spaces, `-` and `!` that a match made of unsigned codes has. -/
theorem statusMatch_plus_sign :
    validateStatusMatch "+200" (.new "statusMatch") = [] ∧
      ∃ c ∈ "+200".data, c.isDigit = false ∧ c ∉ [' ', '-', '!'] := by
  decide

end KubernetesIngress.Validation
