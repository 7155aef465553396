import KubernetesIngress.Validation.Routes

set_option autoImplicit false

/-! # The validator does not panic

The validator indexes a Go string or slice in two places, and the model makes an index out
of range `none` (`Validation.Routes`). Neither happens: `str[i+1]` is read only at a `$` of a
string that does not end with `$`, as the check before the loop makes sure, and
`validateSpecialVariable` splits only names that start with a special prefix, each of which
holds the `_` it splits at. So the three entry points return for every resource, every parent
host and path, and both tiers (`validate_total`).

Go's loop `for i, c := range str` walks the bytes of `str`, which need not be valid UTF-8: it
decodes one rune at a time, and reads a byte that starts no valid encoding as the rune
`utf8.RuneError`. The rune `$` is the single byte `0x24`, and no longer encoding holds a byte
below `0x80`, so the loop meets `$` exactly at the bytes `0x24` of any string of bytes.
`variablesEnclosedBytes` is the loop over bytes; on the encoding of a string it is the loop
over its characters (`variablesEnclosedBytes_utf8`), and on every string of bytes that does
not end with `$` it returns (`variablesEnclosedBytes_isSome`). -/

namespace KubernetesIngress.Validation

open V1

variable (parsers : Parsers)

/-! ## Strings with variables -/

/-- The `$` loop fails to return only where the string ends with `$`. -/
theorem variablesEnclosed_eq_none {l : List Char} (h : variablesEnclosed l = none) :
    ∃ l', l = l' ++ ['$'] := by
  induction l using variablesEnclosed.induct with
  | case1 => cases h
  | case2 => exact ⟨[], rfl⟩
  | case3 c tail hc => rw [variablesEnclosed.eq_3, if_pos hc] at h; cases h
  | case4 c tail hc hclose => rw [variablesEnclosed.eq_3, if_neg hc, if_pos hclose] at h; cases h
  | case5 c tail hc hclose ih =>
    rw [variablesEnclosed.eq_3, if_neg hc, if_neg hclose] at h
    obtain ⟨l', hl'⟩ := ih h
    exact ⟨'$' :: l', by rw [hl']; rfl⟩
  | case6 c rest hc ih =>
    rw [variablesEnclosed.eq_4 _ _ hc] at h
    obtain ⟨l', hl'⟩ := ih h
    exact ⟨c :: l', by rw [hl']; rfl⟩

/-- `strings.SplitN(name, "_", 2)` gives two parts for a name with a `_`. -/
theorem splitN2_of_mem {s : String} {sep : Char} (h : sep ∈ s.data) :
    ∃ v0 v1, Go.splitN2 s sep = [v0, v1] :=
  ⟨_, _, if_pos h⟩

theorem validateSpecialVariable_isSome {nVar : String} (h : '_' ∈ nVar.data) (fieldPath : Path) :
    (validateSpecialVariable nVar fieldPath).isSome := by
  obtain ⟨v0, v1, hsplit⟩ := splitN2_of_mem h
  rw [validateSpecialVariable, hsplit]
  dsimp only
  split_ifs <;> rfl

section
variable {validVars specialVars : List String} (hspecial : ∀ p ∈ specialVars, '_' ∈ p.data)
include hspecial

theorem validateCapturedVariables_isSome (fieldPath : Path) :
    ∀ names : List String, (validateCapturedVariables fieldPath validVars specialVars names).isSome
  | [] => rfl
  | nVar :: names => by
    rw [validateCapturedVariables, appendErrs_isSome]
    refine ⟨?_, validateCapturedVariables_isSome fieldPath names⟩
    split_ifs with hsp
    · obtain ⟨p, hp, hpre⟩ := List.any_eq_true.1 hsp
      obtain ⟨t, ht⟩ := (Go.hasPrefix_iff _ _).1 hpre
      exact validateSpecialVariable_isSome (ht ▸ List.mem_append_left _ (hspecial p hp)) _
    · rfl

theorem validateStringWithVariables_isSome (str : String) (fieldPath : Path) :
    (validateStringWithVariables str fieldPath validVars specialVars).isSome := by
  rw [validateStringWithVariables]
  split_ifs with hsuf
  · rfl
  split
  · rename_i hnone
    obtain ⟨l', hl'⟩ := variablesEnclosed_eq_none hnone
    exact absurd (List.isSuffixOf_iff_suffix.2 ⟨l', hl'.symm⟩) hsuf
  · rfl
  · exact validateCapturedVariables_isSome hspecial fieldPath _

end

/-! ## Actions -/

theorem validateRedirectURL_isSome (redirectURL : String) (fieldPath : Path) :
    (validateRedirectURL redirectURL fieldPath).isSome := by
  unfold validateRedirectURL
  split_ifs
  · rfl
  · rfl
  · exact validateStringWithVariables_isSome (by simp) _ _

theorem validateActionRedirect_isSome (redirect : ActionRedirect) (fieldPath : Path) :
    (validateActionRedirect redirect fieldPath).isSome := by
  rw [validateActionRedirect, appendErrs_isSome]
  exact ⟨validateRedirectURL_isSome _ _, rfl⟩

theorem validateActionReturnBody_isSome (body : String) (fieldPath : Path) :
    (validateActionReturnBody body fieldPath).isSome := by
  rw [validateActionReturnBody, appendErrs_isSome]
  exact ⟨rfl, validateStringWithVariables_isSome (by decide) _ _⟩

theorem validateActionReturn_isSome (r : ActionReturn) (fieldPath : Path) :
    (validateActionReturn r fieldPath).isSome := by
  unfold validateActionReturn
  by_cases hbody : r.body = ""
  · rw [if_pos hbody]
    rfl
  · rw [if_neg hbody, appendErrs_isSome]
    exact ⟨validateActionReturnBody_isSome _ _, rfl⟩

theorem validateAction_isSome (action : Action) (fieldPath : Path) (upstreamNames : List String) :
    (validateAction action fieldPath upstreamNames).isSome := by
  obtain ⟨pass, redirect, ret⟩ := action
  unfold validateAction
  by_cases hcount : countActions ⟨pass, redirect, ret⟩ ≠ 1
  · rw [if_pos hcount]
    rfl
  rw [if_neg hcount, appendErrs_isSome, appendErrs_isSome]
  refine ⟨rfl, ?_, ?_⟩
  · cases redirect
    · rfl
    · exact validateActionRedirect_isSome _ _
  · cases ret
    · rfl
    · exact validateActionReturn_isSome _ _

/-- An optional action, validated where it is set. -/
theorem validateOptionalAction_isSome (action : Option Action) (fieldPath : Path)
    (upstreamNames : List String) :
    (match action with
      | some a => validateAction a fieldPath upstreamNames
      | none => some []).isSome := by
  cases action
  · rfl
  · exact validateAction_isSome _ _ _

/-! ## Splits, matches and routes -/

theorem validateSplitsFrom_isSome (fieldPath : Path) (upstreamNames : List String) :
    ∀ (i : Nat) (splits : List Split), (validateSplitsFrom fieldPath upstreamNames i splits).isSome
  | _, [] => rfl
  | i, s :: splits => by
    rw [validateSplitsFrom, appendErrs_isSome, appendErrs_isSome]
    refine ⟨⟨rfl, ?_⟩, validateSplitsFrom_isSome fieldPath upstreamNames (i + 1) splits⟩
    cases s.action
    · rfl
    · exact validateAction_isSome _ _ _

theorem validateSplits_isSome (splits : List Split) (fieldPath : Path)
    (upstreamNames : List String) : (validateSplits splits fieldPath upstreamNames).isSome := by
  unfold validateSplits
  split_ifs
  · rfl
  · rw [appendErrs_isSome]
    exact ⟨validateSplitsFrom_isSome _ _ _ _, rfl⟩

theorem validateMatches_isSome (fieldPath : Path) (upstreamNames : List String) :
    ∀ (i : Nat) (ms : List Match), (validateMatches fieldPath upstreamNames i ms).isSome
  | _, [] => rfl
  | i, m :: ms => by
    rw [validateMatches, appendErrs_isSome, validateMatch, appendErrs_isSome, appendErrs_isSome,
      appendErrs_isSome]
    refine ⟨⟨rfl, validateOptionalAction_isSome _ _ _, ?_, rfl⟩,
      validateMatches_isSome fieldPath upstreamNames (i + 1) ms⟩
    split_ifs
    · exact validateSplits_isSome _ _ _
    · rfl

theorem validateRoute_isSome (route : Route) (fieldPath : Path) (upstreamNames : List String)
    (isRouteFieldForbidden : Bool) :
    (validateRoute parsers route fieldPath upstreamNames isRouteFieldForbidden).isSome := by
  rw [validateRoute]
  simp only [appendErrs_isSome]
  refine ⟨rfl, validateOptionalAction_isSome _ _ _, ?_, validateMatches_isSome _ _ _ _, rfl⟩
  split_ifs
  · exact validateSplits_isSome _ _ _
  · rfl

/-! ## The route loops and the entry points -/

theorem validateVirtualServerRoutesFrom_isSome (fieldPath : Path) (upstreamNames : List String) :
    ∀ (i : Nat) (routes : List Route) (allPaths : List String),
      (validateVirtualServerRoutesFrom parsers fieldPath upstreamNames i routes allPaths).isSome
  | _, [], _ => rfl
  | i, r :: routes, allPaths => by
    obtain ⟨errs, herrs⟩ := Option.isSome_iff_exists.1
      (validateRoute_isSome parsers r (fieldPath.index i) upstreamNames false)
    have ih := validateVirtualServerRoutesFrom_isSome fieldPath upstreamNames (i + 1) routes
    rw [validateVirtualServerRoutesFrom, herrs]
    dsimp only
    split_ifs
    · exact appendErrs_isSome.2 ⟨rfl, ih _⟩
    · exact appendErrs_isSome.2 ⟨rfl, ih _⟩
    · exact ih _

theorem validateVirtualServerRouteSubroutesFrom_isSome (fieldPath : Path)
    (upstreamNames : List String) (vsPath : String) :
    ∀ (i : Nat) (routes : List Route) (allPaths : List String),
      (validateVirtualServerRouteSubroutesFrom parsers fieldPath upstreamNames vsPath i routes
        allPaths).isSome
  | _, [], _ => rfl
  | i, r :: routes, allPaths => by
    obtain ⟨errs, herrs⟩ := Option.isSome_iff_exists.1
      (validateRoute_isSome parsers r (fieldPath.index i) upstreamNames true)
    have ih := validateVirtualServerRouteSubroutesFrom_isSome fieldPath upstreamNames vsPath (i + 1)
      routes
    rw [validateVirtualServerRouteSubroutesFrom, herrs]
    dsimp only
    split_ifs
    · exact appendErrs_isSome.2 ⟨rfl, ih _⟩
    · exact appendErrs_isSome.2 ⟨rfl, ih _⟩
    · exact ih _

theorem validateVirtualServerRouteSubroutes_isSome (routes : List Route) (fieldPath : Path)
    (upstreamNames : List String) (vsPath : String) :
    (validateVirtualServerRouteSubroutes parsers routes fieldPath upstreamNames vsPath).isSome := by
  unfold validateVirtualServerRouteSubroutes
  split_ifs
  · split
    · split_ifs
      · rfl
      · exact validateRoute_isSome _ _ _ _ _
    · rfl
  · exact validateVirtualServerRouteSubroutesFrom_isSome _ _ _ _ _ _ _

theorem validateVirtualServerSpec_isSome (spec : VirtualServerSpec) (fieldPath : Path)
    (isPlus : Bool) : (validateVirtualServerSpec parsers spec fieldPath isPlus).isSome := by
  unfold validateVirtualServerSpec
  exact appendErrs_isSome.2 ⟨rfl, validateVirtualServerRoutesFrom_isSome _ _ _ _ _ _⟩

theorem validateVirtualServerRouteSpec_isSome (spec : VirtualServerRouteSpec) (fieldPath : Path)
    (virtualServerHost vsPath : String) (isPlus : Bool) :
    (validateVirtualServerRouteSpec parsers spec fieldPath virtualServerHost vsPath isPlus).isSome := by
  unfold validateVirtualServerRouteSpec
  exact appendErrs_isSome.2 ⟨rfl, validateVirtualServerRouteSubroutes_isSome _ _ _ _ _⟩

/-! ## The `$` loop over bytes -/

/-- The `$` loop of `validateStringWithVariables` over the bytes of the string: at each byte
    `0x24` (`$`), the byte after it must be `0x7b` (`{`) and a byte `0x7d` (`}`) must follow;
    `none` where `str[i+1]` is out of range. -/
def variablesEnclosedBytes : List UInt8 → Option Bool
  | [] => some true
  | b :: rest =>
    if b = 0x24 then
      match rest with
      | [] => none
      | c :: _ =>
        if c ≠ 0x7b then some false
        else if 0x7d ∉ rest then some false
        else variablesEnclosedBytes rest
    else variablesEnclosedBytes rest

theorem variablesEnclosedBytes_dollar (b : UInt8) (rest : List UInt8) :
    variablesEnclosedBytes (0x24 :: b :: rest) =
      if b ≠ 0x7b then some false
      else if 0x7d ∉ b :: rest then some false
      else variablesEnclosedBytes (b :: rest) :=
  rfl

theorem variablesEnclosedBytes_eq_none {bytes : List UInt8}
    (h : variablesEnclosedBytes bytes = none) : ∃ l, bytes = l ++ [0x24] := by
  induction bytes using variablesEnclosedBytes.induct with
  | case1 => cases h
  | case2 => exact ⟨[], rfl⟩
  | case3 c tail hc => rw [variablesEnclosedBytes_dollar, if_pos hc] at h; cases h
  | case4 c tail hc hnot => rw [variablesEnclosedBytes_dollar, if_neg hc, if_pos hnot] at h; cases h
  | case5 c tail hc hnot ih =>
    rw [variablesEnclosedBytes_dollar, if_neg hc, if_neg hnot] at h
    obtain ⟨l, hl⟩ := ih h
    exact ⟨0x24 :: l, by rw [hl]; rfl⟩
  | case6 c tail hc ih =>
    obtain ⟨l, hl⟩ := ih (by simpa [variablesEnclosedBytes, hc] using h)
    exact ⟨c :: l, by rw [hl]; rfl⟩

theorem toNat_lor (x y : UInt8) : (x ||| y).toNat = x.toNat ||| y.toNat :=
  BitVec.toNat_or _ _

/-- A byte with its high bit set. -/
theorem testBit_lor_high {x m : UInt8} (hm : m.toNat.testBit 7 = true) :
    (x ||| m).toNat.testBit 7 = true := by
  rw [toNat_lor, Nat.testBit_or, hm, Bool.or_true]

theorem utf8EncodeChar_high {c : Char} (h : ¬ c.val ≤ 0x7f) :
    ∀ b ∈ String.utf8EncodeChar c, b.toNat.testBit 7 = true := by
  unfold String.utf8EncodeChar
  simp only [if_neg h]
  split_ifs <;> simp only [List.mem_cons, List.mem_singleton, List.not_mem_nil, or_false] <;>
    rintro b (rfl | rfl | rfl | rfl) <;> exact testBit_lor_high (by decide)

theorem toNat_toUInt8 (c : Char) : c.val.toUInt8.toNat = c.toNat % 256 := by
  simp [UInt32.toUInt8, Nat.toUInt8, UInt8.toNat, UInt8.ofNat, Char.toNat]

theorem ascii_toNat_lt {c : Char} (h : c.val ≤ 0x7f) : c.toNat < 128 := by
  have : c.val.toNat ≤ 127 := h
  exact Nat.lt_succ_of_le this

theorem toUInt8_eq_iff {c d : Char} (hc : c.val ≤ 0x7f) (hd : d.val ≤ 0x7f) :
    c.val.toUInt8 = d.val.toUInt8 ↔ c = d := by
  refine ⟨fun h => ?_, fun h => h ▸ rfl⟩
  have := congrArg UInt8.toNat h
  rw [toNat_toUInt8, toNat_toUInt8, Nat.mod_eq_of_lt (by have := ascii_toNat_lt hc; omega),
    Nat.mod_eq_of_lt (by have := ascii_toNat_lt hd; omega)] at this
  exact Char.ext (UInt32.ext (by simpa [Char.toNat] using this))

theorem utf8EncodeChar_ascii {c : Char} (h : c.val ≤ 0x7f) :
    String.utf8EncodeChar c = [c.val.toUInt8] := by
  rw [String.utf8EncodeChar, if_pos h]

theorem testBit_toUInt8_ascii {d : Char} (hd : d.val ≤ 0x7f) : d.val.toUInt8.toNat.testBit 7 = false := by
  rw [toNat_toUInt8, Nat.mod_eq_of_lt (by have := ascii_toNat_lt hd; omega)]
  exact Nat.testBit_lt_two_pow (ascii_toNat_lt hd)

/-- **An ASCII byte occurs in the encoding of a character only as the character itself.** -/
theorem mem_utf8EncodeChar_ascii {c d : Char} (hd : d.val ≤ 0x7f) :
    d.val.toUInt8 ∈ String.utf8EncodeChar c ↔ c = d := by
  by_cases hc : c.val ≤ 0x7f
  · rw [utf8EncodeChar_ascii hc, List.mem_singleton, eq_comm, toUInt8_eq_iff hc hd]
  · refine ⟨fun hm => ?_, fun h => absurd (h ▸ hd) hc⟩
    have := utf8EncodeChar_high hc _ hm
    rw [testBit_toUInt8_ascii hd] at this
    cases this

/-- The first byte of the encoding of a character is an ASCII byte only for that character. -/
theorem head_utf8EncodeChar_ascii {c d : Char} (hd : d.val ≤ 0x7f) {b : UInt8} {bs : List UInt8}
    (h : String.utf8EncodeChar c = b :: bs) : b = d.val.toUInt8 ↔ c = d := by
  rw [← mem_utf8EncodeChar_ascii hd]
  by_cases hc : c.val ≤ 0x7f
  · rw [utf8EncodeChar_ascii hc] at h ⊢
    obtain ⟨rfl, rfl⟩ := List.cons.inj h
    simp [eq_comm]
  · refine ⟨fun hb => h ▸ hb ▸ List.mem_cons_self _ _, fun hm => ?_⟩
    have h1 := utf8EncodeChar_high hc _ hm
    rw [testBit_toUInt8_ascii hd] at h1
    cases h1

theorem mem_flatMap_utf8EncodeChar_ascii {d : Char} (hd : d.val ≤ 0x7f) (s : List Char) :
    d.val.toUInt8 ∈ s.flatMap String.utf8EncodeChar ↔ d ∈ s := by
  simp only [List.mem_flatMap, mem_utf8EncodeChar_ascii hd, exists_eq_right]

theorem variablesEnclosedBytes_append {l : List UInt8} (h : (0x24 : UInt8) ∉ l) (r : List UInt8) :
    variablesEnclosedBytes (l ++ r) = variablesEnclosedBytes r := by
  induction l with
  | nil => rfl
  | cons b l ih =>
    rw [List.mem_cons, not_or] at h
    rw [List.cons_append]
    simp only [variablesEnclosedBytes]
    rw [if_neg (Ne.symm h.1), ih h.2]

theorem exists_utf8EncodeChar_cons (c : Char) : ∃ b bs, String.utf8EncodeChar c = b :: bs := by
  unfold String.utf8EncodeChar
  dsimp only
  split_ifs <;> exact ⟨_, _, rfl⟩

/-- At a `$` followed by encoded text, the byte loop tests the characters after it. -/
theorem variablesEnclosedBytes_dollar_utf8 (c : Char) (tail : List Char) :
    variablesEnclosedBytes (0x24 :: (c :: tail).flatMap String.utf8EncodeChar) =
      if c ≠ '\x7b' then some false
      else if '\x7d' ∉ c :: tail then some false
      else variablesEnclosedBytes ((c :: tail).flatMap String.utf8EncodeChar) := by
  obtain ⟨b, bs, hb⟩ := exists_utf8EncodeChar_cons c
  have hrest : (c :: tail).flatMap String.utf8EncodeChar =
      b :: (bs ++ tail.flatMap String.utf8EncodeChar) := by
    rw [List.flatMap_cons, hb, List.cons_append]
  have hopen : b = 0x7b ↔ c = '\x7b' := head_utf8EncodeChar_ascii (d := '\x7b') (by decide) hb
  have hclose := mem_flatMap_utf8EncodeChar_ascii (d := '\x7d') (by decide) (c :: tail)
  rw [hrest, variablesEnclosedBytes_dollar, ← hrest]
  simp only [ne_eq, hopen, show (0x7d : UInt8) = '\x7d'.val.toUInt8 from rfl, hclose]

/-- **On the bytes of a string the byte loop is the character loop**: the UTF-8 encoding of
    a character holds the bytes of `$`, `{` and `}` only where the character is that one. -/
theorem variablesEnclosedBytes_utf8 (s : List Char) :
    variablesEnclosedBytes (s.flatMap String.utf8EncodeChar) = variablesEnclosed s := by
  have hdollar : ∀ l : List Char, ('$' :: l).flatMap String.utf8EncodeChar =
      0x24 :: l.flatMap String.utf8EncodeChar := fun _ => rfl
  induction s using variablesEnclosed.induct with
  | case1 => rfl
  | case2 => rfl
  | case3 c tail hc =>
    rw [variablesEnclosed.eq_3, if_pos hc, hdollar, variablesEnclosedBytes_dollar_utf8, if_pos hc]
  | case4 c tail hc hnot =>
    rw [variablesEnclosed.eq_3, if_neg hc, if_pos hnot, hdollar,
      variablesEnclosedBytes_dollar_utf8, if_neg hc, if_pos hnot]
  | case5 c tail hc hnot ih =>
    rw [variablesEnclosed.eq_3, if_neg hc, if_neg hnot, hdollar,
      variablesEnclosedBytes_dollar_utf8, if_neg hc, if_neg hnot, ih]
  | case6 c rest hc ih =>
    rw [variablesEnclosed.eq_4 _ _ hc, List.flatMap_cons, variablesEnclosedBytes_append _ _, ih]
    exact (mem_utf8EncodeChar_ascii (by decide)).not.2 hc

/-- **The byte access `str[i+1]` is in range** in every string of bytes that does not end with
    `$`, valid UTF-8 or not. -/
theorem variablesEnclosedBytes_isSome {bytes : List UInt8}
    (h : [(0x24 : UInt8)].isSuffixOf bytes = false) : (variablesEnclosedBytes bytes).isSome := by
  rw [Option.isSome_iff_ne_none]
  intro hnone
  obtain ⟨l, rfl⟩ := variablesEnclosedBytes_eq_none hnone
  rw [List.isSuffixOf_iff_suffix.2 (List.suffix_append l _)] at h
  cases h

/-! ## The entry points -/

/-- A name that starts with a special prefix holds the `_` that `validateSpecialVariable`
    splits it at. -/
theorem splitN2_of_special {nVar : String}
    (h : returnBodySpecialVariables.any (Go.hasPrefix nVar ·)) : (Go.splitN2 nVar '_').length = 2 := by
  obtain ⟨p, hp, hpre⟩ := List.any_eq_true.1 h
  obtain ⟨t, ht⟩ := (Go.hasPrefix_iff _ _).1 hpre
  have hunderscore : ∀ q ∈ returnBodySpecialVariables, '_' ∈ q.data := by decide
  have hp' : '_' ∈ p.data := hunderscore p hp
  obtain ⟨v0, v1, hsplit⟩ := splitN2_of_mem (ht ▸ List.mem_append_left _ hp')
  rw [hsplit]
  rfl

/-- **The validator is total.** For every VirtualServer and VirtualServerRoute, every parent
    host and path and both tiers, the three entry points return. Every `$` the loop of
    `validateStringWithVariables` meets, in any string of bytes that does not end with `$`,
    has a byte after it; and a name with a special prefix splits at `_` into the two parts
    `validateSpecialVariable` reads. -/
theorem validate_total :
    (∀ (virtualServer : VirtualServer) (isPlus : Bool),
      (validateVirtualServer parsers virtualServer isPlus).isSome) ∧
    (∀ (virtualServerRoute : VirtualServerRoute) (isPlus : Bool),
      (validateVirtualServerRoute parsers virtualServerRoute isPlus).isSome) ∧
    (∀ (virtualServerRoute : VirtualServerRoute) (virtualServerHost vsPath : String)
      (isPlus : Bool), (validateVirtualServerRouteForVirtualServer parsers virtualServerRoute
        virtualServerHost vsPath isPlus).isSome) ∧
    (∀ bytes : List UInt8, [(0x24 : UInt8)].isSuffixOf bytes = false →
      (variablesEnclosedBytes bytes).isSome) ∧
    (∀ nVar : String, returnBodySpecialVariables.any (Go.hasPrefix nVar ·) →
      (Go.splitN2 nVar '_').length = 2) :=
  ⟨fun _ _ => by
      rw [validateVirtualServer, Option.isSome_map']
      exact validateVirtualServerSpec_isSome _ _ _ _,
    fun _ _ => by
      rw [validateVirtualServerRoute, Option.isSome_map']
      exact validateVirtualServerRouteSpec_isSome _ _ _ _ _ _,
    fun _ _ _ _ => by
      rw [validateVirtualServerRouteForVirtualServer, Option.isSome_map']
      exact validateVirtualServerRouteSpec_isSome _ _ _ _ _ _,
    fun _ => variablesEnclosedBytes_isSome,
    fun _ => splitN2_of_special⟩

end KubernetesIngress.Validation
