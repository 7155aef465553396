import Mathlib.Data.List.Basic
import Mathlib.Tactic.IntervalCases

set_option autoImplicit false

/-! # The Go library functions the controller calls on strings

Every NGINX identifier the controller emits is built with `fmt.Sprintf`, and the validator
edits strings with Go's `strings` package. This file models the few functions it uses, on
the characters of a Lean `String` (`s.data`): Go strings that come from Kubernetes objects
are UTF-8 text, and every character the code tests for (`$`, `{`, `-`, `_`, `~`, ...) is
ASCII, so a byte test on them is a character test.

It also proves the two facts about `%d` that the name algebra rests on: the decimal
rendering of a number is made of digits only, and it determines the number. -/

namespace KubernetesIngress.Go

/-- `strings.HasPrefix`. -/
def hasPrefix (s pre : String) : Bool :=
  pre.data.isPrefixOf s.data

/-- `strings.HasSuffix`. -/
def hasSuffix (s suf : String) : Bool :=
  suf.data.isSuffixOf s.data

/-- `strings.TrimPrefix`. -/
def trimPrefix (s pre : String) : String :=
  if hasPrefix s pre then ⟨s.data.drop pre.length⟩ else s

/-- `strings.ReplaceAll(s, old, new)` as the controller calls it, with one-character `old`
    and `new`. -/
def replaceAll (s : String) (old new : Char) : String :=
  ⟨s.data.map fun c => if c = old then new else c⟩

/-- `strings.Contains(s, sub)` for a one-character `sub`. -/
def contains (s : String) (c : Char) : Bool :=
  s.data.contains c

/-- `strings.Split(s, sep)` for a one-character `sep`. -/
def split (s : String) (sep : Char) : List String :=
  (s.data.splitOn sep).map String.mk

/-- `strings.SplitN(s, sep, 2)` for a one-character `sep`: the text before the first `sep`
    and the text after it, or `s` alone when `sep` does not occur. -/
def splitN2 (s : String) (sep : Char) : List String :=
  if sep ∈ s.data then
    [String.mk (s.data.takeWhile (· ≠ sep)), String.mk ((s.data.dropWhile (· ≠ sep)).drop 1)]
  else [s]

/-- `unicode.IsSpace`. -/
def isSpace (c : Char) : Bool :=
  c ∈ ['\t', '\n', '\x0b', '\x0c', '\r', ' ', '\x85', '\xa0', '\u1680', '\u2028', '\u2029',
    '\u202f', '\u205f', '\u3000'] || ('\u2000' ≤ c && c ≤ '\u200a')

/-- `strings.Fields`: the maximal runs of non-space characters. -/
def fields (s : String) : List String :=
  ((s.data.splitOnP isSpace).filter (· ≠ [])).map String.mk

/-- `strconv.ParseInt(s, 10, 64)`: an optional sign and at least one decimal digit, with a
    value that fits in 64 bits; `none` is the error. -/
def parseInt (s : String) : Option Int :=
  let (neg, digits) : Bool × List Char :=
    match s.data with
    | '+' :: r => (false, r)
    | '-' :: r => (true, r)
    | r => (false, r)
  if digits = [] || !digits.all Char.isDigit then none else
  let n : Int := digits.foldl (fun acc c => 10 * acc + (c.toNat - 48 : Nat)) 0
  let v := if neg then -n else n
  if v < -2 ^ 63 || v > 2 ^ 63 - 1 then none else some v

@[simp] theorem data_replaceAll (s : String) (old new : Char) :
    (replaceAll s old new).data = s.data.map fun c => if c = old then new else c := rfl

theorem hasPrefix_iff (s pre : String) : hasPrefix s pre = true ↔ pre.data <+: s.data :=
  List.isPrefixOf_iff_prefix

/-! ## `%d`: the decimal rendering of a number

Lean's `toString` on `Nat` is `Nat.toDigits 10`, which is also what `fmt.Sprintf("%d")`
prints for a non-negative `int`. `Nat.toDigits` runs on a fuel argument; the two lemmas
below remove the fuel, and `toDigits_ten` states the rendering as "the rendering of
`n / 10`, then the last digit". -/

private theorem toDigits_eq (n : Nat) : Nat.toDigits 10 n = Nat.toDigitsCore 10 (n + 1) n [] :=
  rfl

private theorem toDigitsCore_succ (fuel n : Nat) (ds : List Char) :
    Nat.toDigitsCore 10 (fuel + 1) n ds =
      if n / 10 = 0 then Nat.digitChar (n % 10) :: ds
      else Nat.toDigitsCore 10 fuel (n / 10) (Nat.digitChar (n % 10) :: ds) :=
  rfl

theorem toDigitsCore_append (fuel n : Nat) (ds : List Char) (h : n < fuel) :
    Nat.toDigitsCore 10 fuel n ds = Nat.toDigitsCore 10 fuel n [] ++ ds := by
  induction fuel generalizing n ds with
  | zero => omega
  | succ fuel ih =>
    simp only [toDigitsCore_succ]
    split
    · rfl
    · have : n / 10 < fuel := by omega
      rw [ih _ _ this, ih _ [_] this, List.append_assoc, List.singleton_append]

theorem toDigitsCore_fuel (f g n : Nat) (ds : List Char) (hf : n < f) (hg : n < g) :
    Nat.toDigitsCore 10 f n ds = Nat.toDigitsCore 10 g n ds := by
  induction f generalizing g n ds with
  | zero => omega
  | succ f ih =>
    cases g with
    | zero => omega
    | succ g =>
      simp only [toDigitsCore_succ]
      split
      · rfl
      · exact ih g _ _ (by omega) (by omega)

theorem toDigits_ten (n : Nat) :
    Nat.toDigits 10 n =
      (if n / 10 = 0 then [] else Nat.toDigits 10 (n / 10)) ++ [Nat.digitChar (n % 10)] := by
  conv_lhs => rw [toDigits_eq, toDigitsCore_succ]
  split
  · rfl
  · rw [toDigitsCore_append _ _ _ (by omega), toDigits_eq,
      toDigitsCore_fuel n (n / 10 + 1) (n / 10) [] (by omega) (by omega)]

theorem digitChar_isDigit (d : Nat) (h : d < 10) : (Nat.digitChar d).isDigit = true := by
  interval_cases d <;> rfl

theorem digitChar_toNat (d : Nat) (h : d < 10) : (Nat.digitChar d).toNat - 48 = d := by
  interval_cases d <;> rfl

theorem toDigits_ten_ne_nil (n : Nat) : Nat.toDigits 10 n ≠ [] := by
  rw [toDigits_ten]; simp

theorem isDigit_of_mem_toDigits (n : Nat) : ∀ c ∈ Nat.toDigits 10 n, c.isDigit = true := by
  induction n using Nat.strong_induction_on with
  | _ n ih =>
    intro c hc
    rw [toDigits_ten] at hc
    rcases List.mem_append.1 hc with hc | hc
    · split at hc
      · simp at hc
      · exact ih (n / 10) (by omega) c hc
    · rw [List.mem_singleton.1 hc]
      exact digitChar_isDigit _ (Nat.mod_lt _ (by decide))

theorem toDigits_ten_injective {a b : Nat} (h : Nat.toDigits 10 a = Nat.toDigits 10 b) :
    a = b := by
  induction a using Nat.strong_induction_on generalizing b with
  | _ a ih =>
    rw [toDigits_ten a, toDigits_ten b] at h
    obtain ⟨hhead, hlast⟩ := List.append_inj' h rfl
    have hmod : a % 10 = b % 10 := by
      have := congrArg (fun l => (List.head! l).toNat - 48) hlast
      simpa [digitChar_toNat _ (Nat.mod_lt _ (by decide : 10 > 0))] using this
    have hdiv : a / 10 = b / 10 := by
      split at hhead <;> split at hhead
      · omega
      · exact absurd hhead.symm (toDigits_ten_ne_nil _)
      · exact absurd hhead (toDigits_ten_ne_nil _)
      · exact ih (a / 10) (by omega) hhead
    omega

@[simp] theorem data_toString (n : Nat) : (toString n).data = Nat.toDigits 10 n := rfl

theorem isDigit_of_mem_toString {n : Nat} {c : Char} (h : c ∈ (toString n).data) :
    c.isDigit = true :=
  isDigit_of_mem_toDigits n c h

theorem toString_injective {a b : Nat} (h : toString a = toString b) : a = b :=
  toDigits_ten_injective (congrArg String.data h)

/-- A character that is not a digit does not occur in a decimal rendering. -/
theorem not_mem_toString {c : Char} (hc : c.isDigit = false) (n : Nat) :
    c ∉ (toString n).data := fun h => by
  rw [isDigit_of_mem_toString h] at hc; cases hc

/-! ## Cutting a string at a separator

Identifiers are concatenations of components joined by a separator that no component
contains; these two lemmas say such a concatenation is cut back uniquely, reading from the
left or from the right. -/

theorem append_sep_inj_left {c : Char} :
    ∀ {a b x y : List Char}, c ∉ a → c ∉ b → a ++ c :: x = b ++ c :: y → a = b ∧ x = y
  | [], [], _, _, _, _, h => ⟨rfl, (List.cons.inj h).2⟩
  | [], d :: b, _, _, _, hb, h => absurd (List.cons.inj h).1 (fun e => hb (e ▸ List.mem_cons_self d b))
  | d :: a, [], _, _, ha, _, h => absurd (List.cons.inj h).1.symm (fun e => ha (e ▸ List.mem_cons_self d a))
  | d :: a, e :: b, _, _, ha, hb, h => by
    obtain ⟨rfl, htail⟩ := List.cons.inj h
    obtain ⟨rfl, rfl⟩ := append_sep_inj_left (fun m => ha (List.mem_cons_of_mem _ m))
      (fun m => hb (List.mem_cons_of_mem _ m)) htail
    exact ⟨rfl, rfl⟩

theorem append_sep_inj_right {c : Char} {a b x y : List Char} (hx : c ∉ x) (hy : c ∉ y)
    (h : a ++ c :: x = b ++ c :: y) : a = b ∧ x = y := by
  have hr := congrArg List.reverse h
  simp only [List.reverse_append, List.reverse_cons, List.append_assoc, List.singleton_append]
    at hr
  obtain ⟨h1, h2⟩ := append_sep_inj_left (by simpa using hx) (by simpa using hy) hr
  exact ⟨List.reverse_injective h2, List.reverse_injective h1⟩

/-! ## Joining strings with a separator -/

/-- A character that fails a test every character of a string passes is not in it. -/
theorem not_mem_of_all {p : Char → Bool} {s : List Char} (h : s.all p = true) {c : Char}
    (hc : p c = false) : c ∉ s :=
  fun hm => by simp [List.all_eq_true.1 h c hm] at hc

theorem intercalate_cons_cons (sep : Char) (a b : List Char) (l : List (List Char)) :
    [sep].intercalate (a :: b :: l) = a ++ sep :: [sep].intercalate (b :: l) := by
  simp [List.intercalate, List.intersperse_cons₂]

theorem intercalate_append_cons (sep a b : List Char) :
    ∀ l : List (List Char), sep.intercalate ((a ++ b) :: l) = a ++ sep.intercalate (b :: l)
  | [] => by simp [List.intercalate]
  | _ :: _ => by simp [List.intercalate, List.intersperse_cons₂]

theorem data_intercalateGo (s : String) :
    ∀ (acc : String) (xs : List String),
      (String.intercalate.go acc s xs).data = s.data.intercalate (acc.data :: xs.map String.data)
  | acc, [] => by simp [String.intercalate.go, List.intercalate]
  | acc, a :: xs => by
    rw [String.intercalate.go, data_intercalateGo, String.data_append, String.data_append,
      intercalate_append_cons, List.map_cons]
    simp [List.intercalate, List.intersperse_cons₂]

/-- `strings.Join` on the characters: the parts with the separator between them. -/
theorem data_intercalate (s : String) :
    ∀ xs : List String, (s.intercalate xs).data = s.data.intercalate (xs.map String.data)
  | [] => rfl
  | a :: xs => data_intercalateGo s a xs

/-- A test that the separator and every part pass is passed by the joined text. -/
theorem all_intercalate {p : Char → Bool} {sep : Char} (hsep : p sep = true) :
    ∀ {ls : List (List Char)}, (∀ l ∈ ls, l.all p = true) → ([sep].intercalate ls).all p = true
  | [], _ => rfl
  | [l], h => by simpa [List.intercalate] using h l (List.mem_singleton_self l)
  | l :: l' :: ls, h => by
    rw [List.forall_mem_cons] at h
    rw [intercalate_cons_cons, List.all_append, List.all_cons, h.1, hsep, all_intercalate hsep h.2]
    rfl

end KubernetesIngress.Go
