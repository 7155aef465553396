import KubernetesIngress.Configs.VirtualServer
import KubernetesIngress.Validation.Routes
import KubernetesIngress.Nginx.Map

set_option autoImplicit false

/-! # How NGINX reads the keys of the condition maps

`generateValueForMatchesRouteMap` writes the value of a condition, without its `!`, as the
key of the condition's map: `\w` when the word `w` is a directive of `map`, `"w"` otherwise.
The validator accepts for it any string of `isEscapedString`, `([^"\\]|\\.)*`.

Read as NGINX reads a key (`Nginx.readMapKey`), the key is never a directive: it is the word
`w` with its escapes resolved, read as a word that is not a directive
(`readMapKey_generateValueForMatchesRouteMap`). That is an exact key equal to the resolved
word, unless the word starts with `~`, which makes it a regular expression, or with `\`, which
NGINX drops. So the condition values `~a` and `\\a` are not matched literally
(`matchValue_not_literal`). -/

namespace KubernetesIngress.Configs

open Nginx Validation

/-- The value of a condition without its leading `!`, as `generateValueForMatchesRouteMap`
    reads it. -/
def matchedWord (matchedValue : String) : String :=
  match matchedValue.data with
  | '!' :: rest => ⟨rest⟩
  | _ => matchedValue

theorem matchedWord_cons {c : Char} (hc : c ≠ '!') (rest : List Char) :
    matchedWord ⟨c :: rest⟩ = ⟨c :: rest⟩ := by
  unfold matchedWord
  split <;> simp_all

theorem generateValueForMatchesRouteMap_fst (matchedValue : String) :
    (generateValueForMatchesRouteMap matchedValue).1 =
      if matchedWord matchedValue ∈ specialMapParameters then "\\" ++ matchedWord matchedValue
      else "\"" ++ matchedWord matchedValue ++ "\"" := by
  obtain ⟨_ | ⟨c, rest⟩⟩ := matchedValue
  · rfl
  · by_cases hc : c = '!'
    · subst hc
      simp only [generateValueForMatchesRouteMap, matchedWord, if_true]
      split_ifs <;> rfl
    · rw [matchedWord_cons hc]
      simp only [generateValueForMatchesRouteMap, hc, if_false]
      split_ifs <;> rfl

theorem isEscapedString_matchedWord {matchedValue : String}
    (h : isEscapedString matchedValue.data = true) :
    isEscapedString (matchedWord matchedValue).data = true := by
  unfold matchedWord
  split
  · rename_i rest hdata
    rwa [hdata, isEscapedString.eq_5 _ _ (by simp) (by simp) (by simp)] at h
  · exact h

/-! ## The tokenizer on a quoted escaped string -/

/-- A quoted escaped string ends at the quote after it: each `\` of an escaped string escapes
    the character after it, and no other `"` occurs. -/
theorem quotedText_escaped {text : List Char} (h : isEscapedString text = true)
    (after : List Char) : quotedText (text ++ '"' :: after) = some (text, after) := by
  induction text using isEscapedString.induct with
  | case1 => rfl
  | case2 c rest ih =>
    rw [isEscapedString, Bool.and_eq_true] at h
    rw [List.cons_append, List.cons_append, quotedText, ih h.2]
    rfl
  | case3 => cases h
  | case4 => cases h
  | case5 c rest hpair hlast hquote ih =>
    rw [isEscapedString.eq_5 _ _ hpair hlast hquote] at h
    rw [List.cons_append, quotedText.eq_4 _ _ hquote ?_, ih h]
    · rfl
    · intro d t hc hrest
      cases rest with
      | nil => exact hlast hc rfl
      | cons e rest => exact hpair e rest hc rfl

/-- A quoted string of the escaped-string grammar is read with its escapes resolved. -/
theorem tokenWord_quoted {text : List Char} (h : isEscapedString text = true) :
    tokenWord ('"' :: (text ++ ['"'])) = some (resolveEscapes text) := by
  rw [tokenWord, quotedText_escaped h]

/-! ## The escapes -/

/-- Resolving escapes gives a word of lowercase letters only where there was nothing to
    resolve: each `\` resolves to, or is kept as, a character that is not a lowercase letter. -/
theorem resolveEscapes_eq_self_of_all_isLower {l : List Char}
    (h : (resolveEscapes l).all Char.isLower = true) : resolveEscapes l = l := by
  induction l using resolveEscapes.induct with
  | case1 c rest hc _ => rcases hc with rfl | rfl | rfl <;> simp [resolveEscapes] at h
  | case2 | case3 | case4 => simp [resolveEscapes] at h
  | case5 c rest h1 h2 h3 h4 _ => simp [resolveEscapes, h1, h2, h3, h4] at h
  | case6 c rest hpair ih =>
    rw [resolveEscapes.eq_2 _ _ hpair, List.all_cons, Bool.and_eq_true] at h
    rw [resolveEscapes.eq_2 _ _ hpair, ih h.2]
  | case7 => rfl

/-- The word of a quoted key is never a directive: the directives are words of lowercase
    letters, which resolving escapes reaches only from themselves, and those are escaped
    with `\`, not quoted. -/
theorem resolveEscapes_not_mem_mapDirectives {w : String} (hw : w ∉ specialMapParameters) :
    String.mk (resolveEscapes w.data) ∉ mapDirectives := fun hmem => by
  have hlower : ∀ d ∈ mapDirectives, d.data.all Char.isLower = true := by decide
  have hsame : mapDirectives.Perm specialMapParameters := by decide
  rw [resolveEscapes_eq_self_of_all_isLower (hlower _ hmem)] at hmem
  exact hw (hsame.mem_iff.1 hmem)

/-! ## The keys of the condition maps -/

/-- **How NGINX reads the key of an accepted condition value**: as the word of the value,
    without its `!` and with its escapes resolved, read as a word that is not a directive. -/
theorem readMapKey_generateValueForMatchesRouteMap {matchedValue : String}
    (h : isValidMatchValue matchedValue = []) :
    readMapKey (generateValueForMatchesRouteMap matchedValue).1 =
      some (mapKeyOfWord (resolveEscapes (matchedWord matchedValue).data)) := by
  have hescaped : isEscapedString (matchedWord matchedValue).data = true :=
    isEscapedString_matchedWord (by simpa [isValidMatchValue] using h)
  rw [generateValueForMatchesRouteMap_fst]
  generalize matchedWord matchedValue = w at hescaped ⊢
  split_ifs with hw
  · simp only [specialMapParameters, List.mem_cons, List.mem_singleton, List.not_mem_nil,
      or_false] at hw
    rcases hw with rfl | rfl | rfl | rfl <;> decide
  · rw [readMapKey, show ("\"" ++ w ++ "\"").data = '"' :: (w.data ++ ['"']) from rfl,
      tokenWord_quoted hescaped, Option.map_some', readMapKeyWord,
      if_neg (resolveEscapes_not_mem_mapDirectives hw)]

/-- The condition values `~a` and `\\a` pass validation, and NGINX reads their keys as the
    regular expression `a` and as the exact key `a`: neither is matched literally. -/
theorem matchValue_not_literal :
    isValidMatchValue "~a" = [] ∧
      readMapKey (generateValueForMatchesRouteMap "~a").1 = some (.regex "a") ∧
    isValidMatchValue "\\\\a" = [] ∧
      readMapKey (generateValueForMatchesRouteMap "\\\\a").1 = some (.exact "a") :=
  have htilde : isValidMatchValue "~a" = [] := by decide
  have hslash : isValidMatchValue "\\\\a" = [] := by decide
  ⟨htilde, by rw [readMapKey_generateValueForMatchesRouteMap htilde]; decide,
    hslash, by rw [readMapKey_generateValueForMatchesRouteMap hslash]; decide⟩

end KubernetesIngress.Configs
