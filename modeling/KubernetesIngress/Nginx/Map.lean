import KubernetesIngress.Configs.Version2
import Mathlib.Data.List.Basic

set_option autoImplicit false

/-! # What an NGINX `map` block computes

A block `map $source $variable { key result; … default result; }` defines `$variable` for
each request. NGINX evaluates the source string, whose `$name` references are variables of
the request or of other maps, and takes the result of the first key that matches the value,
or the result of `default`; a result that is itself the variable of a map is evaluated in
turn.

This is the meaning the generated maps are read with (`Configs.Matches`), for the keys the
generator writes: a quoted key `"w"` and an escaped key `\w` stand for the string `w` and
match a value equal to it, and a key `~^p` matches a value that starts with `p`.
Evaluation is bounded by a fuel, the depth of maps evaluated one inside another.

How NGINX itself reads a key token, with the escapes it resolves and the keys it takes for
regular expressions, is `readMapKey`, in the last section. -/

namespace KubernetesIngress.Nginx

open Version2

/-! ## Sources and keys -/

/-- The variables a source refers to: the source cut before every `$`. -/
def sourceReferences (source : String) : List String :=
  ((source.data.splitOn '$').drop 1).map fun name => ⟨'$' :: name⟩

/-- The value of a source whose references have the values `values`, in order. -/
def concatValues (values : List String) : String :=
  values.foldr (· ++ ·) ""

/-- The string a key other than `default` stands for: the text between the quotes of a
    quoted key, or the key without the `\` that escapes it. -/
def keyLiteral (key : String) : String :=
  match key.data with
  | '"' :: rest => ⟨rest.dropLast⟩
  | '\\' :: rest => ⟨rest⟩
  | _ => key

/-- Whether a key other than `default` matches a value: `~^p` when the value starts with
    `p`, any other key when the value is the string it stands for. -/
def keyMatches (key value : String) : Bool :=
  match key.data with
  | '~' :: '^' :: pattern => pattern.isPrefixOf value.data
  | _ => keyLiteral key == value

/-- The result of a map's parameters for a value of its source: that of the first key other
    than `default` that matches, else that of `default`, else the empty string. -/
def selectResult (parameters : List Parameter) (value : String) : String :=
  match parameters.find? (fun p => p.value != "default" && keyMatches p.value value) with
  | some p => p.result
  | none => ((parameters.find? (·.value == "default")).map (·.result)).getD ""

/-- The value of variable `v` in a request that gives each of its own variables `x` the
    value `env x`: a variable that one of `maps` defines is the map's result for the value of
    its source, and a result that names the variable of a map is evaluated in turn. `none`
    is running out of fuel. -/
def evalVariable (maps : List Map) (env : String → String) : Nat → String → Option String
  | 0, _ => none
  | fuel + 1, v =>
    match maps.find? (·.variable == v) with
    | none => some (env v)
    | some m => do
      let values ← (sourceReferences m.source).mapM (evalVariable maps env fuel)
      let result := selectResult m.parameters (concatValues values)
      if maps.any (·.variable == result) then evalVariable maps env fuel result else pure result

/-! ## Sources made of references -/

/-- A reference: `$` and a name without `$`. -/
def IsReference (v : String) : Prop := ∃ name, v.data = '$' :: name ∧ '$' ∉ name

@[simp] theorem concatValues_nil : concatValues [] = "" := rfl

@[simp] theorem concatValues_cons (v : String) (values : List String) :
    concatValues (v :: values) = v ++ concatValues values := rfl

theorem data_concatValues (values : List String) :
    (concatValues values).data = (values.map String.data).flatten := by
  induction values with
  | nil => rfl
  | cons v values ih => simp [ih]

private theorem intercalate_cons_eq_flatten (x : Char) (a : List Char) :
    ∀ ls : List (List Char), [x].intercalate (a :: ls) = a ++ (ls.map (x :: ·)).flatten
  | [] => by simp [List.intercalate]
  | b :: ls => by
    have ih := intercalate_cons_eq_flatten x b ls
    simp only [List.intercalate, List.intersperse_cons₂, List.flatten_cons] at ih ⊢
    simp [ih]

/-- **A source made of references is cut back into them.** -/
theorem sourceReferences_concatValues {vars : List String} (h : ∀ v ∈ vars, IsReference v) :
    sourceReferences (concatValues vars) = vars := by
  obtain ⟨names, rfl, hnames⟩ : ∃ names : List (List Char),
      names.map (fun name => (⟨'$' :: name⟩ : String)) = vars ∧ ∀ name ∈ names, '$' ∉ name := by
    refine ⟨vars.map (·.data.tail), ?_, ?_⟩
    · rw [List.map_map]
      conv_rhs => rw [← List.map_id vars]
      refine List.map_congr_left fun v hv => ?_
      obtain ⟨name, hdata, -⟩ := h v hv
      cases v
      simp_all
    · simp only [List.mem_map, forall_exists_index, and_imp, forall_apply_eq_imp_iff₂]
      intro v hv
      obtain ⟨name, hdata, hname⟩ := h v hv
      simpa [hdata] using hname
  have hdata : (concatValues (names.map fun name => (⟨'$' :: name⟩ : String))).data =
      ['$'].intercalate ([] :: names) := by
    rw [intercalate_cons_eq_flatten, data_concatValues, List.map_map, List.nil_append]
    rfl
  have hsplit : (['$'].intercalate ([] :: names)).splitOn '$' = [] :: names :=
    List.splitOn_intercalate _ '$' (by simpa using hnames) (List.cons_ne_nil _ _)
  rw [sourceReferences, hdata, hsplit]
  rfl

/-! ## Parameters -/

/-- **A map whose one `default` comes last** gives the result of the first other key that
    matches, else that of `default`. -/
theorem selectResult_append_default {parameters : List Parameter} {result value : String}
    (h : ∀ p ∈ parameters, p.value ≠ "default") :
    selectResult (parameters ++ [{ value := "default", result }]) value =
      ((parameters.find? (fun p => keyMatches p.value value)).map (·.result)).getD result := by
  induction parameters with
  | nil => rfl
  | cons p parameters ih =>
    have hp : p.value ≠ "default" := h p (List.mem_cons_self _ _)
    specialize ih fun q hq => h q (List.mem_cons_of_mem _ hq)
    unfold selectResult at ih ⊢
    cases hk : keyMatches p.value value <;> simp_all

/-! ## Evaluation -/

section
variable {maps : List Map} {env : String → String}

theorem find?_variable_eq_some (hnodup : (maps.map (·.variable)).Nodup) {m : Map}
    (hm : m ∈ maps) : maps.find? (·.variable == m.variable) = some m := by
  induction maps with
  | nil => cases hm
  | cons m' maps ih =>
    rw [List.map_cons, List.nodup_cons] at hnodup
    rcases List.mem_cons.1 hm with rfl | hm
    · simp
    · have hne : m'.variable ≠ m.variable := fun h => hnodup.1 (h ▸ List.mem_map_of_mem _ hm)
      simp [hne, ih hnodup.2 hm]

/-- A variable no map defines is the request's own. -/
theorem evalVariable_of_not_mem {v : String} (h : v ∉ maps.map (·.variable)) (fuel : Nat) :
    evalVariable maps env (fuel + 1) v = some (env v) := by
  have hfind : maps.find? (·.variable == v) = none := by simpa using h
  simp [evalVariable, hfind]

/-- **One map evaluated**: once the references of its source have values, the variable of a
    map is the result selected for their concatenation, evaluated in turn if it names a map. -/
theorem evalVariable_of_mem (hnodup : (maps.map (·.variable)).Nodup) {m : Map} (hm : m ∈ maps)
    {fuel : Nat} {values : List String}
    (hvalues : (sourceReferences m.source).mapM (evalVariable maps env fuel) = some values)
    {result : String} (hresult : selectResult m.parameters (concatValues values) = result) :
    evalVariable maps env (fuel + 1) m.variable =
      if result ∈ maps.map (·.variable) then evalVariable maps env fuel result else some result := by
  simp only [evalVariable, find?_variable_eq_some hnodup hm, hvalues, Option.bind_eq_bind,
    Option.some_bind, hresult]
  congr 1
  simp [List.any_eq_true, List.mem_map]

end

/-! ## How NGINX reads a key

`ngx_conf_read_token` reads a token: a token in double quotes ends at the first `"` that no
`\` escapes, and in the text it reads `\"`, `\'`, `\\`, `\t`, `\r` and `\n` are resolved.
`ngx_http_map` then reads the word: `default`, `include`, `hostnames` and `volatile` are its
directives, a word that starts with `~` is a regular expression, and any other word is an
exact key, without one leading `\`. -/

/-- The escapes `ngx_conf_read_token` resolves; any other `\` is kept. -/
def resolveEscapes : List Char → List Char
  | '\\' :: c :: rest =>
    if c = '"' ∨ c = '\x27' ∨ c = '\\' then c :: resolveEscapes rest
    else if c = 't' then '\t' :: resolveEscapes rest
    else if c = 'r' then '\r' :: resolveEscapes rest
    else if c = 'n' then '\n' :: resolveEscapes rest
    else '\\' :: resolveEscapes (c :: rest)
  | c :: rest => c :: resolveEscapes rest
  | [] => []

/-- The text of a double-quoted token up to its closing quote, the first `"` that no `\`
    escapes, and what follows that quote. -/
def quotedText : List Char → Option (List Char × List Char)
  | [] => none
  | '"' :: rest => some ([], rest)
  | '\\' :: c :: rest => (quotedText rest).map fun (text, after) => ('\\' :: c :: text, after)
  | c :: rest => (quotedText rest).map fun (text, after) => (c :: text, after)

/-- The word `ngx_conf_read_token` reads from a whole token; `none` where a quoted token does
    not end at its closing quote. -/
def tokenWord : List Char → Option (List Char)
  | '"' :: rest =>
    match quotedText rest with
    | some (text, []) => some (resolveEscapes text)
    | _ => none
  | token => some (resolveEscapes token)

/-- What `ngx_http_map` reads a key as. -/
inductive MapKey
  | directive (name : String)
  | regex (pattern : String)
  | exact (value : String)
  deriving DecidableEq, Repr

/-- The directives of a `map` block. -/
def mapDirectives : List String := ["default", "include", "hostnames", "volatile"]

/-- How `ngx_http_map` reads a word that is not one of its directives: a regular expression
    after `~`, else an exact key without one leading `\`. -/
def mapKeyOfWord : List Char → MapKey
  | '~' :: pattern => .regex ⟨pattern⟩
  | '\\' :: rest => .exact ⟨rest⟩
  | word => .exact ⟨word⟩

/-- How `ngx_http_map` reads the word of a key. -/
def readMapKeyWord (word : List Char) : MapKey :=
  if String.mk word ∈ mapDirectives then .directive ⟨word⟩ else mapKeyOfWord word

/-- How NGINX reads a key token of a `map` block. -/
def readMapKey (token : String) : Option MapKey :=
  (tokenWord token.data).map readMapKeyWord

end KubernetesIngress.Nginx
