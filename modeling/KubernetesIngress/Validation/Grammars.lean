import Mathlib.Data.List.Basic

set_option autoImplicit false

/-! # The string grammars of the validator

The validator tests strings against anchored regular expressions (`^…$`). Each one is a
language simple enough to be decided by one pass over the characters, which is how it is
written here; the docstring of each gives the regular expression it decides. Go's RE2 is
used with its default flags: `.` does not match a newline, a negated class such as
`[^"\\]` does, `\s` is `[\t\n\f\r ]` and `\d` is `[0-9]`.

The second half models the checks of `k8s.io/apimachinery/pkg/util/validation` that the
validator calls (DNS names, HTTP header names, qualified names, label values, port numbers
and ranges). They are not under src/; each returns its list of messages, empty when the
value is valid, as the library does. -/

namespace KubernetesIngress.Validation

/-- `^([^"\\]|\\.)*$` (`escapedStringsFmt`). -/
def isEscapedString : List Char → Bool
  | [] => true
  | '\\' :: c :: rest => c ≠ '\n' && isEscapedString rest
  | ['\\'] => false
  | '"' :: _ => false
  | _ :: rest => isEscapedString rest

/-- `^([^"$\\]|\\[^$])*$` (`headerValueFmt`). -/
def isHeaderValue : List Char → Bool
  | [] => true
  | '\\' :: c :: rest => c ≠ '$' && isHeaderValue rest
  | ['\\'] => false
  | '"' :: _ => false
  | '$' :: _ => false
  | _ :: rest => isHeaderValue rest

/-- `^([^;\{\}"\\]|\\.)*$` (`actionReturnTypeFmt`). -/
def isActionReturnType : List Char → Bool
  | [] => true
  | '\\' :: c :: rest => c ≠ '\n' && isActionReturnType rest
  | ['\\'] => false
  | c :: rest => !(c ∈ [';', '\x7b', '\x7d', '"']) && isActionReturnType rest

/-- `^/[^\s{};]*$` (`pathFmt`). -/
def isPath : List Char → Bool
  | '/' :: rest => rest.all fun c => !(c ∈ ['\t', '\n', '\x0c', '\r', ' ', '\x7b', '\x7d', ';'])
  | _ => false

/-- `^\d+[kKmMgG]?$` (`offsetFmt`) when `units` is `kKmMgG`, and `^\d+[kKmM]?$`
    (`sizeFmt`) when it is `kKmM`. -/
def isNumberWithUnit (units : List Char) (s : List Char) : Bool :=
  match s.reverse with
  | [] => false
  | c :: rest =>
    if c ∈ units then rest ≠ [] && rest.all Char.isDigit else s.all Char.isDigit

/-- `^[_A-Za-z0-9]+$` (`cookieNameFmt` and `argumentNameFmt`). -/
def isNameOfWordChars (s : List Char) : Bool :=
  s ≠ [] && s.all fun c => c.isAlphanum || c = '_'

/-! ## `k8s.io/apimachinery/pkg/util/validation` -/

/-- `validation.RegexError`. -/
def regexError (msg fmt : String) (examples : List String) : String :=
  match examples with
  | [] => msg ++ " (regex used for validation is '" ++ fmt ++ "')"
  | e :: es =>
    msg ++ " (e.g. " ++ "'" ++ e ++ "', " ++
      String.join (es.map fun x => " or '" ++ x ++ "', ") ++
      "regex used for validation is '" ++ fmt ++ "')"

/-- `validation.MaxLenError`. -/
def maxLenError (length : Nat) : String :=
  "must be no more than " ++ toString length ++ " characters"

/-- `validation.InclusiveRangeError`. -/
def inclusiveRangeError (lo hi : Int) : String :=
  "must be between " ++ toString lo ++ " and " ++ toString hi ++ ", inclusive"

/-- `validation.EmptyError`. -/
def emptyError : String := "must be non-empty"

/-- A lower-case letter or a digit. -/
def isLowerAlnum (c : Char) : Bool := c.isLower || c.isDigit

/-- `[a-z0-9]([-a-z0-9]*[a-z0-9])?`. -/
def isDNS1123LabelChars (s : List Char) : Bool :=
  s.head?.any isLowerAlnum && s.getLast?.any isLowerAlnum &&
    s.all fun c => isLowerAlnum c || c = '-'

/-- `[a-z]([-a-z0-9]*[a-z0-9])?`. -/
def isDNS1035LabelChars (s : List Char) : Bool :=
  s.head?.any Char.isLower && isDNS1123LabelChars s

/-- `validation.IsDNS1123Label`. -/
def isDNS1123Label (value : String) : List String :=
  (if value.utf8ByteSize > 63 then [maxLenError 63] else []) ++
  (if isDNS1123LabelChars value.data then [] else
    [regexError ("a lowercase RFC 1123 label must consist of lower case alphanumeric " ++
      "characters or '-', and must start and end with an alphanumeric character")
      "[a-z0-9]([-a-z0-9]*[a-z0-9])?" ["my-name", "123-abc"]])

/-- `validation.IsDNS1123Subdomain`: dot-separated RFC 1123 labels. -/
def isDNS1123Subdomain (value : String) : List String :=
  (if value.utf8ByteSize > 253 then [maxLenError 253] else []) ++
  (if (value.data.splitOn '.').all isDNS1123LabelChars then [] else
    [regexError ("a lowercase RFC 1123 subdomain must consist of lower case alphanumeric " ++
      "characters, '-' or '.', and must start and end with an alphanumeric character")
      "[a-z0-9]([-a-z0-9]*[a-z0-9])?(\\.[a-z0-9]([-a-z0-9]*[a-z0-9])?)*" ["example.com"]])

/-- `validation.IsDNS1035Label`. -/
def isDNS1035Label (value : String) : List String :=
  (if value.utf8ByteSize > 63 then [maxLenError 63] else []) ++
  (if isDNS1035LabelChars value.data then [] else
    [regexError ("a DNS-1035 label must consist of lower case alphanumeric characters or " ++
      "'-', start with an alphabetic character, and end with an alphanumeric character")
      "[a-z]([-a-z0-9]*[a-z0-9])?" ["my-name", "abc-123"]])

/-- `validation.IsHTTPHeaderName`: `^[-A-Za-z0-9]+$`. -/
def isHTTPHeaderName (value : String) : List String :=
  if value.data ≠ [] && value.data.all (fun c => c.isAlphanum || c = '-') then [] else
    [regexError "a valid HTTP header must consist of alphanumeric characters or '-'"
      "[-A-Za-z0-9]+" ["X-Header-Name"]]

/-- `([A-Za-z0-9][-A-Za-z0-9_.]*)?[A-Za-z0-9]`, the name part of a qualified name and a
    non-empty label value. -/
def isQualifiedNameChars (s : List Char) : Bool :=
  s.head?.any Char.isAlphanum && s.getLast?.any Char.isAlphanum &&
    s.all fun c => c.isAlphanum || c ∈ ['-', '_', '.']

/-- `validation.IsQualifiedName`: an optional DNS subdomain and `/`, then a name. -/
def isQualifiedName (value : String) : List String :=
  let nameErr := regexError ("must consist of alphanumeric characters, '-', '_' or '.', and " ++
    "must start and end with an alphanumeric character")
    "([A-Za-z0-9][-A-Za-z0-9_.]*)?[A-Za-z0-9]" ["MyName", "my.name", "123-abc"]
  let check (prefixErrs : List String) (name : List Char) : List String :=
    prefixErrs ++
    (if name = [] then ["name part " ++ emptyError]
     else if (String.mk name).utf8ByteSize > 63 then ["name part " ++ maxLenError 63] else []) ++
    (if isQualifiedNameChars name then [] else ["name part " ++ nameErr])
  match value.data.splitOn '/' with
  | [name] => check [] name
  | [pfx, name] =>
    check (if pfx = [] then ["prefix part " ++ emptyError]
      else (isDNS1123Subdomain (String.mk pfx)).map ("prefix part " ++ ·)) name
  | _ => ["a qualified name " ++ nameErr ++
      " with an optional DNS subdomain prefix and '/' (e.g. 'example.com/MyName')"]

/-- `validation.IsValidLabelValue`. -/
def isValidLabelValue (value : String) : List String :=
  (if value.utf8ByteSize > 63 then [maxLenError 63] else []) ++
  (if value.data = [] || isQualifiedNameChars value.data then [] else
    [regexError ("a valid label must be an empty string or consist of alphanumeric " ++
      "characters, '-', '_' or '.', and must start and end with an alphanumeric character")
      "(([A-Za-z0-9][-A-Za-z0-9_.]*)?[A-Za-z0-9])?" ["MyValue", "my_value", "12345"]])

/-- `validation.IsValidPortNum`. -/
def isValidPortNum (port : Int) : List String :=
  if 1 ≤ port ∧ port ≤ 65535 then [] else [inclusiveRangeError 1 65535]

/-- `validation.IsInRange`. -/
def isInRange (value lo hi : Int) : List String :=
  if value < lo ∨ value > hi then [inclusiveRangeError lo hi] else []

end KubernetesIngress.Validation
