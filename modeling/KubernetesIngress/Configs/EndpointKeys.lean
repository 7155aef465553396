import KubernetesIngress.Configs.VirtualServer
import KubernetesIngress.Validation.Soundness

set_option autoImplicit false

/-! # The keys of the endpoint tables

`GenerateEndpointsKey` names the endpoints of an upstream by the namespace, the service, the
subselector and the port: `ns/svc:port`, or `ns/svc_labels:port` where `labels` is the
subselector as `labels.Set.String` writes it, its `k=v` pairs sorted and joined by `,`.

Each part is read back at a separator its grammar excludes: a namespace, an RFC 1123 label,
has no `/`; a service, an RFC 1035 label, has no `_`; a label name or value has no `,` and a
label name no `=`; a port, in decimal, has no `:`. The label pairs are read back as a list
that is sorted, not by key but as strings, and a subselector keeps its pairs sorted by key,
so equal label strings give equal subselectors.

So for namespaces and services that pass their grammars and subselectors that pass
`validateLabels`, two keys are equal exactly when the namespaces, the services, the
subselectors and the ports are (`generateEndpointsKey_eq_iff`). -/

namespace KubernetesIngress.Configs

open V1 Validation

/-! ## The characters of names and labels -/

/-- A character of a DNS label: a lower-case letter, a digit or `-`. -/
def isDNSLabelChar (c : Char) : Bool := isLowerAlnum c || c = '-'

/-- A character of a label name or a label value: a letter, a digit, `-`, `_`, `.`, or the
    `/` after the prefix of a name. -/
def isLabelChar (c : Char) : Bool := c.isAlphanum || c ∈ ['-', '_', '.', '/']

theorem all_of_all {p q : Char → Bool} {s : List Char} (h : s.all p = true)
    (hpq : ∀ c, p c = true → q c = true) : s.all q = true :=
  List.all_eq_true.2 fun c hc => hpq c (List.all_eq_true.1 h c hc)

theorem isDNS1123LabelChars_all {s : List Char} (h : isDNS1123LabelChars s = true) :
    s.all isDNSLabelChar = true := by
  simp only [isDNS1123LabelChars, Bool.and_eq_true] at h
  exact h.2

theorem isDNS1123Label_all {value : String} (h : isDNS1123Label value = []) :
    value.data.all isDNSLabelChar = true := by
  simp only [isDNS1123Label, List.append_eq_nil] at h
  exact isDNS1123LabelChars_all (by simpa using h.2)

theorem isDNS1035Label_all {value : String} (h : isDNS1035Label value = []) :
    value.data.all isDNSLabelChar = true := by
  simp only [isDNS1035Label, List.append_eq_nil] at h
  have hchars : isDNS1035LabelChars value.data = true := by simpa using h.2
  simp only [isDNS1035LabelChars, Bool.and_eq_true] at hchars
  exact isDNS1123LabelChars_all hchars.2

theorem isLabelChar_of_isDNSLabelChar {c : Char} (h : isDNSLabelChar c = true) :
    isLabelChar c = true := by
  simp only [isDNSLabelChar, isLowerAlnum, Bool.or_eq_true, decide_eq_true_eq] at h
  rcases h with (h | h) | h <;> simp [isLabelChar, Char.isAlphanum, Char.isAlpha, h]

theorem isQualifiedNameChars_all {s : List Char} (h : isQualifiedNameChars s = true) :
    s.all isLabelChar = true := by
  simp only [isQualifiedNameChars, Bool.and_eq_true] at h
  exact all_of_all h.2 fun c hc => by
    simp only [Bool.or_eq_true, List.mem_cons, List.mem_singleton, decide_eq_true_eq] at hc
    simp [isLabelChar]
    tauto

/-- A qualified name is made of label characters: its prefix is a DNS subdomain, its name
    part of the name grammar. -/
theorem isQualifiedName_all {value : String} (h : isQualifiedName value = []) :
    value.data.all isLabelChar = true := by
  rw [← List.intercalate_splitOn value.data '/']
  unfold isQualifiedName at h
  split at h
  · rename_i name hsplit
    rw [hsplit]
    simp only [List.nil_append, List.append_eq_nil] at h
    exact Go.all_intercalate (by decide) fun l hl => by
      rw [List.mem_singleton.1 hl]; exact isQualifiedNameChars_all (by simpa using h.2)
  · rename_i pfx name hsplit
    rw [hsplit]
    simp only [List.append_eq_nil] at h
    obtain ⟨⟨hpfx, -⟩, hname⟩ := h
    have hsub : isDNS1123Subdomain ⟨pfx⟩ = [] := by
      rw [if_neg (by rintro rfl; simp at hpfx)] at hpfx
      exact List.map_eq_nil_iff.1 hpfx
    simp only [isDNS1123Subdomain, List.append_eq_nil] at hsub
    have hlabels : (pfx.splitOn '.').all isDNS1123LabelChars = true := by simpa using hsub.2
    have hpfx : pfx.all isLabelChar = true := by
      rw [← List.intercalate_splitOn pfx '.']
      refine Go.all_intercalate (by decide) fun l hl => ?_
      exact all_of_all (isDNS1123LabelChars_all (List.all_eq_true.1 hlabels l hl))
        fun _ => isLabelChar_of_isDNSLabelChar
    refine Go.all_intercalate (by decide) fun l hl => ?_
    rcases List.mem_pair.1 hl with rfl | rfl
    · exact hpfx
    · exact isQualifiedNameChars_all (by simpa using hname)
  · cases h

theorem isValidLabelValue_all {value : String} (h : isValidLabelValue value = []) :
    value.data.all isLabelChar = true := by
  simp only [isValidLabelValue, List.append_eq_nil] at h
  by_cases hnil : value.data = []
  · rw [hnil]; rfl
  · exact isQualifiedNameChars_all (by simpa [hnil] using h.2)

/-- Subselector labels that pass their checks, whatever the field path of the errors. -/
def LabelsValid (labels : StringMap) : Prop :=
  ∀ p ∈ labels.entries, isQualifiedName p.1 = [] ∧ isValidLabelValue p.2 = []

theorem validateLabels_eq_nil_iff (labels : StringMap) (fieldPath : Path) :
    validateLabels labels fieldPath = [] ↔ LabelsValid labels := by
  simp [validateLabels, isValidLabelName, LabelsValid, List.flatMap_eq_nil_iff]

theorem LabelsValid.all {labels : StringMap} (h : LabelsValid labels) {p : String × String}
    (hp : p ∈ labels.entries) : p.1.data.all isLabelChar = true ∧ p.2.data.all isLabelChar = true :=
  ⟨isQualifiedName_all (h p hp).1, isValidLabelValue_all (h p hp).2⟩

/-! ## The label set -/

/-- One label pair as `labels.Set.String` writes it. -/
def labelPair (p : String × String) : String := p.1 ++ "=" ++ p.2

theorem labelsString_eq (subselector : StringMap) :
    labelsString subselector =
      ",".intercalate ((subselector.entries.map labelPair).insertionSort fun a b => a ≤ b) := rfl

theorem labelPair_data (p : String × String) :
    (labelPair p).data = p.1.data ++ '=' :: p.2.data := by
  simp [labelPair, String.data_append]

/-- A `k=v` string read back as a pair: cut at its first `=`. -/
def readLabelPair (s : String) : String × String :=
  (⟨s.data.takeWhile (· ≠ '=')⟩, ⟨(s.data.dropWhile (· ≠ '=')).drop 1⟩)

theorem readLabelPair_labelPair {p : String × String} (h : '=' ∉ p.1.data) :
    readLabelPair (labelPair p) = p := by
  have hne : ∀ a ∈ p.1.data, decide (a ≠ '=') = true := fun a ha => by
    simpa using fun h' : a = '=' => h (h' ▸ ha)
  rw [readLabelPair, labelPair_data, List.takeWhile_append_of_pos hne,
    List.dropWhile_append_of_pos hne]
  simp

section
variable {labels : StringMap} (h : LabelsValid labels)
include h

/-- The pairs of valid labels are read back from their strings. -/
theorem map_readLabelPair : (labels.entries.map labelPair).map readLabelPair = labels.entries := by
  rw [List.map_map]
  exact (List.map_congr_left fun p hp =>
    readLabelPair_labelPair (Go.not_mem_of_all (h.all hp).1 (by decide))).trans (List.map_id _)

/-- No pair of valid labels holds a `,`. -/
theorem comma_not_mem_labelPair :
    ∀ l ∈ ((labels.entries.map labelPair).insertionSort fun a b => a ≤ b).map String.data,
      ',' ∉ l := by
  intro l hl
  obtain ⟨s, hs, rfl⟩ := List.mem_map.1 hl
  obtain ⟨p, hp, rfl⟩ := List.mem_map.1 ((List.perm_insertionSort _ _).mem_iff.1 hs)
  rw [labelPair_data, List.mem_append, List.mem_cons, not_or, not_or]
  exact ⟨Go.not_mem_of_all (h.all hp).1 (by decide), by decide,
    Go.not_mem_of_all (h.all hp).2 (by decide)⟩

/-- The `k=v` strings of a non-empty set of valid labels are read back by splitting at `,`. -/
theorem splitOn_labelsString (hne : labels.entries ≠ []) :
    (labelsString labels).data.splitOn ',' =
      ((labels.entries.map labelPair).insertionSort fun a b => a ≤ b).map String.data := by
  rw [labelsString_eq, Go.data_intercalate]
  refine List.splitOn_intercalate _ ',' (comma_not_mem_labelPair h) ?_
  simpa [← List.length_pos, List.length_insertionSort] using List.length_pos.2 hne

end

/-- Label pairs sorted by key, as a subselector keeps them, have one order only. -/
instance isAntisymm_fst_lt : IsAntisymm (String × String) fun a b => a.1 < b.1 :=
  ⟨fun _ _ h h' => absurd h' (lt_asymm h)⟩

/-- **The label string determines the labels**, for non-empty sets of valid labels. -/
theorem labelsString_injective {labels₁ labels₂ : StringMap} (h₁ : LabelsValid labels₁)
    (h₂ : LabelsValid labels₂) (hne₁ : labels₁.entries ≠ []) (hne₂ : labels₂.entries ≠ [])
    (h : labelsString labels₁ = labelsString labels₂) : labels₁ = labels₂ := by
  have hsorted : (labels₁.entries.map labelPair).insertionSort (fun a b => a ≤ b) =
      (labels₂.entries.map labelPair).insertionSort (fun a b => a ≤ b) := by
    have hsplit := congrArg (List.splitOn ',' ·.data) h
    simp only [splitOn_labelsString h₁ hne₁, splitOn_labelsString h₂ hne₂] at hsplit
    exact List.map_injective_iff.2 (fun _ _ => String.ext) hsplit
  have hperm : (labels₁.entries.map labelPair).Perm (labels₂.entries.map labelPair) :=
    (List.perm_insertionSort _ _).symm.trans (by rw [hsorted]; exact List.perm_insertionSort _ _)
  have hentries : labels₁.entries.Perm labels₂.entries :=
    map_readLabelPair h₁ ▸ map_readLabelPair h₂ ▸ hperm.map readLabelPair
  exact StringMap.ext (List.eq_of_perm_of_sorted hentries labels₁.sorted labels₂.sorted)

/-! ## The key -/

theorem generateEndpointsKey_data (serviceNamespace serviceName : String)
    (subselector : StringMap) (port : UInt16) :
    (generateEndpointsKey serviceNamespace serviceName subselector port).data =
      serviceNamespace.data ++ '/' ::
        ((if subselector.entries = [] then serviceName.data
          else serviceName.data ++ '_' :: (labelsString subselector).data) ++
          ':' :: (toString port.toNat).data) := by
  unfold generateEndpointsKey
  by_cases h : subselector.entries = []
  · simp [h, String.data_append]
  · rw [if_pos (List.length_pos.2 h), if_neg h]
    simp [String.data_append]

/-- The text between the namespace and the port names the service and the subselector: the
    service ends at the first `_`, and the labels after it determine the subselector. -/
theorem serviceSelector_inj {svc₁ svc₂ : String} {sel₁ sel₂ : StringMap}
    (hsvc₁ : '_' ∉ svc₁.data) (hsvc₂ : '_' ∉ svc₂.data) (hsel₁ : LabelsValid sel₁)
    (hsel₂ : LabelsValid sel₂)
    (h : (if sel₁.entries = [] then svc₁.data else svc₁.data ++ '_' :: (labelsString sel₁).data) =
      (if sel₂.entries = [] then svc₂.data else svc₂.data ++ '_' :: (labelsString sel₂).data)) :
    svc₁ = svc₂ ∧ sel₁ = sel₂ := by
  have hmem : ∀ (svc : String) (l : List Char), '_' ∈ svc.data ++ '_' :: l := fun _ _ =>
    List.mem_append_right _ (List.mem_cons_self _ _)
  by_cases he₁ : sel₁.entries = [] <;> by_cases he₂ : sel₂.entries = [] <;>
    simp only [he₁, he₂, if_true, if_false] at h
  · exact ⟨String.ext h, StringMap.ext (he₁.trans he₂.symm)⟩
  · exact absurd (h ▸ hmem _ _) hsvc₁
  · exact absurd (h.symm ▸ hmem _ _) hsvc₂
  · obtain ⟨hsvc, hlabels⟩ := Go.append_sep_inj_left hsvc₁ hsvc₂ h
    exact ⟨String.ext hsvc, labelsString_injective hsel₁ hsel₂ he₁ he₂ (String.ext hlabels)⟩

/-- **Endpoint keys are injective.** For namespaces that are RFC 1123 labels, services that
    are RFC 1035 labels and subselectors that pass `validateLabels`, two keys are equal
    exactly when their namespaces, services, subselectors and ports are. -/
theorem generateEndpointsKey_eq_iff {ns₁ ns₂ svc₁ svc₂ : String} {sel₁ sel₂ : StringMap}
    {path₁ path₂ : Path} (port₁ port₂ : UInt16)
    (hns₁ : isDNS1123Label ns₁ = []) (hns₂ : isDNS1123Label ns₂ = [])
    (hsvc₁ : isDNS1035Label svc₁ = []) (hsvc₂ : isDNS1035Label svc₂ = [])
    (hsel₁ : validateLabels sel₁ path₁ = []) (hsel₂ : validateLabels sel₂ path₂ = []) :
    generateEndpointsKey ns₁ svc₁ sel₁ port₁ = generateEndpointsKey ns₂ svc₂ sel₂ port₂ ↔
      ns₁ = ns₂ ∧ svc₁ = svc₂ ∧ sel₁ = sel₂ ∧ port₁ = port₂ := by
  refine ⟨fun h => ?_, by rintro ⟨rfl, rfl, rfl, rfl⟩; rfl⟩
  have hdata := congrArg String.data h
  rw [generateEndpointsKey_data, generateEndpointsKey_data] at hdata
  obtain ⟨hns, hrest⟩ := Go.append_sep_inj_left
    (Go.not_mem_of_all (isDNS1123Label_all hns₁) (by decide))
    (Go.not_mem_of_all (isDNS1123Label_all hns₂) (by decide)) hdata
  have hcolon : Char.isDigit ':' = false := by decide
  obtain ⟨hmiddle, hport⟩ := Go.append_sep_inj_right (Go.not_mem_toString hcolon _)
    (Go.not_mem_toString hcolon _) hrest
  obtain ⟨hsvc, hsel⟩ := serviceSelector_inj
    (Go.not_mem_of_all (isDNS1035Label_all hsvc₁) (by decide))
    (Go.not_mem_of_all (isDNS1035Label_all hsvc₂) (by decide))
    ((validateLabels_eq_nil_iff _ _).1 hsel₁) ((validateLabels_eq_nil_iff _ _).1 hsel₂) hmiddle
  exact ⟨String.ext hns, hsvc, hsel, UInt16.toNat.inj (Go.toString_injective (String.ext hport))⟩

/-- The subselectors `version=v1` and `version=v2` of one service port. -/
def teaV1 : StringMap := { entries := [("version", "v1")] }

def teaV2 : StringMap := { entries := [("version", "v2")] }

theorem teaV1_teaV2_endpointsKey :
    isDNS1123Label "default" = [] ∧ isDNS1035Label "tea-svc" = [] ∧
      validateLabels teaV1 (.new "subselector") = [] ∧
      validateLabels teaV2 (.new "subselector") = [] ∧
      (generateEndpointsKey "default" "tea-svc" teaV1 80 =
          generateEndpointsKey "default" "tea-svc" teaV2 80 ↔
        "default" = "default" ∧ "tea-svc" = "tea-svc" ∧ teaV1 = teaV2 ∧ (80 : UInt16) = 80) :=
  ⟨by decide, by decide, by decide, by decide,
    generateEndpointsKey_eq_iff 80 80 (by decide) (by decide) (by decide) (by decide)
      (show validateLabels teaV1 (.new "subselector") = [] by decide)
      (show validateLabels teaV2 (.new "subselector") = [] by decide)⟩

end KubernetesIngress.Configs
