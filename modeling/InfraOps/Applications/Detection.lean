import InfraOps.Applications.Paths
import InfraOps.Support.Separated
import Mathlib.Data.Finmap
import Mathlib.Data.List.Infix

/-!
# Detection rules

`app/services/applications/detection_rules.py`. A detection configuration is a JSON object;
a value that is not text counts with its truth value and its `str` only.
-/

namespace InfraOps

inductive DetectionMethod
  | msiProductCode | registryKey | fileExists | serviceExists | script
  deriving DecidableEq

inductive JsonValue
  | text (value : List Char)
  | other (truthy : Bool) (shown : List Char)
  deriving DecidableEq

/-- `str(value or "")`, where a key that is missing has the value `None`. -/
def JsonValue.shownOrEmpty : Option JsonValue → List Char
  | some (.text value) => value
  | some (.other true shown) => shown
  | some (.other false _) => []
  | none => []

abbrev DetectionConfig := Finmap fun _ : String => JsonValue

/-! ## Patterns -/

/-- `_CONTROL_CHARS`; a tab is none. -/
def controlChar (c : Char) : Bool :=
  c.toNat ≤ 0x08 || (0x0a ≤ c.toNat && c.toNat ≤ 0x1f) || c.toNat = 0x7f

def hexDigit (c : Char) : Bool :=
  ('0' ≤ c && c ≤ '9') || ('a' ≤ c && c ≤ 'f') || ('A' ≤ c && c ≤ 'F')

/-- `GUID_PATTERN` between its optional braces. -/
def guid (code : List Char) : Bool :=
  code.length = 36 && code.zipIdx.all fun (c, i) =>
    if i ∈ [8, 13, 18, 23] then c == '-' else hexDigit c

def withoutOpening : List Char → List Char
  | '{' :: code => code
  | code => code

def withoutClosing (code : List Char) : List Char :=
  if code.getLast? = some '}' then code.dropLast else code

/-- `GUID_PATTERN.fullmatch`. -/
def guidPattern (code : List Char) : Bool := guid (withoutClosing (withoutOpening code))

def brace (c : Char) : Bool := c == '{' || c == '}'

/-- `code.strip("{}")`. -/
def stripBraces (code : List Char) : List Char := dropRight brace (code.dropWhile brace)

/-- `_REGISTRY_HIVE.match`. -/
def registryHive (key : List Char) : Bool :=
  "HKLM\\".toList.isPrefixOf key || "HKCU\\".toList.isPrefixOf key

/-- `_WINDOWS_ABS_PATH.match`. Its `$` would also match before a final newline, which
`_clean_text` has refused. -/
def windowsAbsPath : List Char → Bool
  | drive :: ':' :: '\\' :: rest =>
    ((('a' ≤ drive && drive ≤ 'z') || ('A' ≤ drive && drive ≤ 'Z')) : Bool) && rest ≠ [] &&
      rest.all fun c => c ∉ ['<', '>', ':', '"', '|', '?', '*'] && 0x1f < c.toNat
  | _ => false

/-- `_SERVICE_NAME.match`. -/
def servicePattern (service : List Char) : Bool :=
  service ≠ [] && service.length ≤ 80 &&
    service.all fun c => asciiAlphanum c || c ∈ ['_', '.', '-']

/-! ## Validation -/

/-- `_clean_text`. -/
def cleanText (value : Option JsonValue) (label : String) (maxLength : Nat) :
    Except String (List Char) :=
  let text := pyStrip (JsonValue.shownOrEmpty value)
  if text = [] then .error s!"{label} is required."
  else if maxLength < text.length then .error s!"{label} exceeds {maxLength} characters."
  else if text.any controlChar then .error s!"{label} contains control characters."
  else .ok text

def validateDetectionConfig (method : DetectionMethod) (config : Option DetectionConfig) :
    Except String DetectionConfig :=
  let config := config.getD ∅
  match method with
  | .msiProductCode =>
    match cleanText (config.lookup "product_code") "Product code" 60 with
    | .error text => .error text
    | .ok code =>
      if !guidPattern code then .error "Product code must be a valid MSI GUID."
      else .ok (.singleton "product_code" (.text (stripBraces code)))
  | .registryKey =>
    match cleanText (config.lookup "key_path") "Registry key path" 400 with
    | .error text => .error text
    | .ok key =>
      if !registryHive key then .error "Registry key paths must start with HKLM\\ or HKCU\\."
      else if '"' ∈ key then .error "Registry key paths must not contain quotes."
      else
        let cleaned : DetectionConfig := .singleton "key_path" (.text key)
        let valueName := pyStrip (JsonValue.shownOrEmpty (config.lookup "value_name"))
        if valueName = [] then .ok cleaned
        else
          match cleanText (some (.text valueName)) "Value name" 200 with
          | .error text => .error text
          | .ok valueName =>
            if '"' ∈ valueName then .error "Registry value names must not contain quotes."
            else .ok (cleaned.insert "value_name" (.text valueName))
  | .fileExists =>
    match cleanText (config.lookup "path") "File path" 400 with
    | .error text => .error text
    | .ok path =>
      if !windowsAbsPath path || ['.', '.'] <:+: path then
        .error "File path must be an absolute Windows path without traversal segments."
      else .ok (.singleton "path" (.text path))
  | .serviceExists =>
    match cleanText (config.lookup "service_name") "Service name" 80 with
    | .error text => .error text
    | .ok service =>
      if !servicePattern service then
        .error "Service names may contain letters, digits, dots, dashes and underscores."
      else .ok (.singleton "service_name" (.text service))
  | .script =>
    let script := JsonValue.shownOrEmpty (config.lookup "script")
    if pyStrip script = [] then .error "Custom detection scripts must not be empty."
    else if 8000 < script.length then
      .error "Custom detection scripts are limited to 8000 characters."
    else .ok (.singleton "script" (.text script))

/-! ## Normal forms -/

theorem pyStrip_pyStrip (text : List Char) : pyStrip (pyStrip text) = pyStrip text :=
  trim_trim (p := pySpace) text

@[simp] theorem shownOrEmpty_text (value : List Char) :
    JsonValue.shownOrEmpty (some (.text value)) = value := rfl

theorem cleanText_eq_ok {value : Option JsonValue} {label : String} {maxLength : Nat}
    {text : List Char} :
    cleanText value label maxLength = .ok text ↔
      pyStrip (JsonValue.shownOrEmpty value) = text ∧ text ≠ [] ∧ text.length ≤ maxLength ∧
        text.any controlChar = false := by
  unfold cleanText
  dsimp only
  split
  · rename_i hempty
    simp only [reduceCtorEq, false_iff]
    rintro ⟨rfl, hne, -⟩
    exact hne hempty
  · split
    · rename_i hlong
      simp only [reduceCtorEq, false_iff]
      rintro ⟨rfl, -, hshort, -⟩
      omega
    · split
      · rename_i hcontrol
        simp only [reduceCtorEq, false_iff]
        rintro ⟨rfl, -, -, hplain⟩
        rw [hplain] at hcontrol
        cases hcontrol
      · rename_i hne hlong hcontrol
        rw [Except.ok.injEq]
        refine ⟨?_, And.left⟩
        rintro rfl
        exact ⟨rfl, hne, by omega, by simpa using hcontrol⟩

/-- A cleaned text is cleaned to itself. -/
theorem cleanText_text {value : Option JsonValue} {label : String} {maxLength : Nat}
    {text : List Char} (h : cleanText value label maxLength = .ok text) :
    cleanText (some (.text text)) label maxLength = .ok text := by
  obtain ⟨hstrip, hrest⟩ := cleanText_eq_ok.mp h
  refine cleanText_eq_ok.mpr ⟨?_, hrest⟩
  rw [shownOrEmpty_text, ← hstrip, pyStrip_pyStrip]

/-! ### Product codes -/

/-- A hexadecimal digit is neither white space nor a brace. -/
theorem hexDigit_kept {c : Char} (h : hexDigit c) : pySpace c = false ∧ brace c = false := by
  have hrange : (0x30 ≤ c.toNat ∧ c.toNat ≤ 0x39) ∨ (0x61 ≤ c.toNat ∧ c.toNat ≤ 0x66) ∨
      (0x41 ≤ c.toNat ∧ c.toNat ≤ 0x46) := by
    simpa [hexDigit, Char.le_def, UInt32.le_iff_toNat_le, or_assoc] using h
  constructor
  · simp only [pySpace, List.mem_cons, List.not_mem_nil, or_false, decide_eq_false_iff_not]
    omega
  · simp only [brace, Bool.or_eq_false_iff, beq_eq_false_iff_ne]
    constructor
    · rintro rfl
      exact absurd hrange (by decide)
    · rintro rfl
      exact absurd hrange (by decide)

theorem length_of_guid {code : List Char} (h : guid code) : code.length = 36 := by
  simp only [guid, Bool.and_eq_true, decide_eq_true_eq] at h
  exact h.1

theorem hexDigit_of_guid {code : List Char} (h : guid code) {i : Nat} (hi : i < code.length)
    (hdash : i ∉ [8, 13, 18, 23]) : hexDigit code[i] := by
  simp only [guid, Bool.and_eq_true, List.all_eq_true] at h
  have hat := h.2 (code[i], i) (List.mk_mem_zipIdx_iff_getElem?.mpr (by simp))
  rwa [if_neg hdash] at hat

theorem hexDigit_head_of_guid {code : List Char} (h : guid code) :
    ∀ c ∈ code.head?, hexDigit c := by
  have hlen := length_of_guid h
  intro c hc
  rw [List.head?_eq_getElem?, Option.mem_def, List.getElem?_eq_some_iff] at hc
  obtain ⟨hi, rfl⟩ := hc
  exact hexDigit_of_guid h hi (by decide)

theorem hexDigit_last_of_guid {code : List Char} (h : guid code) :
    ∀ c ∈ code.getLast?, hexDigit c := by
  have hlen := length_of_guid h
  intro c hc
  rw [List.getLast?_eq_getElem?, Option.mem_def, List.getElem?_eq_some_iff] at hc
  obtain ⟨hi, rfl⟩ := hc
  exact hexDigit_of_guid h hi (by rw [hlen]; decide)

/-- A product code is a GUID between braces that are stripped. -/
theorem guidPattern_parts {code : List Char} (h : guidPattern code) :
    ∃ opening core closing, code = opening ++ core ++ closing ∧ (∀ c ∈ opening, brace c) ∧
      (∀ c ∈ closing, brace c) ∧ guid core := by
  have hopening : ∃ opening, code = opening ++ withoutOpening code ∧
      ∀ c ∈ opening, brace c := by
    unfold withoutOpening
    split
    · exact ⟨['{'], rfl, by simp [brace]⟩
    · exact ⟨[], rfl, by simp⟩
  have hclosing : ∀ cs, ∃ closing, cs = withoutClosing cs ++ closing ∧
      ∀ c ∈ closing, brace c := by
    intro cs
    unfold withoutClosing
    split
    · rename_i hlast
      exact ⟨['}'], (List.dropLast_append_getLast? _ hlast).symm, by simp [brace]⟩
    · exact ⟨[], by simp, by simp⟩
  obtain ⟨opening, hcode, hopen⟩ := hopening
  obtain ⟨closing, hrest, hclose⟩ := hclosing (withoutOpening code)
  refine ⟨opening, _, closing, ?_, hopen, hclose, h⟩
  rw [List.append_assoc, ← hrest]
  exact hcode

theorem stripBraces_append {opening core closing : List Char} (hopen : ∀ c ∈ opening, brace c)
    (hclose : ∀ c ∈ closing, brace c) (h : guid core) :
    stripBraces (opening ++ core ++ closing) = core :=
  trim_append hopen hclose (fun c hc => (hexDigit_kept (hexDigit_head_of_guid h c hc)).2)
    fun c hc => (hexDigit_kept (hexDigit_last_of_guid h c hc)).2

theorem pyStrip_of_guid {core : List Char} (h : guid core) : pyStrip core = core :=
  trim_of_ends (fun c hc => (hexDigit_kept (hexDigit_head_of_guid h c hc)).1)
    fun c hc => (hexDigit_kept (hexDigit_last_of_guid h c hc)).1

theorem guidPattern_of_guid {core : List Char} (h : guid core) : guidPattern core := by
  have hopening : withoutOpening core = core := by
    unfold withoutOpening
    split
    · exact absurd (hexDigit_head_of_guid h '{' (by simp)) (by decide)
    · rfl
  have hclosing : withoutClosing core = core := by
    unfold withoutClosing
    split
    · rename_i hlast
      exact absurd (hexDigit_last_of_guid h '}' hlast) (by decide)
    · rfl
  rwa [guidPattern, hopening, hclosing]

/-- The stored code is a product code that is cleaned to itself. -/
theorem cleaned_productCode {value : Option JsonValue} {label : String} {maxLength : Nat}
    {code : List Char} (hclean : cleanText value label maxLength = .ok code)
    (hguid : guidPattern code) :
    cleanText (some (.text (stripBraces code))) label maxLength = .ok (stripBraces code) ∧
      guidPattern (stripBraces code) ∧ stripBraces (stripBraces code) = stripBraces code := by
  obtain ⟨opening, core, closing, rfl, hopen, hclose, hcore⟩ := guidPattern_parts hguid
  obtain ⟨-, -, hlen, hplain⟩ := cleanText_eq_ok.mp hclean
  rw [stripBraces_append hopen hclose hcore]
  refine ⟨cleanText_eq_ok.mpr ⟨pyStrip_of_guid hcore, ?_, ?_, ?_⟩, guidPattern_of_guid hcore, ?_⟩
  · rintro rfl
    exact absurd (length_of_guid hcore) (by decide)
  · simp only [List.length_append] at hlen
    omega
  · simp only [List.any_append, Bool.or_eq_false_iff] at hplain
    exact hplain.1.2
  · have hstrip : stripBraces ([] ++ core ++ []) = core :=
      stripBraces_append (by simp) (by simp) hcore
    rwa [List.nil_append, List.append_nil] at hstrip

/-! ### Configurations -/

/-- A configuration as validation returns it. -/
inductive ValidDetection : DetectionMethod → DetectionConfig → Prop
  | productCode {code : List Char}
      (hclean : cleanText (some (.text code)) "Product code" 60 = .ok code)
      (hguid : guidPattern code) (hstrip : stripBraces code = code) :
      ValidDetection .msiProductCode (.singleton "product_code" (.text code))
  | registryKey {key : List Char}
      (hkey : cleanText (some (.text key)) "Registry key path" 400 = .ok key)
      (hhive : registryHive key) (hquote : '"' ∉ key) :
      ValidDetection .registryKey (.singleton "key_path" (.text key))
  | registryValue {key name : List Char}
      (hkey : cleanText (some (.text key)) "Registry key path" 400 = .ok key)
      (hhive : registryHive key) (hquote : '"' ∉ key)
      (hname : cleanText (some (.text name)) "Value name" 200 = .ok name) (hquote' : '"' ∉ name) :
      ValidDetection .registryKey
        ((Finmap.singleton "key_path" (.text key)).insert "value_name" (.text name))
  | fileExists {path : List Char}
      (hpath : cleanText (some (.text path)) "File path" 400 = .ok path)
      (hpattern : ¬(!windowsAbsPath path || ['.', '.'] <:+: path) = true) :
      ValidDetection .fileExists (.singleton "path" (.text path))
  | serviceExists {service : List Char}
      (hservice : cleanText (some (.text service)) "Service name" 80 = .ok service)
      (hpattern : servicePattern service) :
      ValidDetection .serviceExists (.singleton "service_name" (.text service))
  | script {text : List Char} (hblank : pyStrip text ≠ []) (hlong : ¬8000 < text.length) :
      ValidDetection .script (.singleton "script" (.text text))

theorem validDetection_of_ok {method : DetectionMethod} {config : Option DetectionConfig}
    {cleaned : DetectionConfig} (h : validateDetectionConfig method config = .ok cleaned) :
    ValidDetection method cleaned := by
  cases method with
  | msiProductCode =>
    simp only [validateDetectionConfig] at h
    split at h
    · cases h
    · rename_i code hclean
      split at h
      · cases h
      · rename_i hguid
        cases h
        obtain ⟨hclean, hguid, hstrip⟩ := cleaned_productCode hclean (by simpa using hguid)
        exact .productCode hclean hguid hstrip
  | registryKey =>
    simp only [validateDetectionConfig] at h
    split at h
    · cases h
    · rename_i key hkey
      have hkey := cleanText_text hkey
      split at h
      · cases h
      · rename_i hhive
        have hhive : registryHive key := by simpa using hhive
        split at h
        · cases h
        · rename_i hquote
          split at h
          · cases h
            exact .registryKey hkey hhive hquote
          · split at h
            · cases h
            · rename_i name hname
              split at h
              · cases h
              · rename_i hquote'
                cases h
                exact .registryValue hkey hhive hquote (cleanText_text hname) hquote'
  | fileExists =>
    simp only [validateDetectionConfig] at h
    split at h
    · cases h
    · rename_i path hpath
      split at h
      · cases h
      · rename_i hpattern
        cases h
        exact .fileExists (cleanText_text hpath) hpattern
  | serviceExists =>
    simp only [validateDetectionConfig] at h
    split at h
    · cases h
    · rename_i service hservice
      split at h
      · cases h
      · rename_i hpattern
        cases h
        exact .serviceExists (cleanText_text hservice) (by simpa using hpattern)
  | script =>
    simp only [validateDetectionConfig] at h
    split at h
    · cases h
    · rename_i hblank
      split at h
      · cases h
      · rename_i hlong
        cases h
        exact .script hblank hlong

theorem lookup_valueName_singleton (key : List Char) :
    (Finmap.singleton "key_path" (JsonValue.text key) : DetectionConfig).lookup "value_name" =
      none :=
  Finmap.lookup_eq_none.mpr (by simp)

example :
    validateDetectionConfig .msiProductCode (some (.singleton "product_code"
      (.text "{A1B2C3D4-E5F6-4A7B-8C9D-0E1F2A3B4C5D} ".toList))) =
      .ok (.singleton "product_code" (.text "A1B2C3D4-E5F6-4A7B-8C9D-0E1F2A3B4C5D".toList)) := by
  decide +kernel

/-- The key that a configuration for the method cannot do without. -/
def DetectionMethod.key : DetectionMethod → String
  | msiProductCode => "product_code"
  | registryKey => "key_path"
  | fileExists => "path"
  | serviceExists => "service_name"
  | script => "script"

end InfraOps
