import InfraOps.Applications.Detection
import InfraOps.Services.GuestScripts
import InfraOps.Support.Argv

/-!
# Detection programs

`detection_programs` of `app/services/applications/detection_rules.py` builds the command
lines that ask the guest for the configured item. `reg.exe` and `sc.exe` split them by the
Windows rules.
-/

namespace InfraOps

open Argv

/-- `GuestCommand`. -/
structure GuestCommand where
  program : Option String := none
  arguments : String := ""
  script : Option String := none
  deriving DecidableEq

def GuestCommand.native (program arguments : String) : GuestCommand where
  program := some program
  arguments := arguments

def GuestCommand.powershell (script : String) : GuestCommand where
  script := some script

def regPath : String := "C:\\Windows\\System32\\reg.exe"

def scPath : String := "C:\\Windows\\System32\\sc.exe"

def uninstallRoot : String :=
  "HKLM\\SOFTWARE\\Microsoft\\Windows\\CurrentVersion\\Uninstall"

/-- `str(value)`. -/
def JsonValue.shown : JsonValue → String
  | .text value => String.ofList value
  | .other _ shown => String.ofList shown

/-- `config["key"]`; without the key there is a `KeyError`. -/
def configItem (config : DetectionConfig) (key : String) : Option String :=
  (config.lookup key).map JsonValue.shown

/-- `config.get("value_name")`, if it is true. -/
def configuredValueName (config : DetectionConfig) : Option String :=
  match config.lookup "value_name" with
  | some (.text value) => if value = [] then none else some (String.ofList value)
  | some (.other true shown) => some (String.ofList shown)
  | some (.other false _) => none
  | none => none

def inQuotes (text : String) : String := "\"" ++ text ++ "\""

/-- The key under which an MSI package registers itself. -/
def productKey (code : String) : String := uninstallRoot ++ "\\\x7b" ++ code ++ "\x7d"

/-- `detection_programs`. -/
def detectionPrograms (method : DetectionMethod) (config : DetectionConfig) :
    Option (List GuestCommand) :=
  match method with
  | .msiProductCode => (configItem config "product_code").map fun code =>
    [.native regPath ("query " ++ inQuotes (productKey code) ++ " /v DisplayName"),
      .native regPath ("query " ++ inQuotes (productKey code) ++ " /v DisplayName /reg:32")]
  | .registryKey => (configItem config "key_path").map fun key =>
    let args := "query " ++ inQuotes key
    [.native regPath (match configuredValueName config with
      | none => args
      | some valueName => args ++ (" /v " ++ inQuotes valueName))]
  | .fileExists => (configItem config "path").map fun path =>
    [.powershell ("if (Test-Path -LiteralPath " ++ psQuote path ++
      ") \x7b exit 0 \x7d else \x7b exit 1 \x7d")]
  | .serviceExists => (configItem config "service_name").map fun service =>
    [.native scPath ("query " ++ inQuotes service)]
  | .script => (configItem config "script").map fun script => [.powershell script]

/-! ## What is meant -/

/-- The arguments that each native probe is meant to pass. -/
def intendedArguments (method : DetectionMethod) (config : DetectionConfig) :
    Option (List (List String)) :=
  match method with
  | .msiProductCode => (configItem config "product_code").map fun code =>
    [["query", productKey code, "/v", "DisplayName"],
      ["query", productKey code, "/v", "DisplayName", "/reg:32"]]
  | .registryKey => (configItem config "key_path").map fun key =>
    [["query", key] ++ match configuredValueName config with
      | none => []
      | some valueName => ["/v", valueName]]
  | .serviceExists => (configItem config "service_name").map fun service =>
    [["query", service]]
  | .fileExists => none
  | .script => none

/-- The arguments as the guest's programs see them. -/
def passedArguments (commands : List GuestCommand) : List (List String) :=
  commands.map fun command => (split command.arguments.toList).map String.ofList

/-! ## Validated configurations -/

theorem configItem_singleton (key : String) (value : List Char) :
    configItem (.singleton key (.text value)) key = some (String.ofList value) := by
  rw [configItem, Finmap.lookup_singleton_eq]
  rfl

theorem lookup_keyPath_insert (key name : List Char) :
    ((Finmap.singleton "key_path" (JsonValue.text key) : DetectionConfig).insert "value_name"
      (.text name)).lookup "key_path" = some (.text key) := by
  rw [Finmap.lookup_insert_of_ne _ (by decide), Finmap.lookup_singleton_eq]

theorem validated_productCode {config : Option DetectionConfig} {cleaned : DetectionConfig}
    (h : validateDetectionConfig .msiProductCode config = .ok cleaned) :
    ∃ code, cleaned = .singleton "product_code" (.text code) ∧ guidPattern code = true := by
  cases validDetection_of_ok h with
  | @productCode code hclean hguid hstrip => exact ⟨code, rfl, hguid⟩

theorem validated_service {config : Option DetectionConfig} {cleaned : DetectionConfig}
    (h : validateDetectionConfig .serviceExists config = .ok cleaned) :
    ∃ service, cleaned = .singleton "service_name" (.text service) ∧
      servicePattern service = true := by
  cases validDetection_of_ok h with
  | @serviceExists service hservice hpattern => exact ⟨service, rfl, hpattern⟩

theorem validated_registryKey {config : Option DetectionConfig} {cleaned : DetectionConfig}
    (h : validateDetectionConfig .registryKey config = .ok cleaned) :
    ∃ key, configItem cleaned "key_path" = some (String.ofList key) ∧ '"' ∉ key ∧
      (configuredValueName cleaned = none ∨
        ∃ name, configuredValueName cleaned = some (String.ofList name) ∧ '"' ∉ name) := by
  cases validDetection_of_ok h with
  | @registryKey key hkey hhive hquote =>
    refine ⟨key, configItem_singleton _ _, hquote, .inl ?_⟩
    rw [configuredValueName, lookup_valueName_singleton]
  | @registryValue key name hkey hhive hquote hname hquote' =>
    obtain ⟨-, hne, -⟩ := cleanText_eq_ok.mp hname
    refine ⟨key, ?_, hquote, .inr ⟨name, ?_, hquote'⟩⟩
    · rw [configItem, lookup_keyPath_insert]
      rfl
    · rw [configuredValueName, Finmap.lookup_insert]
      simp [hne]

/-! ## The command lines -/

/-- A command line that renders its pieces passes them on if and only if they are closed. -/
theorem split_eq_texts_iff {arguments : String} {pieces : List Piece}
    (hrender : arguments.toList = render pieces) (h : ∀ piece ∈ pieces, piece.WellFormed) :
    (split arguments.toList).map String.ofList =
        pieces.map (fun piece => String.ofList piece.text) ↔
      ∀ piece ∈ pieces, piece.Closed := by
  have htexts : pieces.map (fun piece => String.ofList piece.text) =
      (pieces.map Piece.text).map String.ofList := by
    rw [List.map_map]
    rfl
  have hinj : Function.Injective String.ofList := fun _ _ heq => String.ofList_injective heq
  rw [htexts, (List.map_injective_iff.mpr hinj).eq_iff, hrender]
  exact split_render_iff h

theorem inQuotes_toList (text : String) :
    (inQuotes text).toList = '"' :: (text.toList ++ ['"']) := by
  rw [inQuotes, String.toList_append, String.toList_append]
  rfl

/-- A registry key or a service between its quotes. -/
def queryPieces (text : String) (more : List Piece) : List Piece :=
  .bare "query".toList :: .quoted text.toList :: more

/-- What follows the quoted text. -/
def moreChars : List Piece → List Char
  | [] => []
  | piece :: pieces => ' ' :: render (piece :: pieces)

theorem query_toList (text : String) {rest : String} {more : List Piece}
    (hrest : rest.toList = moreChars more) :
    ("query " ++ inQuotes text ++ rest).toList = render (queryPieces text more) := by
  rw [String.toList_append, String.toList_append, inQuotes_toList, hrest]
  cases more with
  | nil => simp [queryPieces, render, Piece.chars, moreChars]
  | cons piece pieces => simp [queryPieces, render, Piece.chars, moreChars]

theorem texts_queryPieces (text : String) (more : List Piece) :
    (queryPieces text more).map (fun piece => String.ofList piece.text) =
      "query" :: text :: more.map fun piece => String.ofList piece.text := by
  simp only [queryPieces, List.map_cons, Piece.text, String.ofList_toList]

theorem wellFormed_queryPieces {text : String} {more : List Piece} (htext : '"' ∉ text.toList)
    (hmore : ∀ piece ∈ more, piece.WellFormed) :
    ∀ piece ∈ queryPieces text more, piece.WellFormed := by
  have hquery : (Piece.bare "query".toList).WellFormed := ⟨by simp, by simp⟩
  exact List.forall_mem_cons.mpr ⟨hquery, List.forall_mem_cons.mpr ⟨htext, hmore⟩⟩

theorem closed_queryPieces {text : String} {more : List Piece} :
    (∀ piece ∈ queryPieces text more, piece.Closed) ↔
      (Piece.quoted text.toList).Closed ∧ ∀ piece ∈ more, piece.Closed := by
  rw [queryPieces, List.forall_mem_cons, List.forall_mem_cons]
  exact and_iff_right trivial

/-- Words of the command lines that are not interpolated. -/
theorem wellFormed_words :
    (Piece.bare "/v".toList).WellFormed ∧ (Piece.bare "DisplayName".toList).WellFormed ∧
      (Piece.bare "/reg:32".toList).WellFormed :=
  ⟨⟨by simp, by simp⟩, ⟨by simp, by simp⟩, ⟨by simp, by simp⟩⟩

/-! ## The product code -/

theorem plain_of_hexDigit {c : Char} (h : hexDigit c = true) : c ≠ '"' := by
  rintro rfl
  exact absurd h (by decide)

theorem notMem_quote_of_guidPattern {code : List Char} (h : guidPattern code = true) :
    '"' ∉ code := by
  obtain ⟨opening, core, closing, rfl, hopen, hclose, hcore⟩ := guidPattern_parts h
  intro hmem
  rcases List.mem_append.mp hmem with hmem | hmem
  · rcases List.mem_append.mp hmem with hmem | hmem
    · exact absurd (hopen _ hmem) (by decide)
    · obtain ⟨i, hi, hget⟩ := List.mem_iff_getElem.mp hmem
      simp only [guid, Bool.and_eq_true, List.all_eq_true] at hcore
      have hat := hcore.2 (core[i], i) (List.mk_mem_zipIdx_iff_getElem?.mpr (by simp))
      rw [hget] at hat
      split at hat
      · cases hat
      · exact plain_of_hexDigit hat rfl
  · exact absurd (hclose _ hmem) (by decide)

theorem productKey_toList (code : List Char) : (productKey (String.ofList code)).toList =
    uninstallRoot.toList ++ ('\\' :: '{' :: (code ++ ['}'])) := by
  rw [productKey, String.toList_append, String.toList_append, String.toList_append,
    String.toList_ofList]
  simp

theorem wellFormed_productKey {code : List Char} (h : '"' ∉ code) :
    '"' ∉ (productKey (String.ofList code)).toList := by
  have hroot : '"' ∉ uninstallRoot.toList := by decide
  rw [productKey_toList]
  simp [hroot, h]

theorem closed_productKey (code : List Char) :
    (Piece.quoted (productKey (String.ofList code)).toList).Closed := by
  have hlast : (productKey (String.ofList code)).toList =
      (uninstallRoot.toList ++ ('\\' :: '{' :: code)) ++ ['}'] := by
    rw [productKey_toList]
    simp
  intro c hc
  rw [hlast, List.getLast?_concat] at hc
  obtain rfl : '}' = c := by simpa using hc
  decide

/-! ## The service -/

theorem plain_of_servicePattern {service : List Char} (h : servicePattern service = true) :
    ∀ c ∈ service, c ≠ '"' ∧ c ≠ '\\' := by
  simp only [servicePattern, Bool.and_eq_true, List.all_eq_true] at h
  intro c hc
  have hpattern := h.2 c hc
  constructor
  · rintro rfl
    exact absurd hpattern (by decide)
  · rintro rfl
    exact absurd hpattern (by decide)

/-! ## When the queries are exact -/

def EndsInBackslash (text : String) : Prop := text.toList.getLast? = some '\\'

theorem closed_iff_not_endsInBackslash {text : String} :
    (Piece.quoted text.toList).Closed ↔ ¬ EndsInBackslash text := by
  rw [Piece.Closed, EndsInBackslash]
  constructor
  · intro h hends
    exact h '\\' hends rfl
  · rintro h c hc rfl
    exact h hc

/-- A query is passed on as it is meant if and only if all that it quotes is closed. -/
theorem split_query_iff {text rest : String} {more : List Piece}
    (hrest : rest.toList = moreChars more) (htext : '"' ∉ text.toList)
    (hmore : ∀ piece ∈ more, piece.WellFormed) :
    (split ("query " ++ inQuotes text ++ rest).toList).map String.ofList =
        "query" :: text :: more.map (fun piece => String.ofList piece.text) ↔
      ¬ EndsInBackslash text ∧ ∀ piece ∈ more, piece.Closed := by
  rw [← texts_queryPieces, ← closed_iff_not_endsInBackslash, ← closed_queryPieces]
  exact split_eq_texts_iff (query_toList text hrest) (wellFormed_queryPieces htext hmore)

theorem split_query_alone_iff {text : String} (htext : '"' ∉ text.toList) :
    (split ("query " ++ inQuotes text).toList).map String.ofList = ["query", text] ↔
      ¬ EndsInBackslash text := by
  have hempty : "".toList = moreChars [] := rfl
  have hquery := split_query_iff hempty htext (by simp)
  rw [String.append_empty] at hquery
  rw [← and_iff_left (a := ¬ EndsInBackslash text) (b := ∀ piece ∈ ([] : List Piece),
    piece.Closed) (by simp), ← hquery]
  rfl

theorem split_query_value_iff {key name : String} (hkey : '"' ∉ key.toList)
    (hname : '"' ∉ name.toList) :
    (split ("query " ++ inQuotes key ++ (" /v " ++ inQuotes name)).toList).map String.ofList =
        ["query", key, "/v", name] ↔ ¬ EndsInBackslash key ∧ ¬ EndsInBackslash name := by
  have hrest : (" /v " ++ inQuotes name).toList =
      moreChars [.bare "/v".toList, .quoted name.toList] := by
    rw [String.toList_append, inQuotes_toList]
    simp [moreChars, render, Piece.chars]
  have hwords : ∀ piece ∈ [Piece.bare "/v".toList, .quoted name.toList], piece.WellFormed :=
    List.forall_mem_cons.mpr ⟨wellFormed_words.1, by simpa [Piece.WellFormed] using hname⟩
  have hclosed : (∀ piece ∈ [Piece.bare "/v".toList, .quoted name.toList], piece.Closed) ↔
      ¬ EndsInBackslash name := by
    rw [← closed_iff_not_endsInBackslash]
    simp [Piece.Closed]
  rw [← hclosed, ← split_query_iff hrest hkey hwords]
  simp [Piece.text]

/-- The words behind a product key come through. -/
theorem split_query_product {code : List Char} {rest : String} {words : List String}
    (hcode : '"' ∉ code)
    (hrest : rest.toList = moreChars (words.map fun word => .bare word.toList))
    (hwords : ∀ word ∈ words, (Piece.bare word.toList).WellFormed) :
    (split ("query " ++ inQuotes (productKey (String.ofList code)) ++ rest).toList).map
        String.ofList = "query" :: productKey (String.ofList code) :: words := by
  have hpieces : ∀ piece ∈ words.map (fun word => Piece.bare word.toList), piece.WellFormed :=
    List.forall_mem_map.mpr hwords
  have htexts : (words.map fun word => Piece.bare word.toList).map
      (fun piece => String.ofList piece.text) = words := by
    rw [List.map_map]
    refine (List.map_congr_left fun word _ => ?_).trans (List.map_id words)
    exact String.ofList_toList
  have hquery := (split_query_iff hrest (wellFormed_productKey hcode) hpieces).mpr
    ⟨closed_iff_not_endsInBackslash.mp (closed_productKey code),
      List.forall_mem_map.mpr fun _ _ => trivial⟩
  rwa [htexts] at hquery

/-- **When detection asks for exactly the configured item.** For every accepted configuration
of a registry key, a product code or a service, the arguments that arrive are the intended ones
if and only if neither the registry key nor its value name ends in a backslash. -/
theorem detectionPrograms_exact_iff {method : DetectionMethod} {config : Option DetectionConfig}
    {cleaned : DetectionConfig}
    (hmethod : method = .registryKey ∨ method = .msiProductCode ∨ method = .serviceExists)
    (h : validateDetectionConfig method config = .ok cleaned) :
    (detectionPrograms method cleaned).map passedArguments = intendedArguments method cleaned ↔
      ¬ (method = .registryKey ∧
        ((∃ key, configItem cleaned "key_path" = some key ∧ EndsInBackslash key) ∨
          ∃ name, configuredValueName cleaned = some name ∧ EndsInBackslash name)) := by
  rcases hmethod with rfl | rfl | rfl
  · obtain ⟨key, hkey, hquote, hvalue⟩ := validated_registryKey h
    have hquote : '"' ∉ (String.ofList key).toList := by rwa [String.toList_ofList]
    rcases hvalue with hnone | ⟨name, hname, hquote'⟩
    · have halone := split_query_alone_iff hquote
      simpa [detectionPrograms, intendedArguments, hkey, hnone, passedArguments,
        GuestCommand.native] using halone
    · have hquote' : '"' ∉ (String.ofList name).toList := by rwa [String.toList_ofList]
      have hboth := split_query_value_iff hquote hquote'
      simpa [detectionPrograms, intendedArguments, hkey, hname, passedArguments,
        GuestCommand.native] using hboth
  · obtain ⟨code, rfl, hguid⟩ := validated_productCode h
    have hquote := notMem_quote_of_guidPattern hguid
    have hcode := configItem_singleton "product_code" code
    obtain ⟨hv, hdisplay, hreg32⟩ := wellFormed_words
    have hnative : " /v DisplayName".toList =
        moreChars (["/v", "DisplayName"].map fun word => .bare word.toList) := by decide
    have hwow : " /v DisplayName /reg:32".toList =
        moreChars (["/v", "DisplayName", "/reg:32"].map fun word => .bare word.toList) := by decide
    have hfirst := split_query_product hquote hnative (by simpa using ⟨hv, hdisplay⟩)
    have hsecond := split_query_product hquote hwow (by simpa using ⟨hv, hdisplay, hreg32⟩)
    refine iff_of_true ?_ (by simp)
    rw [detectionPrograms, intendedArguments, hcode]
    simp only [Option.map_some, passedArguments, List.map_cons, List.map_nil,
      GuestCommand.native, hfirst, hsecond]
  · obtain ⟨service, rfl, hpattern⟩ := validated_service h
    have hplain := plain_of_servicePattern hpattern
    have hquote : '"' ∉ (String.ofList service).toList := by
      rw [String.toList_ofList]
      exact fun hmem => (hplain _ hmem).1 rfl
    have hends : ¬ EndsInBackslash (String.ofList service) := by
      rw [EndsInBackslash, String.toList_ofList]
      exact fun hlast => (hplain _ (List.mem_of_getLast? hlast)).2 rfl
    have hservice := configItem_singleton "service_name" service
    refine iff_of_true ?_ (by simp)
    rw [detectionPrograms, intendedArguments, hservice]
    simp only [Option.map_some, passedArguments, List.map_cons, List.map_nil,
      GuestCommand.native, (split_query_alone_iff hquote).mpr hends]

def registryConfig (key : String) : DetectionConfig :=
  .singleton "key_path" (.text key.toList)

theorem detectionPrograms_exact_contoso :
    (detectionPrograms .registryKey (registryConfig "HKLM\\SOFTWARE\\Contoso")).map
        passedArguments =
      intendedArguments .registryKey (registryConfig "HKLM\\SOFTWARE\\Contoso") := by
  have haccepted : validateDetectionConfig .registryKey
      (some (registryConfig "HKLM\\SOFTWARE\\Contoso")) =
        .ok (registryConfig "HKLM\\SOFTWARE\\Contoso") := by decide +kernel
  have hkey : configItem (registryConfig "HKLM\\SOFTWARE\\Contoso") "key_path" =
      some "HKLM\\SOFTWARE\\Contoso" := by decide +kernel
  have hname : configuredValueName (registryConfig "HKLM\\SOFTWARE\\Contoso") = none := by
    decide +kernel
  refine (detectionPrograms_exact_iff (.inl rfl) haccepted).mpr ?_
  rw [hkey, hname]
  rintro ⟨-, ⟨key, hsome, hends⟩ | ⟨name, hsome, -⟩⟩
  · cases hsome
    exact absurd hends (by unfold EndsInBackslash; decide)
  · cases hsome

/-- The backslash at the end of the key takes the closing quote into the argument. -/
theorem trailingBackslash_escapes :
    validateDetectionConfig .registryKey (some (registryConfig "HKLM\\SOFTWARE\\Contoso\\")) =
        .ok (registryConfig "HKLM\\SOFTWARE\\Contoso\\") ∧
      (detectionPrograms .registryKey (registryConfig "HKLM\\SOFTWARE\\Contoso\\")).map
        passedArguments = some [["query", "HKLM\\SOFTWARE\\Contoso\""]] ∧
      (detectionPrograms .registryKey (registryConfig "HKLM\\SOFTWARE\\Contoso\\")).map
        passedArguments ≠
          intendedArguments .registryKey (registryConfig "HKLM\\SOFTWARE\\Contoso\\") := by
  decide +kernel

end InfraOps
