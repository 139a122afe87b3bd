import InfraOps.Support.Separated
import InfraOps.Unattend.AnswerFile

/-!
# What the answer file says

A processor reads the given values back exactly when every character that is written is
allowed, and no carriage return is among those given: XML forbids most control characters,
and line ends are normalised.
-/

namespace InfraOps.AnswerFile

open Xml (Text Node valuesAt)

variable {upper casefold : Char → Text} {spec : WindowsUnattendSpec}
variable {localUsername toolsCommand document : Text}

/-- The names from below the root to a component's setting. -/
def inComponent (path : List String) : List Text :=
  "settings".toList :: "component".toList :: path.map String.toList

/-- What stands in the places that Setup takes the given values from. -/
structure Yields (builtin : Bool) (localUsername : Text) (spec : WindowsUnattendSpec)
    (root : Node) : Prop where
  logonPassword :
    valuesAt (inComponent ["AutoLogon", "Password", "Value"]) root = [spec.administratorPassword]
  accountPassword :
    valuesAt (inComponent (if builtin then ["UserAccounts", "AdministratorPassword", "Value"]
      else ["UserAccounts", "LocalAccounts", "LocalAccount", "Password", "Value"])) root =
      [spec.administratorPassword]
  logonName : valuesAt (inComponent ["AutoLogon", "Username"]) root = [localUsername]
  accountName : builtin = false →
    valuesAt (inComponent ["UserAccounts", "LocalAccounts", "LocalAccount", "Name"]) root =
      [localUsername]
  computerName : valuesAt (inComponent ["ComputerName"]) root = [spec.computerName]
  setupLanguage :
    valuesAt (inComponent ["SetupUILanguage", "UILanguage"]) root = [spec.locale]
  language : valuesAt (inComponent ["UILanguage"]) root = [spec.locale, spec.locale]
  systemLocale : valuesAt (inComponent ["SystemLocale"]) root = [spec.locale, spec.locale]
  userLocale : valuesAt (inComponent ["UserLocale"]) root = [spec.locale, spec.locale]
  inputLocale : valuesAt (inComponent ["InputLocale"]) root = [spec.inputLocale, spec.inputLocale]
  timezone : valuesAt (inComponent ["TimeZone"]) root = [spec.timezone, spec.timezone]

/-- A processor accepts the document, and reads the given values in their places. -/
def Faithful (casefold : Char → Text) (localUsername : Text) (spec : WindowsUnattendSpec)
    (document : Text) : Prop :=
  ∃ root, Xml.readDocument document = some root ∧
    Yields (isBuiltin casefold localUsername) localUsername spec root

/-- The given values that are written; the built-in Administrator's only beside another account. -/
def written (builtin : Bool) (localUsername : Text) (spec : WindowsUnattendSpec) : List Text :=
  [spec.administratorPassword, localUsername, spec.computerName, spec.locale, spec.inputLocale,
    spec.timezone] ++ if builtin then [] else [spec.builtinAdministratorPassword.getD []]

structure Transparent (builtin : Bool) (localUsername : Text) (spec : WindowsUnattendSpec) :
    Prop where
  allowed : ∀ value ∈ written builtin localUsername spec, value.all Xml.xmlChar = true
  noReturn : ∀ value ∈ [spec.administratorPassword, spec.computerName, spec.locale,
    spec.inputLocale, spec.timezone], '\r' ∉ value

/-! ## The shape of the tree -/

theorem isText_text (name : String) (value : Text) : (text name value).isText = false := by
  rfl

theorem isText_element (name : Text) (attributes : Xml.Attributes) (children : List Node) :
    (Node.element name attributes children).isText = false := by
  rfl

theorem isText_component (name : String) (children : List Node) :
    (component name children).isText = false := by
  rfl

theorem plain_text {name : String} (hname : Xml.plainName name.toList = true) (value : Text) :
    (text name value).plain = true := by
  unfold text element
  rw [Node.plain, hname]
  split
  · rfl
  · next h => simp [Node.plain, Xml.plainNodes, Xml.startsWithText, Xml.plainAttributes, h]

theorem plain_element {name : Text} {attributes : Xml.Attributes} (children : List Node)
    (hname : Xml.plainName name = true) (hattributes : Xml.plainAttributes attributes = true) :
    (Node.element name attributes children).plain = Xml.plainNodes children := by
  rw [Node.plain, hname, hattributes, Bool.true_and, Bool.true_and]

theorem plain_component {name : String} (children : List Node)
    (hname : name.toList.all Xml.plainChar = true) :
    (component name children).plain = Xml.plainNodes children := by
  refine plain_element children (by decide) ?_
  have hrest := (by decide : Xml.plainAttributes
    [("processorArchitecture".toList, "amd64".toList),
      ("publicKeyToken".toList, "31bf3856ad364e35".toList),
      ("language".toList, "neutral".toList), ("versionScope".toList, "nonSxS".toList)] = true)
  rw [Xml.plainAttributes_cons, hname, hrest]
  decide +kernel

theorem plain_addDiskConfiguration (efi : Bool) :
    (addDiskConfiguration efi).1.plain = true := by
  cases efi <;> decide +kernel

theorem plain_addInternationalCore {componentName : String}
    (h : componentName.toList.all Xml.plainChar = true) :
    (addInternationalCore componentName spec).plain = true := by
  rw [addInternationalCore, plain_component _ h]
  split
  all_goals simp (disch := decide) only [element, plain_element, Xml.plainNodes,
    plain_text, isText_text, isText_element, List.cons_append, List.nil_append, Bool.false_and,
    Bool.not_false, Bool.and_true]

theorem plain_addUserAccounts (builtin : Bool) (password : Text) (builtinPassword : Option Text) :
    (addUserAccounts builtin localUsername password builtinPassword).plain = true := by
  unfold addUserAccounts
  cases builtin <;> split
  all_goals simp (disch := decide) only [element, actionChild, plain_element,
    Xml.plainNodes, plain_text, isText_text, isText_element, if_true, if_false, Bool.false_eq_true,
    List.cons_append, List.nil_append, Bool.false_and, Bool.not_false, Bool.and_true]

theorem plain_windowsPe (efi : Bool) (productKey : Option Text) :
    (windowsPe efi productKey spec).plain = true := by
  have hdisk : (addDiskConfiguration efi).1.isText = false := by rfl
  have hcore : (addInternationalCore "Microsoft-Windows-International-Core-WinPE" spec).isText =
    false := by rfl
  cases productKey
  all_goals simp (disch := decide) only [windowsPe, settings, element, actionChild,
    plain_element, plain_component, plain_addDiskConfiguration, plain_addInternationalCore, hdisk,
    hcore, Xml.plainNodes, plain_text, isText_text, isText_element, isText_component,
    Bool.false_and, Bool.not_false, Bool.and_true]

theorem plain_specialize : (specialize spec).plain = true := by
  simp (disch := decide) only [specialize, settings, element, actionChild, plain_element,
    plain_component, Xml.plainNodes, plain_text, isText_text, isText_element, isText_component,
    Bool.false_and, Bool.not_false, Bool.and_true]

theorem plain_oobeSystem (builtin : Bool) :
    (oobeSystem builtin localUsername toolsCommand spec).plain = true := by
  have hcore : (addInternationalCore "Microsoft-Windows-International-Core" spec).isText =
    false := by rfl
  have haccounts : (addUserAccounts builtin localUsername spec.administratorPassword
    spec.builtinAdministratorPassword).isText = false := by rfl
  have hoobe : oobeSettings.plain = true := by decide
  have hoobeText : oobeSettings.isText = false := by rfl
  simp (disch := decide) only [oobeSystem, settings, element, actionChild, plain_element,
    plain_component, plain_addInternationalCore, plain_addUserAccounts, hcore, haccounts, hoobe,
    hoobeText, Xml.plainNodes, plain_text, isText_text, isText_element, isText_component,
    Bool.false_and, Bool.not_false, Bool.and_true]

theorem plain_unattend :
    (unattend upper casefold localUsername toolsCommand spec).plain = true := by
  refine (plain_element _ (by decide) (by decide)).trans ?_
  rw [Xml.plainNodes, Xml.plainNodes, Xml.plainNodes, plain_windowsPe, plain_specialize,
    plain_oobeSystem]
  rfl

theorem yields_unattend (upper casefold : Char → Text) (localUsername toolsCommand : Text)
    (spec : WindowsUnattendSpec) : Yields (isBuiltin casefold localUsername) localUsername spec
    (unattend upper casefold localUsername toolsCommand spec) := by
  unfold unattend
  generalize isBuiltin casefold localUsername = builtin
  obtain ⟨computerName, _, password, _, locale, inputLocale, timezone, _, _, _⟩ := spec
  exact {
    logonPassword := by cases password <;> rfl
    accountPassword := by
      cases builtin
      · simp only [oobeSystem, addUserAccounts, Bool.false_eq_true, false_or, if_false]
        split <;> cases password <;> rfl
      · cases password <;> rfl
    logonName := by cases localUsername <;> rfl
    accountName := by
      intro hbuiltin
      subst hbuiltin
      simp only [oobeSystem, addUserAccounts, Bool.false_eq_true, false_or, if_false]
      split <;> cases localUsername <;> rfl
    computerName := by cases computerName <;> rfl
    setupLanguage := by cases locale <;> rfl
    language := by cases locale <;> rfl
    systemLocale := by cases locale <;> rfl
    userLocale := by cases locale <;> rfl
    inputLocale := by cases inputLocale <;> rfl
    timezone := by cases timezone <;> rfl }

/-! ## Characters -/

theorem legal_text (name : String) (value : Text) :
    (text name value).legal = value.all Xml.xmlChar := by
  unfold text element
  rw [Xml.legal_element]
  split
  · next h => subst h; rfl
  · simp [Node.legal, Node.texts]

theorem legal_constant {name : String} {value : Text} (h : value.all Xml.xmlChar = true) :
    (text name value).legal = true := by
  rw [legal_text, h]

theorem all_xmlChar_repr (n : Nat) : n.repr.toList.all Xml.xmlChar = true := by
  rw [List.all_eq_true]
  intro c hc
  have hdigit : c.isDigit = true :=
    Nat.isDigit_of_mem_toDigits (b := 10) (by decide) (by decide) (by simpa [Nat.repr] using hc)
  have hname : Xml.nameChar c = true := by
    rw [Char.isDigit, Bool.and_eq_true, decide_eq_true_eq, decide_eq_true_eq] at hdigit
    have hbounds : '0' ≤ c ∧ c ≤ '9' := hdigit
    simp [Xml.nameChar, hbounds]
  exact (Xml.nameChar_spec hname).2

theorem all_xmlChar_str (n : Int) : (str n).all Xml.xmlChar = true := by
  cases n with
  | ofNat n => exact all_xmlChar_repr n
  | negSucc n =>
    have hstr : str (.negSucc n) = '-' :: (n + 1).repr.toList := by
      change ("-" ++ (n + 1).repr).toList = _
      rw [String.toList_append]
      rfl
    rw [hstr, List.all_cons, all_xmlChar_repr]
    rfl

theorem xmlChar_base64Digit (n : Nat) : Xml.xmlChar (base64Digit n) = true := by
  have halphabet : ∀ c ∈ base64Alphabet, Xml.xmlChar c = true :=
    List.all_eq_true.mp (by decide)
  unfold base64Digit
  rw [List.getD_eq_getElem?_getD]
  cases h : base64Alphabet[n]? with
  | none => decide
  | some c => exact halphabet c (List.mem_of_getElem? h)

theorem all_xmlChar_b64encode (bytes : List Nat) :
    (b64encode bytes).all Xml.xmlChar = true := by
  induction bytes using b64encode.induct with
  | case1 a b c rest ih => simp [b64encode, xmlChar_base64Digit, ih]
  | case2 a b => simp [b64encode, xmlChar_base64Digit, show Xml.xmlChar '=' = true by decide]
  | case3 a => simp [b64encode, xmlChar_base64Digit, show Xml.xmlChar '=' = true by decide]
  | case4 => rfl

theorem toolsInstallCommand_ok : toolsInstallCommand = .ok toolsCommandLine :=
  if_neg (by decide +kernel)

theorem all_xmlChar_toolsCommandLine : toolsCommandLine.all Xml.xmlChar = true := by
  unfold toolsCommandLine
  generalize firstLogonLauncher.flatMap utf16LittleEndian = bytes
  rw [List.all_append, all_xmlChar_b64encode, Bool.and_true]
  decide +kernel

theorem all_xmlChar_of_key {key : Text} (h : productKeyMatches key = true) :
    key.all Xml.xmlChar = true := by
  simp only [productKeyMatches, Bool.and_eq_true, List.all_eq_true] at h
  rw [List.all_eq_true]
  intro c hc
  have hpiece : c = '-' ∨ ∃ group ∈ key.splitOn '-', c ∈ group := mem_piece_of_mem hc
  rcases hpiece with rfl | ⟨group, hgroup, hmem⟩
  · decide
  · have hkey := (h.2 group hgroup).2 c hmem
    simp only [keyChar, Bool.or_eq_true, Bool.and_eq_true, decide_eq_true_eq] at hkey
    have hname : Xml.nameChar c = true := by
      rcases hkey with hletter | hdigit
      · simp [Xml.nameChar, Xml.nameStart, hletter]
      · simp [Xml.nameChar, hdigit]
    exact (Xml.nameChar_spec hname).2

theorem legal_addInternationalCore (componentName : String) :
    (addInternationalCore componentName spec).legal = true ↔
      spec.locale.all Xml.xmlChar = true ∧ spec.inputLocale.all Xml.xmlChar = true := by
  simp only [addInternationalCore, component, element, Xml.legal_element, List.all_append,
    List.all_cons, List.all_nil, legal_text, Bool.and_true, Bool.and_eq_true]
  split
  · simp only [List.all_cons, List.all_nil, Xml.legal_element, legal_text, Bool.and_true]
    tauto
  · simp only [List.all_nil]
    tauto

theorem legal_addDiskConfiguration (efi : Bool) :
    (addDiskConfiguration efi).1.legal = true := by
  cases efi <;> decide +kernel

theorem legal_windowsPe {efi : Bool} {productKey : Option Text}
    (h : ∀ key ∈ productKey, key.all Xml.xmlChar = true) :
    (windowsPe efi productKey spec).legal = true ↔
      spec.locale.all Xml.xmlChar = true ∧ spec.inputLocale.all Xml.xmlChar = true := by
  rw [← legal_addInternationalCore "Microsoft-Windows-International-Core-WinPE"]
  cases productKey with
  | none =>
    simp (disch := decide) only [windowsPe, settings, component, actionChild, element,
      Xml.legal_element, List.all_cons, List.all_nil, legal_addDiskConfiguration, legal_constant,
      Bool.and_true, Bool.true_and]
    simp only [legal_text, all_xmlChar_str, Bool.and_true]
  | some key =>
    simp (disch := decide) only [windowsPe, settings, component, actionChild, element,
      Xml.legal_element, List.all_cons, List.all_nil, legal_addDiskConfiguration, legal_constant,
      Bool.and_true, Bool.true_and]
    simp only [legal_text, all_xmlChar_str, h key rfl, Bool.and_true]

theorem legal_specialize :
    (specialize spec).legal = true ↔
      spec.computerName.all Xml.xmlChar = true ∧ spec.timezone.all Xml.xmlChar = true := by
  have hcopy : copyFirstLogonScriptCommand.all Xml.xmlChar = true := by decide +kernel
  simp (disch := first | assumption | decide) only [specialize, settings, component, actionChild,
    element, Xml.legal_element, List.all_cons, List.all_nil, legal_constant, Bool.and_true,
    Bool.true_and]
  simp only [legal_text, Bool.and_eq_true]

theorem legal_addUserAccounts (builtin : Bool) (password : Text) (builtinPassword : Option Text) :
    (addUserAccounts builtin localUsername password builtinPassword).legal = true ↔
      password.all Xml.xmlChar = true ∧ (builtin = false →
        localUsername.all Xml.xmlChar = true ∧
          (builtinPassword.getD []).all Xml.xmlChar = true) := by
  cases builtin with
  | true =>
    simp (disch := decide) only [addUserAccounts, element, Xml.legal_element, if_true,
      true_or, List.append_nil, List.all_cons, List.all_nil, legal_constant, Bool.and_true]
    simp only [legal_text, Bool.true_eq_false, false_imp_iff, and_true]
  | false =>
    simp (disch := decide) only [addUserAccounts, element, actionChild, Xml.legal_element,
      Bool.false_eq_true, false_or, if_false, List.all_append, List.all_cons, List.all_nil,
      legal_constant, Bool.and_true, Bool.true_and]
    simp only [legal_text, Bool.and_eq_true, true_imp_iff]
    by_cases hempty : builtinPassword.getD [] = []
    · simp only [hempty, ne_eq, not_true, if_false, List.all_nil]
      tauto
    · simp (disch := decide) only [hempty, ne_eq, not_false_eq_true, if_true,
        List.all_cons, List.all_nil, Xml.legal_element, legal_constant, Bool.and_true]
      simp only [legal_text]
      tauto

theorem legal_oobeSystem (builtin : Bool) (htools : toolsCommand.all Xml.xmlChar = true) :
    (oobeSystem builtin localUsername toolsCommand spec).legal = true ↔
      (spec.locale.all Xml.xmlChar = true ∧ spec.inputLocale.all Xml.xmlChar = true) ∧
      spec.administratorPassword.all Xml.xmlChar = true ∧
      localUsername.all Xml.xmlChar = true ∧ spec.timezone.all Xml.xmlChar = true ∧
      (builtin = false →
        (spec.builtinAdministratorPassword.getD []).all Xml.xmlChar = true) := by
  have hoobe : oobeSettings.legal = true := by decide
  rw [← legal_addInternationalCore "Microsoft-Windows-International-Core"]
  simp (disch := decide) only [oobeSystem, settings, component, actionChild, element,
    Xml.legal_element, List.all_cons, List.all_nil, legal_constant, hoobe, Bool.and_true,
    Bool.true_and]
  simp only [legal_text, htools, Bool.true_and, Bool.and_eq_true, legal_addUserAccounts]
  tauto

theorem legal_unattend (casefold : Char → Text) (localUsername : Text)
    (htools : toolsCommand.all Xml.xmlChar = true)
    (hkey : ∀ key ∈ productKeyOf upper spec, key.all Xml.xmlChar = true) :
    (unattend upper casefold localUsername toolsCommand spec).legal = true ↔
      ∀ value ∈ written (isBuiltin casefold localUsername) localUsername spec,
        value.all Xml.xmlChar = true := by
  rw [unattend, Xml.legal_element, List.all_cons, List.all_cons, List.all_cons, List.all_nil,
    Bool.and_true, Bool.and_eq_true, Bool.and_eq_true, legal_windowsPe hkey, legal_specialize,
    legal_oobeSystem _ htools, written]
  cases isBuiltin casefold localUsername
  all_goals simp only [List.forall_mem_append, List.forall_mem_cons, if_true, if_false,
    Bool.false_eq_true, Bool.true_eq_false, true_imp_iff, false_imp_iff]
  all_goals tauto

/-! ## Accepted specifications -/

theorem no_return_of_localAccountName {username : Text}
    (h : localAccountName username = .ok localUsername) : '\r' ∉ localUsername := by
  unfold localAccountName at h
  dsimp only at h
  split at h
  · cases h
  · next hvalid =>
    cases h
    intro hmem
    have hany := List.any_eq_true.mpr ⟨'\r', hmem, (by decide : forbiddenInName '\r' = true)⟩
    exact hvalid (.inr (.inr (.inr (.inr hany))))

theorem document_of_build (hlocal : localAccountName spec.administratorUsername = .ok localUsername)
    (h : buildAutounattendXml upper casefold spec = .ok document) :
    (∀ key ∈ productKeyOf upper spec, productKeyMatches key = true) ∧
      document =
        Xml.writeDocument (unattend upper casefold localUsername toolsCommandLine spec) := by
  rw [buildAutounattendXml, hlocal, toolsInstallCommand_ok] at h
  cases hkey : (productKeyOf upper spec).any fun key => !productKeyMatches key with
  | true =>
    rw [hkey] at h
    cases h
  | false =>
    rw [hkey] at h
    refine ⟨fun key hmem => ?_, (Except.ok.inj h).symm⟩
    have hnone : (productKeyOf upper spec).any (fun key => !productKeyMatches key) = false := hkey
    rw [hmem, Option.any_some, Bool.not_eq_false'] at hnone
    exact hnone

/-- Line ends are normalised in every place at once. -/
theorem valuesAt_lineEnds_iff {path : List Text} {root : Node} {values : List Text}
    (h : valuesAt path root = values) :
    valuesAt path (root.mapText Xml.lineEnds) = values ↔ ∀ value ∈ values, '\r' ∉ value := by
  have hmap := List.map_inj_left (l := values) (f := Xml.lineEnds) (g := id)
  rw [List.map_id] at hmap
  rw [Xml.valuesAt_mapText rfl, h, hmap]
  simp only [id, Xml.lineEnds_eq_self_iff]

theorem yields_lineEnds_iff {builtin : Bool} {root : Node}
    (h : Yields builtin localUsername spec root) (hlocal : '\r' ∉ localUsername) :
    Yields builtin localUsername spec (root.mapText Xml.lineEnds) ↔
      ∀ value ∈ [spec.administratorPassword, spec.computerName, spec.locale, spec.inputLocale,
        spec.timezone], '\r' ∉ value := by
  constructor
  · intro hyields
    have hpassword := (valuesAt_lineEnds_iff h.logonPassword).mp hyields.logonPassword
    have hcomputer := (valuesAt_lineEnds_iff h.computerName).mp hyields.computerName
    have hlocale := (valuesAt_lineEnds_iff h.setupLanguage).mp hyields.setupLanguage
    have hinput := (valuesAt_lineEnds_iff h.inputLocale).mp hyields.inputLocale
    have htimezone := (valuesAt_lineEnds_iff h.timezone).mp hyields.timezone
    simp_all
  · intro hvalues
    simp only [List.forall_mem_cons] at hvalues
    obtain ⟨hpassword, hcomputer, hlocale, hinput, htimezone, -⟩ := hvalues
    exact {
      logonPassword := (valuesAt_lineEnds_iff h.logonPassword).mpr (by simpa using hpassword)
      accountPassword := (valuesAt_lineEnds_iff h.accountPassword).mpr (by simpa using hpassword)
      logonName := (valuesAt_lineEnds_iff h.logonName).mpr (by simpa using hlocal)
      accountName := fun hbuiltin =>
        (valuesAt_lineEnds_iff (h.accountName hbuiltin)).mpr (by simpa using hlocal)
      computerName := (valuesAt_lineEnds_iff h.computerName).mpr (by simpa using hcomputer)
      setupLanguage := (valuesAt_lineEnds_iff h.setupLanguage).mpr (by simpa using hlocale)
      language := (valuesAt_lineEnds_iff h.language).mpr (by simpa using hlocale)
      systemLocale := (valuesAt_lineEnds_iff h.systemLocale).mpr (by simpa using hlocale)
      userLocale := (valuesAt_lineEnds_iff h.userLocale).mpr (by simpa using hlocale)
      inputLocale := (valuesAt_lineEnds_iff h.inputLocale).mpr (by simpa using hinput)
      timezone := (valuesAt_lineEnds_iff h.timezone).mpr (by simpa using htimezone) }

theorem readDocument_unattend (upper casefold : Char → Text) (localUsername toolsCommand : Text)
    (spec : WindowsUnattendSpec) :
    Xml.readDocument (Xml.writeDocument (unattend upper casefold localUsername toolsCommand spec)) =
      if (unattend upper casefold localUsername toolsCommand spec).legal then
        some ((unattend upper casefold localUsername toolsCommand spec).mapText Xml.lineEnds)
      else none :=
  Xml.readDocument_writeDocument plain_unattend rfl

/-- An accepted specification's document reads back exactly when its values are written in
allowed characters, without a carriage return among the given ones. -/
theorem buildAutounattendXml_faithful_iff
    (hlocal : localAccountName spec.administratorUsername = .ok localUsername)
    (h : buildAutounattendXml upper casefold spec = .ok document) :
    Faithful casefold localUsername spec document ↔
      Transparent (isBuiltin casefold localUsername) localUsername spec := by
  obtain ⟨hkey, rfl⟩ := document_of_build hlocal h
  have hlegal := legal_unattend casefold localUsername all_xmlChar_toolsCommandLine
    fun key hmem => all_xmlChar_of_key (hkey key hmem)
  have hyields := yields_lineEnds_iff
    (yields_unattend upper casefold localUsername toolsCommandLine spec)
    (no_return_of_localAccountName hlocal)
  rw [Faithful, readDocument_unattend]
  constructor
  · rintro ⟨root, hread, hroot⟩
    split at hread
    · next hl =>
      cases hread
      exact ⟨hlegal.mp hl, hyields.mp hroot⟩
    · cases hread
  · intro htransparent
    rw [if_pos (hlegal.mpr htransparent.allowed)]
    exact ⟨_, rfl, hyields.mpr htransparent.noReturn⟩

/-! ## Two specifications -/

def asciiUpper (c : Char) : Text := [c.toUpper]

def asciiCasefold (c : Char) : Text := [c.toLower]

def webServer : WindowsUnattendSpec where
  computerName := "WEB01".toList
  administratorUsername := ".\\infraops".toList
  administratorPassword := "Winter<2026>&1".toList
  timezone := "W. Europe Standard Time".toList
  builtinAdministratorPassword := some "k3y_aA1!".toList

theorem build_of_no_key (hlocal : localAccountName spec.administratorUsername = .ok localUsername)
    (hkey : spec.productKey = none) :
    buildAutounattendXml asciiUpper asciiCasefold spec =
      .ok (Xml.writeDocument
        (unattend asciiUpper asciiCasefold localUsername toolsCommandLine spec)) := by
  have hnone : productKeyOf asciiUpper spec = none := by
    rw [productKeyOf, hkey]
    rfl
  rw [buildAutounattendXml, hlocal, hnone, toolsInstallCommand_ok]
  rfl

theorem localAccountName_webServer :
    localAccountName webServer.administratorUsername = .ok "infraops".toList := by
  decide

theorem buildAutounattendXml_faithful_iff_webServer :
    ∃ document, buildAutounattendXml asciiUpper asciiCasefold webServer = .ok document ∧
      Faithful asciiCasefold "infraops".toList webServer document := by
  have hbuild := build_of_no_key localAccountName_webServer rfl
  exact ⟨_, hbuild, (buildAutounattendXml_faithful_iff localAccountName_webServer hbuild).mpr
    ⟨by decide, by decide⟩⟩

/-- A control character in the password is written as it is. -/
def controlServer : WindowsUnattendSpec :=
  { webServer with administratorPassword := "Winter\x012026".toList }

theorem controlServer_unreadable :
    ∃ document, buildAutounattendXml asciiUpper asciiCasefold controlServer = .ok document ∧
      localAccountName controlServer.administratorUsername = .ok "infraops".toList ∧
      Xml.readDocument document = none ∧
      ¬Faithful asciiCasefold "infraops".toList controlServer document := by
  have hlocal : localAccountName controlServer.administratorUsername = .ok "infraops".toList :=
    localAccountName_webServer
  have hillegal : ¬(unattend asciiUpper asciiCasefold "infraops".toList toolsCommandLine
      controlServer).legal = true := by
    rw [legal_unattend _ _ all_xmlChar_toolsCommandLine fun key hmem => by cases hmem]
    decide
  have hread := readDocument_unattend asciiUpper asciiCasefold "infraops".toList toolsCommandLine
    controlServer
  rw [if_neg hillegal] at hread
  refine ⟨_, build_of_no_key hlocal rfl, hlocal, hread, ?_⟩
  rintro ⟨root, hroot, -⟩
  rw [hread] at hroot
  cases hroot

end InfraOps.AnswerFile
