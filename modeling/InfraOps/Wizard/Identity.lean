import InfraOps.Core.Case
import InfraOps.Schemas.Validation
import InfraOps.Wizard.Data

/-!
# Guest identities

`identity.ts`, and the check of the wizard's directory step. The letter case of JavaScript is
the Unicode tables' of the browser; what is fixed of them is how they treat ASCII letters and
that a second lowering changes nothing.
-/

namespace InfraOps.Wizard

/-- What a browser decides: its case tables and the decimal text of a number that is not written
as an integer. -/
structure Browser where
  upper : Char → List Char
  upper_ascii : ∀ c : Char, c.toNat < 128 → upper c = [c.toUpper]
  upper_capital : ∀ c, ∀ d ∈ upper c, Schemas.asciiLower d = false
  lower : CaseTable
  lower_settled : ∀ c, ∀ d ∈ lower.lower c, lower.lower d = [d]
  lower_finalSigma : lower.lower 'ς' = ['ς']
  numberText : ℚ → String

namespace Browser

variable (b : Browser)

/-- `text.toUpperCase()`. -/
def toUpperCase (cs : List Char) : List Char := cs.flatMap b.upper

/-- `text.toLowerCase()`. -/
def toLowerCase (cs : List Char) : List Char := b.lower.pyLower cs

/-- `text.trim().replace(/\.+$/, '').toLowerCase()`. -/
def normalizeDomain (domain : List Char) : List Char :=
  b.toLowerCase (dropRight (· == '.') (jsTrim domain))

end Browser

theorem asciiLower_toUpper (c : Char) : Schemas.asciiLower c.toUpper = false := by
  by_cases hc : c.toNat < 128
  · exact forall_ascii (p := fun c => Schemas.asciiLower c.toUpper = false) (by decide +kernel) hc
  · rw [toUpper_of_not_ascii (not_lt.mp hc), Bool.eq_false_iff]
    exact fun h => hc (Schemas.toNat_of_asciiLower h)

theorem basic_settled (c : Char) :
    ∀ d ∈ CaseTable.basic.lower c, CaseTable.basic.lower d = [d] := by
  by_cases hascii : c.toNat < 128
  · have hlower : CaseTable.basic.lower c = [c.toLower] ∧
        CaseTable.basic.lower c.toLower = [c.toLower] :=
      forall_ascii (p := fun c => CaseTable.basic.lower c = [c.toLower] ∧
        CaseTable.basic.lower c.toLower = [c.toLower]) (by decide +kernel) hascii
    intro d hd
    rw [hlower.1, List.mem_singleton] at hd
    rw [hd, hlower.2]
  · intro d hd
    have hsame := toLower_of_not_ascii (not_lt.mp hascii)
    simp only [CaseTable.basic] at hd
    split_ifs at hd with hdotted hsigma
    · rcases List.mem_pair.mp hd with rfl | rfl
      · decide
      · decide
    · rw [List.mem_singleton.mp hd]
      decide
    · rw [hsame, List.mem_singleton] at hd
      subst hd
      simp [CaseTable.basic, hdotted, hsigma, hsame]

/-- The browser that knows the case of the ASCII letters only. -/
def asciiBrowser : Browser where
  upper c := [c.toUpper]
  upper_ascii _ _ := rfl
  upper_capital c := by simpa using asciiLower_toUpper c
  lower := .basic
  lower_settled := basic_settled
  lower_finalSigma := rfl
  numberText := toString

structure EffectiveGuestIdentity where
  computerName : List Char
  fqdn : Option (List Char)
  deriving DecidableEq

/-- `text || other`. -/
def textOr : Option (List Char) → List Char → List Char
  | some (c :: cs), _ => c :: cs
  | _, other => other

variable (b : Browser)

/-- `domain ? normalizeDomain(domain) : ''`. -/
def domainOrEmpty : Option (List Char) → List Char
  | some (c :: cs) => b.normalizeDomain (c :: cs)
  | _ => []

def deriveGuestIdentity (vmName : List Char) (hostname domain : Option (List Char)) :
    EffectiveGuestIdentity :=
  let normalizedDomain := domainOrEmpty b domain
  let joins := normalizedDomain ≠ []
  { computerName := b.toUpperCase (if joins then vmName else textOr hostname vmName)
    fqdn := if joins then some (b.toLowerCase (vmName ++ '.' :: normalizedDomain)) else none }

def derivePersistedGuestIdentity (vmName : List Char) (hostname domain : Option (List Char)) :
    EffectiveGuestIdentity :=
  let normalizedDomain := domainOrEmpty b domain
  let computerName := b.toUpperCase (textOr hostname vmName)
  { computerName
    fqdn :=
      if normalizedDomain ≠ [] then some (b.toLowerCase (computerName ++ '.' :: normalizedDomain))
      else none }

/-! ## The directory step -/

/-- `text.length`, in UTF-16 code units. -/
def jsLength (cs : List Char) : Nat := (cs.map fun c => if c.toNat < 0x10000 then 1 else 2).sum

/-- `DNS_DOMAIN_REGEX`, whose flag ignores the case of the ASCII letters only. -/
def dnsDomainRegex (domain : List Char) : Bool := Schemas.dnsDomain (domain.map Char.toLower)

def isWindowsComputerName (value : List Char) : Bool :=
  Schemas.windowsComputerName value && !Schemas.isDigits value

/-- An issue of a step, or none. -/
def issue (bad : Bool) (field message : String) : List (String × String) :=
  if bad then [(field, message)] else []

def validateDomainIdentity (vmName : List Char) (join : DomainJoinDraft) :
    List (String × String) :=
  let domain := b.normalizeDomain join.domain
  issue (!dnsDomainRegex domain) "domain_join.domain"
      "Enter a valid DNS domain, for example corp.example.com." ++
    issue ((domain.splitOn '.').any fun label => 63 < jsLength label) "domain_join.domain"
      "Each DNS domain label must not exceed 63 characters." ++
    issue (253 < jsLength (vmName ++ '.' :: domain)) "domain_join.domain"
      "The resulting fully qualified DNS name must not exceed 253 characters."

/-- The issues of `stepSchemas.directory`. -/
def directoryIssues (data : WizardData) : List (String × String) :=
  if data.domainJoin.enabled then
    issue (!isWindowsComputerName data.vmName) "vm_name"
        "Enter a valid short Windows computer name (letters, numbers and hyphens only)." ++
      validateDomainIdentity b data.vmName data.domainJoin ++
      issue (jsLength data.domainJoin.credentialSecretRef < 2) "domain_join.credential_secret_ref"
        "Select the domain-join credential."
  else []

/-- The first message of every field. -/
def firstMessages (issues : List (String × String)) : List (String × String) :=
  issues.foldl (fun errors issue =>
    if (errors.lookup issue.1).isSome then errors else errors ++ [issue]) []

/-- `validateStep('directory', data)`. -/
def validateDirectory (data : WizardData) : List (String × String) :=
  firstMessages (directoryIssues b data)

/-! ## Letter case -/

namespace Browser

variable {b}

theorem toUpperCase_ascii {cs : List Char} (h : ∀ c ∈ cs, c.toNat < 128) :
    b.toUpperCase cs = cs.map Char.toUpper := by
  induction cs with
  | nil => rfl
  | cons c cs ih =>
    have hrest := ih fun d hd => h d (List.mem_cons_of_mem c hd)
    rw [toUpperCase, List.flatMap_cons, b.upper_ascii c (h c List.mem_cons_self)]
    exact congrArg (c.toUpper :: ·) hrest

/-- An ASCII text that is in capitals stays as it is. -/
theorem map_toUpper_toUpperCase {cs : List Char} (h : ∀ c ∈ b.toUpperCase cs, c.toNat < 128) :
    (b.toUpperCase cs).map Char.toUpper = b.toUpperCase cs := by
  have hcapital : ∀ c ∈ b.toUpperCase cs, c.toUpper = c := by
    intro c hc
    obtain ⟨letter, -, hupper⟩ := List.mem_flatMap.mp hc
    have hkept : Schemas.asciiLower c = false → c.toUpper = c :=
      forall_ascii (p := fun c => Schemas.asciiLower c = false → c.toUpper = c)
        (by decide +kernel) (h c hc)
    exact hkept (b.upper_capital letter c hupper)
  exact (List.map_congr_left hcapital).trans (List.map_id _)

theorem toNat_toLower {c : Char} (h : c.toNat < 128) : c.toLower.toNat < 128 :=
  forall_ascii (p := fun c => c.toLower.toNat < 128) (by decide +kernel) h

theorem lowerFrom_ascii_append {word : List Char} (h : ∀ c ∈ word, c.toNat < 128)
    (before rest : List Char) : b.lower.lowerFrom before (word ++ rest) =
      word.map Char.toLower ++ b.lower.lowerFrom (before ++ word) rest := by
  induction word generalizing before with
  | nil => rw [List.append_nil, List.nil_append, List.map_nil, List.nil_append]
  | cons c word ih =>
    have hc := h c List.mem_cons_self
    have hrest := ih (fun d hd => h d (List.mem_cons_of_mem c hd)) (before ++ [c])
    have hlower := b.lower.lowerAt_of_lower (b.lower.ascii c hc) (toNat_toLower hc)
    rw [List.append_assoc] at hrest
    rw [List.cons_append, CaseTable.lowerFrom, hrest, hlower]
    rfl

theorem toLowerCase_ascii {cs : List Char} (h : ∀ c ∈ cs, c.toNat < 128) :
    b.toLowerCase cs = cs.map Char.toLower := by
  have happend := lowerFrom_ascii_append (b := b) h [] []
  rw [List.append_nil] at happend
  rw [toLowerCase, CaseTable.pyLower, happend, CaseTable.lowerFrom, List.append_nil]

/-! A text that was lowered stays as it is when it is lowered again. -/

theorem settled_lowerFrom (before cs : List Char) :
    ∀ d ∈ b.lower.lowerFrom before cs, b.lower.lower d = [d] := by
  induction cs generalizing before with
  | nil => simp [CaseTable.lowerFrom]
  | cons c cs ih =>
    intro d hd
    rw [CaseTable.lowerFrom] at hd
    rcases List.mem_append.mp hd with hd | hd
    · unfold CaseTable.lowerAt at hd
      split_ifs at hd with hsigma hfinal
      · rw [List.mem_singleton.mp hd]
        exact b.lower_finalSigma
      · refine b.lower_settled 'Σ' d ?_
        rwa [b.lower.sigma]
      · exact b.lower_settled c d hd
    · exact ih _ d hd

theorem lowerFrom_settled {cs : List Char} (h : ∀ d ∈ cs, b.lower.lower d = [d])
    (before : List Char) : b.lower.lowerFrom before cs = cs := by
  induction cs generalizing before with
  | nil => rfl
  | cons d cs ih =>
    have hsettled := h d List.mem_cons_self
    have hsigma : d ≠ 'Σ' := by
      rintro rfl
      rw [b.lower.sigma] at hsettled
      exact absurd hsettled (by decide)
    rw [CaseTable.lowerFrom, CaseTable.lowerAt, if_neg hsigma, hsettled,
      ih (fun e he => h e (List.mem_cons_of_mem d he))]
    rfl

theorem settled_normalizeDomain (domain : List Char) :
    ∀ d ∈ b.normalizeDomain domain, b.lower.lower d = [d] := settled_lowerFrom [] _

/-- The name of a machine in a domain that was normalized. -/
theorem toLowerCase_fqdn {name : List Char} (h : ∀ c ∈ name, c.toNat < 128)
    (domain : List Char) : b.toLowerCase (name ++ '.' :: b.normalizeDomain domain) =
      name.map Char.toLower ++ '.' :: b.normalizeDomain domain := by
  have hdot : b.lower.lower '.' = ['.'] := b.lower.ascii '.' (by decide)
  have hrest : ∀ d ∈ '.' :: b.normalizeDomain domain, b.lower.lower d = [d] :=
    List.forall_mem_cons.mpr ⟨hdot, settled_normalizeDomain domain⟩
  rw [toLowerCase, CaseTable.pyLower, lowerFrom_ascii_append h, lowerFrom_settled hrest]

end Browser

theorem domainOrEmpty_some (domain : List Char) :
    domainOrEmpty b (some domain) = b.normalizeDomain domain := by
  cases domain with
  | nil => rfl
  | cons c domain => rfl

end InfraOps.Wizard
