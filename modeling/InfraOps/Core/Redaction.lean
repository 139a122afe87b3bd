import InfraOps.Core.Case
import InfraOps.Core.Text

/-!
# Redaction

`redact`, which every audit event's details pass through: what it replaces, what it keeps and
where.
-/

namespace InfraOps

variable {α : Type} (table : CaseTable)

/-! ## Payloads -/

/-- A structured payload; a value of any other kind, such as a number, is opaque. -/
inductive Payload (α : Type)
  | text (value : String)
  | other (value : α)
  | dict (items : List (String × Payload α))
  | list (items : List (Payload α))
  | tuple (items : List (Payload α))

/-- One step into a payload. -/
inductive PathStep
  | key (name : String)
  | index (position : Nat)

namespace Payload

def isLeaf : Payload α → Bool
  | .text _ => true
  | .other _ => true
  | .dict _ => false
  | .list _ => false
  | .tuple _ => false

def child? : Payload α → PathStep → Option (Payload α)
  | .dict items, .key name => items.lookup name
  | .list items, .index position => items[position]?
  | .tuple items, .index position => items[position]?
  | _, _ => none

/-- The value at a path. -/
def at? (payload : Payload α) : List PathStep → Option (Payload α)
  | [] => some payload
  | step :: path => (payload.child? step).bind fun child => child.at? path

end Payload

/-! ## `redact` -/

/-- `_REDACTED_KEYS`. -/
def redactedKeys : List String :=
  ["password", "secret", "token", "api_key", "private_key", "credential", "authorization"]

/-- `any(marker in key.lower() for marker in _REDACTED_KEYS)`. -/
def markedKey (key : String) : Bool :=
  redactedKeys.any fun marker => decide (marker.toList <:+: table.pyLower key.toList)

mutual

def redact : Payload α → Payload α
  | .dict items => .dict (redactItems items)
  | .list items => .list (redactAll items)
  | .tuple items => .list (redactAll items)
  | .text value => .text value
  | .other value => .other value

def redactItems : List (String × Payload α) → List (String × Payload α)
  | [] => []
  | (key, item) :: items =>
    (key, if markedKey table key then .text "[REDACTED]" else redact item) :: redactItems items

def redactAll : List (Payload α) → List (Payload α)
  | [] => []
  | item :: items => redact item :: redactAll items

end

/-- What `AuditRecorder.record` writes of the details: the event's payload, and the text of
it in the log line. -/
def recordDetails (dumps : Payload α → String) (details : Option (Payload α)) :
    Payload α × String :=
  let safeDetails := redact table (details.getD (.dict []))
  (safeDetails, firstChars 8000 (dumps safeDetails))

/-! ## What a redaction is to be -/

/-- A listed marker stands in the key in some letter case. -/
def SensitiveKey (key : String) : Prop :=
  ∃ marker ∈ redactedKeys, ∃ word, word <:+: key.toList ∧ table.SameLetters word marker.toList

def CleanPath (path : List PathStep) : Prop :=
  ∀ key, PathStep.key key ∈ path → ¬ SensitiveKey table key

structure Redaction (payload result : Payload α) : Prop where
  /-- The value under a sensitive key is replaced. -/
  replaced : ∀ path key, CleanPath table path → SensitiveKey table key →
    result.at? (path ++ [.key key]) =
      (payload.at? (path ++ [.key key])).map fun _ => .text "[REDACTED]"
  /-- Nothing remains below a sensitive key. -/
  gone : ∀ path key step rest, SensitiveKey table key →
    result.at? (path ++ .key key :: step :: rest) = none
  /-- Every other leaf keeps its value and position, and none is added. -/
  leaves : ∀ path leaf, CleanPath table path → leaf.isLeaf = true →
    (result.at? path = some leaf ↔ payload.at? path = some leaf)
  /-- A dictionary keeps its keys in their order. -/
  dicts : ∀ path items, CleanPath table path → payload.at? path = some (.dict items) →
    ∃ entries, result.at? path = some (.dict entries) ∧
      entries.map Prod.fst = items.map Prod.fst
  /-- A list or a tuple becomes a list as long. -/
  sequences : ∀ path items, CleanPath table path →
    (payload.at? path = some (.list items) ∨ payload.at? path = some (.tuple items)) →
    ∃ entries, result.at? path = some (.list entries) ∧ entries.length = items.length

mutual

/-- Equal but for the values under sensitive keys. -/
def SameOutside : Payload α → Payload α → Prop
  | .text value, other => other = .text value
  | .other value, other => other = .other value
  | .dict items, other => ∃ items', other = .dict items' ∧ SameItems items items'
  | .list items, other => ∃ items', other = .list items' ∧ SameAll items items'
  | .tuple items, other => ∃ items', other = .tuple items' ∧ SameAll items items'

def SameItems : List (String × Payload α) → List (String × Payload α) → Prop
  | [], others => others = []
  | (key, item) :: items, others => ∃ item' items', others = (key, item') :: items' ∧
    (SensitiveKey table key ∨ SameOutside item item') ∧ SameItems items items'

def SameAll : List (Payload α) → List (Payload α) → Prop
  | [], others => others = []
  | item :: items, others => ∃ item' items', others = item' :: items' ∧
    SameOutside item item' ∧ SameAll items items'

end

/-! ## Keys -/

theorem markedKey_iff (key : String) : markedKey table key = true ↔ SensitiveKey table key := by
  have hascii : redactedKeys.all (fun marker => CaseTable.asciiWord marker.toList) = true := by
    decide
  rw [markedKey, List.any_eq_true]
  constructor
  · rintro ⟨marker, hmarker, h⟩
    have hword := List.all_eq_true.mp hascii marker hmarker
    exact ⟨marker, hmarker, (table.contains_iff hword [] _).mp (of_decide_eq_true h)⟩
  · rintro ⟨marker, hmarker, h⟩
    have hword := List.all_eq_true.mp hascii marker hmarker
    exact ⟨marker, hmarker, decide_eq_true ((table.contains_iff hword [] _).mpr h)⟩

theorem markedKey_of_not_sensitive {key : String} (h : ¬ SensitiveKey table key) :
    markedKey table key = false := by
  rw [← markedKey_iff] at h
  simpa using h

/-! ## One step down -/

theorem redactAll_eq_map (items : List (Payload α)) :
    redactAll table items = items.map (redact table) := by
  induction items with
  | nil => rfl
  | cons item items ih => rw [redactAll, ih, List.map_cons]

theorem keys_redactItems (items : List (String × Payload α)) :
    (redactItems table items).map Prod.fst = items.map Prod.fst := by
  induction items with
  | nil => rfl
  | cons entry items ih => rw [redactItems, List.map_cons, ih, List.map_cons]

theorem lookup_redactItems (items : List (String × Payload α)) (name : String) :
    (redactItems table items).lookup name = (items.lookup name).map fun item =>
      if markedKey table name then .text "[REDACTED]" else redact table item := by
  induction items with
  | nil => rfl
  | cons entry items ih =>
    obtain ⟨key, item⟩ := entry
    by_cases hkey : name = key
    · subst hkey
      rw [redactItems, List.lookup_cons_self, List.lookup_cons_self]
      rfl
    · have hne : (name == key) = false := by simpa using hkey
      rw [redactItems, List.lookup_cons, List.lookup_cons, hne]
      exact ih

/-- What `redact` puts in the place of a value one step down. -/
def redactUnder : PathStep → Payload α → Payload α
  | .key name, item => if markedKey table name then .text "[REDACTED]" else redact table item
  | .index _, item => redact table item

theorem child?_redact (payload : Payload α) (step : PathStep) :
    (redact table payload).child? step = (payload.child? step).map (redactUnder table step) := by
  cases payload with
  | text value => rfl
  | other value => rfl
  | dict items =>
    cases step with
    | key name => exact lookup_redactItems table items name
    | index position => rfl
  | list items =>
    cases step with
    | key name => rfl
    | index position =>
      rw [redact, redactAll_eq_map, Payload.child?, List.getElem?_map]
      rfl
  | tuple items =>
    cases step with
    | key name => rfl
    | index position =>
      rw [redact, redactAll_eq_map, Payload.child?, List.getElem?_map]
      rfl

theorem redactUnder_of_clean {step : PathStep} {path : List PathStep}
    (h : CleanPath table (step :: path)) : redactUnder (α := α) table step = redact table := by
  cases step with
  | index position => rfl
  | key name =>
    funext item
    have hname := markedKey_of_not_sensitive table (h name List.mem_cons_self)
    rw [redactUnder, hname, if_neg Bool.false_ne_true]

/-! ## Paths -/

theorem at?_append (payload : Payload α) (path rest : List PathStep) :
    payload.at? (path ++ rest) = (payload.at? path).bind fun child => child.at? rest := by
  induction path generalizing payload with
  | nil => rfl
  | cons step path ih =>
    rw [List.cons_append, Payload.at?, Payload.at?, Option.bind_assoc]
    exact congrArg _ (funext ih)

theorem at?_singleton (payload : Payload α) (step : PathStep) :
    payload.at? [step] = payload.child? step := by
  rw [Payload.at?]
  cases payload.child? step with
  | none => rfl
  | some child => rfl

theorem at?_redact (payload : Payload α) {path : List PathStep} (h : CleanPath table path) :
    (redact table payload).at? path = (payload.at? path).map (redact table) := by
  induction path generalizing payload with
  | nil => rfl
  | cons step path ih =>
    have hpath : CleanPath table path := fun key hkey => h key (List.mem_cons_of_mem _ hkey)
    rw [Payload.at?, Payload.at?, child?_redact, redactUnder_of_clean table h]
    cases payload.child? step with
    | none => rfl
    | some child => exact ih child hpath

theorem at?_redact_sensitive (payload : Payload α) {path : List PathStep} {key : String}
    (h : CleanPath table path) (hkey : SensitiveKey table key) :
    (redact table payload).at? (path ++ [.key key]) =
      (payload.at? (path ++ [.key key])).map fun _ => .text "[REDACTED]" := by
  rw [at?_append, at?_append, at?_redact table payload h]
  cases payload.at? path with
  | none => rfl
  | some child =>
    rw [Option.map_some, Option.bind_some, Option.bind_some, at?_singleton, at?_singleton,
      child?_redact]
    have hmarked := (markedKey_iff table key).mpr hkey
    refine congrArg (Option.map · _) (funext fun item => ?_)
    rw [redactUnder, if_pos hmarked]

theorem text_at?_cons (value : String) (step : PathStep) (path : List PathStep) :
    (Payload.text value : Payload α).at? (step :: path) = none := rfl

theorem at?_redact_below (payload : Payload α) {path rest : List PathStep} {key : String}
    {step : PathStep} (hkey : SensitiveKey table key) :
    (redact table payload).at? (path ++ .key key :: step :: rest) = none := by
  induction path generalizing payload with
  | nil =>
    have hmarked := (markedKey_iff table key).mpr hkey
    rw [List.nil_append, Payload.at?, child?_redact]
    cases payload.child? (.key key) with
    | none => rfl
    | some child =>
      rw [Option.map_some, Option.bind_some, redactUnder, if_pos hmarked]
      exact text_at?_cons _ step rest
  | cons first path ih =>
    rw [List.cons_append, Payload.at?, child?_redact]
    cases payload.child? first with
    | none => rfl
    | some child =>
      rw [Option.map_some, Option.bind_some]
      cases first with
      | index position => exact ih child
      | key name =>
        rw [redactUnder]
        split
        · cases path with
          | nil => exact text_at?_cons _ _ _
          | cons _ _ => exact text_at?_cons _ _ _
        · exact ih child

theorem redact_leaf {leaf : Payload α} (h : leaf.isLeaf = true) (payload : Payload α) :
    redact table payload = leaf ↔ payload = leaf := by
  cases payload with
  | text value => rw [redact]
  | other value => rw [redact]
  | dict items =>
    constructor
    · intro heq; subst heq; exact absurd h (by rw [redact]; exact Bool.false_ne_true)
    · intro heq; subst heq; exact absurd h Bool.false_ne_true
  | list items =>
    constructor
    · intro heq; subst heq; exact absurd h (by rw [redact]; exact Bool.false_ne_true)
    · intro heq; subst heq; exact absurd h Bool.false_ne_true
  | tuple items =>
    constructor
    · intro heq; subst heq; exact absurd h (by rw [redact]; exact Bool.false_ne_true)
    · intro heq; subst heq; exact absurd h Bool.false_ne_true

theorem redaction_redact (payload : Payload α) :
    Redaction table payload (redact table payload) where
  replaced := fun path key hpath hkey => at?_redact_sensitive table payload hpath hkey
  gone := fun path key step rest hkey => at?_redact_below table payload hkey
  leaves := by
    intro path leaf hpath hleaf
    rw [at?_redact table payload hpath, Option.map_eq_some_iff]
    constructor
    · rintro ⟨child, hchild, heq⟩
      rwa [(redact_leaf table hleaf child).mp heq] at hchild
    · intro hchild
      exact ⟨leaf, hchild, (redact_leaf table hleaf leaf).mpr rfl⟩
  dicts := by
    intro path items hpath hitems
    refine ⟨redactItems table items, ?_, keys_redactItems table items⟩
    rw [at?_redact table payload hpath, hitems, Option.map_some, redact]
  sequences := by
    intro path items hpath hitems
    refine ⟨redactAll table items, ?_, ?_⟩
    · rw [at?_redact table payload hpath]
      rcases hitems with hitems | hitems
      · rw [hitems, Option.map_some, redact]
      · rw [hitems, Option.map_some, redact]
    · rw [redactAll_eq_map, List.length_map]

/-! ## Two payloads -/

mutual

theorem redact_congr : ∀ (payload other : Payload α), SameOutside table payload other →
    redact table other = redact table payload
  | .text value, other, h => by rw [SameOutside] at h; rw [h]
  | .other value, other, h => by rw [SameOutside] at h; rw [h]
  | .dict items, other, h => by
    rw [SameOutside] at h
    obtain ⟨items', rfl, h⟩ := h
    rw [redact, redact, redactItems_congr items items' h]
  | .list items, other, h => by
    rw [SameOutside] at h
    obtain ⟨items', rfl, h⟩ := h
    rw [redact, redact, redactAll_congr items items' h]
  | .tuple items, other, h => by
    rw [SameOutside] at h
    obtain ⟨items', rfl, h⟩ := h
    rw [redact, redact, redactAll_congr items items' h]

theorem redactItems_congr : ∀ (items others : List (String × Payload α)),
    SameItems table items others → redactItems table others = redactItems table items
  | [], others, h => by rw [SameItems] at h; rw [h]
  | (key, item) :: items, others, h => by
    rw [SameItems] at h
    obtain ⟨item', items', rfl, hitem, hitems⟩ := h
    rw [redactItems, redactItems, redactItems_congr items items' hitems]
    rcases hitem with hkey | hitem
    · rw [if_pos ((markedKey_iff table key).mpr hkey), if_pos ((markedKey_iff table key).mpr hkey)]
    · rw [redact_congr item item' hitem]

theorem redactAll_congr : ∀ (items others : List (Payload α)),
    SameAll table items others → redactAll table others = redactAll table items
  | [], others, h => by rw [SameAll] at h; rw [h]
  | item :: items, others, h => by
    rw [SameAll] at h
    obtain ⟨item', items', rfl, hitem, hitems⟩ := h
    rw [redactAll, redactAll, redact_congr item item' hitem, redactAll_congr items items' hitems]

end

/-- Neither the event nor the log line of an audit record depends on what is sensitive. -/
theorem recordDetails_congr (dumps : Payload α → String) {details other : Payload α}
    (h : SameOutside table details other) :
    recordDetails table dumps (some other) = recordDetails table dumps (some details) := by
  rw [recordDetails, recordDetails, Option.getD_some, Option.getD_some,
    redact_congr table details other h]

/-! ## Twice -/

mutual

theorem redact_redact : ∀ payload : Payload α,
    redact table (redact table payload) = redact table payload
  | .text value => by rw [redact, redact]
  | .other value => by rw [redact, redact]
  | .dict items => by rw [redact, redact, redactItems_redactItems items]
  | .list items => by rw [redact, redact, redactAll_redactAll items]
  | .tuple items => by rw [redact, redact, redactAll_redactAll items]

theorem redactItems_redactItems : ∀ items : List (String × Payload α),
    redactItems table (redactItems table items) = redactItems table items
  | [] => rfl
  | (key, item) :: items => by
    rw [redactItems, redactItems, redactItems_redactItems items]
    cases hkey : markedKey table key with
    | true => rw [if_pos rfl, if_pos rfl]
    | false =>
      rw [if_neg Bool.false_ne_true, if_neg Bool.false_ne_true, redact_redact item]

theorem redactAll_redactAll : ∀ items : List (Payload α),
    redactAll table (redactAll table items) = redactAll table items
  | [] => rfl
  | item :: items => by
    rw [redactAll, redactAll, redact_redact item, redactAll_redactAll items]

end

/-- Whatever the payload: all that is sensitive is replaced, everything else is where it was,
what is sensitive does not show in the result, and redacting again changes nothing. -/
theorem redact_correct (payload : Payload α) :
    Redaction table payload (redact table payload) ∧
      (∀ other, SameOutside table payload other → redact table other = redact table payload) ∧
      redact table (redact table payload) = redact table payload :=
  ⟨redaction_redact table payload, redact_congr table payload, redact_redact table payload⟩

/-- The credentials of a nested request, in a tuple and in another letter case. -/
example : (redact CaseTable.basic (.dict [("vm", .text "web"), ("steps", .tuple [.other 3,
      .dict [("Admin_PassWord", .text "x"), ("user", .text "y")]])]) : Payload Nat) =
    .dict [("vm", .text "web"), ("steps", .list [.other 3,
      .dict [("Admin_PassWord", .text "[REDACTED]"), ("user", .text "y")]])] := by
  simp [redact, redactItems, redactAll, show markedKey CaseTable.basic "vm" = false by decide,
    show markedKey CaseTable.basic "steps" = false by decide,
    show markedKey CaseTable.basic "Admin_PassWord" = true by decide,
    show markedKey CaseTable.basic "user" = false by decide]

end InfraOps
