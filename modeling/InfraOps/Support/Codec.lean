import InfraOps.Support.Except

/-!
# JSON contracts

JSON values and codecs of typed values. A codec reads what it accepts and writes one canonical
form, which it reads back. A record is read field by field from an object without unknown keys.
-/

namespace InfraOps

inductive JsonDocument
  | null
  | bool (b : Bool)
  | int (n : Int)
  /-- A number with a fraction or an exponent, as it is spelled. -/
  | number (spelling : String)
  | text (cs : List Char)
  | array (items : List JsonDocument)
  | object (fields : List (String × JsonDocument))

/-- The fields of an object, by their keys. -/
abbrev Fields := List (String × JsonDocument)

structure Codec (α : Type) where
  read : JsonDocument → Except String α
  write : α → JsonDocument
  read_write : ∀ a, read (write a) = .ok a

attribute [simp] Codec.read_write

namespace Codec

variable {α : Type}

def text : Codec (List Char) where
  read
    | .text cs => .ok cs
    | _ => .error "Input should be a valid string"
  write := .text
  read_write _ := rfl

/-- One of finitely many values, each under its name. -/
def named (ofName : List Char → Option α) (name : α → List Char)
    (h : ∀ a, ofName (name a) = some a) : Codec α where
  read
    | .text cs =>
      match ofName cs with
      | some a => .ok a
      | none => .error "Input should be one of the permitted values"
    | _ => .error "Input should be one of the permitted values"
  write a := .text (name a)
  read_write a := by simp only [h]

def readNullable (c : Codec α) : JsonDocument → Except String (Option α)
  | .null => .ok none
  | j => (c.read j).map some

/-- A value or null, where no value is written as null. -/
def nullable (c : Codec α) (h : ∀ a, c.write a ≠ .null) : Codec (Option α) where
  read := c.readNullable
  write
    | none => .null
    | some a => c.write a
  read_write
    | none => rfl
    | some a => by
      have hread : c.readNullable (c.write a) = (c.read (c.write a)).map some := by
        cases hwrite : c.write a with
        | null => exact absurd hwrite (h a)
        | _ => rfl
      rw [hread, c.read_write]
      rfl

def readItems (c : Codec α) : List JsonDocument → Except String (List α)
  | [] => .ok []
  | j :: js => do
    let a ← c.read j
    let as ← c.readItems js
    return a :: as

theorem readItems_map (c : Codec α) (as : List α) : c.readItems (as.map c.write) = .ok as := by
  induction as with
  | nil => rfl
  | cons a as ih =>
    rw [List.map_cons, readItems, c.read_write, ih]
    rfl

theorem exists_readItems {c : Codec α} {js : List JsonDocument} :
    (∃ as, c.readItems js = .ok as) ↔ ∀ j ∈ js, ∃ a, c.read j = .ok a := by
  induction js with
  | nil => simp [readItems]
  | cons j js ih =>
    rw [List.forall_mem_cons, ← ih]
    simp only [readItems, bind_eq_ok (α := α), bind_eq_ok (α := List α)]
    constructor
    · rintro ⟨_, a, ha, as, has, -⟩
      exact ⟨⟨a, ha⟩, as, has⟩
    · rintro ⟨⟨a, ha⟩, as, has⟩
      exact ⟨_, a, ha, as, has, rfl⟩

theorem length_readItems {c : Codec α} {js : List JsonDocument} {as : List α}
    (h : c.readItems js = .ok as) : as.length = js.length := by
  induction js generalizing as with
  | nil =>
    cases h
    rfl
  | cons j js ih =>
    obtain ⟨a, -, h⟩ := bind_eq_ok.mp h
    obtain ⟨rest, hrest, h⟩ := bind_eq_ok.mp h
    cases h
    rw [List.length_cons, List.length_cons, ih hrest]

def list (c : Codec α) : Codec (List α) where
  read
    | .array items => c.readItems items
    | _ => .error "Input should be a valid list"
  write as := .array (as.map c.write)
  read_write as := c.readItems_map as

/-! ## Records -/

/-- The fields of an object that has no other keys than these. -/
def readObject (keys : List String) : JsonDocument → Except String Fields
  | .object fields =>
    if fields.all fun f => f.1 ∈ keys then .ok fields
    else .error "Extra inputs are not permitted"
  | _ => .error "Input should be a valid dictionary"

def required (c : Codec α) (fields : Fields) (key : String) : Except String α :=
  match fields.lookup key with
  | some j => c.read j
  | none => .error "Field required"

/-- A field that has a default. -/
def defaulted (c : Codec α) (fields : Fields) (key : String) (default : α) : Except String α :=
  match fields.lookup key with
  | some j => c.read j
  | none => .ok default

theorem readObject_object {keys : List String} {fields : Fields}
    (h : ∀ f ∈ fields, f.1 ∈ keys) : readObject keys (.object fields) = .ok fields := by
  rw [readObject, if_pos]
  rw [List.all_eq_true]
  exact fun f hf => decide_eq_true (h f hf)

theorem eq_object_of_readObject {keys : List String} {j : JsonDocument} {fields : Fields}
    (h : readObject keys j = .ok fields) : j = .object fields := by
  unfold readObject at h
  split at h
  · split at h
    · cases h
      rfl
    · cases h
  · cases h

@[simp] theorem required_cons (c : Codec α) (key : String) (j : JsonDocument) (fields : Fields)
    (k : String) :
    c.required ((key, j) :: fields) k = if k = key then c.read j else c.required fields k := by
  unfold required
  by_cases hk : k = key
  · simp [hk]
  · rw [if_neg hk, List.lookup_cons, beq_false_of_ne hk]

@[simp] theorem defaulted_cons (c : Codec α) (key : String) (j : JsonDocument) (fields : Fields)
    (k : String) (default : α) : c.defaulted ((key, j) :: fields) k default =
      if k = key then c.read j else c.defaulted fields k default := by
  unfold defaulted
  by_cases hk : k = key
  · simp [hk]
  · rw [if_neg hk, List.lookup_cons, beq_false_of_ne hk]

end Codec

/-! ## Rewriting an object's fields -/

theorem lookup_mapValues (f : String → JsonDocument → JsonDocument) (fields : Fields) (k : String) :
    (fields.map fun e => (e.1, f e.1 e.2)).lookup k = (fields.lookup k).map (f k) := by
  induction fields with
  | nil => rfl
  | cons e fields ih =>
    rw [List.map_cons, List.lookup_cons, List.lookup_cons, ih]
    by_cases hk : k = e.1
    · rw [hk, beq_self_eq_true]
      rfl
    · rw [beq_false_of_ne hk]

theorem lookup_filter (keep : String × JsonDocument → Bool) {k : String}
    (h : ∀ j, keep (k, j) = true) (fields : Fields) :
    (fields.filter keep).lookup k = fields.lookup k := by
  induction fields with
  | nil => rfl
  | cons e fields ih =>
    by_cases hk : k = e.1
    · subst hk
      rw [List.filter_cons_of_pos (h e.2), List.lookup_cons, List.lookup_cons, ih]
    · rw [List.lookup_cons, beq_false_of_ne hk, List.filter_cons]
      split
      · rw [List.lookup_cons, beq_false_of_ne hk, ih]
      · exact ih

end InfraOps
