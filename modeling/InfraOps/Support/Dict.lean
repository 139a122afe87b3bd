import Mathlib.Data.List.Nodup
import Mathlib.Tactic.Common

/-!
# Dictionaries in insertion order

A dictionary as the list of its entries: writing a key replaces its value in place, or appends
the entry if the key is new.
-/

namespace InfraOps

abbrev Dict (κ β : Type) := List (κ × β)

namespace Dict

variable {κ β : Type} [DecidableEq κ]

def set : Dict κ β → κ → β → Dict κ β
  | [], key, value => [(key, value)]
  | entry :: entries, key, value =>
    if entry.1 = key then (key, value) :: entries else entry :: set entries key value

/-- `dict.get(key, default)`. -/
def get (dict : Dict κ β) (key : κ) (default : β) : β := (dict.lookup key).getD default

/-- `dict.setdefault(key, value)`. -/
def setDefault (dict : Dict κ β) (key : κ) (value : β) : Dict κ β :=
  if (dict.lookup key).isSome then dict else set dict key value

def keys (dict : Dict κ β) : List κ := dict.map Prod.fst

theorem lookup_set_self (dict : Dict κ β) (key : κ) (value : β) :
    (set dict key value).lookup key = some value := by
  induction dict with
  | nil => simp [set]
  | cons entry entries ih =>
    by_cases hkey : entry.1 = key
    · rw [set, if_pos hkey, List.lookup_cons_self]
    · have hne : (key == entry.1) = false := by simpa using Ne.symm hkey
      rw [set, if_neg hkey, List.lookup_cons, hne]
      exact ih

theorem lookup_set_of_ne {key other : κ} (h : other ≠ key) (dict : Dict κ β) (value : β) :
    (set dict key value).lookup other = dict.lookup other := by
  have hother : (other == key) = false := by simpa using h
  induction dict with
  | nil => rw [set, List.lookup_cons, hother]
  | cons entry entries ih =>
    by_cases hkey : entry.1 = key
    · obtain ⟨first, old⟩ := entry
      obtain rfl : first = key := hkey
      rw [set, if_pos rfl, List.lookup_cons, List.lookup_cons, hother]
    · rw [set, if_neg hkey, List.lookup_cons, List.lookup_cons, ih]

@[simp] theorem get_set_self (dict : Dict κ β) (key : κ) (value default : β) :
    (set dict key value).get key default = value := by
  rw [get, lookup_set_self, Option.getD_some]

theorem get_set_of_ne {key other : κ} (h : other ≠ key) (dict : Dict κ β) (value default : β) :
    (set dict key value).get other default = dict.get other default := by
  rw [get, lookup_set_of_ne h, get]

theorem mem_keys_set (dict : Dict κ β) (key other : κ) (value : β) :
    other ∈ (set dict key value).keys ↔ other = key ∨ other ∈ dict.keys := by
  induction dict with
  | nil => simp [set, keys]
  | cons entry entries ih =>
    simp only [keys] at ih ⊢
    by_cases hkey : entry.1 = key
    · subst hkey
      rw [set, if_pos rfl, List.map_cons, List.map_cons, List.mem_cons]
      tauto
    · rw [set, if_neg hkey, List.map_cons, List.mem_cons, ih, List.map_cons, List.mem_cons]
      tauto

theorem nodup_keys_set {dict : Dict κ β} (h : dict.keys.Nodup) (key : κ) (value : β) :
    (set dict key value).keys.Nodup := by
  induction dict with
  | nil => exact List.nodup_singleton key
  | cons entry entries ih =>
    obtain ⟨hfirst, hrest⟩ := List.nodup_cons.mp h
    by_cases hkey : entry.1 = key
    · subst hkey
      rw [set, if_pos rfl]
      exact h
    · rw [set, if_neg hkey]
      refine List.nodup_cons.mpr ⟨?_, ih hrest⟩
      intro hmem
      rcases (mem_keys_set entries key entry.1 value).mp hmem with heq | hmem
      · exact hkey heq
      · exact hfirst hmem

theorem exists_lookup_of_mem_keys {dict : Dict κ β} {key : κ} (h : key ∈ dict.keys) :
    ∃ value, dict.lookup key = some value := by
  induction dict with
  | nil => exact absurd h List.not_mem_nil
  | cons entry entries ih =>
    by_cases hkey : key = entry.1
    · subst hkey
      exact ⟨entry.2, List.lookup_cons_self⟩
    · have hne : (key == entry.1) = false := by simpa using hkey
      obtain ⟨value, hvalue⟩ := ih ((List.mem_cons.mp h).resolve_left hkey)
      exact ⟨value, by rw [List.lookup_cons, hne]; exact hvalue⟩

/-- The default does not matter where the key is there. -/
theorem get_of_mem_keys {dict : Dict κ β} {key : κ} (h : key ∈ dict.keys) (default other : β) :
    dict.get key default = dict.get key other := by
  obtain ⟨value, hvalue⟩ := exists_lookup_of_mem_keys h
  rw [get, get, hvalue, Option.getD_some, Option.getD_some]

/-- With distinct keys an entry is what its key is looked up to. -/
theorem mem_iff_lookup {dict : Dict κ β} (h : dict.keys.Nodup) (key : κ) (value : β) :
    (key, value) ∈ dict ↔ dict.lookup key = some value := by
  induction dict with
  | nil => simp
  | cons entry entries ih =>
    obtain ⟨first, old⟩ := entry
    obtain ⟨hfirst, hrest⟩ := List.nodup_cons.mp h
    by_cases hkey : key = first
    · subst hkey
      rw [List.lookup_cons_self, List.mem_cons, Prod.mk.injEq, Option.some.injEq]
      constructor
      · rintro (⟨-, heq⟩ | hmem)
        · exact heq.symm
        · exact absurd (List.mem_map_of_mem hmem) hfirst
      · exact fun heq => .inl ⟨rfl, heq.symm⟩
    · have hne : (key == first) = false := by simpa using hkey
      rw [List.lookup_cons, hne, List.mem_cons, Prod.mk.injEq]
      constructor
      · rintro (⟨heq, -⟩ | hmem)
        · exact absurd heq hkey
        · exact (ih hrest).mp hmem
      · exact fun hlookup => .inr ((ih hrest).mpr hlookup)

/-- The entries, key by key. -/
theorem map_keys_get {dict : Dict κ β} (h : dict.keys.Nodup) (default : β) :
    dict.keys.map (fun key => (key, dict.get key default)) = dict := by
  rw [keys, List.map_map]
  have hself : ∀ entry ∈ dict,
      ((fun key => (key, dict.get key default)) ∘ Prod.fst) entry = entry := by
    intro entry hentry
    rw [Function.comp_apply, get, (mem_iff_lookup h entry.1 entry.2).mp hentry, Option.getD_some]
  rw [List.map_congr_left hself, List.map_id']

end Dict

end InfraOps
