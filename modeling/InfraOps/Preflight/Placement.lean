import InfraOps.Core.Text
import Mathlib.Algebra.Order.Ring.Rat
import Mathlib.Data.List.MinMax

/-!
# Automatic storage placement

`app/services/provisioning/placement.py`. Free space is compared and shown, and never computed
with, so that a rational number stands for the float.
-/

namespace InfraOps.Preflight

structure DatastoreOut where
  id : List Char
  name : List Char
  freeGb : Rat
  accessible : Bool
  deriving DecidableEq

/-- It can be reached and has room. -/
def DatastoreOut.takes (requiredGb : Rat) (entry : DatastoreOut) : Bool :=
  entry.accessible && requiredGb ≤ entry.freeGb

/-- `max((entry.free_gb for entry in datastores if entry.accessible), default=0.0)`. -/
def largestFree (datastores : List DatastoreOut) : Rat :=
  (((datastores.filter DatastoreOut.accessible).map DatastoreOut.freeGb).max?).getD 0

structure DatastoreChoice where
  datastore : Option DatastoreOut
  /-- Why this datastore was chosen, or why none could be. -/
  detail : String
  preferredConfigured : Bool

section

variable (casefold : Char → List Char) (showGb : Rat → String)

/-- `name.casefold()`. -/
def foldName (name : List Char) : List Char := name.flatMap casefold

/-- `normalize_preferred`, after the names that it has seen. -/
def normalizePreferred (seen : List (List Char)) : List (List Char) → List (List Char)
  | [] => []
  | raw :: names =>
    let name := pyStrip raw
    if name ≠ [] && !seen.contains (foldName casefold name) then
      name :: normalizePreferred (foldName casefold name :: seen) names
    else normalizePreferred seen names

/-- `by_name.get(name.casefold())`; of two datastores of that name, the later one. -/
def byName (datastores : List DatastoreOut) (name : List Char) : Option DatastoreOut :=
  (datastores.filter fun entry => foldName casefold entry.name = foldName casefold name).getLast?

/-- The first of the preferred datastores that takes the VM, `rank` of them tried before. -/
def choosePreferred (datastores : List DatastoreOut) (requiredGb : Rat) (count : Nat) :
    Nat → List String → List (List Char) → DatastoreChoice
  | _, problems, [] => {
      datastore := none
      detail := s!"None of the preferred datastores can take the {showGb requiredGb} GB this " ++
        "VM needs: " ++ "; ".intercalate problems ++ "."
      preferredConfigured := true }
  | rank, problems, name :: names =>
    match byName casefold datastores name with
    | none => choosePreferred datastores requiredGb count (rank + 1)
        (problems ++ [s!"{String.ofList name} is not connected to this compute target"]) names
    | some entry =>
      if !entry.accessible then choosePreferred datastores requiredGb count (rank + 1)
        (problems ++ [s!"{String.ofList entry.name} is not accessible"]) names
      else if entry.freeGb < requiredGb then choosePreferred datastores requiredGb count (rank + 1)
        (problems ++ [s!"{String.ofList entry.name} has {showGb entry.freeGb} GB free"]) names
      else {
        datastore := some entry
        detail := s!"{String.ofList entry.name} (preferred datastore {rank + 1} of {count}, " ++
          s!"{showGb entry.freeGb} GB free)"
        preferredConfigured := true }

/-- The accessible datastore with the most free space. -/
def chooseLargest (datastores : List DatastoreOut) (requiredGb : Rat) : DatastoreChoice :=
  match (datastores.filter (DatastoreOut.takes requiredGb)).argmax DatastoreOut.freeGb with
  | none => {
      datastore := none
      detail := s!"No accessible datastore has {showGb requiredGb} GB free (largest: " ++
        s!"{showGb (largestFree datastores)} GB)."
      preferredConfigured := false }
  | some best => {
      datastore := some best
      detail := s!"{String.ofList best.name} ({showGb best.freeGb} GB free): the datastore with " ++
        "the most free space, because no preferred datastores are configured"
      preferredConfigured := false }

def chooseAutomaticDatastore (datastores : List DatastoreOut) (preferred : List (List Char))
    (requiredGb : Rat) : DatastoreChoice :=
  match normalizePreferred casefold [] preferred with
  | [] => chooseLargest showGb datastores requiredGb
  | name :: names =>
    choosePreferred casefold showGb datastores requiredGb (name :: names).length 0 []
      (name :: names)

end

/-! ## What is chosen -/

@[simp] theorem DatastoreOut.takes_iff {requiredGb : Rat} {entry : DatastoreOut} :
    entry.takes requiredGb = true ↔ entry.accessible = true ∧ requiredGb ≤ entry.freeGb := by
  simp [takes]

theorem le_largestFree {datastores : List DatastoreOut} {entry : DatastoreOut}
    (h : entry ∈ datastores) (haccessible : entry.accessible = true) :
    entry.freeGb ≤ largestFree datastores := by
  have hmem : entry.freeGb ∈ (datastores.filter DatastoreOut.accessible).map DatastoreOut.freeGb :=
    List.mem_map_of_mem (List.mem_filter.mpr ⟨h, haccessible⟩)
  obtain ⟨most, hmost⟩ := Option.isSome_iff_exists.mp (List.isSome_max?_of_mem hmem)
  rw [largestFree, hmost]
  exact (List.max?_le_iff hmost).mp le_rfl _ hmem

variable {casefold : Char → List Char} {showGb : Rat → String}

theorem mem_of_byName {datastores : List DatastoreOut} {name : List Char} {entry : DatastoreOut}
    (h : byName casefold datastores name = some entry) : entry ∈ datastores :=
  List.mem_of_mem_filter (List.mem_of_getLast? h)

theorem choosePreferred_takes {datastores : List DatastoreOut} {requiredGb : Rat} {count rank : Nat}
    {problems : List String} {names : List (List Char)} {entry : DatastoreOut}
    (h : (choosePreferred casefold showGb datastores requiredGb count rank problems
      names).datastore = some entry) :
    entry ∈ datastores ∧ entry.takes requiredGb = true := by
  induction names generalizing rank problems with
  | nil => cases h
  | cons name names ih =>
    unfold choosePreferred at h
    cases hname : byName casefold datastores name with
    | none =>
      rw [hname] at h
      exact ih h
    | some found =>
      rw [hname] at h
      dsimp only at h
      by_cases haccessible : found.accessible = true
      · by_cases hfree : found.freeGb < requiredGb
        · rw [if_neg (by simp [haccessible]), if_pos hfree] at h
          exact ih h
        · rw [if_neg (by simp [haccessible]), if_neg hfree] at h
          cases h
          exact ⟨mem_of_byName hname, DatastoreOut.takes_iff.mpr ⟨haccessible, not_lt.mp hfree⟩⟩
      · rw [if_pos (by simp [haccessible])] at h
        exact ih h

theorem chooseLargest_takes {datastores : List DatastoreOut} {requiredGb : Rat}
    {entry : DatastoreOut}
    (h : (chooseLargest showGb datastores requiredGb).datastore = some entry) :
    entry ∈ datastores ∧ entry.takes requiredGb = true := by
  unfold chooseLargest at h
  split at h
  · cases h
  · rename_i best hbest
    cases h
    exact List.mem_filter.mp (List.argmax_mem hbest)

theorem chooseAutomaticDatastore_takes {datastores : List DatastoreOut}
    {preferred : List (List Char)} {requiredGb : Rat} {entry : DatastoreOut}
    (h : (chooseAutomaticDatastore casefold showGb datastores preferred requiredGb).datastore =
      some entry) : entry ∈ datastores ∧ entry.takes requiredGb = true := by
  unfold chooseAutomaticDatastore at h
  split at h
  · exact chooseLargest_takes h
  · exact choosePreferred_takes h

end InfraOps.Preflight
