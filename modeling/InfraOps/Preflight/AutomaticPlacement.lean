import InfraOps.Preflight.Placement
import InfraOps.Support.Separated
import Mathlib.Data.List.Nodup

/-!
# What automatic placement chooses

With preferred datastores the first of them that takes the VM, without any the one with the
most free space, and nothing only where no candidate takes it.
-/

namespace InfraOps.Preflight

variable {casefold : Char → List Char} {showGb : Rat → String}

/-! ## The preferred names -/

/-- What a further name adds at the end. -/
def addedName (casefold : Char → List Char) (seen : List (List Char)) (raw : List Char) :
    List (List Char) :=
  if pyStrip raw ≠ [] ∧ foldName casefold (pyStrip raw) ∉ seen then [pyStrip raw] else []

theorem addedName_perm {seen seen' : List (List Char)} (h : seen.Perm seen') (raw : List Char) :
    addedName casefold seen raw = addedName casefold seen' raw :=
  if_congr (and_congr_right fun _ => not_congr h.mem_iff) rfl rfl

theorem normalizePreferred_cons (seen : List (List Char)) (raw : List Char)
    (names : List (List Char)) :
    normalizePreferred casefold seen (raw :: names) =
      addedName casefold seen raw ++
        normalizePreferred casefold
          ((addedName casefold seen raw).map (foldName casefold) ++ seen) names := by
  rw [normalizePreferred, addedName]
  by_cases h : pyStrip raw ≠ [] ∧ foldName casefold (pyStrip raw) ∉ seen
  · simp [h]
  · rw [if_neg h, if_neg (by simpa using h)]
    rfl

theorem normalizePreferred_concat (seen names : List (List Char)) (raw : List Char) :
    normalizePreferred casefold seen (names ++ [raw]) =
      normalizePreferred casefold seen names ++ addedName casefold
        ((normalizePreferred casefold seen names).map (foldName casefold) ++ seen) raw := by
  induction names generalizing seen with
  | nil =>
    rw [List.nil_append, normalizePreferred_cons, normalizePreferred, normalizePreferred,
      List.append_nil]
    rfl
  | cons name names ih =>
    rw [List.cons_append, normalizePreferred_cons, normalizePreferred_cons, ih, List.append_assoc,
      List.map_append, List.append_assoc (List.map _ _)]
    rw [addedName_perm (List.perm_append_comm_assoc _ _ seen)]

/-- Trimmed, not blank and not yet seen, and no two of them the same but for case. -/
structure Normalized (casefold : Char → List Char) (seen names : List (List Char)) : Prop where
  trimmed : ∀ name ∈ names, pyStrip name = name ∧ name ≠ []
  nodup : (names.map (foldName casefold)).Nodup
  fresh : ∀ name ∈ names, foldName casefold name ∉ seen

theorem normalized_normalizePreferred (seen names : List (List Char)) :
    Normalized casefold seen (normalizePreferred casefold seen names) := by
  induction names generalizing seen with
  | nil => exact ⟨nofun, List.nodup_nil, nofun⟩
  | cons raw names ih =>
    rw [normalizePreferred_cons, addedName]
    by_cases h : pyStrip raw ≠ [] ∧ foldName casefold (pyStrip raw) ∉ seen
    · rw [if_pos h]
      have hrest := ih (foldName casefold (pyStrip raw) :: seen)
      refine ⟨?_, ?_, ?_⟩
      · rintro name (_ | ⟨_, hname⟩)
        · exact ⟨trim_trim (p := pySpace) raw, h.1⟩
        · exact hrest.trimmed name hname
      · refine List.nodup_cons.mpr ⟨fun hmem => ?_, hrest.nodup⟩
        obtain ⟨name, hname, hfold⟩ := List.mem_map.mp hmem
        exact hrest.fresh name hname (hfold ▸ List.mem_cons_self)
      · rintro name (_ | ⟨_, hname⟩)
        · exact h.2
        · exact fun hseen => hrest.fresh name hname (List.mem_cons_of_mem _ hseen)
    · rw [if_neg h]
      exact ih seen

theorem Normalized.eq_self {seen names : List (List Char)} (h : Normalized casefold seen names) :
    normalizePreferred casefold seen names = names := by
  induction names generalizing seen with
  | nil => rfl
  | cons name names ih =>
    have hname := h.trimmed name List.mem_cons_self
    have hadded : addedName casefold seen name = [name] := by
      rw [addedName, hname.1, if_pos ⟨hname.2, h.fresh name List.mem_cons_self⟩]
    have hnodup := List.nodup_cons.mp h.nodup
    have hrest : Normalized casefold (foldName casefold name :: seen) names := {
      trimmed := fun other hother => h.trimmed other (List.mem_cons_of_mem _ hother)
      nodup := hnodup.2
      fresh := by
        intro other hother hseen
        rcases List.mem_cons.mp hseen with heq | hseen
        · exact hnodup.1 (heq ▸ List.mem_map_of_mem hother)
        · exact h.fresh other (List.mem_cons_of_mem _ hother) hseen }
    rw [normalizePreferred_cons, hadded]
    exact congrArg (name :: ·) (ih hrest)

theorem normalizePreferred_idempotent (names : List (List Char)) :
    normalizePreferred casefold [] (normalizePreferred casefold [] names) =
      normalizePreferred casefold [] names :=
  (normalized_normalizePreferred [] names).eq_self

/-! ## Which datastore -/

/-- Which entry a name stands for. -/
def Stands (casefold : Char → List Char) (entry : DatastoreOut) (name : List Char) : Prop :=
  foldName casefold entry.name = foldName casefold name

theorem byName_of_nodup {datastores : List DatastoreOut}
    (hnames : (datastores.map fun entry => foldName casefold entry.name).Nodup)
    {name : List Char} {entry : DatastoreOut} :
    byName casefold datastores name = some entry ↔
      entry ∈ datastores ∧ Stands casefold entry name := by
  rw [byName]
  constructor
  · intro h
    have hmem := List.mem_of_getLast? h
    simpa [Stands] using List.mem_filter.mp hmem
  · rintro ⟨hentry, hname⟩
    have hmem : entry ∈ datastores.filter fun other =>
        foldName casefold other.name = foldName casefold name :=
      List.mem_filter.mpr ⟨hentry, decide_eq_true hname⟩
    cases hlast : (datastores.filter fun other =>
        foldName casefold other.name = foldName casefold name).getLast? with
    | none =>
      rw [List.getLast?_eq_none_iff] at hlast
      exact absurd (hlast ▸ hmem) List.not_mem_nil
    | some other =>
      obtain ⟨hother, hfold⟩ := List.mem_filter.mp (List.mem_of_getLast? hlast)
      have hsame : foldName casefold other.name = foldName casefold entry.name :=
        (of_decide_eq_true hfold).trans hname.symm
      exact congrArg some (List.inj_on_of_nodup_map hnames hother hentry hsame)

/-- No datastore that one of the names stands for takes the VM. -/
def NoneTakes (casefold : Char → List Char) (datastores : List DatastoreOut) (requiredGb : Rat)
    (names : List (List Char)) : Prop :=
  ∀ name ∈ names, ∀ entry ∈ datastores, Stands casefold entry name → entry.takes requiredGb = false

/-- The first of the names that stands for a datastore that takes the VM, and that datastore. -/
def FirstTakes (casefold : Char → List Char) (datastores : List DatastoreOut) (requiredGb : Rat)
    (names : List (List Char)) (entry : DatastoreOut) : Prop :=
  ∃ before name after, names = before ++ name :: after ∧ Stands casefold entry name ∧
    NoneTakes casefold datastores requiredGb before

variable {datastores : List DatastoreOut} {requiredGb : Rat}

theorem noneTakes_cons {name : List Char} {names : List (List Char)} :
    NoneTakes casefold datastores requiredGb (name :: names) ↔
      (∀ entry ∈ datastores, Stands casefold entry name → entry.takes requiredGb = false) ∧
        NoneTakes casefold datastores requiredGb names :=
  List.forall_mem_cons

variable (casefold showGb datastores requiredGb) in
/-- The name at the front takes the VM, or the choice goes on as if it were not there. -/
theorem choosePreferred_cons (count rank : Nat) (problems : List String) (name : List Char)
    (names : List (List Char)) :
    (∃ entry, byName casefold datastores name = some entry ∧ entry.takes requiredGb = true ∧
      (choosePreferred casefold showGb datastores requiredGb count rank problems
        (name :: names)).datastore = some entry) ∨
    ((∀ entry, byName casefold datastores name = some entry → entry.takes requiredGb = false) ∧
      ∃ problems', (choosePreferred casefold showGb datastores requiredGb count rank problems
        (name :: names)).datastore = (choosePreferred casefold showGb datastores requiredGb count
          (rank + 1) problems' names).datastore) := by
  rw [choosePreferred]
  cases hname : byName casefold datastores name with
  | none => exact .inr ⟨nofun, _, rfl⟩
  | some found =>
    dsimp only
    by_cases haccessible : found.accessible = true
    · rw [if_neg (by simp [haccessible])]
      by_cases hfree : found.freeGb < requiredGb
      · rw [if_pos hfree]
        right
        refine ⟨?_, _, rfl⟩
        rintro entry ⟨⟩
        simp [DatastoreOut.takes, not_le.mpr hfree]
      · rw [if_neg hfree]
        left
        exact ⟨found, rfl, DatastoreOut.takes_iff.mpr ⟨haccessible, not_lt.mp hfree⟩, rfl⟩
    · rw [if_pos (by simp [haccessible])]
      right
      refine ⟨?_, _, rfl⟩
      rintro entry ⟨⟩
      simp [DatastoreOut.takes, haccessible]

variable (showGb requiredGb) in
theorem choosePreferred_spec
    (hnames : (datastores.map fun entry => foldName casefold entry.name).Nodup)
    (names : List (List Char)) (count rank : Nat) (problems : List String) :
    match (choosePreferred casefold showGb datastores requiredGb count rank problems
      names).datastore with
    | some entry => entry ∈ datastores ∧ entry.takes requiredGb = true ∧
        FirstTakes casefold datastores requiredGb names entry
    | none => NoneTakes casefold datastores requiredGb names := by
  induction names generalizing rank problems with
  | nil => exact nofun
  | cons name names ih =>
    rcases choosePreferred_cons casefold showGb datastores requiredGb count rank problems name
        names with ⟨entry, hentry, htakes, hchoice⟩ | ⟨hnone, problems', hchoice⟩
    · rw [hchoice]
      obtain ⟨hmem, hstands⟩ := (byName_of_nodup hnames).mp hentry
      exact ⟨hmem, htakes, [], name, names, rfl, hstands, nofun⟩
    · have hskipped : ∀ entry ∈ datastores, Stands casefold entry name →
          entry.takes requiredGb = false :=
        fun entry hentry hstands => hnone entry ((byName_of_nodup hnames).mpr ⟨hentry, hstands⟩)
      have hrest := ih (rank + 1) problems'
      rw [hchoice]
      split
      · rename_i entry heq
        rw [heq] at hrest
        obtain ⟨hmem, htakes, before, found, after, hsplit, hstands, hbefore⟩ := hrest
        refine ⟨hmem, htakes, name :: before, found, after, ?_, hstands, ?_⟩
        · rw [hsplit, List.cons_append]
        · exact noneTakes_cons.mpr ⟨hskipped, hbefore⟩
      · rename_i heq
        rw [heq] at hrest
        exact noneTakes_cons.mpr ⟨hskipped, hrest⟩

variable (showGb datastores requiredGb) in
theorem chooseLargest_spec :
    match (chooseLargest showGb datastores requiredGb).datastore with
    | some entry => entry ∈ datastores ∧ entry.takes requiredGb = true ∧
        ∀ other ∈ datastores, other.accessible = true → other.freeGb ≤ entry.freeGb
    | none => ∀ entry ∈ datastores, entry.takes requiredGb = false := by
  rw [chooseLargest]
  cases hbest : (datastores.filter (DatastoreOut.takes requiredGb)).argmax DatastoreOut.freeGb with
  | none =>
    intro entry hentry
    have hempty := List.filter_eq_nil_iff.mp (List.argmax_eq_none.mp hbest)
    exact Bool.eq_false_iff.mpr (hempty entry hentry)
  | some best =>
    obtain ⟨hmem, htakes⟩ := List.mem_filter.mp (List.argmax_mem hbest)
    refine ⟨hmem, htakes, fun other hother haccessible => ?_⟩
    by_cases hroom : requiredGb ≤ other.freeGb
    · have hfits := DatastoreOut.takes_iff.mpr ⟨haccessible, hroom⟩
      exact List.le_of_mem_argmax (List.mem_filter.mpr ⟨hother, hfits⟩) hbest
    · exact (not_le.mp hroom).le.trans (DatastoreOut.takes_iff.mp htakes).2

/-- A datastore that the VM may be put on: one that is listed, or any without a list. -/
def Candidate (casefold : Char → List Char) (ordered : List (List Char)) (entry : DatastoreOut) :
    Prop :=
  ordered = [] ∨ ∃ name ∈ ordered, Stands casefold entry name

/-- The chosen datastore, and the preferred names that lead to it. -/
structure Placed (casefold : Char → List Char) (datastores : List DatastoreOut) (requiredGb : Rat)
    (ordered : List (List Char)) (entry : DatastoreOut) : Prop where
  mem : entry ∈ datastores
  accessible : entry.accessible = true
  room : requiredGb ≤ entry.freeGb
  first : ordered ≠ [] → FirstTakes casefold datastores requiredGb ordered entry
  largest : ordered = [] → ∀ other ∈ datastores, other.accessible = true →
    other.freeGb ≤ entry.freeGb

variable (showGb) in
theorem chooseAutomaticDatastore_spec
    (hnames : (datastores.map fun entry => foldName casefold entry.name).Nodup)
    (preferred : List (List Char)) (requiredGb : Rat) :
    match (chooseAutomaticDatastore casefold showGb datastores preferred requiredGb).datastore with
    | some entry => Placed casefold datastores requiredGb
        (normalizePreferred casefold [] preferred) entry
    | none => ∀ entry ∈ datastores, Candidate casefold
        (normalizePreferred casefold [] preferred) entry → entry.takes requiredGb = false := by
  rw [chooseAutomaticDatastore]
  cases normalizePreferred casefold [] preferred with
  | nil =>
    have h := chooseLargest_spec showGb datastores requiredGb
    dsimp only
    split at h
    · obtain ⟨hmem, htakes, hmost⟩ := h
      obtain ⟨haccessible, hroom⟩ := DatastoreOut.takes_iff.mp htakes
      exact ⟨hmem, haccessible, hroom, fun h => absurd rfl h, fun _ => hmost⟩
    · exact fun entry hentry _ => h entry hentry
  | cons name names =>
    have h := choosePreferred_spec showGb requiredGb hnames (name :: names)
      (name :: names).length 0 []
    dsimp only
    split at h
    · obtain ⟨hmem, htakes, hfirst⟩ := h
      obtain ⟨haccessible, hroom⟩ := DatastoreOut.takes_iff.mp htakes
      exact ⟨hmem, haccessible, hroom, fun _ => hfirst, nofun⟩
    · intro entry hentry hcandidate
      obtain ⟨listed, hlisted, hstands⟩ := hcandidate.resolve_left (by simp)
      exact h listed hlisted entry hentry hstands

variable (showGb) in
/-- Placement is sound and complete, on names that are kept in their first order. -/
theorem automaticPlacement_correct
    (hnames : (datastores.map fun entry => foldName casefold entry.name).Nodup)
    (preferred : List (List Char)) (requiredGb : Rat) :
    (∀ entry, (chooseAutomaticDatastore casefold showGb datastores preferred
        requiredGb).datastore = some entry →
      Placed casefold datastores requiredGb (normalizePreferred casefold [] preferred) entry) ∧
    ((chooseAutomaticDatastore casefold showGb datastores preferred
        requiredGb).datastore = none ↔
      ∀ entry ∈ datastores, Candidate casefold (normalizePreferred casefold [] preferred) entry →
        ¬(entry.accessible = true ∧ requiredGb ≤ entry.freeGb)) ∧
    normalizePreferred casefold [] (normalizePreferred casefold [] preferred) =
      normalizePreferred casefold [] preferred ∧
    ((normalizePreferred casefold [] preferred).map (foldName casefold)).Nodup ∧
    ∀ raw, normalizePreferred casefold [] (preferred ++ [raw]) =
      normalizePreferred casefold [] preferred ++
        if pyStrip raw ≠ [] ∧ foldName casefold (pyStrip raw) ∉
            (normalizePreferred casefold [] preferred).map (foldName casefold) then [pyStrip raw]
        else [] := by
  have hspec := chooseAutomaticDatastore_spec showGb hnames preferred requiredGb
  refine ⟨?_, ⟨?_, ?_⟩, normalizePreferred_idempotent preferred,
    (normalized_normalizePreferred [] preferred).nodup, ?_⟩
  · intro entry hentry
    rw [hentry] at hspec
    exact hspec
  · intro hnone entry hentry hcandidate htakes
    rw [hnone] at hspec
    exact absurd (DatastoreOut.takes_iff.mpr htakes)
      (Bool.eq_false_iff.mp (hspec entry hentry hcandidate))
  · intro hnone
    cases hchoice : (chooseAutomaticDatastore casefold showGb datastores preferred
        requiredGb).datastore with
    | none => rfl
    | some entry =>
      rw [hchoice] at hspec
      refine absurd ⟨hspec.accessible, hspec.room⟩ (hnone entry hspec.mem ?_)
      by_cases hempty : normalizePreferred casefold [] preferred = []
      · exact .inl hempty
      · obtain ⟨before, name, after, hsplit, hstands, -⟩ := hspec.first hempty
        exact .inr ⟨name, by simp [hsplit], hstands⟩
  · intro raw
    rw [normalizePreferred_concat, List.append_nil]
    rfl

/-- Two datastores with room, of which the slower one has more. -/
def twoTiers : List DatastoreOut :=
  [⟨"ds-1".toList, "SSD-01".toList, 500, true⟩, ⟨"ds-2".toList, "Archive".toList, 4000, true⟩]

theorem automaticPlacement_correct_twoTiers :
    ∃ entry, (chooseAutomaticDatastore (fun c => [c.toLower]) (fun _ => "") twoTiers
        [" ssd-01".toList] 200).datastore = some entry ∧
      entry.name = "SSD-01".toList ∧
      Placed (fun c => [c.toLower]) twoTiers 200
        (normalizePreferred (fun c => [c.toLower]) [] [" ssd-01".toList]) entry := by
  have hchoice : (chooseAutomaticDatastore (fun c => [c.toLower]) (fun _ => "") twoTiers
      [" ssd-01".toList] 200).datastore = some ⟨"ds-1".toList, "SSD-01".toList, 500, true⟩ := by
    decide +kernel
  have hnames : (twoTiers.map fun entry => foldName (fun c => [c.toLower]) entry.name).Nodup := by
    decide
  exact ⟨_, hchoice, rfl,
    (automaticPlacement_correct (fun _ => "") hnames [" ssd-01".toList] 200).1 _ hchoice⟩

end InfraOps.Preflight
