import InfraOps.Core.Metrics
import Mathlib.Algebra.BigOperators.Group.List.Basic
import Mathlib.Data.List.Induction
import Mathlib.Order.MinMax

/-!
# What a histogram counts

The buckets of a label set count every observation that their bound covers, unless a smaller
observation follows a larger one: `observe` raises the buckets above the one it counts in only
to that bucket's count.
-/

namespace InfraOps.Metrics

open Exposition

namespace Histogram

variable {V : Type} [LinearOrder V]

/-! ## The two loops -/

theorem get_setDefault (counts : Dict V Nat) (bound other : V) :
    (counts.setDefault bound (counts.get bound 0)).get other 0 = counts.get other 0 := by
  rw [Dict.setDefault]
  split
  · rfl
  · by_cases hother : other = bound
    · subst hother
      exact Dict.get_set_self counts other _ 0
    · exact Dict.get_set_of_ne hother counts _ 0

/-- The first bucket that covers the value counts one more. -/
theorem get_countInto (value : V) (bounds : List V) (seen : Bool) (counts : Dict V Nat)
    (bound : V) :
    (countInto value bounds seen counts).get bound 0 = counts.get bound 0 +
      if seen = false ∧ bounds.find? (value ≤ ·) = some bound then 1 else 0 := by
  induction bounds generalizing seen counts with
  | nil => simp [countInto]
  | cons first bounds ih =>
    by_cases hfirst : value ≤ first ∧ seen = false
    · rw [countInto, if_pos hfirst, ih, List.find?_cons_of_pos (by simpa using hfirst.1)]
      by_cases hbound : first = bound
      · subst hbound
        simp [hfirst.2]
      · rw [Dict.get_set_of_ne (Ne.symm hbound)]
        simp [hbound]
    · rw [countInto, if_neg hfirst, ih, get_setDefault]
      cases seen with
      | true => simp
      | false =>
        have hvalue : ¬ value ≤ first := fun h => hfirst ⟨h, rfl⟩
        rw [List.find?_cons_of_neg (by simpa using hvalue)]

theorem get_runningMax_of_notMem {bounds : List V} {bound : V} (h : bound ∉ bounds)
    (running : Nat) (counts : Dict V Nat) :
    (runningMax bounds running counts).get bound 0 = counts.get bound 0 := by
  induction bounds generalizing running counts with
  | nil => rfl
  | cons first bounds ih =>
    obtain ⟨hfirst, hrest⟩ := not_or.mp (List.mem_cons.not.mp h)
    rw [runningMax, ih hrest, Dict.get_set_of_ne hfirst]

/-- Every bucket ends as the greatest of the buckets up to it. -/
theorem runningMax_spec {bounds : List V} (hsorted : bounds.Pairwise (· < ·)) {bound : V}
    (hbound : bound ∈ bounds) (running : Nat) (counts : Dict V Nat) :
    running ≤ (runningMax bounds running counts).get bound 0 ∧
      (∀ other ∈ bounds, other ≤ bound →
        counts.get other 0 ≤ (runningMax bounds running counts).get bound 0) ∧
      ((runningMax bounds running counts).get bound 0 = running ∨
        ∃ other ∈ bounds, other ≤ bound ∧
          (runningMax bounds running counts).get bound 0 = counts.get other 0) := by
  induction bounds generalizing running counts with
  | nil => exact absurd hbound List.not_mem_nil
  | cons first bounds ih =>
    obtain ⟨hless, hrest⟩ := List.pairwise_cons.mp hsorted
    have hnew : first ∉ bounds := fun hmem => lt_irrefl first (hless first hmem)
    have hmax : (if running < counts.get first 0 then counts.get first 0 else running) =
        max running (counts.get first 0) := by
      rw [max_def_lt]
    rw [runningMax]
    simp only [hmax]
    rcases List.mem_cons.mp hbound with rfl | hbound
    · rw [get_runningMax_of_notMem hnew, Dict.get_set_self]
      refine ⟨le_max_left _ _, ?_, ?_⟩
      · intro other hother hle
        rcases List.mem_cons.mp hother with rfl | hother
        · exact le_max_right _ _
        · exact absurd hle (not_le.mpr (hless other hother))
      · rcases max_choice running (counts.get bound 0) with h | h
        · exact .inl h
        · exact .inr ⟨bound, List.mem_cons_self, le_refl _, h⟩
    · obtain ⟨hrunning, hothers, hchoice⟩ := ih hrest hbound
        (max running (counts.get first 0)) (counts.set first (max running (counts.get first 0)))
      have hget : ∀ other ∈ bounds,
          (counts.set first (max running (counts.get first 0))).get other 0 =
            counts.get other 0 := by
        intro other hother
        exact Dict.get_set_of_ne (hless other hother).ne' _ _ _
      refine ⟨(le_max_left _ _).trans hrunning, ?_, ?_⟩
      · intro other hother hle
        rcases List.mem_cons.mp hother with rfl | hother
        · exact (le_max_right _ _).trans hrunning
        · rw [← hget other hother]
          exact hothers other hother hle
      · rcases hchoice with h | ⟨other, hother, hle, h⟩
        · rcases max_choice running (counts.get first 0) with hmax | hmax
          · exact .inl (h.trans hmax)
          · exact .inr ⟨first, List.mem_cons_self, (hless bound hbound).le, h.trans hmax⟩
        · rw [hget other hother] at h
          exact .inr ⟨other, List.mem_cons_of_mem _ hother, hle, h⟩

/-! ## One observation -/

section OneObservation

variable {buckets : List V} (hsorted : buckets.Pairwise (· < ·)) {counts : Dict V Nat} {value : V}

include hsorted

/-- No bucket counts less than one below it. -/
def Rising (buckets : List V) (counts : Dict V Nat) : Prop :=
  ∀ bound ∈ buckets, ∀ other ∈ buckets, other ≤ bound →
    counts.get other 0 ≤ counts.get bound 0

/-- The bucket that counts a value is the least that covers it. -/
theorem find?_le {first bound : V} (hfind : buckets.find? (value ≤ ·) = some first)
    (hbound : bound ∈ buckets) : value ≤ bound ↔ first ≤ bound := by
  obtain ⟨hvalue, before, later, rfl, hbefore⟩ := List.find?_eq_some_iff_append.mp hfind
  have hvalue : value ≤ first := by simpa using hvalue
  refine ⟨fun hle => ?_, hvalue.trans⟩
  rcases List.mem_append.mp hbound with hmem | hmem
  · have hnot := hbefore bound hmem
    simp [hle] at hnot
  · rcases List.mem_cons.mp hmem with rfl | hmem
    · exact le_refl _
    · have hlater := (List.pairwise_append.mp hsorted).2.1
      exact ((List.pairwise_cons.mp hlater).1 bound hmem).le

/-- What an observation makes of every bucket's count. -/
theorem get_countBuckets (hrising : Rising buckets counts) {bound : V} (hbound : bound ∈ buckets) :
    (countBuckets buckets counts value).get bound 0 =
      match buckets.find? (value ≤ ·) with
      | none => counts.get bound 0
      | some first =>
        if first ≤ bound then max (counts.get bound 0) (counts.get first 0 + 1)
        else counts.get bound 0 := by
  obtain ⟨-, hothers, hchoice⟩ :=
    runningMax_spec hsorted hbound 0 (countInto value buckets false counts)
  have hself := hothers bound hbound (le_refl _)
  rw [countBuckets]
  cases hfind : buckets.find? (value ≤ ·) with
  | none =>
    have hget : ∀ other, (countInto value buckets false counts).get other 0 =
        counts.get other 0 := by
      intro other
      rw [get_countInto, hfind]
      simp
    simp only [hget] at hothers hchoice hself ⊢
    refine le_antisymm ?_ hself
    rcases hchoice with h | ⟨other, hother, hle, h⟩
    · rw [h]; exact Nat.zero_le _
    · rw [h]; exact hrising bound hbound other hother hle
  | some first =>
    have hfirst : first ∈ buckets := List.mem_of_find?_eq_some hfind
    have hget : ∀ other, (countInto value buckets false counts).get other 0 =
        counts.get other 0 + if first = other then 1 else 0 := by
      intro other
      rw [get_countInto, hfind]
      simp
    simp only [hget] at hothers hchoice hself ⊢
    by_cases hle : first ≤ bound
    · rw [if_pos hle]
      have hat := hothers first hfirst hle
      rw [if_pos rfl] at hat
      refine le_antisymm ?_ (max_le ((Nat.le_add_right _ _).trans hself) hat)
      rcases hchoice with h | ⟨other, hother, hother_le, h⟩
      · rw [h]; exact Nat.zero_le _
      · rw [h]
        split
        · rename_i heq
          subst heq
          exact le_max_right _ _
        · exact (hrising bound hbound other hother hother_le).trans (le_max_left _ _)
    · rw [if_neg hle]
      have hne : ∀ other, other ≤ bound → first ≠ other := by
        intro other hother heq
        exact hle (heq ▸ hother)
      rw [if_neg (hne bound (le_refl _)), Nat.add_zero] at hself
      refine le_antisymm ?_ hself
      rcases hchoice with h | ⟨other, hother, hother_le, h⟩
      · rw [h]; exact Nat.zero_le _
      · rw [h, if_neg (hne other hother_le), Nat.add_zero]
        exact hrising bound hbound other hother hother_le

theorem rising_countBuckets (hrising : Rising buckets counts) :
    Rising buckets (countBuckets buckets counts value) := by
  intro bound hbound other hother hle
  have hcount := hrising bound hbound other hother hle
  rw [get_countBuckets hsorted hrising hbound, get_countBuckets hsorted hrising hother]
  cases buckets.find? (value ≤ ·) with
  | none => exact hcount
  | some first =>
    by_cases hfirst : first ≤ other
    · simp only [if_pos hfirst, if_pos (hfirst.trans hle)]
      exact max_le_max hcount (le_refl _)
    · simp only [if_neg hfirst]
      split
      · exact hcount.trans (le_max_left _ _)
      · exact hcount

end OneObservation

/-! ## Any number of observations of a label set -/

/-- The true count of a bucket. -/
def covered (values : List V) (bound : V) : Nat := values.countP (· ≤ bound)

/-- After a value that some bucket covers, no smaller one that a bucket tells apart. -/
def FollowsOn (buckets : List V) (value later : V) : Prop :=
  (∃ top ∈ buckets, value ≤ top) → ∀ bound ∈ buckets, later ≤ bound → value ≤ bound

instance (buckets : List V) (value later : V) : Decidable (FollowsOn buckets value later) :=
  inferInstanceAs (Decidable ((∃ top ∈ buckets, value ≤ top) →
    ∀ bound ∈ buckets, later ≤ bound → value ≤ bound))

theorem covered_mono (values : List V) {bound other : V} (h : other ≤ bound) :
    covered values other ≤ covered values bound := by
  refine List.countP_mono_left fun value _ hvalue => ?_
  simp only [decide_eq_true_eq] at hvalue ⊢
  exact hvalue.trans h

/-- Two bounds cover as many values only if they cover the same ones. -/
theorem covered_eq_iff (values : List V) {bound other : V} (h : other ≤ bound) :
    covered values bound = covered values other ↔
      ∀ value ∈ values, value ≤ bound → value ≤ other := by
  constructor
  · intro heq value hvalue hle
    have hsub : (values.filter (· ≤ other)).Sublist (values.filter (· ≤ bound)) := by
      refine List.monotone_filter_right _ fun value hvalue => ?_
      simp only [decide_eq_true_eq] at hvalue ⊢
      exact hvalue.trans h
    have hsame := hsub.eq_of_length (by
      rw [← List.countP_eq_length_filter, ← List.countP_eq_length_filter]
      exact heq.symm)
    have hmem : value ∈ values.filter (· ≤ bound) :=
      List.mem_filter.mpr ⟨hvalue, by simpa using hle⟩
    rw [← hsame] at hmem
    simpa using (List.mem_filter.mp hmem).2
  · intro hall
    refine List.countP_congr fun value hvalue => ?_
    simp only [decide_eq_true_eq]
    exact ⟨hall value hvalue, fun hle => hle.trans h⟩

theorem covered_append (values : List V) (value bound : V) :
    covered (values ++ [value]) bound = covered values bound + if value ≤ bound then 1 else 0 := by
  rw [covered, List.countP_append, List.countP_singleton]
  simp [covered]

variable {buckets : List V}

/-- What the observations of one label set leave in its buckets. -/
def bucketCounts (buckets : List V) (values : List V) : Dict V Nat :=
  values.foldl (countBuckets buckets) []

theorem bucketCounts_append (values : List V) (value : V) :
    bucketCounts buckets (values ++ [value]) =
      countBuckets buckets (bucketCounts buckets values) value := by
  rw [bucketCounts, List.foldl_append]
  rfl

section Truth

variable (hsorted : buckets.Pairwise (· < ·))

include hsorted

theorem rising_bucketCounts (values : List V) : Rising buckets (bucketCounts buckets values) := by
  induction values using List.reverseRecOn with
  | nil => exact fun _ _ _ _ _ => le_refl _
  | append_singleton values value ih =>
    rw [bucketCounts_append]
    exact rising_countBuckets hsorted ih

/-- A bucket never counts too much. -/
theorem bucketCounts_le (values : List V) {bound : V} (hbound : bound ∈ buckets) :
    (bucketCounts buckets values).get bound 0 ≤ covered values bound := by
  induction values using List.reverseRecOn generalizing bound with
  | nil => exact Nat.le_refl 0
  | append_singleton values value ih =>
    rw [bucketCounts_append, covered_append,
      get_countBuckets hsorted (rising_bucketCounts hsorted values) hbound]
    cases hfind : buckets.find? (value ≤ ·) with
    | none => exact (ih hbound).trans (Nat.le_add_right _ _)
    | some first =>
      have hiff := find?_le hsorted hfind hbound
      by_cases hle : first ≤ bound
      · have hfirst := ih (List.mem_of_find?_eq_some hfind)
        have hmono := covered_mono values hle
        have hself := ih hbound
        simp only [if_pos hle, if_pos (hiff.mpr hle)]
        omega
      · simp only [if_neg hle]
        exact (ih hbound).trans (Nat.le_add_right _ _)

/-- A value that is counted right, in buckets that were right, finds none of the earlier
ones between its bucket and the last. -/
theorem covered_eq_first_iff (values : List V) (value : V) :
    (∀ first, buckets.find? (value ≤ ·) = some first → ∀ bound ∈ buckets, first ≤ bound →
      covered values bound = covered values first) ↔
        ∀ earlier ∈ values, FollowsOn buckets earlier value := by
  constructor
  · intro h earlier hearlier
    rintro ⟨top, htop, hcovered⟩ bound hbound hle
    cases hfind : buckets.find? (value ≤ ·) with
    | none =>
      have hnot := List.find?_eq_none.mp hfind bound hbound
      exact absurd hle (by simpa using hnot)
    | some first =>
      have hfirst := (find?_le hsorted hfind hbound).mp hle
      rcases le_total first top with htop_le | htop_le
      · have hsame := h first hfind top htop htop_le
        exact ((covered_eq_iff values htop_le).mp hsame earlier hearlier hcovered).trans hfirst
      · exact hcovered.trans (htop_le.trans hfirst)
  · intro h first hfind bound hbound hle
    rw [covered_eq_iff values hle]
    intro earlier hearlier hcovered
    have hfirst : first ∈ buckets := List.mem_of_find?_eq_some hfind
    have hvalue := (find?_le hsorted hfind hfirst).mpr (le_refl first)
    exact h earlier hearlier ⟨bound, hbound, hcovered⟩ first hfirst hvalue

/-- One more value keeps the buckets right exactly if they were and those from its own bucket
on had the same count. -/
theorem countBuckets_eq_iff (values : List V) (value : V) :
    (∀ bound ∈ buckets, (bucketCounts buckets (values ++ [value])).get bound 0 =
      covered (values ++ [value]) bound) ↔
      (∀ bound ∈ buckets, (bucketCounts buckets values).get bound 0 = covered values bound) ∧
        ∀ first, buckets.find? (value ≤ ·) = some first → ∀ bound ∈ buckets, first ≤ bound →
          covered values bound = covered values first := by
  have hrising := rising_bucketCounts hsorted values
  cases hfind : buckets.find? (value ≤ ·) with
  | none =>
    have hnot : ∀ bound ∈ buckets, ¬ value ≤ bound := by
      intro bound hbound
      simpa using List.find?_eq_none.mp hfind bound hbound
    have hsame : ∀ bound ∈ buckets,
        ((bucketCounts buckets (values ++ [value])).get bound 0 =
          covered (values ++ [value]) bound ↔
            (bucketCounts buckets values).get bound 0 = covered values bound) := by
      intro bound hbound
      rw [bucketCounts_append, covered_append, get_countBuckets hsorted hrising hbound, hfind,
        if_neg (hnot bound hbound), Nat.add_zero]
    constructor
    · intro h
      exact ⟨fun bound hbound => (hsame bound hbound).mp (h bound hbound), fun _ hnone => by
        cases hnone⟩
    · intro h bound hbound
      exact (hsame bound hbound).mpr (h.1 bound hbound)
  | some first =>
    have hfirst : first ∈ buckets := List.mem_of_find?_eq_some hfind
    -- from its own bucket on the value adds one, below it nothing
    have habove : ∀ bound ∈ buckets, first ≤ bound →
        (bucketCounts buckets (values ++ [value])).get bound 0 =
            max ((bucketCounts buckets values).get bound 0)
              ((bucketCounts buckets values).get first 0 + 1) ∧
          covered (values ++ [value]) bound = covered values bound + 1 := by
      intro bound hbound hle
      rw [bucketCounts_append, covered_append, get_countBuckets hsorted hrising hbound, hfind]
      exact ⟨if_pos hle, by rw [if_pos ((find?_le hsorted hfind hbound).mpr hle)]⟩
    have hbelow : ∀ bound ∈ buckets, ¬ first ≤ bound →
        (bucketCounts buckets (values ++ [value])).get bound 0 =
            (bucketCounts buckets values).get bound 0 ∧
          covered (values ++ [value]) bound = covered values bound := by
      intro bound hbound hle
      rw [bucketCounts_append, covered_append, get_countBuckets hsorted hrising hbound, hfind]
      exact ⟨if_neg hle, by rw [if_neg (mt (find?_le hsorted hfind hbound).mp hle), Nat.add_zero]⟩
    have hfirstCount := bucketCounts_le hsorted values hfirst
    constructor
    · intro h
      -- a bucket above the value's own one is raised no further than that one
      have hright : ∀ bound ∈ buckets, first ≤ bound →
          (bucketCounts buckets values).get bound 0 = covered values bound ∧
            covered values bound = covered values first := by
        intro bound hbound hle
        obtain ⟨hcount, hcovered⟩ := habove bound hbound hle
        have heq := h bound hbound
        rw [hcount, hcovered] at heq
        have hself := bucketCounts_le hsorted values hbound
        have hmono := covered_mono values hle
        have hrise := hrising bound hbound first hfirst hle
        omega
      refine ⟨fun bound hbound => ?_, ?_⟩
      · by_cases hle : first ≤ bound
        · exact (hright bound hbound hle).1
        · obtain ⟨hcount, hcovered⟩ := hbelow bound hbound hle
          rw [← hcount, ← hcovered]
          exact h bound hbound
      · intro other hother bound hbound hle
        cases hother
        exact (hright bound hbound hle).2
    · rintro ⟨hright, hsame⟩ bound hbound
      by_cases hle : first ≤ bound
      · obtain ⟨hcount, hcovered⟩ := habove bound hbound hle
        rw [hcount, hcovered, hright bound hbound, hright first hfirst,
          hsame first rfl bound hbound hle]
        exact max_eq_right (Nat.le_succ _)
      · obtain ⟨hcount, hcovered⟩ := hbelow bound hbound hle
        rw [hcount, hcovered]
        exact hright bound hbound

/-- **When the buckets are right**: an undercount is never made good. -/
theorem bucketCounts_eq_iff (values : List V) :
    (∀ bound ∈ buckets, (bucketCounts buckets values).get bound 0 = covered values bound) ↔
      values.Pairwise (FollowsOn buckets) := by
  induction values using List.reverseRecOn with
  | nil => exact iff_of_true (fun _ _ => rfl) List.Pairwise.nil
  | append_singleton values value ih =>
    rw [countBuckets_eq_iff hsorted, ih, covered_eq_first_iff hsorted, List.pairwise_append]
    simp

end Truth

theorem mem_keys_runningMax (bounds : List V) (running : Nat) (counts : Dict V Nat) (bound : V) :
    bound ∈ (runningMax bounds running counts).keys ↔ bound ∈ bounds ∨ bound ∈ counts.keys := by
  induction bounds generalizing running counts with
  | nil => simp [runningMax]
  | cons first bounds ih =>
    rw [runningMax, ih, Dict.mem_keys_set, List.mem_cons]
    tauto

theorem mem_keys_bucketCounts {values : List V} (hne : values ≠ []) {bound : V}
    (hbound : bound ∈ buckets) : bound ∈ (bucketCounts buckets values).keys := by
  rcases List.eq_nil_or_concat values with hnil | ⟨earlier, value, rfl⟩
  · exact absurd hnil hne
  · rw [List.concat_eq_append, bucketCounts_append, countBuckets]
    exact (mem_keys_runningMax _ _ _ _).mpr (.inl hbound)

/-! ## Every label set -/

section Runs

variable [AddMonoid V] {R : Type} (format : NumberFormat (Number V) R)

/-- A histogram before its first observation. -/
def new (name documentation : List Char) (buckets : List V) : Histogram V :=
  { name, documentation, buckets, counts := [], sums := [], totals := [] }

def observeAll (histogram : Histogram V) (observations : List (V × LabelSet)) : Histogram V :=
  observations.foldl (fun histogram o => histogram.observe o.1 o.2) histogram

/-- The observations of a label set. -/
def valuesOf (key : Labels) (observations : List (V × LabelSet)) : List V :=
  (observations.filter fun o => o.2.sorted = key).map Prod.fst

/-- What a histogram is to show for a label set. -/
def trueSamples (name : List Char) (buckets : List V) (key : Labels) (values : List V) :
    List (Sample (Number V)) :=
  (buckets.map fun bound =>
    { name := name ++ "_bucket".toList
      labels := key ++ [("le".toList, format.text (.bound bound))]
      value := .int (covered values bound) }) ++
    [{ name := name ++ "_bucket".toList
       labels := key ++ [("le".toList, "+Inf".toList)]
       value := .int values.length },
     { name := name ++ "_sum".toList, labels := key, value := .real values.sum },
     { name := name ++ "_count".toList, labels := key, value := .int values.length }]

/-- A histogram's state in terms of its observations. -/
structure Observed (histogram : Histogram V) (observations : List (V × LabelSet)) : Prop where
  nodup : histogram.counts.keys.Nodup
  keys : ∀ key, key ∈ histogram.counts.keys ↔ ∃ o ∈ observations, o.2.sorted = key
  counts : ∀ key, histogram.counts.get key [] =
    bucketCounts histogram.buckets (valuesOf key observations)
  sums : ∀ key, histogram.sums.get key 0 = (valuesOf key observations).sum
  totals : ∀ key, histogram.totals.get key 0 = (valuesOf key observations).length

omit [LinearOrder V] [AddMonoid V] in
theorem valuesOf_append (key : Labels) (observations : List (V × LabelSet)) (value : V)
    (labels : LabelSet) :
    valuesOf key (observations ++ [(value, labels)]) =
      if labels.sorted = key then valuesOf key observations ++ [value]
      else valuesOf key observations := by
  rw [valuesOf, List.filter_append, List.map_append]
  by_cases hkey : labels.sorted = key
  · rw [if_pos hkey, List.filter_cons_of_pos (by simpa using hkey)]
    rfl
  · rw [if_neg hkey, List.filter_cons_of_neg (by simpa using hkey)]
    exact List.append_nil _

theorem observed_observe {histogram : Histogram V} {observations : List (V × LabelSet)}
    (h : Observed histogram observations) (value : V) (labels : LabelSet) :
    Observed (histogram.observe value labels) (observations ++ [(value, labels)]) := by
  constructor
  · exact Dict.nodup_keys_set h.nodup _ _
  · intro key
    rw [observe, Dict.mem_keys_set, h.keys]
    constructor
    · rintro (rfl | ⟨o, ho, hkey⟩)
      · exact ⟨(value, labels), by simp, rfl⟩
      · exact ⟨o, List.mem_append_left _ ho, hkey⟩
    · rintro ⟨o, ho, hkey⟩
      rcases List.mem_append.mp ho with ho | ho
      · exact .inr ⟨o, ho, hkey⟩
      · rw [List.mem_singleton.mp ho] at hkey
        exact .inl hkey.symm
  · intro key
    rw [valuesOf_append]
    by_cases hkey : labels.sorted = key
    · subst hkey
      rw [if_pos rfl, observe, Dict.get_set_self, h.counts, bucketCounts_append]
    · rw [if_neg hkey, observe, Dict.get_set_of_ne (Ne.symm hkey), h.counts]
  · intro key
    rw [valuesOf_append]
    by_cases hkey : labels.sorted = key
    · subst hkey
      rw [if_pos rfl, observe, Dict.get_set_self, h.sums, List.sum_append, List.sum_singleton]
    · rw [if_neg hkey, observe, Dict.get_set_of_ne (Ne.symm hkey), h.sums]
  · intro key
    rw [valuesOf_append]
    by_cases hkey : labels.sorted = key
    · subst hkey
      rw [if_pos rfl, observe, Dict.get_set_self, h.totals, List.length_append,
        List.length_singleton]
    · rw [if_neg hkey, observe, Dict.get_set_of_ne (Ne.symm hkey), h.totals]

theorem observed_observeAll (name documentation : List Char) (buckets : List V)
    (observations : List (V × LabelSet)) :
    let histogram := observeAll (new name documentation buckets) observations
    Observed histogram observations ∧ histogram.name = name ∧ histogram.buckets = buckets := by
  induction observations using List.reverseRecOn with
  | nil =>
    refine ⟨⟨List.nodup_nil, ?_, fun _ => rfl, fun _ => rfl, fun _ => rfl⟩, rfl, rfl⟩
    intro key
    exact iff_of_false List.not_mem_nil fun ⟨_, ho, _⟩ => List.not_mem_nil ho
  | append_singleton observations o ih =>
    obtain ⟨hobserved, hname, hbuckets⟩ := ih
    simp only [observeAll] at hobserved hname hbuckets
    simp only [observeAll, List.foldl_append, List.foldl_cons, List.foldl_nil]
    exact ⟨observed_observe hobserved o.1 o.2, hname, hbuckets⟩

omit [AddMonoid V] in
/-- The loop of `render` shows every bucket's own count once all are there. -/
theorem bucketSamples_eq (name : List Char) (key : Labels) (bounds : List V) (cumulative : Nat)
    {counts : Dict V Nat} (h : ∀ bound ∈ bounds, bound ∈ counts.keys) :
    bucketSamples format name key bounds cumulative counts = bounds.map fun bound =>
      { name := name ++ "_bucket".toList
        labels := key ++ [("le".toList, format.text (.bound bound))]
        value := .int (counts.get bound 0) } := by
  induction bounds generalizing cumulative with
  | nil => rfl
  | cons bound bounds ih =>
    have hbound := Dict.get_of_mem_keys (h bound List.mem_cons_self) cumulative 0
    rw [bucketSamples, ih _ fun other hother => h other (List.mem_cons_of_mem _ hother), hbound]
    rfl

theorem keySamples_eq_iff {histogram : Histogram V} {observations : List (V × LabelSet)}
    (hsorted : histogram.buckets.Pairwise (· < ·)) (h : Observed histogram observations)
    {key : Labels} (hkey : key ∈ histogram.counts.keys) :
    keySamples format histogram key (histogram.counts.get key []) =
        trueSamples format histogram.name histogram.buckets key (valuesOf key observations) ↔
      (valuesOf key observations).Pairwise (FollowsOn histogram.buckets) := by
  obtain ⟨o, ho, hlabels⟩ := (h.keys key).mp hkey
  have hne : valuesOf key observations ≠ [] := by
    have hmem : o.1 ∈ valuesOf key observations :=
      List.mem_map_of_mem (List.mem_filter.mpr ⟨ho, by simpa using hlabels⟩)
    exact List.ne_nil_of_mem hmem
  have hpresent : ∀ bound ∈ histogram.buckets,
      bound ∈ (bucketCounts histogram.buckets (valuesOf key observations)).keys :=
    fun bound hbound => mem_keys_bucketCounts hne hbound
  rw [keySamples, trueSamples, h.counts, h.sums, h.totals, bucketSamples_eq format _ _ _ _ hpresent,
    List.append_left_inj, List.map_inj_left, ← bucketCounts_eq_iff hsorted]
  refine forall_congr' fun bound => imp_congr_right fun _ => ?_
  simp

omit [AddMonoid V] in
theorem length_bucketSamples (name : List Char) (key : Labels) (bounds : List V)
    (cumulative : Nat) (counts : Dict V Nat) :
    (bucketSamples format name key bounds cumulative counts).length = bounds.length := by
  induction bounds generalizing cumulative with
  | nil => rfl
  | cons bound bounds ih => rw [bucketSamples, List.length_cons, ih, List.length_cons]

omit [LinearOrder V] [AddMonoid V] in
/-- Blocks of equal lengths make equal wholes only if they are equal one by one. -/
theorem flatMap_eq_iff {α β : Type} {keys : List α} {f g : α → List β}
    (h : ∀ key ∈ keys, (f key).length = (g key).length) :
    keys.flatMap f = keys.flatMap g ↔ ∀ key ∈ keys, f key = g key := by
  induction keys with
  | nil => simp
  | cons key keys ih =>
    have hkeys := ih fun other hother => h other (List.mem_cons_of_mem _ hother)
    rw [List.flatMap_cons, List.flatMap_cons, List.forall_mem_cons, ← hkeys]
    constructor
    · exact fun heq => List.append_inj heq (h key List.mem_cons_self)
    · rintro ⟨hfirst, hrest⟩
      rw [hfirst, hrest]

theorem samples_eq_iff_keys {histogram : Histogram V} {observations : List (V × LabelSet)}
    (h : Observed histogram observations) :
    samples format histogram = histogram.counts.keys.flatMap (fun key =>
        trueSamples format histogram.name histogram.buckets key (valuesOf key observations)) ↔
      ∀ key ∈ histogram.counts.keys,
        keySamples format histogram key (histogram.counts.get key []) =
          trueSamples format histogram.name histogram.buckets key (valuesOf key observations) := by
  have hsamples : samples format histogram = histogram.counts.keys.flatMap fun key =>
      keySamples format histogram key (histogram.counts.get key []) := by
    have hentries := Dict.map_keys_get h.nodup []
    calc samples format histogram
      _ = (histogram.counts.keys.map fun key => (key, histogram.counts.get key [])).flatMap
            fun entry => keySamples format histogram entry.1 entry.2 := by
          rw [hentries]
          rfl
      _ = _ := List.flatMap_map _ _ _
  rw [hsamples]
  refine flatMap_eq_iff fun key _ => ?_
  simp only [keySamples, trueSamples, List.length_append, length_bucketSamples, List.length_map,
    List.length_cons, List.length_nil]

theorem samples_eq_iff_pairwise {histogram : Histogram V} {observations : List (V × LabelSet)}
    (hsorted : histogram.buckets.Pairwise (· < ·)) (h : Observed histogram observations) :
    samples format histogram = histogram.counts.keys.flatMap (fun key =>
        trueSamples format histogram.name histogram.buckets key (valuesOf key observations)) ↔
      ∀ o ∈ observations,
        (valuesOf o.2.sorted observations).Pairwise (FollowsOn histogram.buckets) := by
  rw [samples_eq_iff_keys format h]
  constructor
  · intro hkeys o ho
    have hmem := (h.keys o.2.sorted).mpr ⟨o, ho, rfl⟩
    exact (keySamples_eq_iff format hsorted h hmem).mp (hkeys _ hmem)
  · intro hall key hmem
    obtain ⟨o, ho, rfl⟩ := (h.keys key).mp hmem
    exact (keySamples_eq_iff format hsorted h hmem).mpr (hall o ho)

/-- **What is shown is true**, for every bucket, the total and the sum of every label set,
exactly if within each label set no value that a bucket covers is followed by one that falls
into a lower bucket. -/
theorem samples_eq_iff (name documentation : List Char) {buckets : List V}
    (hsorted : buckets.Pairwise (· < ·)) (observations : List (V × LabelSet)) :
    let histogram := observeAll (new name documentation buckets) observations
    samples format histogram = histogram.counts.keys.flatMap (fun key =>
        trueSamples format name buckets key (valuesOf key observations)) ↔
      ∀ o ∈ observations, (valuesOf o.2.sorted observations).Pairwise (FollowsOn buckets) := by
  intro histogram
  obtain ⟨hobserved, hname, hbuckets⟩ := observed_observeAll name documentation buckets observations
  have hstrict : histogram.buckets.Pairwise (· < ·) := by
    rw [show histogram.buckets = buckets from hbuckets]
    exact hsorted
  have hiff := samples_eq_iff_pairwise format hstrict hobserved
  rwa [hname, hbuckets] at hiff

end Runs

/-! ## Durations of jobs -/

/-- `_DEFAULT_BUCKETS`. -/
def defaultBuckets : List ℚ := [1, 5, 10, 30, 60, 120, 300, 600, 1800, 3600]

/-- The labels under which the duration of a job is observed. -/
def vmProvisioning : LabelSet where
  items := [("job_type".toList, "vm_provisioning".toList)]
  named := by
    intro label hlabel
    rw [List.mem_singleton.mp hlabel]
    decide
  nodup := List.nodup_singleton _

theorem defaultBuckets_sorted : defaultBuckets.Pairwise (· < ·) := by decide

def durations (observed : List ℚ) : List (ℚ × LabelSet) :=
  observed.map fun value => (value, vmProvisioning)

theorem valuesOf_durations (observed : List ℚ) :
    valuesOf vmProvisioning.sorted (durations observed) = observed := by
  rw [valuesOf, durations, List.filter_eq_self.mpr, List.map_map]
  · exact List.map_id observed
  · intro o ho
    obtain ⟨value, -, rfl⟩ := List.mem_map.mp ho
    exact decide_eq_true rfl

/-- A job of 200 seconds and then one of 700. -/
theorem samples_eq_iff_rising :
    let histogram := observeAll (new "d".toList [] defaultBuckets) (durations [200, 700])
    samples spelled histogram = histogram.counts.keys.flatMap fun key =>
      trueSamples spelled "d".toList defaultBuckets key (valuesOf key (durations [200, 700])) := by
  refine (samples_eq_iff spelled "d".toList [] defaultBuckets_sorted (durations [200, 700])).mpr ?_
  intro o ho
  obtain ⟨value, -, rfl⟩ := List.mem_map.mp ho
  rw [valuesOf_durations]
  decide

/-- After a job of 700 seconds and one of 200 only one is shown to have taken up to 1800. -/
theorem samples_undercount :
    let histogram := observeAll (new "d".toList [] defaultBuckets) (durations [700, 200])
    ¬ samples spelled histogram = histogram.counts.keys.flatMap fun key =>
      trueSamples spelled "d".toList defaultBuckets key (valuesOf key (durations [700, 200])) := by
  intro histogram h
  obtain ⟨hobserved, -, -⟩ :=
    observed_observeAll "d".toList [] defaultBuckets (durations [700, 200])
  have hpairwise := (samples_eq_iff_pairwise spelled defaultBuckets_sorted hobserved).mp h
    (700, vmProvisioning) (by simp [durations])
  rw [valuesOf_durations] at hpairwise
  revert hpairwise
  decide

end Histogram

end InfraOps.Metrics
