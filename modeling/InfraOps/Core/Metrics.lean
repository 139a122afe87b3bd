import InfraOps.Support.Dict
import InfraOps.Support.Exposition
import Mathlib.Algebra.Order.Ring.Rat
import Mathlib.Data.Char
import Mathlib.Data.List.Lex
import Mathlib.Data.List.Sort
import Mathlib.Order.Defs.LinearOrder

/-!
# Metrics

The collectors of `metrics.py` and the lines they render. How Python shows a number is left
open, as is what the numbers are; the lock around every operation is left out.
-/

namespace InfraOps.Metrics

open Exposition

/-! ## Label sets -/

/-- The keyword arguments of a metric call. -/
structure LabelSet where
  items : Labels
  named : namedLabels items
  nodup : (items.map Prod.fst).Nodup

/-- `sorted(labels.items())`: no two items have the same name. -/
def LabelSet.sorted (labels : LabelSet) : Labels :=
  labels.items.insertionSort fun a b => a.1 ≤ b.1

/-- The same labels, in whatever order they were given. -/
def LabelSet.Same (labels other : LabelSet) : Prop := labels.items.Perm other.items

/-- `_label_key`. -/
def labelKey (labels : LabelSet) : List Char := writeLabels labels.sorted

/-- A number that is rendered: a count, a float, or a bucket's bound as it was given. -/
inductive Number (V : Type)
  | int (n : Nat)
  | real (v : V)
  | bound (v : V)

variable {V R : Type} (format : NumberFormat (Number V) R)

/-! ## Counters and gauges -/

/-- A `Counter` or a `Gauge`. -/
structure Collector (V : Type) where
  name : List Char
  documentation : List Char
  values : Dict (List Char) V

def headLines (name documentation kind : List Char) : List (List Char) :=
  ["# HELP ".toList ++ name ++ ' ' :: documentation, "# TYPE ".toList ++ name ++ ' ' :: kind]

/-- The line of one series, without braces if its key is empty. -/
def seriesLine (name key : List Char) (value : V) : List Char :=
  name ++ (if key = [] then [] else '{' :: key ++ ['}']) ++ ' ' :: format.text (.real value)

def seriesLines (collector : Collector V) : List (List Char) :=
  (collector.values.insertionSort fun a b => a.1 ≤ b.1).map fun entry =>
    seriesLine format collector.name entry.1 entry.2

def Counter.inc [Zero V] [Add V] (counter : Collector V) (amount : V) (labels : LabelSet) :
    Collector V :=
  let key := labelKey labels
  { counter with values := counter.values.set key (counter.values.get key 0 + amount) }

def Counter.render (counter : Collector V) : List (List Char) :=
  headLines counter.name counter.documentation "counter".toList ++ seriesLines format counter

def Gauge.set (gauge : Collector V) (value : V) (labels : LabelSet) : Collector V :=
  { gauge with values := gauge.values.set (labelKey labels) value }

def Gauge.render (gauge : Collector V) : List (List Char) :=
  headLines gauge.name gauge.documentation "gauge".toList ++ seriesLines format gauge

/-! ## Histograms -/

structure Histogram (V : Type) where
  name : List Char
  documentation : List Char
  buckets : List V
  counts : Dict Labels (Dict V Nat)
  sums : Dict Labels V
  totals : Dict Labels Nat

namespace Histogram

variable [LinearOrder V]

/-- The first loop of `observe`. -/
def countInto (value : V) : List V → Bool → Dict V Nat → Dict V Nat
  | [], _, counts => counts
  | bound :: bounds, seen, counts =>
    if value ≤ bound ∧ seen = false then
      countInto value bounds true (counts.set bound (counts.get bound 0 + 1))
    else countInto value bounds seen (counts.setDefault bound (counts.get bound 0))

/-- The second loop of `observe`. -/
def runningMax : List V → Nat → Dict V Nat → Dict V Nat
  | [], _, counts => counts
  | bound :: bounds, running, counts =>
    let current := counts.get bound 0
    let running := if running < current then current else running
    runningMax bounds running (counts.set bound running)

def countBuckets (buckets : List V) (counts : Dict V Nat) (value : V) : Dict V Nat :=
  runningMax buckets 0 (countInto value buckets false counts)

def observe [Zero V] [Add V] (histogram : Histogram V) (value : V) (labels : LabelSet) :
    Histogram V :=
  let key := labels.sorted
  { histogram with
    counts := histogram.counts.set key
      (countBuckets histogram.buckets (histogram.counts.get key []) value)
    sums := histogram.sums.set key (histogram.sums.get key 0 + value)
    totals := histogram.totals.set key (histogram.totals.get key 0 + 1) }

/-- The loop of `render` over the buckets. -/
def bucketSamples (name : List Char) (key : Labels) :
    List V → Nat → Dict V Nat → List (Sample (Number V))
  | [], _, _ => []
  | bound :: bounds, cumulative, counts =>
    let cumulative := counts.get bound cumulative
    { name := name ++ "_bucket".toList
      labels := key ++ [("le".toList, format.text (.bound bound))]
      value := .int cumulative } :: bucketSamples name key bounds cumulative counts

def keySamples [Zero V] (histogram : Histogram V) (key : Labels) (bucketCounts : Dict V Nat) :
    List (Sample (Number V)) :=
  bucketSamples format histogram.name key histogram.buckets 0 bucketCounts ++
    [{ name := histogram.name ++ "_bucket".toList
       labels := key ++ [("le".toList, "+Inf".toList)]
       value := .int (histogram.totals.get key 0) },
     { name := histogram.name ++ "_sum".toList
       labels := key
       value := .real (histogram.sums.get key 0) },
     { name := histogram.name ++ "_count".toList
       labels := key
       value := .int (histogram.totals.get key 0) }]

def samples [Zero V] (histogram : Histogram V) : List (Sample (Number V)) :=
  histogram.counts.flatMap fun entry => keySamples format histogram entry.1 entry.2

def render [Zero V] (histogram : Histogram V) : List (List Char) :=
  headLines histogram.name histogram.documentation "histogram".toList ++
    (samples format histogram).map (writeSample format)

end Histogram

/-! ## Numbers of at most one decimal -/

def showSign (q : ℚ) : List Char := if q < 0 then ['-'] else []

def showDecimal (q : ℚ) : List Char :=
  showSign q ++ Nat.toDigits 10 (q.num.natAbs / q.den) ++
    '.' :: Nat.toDigits 10 (q.num.natAbs * 10 / q.den % 10)

def showNumber : Number ℚ → List Char
  | .int n => Nat.toDigits 10 n
  | .real q => showDecimal q
  | .bound q => if q.den = 1 then showSign q ++ Nat.toDigits 10 q.num.natAbs else showDecimal q

theorem numberChar_toDigits (n : Nat) : ∀ c ∈ Nat.toDigits 10 n, numberChar c = true := by
  intro c hc
  have hdigit : c.isDigit = true := Nat.isDigit_of_mem_toDigits (by decide) (by decide) hc
  simp [numberChar, Char.isAlphanum, hdigit]

theorem numberChar_showSign (q : ℚ) : ∀ c ∈ showSign q, numberChar c = true := by
  intro c hc
  rw [showSign] at hc
  split at hc
  · rw [List.mem_singleton.mp hc]
    decide
  · exact absurd hc List.not_mem_nil

theorem numberChar_showDecimal (q : ℚ) : ∀ c ∈ showDecimal q, numberChar c = true := by
  intro c hc
  rcases List.mem_append.mp hc with hc | hc
  · rcases List.mem_append.mp hc with hc | hc
    · exact numberChar_showSign q c hc
    · exact numberChar_toDigits _ c hc
  · rcases List.mem_cons.mp hc with rfl | hc
    · decide
    · exact numberChar_toDigits _ c hc

theorem numberChar_showNumber : ∀ n, ∀ c ∈ showNumber n, numberChar c = true
  | .int n => numberChar_toDigits n
  | .real q => numberChar_showDecimal q
  | .bound q => by
    intro c hc
    rw [showNumber] at hc
    split at hc
    · rcases List.mem_append.mp hc with hc | hc
      · exact numberChar_showSign q c hc
      · exact numberChar_toDigits _ c hc
    · exact numberChar_showDecimal q c hc

theorem showNumber_ne_nil : ∀ n, showNumber n ≠ []
  | .int n => Nat.toDigits_ne_nil
  | .real q => by simp [showNumber, showDecimal]
  | .bound q => by
    rw [showNumber]
    split
    · exact fun h => Nat.toDigits_ne_nil (List.append_eq_nil_iff.mp h).2
    · simp [showDecimal]

/-- Rational numbers, read as they are spelled. -/
def spelled : NumberFormat (Number ℚ) (List Char) where
  text := showNumber
  read := some
  value := showNumber
  read_text _ := rfl
  text_number := numberChar_showNumber
  text_ne_nil := showNumber_ne_nil

end InfraOps.Metrics
