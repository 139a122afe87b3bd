import InfraOps.Core.HistogramCounts
import InfraOps.Support.Keyed

/-!
# Metric labels

Every collector writes label values as they are. What it renders is read back, and different
label sets have series of their own, exactly if no value holds a quote, a backslash or a line
break.
-/

namespace InfraOps.Metrics

open Exposition

variable {V R : Type} (format : NumberFormat (Number V) R)

/-! ## Label sets -/

theorem LabelSet.sorted_perm (labels : LabelSet) : labels.sorted.Perm labels.items :=
  List.perm_insertionSort _ _

theorem LabelSet.sorted_eq_iff (labels other : LabelSet) :
    labels.sorted = other.sorted ↔ labels.Same other := by
  constructor
  · intro h
    have hperm := other.sorted_perm
    rw [← h] at hperm
    exact labels.sorted_perm.symm.trans hperm
  · intro h
    refine insertionSort_key_perm Prod.fst h fun a ha b hb hname => ?_
    exact List.inj_on_of_nodup_map other.nodup ha hb hname

theorem LabelSet.named_sorted (labels : LabelSet) : namedLabels labels.sorted :=
  fun label hlabel => labels.named label (labels.sorted_perm.mem_iff.mp hlabel)

/-- No value needs an escape. -/
def LabelSet.Plain (labels : LabelSet) : Prop := plainLabels labels.items

theorem LabelSet.plain_sorted (labels : LabelSet) : plainLabels labels.sorted ↔ labels.Plain := by
  constructor
  · exact fun h label hlabel => h label (labels.sorted_perm.mem_iff.mpr hlabel)
  · exact fun h label hlabel => h label (labels.sorted_perm.mem_iff.mp hlabel)

/-- Plain label sets with one key are the same. -/
theorem same_of_labelKey_eq {labels other : LabelSet} (h : labels.Plain) (hother : other.Plain)
    (hkey : labelKey labels = labelKey other) : labels.Same other := by
  rw [← LabelSet.sorted_eq_iff]
  exact writeLabels_injective labels.named_sorted (labels.plain_sorted.mpr h) other.named_sorted
    (other.plain_sorted.mpr hother) hkey

/-! ## Counters and gauges -/

/-- The series of a collector: one for each label set, and its line is read back. -/
structure SeriesFaithful (collector : Collector V) (calls : List (V × LabelSet)) : Prop where
  separate : ∀ call ∈ calls, ∀ other ∈ calls, labelKey call.2 = labelKey other.2 →
    call.2.Same other.2
  rendered : ∀ call ∈ calls, ∃ value,
    seriesLine format collector.name (labelKey call.2) value ∈ seriesLines format collector ∧
      readSample format (seriesLine format collector.name (labelKey call.2) value) =
        some { name := collector.name
               labels := call.2.sorted
               value := format.value (.real value) }
  only : ∀ line ∈ seriesLines format collector, ∃ call ∈ calls, ∃ value,
    line = seriesLine format collector.name (labelKey call.2) value

theorem seriesLine_eq (name : List Char) (labels : LabelSet) (value : V) :
    seriesLine format name (labelKey labels) value =
      writeSample format { name, labels := labels.sorted, value := .real value } := rfl

theorem readSample_seriesLine_iff {name : List Char} (hname : isMetricName name = true)
    (labels : LabelSet) (value : V) :
    readSample format (seriesLine format name (labelKey labels) value) =
        some { name, labels := labels.sorted, value := format.value (.real value) } ↔
      labels.Plain := by
  rw [seriesLine_eq, ← labels.plain_sorted]
  exact readSample_writeSample_iff format hname labels.named_sorted

theorem mem_seriesLines (collector : Collector V) (line : List Char) :
    line ∈ seriesLines format collector ↔ ∃ entry ∈ collector.values,
      line = seriesLine format collector.name entry.1 entry.2 := by
  rw [seriesLines, List.mem_map]
  constructor
  · rintro ⟨entry, hentry, rfl⟩
    exact ⟨entry, (List.mem_insertionSort _).mp hentry, rfl⟩
  · rintro ⟨entry, hentry, rfl⟩
    exact ⟨entry, (List.mem_insertionSort _).mpr hentry, rfl⟩

/-- A collector whose keys are those of the calls. -/
def KeyedBy (collector : Collector V) (calls : List (V × LabelSet)) : Prop :=
  ∀ key, key ∈ collector.values.keys ↔ ∃ call ∈ calls, labelKey call.2 = key

variable {format} in
theorem seriesFaithful_iff {collector : Collector V} {calls : List (V × LabelSet)}
    (hname : isMetricName collector.name = true) (hkeys : KeyedBy collector calls) :
    SeriesFaithful format collector calls ↔ ∀ call ∈ calls, call.2.Plain := by
  constructor
  · intro h call hcall
    obtain ⟨value, -, hread⟩ := h.rendered call hcall
    exact (readSample_seriesLine_iff format hname call.2 value).mp hread
  · intro hplain
    constructor
    · intro call hcall other hother hkey
      exact same_of_labelKey_eq (hplain call hcall) (hplain other hother) hkey
    · intro call hcall
      obtain ⟨entry, hentry, hkey⟩ := List.mem_map.mp ((hkeys _).mpr ⟨call, hcall, rfl⟩)
      refine ⟨entry.2, ?_, (readSample_seriesLine_iff format hname _ _).mpr (hplain call hcall)⟩
      exact (mem_seriesLines format collector _).mpr ⟨entry, hentry, by rw [hkey]⟩
    · intro line hline
      obtain ⟨entry, hentry, rfl⟩ := (mem_seriesLines format collector line).mp hline
      obtain ⟨call, hcall, hkey⟩ := (hkeys entry.1).mp (List.mem_map_of_mem hentry)
      exact ⟨call, hcall, entry.2, by rw [hkey]⟩

/-! ## Runs -/

section Runs

def emptyCollector (name documentation : List Char) : Collector V :=
  { name, documentation, values := [] }

/-- A counter after some increments. -/
def incAll [Zero V] [Add V] (counter : Collector V) (calls : List (V × LabelSet)) : Collector V :=
  calls.foldl (fun counter call => Counter.inc counter call.1 call.2) counter

/-- A gauge after some settings. -/
def setAll (gauge : Collector V) (calls : List (V × LabelSet)) : Collector V :=
  calls.foldl (fun gauge call => Gauge.set gauge call.1 call.2) gauge

theorem keyedBy_set {collector : Collector V} {calls : List (V × LabelSet)}
    (h : KeyedBy collector calls) (call : V × LabelSet) (value : V) :
    KeyedBy { collector with values := collector.values.set (labelKey call.2) value }
      (calls ++ [call]) := by
  intro key
  rw [Dict.mem_keys_set, h key]
  constructor
  · rintro (rfl | ⟨other, hother, hkey⟩)
    · exact ⟨call, by simp, rfl⟩
    · exact ⟨other, List.mem_append_left _ hother, hkey⟩
  · rintro ⟨other, hother, hkey⟩
    rcases List.mem_append.mp hother with hother | hother
    · exact .inr ⟨other, hother, hkey⟩
    · rw [List.mem_singleton.mp hother] at hkey
      exact .inl hkey.symm

/-- Whatever a call does to the value of its series. -/
theorem keyedBy_foldl (update : Collector V → V × LabelSet → V) (name documentation : List Char)
    (calls : List (V × LabelSet)) :
    let collector := calls.foldl (fun collector call => { collector with
      values := collector.values.set (labelKey call.2) (update collector call) })
      (emptyCollector name documentation)
    KeyedBy collector calls ∧ collector.name = name := by
  induction calls using List.reverseRecOn with
  | nil => exact ⟨fun _ => iff_of_false List.not_mem_nil fun ⟨_, h, _⟩ => List.not_mem_nil h, rfl⟩
  | append_singleton calls call ih =>
    simp only [List.foldl_append, List.foldl_cons, List.foldl_nil] at ih ⊢
    exact ⟨keyedBy_set ih.1 call _, ih.2⟩

theorem counterFaithful_iff [AddMonoid V] {name : List Char} (hname : isMetricName name = true)
    (documentation : List Char) (calls : List (V × LabelSet)) :
    SeriesFaithful format (incAll (emptyCollector name documentation) calls) calls ↔
      ∀ call ∈ calls, call.2.Plain := by
  obtain ⟨hkeys, hcollector⟩ := keyedBy_foldl
    (fun collector call => collector.values.get (labelKey call.2) 0 + call.1) name documentation
    calls
  exact seriesFaithful_iff (by rw [← hcollector] at hname; exact hname) hkeys

theorem gaugeFaithful_iff {name : List Char} (hname : isMetricName name = true)
    (documentation : List Char) (calls : List (V × LabelSet)) :
    SeriesFaithful format (setAll (emptyCollector name documentation) calls) calls ↔
      ∀ call ∈ calls, call.2.Plain := by
  obtain ⟨hkeys, hcollector⟩ := keyedBy_foldl (fun _ call => call.1) name documentation calls
  exact seriesFaithful_iff (by rw [← hcollector] at hname; exact hname) hkeys

end Runs

/-! ## Histograms -/

section Histograms

variable [LinearOrder V] [AddMonoid V]

/-- The lines of a histogram are read back, and no two label sets write theirs alike. -/
structure HistogramFaithful (histogram : Histogram V) (observations : List (V × LabelSet)) :
    Prop where
  separate : ∀ o ∈ observations, ∀ other ∈ observations,
    writeLabels o.2.sorted = writeLabels other.2.sorted → o.2.Same other.2
  rendered : ∀ o ∈ observations, ∀ counts, (o.2.sorted, counts) ∈ histogram.counts →
    ∀ sample ∈ Histogram.keySamples format histogram o.2.sorted counts,
      readSample format (writeSample format sample) = some (sample.map format.value)

theorem isMetricName_append {name rest : List Char} (h : isMetricName name = true)
    (hrest : rest.all metricChar = true) : isMetricName (name ++ rest) = true := by
  obtain ⟨hhead, hall⟩ := Bool.and_eq_true_iff.mp h
  cases name with
  | nil => cases hhead
  | cons c name =>
    rw [isMetricName, List.all_append, hall, hrest]
    simpa using hhead

omit [LinearOrder V] [AddMonoid V] in
theorem plainValue_number (n : Number V) : plainValue (format.text n) = true := by
  rw [plainValue, List.all_eq_true]
  intro c hc
  have hnumber := format.text_number n c hc
  have hspecial : ∀ d ∈ ['"', '\\', '\n'], c ≠ d := by
    intro d hd heq
    subst heq
    revert hnumber
    rcases List.mem_cons.mp hd with rfl | hd
    · decide
    rcases List.mem_cons.mp hd with rfl | hd
    · decide
    · rw [List.mem_singleton.mp hd]
      decide
  simp [hspecial '"', hspecial '\\', hspecial '\n']

/-- What the lines of a label set carry beside its labels. -/
theorem keySamples_form {histogram : Histogram V} (hname : isMetricName histogram.name = true)
    {key : Labels} {counts : Dict V Nat} {sample : Sample (Number V)}
    (h : sample ∈ Histogram.keySamples format histogram key counts) :
    isMetricName sample.name = true ∧
      (sample.labels = key ∨
        ∃ bound, plainValue bound = true ∧ sample.labels = key ++ [("le".toList, bound)]) := by
  have hbucket : ∀ bounds cumulative, ∀ sample ∈
      Histogram.bucketSamples format histogram.name key bounds cumulative counts,
      sample.name = histogram.name ++ "_bucket".toList ∧
        ∃ bound, sample.labels = key ++ [("le".toList, format.text (.bound bound))] := by
    intro bounds
    induction bounds with
    | nil => exact fun _ _ h => absurd h List.not_mem_nil
    | cons bound bounds ih =>
      intro cumulative sample h
      rw [Histogram.bucketSamples] at h
      rcases List.mem_cons.mp h with rfl | h
      · exact ⟨rfl, bound, rfl⟩
      · exact ih _ sample h
  rw [Histogram.keySamples] at h
  rcases List.mem_append.mp h with h | h
  · obtain ⟨hsample, bound, hlabels⟩ := hbucket _ _ sample h
    rw [hsample]
    exact ⟨isMetricName_append hname (by decide),
      .inr ⟨_, plainValue_number format (.bound bound), hlabels⟩⟩
  · simp only [List.mem_cons, List.not_mem_nil, or_false] at h
    rcases h with rfl | rfl | rfl
    · exact ⟨isMetricName_append hname (by decide), .inr ⟨"+Inf".toList, by decide, rfl⟩⟩
    · exact ⟨isMetricName_append hname (by decide), .inl rfl⟩
    · exact ⟨isMetricName_append hname (by decide), .inl rfl⟩

variable {format} in
theorem histogramFaithful_iff {name : List Char} (hname : isMetricName name = true)
    (documentation : List Char) (buckets : List V) (observations : List (V × LabelSet)) :
    HistogramFaithful format
        (Histogram.observeAll (Histogram.new name documentation buckets) observations)
        observations ↔
      ∀ o ∈ observations, o.2.Plain := by
  obtain ⟨hobserved, hhistogram, -⟩ :=
    Histogram.observed_observeAll name documentation buckets observations
  generalize Histogram.observeAll (Histogram.new name documentation buckets) observations =
    histogram at hobserved hhistogram
  subst hhistogram
  constructor
  · intro h o ho
    obtain ⟨entry, hentry, hkey⟩ := List.mem_map.mp ((hobserved.keys o.2.sorted).mpr ⟨o, ho, rfl⟩)
    have hmem : (o.2.sorted, entry.2) ∈ histogram.counts := by rw [← hkey]; exact hentry
    have hread := h.rendered o ho entry.2 hmem { name := histogram.name ++ "_count".toList
                                                 labels := o.2.sorted
                                                 value := .int (histogram.totals.get o.2.sorted 0) }
      (by simp [Histogram.keySamples])
    have hcount : isMetricName (histogram.name ++ "_count".toList) = true :=
      isMetricName_append hname (by decide)
    exact o.2.plain_sorted.mp ((readSample_writeSample_iff format hcount o.2.named_sorted).mp hread)
  · intro hplain
    constructor
    · intro o ho other hother hlabels
      exact same_of_labelKey_eq (hplain o ho) (hplain other hother) hlabels
    · intro o ho counts _ sample hsample
      obtain ⟨hsampleName, hlabels⟩ := keySamples_form format hname hsample
      have hlabel : ∀ label ∈ sample.labels, isLabelName label.1 = true ∧
          plainValue label.2 = true := by
        have hown : ∀ label ∈ o.2.sorted, isLabelName label.1 = true ∧
            plainValue label.2 = true := fun label hl =>
          ⟨o.2.named_sorted label hl, o.2.plain_sorted.mpr (hplain o ho) label hl⟩
        rcases hlabels with heq | ⟨bound, hbound, heq⟩
        · rw [heq]
          exact hown
        · rw [heq]
          intro label hl
          rcases List.mem_append.mp hl with hl | hl
          · exact hown label hl
          · rw [List.mem_singleton.mp hl]
            have hle : isLabelName "le".toList = true := by decide
            exact ⟨hle, hbound⟩
      exact (readSample_writeSample_iff format hsampleName fun label hl => (hlabel label hl).1).mpr
        fun label hl => (hlabel label hl).2

end Histograms

/-- **When labels are safe**, for counters, gauges and histograms alike: exactly if no value
of theirs needs an escape. -/
theorem metricLabels_iff [LinearOrder V] [AddMonoid V] {name : List Char}
    (hname : isMetricName name = true) (documentation : List Char) (buckets : List V)
    (calls : List (V × LabelSet)) :
    (SeriesFaithful format (incAll (emptyCollector name documentation) calls) calls ↔
      ∀ call ∈ calls, call.2.Plain) ∧
    (SeriesFaithful format (setAll (emptyCollector name documentation) calls) calls ↔
      ∀ call ∈ calls, call.2.Plain) ∧
    (HistogramFaithful format
        (Histogram.observeAll (Histogram.new name documentation buckets) calls) calls ↔
      ∀ call ∈ calls, call.2.Plain) :=
  ⟨counterFaithful_iff format hname documentation calls,
    gaugeFaithful_iff format hname documentation calls,
    histogramFaithful_iff hname documentation buckets calls⟩

/-- The label of a failed installation. -/
def applicationLabel (application : List Char) : LabelSet where
  items := [("application".toList, application)]
  named := by
    intro label hlabel
    rw [List.mem_singleton.mp hlabel]
    exact (by decide : isLabelName "application".toList = true)
  nodup := List.nodup_singleton _

/-- A failed installation of `7-Zip`. -/
theorem metricLabels_iff_plain :
    SeriesFaithful spelled (incAll (emptyCollector "app_failures".toList [])
      [(1, applicationLabel "7-Zip".toList)]) [(1, applicationLabel "7-Zip".toList)] := by
  refine (metricLabels_iff spelled (by decide) [] [] _).1.mpr ?_
  intro call hcall label hlabel
  rw [List.mem_singleton.mp hcall] at hlabel
  rw [List.mem_singleton.mp hlabel]
  decide

/-- The labels of a request, whose path is the client's. -/
def requestLabels (path status : List Char) : LabelSet where
  items := [("path".toList, path), ("status".toList, status)]
  named := by
    intro label hlabel
    rcases List.mem_cons.mp hlabel with rfl | hlabel
    · exact (by decide : isLabelName "path".toList = true)
    · rw [List.mem_singleton.mp hlabel]
      exact (by decide : isLabelName "status".toList = true)
  nodup := by
    show ["path".toList, "status".toList].Nodup
    decide

/-- An application with quotes in its name spoils the page; and two label sets of which one
has quotes share their series. -/
theorem metricLabels_unescaped :
    (¬ SeriesFaithful spelled (incAll (emptyCollector "app_failures".toList [])
        [(1, applicationLabel "Tool \"x64\"".toList)])
      [(1, applicationLabel "Tool \"x64\"".toList)]) ∧
    labelKey (requestLabels "/a\",status=\"1".toList "2".toList) =
      labelKey (requestLabels "/a".toList "1\",status=\"2".toList) ∧
    ¬ (requestLabels "/a\",status=\"1".toList "2".toList).Same
      (requestLabels "/a".toList "1\",status=\"2".toList) := by
  refine ⟨?_, by decide, ?_⟩
  · intro h
    have hplain := (counterFaithful_iff spelled (by decide) [] _).mp h
      _ (List.mem_singleton.mpr rfl) _ (List.mem_singleton.mpr rfl)
    revert hplain
    decide
  · rw [← LabelSet.sorted_eq_iff]
    decide

end InfraOps.Metrics
