import InfraOps.Support.Separated
import InfraOps.Vsphere.Inventory

/-!
# The ownership marker in the annotation

`owner_annotation` appends a job's marker to a description that a user writes, and
`owner_from_annotation` takes the first marker it meets, which may be one of the user's.
-/

namespace InfraOps

/-! ## Lines -/

/-- The lines of a text, stripped. -/
def strippedLines (text : String) : List (List Char) :=
  (text.toList.splitOnP isLineBreak).map pyStrip

/-- The line begins as a marker does, in any letter case. -/
def marksOwner (line : List Char) : Bool :=
  ownerAnnotationPrefix.toList.isPrefixOf (line.map Char.toLower)

/-- What a marker names. -/
def markedOwner (line : List Char) : List Char :=
  pyStrip (line.drop ownerAnnotationPrefix.length)

/-- If a line of the text begins as a marker does, the first of them names this job. -/
def FirstMarkerNames (text jobId : String) : Prop :=
  ∀ before line after, strippedLines text = before ++ line :: after →
    (∀ other ∈ before, marksOwner other = false) → marksOwner line = true →
      markedOwner line = jobId.toList

/-- A job's id as text: not empty, and without white space. -/
structure JobIdText (jobId : String) : Prop where
  nonempty : jobId ≠ ""
  solid : ∀ c ∈ jobId.toList, pySpace c = false

/-! ## The two functions on lines -/

theorem ofList_eq_empty (cs : List Char) : String.ofList cs = "" ↔ cs = [] := by
  constructor
  · intro h
    have hlist := congrArg String.toList h
    rwa [String.toList_ofList] at hlist
  · intro h
    rw [h]

theorem ownerFromAnnotation_eq (text : String) :
    ownerFromAnnotation text = ((strippedLines text).find? marksOwner).bind fun line =>
      if markedOwner line = [] then none else some (String.ofList (markedOwner line)) := by
  have hlines : (text.toList.splitOnP isLineBreak).map (fun line => strip (String.ofList line)) =
      (strippedLines text).map String.ofList := by
    rw [strippedLines, List.map_map]
    refine List.map_congr_left fun line _ => ?_
    rw [strip, String.toList_ofList]
    rfl
  have hmarks : (fun line : String =>
      ownerAnnotationPrefix.toList.isPrefixOf line.toLower.toList) ∘ String.ofList =
        marksOwner := by
    funext line
    have hlower : (String.ofList line).toLower.toList = line.map Char.toLower := by
      unfold String.toLower
      rw [String.toList_map, String.toList_ofList]
    rw [Function.comp_apply, hlower]
    rfl
  rw [ ownerFromAnnotation]
  simp only [hlines, List.find?_map, hmarks, Option.bind_map]
  refine congrArg (Option.bind _) (funext fun line => ?_)
  have hvalue : strip (String.ofList ((String.ofList line).toList.drop
      ownerAnnotationPrefix.length)) = String.ofList (markedOwner line) := by
    rw [strip, String.toList_ofList, String.toList_ofList, markedOwner]
  simp only [Function.comp_apply, hvalue, ofList_eq_empty]

/-- The marker line of a job. -/
def markerLine (jobId : String) : List Char := ownerAnnotationPrefix.toList ++ ' ' :: jobId.toList

theorem lineBreak_space {c : Char} (h : pySpace c = false) : isLineBreak c = false := by
  rw [isLineBreak, decide_eq_false_iff_not]
  rw [pySpace, decide_eq_false_iff_not] at h
  refine mt ?_ h
  generalize c.toNat = n
  revert n
  decide

theorem markerLine_solid {jobId : String} (h : JobIdText jobId) :
    ∀ c ∈ markerLine jobId, isLineBreak c = false := by
  have hmark : ownerAnnotationPrefix.toList.all (fun c => !isLineBreak c) = true := by decide
  intro c hc
  rcases List.mem_append.mp hc with hc | hc
  · simpa using List.all_eq_true.mp hmark c hc
  · rcases List.mem_cons.mp hc with rfl | hc
    · decide
    · exact lineBreak_space (h.solid c hc)

theorem pyStrip_markerLine {jobId : String} (h : JobIdText jobId) :
    pyStrip (markerLine jobId) = markerLine jobId := by
  apply trim_of_ends
  · intro c hc
    have hfirst : (markerLine jobId).head? = some 'i' := rfl
    rw [hfirst, Option.mem_some] at hc
    subst hc
    decide
  · intro c hc
    rcases List.eq_nil_or_concat jobId.toList with hnil | ⟨front, last, hconcat⟩
    · exact absurd (String.toList_eq_nil_iff.mp hnil) h.nonempty
    · have hlast : (markerLine jobId).getLast? = some last := by
        rw [markerLine, hconcat, List.concat_eq_append, ← List.cons_append, ← List.append_assoc,
          List.getLast?_concat]
      rw [hlast, Option.mem_some] at hc
      subst hc
      exact h.solid last (by simp [hconcat])

theorem marksOwner_markerLine (jobId : String) : marksOwner (markerLine jobId) = true := by
  have hlower : ownerAnnotationPrefix.toList.map Char.toLower = ownerAnnotationPrefix.toList := by
    decide
  rw [marksOwner, markerLine, List.map_append, hlower, List.isPrefixOf_iff_prefix]
  exact List.prefix_append _ _

theorem markedOwner_markerLine {jobId : String} (h : JobIdText jobId) :
    markedOwner (markerLine jobId) = jobId.toList := by
  have hdrop : (markerLine jobId).drop ownerAnnotationPrefix.length = ' ' :: jobId.toList :=
    List.drop_left
  have htrim : pyStrip (' ' :: jobId.toList) = pyStrip jobId.toList := rfl
  rw [markedOwner, hdrop]
  exact htrim.trans (trim_of_forall h.solid)

/-- The marker comes after the lines of the description. -/
theorem strippedLines_ownerAnnotation {jobId : String} (h : JobIdText jobId)
    (description : String) :
    (strippedLines ( ownerAnnotation description jobId)).find? marksOwner =
      ((strippedLines description).find? marksOwner).or (some (markerLine jobId)) := by
  have hmarker : ((markerLine jobId).splitOnP isLineBreak).map pyStrip = [markerLine jobId] := by
    rw [List.splitOnP_eq_singleton (markerLine_solid h), List.map_singleton,
      pyStrip_markerLine h]
  have hfind : [markerLine jobId].find? marksOwner = some (markerLine jobId) :=
    List.find?_cons_of_pos (marksOwner_markerLine jobId)
  have htext : (s!"{ownerAnnotationPrefix} {jobId}").toList = markerLine jobId := by
    simp only [String.toList_append]
    rfl
  rw [ ownerAnnotation, if_neg h.nonempty]
  by_cases hempty : description = ""
  · subst hempty
    simp only [if_true, strippedLines, htext, hmarker, hfind]
    rfl
  · have hbreak : isLineBreak '\n' = true := by decide
    have hlines : (description ++ "\n\n" ++ s!"{ownerAnnotationPrefix} {jobId}").toList =
        description.toList ++ '\n' :: '\n' :: markerLine jobId := by
      rw [String.toList_append, String.toList_append, htext, List.append_assoc]
      rfl
    rw [if_neg hempty, strippedLines, strippedLines]
    show ((description ++ "\n\n" ++ s!"{ownerAnnotationPrefix} {jobId}").toList.splitOnP
      isLineBreak |>.map pyStrip).find? marksOwner = _
    rw [hlines]
    rw [List.splitOnP_append_cons _ _ hbreak, ← List.nil_append ('\n' :: markerLine jobId),
      List.splitOnP_append_cons _ _ hbreak, List.map_append, List.map_append, hmarker,
      List.find?_append, List.find?_append, hfind]
    rfl

/-- The first marker line that the annotation holds. -/
theorem ownerFromAnnotation_ownerAnnotation {jobId : String} (h : JobIdText jobId)
    (description : String) :
    ownerFromAnnotation ( ownerAnnotation description jobId) =
      match (strippedLines description).find? marksOwner with
      | none => some jobId
      | some line =>
        if markedOwner line = [] then none else some (String.ofList (markedOwner line)) := by
  rw [ownerFromAnnotation_eq, strippedLines_ownerAnnotation h]
  cases (strippedLines description).find? marksOwner with
  | some line => rfl
  | none =>
    have hne : jobId.toList ≠ [] := fun hnil => h.nonempty (String.toList_eq_nil_iff.mp hnil)
    rw [Option.none_or, Option.bind_some, markedOwner_markerLine h, if_neg hne,
      String.ofList_toList]

/-! ## The round trip -/

/-- **When the owner is read back**: exactly if the description's own first marker, where it
has one, names the same job. -/
theorem ownerMarker_roundTrip_iff {jobId : String} (h : JobIdText jobId) (description : String) :
    ownerFromAnnotation ( ownerAnnotation description jobId) = some jobId ↔
      FirstMarkerNames description jobId := by
  rw [ ownerFromAnnotation_ownerAnnotation h]
  cases hfind : (strippedLines description).find? marksOwner with
  | none =>
    refine iff_of_true rfl ?_
    intro before line after hsplit _ hline
    have hnone := List.find?_eq_none.mp hfind line (by simp [hsplit])
    exact absurd hline hnone
  | some first =>
    obtain ⟨hfirst, front, rest, hfront, hbefore⟩ := List.find?_eq_some_iff_append.mp hfind
    have hne : jobId.toList ≠ [] := fun hnil => h.nonempty (String.toList_eq_nil_iff.mp hnil)
    constructor
    · intro howner before line after hsplit hothers hline
      -- the first marker line is the one that was found
      have hsame : (strippedLines description).find? marksOwner = some line :=
        List.find?_eq_some_iff_append.mpr ⟨hline, before, after, hsplit, by simpa using hothers⟩
      rw [hfind, Option.some.injEq] at hsame
      subst hsame
      by_cases hnil : markedOwner first = []
      · simp [hnil] at howner
      · simp only [hnil, if_false, Option.some.injEq] at howner
        rw [← howner, String.toList_ofList]
    · intro hnames
      have hvalue := hnames front first rest hfront (by simpa using hbefore) hfirst
      simp only [hvalue, hne, if_false, String.ofList_toList]

/-- A job id as the jobs table has them. -/
def sampleJobId : String := "3f6c1c1e-8f0b-4b7e-9d2a-0a4c5b7d9e11"

theorem sampleJobId_text : JobIdText sampleJobId where
  nonempty := by decide
  solid := by
    have hsolid : sampleJobId.toList.all (fun c => !pySpace c) = true := by decide
    intro c hc
    simpa using List.all_eq_true.mp hsolid c hc

theorem ownerMarker_roundTrip_iff_plain :
    ownerFromAnnotation ( ownerAnnotation "Web server" sampleJobId) = some sampleJobId := by
  refine (ownerMarker_roundTrip_iff sampleJobId_text "Web server").mpr ?_
  have hnone : (strippedLines "Web server").find? marksOwner = none := by decide
  intro before line after hsplit _ hline
  exact absurd hline (List.find?_eq_none.mp hnone line (by simp [hsplit]))

/-- A description whose first line names another job makes the VM that job's. -/
theorem ownerMarker_foreign :
    JobIdText sampleJobId ∧
      ownerFromAnnotation ( ownerAnnotation
          "InfraOps-Job-ID: 11111111-1111-4111-8111-111111111111" sampleJobId) =
        some "11111111-1111-4111-8111-111111111111" := by
  refine ⟨sampleJobId_text, ?_⟩
  have hfirst : (strippedLines "InfraOps-Job-ID: 11111111-1111-4111-8111-111111111111").find?
      marksOwner = some "InfraOps-Job-ID: 11111111-1111-4111-8111-111111111111".toList := by
    decide
  have howner : markedOwner "InfraOps-Job-ID: 11111111-1111-4111-8111-111111111111".toList =
      "11111111-1111-4111-8111-111111111111".toList := by decide
  rw [ ownerFromAnnotation_ownerAnnotation sampleJobId_text, hfirst]
  simp only [howner, String.ofList_toList]
  rw [if_neg]
  decide

end InfraOps
