import InfraOps.Applications.Paths
import InfraOps.Support.Separated

/-!
# Root containment

A path is inside a root exactly if both are absolute paths and the folded segments of the root
are the first of the path's, with more behind them.
-/

namespace InfraOps

/-! ## Absolute paths -/

def driveLetter (c : Char) : Prop := ('a' ≤ c ∧ c ≤ 'z') ∨ ('A' ≤ c ∧ c ≤ 'Z')

/-- Allowed characters, no traversal, and no space or dot at the end. -/
structure PlainSegment (segment : List Char) : Prop where
  valid : validSegment segment = true
  noTraversal : pyStrip segment ≠ ['.'] ∧ pyStrip segment ≠ ['.', '.']
  closed : dropRight (fun c => c == ' ' || c == '.') segment = segment

/-- An absolute drive or UNC path, and its segments. -/
inductive Absolute : List Char → List (List Char) → Prop
  | drive (letter : Char) (segments : List (List Char)) :
      driveLetter letter → segments ≠ [] → (∀ segment ∈ segments, PlainSegment segment) →
      Absolute (letter :: ':' :: '\\' :: ['\\'].intercalate segments) ([letter, ':'] :: segments)
  | unc (host : List Char) (segments : List (List Char)) :
      validHost host = true → segments ≠ [] → (∀ segment ∈ segments, PlainSegment segment) →
      Absolute ('\\' :: '\\' :: ['\\'].intercalate (host :: segments)) (host :: segments)

theorem backslash_notMem_of_valid {segment : List Char} (h : validSegment segment = true) :
    '\\' ∉ segment := by
  intro hmem
  rw [validSegment, Bool.and_eq_true, List.all_eq_true] at h
  exact absurd (h.2 _ hmem) (by decide)

theorem mem_host {host : List Char} (h : validHost host = true) {c : Char} (hc : c ∈ host) :
    asciiAlphanum c = true ∨ c = '.' ∨ c = '-' := by
  simp only [validHost, Bool.and_eq_true, List.all_eq_true, Bool.or_eq_true, beq_iff_eq] at h
  rw [← or_assoc]
  exact h.1.1.2 c hc

theorem backslash_notMem_host {host : List Char} (h : validHost host = true) : '\\' ∉ host := by
  intro hmem
  rcases mem_host h hmem with hc | hc | hc <;> revert hc <;> decide

theorem splitPath_intercalate {segments : List (List Char)} (hne : segments ≠ [])
    (h : ∀ segment ∈ segments, '\\' ∉ segment) :
    splitPath (['\\'].intercalate segments) = segments :=
  List.splitOn_intercalate '\\' h hne

theorem splitPath_drive {letter : Char} (h : driveLetter letter) (rest : List Char) :
    splitPath (letter :: ':' :: '\\' :: rest) = [letter, ':'] :: splitPath rest := by
  have hletter : '\\' ∉ [letter, ':'] := by
    intro hmem
    rcases List.mem_cons.mp hmem with rfl | hmem
    · revert h
      unfold driveLetter
      decide
    · simp at hmem
  exact List.splitOn_append_cons_self_of_not_mem hletter rest

theorem splitPath_unc (rest : List Char) :
    splitPath ('\\' :: '\\' :: rest) = [] :: [] :: splitPath rest := by
  have hsep : backslash '\\' = true := rfl
  rw [splitPath, List.splitOnP_cons_eq_if_modifyHead, if_pos hsep,
    List.splitOnP_cons_eq_if_modifyHead, if_pos hsep]
  rfl

theorem splitPath_driveJoin {letter : Char} {segments : List (List Char)} (h : driveLetter letter)
    (hne : segments ≠ []) (hvalid : ∀ segment ∈ segments, validSegment segment = true) :
    splitPath (letter :: ':' :: '\\' :: ['\\'].intercalate segments) =
      [letter, ':'] :: segments := by
  rw [splitPath_drive h, splitPath_intercalate hne
    fun segment hs => backslash_notMem_of_valid (hvalid segment hs)]

theorem splitPath_uncJoin {host : List Char} {segments : List (List Char)}
    (h : validHost host = true) (hvalid : ∀ segment ∈ segments, validSegment segment = true) :
    splitPath ('\\' :: '\\' :: ['\\'].intercalate (host :: segments)) =
      [] :: [] :: host :: segments := by
  rw [splitPath_unc, splitPath_intercalate (List.cons_ne_nil _ _) (List.forall_mem_cons.mpr
    ⟨backslash_notMem_host h, fun segment hs => backslash_notMem_of_valid (hvalid segment hs)⟩)]

/-! ## The two patterns -/

theorem drivePath_iff {path : List Char} : drivePath path = true ↔
    ∃ letter segments, driveLetter letter ∧ segments ≠ [] ∧
      (∀ segment ∈ segments, validSegment segment = true) ∧
      path = letter :: ':' :: '\\' :: ['\\'].intercalate segments := by
  constructor
  · intro h
    unfold drivePath at h
    split at h
    · rename_i letter rest
      simp only [Bool.and_eq_true, Bool.or_eq_true, decide_eq_true_eq, List.all_eq_true] at h
      exact ⟨letter, splitPath rest, h.1, List.splitOnP_ne_nil _ _, h.2,
        congrArg (letter :: ':' :: '\\' :: ·) (List.intercalate_splitOn '\\').symm⟩
    · cases h
  · rintro ⟨letter, segments, hletter, hne, hvalid, rfl⟩
    have hsplit := splitPath_intercalate hne fun s hs => backslash_notMem_of_valid (hvalid s hs)
    simp only [drivePath, hsplit, Bool.and_eq_true, Bool.or_eq_true, decide_eq_true_eq,
      List.all_eq_true]
    exact ⟨hletter, hvalid⟩

theorem uncPath_iff {path : List Char} : uncPath path = true ↔
    ∃ host segments, validHost host = true ∧ segments ≠ [] ∧
      (∀ segment ∈ segments, validSegment segment = true) ∧
      path = '\\' :: '\\' :: ['\\'].intercalate (host :: segments) := by
  constructor
  · intro h
    unfold uncPath at h
    split at h
    · rename_i rest
      split at h
      · rename_i host segment segments hsplit
        rw [Bool.and_eq_true, List.all_eq_true] at h
        refine ⟨host, segment :: segments, h.1, List.cons_ne_nil _ _, h.2, ?_⟩
        rw [← hsplit]
        exact congrArg ('\\' :: '\\' :: ·) (List.intercalate_splitOn '\\').symm
      · cases h
    · cases h
  · rintro ⟨host, segments, hhost, hne, hvalid, rfl⟩
    have hsplit : splitPath (['\\'].intercalate (host :: segments)) = host :: segments :=
      splitPath_intercalate (List.cons_ne_nil _ _) (List.forall_mem_cons.mpr
        ⟨backslash_notMem_host hhost, fun s hs => backslash_notMem_of_valid (hvalid s hs)⟩)
    obtain ⟨segment, segments, rfl⟩ := List.exists_cons_of_ne_nil hne
    simp only [uncPath, hsplit, Bool.and_eq_true, List.all_eq_true]
    exact ⟨hhost, hvalid⟩

/-! ## Validation -/

/-- The segments of either form, and what stands before them on the list of pieces. -/
theorem Absolute.splitPath {path : List Char} {segments : List (List Char)}
    (h : Absolute path segments) :
    splitPath path = segments ∨ splitPath path = [] :: [] :: segments := by
  cases h with
  | drive letter segments hletter hne hplain =>
    exact .inl (splitPath_driveJoin hletter hne fun segment hs => (hplain segment hs).valid)
  | unc host segments hhost hne hplain =>
    exact .inr (splitPath_uncJoin hhost fun segment hs => (hplain segment hs).valid)

theorem ne_nil_of_valid {segment : List Char} (h : validSegment segment = true) :
    segment ≠ [] := by
  rintro rfl
  cases h

/-- The checks of `validate_windows_path` behind the patterns. -/
structure PlainSegments (segments : List (List Char)) : Prop where
  noTraversal : ∀ segment ∈ segments, pyStrip segment ≠ ['.'] ∧ pyStrip segment ≠ ['.', '.']
  closed : ∀ segment ∈ segments,
    dropRight (fun c => c == ' ' || c == '.') segment = segment

theorem validateWindowsPath_eq_ok_iff {label : String} {value path : List Char} :
    validateWindowsPath label value = .ok path ↔
      path = pyStrip value ∧ path ≠ [] ∧ '/' ∉ path ∧
        (uncPath path = true ∨ drivePath path = true) ∧ PlainSegments (pathSegments path) := by
  have htraversal : ((pathSegments (pyStrip value)).any fun segment =>
      pyStrip segment = ['.'] || pyStrip segment = ['.', '.']) = false ↔
      ∀ segment ∈ pathSegments (pyStrip value),
        pyStrip segment ≠ ['.'] ∧ pyStrip segment ≠ ['.', '.'] := by
    simp only [List.any_eq_false, Bool.or_eq_true, decide_eq_true_eq, not_or, ne_eq]
  have hclosed : ((pathSegments (pyStrip value)).any fun segment =>
      segment ≠ dropRight (fun c => c == ' ' || c == '.') segment) = false ↔
      ∀ segment ∈ pathSegments (pyStrip value),
        dropRight (fun c => c == ' ' || c == '.') segment = segment := by
    rw [List.any_eq_false]
    refine forall_congr' fun segment => forall_congr' fun _ => ?_
    rw [decide_eq_true_eq, not_not, eq_comm]
  constructor
  · intro h
    unfold validateWindowsPath at h
    dsimp only at h
    split at h
    · cases h
    split at h
    · cases h
    split at h
    · cases h
    split at h
    · cases h
    split at h
    · cases h
    rename_i hne hslash hform hdots hends
    cases h
    refine ⟨rfl, hne, hslash, ?_, htraversal.mp (by simpa using hdots),
      hclosed.mp (Bool.eq_false_iff.mpr hends)⟩
    simpa only [Bool.not_eq_true', Bool.not_eq_false, Bool.or_eq_true] using hform
  · rintro ⟨rfl, hne, hslash, hform, hplain⟩
    have hform : (!(uncPath (pyStrip value) || drivePath (pyStrip value))) = false := by
      rw [Bool.not_eq_false', Bool.or_eq_true]
      exact hform
    unfold validateWindowsPath
    dsimp only
    rw [if_neg hne, if_neg hslash, hform, htraversal.mpr hplain.noTraversal,
      hclosed.mpr hplain.closed]
    rfl

/-! ## What is accepted -/

theorem toNat_of_driveLetter {c : Char} (h : driveLetter c) : c.toNat < 128 := by
  rcases h with h | h
  · exact ascii_of_le h.2 (by decide)
  · exact ascii_of_le h.2 (by decide)

theorem toNat_of_mem_host {host : List Char} (h : validHost host = true) {c : Char}
    (hc : c ∈ host) : c.toNat < 128 := by
  rcases mem_host h hc with hc | rfl | rfl
  · exact toNat_of_asciiAlphanum hc
  · decide
  · decide

theorem hostChar_kept {host : List Char} (h : validHost host = true) {c : Char} (hc : c ∈ host) :
    pySpace c = false ∧ c.toLower ≠ ':' := by
  have hkept : (asciiAlphanum c = true ∨ c = '.' ∨ c = '-') → pySpace c = false ∧ c.toLower ≠ ':' :=
    forall_ascii (p := fun c => (asciiAlphanum c = true ∨ c = '.' ∨ c = '-') →
      pySpace c = false ∧ c.toLower ≠ ':') (by decide +kernel) (toNat_of_mem_host h hc)
  exact hkept (mem_host h hc)

theorem driveLetter_kept {c : Char} (h : driveLetter c) :
    pySpace c = false ∧ (c == ' ' || c == '.') = false := by
  have hkept : driveLetter c → pySpace c = false ∧ (c == ' ' || c == '.') = false := by
    unfold driveLetter
    exact forall_ascii (p := fun c => (('a' ≤ c ∧ c ≤ 'z') ∨ ('A' ≤ c ∧ c ≤ 'Z')) →
      pySpace c = false ∧ (c == ' ' || c == '.') = false) (by decide +kernel)
      (toNat_of_driveLetter h)
  exact hkept h

/-- A host is never taken for a traversal, and ends with neither a space nor a dot. -/
theorem plain_host {host : List Char} (h : validHost host = true) :
    (pyStrip host ≠ ['.'] ∧ pyStrip host ≠ ['.', '.']) ∧
      dropRight (fun c => c == ' ' || c == '.') host = host := by
  have hstrip : pyStrip host = host :=
    trim_of_forall fun c hc => (hostChar_kept h hc).1
  simp only [validHost, Bool.and_eq_true] at h
  refine ⟨?_, ?_⟩
  · rw [hstrip]
    refine ⟨?_, ?_⟩ <;> rintro rfl <;> simp [asciiAlphanum] at h
  · have hlast := h.2
    refine List.rdropWhile_eq_self_iff.mpr fun hne hdrop => ?_
    rw [List.getLast?_eq_some_getLast hne, Option.all_some] at hlast
    rw [Bool.or_eq_true, beq_iff_eq, beq_iff_eq] at hdrop
    rcases hdrop with hend | hend <;> rw [hend] at hlast <;> revert hlast <;> decide

theorem plain_drive {letter : Char} (h : driveLetter letter) :
    (pyStrip [letter, ':'] ≠ ['.'] ∧ pyStrip [letter, ':'] ≠ ['.', '.']) ∧
      dropRight (fun c => c == ' ' || c == '.') [letter, ':'] = [letter, ':'] := by
  have hstrip : pyStrip [letter, ':'] = [letter, ':'] := by
    refine trim_of_forall fun c hc => ?_
    rcases List.mem_pair.mp hc with rfl | rfl
    · exact (driveLetter_kept h).1
    · decide
  rw [hstrip]
  exact ⟨⟨by simp, by simp⟩, rfl⟩

/-- What `validate_windows_path` asks of a segment, behind the patterns. -/
structure Accepted (segment : List Char) : Prop where
  ne_nil : segment ≠ []
  noSlash : '/' ∉ segment
  noTraversal : pyStrip segment ≠ ['.'] ∧ pyStrip segment ≠ ['.', '.']
  closed : dropRight (fun c => c == ' ' || c == '.') segment = segment

theorem PlainSegment.accepted {segment : List Char} (h : PlainSegment segment) :
    Accepted segment where
  ne_nil := ne_nil_of_valid h.valid
  noSlash hmem := by
    have hvalid := h.valid
    rw [validSegment, Bool.and_eq_true, List.all_eq_true] at hvalid
    exact absurd (hvalid.2 _ hmem) (by decide)
  noTraversal := h.noTraversal
  closed := h.closed

theorem Absolute.accepted {path : List Char} {segments : List (List Char)}
    (h : Absolute path segments) : ∀ segment ∈ segments, Accepted segment := by
  cases h with
  | drive letter segments hletter hne hplain =>
    refine List.forall_mem_cons.mpr ⟨⟨List.cons_ne_nil _ _, ?_, (plain_drive hletter).1,
      (plain_drive hletter).2⟩, fun segment hs => (hplain segment hs).accepted⟩
    intro hmem
    rcases List.mem_pair.mp hmem with rfl | hcolon
    · revert hletter
      unfold driveLetter
      decide
    · cases hcolon
  | unc host segments hhost hne hplain =>
    refine List.forall_mem_cons.mpr ⟨⟨?_, ?_, (plain_host hhost).1, (plain_host hhost).2⟩,
      fun segment hs => (hplain segment hs).accepted⟩
    · rintro rfl
      cases hhost
    · intro hmem
      rcases mem_host hhost hmem with hc | hc | hc <;> revert hc <;> decide

theorem Absolute.pathSegments {path : List Char} {segments : List (List Char)}
    (h : Absolute path segments) : pathSegments path = segments := by
  have hkept : (segments.filter fun segment => segment ≠ []) = segments :=
    List.filter_eq_self.mpr fun segment hs => decide_eq_true (h.accepted segment hs).ne_nil
  rcases h.splitPath with hsplit | hsplit
  · rw [InfraOps.pathSegments, hsplit, hkept]
  · rw [InfraOps.pathSegments, hsplit]
    exact hkept

/-- What is accepted is exactly an absolute drive or UNC path, trimmed. -/
theorem validateWindowsPath_iff {label : String} {value path : List Char} :
    validateWindowsPath label value = .ok path ↔
      path = pyStrip value ∧ ∃ segments, Absolute path segments := by
  rw [validateWindowsPath_eq_ok_iff]
  refine and_congr_right fun _ => ?_
  constructor
  · rintro ⟨-, -, hform, hplain⟩
    have hmem {segment : List Char} (hsplit : segment ∈ splitPath path)
        (hvalid : validSegment segment = true) : PlainSegment segment := by
      have hs : segment ∈ pathSegments path :=
        List.mem_filter.mpr ⟨hsplit, decide_eq_true (ne_nil_of_valid hvalid)⟩
      exact ⟨hvalid, hplain.noTraversal segment hs, hplain.closed segment hs⟩
    rcases hform with hunc | hdrive
    · obtain ⟨host, segments, hhost, hne, hvalid, rfl⟩ := uncPath_iff.mp hunc
      refine ⟨_, .unc host segments hhost hne fun segment hs => hmem ?_ (hvalid segment hs)⟩
      rw [splitPath_uncJoin hhost hvalid]
      exact .tail _ (.tail _ (.tail _ hs))
    · obtain ⟨letter, segments, hletter, hne, hvalid, rfl⟩ := drivePath_iff.mp hdrive
      refine ⟨_, .drive letter segments hletter hne fun segment hs => hmem ?_ (hvalid segment hs)⟩
      rw [splitPath_driveJoin hletter hne hvalid]
      exact .tail _ hs
  · rintro ⟨segments, h⟩
    refine ⟨?_, ?_, ?_, ?_⟩
    · rintro rfl
      cases h
    · intro hslash
      have hpieces : '/' = '\\' ∨ ∃ piece ∈ splitPath path, '/' ∈ piece := mem_piece_of_mem hslash
      rcases hpieces with hsep | ⟨piece, hpiece, hmem⟩
      · cases hsep
      · rcases h.splitPath with hsplit | hsplit
        · rw [hsplit] at hpiece
          exact (h.accepted piece hpiece).noSlash hmem
        · rw [hsplit, List.mem_cons, List.mem_cons] at hpiece
          rcases hpiece with rfl | rfl | hpiece
          · cases hmem
          · cases hmem
          · exact (h.accepted piece hpiece).noSlash hmem
    · cases h with
      | drive letter segments hletter hne hplain =>
        exact .inr (drivePath_iff.mpr ⟨letter, segments, hletter, hne,
          fun segment hs => (hplain segment hs).valid, rfl⟩)
      | unc host segments hhost hne hplain =>
        exact .inl (uncPath_iff.mpr ⟨host, segments, hhost, hne,
          fun segment hs => (hplain segment hs).valid, rfl⟩)
    · rw [h.pathSegments]
      exact ⟨fun segment hs => (h.accepted segment hs).noTraversal,
        fun segment hs => (h.accepted segment hs).closed⟩

/-! ## Containment -/

section

variable {casefold : Char → List Char}

/-- The segments as the comparison sees them. -/
def foldedSegments (casefold : Char → List Char) (segments : List (List Char)) :
    List (List Char) :=
  segments.map (·.flatMap casefold)

/-- Some segments are the first of the others, which are more. -/
def ProperPrefix (inner outer : List (List Char)) : Prop :=
  ∃ rest, rest ≠ [] ∧ outer = inner ++ rest

theorem properPrefix_cons {a b : List Char} {inner outer : List (List Char)} :
    ProperPrefix (a :: inner) (b :: outer) ↔ b = a ∧ ProperPrefix inner outer := by
  constructor
  · rintro ⟨rest, hrest, heq⟩
    obtain ⟨hab, heq⟩ := List.cons.inj heq
    exact ⟨hab, rest, hrest, heq⟩
  · rintro ⟨rfl, rest, hrest, rfl⟩
    exact ⟨rest, hrest, rfl⟩

/-- `validate_installer_root` trims, drops the backslashes at the end, and trims again. -/
def trimmedRoot (root : List Char) : List Char := pyStrip (dropRight backslash (pyStrip root))

theorem Absolute.last {path : List Char} {segments : List (List Char)}
    (h : Absolute path segments) : dropRight backslash path = path := by
  refine List.rdropWhile_eq_self_iff.mpr fun hne hlast => ?_
  -- behind a last backslash there would be an empty segment
  have hsplit : InfraOps.splitPath path = InfraOps.splitPath path.dropLast ++ [[]] := by
    conv_lhs => rw [← List.dropLast_append_getLast hne, eq_of_beq hlast]
    exact List.splitOn_append_cons_self path.dropLast []
  have hempty : [] ∈ segments := by
    have hsegments : segments ≠ [] := by cases h <;> exact List.cons_ne_nil _ _
    have hlast : (InfraOps.splitPath path).getLast? = segments.getLast? := by
      obtain ⟨segment, rest, rfl⟩ := List.exists_cons_of_ne_nil hsegments
      rcases h.splitPath with heq | heq <;> rw [heq]
      rw [List.getLast?_cons_cons, List.getLast?_cons_cons]
    rw [hsplit, List.getLast?_concat] at hlast
    exact List.mem_of_getLast? hlast.symm
  exact (h.accepted [] hempty).ne_nil rfl

theorem normalise_absolute {value : List Char} {segments : List (List Char)}
    (h : Absolute (pyStrip value) segments) :
    normalise casefold (pyStrip value) = (pyStrip value).flatMap casefold := by
  have hstrip : pyStrip (pyStrip value) = pyStrip value := trim_trim (p := pySpace) value
  rw [normalise, hstrip, h.last]

variable (hascii : ∀ c, c.toNat < 128 → casefold c = [c.toLower])
variable (hother : ∀ c, 128 ≤ c.toNat → '\\' ∉ casefold c)

include hascii hother

theorem splitPath_flatMap (path : List Char) :
    splitPath (path.flatMap casefold) = foldedSegments casefold (splitPath path) := by
  refine splitOn_flatMap (hascii '\\' (by decide)) (fun c hc hmem => ?_) path
  by_cases hlt : c.toNat < 128
  · rw [hascii c hlt, List.mem_singleton] at hmem
    have hlower : '\\' = c.toLower → c = '\\' :=
      forall_ascii (p := fun c => '\\' = c.toLower → c = '\\') (by decide +kernel) hlt
    exact hc (hlower hmem)
  · exact hother c (not_lt.mp hlt) hmem

omit hother in
theorem flatMap_host {host : List Char} (h : validHost host = true) :
    ':' ∉ host.flatMap casefold := by
  intro hmem
  obtain ⟨c, hc, hcolon⟩ := List.mem_flatMap.mp hmem
  rw [hascii c (toNat_of_mem_host h hc), List.mem_singleton] at hcolon
  exact (hostChar_kept h hc).2 hcolon.symm

omit hother in
theorem flatMap_drive {letter : Char} (h : driveLetter letter) :
    [letter, ':'].flatMap casefold = [letter.toLower, ':'] := by
  rw [List.flatMap_cons, List.flatMap_cons, List.flatMap_nil,
    hascii letter (toNat_of_driveLetter h), hascii ':' (by decide)]
  rfl

theorem prefix_iff {root path : List Char} {rootSegments segments : List (List Char)}
    (hroot : Absolute root rootSegments) (hpath : Absolute path segments) :
    root.flatMap casefold ++ ['\\'] <+: path.flatMap casefold ↔
      ProperPrefix (foldedSegments casefold rootSegments) (foldedSegments casefold segments) := by
  have hpieces : root.flatMap casefold ++ ['\\'] <+: path.flatMap casefold ↔
      ProperPrefix (foldedSegments casefold (splitPath root))
        (foldedSegments casefold (splitPath path)) := by
    rw [← splitPath_flatMap hascii hother, ← splitPath_flatMap hascii hother]
    exact append_sep_prefix_iff
  rw [hpieces]
  cases hroot with
  | drive letter rootSegments hletter hne hplain =>
    rw [splitPath_driveJoin hletter hne fun segment hs => (hplain segment hs).valid]
    cases hpath with
    | drive letter' segments hletter' hne' hplain' =>
      rw [splitPath_driveJoin hletter' hne' fun segment hs => (hplain' segment hs).valid]
    | unc host segments hhost hne' hplain' =>
      rw [splitPath_uncJoin hhost fun segment hs => (hplain' segment hs).valid]
      simp only [foldedSegments, List.map_cons, properPrefix_cons, flatMap_drive hascii hletter]
      refine iff_of_false (fun h => by cases h.1) fun h => flatMap_host hascii hhost ?_
      rw [h.1]
      exact List.mem_cons_of_mem _ (List.mem_singleton_self ':')
  | unc host rootSegments hhost hne hplain =>
    rw [splitPath_uncJoin hhost fun segment hs => (hplain segment hs).valid]
    cases hpath with
    | drive letter segments hletter hne' hplain' =>
      rw [splitPath_driveJoin hletter hne' fun segment hs => (hplain' segment hs).valid]
      simp only [foldedSegments, List.map_cons, properPrefix_cons, flatMap_drive hascii hletter]
      refine iff_of_false (fun h => by cases h.1) fun h => flatMap_host hascii hhost ?_
      rw [← h.1]
      exact List.mem_cons_of_mem _ (List.mem_singleton_self ':')
    | unc host' segments hhost' hne' hplain' =>
      rw [splitPath_uncJoin hhost' fun segment hs => (hplain' segment hs).valid]
      simp only [foldedSegments, List.map_cons, properPrefix_cons, true_and]

/-- A path is within the roots exactly if it is an absolute path and, for some root that is
one, the folded segments of the root are the first of its own. -/
theorem pathWithinRoots_iff (path : List Char) (roots : List (List Char)) :
    pathWithinRoots casefold path roots = true ↔
      ∃ segments, Absolute (pyStrip path) segments ∧ ∃ root ∈ roots, ∃ rootSegments,
        Absolute (trimmedRoot root) rootSegments ∧
          ProperPrefix (foldedSegments casefold rootSegments)
            (foldedSegments casefold segments) := by
  have hvalid {label : String} {value : List Char} {segments : List (List Char)}
      (h : Absolute (pyStrip value) segments) :
      validateWindowsPath label value = .ok (pyStrip value) :=
    validateWindowsPath_iff.mpr ⟨rfl, segments, h⟩
  rw [pathWithinRoots]
  constructor
  · intro h
    split at h
    · cases h
    · rename_i candidate hcandidate
      obtain ⟨rfl, segments, hpath⟩ := validateWindowsPath_iff.mp hcandidate
      obtain ⟨root, hroot, h⟩ := List.any_eq_true.mp h
      split at h
      · cases h
      · rename_i clean hclean
        obtain ⟨rfl, rootSegments, hrootPath⟩ := validateWindowsPath_iff.mp hclean
        rw [normalise_absolute hpath, normalise_absolute hrootPath,
          List.isPrefixOf_iff_prefix] at h
        exact ⟨segments, hpath, root, hroot, rootSegments, hrootPath,
          (prefix_iff hascii hother hrootPath hpath).mp h⟩
  · rintro ⟨segments, hpath, root, hroot, rootSegments, hrootPath, hproper⟩
    rw [hvalid hpath]
    refine List.any_eq_true.mpr ⟨root, hroot, ?_⟩
    rw [validateInstallerRoot, hvalid hrootPath]
    dsimp only
    have hrootPath : Absolute (pyStrip (dropRight backslash (pyStrip root))) rootSegments :=
      hrootPath
    rw [normalise_absolute hpath, normalise_absolute hrootPath, List.isPrefixOf_iff_prefix]
    exact (prefix_iff hascii hother hrootPath hpath).mpr hproper

end

theorem backslash_notMem_asciiFold (c : Char) (hc : 128 ≤ c.toNat) : '\\' ∉ asciiFold c := by
  rw [asciiFold, List.mem_singleton, toLower_of_not_ascii hc]
  rintro rfl
  exact absurd hc (by decide)

theorem pathWithinRoots_iff_sevenZip :
    ∃ segments, Absolute (pyStrip "\\\\srv\\Apps\\7zip.msi".toList) segments ∧
      ∃ root ∈ ["\\\\SRV\\apps\\".toList], ∃ rootSegments,
        Absolute (trimmedRoot root) rootSegments ∧
          ProperPrefix (foldedSegments asciiFold rootSegments)
            (foldedSegments asciiFold segments) :=
  (pathWithinRoots_iff (fun _ _ => rfl) backslash_notMem_asciiFold
    "\\\\srv\\Apps\\7zip.msi".toList ["\\\\SRV\\apps\\".toList]).mp (by decide +kernel)

end InfraOps
