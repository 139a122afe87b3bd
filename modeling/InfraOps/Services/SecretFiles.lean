import InfraOps.Services.GuestScripts
import InfraOps.Support.Cleanup

/-!
# The secret files of a script

`GuestOperations.run_powershell` of `app/services/guest/base.py`, over `upload_file` and
`delete_file` of `app/services/guest/vmware_tools.py`. A deletion that the guest is asked for
is carried out, whatever becomes of the call; a file's content can arrive without the upload
returning.
-/

namespace InfraOps.SecretFiles

/-- What a call raises: an `InfraOperationError`, another `Exception`, or a cancellation. -/
inductive Fault
  | operation
  | other
  | cancelled
  deriving DecidableEq

/-- `except Exception as exc: raise _wrap(...)`; a cancellation is no `Exception`. -/
def Fault.wrapped : Fault → Fault
  | .cancelled => .cancelled
  | _ => .operation

/-- The guest's files, and the paths whose content has reached it. -/
structure Guest where
  files : String → Option ByteArray
  reached : List String := []

def Guest.write (g : Guest) (path : String) (content : ByteArray) : Guest where
  files p := if p = path then some content else g.files p
  reached := path :: g.reached

def Guest.remove (g : Guest) (path : String) : Guest :=
  { g with files := fun p => if p = path then none else g.files p }

structure CommandResult where
  exitCode : Int
  stdout : String
  stderr : String
  durationSeconds : Rat

/-! ## Calls -/

/-- How an upload goes: `_find_vm`, the request for a URL, whether the content arrives, and the
status of the transfer or what it raised. -/
structure UploadAnswers where
  find : Option Fault := none
  initiate : Option Fault := none
  arrives : Bool := true
  response : Except Fault Nat := .ok 200

/-- `_transfer`. -/
def transferFault : Except Fault Nat → Option Fault
  | .ok status => if 300 ≤ status then some .operation else none
  | .error fault => some fault.wrapped

def UploadAnswers.fault (a : UploadAnswers) : Option Fault :=
  match a.find, a.initiate with
  | some fault, _ => some fault
  | none, some fault => some fault.wrapped
  | none, none => transferFault a.response

/-- The content is sent once the URL is known. -/
def UploadAnswers.arrived (a : UploadAnswers) : Bool :=
  a.find.isNone && a.initiate.isNone && a.arrives

/-- `upload_file`. -/
def uploadFile (a : UploadAnswers) (content : ByteArray) (path : String) (g : Guest) :
    Option Fault × Guest :=
  (a.fault, if a.arrived then g.write path content else g)

/-- How a deletion goes: `_find_vm`, then what the request raised. -/
structure DeleteAnswers where
  find : Option Fault := none
  delete : Option Fault := none

def DeleteAnswers.fault (a : DeleteAnswers) : Option Fault :=
  match a.find with
  | some fault => some fault
  | none => a.delete.map Fault.wrapped

/-- `delete_file`; without the VM there is no request. -/
def deleteFile (a : DeleteAnswers) (path : String) (g : Guest) : Option Fault × Guest :=
  (a.fault, if a.find.isNone then g.remove path else g)

/-- How the run goes: the files that the script has removed by its end, and its result. -/
structure RunAnswers where
  removes : String → Bool := fun _ => false
  result : Except Fault CommandResult

def runProgram (a : RunAnswers) (g : Guest) : Except Fault CommandResult × Guest :=
  (a.result, { g with files := fun p => if a.removes p then none else g.files p })

structure Answers where
  upload : String → UploadAnswers := fun _ => {}
  run : RunAnswers
  delete : String → DeleteAnswers := fun _ => {}

/-! ## `run_powershell` -/

def guestTempDir : String := "C:\\Windows\\Temp"

def newTempPath (token suffix : String) : String :=
  guestTempDir ++ "\\infraops-" ++ token ++ "." ++ suffix

/-- `secret_paths`, each with its value. -/
def secretFiles (token : String) (secrets : List (String × String)) :
    List (String × String × String) :=
  secrets.zipIdx.map fun ((name, value), index) =>
    (name, newTempPath (token ++ "-" ++ toString index) "dat", value)

/-- `encode_script`. -/
def encodeScript (text : String) : ByteArray := ByteArray.mk #[0xEF, 0xBB, 0xBF] ++ text.toUTF8

/-- `"\r\n".join(lines) + "\r\n"`. -/
def joinTexts (lines : List String) : String := String.join (lines.map (· ++ "\r\n"))

/-- The lines that read one secret and delete its file. -/
def secretTexts (name path : String) : List String :=
  ["try \x7b",
    "    $InfraOpsSecrets[" ++ psQuote name ++ "] = [System.IO.File]::ReadAllText(" ++
      psQuote path ++ ", [System.Text.Encoding]::UTF8)",
    "\x7d finally \x7b",
    "    Remove-Item -LiteralPath " ++ psQuote path ++ " -Force -ErrorAction SilentlyContinue",
    "\x7d"]

/-- `build_script_file`, around any text. -/
def scriptFile (script : String) (secretPaths : List (String × String)) :
    Except ScriptError String :=
  match secretPaths.find? fun s => !isSecretName s.1 with
  | some (name, _) => .error (.invalidSecretName name)
  | none =>
    .ok <| joinTexts <|
      ["$ProgressPreference = 'SilentlyContinue'",
        "try \x7b [Console]::OutputEncoding = New-Object System.Text.UTF8Encoding " ++
          "$false \x7d catch \x7b \x7d",
        "$InfraOpsSecrets = @\x7b\x7d"] ++
      secretPaths.flatMap (fun s => secretTexts s.1 s.2) ++ [script]

theorem textOf_append (xs ys : List powerShell.Part) :
    textOf (xs ++ ys) = textOf xs ++ textOf ys := by
  rw [textOf, textOf, textOf, List.map_append, String.join_append]

theorem partText_fixed (chars : String) (ok : powerShell.isText true chars.toList = true) :
    partText (fixed chars ok) = chars := by
  simp [fixed, partText]

theorem partText_fixedString (chars : String)
    (ok : powerShell.isText false chars.toList = true) :
    partText (fixedString chars ok) = chars := by
  simp [fixedString, partText]

theorem partText_quoted (value : String) : partText (quoted value) = psQuote value := by
  simp [quoted, partText]

theorem text_joinLines (lines : List Script) :
    (joinLines lines).text = joinTexts (lines.map Script.text) := by
  induction lines with
  | nil => rfl
  | cons line lines ih =>
    have hparts : (joinLines (line :: lines)).parts =
        (line.parts ++ [fixed "\r\n"]) ++ (joinLines lines).parts := rfl
    have hend : textOf [fixed "\r\n"] = "\r\n" := by simp [textOf, partText_fixed]
    rw [Script.text, hparts, textOf_append, textOf_append, hend]
    rw [Script.text] at ih
    rw [ih, joinTexts, joinTexts, List.map_cons, List.map_cons, String.join_cons, Script.text]

theorem text_secretLines (name path : String) :
    (secretLines name path).map Script.text = secretTexts name path := by
  simp [secretLines, secretTexts, line, Script.text, textOf, partText_fixed, partText_quoted,
    String.append_assoc]

/-- The generated scripts are put into the same file. -/
theorem scriptFile_text (script : Script) (secretPaths : List (String × String)) :
    (buildScriptFile script secretPaths).map Script.text = scriptFile script.text secretPaths := by
  unfold buildScriptFile scriptFile
  cases secretPaths.find? fun s => !isSecretName s.1 with
  | some _ => rfl
  | none =>
    simp only [Except.map, text_joinLines, List.map_append, List.map_flatMap, text_secretLines,
      List.map_cons, List.map_nil]
    simp only [line, Script.text, textOf, List.map_cons, List.map_nil, partText_fixed,
      partText_fixedString, String.join_cons, String.join_nil, String.append_empty]

/-- The secrets' uploads, with what is remembered of them. -/
def uploadSecrets (answers : String → UploadAnswers) :
    List (String × String) → Guest → Option Fault × List String × Guest
  | [], g => (none, [], g)
  | (path, value) :: files, g =>
    match uploadFile (answers path) value.toUTF8 path g with
    | (some fault, g) => (some fault, [], g)
    | (none, g) =>
      let (fault, uploaded, g) := uploadSecrets answers files g
      (fault, path :: uploaded, g)

/-- The `finally` block: the first exception other than an `InfraOperationError` ends it. -/
def deleteUploaded (answers : String → DeleteAnswers) :
    List String → Guest → Option Fault × Guest
  | [], g => (none, g)
  | path :: paths, g =>
    match deleteFile (answers path) path g with
    | (none, g) => deleteUploaded answers paths g
    | (some .operation, g) => deleteUploaded answers paths g
    | (some fault, g) => (some fault, g)

/-- The `try` block: its outcome, the files to delete, and the guest. -/
def uploadAndRun (answers : Answers) (script token : String) (secrets : List (String × String))
    (g : Guest) : Except Fault CommandResult × List String × Guest :=
  let files := secretFiles token secrets
  let scriptPath := newTempPath token "ps1"
  match uploadSecrets answers.upload (files.map Prod.snd) g with
  | (some fault, uploaded, g) => (.error fault, uploaded, g)
  | (none, uploaded, g) =>
    match scriptFile script (files.map fun (name, path, _) => (name, path)) with
    | .error _ => (.error .other, uploaded, g)
    | .ok text =>
      match uploadFile (answers.upload scriptPath) (encodeScript text) scriptPath g with
      | (some fault, g) => (.error fault, uploaded, g)
      | (none, g) =>
        let (result, g) := runProgram answers.run g
        (result, uploaded ++ [scriptPath], g)

/-- `run_powershell`; an exception of the `finally` block replaces the outcome. -/
def runPowershell (answers : Answers) (script token : String) (secrets : List (String × String))
    (g : Guest) : Except Fault CommandResult × Guest :=
  let (outcome, uploaded, g) := uploadAndRun answers script token secrets g
  match deleteUploaded answers.delete uploaded g with
  | (some fault, g) => (.error fault, g)
  | (none, g) => (outcome, g)

/-! ## What is left in the guest -/

variable (answers : Answers) (script token : String) (secrets : List (String × String))

/-- `except InfraOperationError: pass`. -/
def DeleteAnswers.stops (a : DeleteAnswers) : Bool :=
  a.fault.any (· ≠ .operation)

/-- The calls for a secret file. -/
def calls : Cleanup String where
  obtains path := (answers.upload path).arrived
  returns path := (answers.upload path).fault.isNone
  releases path := (answers.delete path).find.isNone
  stops path := (answers.delete path).stops

def secretPaths : List String := (secretFiles token secrets).map fun file => file.2.1

/-- The script is run: every upload has returned, and the names are valid. -/
def Ran : Prop :=
  (calls answers).failed (secretPaths token secrets) = none ∧
    (scriptFile script ((secretFiles token secrets).map fun (name, path, _) => (name, path))).isOk ∧
    (answers.upload (newTempPath token "ps1")).fault = none

variable {answers script token secrets} {g : Guest}

theorem newTempPath_ne {a b : String} : newTempPath a "dat" ≠ newTempPath b "ps1" := by
  intro h
  have hsuffix : ∀ token suffix, (newTempPath token suffix).toList.getLast? =
      suffix.toList.getLast?.or (guestTempDir ++ "\\infraops-" ++ token ++ ".").toList.getLast? :=
    fun token suffix => by rw [newTempPath, String.toList_append, List.getLast?_append]
  have hlast := congrArg (fun path => path.toList.getLast?) h
  simp only [hsuffix] at hlast
  cases hlast

theorem scriptPath_notMem : ∀ path ∈ secretPaths token secrets,
    path ∉ [newTempPath token "ps1"] := by
  intro path hpath hmem
  simp only [secretPaths, secretFiles, List.map_map, List.mem_map] at hpath
  obtain ⟨⟨⟨name, value⟩, index⟩, -, rfl⟩ := hpath
  exact newTempPath_ne (List.mem_singleton.mp hmem)

/-- Exactly these paths have been written to, and their files are there. -/
def Wrote (g g' : Guest) (paths : List String) : Prop :=
  ∀ p, (p ∈ g'.reached ↔ p ∈ g.reached ∨ p ∈ paths) ∧
    ((g'.files p).isSome ↔ (g.files p).isSome ∨ p ∈ paths)

theorem Wrote.trans {g₁ g₂ g₃ : Guest} {xs ys : List String} (hxs : Wrote g₁ g₂ xs)
    (hys : Wrote g₂ g₃ ys) : Wrote g₁ g₃ (xs ++ ys) := by
  intro p
  rw [(hys p).1, (hys p).2, (hxs p).1, (hxs p).2, List.mem_append, or_assoc, or_assoc]
  exact ⟨Iff.rfl, Iff.rfl⟩

theorem uploadFile_wrote (answers : Answers) (path : String) (content : ByteArray) (g : Guest) :
    Wrote g (uploadFile (answers.upload path) content path g).2
      ([path].filter (calls answers).obtains) := by
  intro p
  have hfilter : [path].filter (calls answers).obtains =
      if (answers.upload path).arrived then [path] else [] := by
    rw [List.filter_cons, List.filter_nil]
    rfl
  rw [hfilter]
  unfold uploadFile
  split
  · by_cases hp : p = path <;> simp [Guest.write, hp]
  · simp

theorem uploadSecrets_spec (answers : Answers) (files : List (String × String)) (g : Guest) :
    ((uploadSecrets answers.upload files g).1 = none ↔
        (calls answers).failed (files.map Prod.fst) = none) ∧
      (uploadSecrets answers.upload files g).2.1 =
        (calls answers).remembered (files.map Prod.fst) ∧
      Wrote g (uploadSecrets answers.upload files g).2.2
        (((calls answers).called (files.map Prod.fst)).filter (calls answers).obtains) := by
  induction files generalizing g with
  | nil => simp [uploadSecrets, Cleanup.failed, Cleanup.remembered, Cleanup.called, Wrote]
  | cons file files ih =>
    obtain ⟨path, value⟩ := file
    have hwrote := uploadFile_wrote answers path value.toUTF8 g
    rw [List.map_cons, uploadSecrets]
    cases hfault : (answers.upload path).fault with
    | some fault =>
      have hcall : uploadFile (answers.upload path) value.toUTF8 path g =
          (some fault, (uploadFile (answers.upload path) value.toUTF8 path g).2) := by
        rw [uploadFile, hfault]
      have hfails : (calls answers).returns path = false := by simp [calls, hfault]
      rw [hcall, Cleanup.failed_cons_of_fails hfails, Cleanup.remembered_cons_of_fails hfails,
        Cleanup.called_cons_of_fails hfails]
      exact ⟨by simp, rfl, hwrote⟩
    | none =>
      have hcall : uploadFile (answers.upload path) value.toUTF8 path g =
          (none, (uploadFile (answers.upload path) value.toUTF8 path g).2) := by
        rw [uploadFile, hfault]
      have hreturns : (calls answers).returns path = true := by simp [calls, hfault]
      obtain ⟨hnone, huploaded, hrest⟩ :=
        ih (uploadFile (answers.upload path) value.toUTF8 path g).2
      rw [hcall, Cleanup.failed_cons_of_returns hreturns,
        Cleanup.remembered_cons_of_returns hreturns, Cleanup.called_cons_of_returns hreturns,
        List.filter_cons]
      refine ⟨hnone, congrArg (path :: ·) huploaded, ?_⟩
      have hboth := hwrote.trans hrest
      rw [← List.filter_append, List.singleton_append, List.filter_cons] at hboth
      exact hboth

theorem deleteFile_spec (answers : Answers) (path : String) (g : Guest) :
    (deleteFile (answers.delete path) path g).2.reached = g.reached ∧
      ∀ p, ((deleteFile (answers.delete path) path g).2.files p).isSome ↔
        (g.files p).isSome ∧ p ∉ if (calls answers).releases path then [path] else [] := by
  unfold deleteFile
  cases hfind : (answers.delete path).find.isNone with
  | true =>
    refine ⟨rfl, fun p => ?_⟩
    by_cases hp : p = path <;> simp [Guest.remove, calls, hfind, hp]
  | false => simp [calls, hfind]

theorem deleteUploaded_of_stops {path : String} {paths : List String} {g : Guest}
    (h : (answers.delete path).stops = true) :
    (deleteUploaded answers.delete (path :: paths) g).2 =
      (deleteFile (answers.delete path) path g).2 := by
  rw [DeleteAnswers.stops] at h
  rw [deleteUploaded, deleteFile]
  cases hfault : (answers.delete path).fault with
  | none => simp [hfault] at h
  | some fault => cases fault <;> simp_all

theorem deleteUploaded_of_goes_on {path : String} {paths : List String} {g : Guest}
    (h : (answers.delete path).stops = false) :
    deleteUploaded answers.delete (path :: paths) g =
      deleteUploaded answers.delete paths (deleteFile (answers.delete path) path g).2 := by
  rw [DeleteAnswers.stops] at h
  rw [deleteUploaded, deleteFile]
  cases hfault : (answers.delete path).fault with
  | none => rfl
  | some fault => cases fault <;> simp_all

theorem deleteUploaded_spec (answers : Answers) (paths : List String) (g : Guest) :
    (deleteUploaded answers.delete paths g).2.reached = g.reached ∧
      ∀ p, ((deleteUploaded answers.delete paths g).2.files p).isSome ↔
        (g.files p).isSome ∧ p ∉ (calls answers).released paths := by
  induction paths generalizing g with
  | nil => simp [deleteUploaded, Cleanup.released]
  | cons path paths ih =>
    obtain ⟨hreached, hfiles⟩ := deleteFile_spec answers path g
    rw [Cleanup.released]
    cases hstops : (answers.delete path).stops with
    | true =>
      have hcall : (calls answers).stops path = true := hstops
      rw [deleteUploaded_of_stops hstops, hcall, if_pos rfl, List.append_nil]
      exact ⟨hreached, hfiles⟩
    | false =>
      have hcall : (calls answers).stops path = false := hstops
      obtain ⟨hrest, hrestFiles⟩ := ih (deleteFile (answers.delete path) path g).2
      rw [deleteUploaded_of_goes_on hstops, hcall, if_neg Bool.false_ne_true]
      refine ⟨hrest.trans hreached, fun p => ?_⟩
      rw [hrestFiles, hfiles, List.mem_append, not_or, and_assoc]

/-! ## The whole call -/

/-- What a guest holds of the secret files once those in `paths` have been written, and the
script has removed what it removes. -/
def Holds (g g' : Guest) (secretPaths paths : List String) (gone : String → Prop) : Prop :=
  ∀ p ∈ secretPaths, (p ∈ g'.reached ↔ p ∈ g.reached ∨ p ∈ paths) ∧
    ((g'.files p).isSome ↔ ((g.files p).isSome ∨ p ∈ paths) ∧ ¬gone p)

/-- The files whose removal is left to nobody but the script. -/
def Gone (answers : Answers) (script token : String) (secrets : List (String × String))
    (path : String) : Prop :=
  Ran answers script token secrets ∧ answers.run.removes path = true

theorem holds_of_wrote {g g' : Guest} {paths extra : List String}
    (hwrote : Wrote g g' (paths ++ extra)) (hextra : ∀ p ∈ secretPaths token secrets, p ∉ extra)
    {gone : String → Prop} (hgone : ∀ p, ¬gone p) :
    Holds g g' (secretPaths token secrets) paths gone := by
  intro p hp
  rw [(hwrote p).1, (hwrote p).2, List.mem_append, or_iff_left (hextra p hp)]
  exact ⟨Iff.rfl, (and_iff_left (hgone p)).symm⟩

/-- What the `try` block leaves to the `finally` block. -/
theorem uploadAndRun_spec (answers : Answers) (script token : String)
    (secrets : List (String × String)) (g : Guest) :
    ∃ more g', (uploadAndRun answers script token secrets g).2 =
        ((calls answers).remembered (secretPaths token secrets) ++ more, g') ∧
      (∀ p ∈ secretPaths token secrets, p ∉ more) ∧
      Holds g g' (secretPaths token secrets)
        (((calls answers).called (secretPaths token secrets)).filter (calls answers).obtains)
        (Gone answers script token secrets) := by
  have hpaths : ((secretFiles token secrets).map Prod.snd).map Prod.fst =
      secretPaths token secrets := by
    rw [List.map_map]
    rfl
  obtain ⟨hnone, huploaded, hwrote⟩ :=
    uploadSecrets_spec answers ((secretFiles token secrets).map Prod.snd) g
  rw [hpaths] at hnone huploaded hwrote
  rw [uploadAndRun]
  generalize uploadSecrets answers.upload ((secretFiles token secrets).map Prod.snd) g = r
    at hnone huploaded hwrote
  obtain ⟨fault, uploaded, g₁⟩ := r
  simp only at hnone huploaded hwrote
  subst huploaded
  have hnot : ¬Ran answers script token secrets →
      ∀ p, ¬Gone answers script token secrets p := fun hran p hgone => hran hgone.1
  cases fault with
  | some fault =>
    have hran : ¬Ran answers script token secrets := fun h => by simpa using hnone.mpr h.1
    have hnil := List.append_nil (((calls answers).called (secretPaths token secrets)).filter
      (calls answers).obtains)
    exact ⟨[], g₁, by rw [List.append_nil], by simp,
      holds_of_wrote (hnil ▸ hwrote) (by simp) (hnot hran)⟩
  | none =>
    cases hfile : scriptFile script
      ((secretFiles token secrets).map fun (name, path, _) => (name, path)) with
    | error e =>
      have hran : ¬Ran answers script token secrets := fun h => by
        have hok := h.2.1
        rw [hfile] at hok
        cases hok
      have hnil := List.append_nil (((calls answers).called (secretPaths token secrets)).filter
        (calls answers).obtains)
      exact ⟨[], g₁, by rw [List.append_nil], by simp,
        holds_of_wrote (hnil ▸ hwrote) (by simp) (hnot hran)⟩
    | ok text =>
      have hscript := hwrote.trans (uploadFile_wrote answers (newTempPath token "ps1")
        (encodeScript text) g₁)
      have hother : ∀ p ∈ secretPaths token secrets,
          p ∉ [newTempPath token "ps1"].filter (calls answers).obtains := fun p hp hmem =>
        scriptPath_notMem p hp (List.mem_of_mem_filter hmem)
      simp only [uploadFile] at hscript ⊢
      cases hfault : (answers.upload (newTempPath token "ps1")).fault with
      | some fault =>
        have hran : ¬Ran answers script token secrets := fun h => by
          have hnofault := h.2.2
          rw [hfault] at hnofault
          cases hnofault
        exact ⟨[], _, by rw [List.append_nil], by simp,
          holds_of_wrote hscript hother (hnot hran)⟩
      | none =>
        have hran : Ran answers script token secrets :=
          ⟨hnone.mp rfl, by rw [hfile]; rfl, hfault⟩
        refine ⟨[newTempPath token "ps1"], _, rfl, scriptPath_notMem, fun p hp => ?_⟩
        obtain ⟨hreached, hfiles⟩ := hscript p
        rw [List.mem_append, or_iff_left (hother p hp)] at hreached hfiles
        refine ⟨hreached, ?_⟩
        rw [← hfiles, Gone, and_iff_right hran]
        cases hremoves : answers.run.removes p <;> simp [runProgram, hremoves]

theorem runPowershell_snd (answers : Answers) (script token : String)
    (secrets : List (String × String)) (g : Guest) :
    (runPowershell answers script token secrets g).2 =
      (deleteUploaded answers.delete (uploadAndRun answers script token secrets g).2.1
        (uploadAndRun answers script token secrets g).2.2).2 := by
  rw [runPowershell]
  generalize uploadAndRun answers script token secrets g = r
  obtain ⟨outcome, uploaded, g'⟩ := r
  simp only
  generalize deleteUploaded answers.delete uploaded g' = r
  obtain ⟨fault, g''⟩ := r
  cases fault <;> rfl

/-- **Secret files do not survive** exactly when no upload fails after its content arrived, and
the clean-up comes to every file that arrived and that the script has not removed. -/
theorem runPowershell_leaves_no_secret_iff (answers : Answers) (script token : String)
    (secrets : List (String × String)) (files : String → Option ByteArray) :
    (∀ path ∈ secretPaths token secrets,
      path ∈ (runPowershell answers script token secrets ⟨files, []⟩).2.reached →
        (runPowershell answers script token secrets ⟨files, []⟩).2.files path = none) ↔
      (∀ path, (calls answers).failed (secretPaths token secrets) = some path →
        (answers.upload path).arrived = false) ∧
      ∀ path ∈ (calls answers).remembered (secretPaths token secrets),
        (answers.upload path).arrived = true →
          Gone answers script token secrets path ∨
            (calls answers).Released (secretPaths token secrets) path := by
  obtain ⟨more, g, hrun, hmore, hholds⟩ :=
    uploadAndRun_spec answers script token secrets ⟨files, []⟩
  obtain ⟨hreached, hfiles⟩ := deleteUploaded_spec answers
    ((calls answers).remembered (secretPaths token secrets) ++ more) g
  have hgone : (calls answers).failed (secretPaths token secrets) ≠ none →
      ∀ path, ¬Gone answers script token secrets path := fun hfailed path hg => hfailed hg.1.1
  refine Iff.trans ?_ ((calls answers).nothing_left_iff hmore hgone)
  rw [runPowershell_snd, hrun, hreached]
  -- a file that arrived is there until the script or the loop removes it
  have hpath : ∀ path ∈ secretPaths token secrets, (path ∈ g.reached →
      (deleteUploaded answers.delete
        ((calls answers).remembered (secretPaths token secrets) ++ more) g).2.files path = none) ↔
      (path ∈ (calls answers).called (secretPaths token secrets) →
        (calls answers).obtains path = true → Gone answers script token secrets path ∨
          path ∈ (calls answers).released
            ((calls answers).remembered (secretPaths token secrets) ++ more)) := by
    intro path hpath
    obtain ⟨hin, hthere⟩ := hholds path hpath
    rw [List.mem_filter, or_iff_right List.not_mem_nil] at hin
    rw [hin, and_imp]
    refine forall₂_congr fun hcalled hobtains => ?_
    have hwritten : (g.files path).isSome ↔ ¬Gone answers script token secrets path := by
      rw [hthere]
      exact and_iff_right (.inr (List.mem_filter.mpr ⟨hcalled, hobtains⟩))
    rw [← Option.not_isSome_iff_eq_none, hfiles, hwritten, not_and_or, not_not, not_not]
  constructor
  · intro h path hcalled
    exact (hpath path ((calls answers).mem_of_called hcalled)).mp
      (h path ((calls answers).mem_of_called hcalled)) hcalled
  · intro h path hmem
    exact (hpath path hmem).mpr (h path)

/-- The content of the only secret arrives and the answer is lost. -/
def lostAnswer : Answers where
  upload _ := { response := .error .other }
  run := { result := .error .other }

theorem lostAnswer_leaves_password :
    let path := newTempPath "0123-0" "dat"
    let guest := (runPowershell lostAnswer "exit 0" "0123" [("domain_join_password", "hunter2")]
      ⟨fun _ => none, []⟩).2
    path ∈ secretPaths "0123" [("domain_join_password", "hunter2")] ∧
      path ∈ guest.reached ∧ guest.files path = some "hunter2".toUTF8 := by
  refine ⟨?_, ?_, ?_⟩
  · decide +kernel
  · decide +kernel
  · rfl

end InfraOps.SecretFiles
