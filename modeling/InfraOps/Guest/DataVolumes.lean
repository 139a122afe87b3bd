import InfraOps.Core.Text
import InfraOps.Support.Except
import InfraOps.Workers.Context
import Mathlib.Data.List.Sort

/-!
# Reported data volumes

What `stage_initialize_data_disks` makes of the result of its script: `parse_data_volumes`, and
the comparison with the requested disks. The JSON of PowerShell and of Python, and Python's
conversions, are parameters.
-/

namespace InfraOps.Guest

structure DataVolume where
  number : Int
  sizeGb : Int
  driveLetter : String
  label : String
  fileSystem : String
  deriving DecidableEq

/-- What an expression of Python raises: a `ValueError`, which the stage catches, or another. -/
inductive PyError
  | valueError (text : String)
  | other (traceback : String)
  deriving DecidableEq

/-- `[pscustomobject]@{Number=…; SizeGB=…; …}`. -/
def volumeJson (volume : DataVolume) : Json :=
  .obj [("Number", .num volume.number), ("SizeGB", .num volume.sizeGb),
    ("DriveLetter", .str volume.driveLetter), ("Label", .str volume.label),
    ("FileSystem", .str volume.fileSystem)]

/-- What `run_program` returns for an output that it could not download. -/
def outputUnavailable : String := "[output capture unavailable]"

structure ScriptOutput where
  /-- `json.loads`, `none` where it raises `JSONDecodeError`. -/
  loads : String → Option Json
  /-- `int(value)`. -/
  int : Json → Except PyError Int
  int_num : ∀ n, int (.num n) = .ok n
  /-- `str(value)`. -/
  str : Json → String
  str_str : ∀ s, str (.str s) = s
  /-- What the script may print that ends with `ConvertTo-Json` of these volumes. -/
  prints : List DataVolume → String → Bool
  loads_prints : ∀ volumes stdout, prints volumes stdout = true →
    ∃ line, (outputLines stdout).getLast? = some line ∧
      loads line = some (.arr (volumes.map volumeJson))
  loads_unavailable : loads outputUnavailable = none

variable (out : ScriptOutput)

/-! ## `parse_data_volumes` -/

/-- `isinstance(item, dict) and key in item`. -/
def hasKey (key : String) : Json → Bool
  | .obj fields => fields.any fun field => field.1 == key
  | _ => false

/-- `item[key]`, of a dictionary that has the key. -/
def valueOf (item : Json) (key : String) : Json :=
  match item with
  | .obj fields => ((fields.find? fun field => field.1 == key).map (·.2)).getD .null
  | _ => .null

/-- `item.get(key) or default`. -/
def valueOr (item : Json) (key : String) (default : Json) : Json :=
  if (valueOf item key).truthy then valueOf item key else default

def readVolume (item : Json) : Except PyError DataVolume := do
  let number ← out.int (valueOf item "Number")
  let sizeGb ← out.int (valueOr item "SizeGB" (.num 0))
  return { number, sizeGb
           driveLetter := out.str (valueOr item "DriveLetter" (.str ""))
           label := out.str (valueOr item "Label" (.str ""))
           fileSystem := out.str (valueOr item "FileSystem" (.str "")) }

/-- `payload if isinstance(payload, list) else [payload]`. -/
def payloadItems : Json → List Json
  | .arr items => items
  | payload => [payload]

/-- What the volumes of one line are read as, if it has some. -/
def parseLine (line : String) : Option (Except PyError (List DataVolume)) :=
  match out.loads line with
  | none => none
  | some payload =>
    if (payloadItems payload).all (hasKey "Number") then
      some ((payloadItems payload).mapM (readVolume out))
    else none

def parseDataVolumes (stdout : String) : Except PyError (List DataVolume) :=
  match (outputLines stdout).reverse.findSome? (parseLine out) with
  | some result => result
  | none => .error (.valueError "The data-disk script did not return a JSON list.")

theorem valueOr_str (text : String) : (if (Json.str text).truthy then .str text else .str "") =
    Json.str text := by
  by_cases h : text = ""
  · simp [Json.truthy, h]
  · simp [Json.truthy, h]

theorem readVolume_volumeJson (volume : DataVolume) :
    readVolume out (volumeJson volume) = .ok volume := by
  have hsize : (if (Json.num volume.sizeGb).truthy then .num volume.sizeGb else .num 0) =
      Json.num volume.sizeGb := by
    by_cases h : volume.sizeGb = 0
    · simp [Json.truthy, h]
    · simp [Json.truthy, h]
  have hnumber : valueOf (volumeJson volume) "Number" = .num volume.number := rfl
  have hsizeGb : valueOr (volumeJson volume) "SizeGB" (.num 0) = .num volume.sizeGb := hsize
  have hletter : valueOr (volumeJson volume) "DriveLetter" (.str "") = .str volume.driveLetter :=
    valueOr_str _
  have hlabel : valueOr (volumeJson volume) "Label" (.str "") = .str volume.label := valueOr_str _
  have hsystem : valueOr (volumeJson volume) "FileSystem" (.str "") = .str volume.fileSystem :=
    valueOr_str _
  rw [readVolume, hnumber, hsizeGb, hletter, hlabel, hsystem, out.int_num, out.int_num]
  simp [out.str_str, pure, Except.pure]

/-- The volumes that the script has printed are read back. -/
theorem parseDataVolumes_prints {volumes : List DataVolume} {stdout : String}
    (h : out.prints volumes stdout = true) : parseDataVolumes out stdout = .ok volumes := by
  obtain ⟨line, hlast, hloads⟩ := out.loads_prints volumes stdout h
  have hread : (volumes.map volumeJson).mapM (readVolume out) = .ok volumes := by
    have hone : ∀ volume ∈ volumes, (readVolume out ∘ volumeJson) volume = .ok (id volume) :=
      fun volume _ => readVolume_volumeJson out volume
    rw [List.mapM_map, mapM_eq_ok hone, List.map_id]
  have hline : parseLine out line = some (.ok volumes) := by
    have hitems : (payloadItems (.arr (volumes.map volumeJson))).all (hasKey "Number") = true := by
      rw [payloadItems, List.all_map, List.all_eq_true]
      exact fun volume _ => rfl
    rw [parseLine, hloads]
    simp only [hitems, if_true]
    rw [payloadItems, hread]
  have hfirst : (outputLines stdout).reverse.head? = some line := by
    rw [List.head?_reverse, hlast]
  obtain ⟨rest, hrest⟩ := List.head?_eq_some_iff.mp hfirst
  rw [parseDataVolumes, hrest, List.findSome?_cons, hline]

theorem parseDataVolumes_unavailable :
    parseDataVolumes out outputUnavailable =
      .error (.valueError "The data-disk script did not return a JSON list.") := by
  have hlines : outputLines outputUnavailable = [outputUnavailable] := by decide +kernel
  rw [parseDataVolumes, hlines]
  simp [parseLine, out.loads_unavailable]

/-! ## The result of the stage -/

/-- `DATA_DISKS_NOT_VISIBLE_EXIT`. -/
def dataDisksNotVisibleExit : Int := 3

structure CommandResult where
  exitCode : Int
  stdout : String
  stderr : String := ""
  deriving DecidableEq

def notVisibleError (expected : Nat) (stdout : String) : InfraOperationError where
  humanMessage := "Windows did not detect every hot-added data disk."
  reason := s!"Expected {expected} data disk(s); Windows reported {strip stdout}."
  recommendedAction := "Check the VM's disks in vCenter, then retry this stage."
  technicalDetail := lastChars 1000 stdout

def notFormattedError (result : CommandResult) : InfraOperationError where
  humanMessage := "The data disks could not be brought online and formatted."
  reason := s!"The disk script exited with code {result.exitCode}."
  recommendedAction := "Review the technical output, then retry this stage."
  technicalDetail := lastChars 1500 (result.stdout ++ "\n" ++ result.stderr)

def notInterpretedError (text stdout : String) : InfraOperationError where
  humanMessage := "The data-disk result could not be interpreted."
  reason := text
  recommendedAction := "Retry this stage."
  technicalDetail := lastChars 1500 stdout

/-- `sorted`. -/
def sortedSizes (sizes : List Int) : List Int := sizes.insertionSort (· ≤ ·)

/-- The text of a list of numbers. -/
def sizesText (sizes : List Int) : String :=
  "[" ++ ", ".intercalate (sizes.map toString) ++ "]"

def notRequestedError (expected found : List Int) (stdout : String) : InfraOperationError where
  humanMessage := "The data disks Windows reports do not match the request."
  reason := s!"Requested sizes {sizesText expected} GB; Windows reports {sizesText found} GB."
  recommendedAction := "Check the VM's disks in vCenter, then retry this stage."
  technicalDetail := lastChars 1500 stdout

/-- The stage from the last result of its script on. -/
def readResult (requested : List Int) (result : CommandResult) : Except Raised (List DataVolume) :=
  if result.exitCode = dataDisksNotVisibleExit then
    .error (.infra (notVisibleError requested.length result.stdout))
  else if result.exitCode ≠ 0 then .error (.infra (notFormattedError result))
  else
    match parseDataVolumes out result.stdout with
    | .error (.valueError text) => .error (.infra (notInterpretedError text result.stdout))
    | .error (.other traceback) => .error (.other traceback)
    | .ok volumes =>
      let found := sortedSizes (volumes.map DataVolume.sizeGb)
      if found ≠ sortedSizes requested ∨ volumes.any (fun volume => volume.fileSystem = "") then
        .error (.infra (notRequestedError (sortedSizes requested) found result.stdout))
      else .ok volumes

/-- **The stage takes nothing but the requested sizes**, on volumes that are all formatted. -/
theorem readResult_eq_ok {requested : List Int} {result : CommandResult}
    {volumes : List DataVolume} (h : readResult out requested result = .ok volumes) :
    result.exitCode = 0 ∧ parseDataVolumes out result.stdout = .ok volumes ∧
      (volumes.map DataVolume.sizeGb).Perm requested := by
  unfold readResult at h
  split at h
  · cases h
  split at h
  · cases h
  rename_i hexit
  split at h
  · cases h
  · cases h
  · rename_i read hparse
    dsimp only at h
    split at h
    · cases h
    · rename_i hmatch
      cases h
      rw [not_or, not_not] at hmatch
      refine ⟨not_not.mp hexit, hparse, ?_⟩
      have hsorted : (sortedSizes (volumes.map DataVolume.sizeGb)).Perm requested :=
        hmatch.1 ▸ List.perm_insertionSort _ _
      exact (List.perm_insertionSort _ _).symm.trans hsorted

end InfraOps.Guest
