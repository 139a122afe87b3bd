import InfraOps.Core.Text

/-!
# Installer paths and approved roots

`app/services/applications/paths.py`. A Windows path is a list of characters; its segments
are what stands between backslashes. `str.casefold` folds character by character, so the
fold of one character is a parameter.
-/

namespace InfraOps

inductive InstallerType
  | msi | exe | powershell
  deriving DecidableEq

def InstallerType.value : InstallerType → String
  | msi => "MSI"
  | exe => "EXE"
  | powershell => "POWERSHELL"

/-! ## Segments -/

def backslash (c : Char) : Bool := c == '\\'

/-- `path.split("\\")`. -/
def splitPath (path : List Char) : List (List Char) := path.splitOnP backslash

/-- `_segments`. -/
def pathSegments (path : List Char) : List (List Char) :=
  (splitPath path).filter fun segment => segment ≠ []

/-- A character of `_SEGMENT`. -/
def segmentChar (c : Char) : Bool :=
  c ∉ ['\\', '/', ':', '*', '?', '"', '<', '>', '|'] && 0x1f < c.toNat

def validSegment (segment : List Char) : Bool := segment ≠ [] && segment.all segmentChar

def asciiAlphanum (c : Char) : Bool :=
  ('a' ≤ c && c ≤ 'z') || ('A' ≤ c && c ≤ 'Z') || ('0' ≤ c && c ≤ '9')

theorem toNat_of_asciiAlphanum {c : Char} (h : asciiAlphanum c = true) : c.toNat < 128 := by
  simp only [asciiAlphanum, Bool.or_eq_true, Bool.and_eq_true, decide_eq_true_eq] at h
  rcases h with (h | h) | h
  · exact ascii_of_le h.2 (by decide)
  · exact ascii_of_le h.2 (by decide)
  · exact ascii_of_le h.2 (by decide)

/-- A host name of `UNC_PATH_PATTERN`. -/
def validHost (host : List Char) : Bool :=
  host ≠ [] && host.length ≤ 253 && host.all (fun c => asciiAlphanum c || c == '.' || c == '-') &&
    host.head?.all asciiAlphanum && host.getLast?.all asciiAlphanum

/-- `UNC_PATH_PATTERN`. -/
def uncPath : List Char → Bool
  | '\\' :: '\\' :: rest =>
    match splitPath rest with
    | host :: segment :: segments =>
      validHost host && (segment :: segments).all validSegment
    | _ => false
  | _ => false

/-- `DRIVE_PATH_PATTERN`. -/
def drivePath : List Char → Bool
  | drive :: ':' :: '\\' :: rest =>
    ((('a' ≤ drive && drive ≤ 'z') || ('A' ≤ drive && drive ≤ 'Z')) : Bool) &&
      (splitPath rest).all validSegment
  | _ => false

/-! ## Validation -/

def validateWindowsPath (label : String) (value : List Char) : Except String (List Char) :=
  let path := pyStrip value
  if path = [] then .error s!"{label} is required."
  else if '/' ∈ path then .error s!"{label} must use backslashes (\\) as separators."
  else if !(uncPath path || drivePath path) then
    .error (s!"{label} must be an absolute UNC path (\\\\server\\share\\...) or drive path " ++
      "(C:\\...) without quotes, wildcards or control characters.")
  else if (pathSegments path).any fun segment =>
      pyStrip segment = ['.'] || pyStrip segment = ['.', '.'] then
    .error s!"{label} must not contain '.' or '..' segments."
  else if (pathSegments path).any fun segment =>
      segment ≠ dropRight (fun c => c == ' ' || c == '.') segment then
    .error s!"{label} segments must not end with a space or a dot."
  else .ok path

/-- `_EXPECTED_EXTENSIONS`; each installer type has one. -/
def InstallerType.extension : InstallerType → String
  | msi => ".msi"
  | exe => ".exe"
  | powershell => ".ps1"

def validateInstallerPath (value : List Char) (kind : InstallerType) :
    Except String (List Char) :=
  match validateWindowsPath "Installer path" value with
  | .error text => .error text
  | .ok path =>
    if kind.extension.toList.isSuffixOf (path.map Char.toLower) then .ok path
    else .error s!"{kind.value} installers must point to a {kind.extension} file."

def validateInstallerRoot (value : List Char) : Except String (List Char) :=
  validateWindowsPath "Approved installer root" (dropRight backslash (pyStrip value))

/-! ## Containment -/

section

variable (casefold : Char → List Char)

/-- `_normalise`. -/
def normalise (path : List Char) : List Char :=
  (dropRight backslash (pyStrip path)).flatMap casefold

/-- The path is strictly inside one of the roots. -/
def pathWithinRoots (path : List Char) (roots : List (List Char)) : Bool :=
  match validateWindowsPath "Path" path with
  | .error _ => false
  | .ok candidate =>
    roots.any fun root =>
      match validateInstallerRoot root with
      | .error _ => false
      | .ok clean => (normalise casefold clean ++ ['\\']).isPrefixOf (normalise casefold candidate)

end

/-- The fold of the ASCII characters. -/
def asciiFold (c : Char) : List Char := [c.toLower]

example :
    pathWithinRoots asciiFold "\\\\srv\\Apps\\7zip.msi".toList ["\\\\SRV\\apps\\".toList] =
      true := by
  decide +kernel

example :
    pathWithinRoots asciiFold "\\\\srv\\apps-evil\\a.msi".toList ["\\\\srv\\apps".toList] =
      false := by
  decide +kernel

end InfraOps
