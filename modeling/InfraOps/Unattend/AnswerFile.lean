import InfraOps.Core.Text
import InfraOps.Support.XmlReading
import Mathlib.Data.Char

/-!
# The answer file

`build_autounattend_xml` of `app/services/windows_unattend.py`. A name stands as it is
serialised with the registered prefixes, and a document is its text: encoding it to UTF-8
changes nothing in it. `upper` and `casefold` are `str.upper` and `str.casefold` of a
character. A call is an `.error` where the code raises.
-/

namespace InfraOps.AnswerFile

open Xml (Text Node)

structure WindowsUnattendSpec where
  computerName : Text
  administratorUsername : Text
  administratorPassword : Text
  imageIndex : Int := 1
  locale : Text := "en-US".toList
  inputLocale : Text := "0409:00000409".toList
  timezone : Text := "UTC".toList
  firmware : Text := "EFI".toList
  productKey : Option Text := none
  builtinAdministratorPassword : Option Text := none

/-! ## Elements -/

def element (name : String) (children : List Node) : Node := .element name.toList [] children

/-- `_text`. -/
def text (name : String) (value : Text) : Node :=
  element name (if value = [] then [] else [.text value])

/-- `_action_child`. -/
def actionChild (name : String) (children : List Node) : Node :=
  .element name.toList [("wcm:action".toList, "add".toList)] children

/-- `_component`. -/
def component (name : String) (children : List Node) : Node :=
  .element "component".toList
    [("name".toList, name.toList), ("processorArchitecture".toList, "amd64".toList),
      ("publicKeyToken".toList, "31bf3856ad364e35".toList),
      ("language".toList, "neutral".toList), ("versionScope".toList, "nonSxS".toList)] children

def settings (pass : String) (children : List Node) : Node :=
  .element "settings".toList [("pass".toList, pass.toList)] children

/-! ## Disk configuration -/

/-- `(type, size MB or None to extend, format, label, letter, active)`. -/
structure PartitionLayout where
  typeName : String
  size : Option String
  filesystem : Option String
  label : Option String
  letter : Option String
  active : Bool

def layouts (efi : Bool) : List PartitionLayout :=
  if efi then
    [⟨"EFI", some "100", some "FAT32", some "System", none, false⟩,
      ⟨"MSR", some "16", none, none, none, false⟩,
      ⟨"Primary", none, some "NTFS", some "Windows", some "C", false⟩]
  else
    [⟨"Primary", some "550", some "NTFS", some "System", none, true⟩,
      ⟨"Primary", none, some "NTFS", some "Windows", some "C", false⟩]

/-- `str` of a number. -/
def str (n : Int) : Text := (toString n).toList

def optionalText (name : String) (value : Option String) : List Node :=
  (value.map fun value => text name value.toList).toList

def createPartition (layout : PartitionLayout) (order : Nat) : Node :=
  actionChild "CreatePartition"
    [text "Order" (str order), text "Type" layout.typeName.toList,
      match layout.size with
      | some size => text "Size" size.toList
      | none => text "Extend" "true".toList]

def modifyPartition (layout : PartitionLayout) (order : Nat) : Node :=
  actionChild "ModifyPartition"
    ([text "Order" (str order), text "PartitionID" (str order)] ++
      optionalText "Format" layout.filesystem ++ optionalText "Label" layout.label ++
      optionalText "Letter" layout.letter ++
      if layout.active then [text "Active" "true".toList] else [])

/-- `_add_disk_configuration`, with the number of the Windows partition. -/
def addDiskConfiguration (efi : Bool) : Node × Nat :=
  (element "DiskConfiguration"
    [actionChild "Disk"
      [text "DiskID" "0".toList, text "WillWipeDisk" "true".toList,
        element "CreatePartitions" ((layouts efi).zipIdx 1 |>.map fun (layout, order) =>
          createPartition layout order),
        element "ModifyPartitions" ((layouts efi).zipIdx 1 |>.map fun (layout, order) =>
          modifyPartition layout order)],
      text "WillShowUI" "OnError".toList],
    (layouts efi).length)

/-! ## Accounts and locales -/

/-- `text.rpartition("\\")`. -/
def rpartition (cs : Text) : Text × Bool × Text :=
  if '\\' ∈ cs then
    ((cs.reverse.dropWhile (· ≠ '\\')).tail.reverse, true,
      (cs.reverse.takeWhile (· ≠ '\\')).reverse)
  else ([], false, cs)

def forbiddenInName (c : Char) : Bool :=
  c ∈ "\"/\\[]:;|=,+*?<>@".toList || c.toNat ≤ 0x1F

/-- `_local_account_name`. -/
def localAccountName (username : Text) : Except String Text :=
  let rawUsername := pyStrip username
  let (qualifier, separator, localUsername) := rpartition rawUsername
  if (separator ∧ qualifier ≠ ['.']) ∨ localUsername = [] ∨ 20 < localUsername.length ∨
      localUsername.getLast? = some '.' ∨ localUsername.any forbiddenInName then
    .error "The Windows provisioning credential username must be a valid local account name."
  else .ok localUsername

/-- `_add_user_accounts`, where `isBuiltin` says that the account is the Administrator. -/
def addUserAccounts (isBuiltin : Bool) (localUsername password : Text)
    (builtinPassword : Option Text) : Node :=
  element "UserAccounts"
    ((if isBuiltin ∨ builtinPassword.getD [] ≠ [] then
      [element "AdministratorPassword"
        [text "Value" (if isBuiltin then password else builtinPassword.getD []),
          text "PlainText" "true".toList]]
      else []) ++
    if isBuiltin then []
    else
      [element "LocalAccounts"
        [actionChild "LocalAccount"
          [element "Password" [text "Value" password, text "PlainText" "true".toList],
            text "DisplayName" localUsername, text "Group" "Administrators".toList,
            text "Name" localUsername]]])

/-- `_add_international_core`. -/
def addInternationalCore (componentName : String) (spec : WindowsUnattendSpec) : Node :=
  component componentName
    ((if "-WinPE".toList.isSuffixOf componentName.toList then
      [element "SetupUILanguage" [text "UILanguage" spec.locale]]
      else []) ++
    [text "InputLocale" spec.inputLocale, text "SystemLocale" spec.locale,
      text "UILanguage" spec.locale, text "UserLocale" spec.locale])

/-! ## Commands -/

def firstLogonScriptName : Text := "InfraOps-FirstLogon.ps1".toList

def localScriptDir : Text := "C:\\Windows\\Setup\\Scripts".toList

def localFirstLogonScript : Text := localScriptDir ++ "\\".toList ++ firstLogonScriptName

def copyFirstLogonScriptCommand : Text :=
  "powershell.exe -NoProfile -Command \"".toList ++
    "$s=(Get-PSDrive -PSProvider FileSystem).Root|%\x7b$_+'".toList ++ firstLogonScriptName ++
    "'\x7d|?\x7bTest-Path $_\x7d".toList ++
    "|select -f 1;if($s)\x7bmd ".toList ++ localScriptDir ++ " -Force;copy $s ".toList ++
    localScriptDir ++ " -Force\x7d\"".toList

/-- `_FIRST_LOGON_LAUNCHER`. -/
def firstLogonLauncher : Text :=
  "$s=@('".toList ++ localFirstLogonScript ++
    "')+((Get-PSDrive -PSProvider FileSystem).Root".toList ++
    "|%\x7bJoin-Path $_ '".toList ++ firstLogonScriptName ++ "'\x7d)".toList ++
    "|?\x7bTest-Path -LiteralPath $_\x7d|select -f 1;".toList ++
    "if($s)\x7b& $s;exit $LASTEXITCODE\x7d;exit 1".toList

def maxCommandLine : Nat := 1024

def utf16LittleEndian (c : Char) : List Nat :=
  let unit (n : Nat) := [n % 256, n / 256]
  if c.toNat < 0x10000 then unit c.toNat
  else
    unit (0xd800 + (c.toNat - 0x10000) / 0x400) ++ unit (0xdc00 + (c.toNat - 0x10000) % 0x400)

def base64Alphabet : Text :=
  "ABCDEFGHIJKLMNOPQRSTUVWXYZabcdefghijklmnopqrstuvwxyz0123456789+/".toList

def base64Digit (n : Nat) : Char := base64Alphabet.getD n '='

/-- `base64.b64encode`. -/
def b64encode : List Nat → Text
  | a :: b :: c :: rest =>
    base64Digit (a / 4) :: base64Digit (a % 4 * 16 + b / 16) ::
      base64Digit (b % 16 * 4 + c / 64) :: base64Digit (c % 64) :: b64encode rest
  | [a, b] =>
    [base64Digit (a / 4), base64Digit (a % 4 * 16 + b / 16), base64Digit (b % 16 * 4), '=']
  | [a] => [base64Digit (a / 4), base64Digit (a % 4 * 16), '=', '=']
  | [] => []

/-- The command that `tools_install_command` checks. -/
def toolsCommandLine : Text :=
  "powershell.exe -NoProfile -ExecutionPolicy Bypass ".toList ++ "-EncodedCommand ".toList ++
    b64encode (firstLogonLauncher.flatMap utf16LittleEndian)

def toolsInstallCommand : Except String Text :=
  if maxCommandLine < toolsCommandLine.length then
    .error "The VMware Tools first-logon command exceeds Windows Setup's limit."
  else .ok toolsCommandLine

/-! ## The document -/

def keyChar (c : Char) : Bool := ('A' ≤ c && c ≤ 'Z') || ('0' ≤ c && c ≤ '9')

/-- `PRODUCT_KEY.fullmatch`. -/
def productKeyMatches (key : Text) : Bool :=
  let groups := key.splitOn '-'
  groups.length = 5 && groups.all fun group => group.length = 5 && group.all keyChar

variable (upper casefold : Char → Text)

/-- `(spec.product_key or "").strip().upper() or None`. -/
def productKeyOf (spec : WindowsUnattendSpec) : Option Text :=
  let key := (pyStrip (spec.productKey.getD [])).flatMap upper
  if key = [] then none else some key

def windowsPe (efi : Bool) (productKey : Option Text) (spec : WindowsUnattendSpec) : Node :=
  let (diskConfiguration, windowsPartition) := addDiskConfiguration efi
  settings "windowsPE"
    [addInternationalCore "Microsoft-Windows-International-Core-WinPE" spec,
      component "Microsoft-Windows-Setup"
        [diskConfiguration,
          element "ImageInstall"
            [element "OSImage"
              [element "InstallFrom"
                [actionChild "MetaData"
                  [text "Key" "/IMAGE/INDEX".toList, text "Value" (str spec.imageIndex)]],
                element "InstallTo"
                  [text "DiskID" "0".toList, text "PartitionID" (str windowsPartition)],
                text "WillShowUI" "OnError".toList]],
          element "UserData"
            (text "AcceptEula" "true".toList ::
              match productKey with
              | none => []
              | some key =>
                [element "ProductKey" [text "Key" key, text "WillShowUI" "OnError".toList]])]]

def specialize (spec : WindowsUnattendSpec) : Node :=
  settings "specialize"
    [component "Microsoft-Windows-Deployment"
      [element "RunSynchronous"
        [actionChild "RunSynchronousCommand"
          [text "Description" "Copy the InfraOps first-logon script to disk".toList,
            text "Order" "1".toList, text "Path" copyFirstLogonScriptCommand]]],
      component "Microsoft-Windows-Shell-Setup"
        [text "ComputerName" spec.computerName, text "TimeZone" spec.timezone]]

def oobeSettings : Node :=
  element "OOBE"
    [text "HideEULAPage" "true".toList, text "HideLocalAccountScreen" "true".toList,
      text "HideOEMRegistrationScreen" "true".toList,
      text "HideOnlineAccountScreens" "true".toList,
      text "HideWirelessSetupInOOBE" "true".toList, text "ProtectYourPC" "3".toList]

def oobeSystem (isBuiltin : Bool) (localUsername toolsCommand : Text)
    (spec : WindowsUnattendSpec) : Node :=
  settings "oobeSystem"
    [addInternationalCore "Microsoft-Windows-International-Core" spec,
      component "Microsoft-Windows-Shell-Setup"
        [element "AutoLogon"
          [element "Password"
            [text "Value" spec.administratorPassword, text "PlainText" "true".toList],
            text "Domain" ".".toList, text "Enabled" "true".toList,
            text "LogonCount" "1".toList, text "Username" localUsername],
          element "FirstLogonCommands"
            [actionChild "SynchronousCommand"
              [text "CommandLine" toolsCommand, text "Description" "Install VMware Tools".toList,
                text "Order" "1".toList]],
          oobeSettings,
          text "TimeZone" spec.timezone,
          addUserAccounts isBuiltin localUsername spec.administratorPassword
            spec.builtinAdministratorPassword]]

/-- `firmware.upper() == "EFI"`. -/
def isEfi (spec : WindowsUnattendSpec) : Bool := spec.firmware.flatMap upper = "EFI".toList

/-- `local_username.casefold() == "administrator"`. -/
def isBuiltin (localUsername : Text) : Bool :=
  localUsername.flatMap casefold = "administrator".toList

def unattend (localUsername toolsCommand : Text) (spec : WindowsUnattendSpec) : Node :=
  .element "unattend".toList
    [("xmlns".toList, "urn:schemas-microsoft-com:unattend".toList),
      ("xmlns:wcm".toList, "http://schemas.microsoft.com/WMIConfig/2002/State".toList)]
    [windowsPe (isEfi upper spec) (productKeyOf upper spec) spec, specialize spec,
      oobeSystem (isBuiltin casefold localUsername) localUsername toolsCommand spec]

/-- `build_autounattend_xml`. -/
def buildAutounattendXml (spec : WindowsUnattendSpec) : Except String Text := do
  let localUsername ← localAccountName spec.administratorUsername
  if (productKeyOf upper spec).any fun key => !productKeyMatches key then
    throw "The Windows product key must have the form XXXXX-XXXXX-XXXXX-XXXXX-XXXXX."
  let toolsCommand ← toolsInstallCommand
  return Xml.writeDocument (unattend upper casefold localUsername toolsCommand spec)

end InfraOps.AnswerFile
