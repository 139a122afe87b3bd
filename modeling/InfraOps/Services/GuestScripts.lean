import InfraOps.Support.Quoting

/-!
# The scripts run inside Windows guests

`ps_quote` and the scripts that embed its literals: what the stages run in a guest, the
probe of a file detection rule, the runner that starts one program, and the file a script
is uploaded as. A script is the list of its parts: fixed text, and the values that
`ps_quote` embeds. PowerShell's lexer takes five characters for a single quote; `ps_quote`
doubles one of them.

Main result: a generated script lexes as its parts exactly when none of its values holds
one of the other four (`generated_lexes_iff`).
-/

namespace InfraOps

open Quoting

/-- U+0027. -/
def quoteMark : Char := '\u0027'

/-- The characters that PowerShell takes for a single quote. -/
def isSingleQuote (c : Char) : Bool :=
  c = quoteMark ∨ c = '\u2018' ∨ c = '\u2019' ∨ c = '\u201a' ∨ c = '\u201b'

/-- The quotation marks of word processors among them. -/
def isTypographicQuote (c : Char) : Bool :=
  c = '\u2018' ∨ c = '\u2019' ∨ c = '\u201a' ∨ c = '\u201b'

/-- The lexer's quotes, and the one that `ps_quote` writes and doubles. -/
def powerShell : Rules Char where
  isQuote := isSingleQuote
  delimiter := quoteMark
  doubles c := c = quoteMark
  isQuote_delimiter := by decide
  isQuote_of_doubles := by
    intro c hc
    simp only [decide_eq_true_eq] at hc
    simp [isSingleQuote, hc]

/-- `ps_quote`: the value between single quotes, each U+0027 in it doubled. -/
def psQuote (value : String) : String :=
  "'" ++ String.ofList (value.toList.flatMap fun c =>
    if c = quoteMark then [quoteMark, quoteMark] else [c]) ++ "'"

theorem psQuote_toList (value : String) :
    (psQuote value).toList = powerShell.quote value.toList := by
  have hmark : "'".toList = [quoteMark] := by decide
  have hdouble : (fun c => if c = quoteMark then [quoteMark, quoteMark] else [c]) =
      fun c => if powerShell.doubles c then [c, c] else [c] := by
    funext c
    by_cases hc : c = quoteMark <;> simp [powerShell, hc]
  simp only [psQuote, hdouble, String.toList_append, hmark, String.toList_ofList,
    Rules.quote, Rules.double, List.cons_append]
  rfl

theorem escaped_iff (value : List Char) :
    powerShell.Escaped value ↔ ∀ c ∈ value, isTypographicQuote c = false := by
  refine forall₂_congr fun c _ => ?_
  by_cases hc : c = quoteMark
  · subst hc
    decide
  · simp [powerShell, isSingleQuote, isTypographicQuote, hc]

/-! ## Scripts -/

/-- For a literal, whose characters Lean can list without decoding it. -/
theorem isText_ofList {settled : Bool} {chars : List Char}
    (h : powerShell.isText settled chars = true) :
    powerShell.isText settled (String.ofList chars).toList = true := by
  rwa [String.toList_ofList]

/-- Fixed text that ends outside strings. -/
def fixed (text : String)
    (ok : powerShell.isText true text.toList = true := by
      exact isText_ofList (by decide +kernel)) : powerShell.Part :=
  .text true text.toList ok

/-- Fixed text that may end with a string of its own. -/
def fixedString (text : String)
    (ok : powerShell.isText false text.toList = true := by
      exact isText_ofList (by decide +kernel)) : powerShell.Part :=
  .text false text.toList ok

/-- A value that `ps_quote` embeds. -/
def quoted (value : String) : powerShell.Part := .quoted value.toList

theorem isText_toString (n : Nat) : powerShell.isText true (toString n).toList = true := by
  refine powerShell.isText_of_plain ?_ ?_
  · simp [Nat.toDigits_ne_nil]
  · intro c hc
    have hdigit : c.isDigit = true :=
      Nat.isDigit_of_mem_toDigits (b := 10) (by decide) (by decide) (by simpa using hc)
    rw [Char.isDigit_iff_toNat] at hdigit
    have hval : ∀ d : Char, 57 < d.toNat ∨ d.toNat < 48 → c ≠ d := by
      rintro d hd rfl
      have : '0'.toNat = 48 := rfl
      have : '9'.toNat = 57 := rfl
      omega
    simp [powerShell, isSingleQuote, hval quoteMark (by decide), hval '\u2018' (by decide),
      hval '\u2019' (by decide), hval '\u201a' (by decide), hval '\u201b' (by decide)]

/-- A number in decimal. -/
def digits (n : Nat) : powerShell.Part := .text true (toString n).toList (isText_toString n)

section apart

open Rules.Part

variable (p : powerShell.Part) {text : String}

@[simp] theorem fixed_apart {ok : powerShell.isText true text.toList = true} :
    (fixed text ok).Apart p := text_apart p

@[simp] theorem apart_fixed {ok : powerShell.isText true text.toList = true} :
    p.Apart (fixed text ok) := apart_text p

@[simp] theorem apart_fixedString {ok : powerShell.isText false text.toList = true} :
    p.Apart (fixedString text ok) := apart_text p

@[simp] theorem digits_apart (n : Nat) : (digits n).Apart p := text_apart p

@[simp] theorem apart_digits (n : Nat) : p.Apart (digits n) := apart_text p

end apart

def partText : powerShell.Part → String
  | .text _ chars _ => String.ofList chars
  | .quoted value => psQuote (String.ofList value)

def textOf (parts : List powerShell.Part) : String := String.join (parts.map partText)

theorem toList_textOf (parts : List powerShell.Part) :
    (textOf parts).toList = Rules.render parts := by
  have hpart : ∀ p : powerShell.Part, (partText p).toList = p.chars := by
    intro p
    cases p with
    | text settled chars ok => simp [partText, Rules.Part.chars]
    | quoted value => simp [partText, Rules.Part.chars, psQuote_toList]
  simp [textOf, Rules.render, List.flatMap_map, hpart]

/-- A script in which no two quotes of different parts meet. -/
structure Script where
  parts : List powerShell.Part
  apart : parts.IsChain Rules.Part.Apart

/-- The script as it is uploaded. -/
def Script.text (s : Script) : String := textOf s.parts

/-- `"\r\n".join(lines) + "\r\n"`. -/
def joinLines (lines : List Script) : Script where
  parts := lines.flatMap fun line => line.parts ++ [fixed "\r\n"]
  apart := by
    induction lines with
    | nil => exact .nil
    | cons line lines ih =>
      rw [List.flatMap_cons]
      -- every line is followed by its line end, which may be followed by anything
      exact (Rules.Part.isChain_append line.apart (.singleton _) (by simp)).append ih (by simp)

def line (p : powerShell.Part) : Script := ⟨[p], .singleton p⟩

/-! ## What the stages run -/

/-- `_SELECT_ADAPTER`. -/
def selectAdapter : List powerShell.Part :=
  [fixed "$adapter = Get-NetAdapter | Where-Object \x7b $_.Status -eq 'Up' \x7d ",
    fixed "| Select-Object -First 1\n",
    fixed "if (-not $adapter) \x7b throw 'No connected network adapter found' \x7d\n"]

/-- `dns_line`, up to its line end. -/
def dnsLine : List String → List powerShell.Part
  | [] =>
    [fixed "Set-DnsClientServerAddress -InterfaceIndex $adapter.ifIndex ",
      fixed "-ResetServerAddresses | Out-Null"]
  | dns :: rest =>
    [fixed "Set-DnsClientServerAddress -InterfaceIndex $adapter.ifIndex ",
      fixed "-ServerAddresses ", quoted dns] ++
    rest.flatMap (fun d => [fixed ",", quoted d]) ++ [fixed " | Out-Null"]

theorem isChain_dnsLine (dnsServers : List String) :
    (dnsLine dnsServers).IsChain Rules.Part.Apart := by
  cases dnsServers with
  | nil => simp [dnsLine]
  | cons dns rest =>
    -- a server is followed by a comma or by the end of the line
    have hrest : ∀ dns : String, List.IsChain Rules.Part.Apart (quoted dns ::
        (rest.flatMap (fun d => [fixed ",", quoted d]) ++ [fixed " | Out-Null"])) := by
      induction rest with
      | nil => simp
      | cons d rest ih => intro dns; simpa using ih d
    simpa [dnsLine] using hrest dns

/-- `build_static_ip_script`. -/
def buildStaticIpScript (address : String) (prefixLength : Nat) (gateway : String)
    (dnsServers : List String) : Script where
  parts :=
    fixed "$ErrorActionPreference = 'Stop'\n" :: selectAdapter ++
    [fixed "Set-NetIPInterface -InterfaceIndex $adapter.ifIndex -AddressFamily IPv4 ",
      fixed "-Dhcp Disabled\n",
      fixed "Get-NetIPAddress -InterfaceIndex $adapter.ifIndex -AddressFamily IPv4 ",
      fixed "-ErrorAction SilentlyContinue |\n",
      fixed "    Remove-NetIPAddress -Confirm:$false -ErrorAction SilentlyContinue\n",
      fixed "Get-NetRoute -InterfaceIndex $adapter.ifIndex -DestinationPrefix '0.0.0.0/0' ",
      fixed "-ErrorAction SilentlyContinue |\n",
      fixed "    Remove-NetRoute -Confirm:$false -ErrorAction SilentlyContinue\n",
      fixed "New-NetIPAddress -InterfaceIndex $adapter.ifIndex -IPAddress ", quoted address,
      fixed " -PrefixLength ", digits prefixLength, fixed " -DefaultGateway ", quoted gateway,
      fixed " | Out-Null\n"] ++
    dnsLine dnsServers ++ [fixedString "\n'NETWORK-CONFIGURED'"]
  apart := by
    have hhead : ∀ p ∈ (dnsLine dnsServers).head?, ∀ q : powerShell.Part, q.Apart p := by
      cases dnsServers <;> simp [dnsLine]
    refine Rules.Part.isChain_append (Rules.Part.isChain_append ?_ (isChain_dnsLine dnsServers)
      hhead) (.singleton _) (by simp)
    simp [selectAdapter]

/-- `build_rename_script`. -/
def buildRenameScript (newName : String) : Script where
  parts :=
    [fixed "Rename-Computer -NewName ", quoted newName,
      fixedString " -Force -ErrorAction Stop | Out-Null\n'RENAMED'"]
  apart := by simp

/-- `DOMAIN_JOIN_PASSWORD_SECRET`. -/
def domainJoinPasswordSecret : String := "domain_join_password"

/-- A clause of an f-string that is there unless its value is `None` or empty. -/
def clause (text : powerShell.Part) : Option String → List powerShell.Part
  | none => []
  | some value => if value = "" then [] else [text, quoted value]

theorem isChain_clause {text : String} {ok : powerShell.isText true text.toList = true}
    (value : Option String) : (clause (fixed text ok) value).IsChain Rules.Part.Apart := by
  cases value with
  | none => exact .nil
  | some value => by_cases hv : value = "" <;> simp [clause, hv]

theorem clause_head {text : String} {ok : powerShell.isText true text.toList = true}
    (value : Option String) :
    ∀ q ∈ (clause (fixed text ok) value).head?, ∀ p : powerShell.Part, p.Apart q := by
  cases value with
  | none => simp [clause]
  | some value => by_cases hv : value = "" <;> simp [clause, hv]

/-- `build_domain_join_script`. -/
def buildDomainJoinScript (domain username : String) (ou newName : Option String) : Script where
  parts :=
    [fixed "$secpw = ConvertTo-SecureString $InfraOpsSecrets[",
      quoted domainJoinPasswordSecret,
      fixed "] -AsPlainText -Force\n$InfraOpsSecrets.Remove(", quoted domainJoinPasswordSecret,
      fixed ")\n$cred = New-Object System.Management.Automation.PSCredential(",
      quoted username, fixed ", $secpw)\nAdd-Computer -DomainName ", quoted domain] ++
    clause (fixed " -NewName ") newName ++ clause (fixed " -OUPath ") ou ++
    [fixedString " -Credential $cred -Force -ErrorAction Stop | Out-Null\n'DOMAIN-JOINED'"]
  apart := by
    refine Rules.Part.isChain_append (Rules.Part.isChain_append (Rules.Part.isChain_append ?_
      (isChain_clause _) (clause_head _)) (isChain_clause _) (clause_head _)) (.singleton _)
      (by simp)
    simp

/-- `gw_script` of `stage_validate_network`. -/
def gatewayProbe (gateway : String) : Script where
  parts :=
    [fixed "if (Test-Connection -ComputerName ", quoted gateway,
      fixed " -Count 2 -Quiet) \x7b 'GW-REACHABLE' \x7d else \x7b exit 1 \x7d"]
  apart := by simp

/-- `dns_script` of `stage_validate_network`. -/
def dnsProbe (fqdn dns : String) : Script where
  parts :=
    [fixed "$r = Resolve-DnsName -Name ", quoted fqdn, fixed " -Server ", quoted dns,
      fixed " -ErrorAction SilentlyContinue\nif ($r) \x7b 'DNS-OK' \x7d else \x7b exit 1 \x7d"]
  apart := by simp

/-! ## Detection rules -/

/-- The command of the `FILE_EXISTS` branch of `detection_programs`. -/
def fileExistsCommand (path : String) : Script where
  parts :=
    [fixed "if (Test-Path -LiteralPath ", quoted path,
      fixed ") \x7b exit 0 \x7d else \x7b exit 1 \x7d"]
  apart := by simp

/-! ## The runner and the script file -/

/-- Why a builder refuses (a `ValueError`). -/
inductive ScriptError
  /-- "Program paths and arguments must not contain control characters." -/
  | controlCharacters
  /-- "Invalid secret name {name!r}." -/
  | invalidSecretName (name : String)
  deriving DecidableEq

/-- `_CONTROL_CHARS.search(text)`. -/
def hasControlChars (text : String) : Bool :=
  text.toList.any fun c =>
    c.toNat ≤ 0x08 ∨ (0x0a ≤ c.toNat ∧ c.toNat ≤ 0x1f) ∨ c.toNat = 0x7f

/-- `max(1000, int(timeout_seconds * 1000))`. -/
def timeoutMs (timeoutSeconds : Rat) : Nat :=
  (max 1000 ((timeoutSeconds * 1000).num.tdiv (timeoutSeconds * 1000).den)).toNat

/-- `build_process_runner`. -/
def buildProcessRunner (program arguments outputPath : String) (timeoutSeconds : Rat)
    (workingDirectory : Option String) (utf8Output : Bool) : Except ScriptError Script :=
  if hasControlChars program || hasControlChars arguments then
    .error .controlCharacters
  else
    .ok <| joinLines <|
      [line (fixedString "$ErrorActionPreference = 'Stop'"),
        slot "$log = " outputPath,
        line (fixed "$utf8 = New-Object System.Text.UTF8Encoding $false"),
        line (fixed "try \x7b"),
        line (fixed "    $psi = New-Object System.Diagnostics.ProcessStartInfo"),
        slot "    $psi.FileName = " program,
        slot "    $psi.Arguments = " arguments,
        line (fixed "    $psi.UseShellExecute = $false"),
        line (fixed "    $psi.CreateNoWindow = $true"),
        line (fixed "    $psi.RedirectStandardOutput = $true"),
        line (fixed "    $psi.RedirectStandardError = $true")] ++
      (match workingDirectory with
        | none => []
        | some directory =>
          if directory = "" then [] else [slot "    $psi.WorkingDirectory = " directory]) ++
      (if utf8Output then
        [line (fixed "    $psi.StandardOutputEncoding = $utf8"),
          line (fixed "    $psi.StandardErrorEncoding = $utf8")]
      else []) ++
      [line (fixed "    $process = [System.Diagnostics.Process]::Start($psi)"),
        line (fixed "    $stdout = $process.StandardOutput.ReadToEndAsync()"),
        line (fixed "    $stderr = $process.StandardError.ReadToEndAsync()"),
        waitLine (timeoutMs timeoutSeconds),
        line (fixed "        try \x7b $process.Kill() \x7d catch \x7b \x7d"),
        line (fixedString
          "        $message = 'InfraOps: the process exceeded its timeout and was terminated.'"),
        line (fixed "        [System.IO.File]::WriteAllText($log, $message, $utf8)"),
        line (fixed "        exit 1460"),
        line (fixed "    \x7d"),
        line (fixed "    $process.WaitForExit()"),
        line (fixed "    $text = $stdout.Result"),
        ⟨[fixed "    if ($stderr.Result) \x7b $text = $text + [Environment]::NewLine ",
          fixed "+ $stderr.Result \x7d"], by simp⟩,
        line (fixed "    [System.IO.File]::WriteAllText($log, $text, $utf8)"),
        line (fixed "    exit $process.ExitCode"),
        line (fixed "\x7d catch \x7b"),
        line (fixed "    $message = 'InfraOps runner error: ' + $_.Exception.Message"),
        ⟨[fixed "    try \x7b [System.IO.File]::WriteAllText($log, $message, $utf8) \x7d ",
          fixed "catch \x7b \x7d"], by simp⟩,
        line (fixed "    exit 9009"),
        line (fixed "\x7d")]
where
  slot (text value : String)
      (ok : powerShell.isText true text.toList = true := by
        exact isText_ofList (by decide +kernel)) : Script :=
    ⟨[fixed text ok, quoted value], by simp⟩
  waitLine (timeoutMs : Nat) : Script :=
    ⟨[fixed "    if (-not $process.WaitForExit(", digits timeoutMs, fixed ")) \x7b"], by simp⟩

/-- `_SECRET_NAME.fullmatch(name)`. -/
def isSecretName (name : String) : Bool :=
  match name.toList with
  | [] => false
  | c :: cs => c.isAlpha && decide (cs.length ≤ 40) && cs.all fun d => d.isAlphanum || d == '_'

/-- The lines that read one secret and delete its file. -/
def secretLines (name path : String) : List Script :=
  [line (fixed "try \x7b"),
    ⟨[fixed "    $InfraOpsSecrets[", quoted name, fixed "] = [System.IO.File]::ReadAllText(",
      quoted path, fixed ", [System.Text.Encoding]::UTF8)"], by simp⟩,
    line (fixed "\x7d finally \x7b"),
    ⟨[fixed "    Remove-Item -LiteralPath ", quoted path,
      fixed " -Force -ErrorAction SilentlyContinue"], by simp⟩,
    line (fixed "\x7d")]

/-- `build_script_file`. -/
def buildScriptFile (script : Script) (secretPaths : List (String × String)) :
    Except ScriptError Script :=
  match secretPaths.find? fun s => !isSecretName s.1 with
  | some (name, _) => .error (.invalidSecretName name)
  | none =>
    .ok <| joinLines <|
      [line (fixedString "$ProgressPreference = 'SilentlyContinue'"),
        ⟨[fixed "try \x7b [Console]::OutputEncoding = New-Object System.Text.UTF8Encoding ",
          fixed "$false \x7d catch \x7b \x7d"], by simp⟩,
        line (fixed "$InfraOpsSecrets = @\x7b\x7d")] ++
      secretPaths.flatMap (fun s => secretLines s.1 s.2) ++ [script]

/-! ## Whether the literals hold -/

/-- A script that embeds values with `ps_quote`, with what it is built from; `file` is the
script file around another one. -/
inductive GeneratedScript
  | domainJoin (domain username : String) (ou newName : Option String)
  | staticIp (address : String) (prefixLength : Nat) (defaultGateway : String)
    (dnsServers : List String)
  | rename (newName : String)
  | gateway (address : String)
  | dns (fqdn server : String)
  | fileExists (path : String)
  | processRunner (program arguments outputPath : String) (timeoutSeconds : Rat)
    (workingDirectory : Option String) (utf8Output : Bool)
  | file (script : GeneratedScript) (secretPaths : List (String × String))

def GeneratedScript.build : GeneratedScript → Except ScriptError Script
  | domainJoin domain username ou newName =>
    .ok (buildDomainJoinScript domain username ou newName)
  | staticIp address prefixLength defaultGateway dnsServers =>
    .ok (buildStaticIpScript address prefixLength defaultGateway dnsServers)
  | rename newName => .ok (buildRenameScript newName)
  | gateway address => .ok (gatewayProbe address)
  | dns fqdn server => .ok (dnsProbe fqdn server)
  | fileExists path => .ok (fileExistsCommand path)
  | processRunner program arguments outputPath timeoutSeconds workingDirectory utf8Output =>
    buildProcessRunner program arguments outputPath timeoutSeconds workingDirectory utf8Output
  | file script secretPaths => do
    let body ← script.build
    buildScriptFile body secretPaths

/-- `ps_quote(value)` is one string that says `value` exactly when `value` holds no
typographic quote. -/
theorem psQuote_lexes_iff (value : String) :
    powerShell.lex (psQuote value).toList = some [.string value.toList] ↔
      ∀ c ∈ value.toList, isTypographicQuote c = false := by
  have hone := Rules.lex_render_iff (List.IsChain.singleton (quoted value))
  simpa [quoted, Rules.render, Rules.tokens, Rules.values, Rules.Part.chars, Rules.Part.tokens,
    Rules.Part.value?, psQuote_toList, escaped_iff] using hone

/-- **`ps_quote` in a script.** Cut a generated script after any of its parts: what stands
before the cut lexes as its parts, each `ps_quote(s)` in it as one string token that says
`s`, exactly when none of these values holds U+2018, U+2019, U+201A or U+201B. -/
theorem generated_lexes_iff (g : GeneratedScript) :
    ∀ script, g.build = .ok script → ∀ cut, cut <+: script.parts →
      (powerShell.lex (textOf cut).toList = some (Rules.tokens cut) ↔
        ∀ v ∈ Rules.values cut, ∀ c ∈ v, isTypographicQuote c = false) := by
  -- parts that stand apart are what a `Script` consists of, whoever built it
  intro script _ cut hcut
  have hapart := script.apart.prefix hcut
  rw [toList_textOf, Rules.lex_render_iff hapart]
  simp only [escaped_iff]

theorem generated_lexes_iff_domain_join :
    powerShell.lex (textOf (buildDomainJoinScript "corp.example.com" "CORP\\join"
        (some "OU=Bob's,DC=corp") none).parts).toList =
      some (Rules.tokens (buildDomainJoinScript "corp.example.com" "CORP\\join"
        (some "OU=Bob's,DC=corp") none).parts) := by
  have hplain : ((Rules.values (buildDomainJoinScript "corp.example.com" "CORP\\join"
      (some "OU=Bob's,DC=corp") none).parts).all fun v =>
        v.all fun c => isTypographicQuote c == false) = true := by decide +kernel
  refine (generated_lexes_iff (.domainJoin "corp.example.com" "CORP\\join"
    (some "OU=Bob's,DC=corp") none) _ rfl _ (List.prefix_refl _)).mpr fun v hv c hc => ?_
  exact eq_of_beq (List.all_eq_true.mp (List.all_eq_true.mp hplain v hv) c hc)

/-- An organizational unit that the request schema accepts (any text of at most 400
characters) closes its own literal and runs a command. -/
theorem organizational_unit_runs_command :
    let ou := "OU=Servers\u2019; Restart-Computer; \u2018"
    let script := buildDomainJoinScript "corp.example.com" "CORP\\join" (some ou) none
    powerShell.lex script.text.toList ≠ some (Rules.tokens script.parts) ∧
    powerShell.lex (psQuote ou).toList =
      some (.string "OU=Servers".toList :: "; Restart-Computer; ".toList.map .code ++
        [.string []]) := by
  intro ou script
  constructor
  · rw [Script.text, toList_textOf, Ne, Rules.lex_render_iff script.apart]
    decide
  · decide +kernel

end InfraOps
