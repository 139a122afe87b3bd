import InfraOps.Core.Text

/-!
# Stored credentials and their keys

`app/secrets/encryption.py` and `app/secrets/rotate.py`. A root key comes from one of two
settings, taken as it stands, or from a comma-separated list, whose entries are stripped. The
packages behind it are a parameter.
-/

namespace InfraOps.Secrets

/-- `hashlib.sha256` and `cryptography.fernet`. A token is read by the key that made it;
`none` is `InvalidToken`, or text that is no token at all. -/
structure Cryptography where
  sha256 : ByteArray → ByteArray
  /-- `Fernet(key).encrypt`, at a time and with an initialisation vector. -/
  encrypt : ByteArray → Nat → String → String
  decrypt : ByteArray → String → Option String
  decrypt_encrypt : ∀ key parts value, decrypt key (encrypt key parts value) = some value
  decrypt_other : ∀ key key' parts value, key ≠ key' →
    decrypt key' (encrypt key parts value) = none

/-- The settings that hold keys. -/
structure Settings where
  secretKey : String := ""
  credentialEncryptionKey : String := ""
  credentialEncryptionPreviousKeys : String := ""

/-- `_KEY_LABEL`. -/
def keyLabel : ByteArray := "infraops/credential-store/v1\x00".toUTF8

/-- `_derive`; the key in base 64 is the digest. -/
def Cryptography.derive (c : Cryptography) (root : String) : ByteArray :=
  c.sha256 (keyLabel ++ root.toUTF8)

namespace Settings

/-- `settings.credential_encryption_key or settings.secret_key`. -/
def primary (s : Settings) : String :=
  if s.credentialEncryptionKey ≠ "" then s.credentialEncryptionKey else s.secretKey

/-- `credential_encryption_previous_keys.split(",")`. -/
def previousKeys (s : Settings) : List String :=
  (s.credentialEncryptionPreviousKeys.toList.splitOn ',').map String.ofList

/-- One turn of the loop over the previous keys. -/
def addPrevious (roots : List String) (previous : String) : List String :=
  if strip previous ≠ "" ∧ strip previous ∉ roots then roots ++ [strip previous] else roots

/-- `_key_roots`. -/
def keyRoots (s : Settings) : List String :=
  let roots := s.previousKeys.foldl addPrevious [s.primary]
  if s.secretKey ≠ "" ∧ s.secretKey ∉ roots then roots ++ [s.secretKey] else roots

end Settings

/-! ## Tokens -/

section

variable (c : Cryptography) (s : Settings)

/-- `MultiFernet.decrypt`: the keys are tried in turn. -/
def multiDecrypt (token : String) : Option String :=
  s.keyRoots.findSome? fun root => c.decrypt (c.derive root) token

/-- `encrypt_secret`; `MultiFernet` encrypts with its first key. -/
def encryptSecret (parts : Nat) (value : String) : Except String String :=
  if value = "" then .error "A secret value cannot be empty."
  else .ok (c.encrypt (c.derive s.primary) parts value)

/-- `decrypt_secret`. -/
def decryptSecret (token : String) : Except String String :=
  match multiDecrypt c s token with
  | some value => .ok value
  | none => .error ("A stored credential could not be decrypted. Verify " ++
      "CREDENTIAL_ENCRYPTION_KEY (or SECRET_KEY) and CREDENTIAL_ENCRYPTION_PREVIOUS_KEYS.")

/-- `reencrypt_secret`. -/
def reencryptSecret (parts : Nat) (token : String) : Except String String :=
  match multiDecrypt c s token with
  | some value => .ok (c.encrypt (c.derive s.primary) parts value)
  | none => .error "A stored credential could not be re-encrypted."

end

/-- A row of `secret_references`. -/
structure SecretReference where
  id : Nat
  encryptedUsername : Option String
  encryptedPassword : Option String

/-- `if row.encrypted_…:`, for one column. -/
def rotateField (c : Cryptography) (s : Settings) (parts : Nat) :
    Option String → Except String (Option String)
  | none => .ok none
  | some token =>
    if token = "" then .ok (some token) else (reencryptSecret c s parts token).map some

def rotateRow (c : Cryptography) (s : Settings) (parts : Nat → Nat) (row : SecretReference) :
    Except String SecretReference := do
  let username ← rotateField c s (parts 0) row.encryptedUsername
  let password ← rotateField c s (parts 1) row.encryptedPassword
  .ok { row with encryptedUsername := username, encryptedPassword := password }

def rotateRows (c : Cryptography) (s : Settings) :
    (Nat → Nat) → List SecretReference → Except String (List SecretReference)
  | _, [] => .ok []
  | parts, row :: rows => do
    let row ← rotateRow c s parts row
    let rows ← rotateRows c s (fun n => parts (n + 2)) rows
    .ok (row :: rows)

/-- `rotate_all`: the number of rows and what is committed. An error commits nothing. -/
def rotateAll (c : Cryptography) (s : Settings) (parts : Nat → Nat)
    (table : List SecretReference) : Except String (Nat × List SecretReference) := do
  let table' ← rotateRows c s parts table
  .ok (table.length, table')

/-! ## The roots -/

theorem mem_addPrevious {roots : List String} {previous root : String} :
    root ∈ Settings.addPrevious roots previous ↔
      root ∈ roots ∨ root ≠ "" ∧ strip previous = root := by
  unfold Settings.addPrevious
  by_cases h : strip previous ≠ "" ∧ strip previous ∉ roots
  · rw [if_pos h, List.mem_append, List.mem_singleton]
    constructor
    · rintro (hroot | rfl)
      · exact .inl hroot
      · exact .inr ⟨h.1, rfl⟩
    · rintro (hroot | ⟨-, rfl⟩)
      · exact .inl hroot
      · exact .inr rfl
  · rw [if_neg h]
    constructor
    · exact .inl
    · rintro (hroot | ⟨hne, rfl⟩)
      · exact hroot
      · -- it was there already
        by_contra hnot
        exact h ⟨hne, hnot⟩

theorem mem_foldl_addPrevious (previous roots : List String) (root : String) :
    root ∈ previous.foldl Settings.addPrevious roots ↔
      root ∈ roots ∨ root ≠ "" ∧ ∃ piece ∈ previous, strip piece = root := by
  induction previous generalizing roots with
  | nil => simp
  | cons piece previous ih =>
    rw [List.foldl_cons, ih, mem_addPrevious]
    constructor
    · rintro ((hroot | ⟨hne, hpiece⟩) | ⟨hne, other, hother, hpiece⟩)
      · exact .inl hroot
      · exact .inr ⟨hne, piece, List.mem_cons_self, hpiece⟩
      · exact .inr ⟨hne, other, List.mem_cons_of_mem _ hother, hpiece⟩
    · rintro (hroot | ⟨hne, other, hother, hpiece⟩)
      · exact .inl (.inl hroot)
      · rcases List.mem_cons.mp hother with rfl | hother
        · exact .inl (.inr ⟨hne, hpiece⟩)
        · exact .inr ⟨hne, other, hother, hpiece⟩

/-- **The roots**: the primary one, the entries of the list without blanks around them, and
the secret key. -/
theorem mem_keyRoots {s : Settings} {root : String} :
    root ∈ s.keyRoots ↔ root = s.primary ∨
      (root ≠ "" ∧ ∃ piece ∈ s.previousKeys, strip piece = root) ∨
      root ≠ "" ∧ root = s.secretKey := by
  have hfold := mem_foldl_addPrevious s.previousKeys [s.primary] root
  rw [List.mem_singleton] at hfold
  rw [← or_assoc, ← hfold]
  unfold Settings.keyRoots
  dsimp only
  split
  · rename_i h
    rw [List.mem_append, List.mem_singleton]
    constructor
    · rintro (hroot | rfl)
      · exact .inl hroot
      · exact .inr ⟨h.1, rfl⟩
    · rintro (hroot | ⟨-, hroot⟩)
      · exact .inl hroot
      · exact .inr hroot
  · rename_i h
    constructor
    · exact .inl
    · rintro (hroot | ⟨hne, rfl⟩)
      · exact hroot
      · by_contra hnot
        exact h ⟨hne, hnot⟩

end InfraOps.Secrets
