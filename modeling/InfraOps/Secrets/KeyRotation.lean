import InfraOps.Secrets.Encryption
import InfraOps.Support.Separated
import Mathlib.Data.List.Forall2

/-!
# Changing the root key

A former root is listed among the previous keys as it stood in its own setting. The list
gives it back unless it holds a comma or begins or ends with a blank; such a root is lost,
and with it everything encrypted under it.
-/

namespace InfraOps.Secrets

variable {c : Cryptography} {s old new : Settings}

/-- `",".join(roots)`. -/
def joinRoots (roots : List String) : String :=
  String.ofList ([','].intercalate (roots.map String.toList))

/-- `root` is listed among the previous keys. -/
def Listed (s : Settings) (root : String) : Prop :=
  ∃ before after, s.credentialEncryptionPreviousKeys = joinRoots (before ++ root :: after)

/-- A root that its entry in the list gives back. -/
def Separable (root : String) : Prop := root ≠ "" ∧ ',' ∉ root.toList ∧ strip root = root

/-! ## What the list gives back -/

theorem strip_strip (text : String) : strip (strip text) = strip text := by
  have h := trim_trim (p := pySpace) text.toList
  rw [strip, strip, String.toList_ofList]
  exact congrArg String.ofList h

/-- Whatever the list gives back is separable. -/
theorem separable_of_piece {root piece : String} (hne : root ≠ "")
    (hpiece : piece ∈ s.previousKeys) (hroot : strip piece = root) : Separable root := by
  obtain ⟨cs, hcs, rfl⟩ := List.mem_map.mp hpiece
  refine ⟨hne, fun hcomma => ?_, ?_⟩
  · -- a piece holds no comma, and stripping adds none
    rw [← hroot, strip, String.toList_ofList, String.toList_ofList] at hcomma
    exact sep_notMem_of_mem_splitOn hcs ((trim_sublist (p := pySpace) cs).mem hcomma)
  · rw [← hroot, strip_strip]

/-- A listed root that is separable is given back. -/
theorem mem_previousKeys_of_listed {root : String} (hlisted : Listed s root)
    (hroot : Separable root) : root ∈ s.previousKeys := by
  obtain ⟨before, after, hlist⟩ := hlisted
  refine List.mem_map.mpr ⟨root.toList, ?_, String.ofList_toList⟩
  rw [hlist, joinRoots, String.toList_ofList]
  exact mem_splitOn_intercalate (List.mem_map_of_mem (by simp)) hroot.2.1

/-- **Which listed roots are among the keys.** -/
theorem mem_keyRoots_of_listed {root : String} (hlisted : Listed s root) :
    root ∈ s.keyRoots ↔
      Separable root ∨ root = s.primary ∨ root ≠ "" ∧ root = s.secretKey := by
  rw [mem_keyRoots]
  constructor
  · rintro (hprimary | ⟨hne, piece, hpiece, hstrip⟩ | hsecret)
    · exact .inr (.inl hprimary)
    · exact .inl (separable_of_piece hne hpiece hstrip)
    · exact .inr (.inr hsecret)
  · rintro (hsep | hprimary | hsecret)
    · exact .inr (.inl ⟨hsep.1, root, mem_previousKeys_of_listed hlisted hsep, hsep.2.2⟩)
    · exact .inl hprimary
    · exact .inr (.inr hsecret)

/-! ## Which tokens decrypt -/

/-- `token` was made of `value` while `s` was in force. -/
def Produced (c : Cryptography) (s : Settings) (token value : String) : Prop :=
  ∃ parts, encryptSecret c s parts value = .ok token

theorem Produced.eq {token value : String} (h : Produced c s token value) :
    ∃ parts, token = c.encrypt (c.derive s.primary) parts value := by
  obtain ⟨parts, h⟩ := h
  unfold encryptSecret at h
  split at h
  · cases h
  · exact ⟨parts, by simpa using h.symm⟩

/-- A listed key reads its tokens, whatever keys are tried before it. -/
theorem multiDecrypt_encrypt {root : String} (hroot : root ∈ s.keyRoots) (parts : Nat)
    (value : String) :
    multiDecrypt c s (c.encrypt (c.derive root) parts value) = some value := by
  have hread : c.decrypt (c.derive root) (c.encrypt (c.derive root) parts value) = some value :=
    c.decrypt_encrypt _ _ _
  unfold multiDecrypt
  cases hfind : s.keyRoots.findSome? fun other =>
      c.decrypt (c.derive other) (c.encrypt (c.derive root) parts value) with
  | none =>
    have hnone := List.findSome?_eq_none_iff.mp hfind root hroot
    simp [hread] at hnone
  | some found =>
    obtain ⟨other, -, hother⟩ := List.exists_of_findSome?_eq_some hfind
    -- a key that reads the token is the key that made it
    by_cases hkey : c.derive root = c.derive other
    · rw [← hkey, hread] at hother
      exact hother.symm
    · rw [c.decrypt_other _ _ _ _ hkey] at hother
      cases hother

/-- Without its key a token is not read. -/
theorem multiDecrypt_eq_none {root : String} (hroot : root ∉ s.keyRoots)
    (hfree : ∀ other ∈ s.keyRoots, c.derive other = c.derive root → other = root) (parts : Nat)
    (value : String) : multiDecrypt c s (c.encrypt (c.derive root) parts value) = none := by
  refine List.findSome?_eq_none_iff.mpr fun other hother => c.decrypt_other _ _ _ _ ?_
  intro hkey
  exact hroot (hfree other hother hkey.symm ▸ hother)

theorem primary_mem_keyRoots (s : Settings) : s.primary ∈ s.keyRoots := mem_keyRoots.mpr (.inl rfl)

/-! ## Re-encryption -/

/-- The tokens of a row. -/
def SecretReference.tokens (row : SecretReference) : List String :=
  (row.encryptedUsername.toList ++ row.encryptedPassword.toList).filter (· ≠ "")

/-- A column after the rotation: the same secret, that the primary key reads by itself. -/
def FieldKept (c : Cryptography) (s : Settings) : Option String → Option String → Prop
  | none, none => True
  | some token, some token' => token = "" ∧ token' = "" ∨
      ∃ value, decryptSecret c s token = .ok value ∧
        c.decrypt (c.derive s.primary) token' = some value
  | _, _ => False

structure RowKept (c : Cryptography) (s : Settings) (row row' : SecretReference) : Prop where
  id : row'.id = row.id
  username : FieldKept c s row.encryptedUsername row'.encryptedUsername
  password : FieldKept c s row.encryptedPassword row'.encryptedPassword

/-- The rotation from `old` to `new` loses nothing: tokens made under `old` decrypt, and
a table of tokens made under either is re-encrypted under the new key as a whole. -/
structure KeepsEverything (c : Cryptography) (old new : Settings) : Prop where
  decrypts : ∀ token value, Produced c old token value → decryptSecret c new token = .ok value
  rotates : ∀ parts table, (∀ row ∈ table, ∀ token ∈ row.tokens,
      ∃ value, Produced c old token value ∨ Produced c new token value) →
    ∃ table', rotateAll c new parts table = .ok (table.length, table') ∧
      List.Forall₂ (RowKept c new) table table'

/-- A column whose token decrypts is re-encrypted. -/
theorem rotateField_kept (parts : Nat) {field : Option String}
    (h : ∀ token, field = some token → token ≠ "" → ∃ value, multiDecrypt c s token = some value) :
    ∃ field', rotateField c s parts field = .ok field' ∧ FieldKept c s field field' := by
  cases field with
  | none => exact ⟨none, rfl, trivial⟩
  | some token =>
    by_cases hempty : token = ""
    · exact ⟨some token, by simp [rotateField, hempty], .inl ⟨hempty, hempty⟩⟩
    · obtain ⟨value, hvalue⟩ := h token rfl hempty
      refine ⟨some (c.encrypt (c.derive s.primary) parts value), ?_, .inr ⟨value, ?_, ?_⟩⟩
      · simp [rotateField, hempty, reencryptSecret, hvalue, Except.map]
      · simp [decryptSecret, hvalue]
      · exact c.decrypt_encrypt _ _ _

theorem rotateRow_kept (parts : Nat → Nat) {row : SecretReference}
    (h : ∀ token ∈ row.tokens, ∃ value, multiDecrypt c s token = some value) :
    ∃ row', rotateRow c s parts row = .ok row' ∧ RowKept c s row row' := by
  obtain ⟨username, husername, hkept⟩ := rotateField_kept (c := c) (s := s) (parts 0)
    fun token (htoken : row.encryptedUsername = some token) hne =>
      h token (by simp [SecretReference.tokens, htoken, hne])
  obtain ⟨password, hpassword, hkept'⟩ := rotateField_kept (c := c) (s := s) (parts 1)
    fun token (htoken : row.encryptedPassword = some token) hne =>
      h token (by simp [SecretReference.tokens, htoken, hne])
  exact ⟨{ row with encryptedUsername := username, encryptedPassword := password },
    by rw [rotateRow, husername, hpassword]; rfl, rfl, hkept, hkept'⟩

theorem rotateRows_kept (parts : Nat → Nat) {table : List SecretReference}
    (h : ∀ row ∈ table, ∀ token ∈ row.tokens, ∃ value, multiDecrypt c s token = some value) :
    ∃ table', rotateRows c s parts table = .ok table' ∧
      List.Forall₂ (RowKept c s) table table' := by
  induction table generalizing parts with
  | nil => exact ⟨[], rfl, .nil⟩
  | cons row table ih =>
    obtain ⟨row', hrow, hkept⟩ := rotateRow_kept parts (h row List.mem_cons_self)
    obtain ⟨table', htable, hkept'⟩ := ih (fun n => parts (n + 2))
      fun row hrow => h row (List.mem_cons_of_mem _ hrow)
    exact ⟨row' :: table', by rw [rotateRows, hrow, htable]; rfl, .cons hkept hkept'⟩

/-! ## The rotation -/

/-- With the former root among the keys, nothing is lost. -/
theorem keepsEverything_of_mem (h : old.primary ∈ new.keyRoots) : KeepsEverything c old new where
  decrypts token value hproduced := by
    obtain ⟨parts, rfl⟩ := hproduced.eq
    simp [decryptSecret, multiDecrypt_encrypt h]
  rotates parts table htable := by
    obtain ⟨table', hrows, hkept⟩ := rotateRows_kept (c := c) (s := new) parts
      fun row (hrow : row ∈ table) token htoken => by
        obtain ⟨value, hold | hnew⟩ := htable row hrow token htoken
        · obtain ⟨parts, rfl⟩ := hold.eq
          exact ⟨value, multiDecrypt_encrypt h parts value⟩
        · obtain ⟨parts, rfl⟩ := hnew.eq
          exact ⟨value, multiDecrypt_encrypt (primary_mem_keyRoots new) parts value⟩
    exact ⟨table', by rw [rotateAll, hrows]; rfl, hkept⟩

/-- Without it, what was encrypted under it no longer decrypts. -/
theorem not_keepsEverything (h : old.primary ∉ new.keyRoots)
    (hfree : ∀ other ∈ new.keyRoots, c.derive other = c.derive old.primary → other = old.primary) :
    ¬ KeepsEverything c old new := by
  intro hkeeps
  have hread := hkeeps.decrypts (c.encrypt (c.derive old.primary) 0 "x") "x" ⟨0, by
    simp [encryptSecret]⟩
  simp [decryptSecret, multiDecrypt_eq_none h hfree] at hread

/-- **A rotation loses nothing exactly when the former root survives its entry in the list**,
or is still the primary key or the secret key; `hfree` says that the digests of the listed
roots do not collide with its own. -/
theorem keepsEverything_iff (c : Cryptography) (old new : Settings)
    (hlisted : Listed new old.primary)
    (hfree : ∀ other ∈ new.keyRoots, c.derive other = c.derive old.primary →
      other = old.primary) :
    KeepsEverything c old new ↔ Separable old.primary ∨ old.primary = new.primary ∨
      old.primary ≠ "" ∧ old.primary = new.secretKey := by
  rw [← mem_keyRoots_of_listed hlisted]
  constructor
  · intro hkeeps
    by_contra hnot
    exact not_keepsEverything hnot hfree hkeeps
  · exact keepsEverything_of_mem

/-! ## A root with a comma -/

/-- The key in front of the text, with a mark between them that no key holds. -/
def keyMark (key : ByteArray) : List Char :=
  key.data.toList.map (fun b => Char.ofNat b.toNat) ++ ['\u0100']

theorem byteChar_toNat (b : UInt8) : (Char.ofNat b.toNat).toNat = b.toNat := by
  have hvalid : b.toNat.isValidChar := by
    have := b.toNat_lt
    left
    omega
  rw [Char.ofNat, dif_pos hvalid]
  rfl

theorem byteChar_ne_mark (b : UInt8) : Char.ofNat b.toNat ≠ '\u0100' := by
  intro h
  have hnat := congrArg Char.toNat h
  have hlt := b.toNat_lt
  rw [byteChar_toNat] at hnat
  have hmark : '\u0100'.toNat = 256 := rfl
  omega

/-- The mark tells where the key ends. -/
theorem key_of_keyMark {key key' : ByteArray} {rest : List Char}
    (h : keyMark key' <+: keyMark key ++ rest) : key = key' := by
  have hcut : ∀ (key : ByteArray) (rest : List Char),
      (keyMark key ++ rest).takeWhile (· ≠ '\u0100') =
        key.data.toList.map (fun b => Char.ofNat b.toNat) := by
    intro key rest
    rw [keyMark, List.append_assoc, List.takeWhile_append_of_pos]
    · simp
    · intro ch hch
      obtain ⟨b, -, rfl⟩ := List.mem_map.mp hch
      simpa using byteChar_ne_mark b
  obtain ⟨rest', hrest⟩ := h
  have hkeys := hcut key rest
  rw [← hrest, hcut] at hkeys
  have hinj : Function.Injective fun b : UInt8 => Char.ofNat b.toNat := by
    intro a b hab
    have hnat := congrArg Char.toNat hab
    simp only [byteChar_toNat] at hnat
    exact UInt8.toNat_inj.mp hnat
  have hlist := List.map_injective_iff.mpr hinj hkeys
  exact (ByteArray.ext (Array.toList_inj.mp hlist)).symm

/-- A cipher that hides nothing. -/
def transparent : Cryptography where
  sha256 bytes := bytes
  encrypt key _ value := String.ofList (keyMark key ++ value.toList)
  decrypt key token :=
    if keyMark key <+: token.toList then
      some (String.ofList (token.toList.drop (keyMark key).length))
    else none
  decrypt_encrypt key _ value := by simp
  decrypt_other key key' _ value hne := by
    rw [String.toList_ofList, if_neg]
    exact fun h => hne (key_of_keyMark h)

theorem transparent_derive_inj {root root' : String}
    (h : transparent.derive root = transparent.derive root') : root = root' := by
  have hbytes : root.toUTF8 = root'.toUTF8 := (ByteArray.append_right_inj keyLabel).mp h
  exact String.toByteArray_inj.mp hbytes

theorem listed_single {root : String} (h : s.credentialEncryptionPreviousKeys = root) :
    Listed s root :=
  ⟨[], [], by simp [h, joinRoots]⟩

def formerSettings (root : String) : Settings :=
  { secretKey := "0123456789abcdef0123456789abcdef", credentialEncryptionKey := root }

/-- The settings while the tokens of `root` are re-encrypted. -/
def rotatingSettings (root : String) : Settings :=
  { secretKey := "0123456789abcdef0123456789abcdef"
    credentialEncryptionKey := "the-root-key-of-the-year-2025-ff"
    credentialEncryptionPreviousKeys := root }

theorem keepsEverything_plain_root :
    KeepsEverything transparent (formerSettings "the-root-key-of-the-year-2024-ee")
      (rotatingSettings "the-root-key-of-the-year-2024-ee") :=
  (keepsEverything_iff _ _ _ (listed_single rfl) fun _ _ => transparent_derive_inj).mpr
    (.inl ⟨by decide, by decide, by decide⟩)

/-- The former root is cut at its comma. -/
theorem root_with_comma_lost :
    Listed (rotatingSettings "correct horse, battery staple 24")
        (formerSettings "correct horse, battery staple 24").primary ∧
      ¬ KeepsEverything transparent (formerSettings "correct horse, battery staple 24")
        (rotatingSettings "correct horse, battery staple 24") :=
  ⟨listed_single rfl,
    not_keepsEverything (by decide) fun _ _ => transparent_derive_inj⟩

end InfraOps.Secrets
