import InfraOps.Core.Text
import InfraOps.Support.Base64
import InfraOps.Support.Codec
import Mathlib.Data.List.DropRight

/-!
# Inventory references

The identifiers under which ISO files of a datastore are offered: a JSON pair in URL-safe
base64, without its padding.
-/

namespace InfraOps

variable (dumps : JsonDocument → List Char) (loads : List Char → Option JsonDocument)

/-! ## The code -/

/-- `_ISO_PREFIX`. -/
def isoMark : List Char := "iso:".toList

def encodeUtf8 (text : List Char) : List UInt8 := text.flatMap String.utf8EncodeChar

def decodeUtf8 (bytes : List UInt8) : Option (List Char) :=
  bytes.toByteArray.utf8Decode?.map Array.toList

def encodeIsoId (datastoreId path : List Char) : List Char :=
  let payload := encodeUtf8 (dumps (.array [.text datastoreId, .text path]))
  let token := dropRight (· == '=') (Base64.encode payload)
  isoMark ++ token

/-- `json.loads(base64.urlsafe_b64decode(token.encode()).decode())`, if nothing is raised. -/
def readToken (token : List Char) : Option JsonDocument := do
  let bytes ← Base64.decode token
  let text ← decodeUtf8 bytes
  loads text

def decodeIsoId (value : List Char) : Except String (List Char × List Char) :=
  if !isoMark.isPrefixOf value then .error "Unknown ISO identifier format."
  else
    let token := value.drop isoMark.length
    let padding := ((-(token.length : Int)) % 4).toNat
    match readToken loads (token ++ List.replicate padding '=') with
    | none => .error "Invalid ISO identifier."
    | some (.array [.text datastoreId, .text path]) =>
      if datastoreId ≠ [] ∧ path ≠ [] then .ok (datastoreId, path)
      else .error "Invalid ISO identifier payload."
    | some _ => .error "Invalid ISO identifier payload."

/-! ## The round trip -/

theorem decodeUtf8_encodeUtf8 (text : List Char) : decodeUtf8 (encodeUtf8 text) = some text := by
  have hround := List.utf8Decode?_utf8Encode (l := text)
  rw [decodeUtf8, encodeUtf8]
  rw [List.utf8Encode] at hround
  rw [hround]
  rfl

theorem dropRight_replicate {text : List Char} (h : '=' ∉ text) (n : Nat) :
    dropRight (· == '=') (text ++ List.replicate n '=') = text := by
  have hstop : text.reverse.dropWhile (· == '=') = text.reverse := by
    cases hrev : text.reverse with
    | nil => rfl
    | cons c cs =>
      have hc : c ∈ text := List.mem_reverse.mp (by rw [hrev]; exact List.mem_cons_self)
      have hne : c ≠ '=' := fun heq => h (heq ▸ hc)
      exact List.dropWhile_cons_of_neg (by simpa using hne)
  rw [dropRight, List.reverse_append, List.reverse_replicate,
    List.dropWhile_append_of_pos (by simp), hstop, List.reverse_reverse]

/-- However many bytes there are, the padding that is stripped is the one put back. -/
theorem restore_padding (bytes : List UInt8) :
    let token := dropRight (· == '=') (Base64.encode bytes)
    token ++ List.replicate ((-(token.length : Int)) % 4).toNat '=' = Base64.encode bytes := by
  obtain ⟨symbols, pads, heq, hmem, hpads, hlength⟩ := Base64.encode_eq bytes
  have hpadding : ((-(symbols.length : Int)) % 4).toNat = pads := by omega
  simp only [heq, dropRight_replicate hmem, hpadding]

variable {dumps loads}

theorem readToken_encode {document : JsonDocument}
    (hjson : loads (dumps document) = some document) :
    readToken loads (Base64.encode (encodeUtf8 (dumps document))) = some document := by
  rw [readToken, Base64.decode_encode]
  simp only [Option.bind_eq_bind, Option.bind_some, decodeUtf8_encodeUtf8]
  exact hjson

theorem drop_isoMark (token : List Char) :
    isoMark.isPrefixOf (isoMark ++ token) = true ∧ (isoMark ++ token).drop isoMark.length = token :=
  ⟨List.isPrefixOf_iff_prefix.mpr (List.prefix_append _ _), List.drop_left⟩

theorem decodeIsoId_encodeIsoId {datastoreId path : List Char}
    (hjson : loads (dumps (.array [.text datastoreId, .text path])) =
      some (.array [.text datastoreId, .text path]))
    (hdatastore : datastoreId ≠ []) (hpath : path ≠ []) :
    decodeIsoId loads (encodeIsoId dumps datastoreId path) = .ok (datastoreId, path) := by
  obtain ⟨hmark, hdrop⟩ := drop_isoMark (dropRight (· == '=')
    (Base64.encode (encodeUtf8 (dumps (.array [.text datastoreId, .text path])))))
  have hpadding := restore_padding (encodeUtf8 (dumps (.array [.text datastoreId, .text path])))
  simp only at hpadding
  simp only [decodeIsoId, encodeIsoId, hmark, hdrop, hpadding, readToken_encode hjson,
    Bool.not_true, Bool.false_eq_true, if_false]
  exact if_pos ⟨hdatastore, hpath⟩

/-- Different pairs are written as different tokens, empty texts included. -/
theorem encodeIsoId_injective
    (hjson : ∀ datastoreId path, loads (dumps (.array [.text datastoreId, .text path])) =
      some (.array [.text datastoreId, .text path]))
    {datastoreId path datastoreId' path' : List Char}
    (h : encodeIsoId dumps datastoreId path = encodeIsoId dumps datastoreId' path') :
    datastoreId = datastoreId' ∧ path = path' := by
  have htoken := List.append_cancel_left h
  have hencode := restore_padding (encodeUtf8 (dumps (.array [.text datastoreId, .text path])))
  simp only [htoken, restore_padding] at hencode
  have hread := readToken_encode (hjson datastoreId path)
  rw [← hencode, readToken_encode (hjson datastoreId' path')] at hread
  simp only [Option.some.injEq, JsonDocument.array.injEq, List.cons.injEq,
    JsonDocument.text.injEq, and_true] at hread
  exact ⟨hread.1.symm, hread.2.symm⟩

theorem nonempty_of_decodeIsoId {value datastoreId path : List Char}
    (h : decodeIsoId loads value = .ok (datastoreId, path)) : datastoreId ≠ [] ∧ path ≠ [] := by
  simp only [decodeIsoId] at h
  split at h
  · cases h
  · split at h
    · cases h
    · split at h
      · rename_i hne
        cases h
        exact hne
      · cases h
    · cases h

/-- The references round-trip, whatever the two texts are, and what is accepted names a
datastore and a path. -/
theorem isoId_roundTrip
    (hjson : ∀ datastoreId path, loads (dumps (.array [.text datastoreId, .text path])) =
      some (.array [.text datastoreId, .text path])) :
    (∀ datastoreId path, datastoreId ≠ [] → path ≠ [] →
      decodeIsoId loads (encodeIsoId dumps datastoreId path) = .ok (datastoreId, path)) ∧
    (∀ datastoreId path datastoreId' path',
      encodeIsoId dumps datastoreId path = encodeIsoId dumps datastoreId' path' →
        datastoreId = datastoreId' ∧ path = path') ∧
    (∀ value datastoreId path, decodeIsoId loads value = .ok (datastoreId, path) →
      datastoreId ≠ [] ∧ path ≠ []) :=
  ⟨fun datastoreId path => decodeIsoId_encodeIsoId (hjson datastoreId path),
    fun _ _ _ _ => encodeIsoId_injective hjson, fun _ _ _ => nonempty_of_decodeIsoId⟩

/-! ## Pairs of printable texts -/

def quoteText (text : List Char) : List Char :=
  text.flatMap fun c => if c = '"' ∨ c = '\\' then ['\\', c] else [c]

/-- A quoted text up to its closing quote, and what follows. -/
def unquoteText : List Char → Option (List Char × List Char)
  | [] => none
  | '"' :: rest => some ([], rest)
  | '\\' :: c :: rest => (unquoteText rest).map fun read => (c :: read.1, read.2)
  | c :: rest => (unquoteText rest).map fun read => (c :: read.1, read.2)

/-- `json.dumps` of a pair of texts of printable ASCII characters. -/
def dumpsPair : JsonDocument → List Char
  | .array [.text a, .text b] => '[' :: '"' :: quoteText a ++ '"' :: ',' :: '"' :: quoteText b ++
      ['"', ']']
  | _ => []

def loadsPair : List Char → Option JsonDocument
  | '[' :: '"' :: rest => do
    let (a, rest) ← unquoteText rest
    match rest with
    | ',' :: '"' :: rest =>
      let (b, rest) ← unquoteText rest
      if rest = [']'] then some (.array [.text a, .text b]) else none
    | _ => none
  | _ => none

theorem unquoteText_quoteText (text rest : List Char) :
    unquoteText (quoteText text ++ '"' :: rest) = some (text, rest) := by
  induction text with
  | nil => rfl
  | cons c text ih =>
    rw [quoteText] at ih
    rw [quoteText, List.flatMap_cons, List.append_assoc]
    by_cases hc : c = '"' ∨ c = '\\'
    · rw [if_pos hc, List.cons_append, List.singleton_append, unquoteText, ih]
      rfl
    · obtain ⟨hquote, hslash⟩ := not_or.mp hc
      rw [if_neg hc, List.singleton_append, unquoteText, ih]
      · rfl
      · exact hquote
      · exact fun _ _ heq _ => hslash heq

theorem loadsPair_dumpsPair (a b : List Char) :
    loadsPair (dumpsPair (.array [.text a, .text b])) = some (.array [.text a, .text b]) := by
  rw [dumpsPair, List.cons_append, List.cons_append, List.append_assoc]
  simp [loadsPair, unquoteText_quoteText]

/-- A path with a quote and a backslash in it. -/
theorem isoId_roundTrip_quoted :
    decodeIsoId loadsPair (encodeIsoId dumpsPair "datastore-12".toList
        "ISO/win \"2022\" \\x.iso".toList) =
      .ok ("datastore-12".toList, "ISO/win \"2022\" \\x.iso".toList) := by
  refine (isoId_roundTrip loadsPair_dumpsPair).1 _ _ ?_ ?_
  · decide
  · decide

end InfraOps
