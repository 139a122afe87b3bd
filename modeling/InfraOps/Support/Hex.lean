import Mathlib.Tactic.Common

/-!
# Hexadecimal text

Two digits for each byte, and comparison that ignores case.
-/

namespace InfraOps.Hex

def digit (n : Nat) : Char := "0123456789abcdef".toList.getD n '0'

/-- `binascii.hexlify`. -/
def hexlify (bytes : List UInt8) : List Char :=
  bytes.flatMap fun byte => [digit (byte.toNat / 16), digit (byte.toNat % 16)]

def isDigit (c : Char) : Bool :=
  ('0' ≤ c && c ≤ '9') || ('a' ≤ c && c ≤ 'f') || ('A' ≤ c && c ≤ 'F')

/-- Texts of ASCII characters, compared without case. -/
def sameIgnoringCase (a b : List Char) : Bool := a.map Char.toLower = b.map Char.toLower

theorem length_hexlify (bytes : List UInt8) : (hexlify bytes).length = 2 * bytes.length := by
  induction bytes with
  | nil => rfl
  | cons byte bytes ih =>
    rw [hexlify] at ih ⊢
    rw [List.flatMap_cons, List.length_append, ih, List.length_cons, List.length_cons]
    simp only [List.length_cons, List.length_nil]
    omega

theorem digit_cases {p : Char → Prop} (h : ∀ c ∈ "0123456789abcdef".toList, p c) (n : Nat) :
    p (digit n) := by
  unfold digit
  rw [List.getD_eq_getElem?_getD]
  cases hc : "0123456789abcdef".toList[n]? with
  | none => exact h '0' (by decide)
  | some c => exact h c (List.mem_of_getElem? hc)

/-- What holds of the sixteen digits holds throughout a hexadecimal text. -/
theorem forall_mem_hexlify {p : Char → Prop} (h : ∀ c ∈ "0123456789abcdef".toList, p c)
    (bytes : List UInt8) : ∀ c ∈ hexlify bytes, p c := by
  intro c hc
  obtain ⟨byte, -, hmem⟩ := List.mem_flatMap.mp hc
  simp only [List.mem_cons, List.not_mem_nil, or_false] at hmem
  rcases hmem with rfl | rfl <;> exact digit_cases h _

theorem length_eq_of_sameIgnoringCase {a b : List Char} (h : sameIgnoringCase a b = true) :
    a.length = b.length := by
  have hmap : a.map Char.toLower = b.map Char.toLower := by simpa [sameIgnoringCase] using h
  simpa using congrArg List.length hmap

end InfraOps.Hex
