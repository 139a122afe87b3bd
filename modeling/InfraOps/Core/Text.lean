import Mathlib.Data.List.Basic

/-!
# Text

The few string operations that the messages need, on the list of characters, so that they
evaluate inside the logic.
-/

namespace InfraOps

/-- `text[:n]`. -/
def firstChars (n : Nat) (text : String) : String := String.ofList (text.toList.take n)

/-- `text[-n:]`. -/
def lastChars (n : Nat) (text : String) : String :=
  String.ofList (text.toList.drop (text.length - n))

/-- `text.rstrip(chars)`. -/
def rstrip (drops : Char → Bool) (text : String) : String :=
  String.ofList (text.toList.reverse.dropWhile drops).reverse

/-- `str.isspace` of one character. -/
def pySpace (c : Char) : Bool :=
  c.toNat ∈ [0x09, 0x0a, 0x0b, 0x0c, 0x0d, 0x1c, 0x1d, 0x1e, 0x1f, 0x20, 0x85, 0xa0, 0x1680,
    0x2000, 0x2001, 0x2002, 0x2003, 0x2004, 0x2005, 0x2006, 0x2007, 0x2008, 0x2009, 0x200a,
    0x2028, 0x2029, 0x202f, 0x205f, 0x3000]

def dropRight (drops : Char → Bool) (cs : List Char) : List Char :=
  (cs.reverse.dropWhile drops).reverse

/-- `str.strip()`. -/
def pyStrip (cs : List Char) : List Char := dropRight pySpace (cs.dropWhile pySpace)

/-- `text.strip()`. -/
def strip (text : String) : String := String.ofList (pyStrip text.toList)

/-- The boundaries of `str.splitlines`. -/
def isLineBreak (c : Char) : Bool :=
  c.toNat ∈ [0x0a, 0x0b, 0x0c, 0x0d, 0x1c, 0x1d, 0x1e, 0x85, 0x2028, 0x2029]

/-- The non-blank lines of a command's output, stripped. -/
def outputLines (stdout : String) : List String :=
  ((stdout.toList.splitOnP isLineBreak).map fun line => strip (String.ofList line)).filter
    fun line => line ≠ ""

theorem ascii_of_le {c letter : Char} (h : c ≤ letter) (hletter : letter.toNat < 128) :
    c.toNat < 128 := by
  have hle : c.toNat ≤ letter.toNat := UInt32.le_iff_toNat_le.mp h
  omega

/-- What holds of the 128 characters holds of an ASCII one. -/
theorem forall_ascii {p : Char → Prop} (h : ∀ n < 128, p (Char.ofNat n)) {c : Char}
    (hc : c.toNat < 128) : p c := by
  have hchar := h c.toNat hc
  rwa [Char.ofNat_toNat] at hchar

/-! Only an ASCII character has another case. -/

theorem toUpper_of_not_ascii {c : Char} (h : 128 ≤ c.toNat) : c.toUpper = c := by
  unfold Char.toUpper
  rw [dif_neg]
  rintro ⟨-, hz⟩
  have hle : c.toNat ≤ 122 := UInt32.le_iff_toNat_le.mp hz
  omega

theorem toLower_of_not_ascii {c : Char} (h : 128 ≤ c.toNat) : c.toLower = c := by
  unfold Char.toLower
  rw [dif_neg]
  rintro ⟨-, hz⟩
  have hle : c.toNat ≤ 90 := UInt32.le_iff_toNat_le.mp hz
  omega

theorem forall_toUpper {q : Char → Char → Prop} (hsame : ∀ c, q c c)
    (h : ∀ n < 128, q (Char.ofNat n) (Char.ofNat n).toUpper) (c : Char) : q c c.toUpper := by
  by_cases hc : c.toNat < 128
  · exact forall_ascii (p := fun c => q c c.toUpper) h hc
  · rw [toUpper_of_not_ascii (Nat.le_of_not_lt hc)]
    exact hsame c

end InfraOps
