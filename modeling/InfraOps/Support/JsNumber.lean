import InfraOps.Support.FloatFormat
import InfraOps.Support.Separated

/-!
# JavaScript numbers

The numbers of JavaScript over the rationals, how `Number` reads them from a text and how
`toString(2)` writes them. Reading is exact up to the last rounding. The two zeros are one
number here: neither their order nor their texts tell them apart.
-/

namespace InfraOps

/-- `WhiteSpace` or `LineTerminator`. -/
def jsSpace (c : Char) : Bool :=
  c.toNat ∈ [0x09, 0x0a, 0x0b, 0x0c, 0x0d, 0x20, 0xa0, 0x1680, 0x2000, 0x2001, 0x2002, 0x2003,
    0x2004, 0x2005, 0x2006, 0x2007, 0x2008, 0x2009, 0x200a, 0x2028, 0x2029, 0x202f, 0x205f,
    0x3000, 0xfeff]

/-- `text.trim()`. -/
def jsTrim (cs : List Char) : List Char := trim jsSpace cs

/-- A finite number. -/
abbrev Double := { q : ℚ // FloatFormat.binary64.Holds q }

inductive JsNumber
  | nan
  | infinity (negative : Bool)
  | finite (value : Double)
  deriving DecidableEq

namespace JsNumber

open FloatFormat

/-- The number that a rational is rounded to. -/
def ofRat (q : ℚ) : JsNumber :=
  if h : |binary64.nearest q| < 2 ^ binary64.maxExponent then
    .finite ⟨binary64.nearest q, binary64.spaced_nearest q, h⟩
  else .infinity (q < 0)

theorem ofRat_of_holds {q : ℚ} (h : binary64.Holds q) : ofRat q = .finite ⟨q, h⟩ := by
  have hsame := binary64.nearest_of_spaced h.1
  unfold ofRat
  simp only [hsame, dif_pos h.2]

theorem holds_natCast {n : ℕ} (h : n < 2 ^ 53) : binary64.Holds n :=
  FloatFormat.holds_natCast binary64 h (by decide) (by decide)

def ofNat (n : ℕ) : JsNumber := ofRat n

theorem ofNat_eq {n : ℕ} (h : n < 2 ^ 53) : ofNat n = .finite ⟨n, holds_natCast h⟩ :=
  ofRat_of_holds (holds_natCast h)

theorem ofNat_inj {m n : ℕ} (hm : m < 2 ^ 53) (hn : n < 2 ^ 53) : ofNat m = ofNat n ↔ m = n := by
  rw [ofNat_eq hm, ofNat_eq hn]
  simp

/-! ## Order -/

def isNaN : JsNumber → Bool
  | nan => true
  | _ => false

/-- `a < b`. -/
def lt : JsNumber → JsNumber → Bool
  | nan, _ => false
  | _, nan => false
  | infinity negative, infinity negative' => negative && !negative'
  | infinity negative, finite _ => negative
  | finite _, infinity negative => !negative
  | finite a, finite b => a.val < b.val

/-- `a <= b`. -/
def le (a b : JsNumber) : Bool := !a.isNaN && !b.isNaN && !b.lt a

theorem lt_ofNat {m n : ℕ} (hm : m < 2 ^ 53) (hn : n < 2 ^ 53) :
    (ofNat m).lt (ofNat n) = decide (m < n) := by
  rw [ofNat_eq hm, ofNat_eq hn]
  simp [lt]

theorem le_ofNat {m n : ℕ} (hm : m < 2 ^ 53) (hn : n < 2 ^ 53) :
    (ofNat m).le (ofNat n) = decide (m ≤ n) := by
  rw [le, lt_ofNat hn hm, ofNat_eq hm, ofNat_eq hn]
  by_cases h : m ≤ n
  · simp [isNaN, h]
  · simp [isNaN, h, not_le.mp h]

/-- `a * n`. -/
def timesNat : JsNumber → ℕ → JsNumber
  | nan, _ => nan
  | infinity negative, n => if n = 0 then nan else infinity negative
  | finite value, n => ofRat (value.val * n)

/-! ## `toString(2)` -/

/-- The binary digits of a fraction, at most `count` of them. -/
def fractionDigits : ℕ → ℚ → List Char
  | 0, _ => []
  | count + 1, q =>
    if q = 0 then []
    else if 1 ≤ 2 * q then '1' :: fractionDigits count (2 * q - 1)
    else '0' :: fractionDigits count (2 * q)

def toBinary : JsNumber → List Char
  | nan => "NaN".toList
  | infinity negative => (if negative then ['-'] else []) ++ "Infinity".toList
  | finite value =>
    let whole := ⌊|value.val|⌋₊
    let fraction := |value.val| - whole
    -- the denominator of a number is a power of two
    (if value.val < 0 then ['-'] else []) ++ Nat.toDigits 2 whole ++
      if fraction = 0 then [] else '.' :: fractionDigits fraction.den.log2 fraction

theorem toBinary_ofNat {n : ℕ} (h : n < 2 ^ 53) : (ofNat n).toBinary = Nat.toDigits 2 n := by
  rw [ofNat_eq h]
  simp [toBinary, not_lt.mpr (Nat.cast_nonneg (α := ℚ) n)]

/-- A number without a point in its binary text is an integer. -/
theorem eq_ofNat_of_toBinary {value : Double} (hpos : 0 ≤ value.val)
    (hpoint : '.' ∉ (finite value).toBinary) : ∃ n : ℕ, value.val = n := by
  refine ⟨⌊value.val⌋₊, ?_⟩
  simp only [toBinary, abs_of_nonneg hpos] at hpoint
  by_contra hne
  rw [if_neg (sub_ne_zero.mpr hne)] at hpoint
  simp at hpoint

/-! ## `Number` of a text -/

/-- The value of a digit in a base up to 36. -/
def digitValue (base : ℕ) (c : Char) : Option ℕ :=
  let value :=
    if '0' ≤ c ∧ c ≤ '9' then c.toNat - '0'.toNat
    else if 'a' ≤ c ∧ c ≤ 'z' then c.toNat - 'a'.toNat + 10
    else if 'A' ≤ c ∧ c ≤ 'Z' then c.toNat - 'A'.toNat + 10
    else base
  if value < base then some value else none

/-- The value of digits, at least one. -/
def readDigits (base : ℕ) (cs : List Char) : Option ℕ :=
  if cs = [] then none
  else cs.foldlM (fun n c => (digitValue base c).map (base * n + ·)) 0

/-- `SignedInteger`. -/
def readExponent : List Char → Option ℤ
  | '+' :: cs => (readDigits 10 cs).map Int.ofNat
  | '-' :: cs => (readDigits 10 cs).map fun n => -n
  | cs => (readDigits 10 cs).map Int.ofNat

/-- The digits of a decimal literal, and how many of them are behind the point. -/
def readSignificand (cs : List Char) : Option (ℕ × ℕ) :=
  match cs.splitOn '.' with
  | [whole] => (readDigits 10 whole).map (·, 0)
  | [whole, fraction] => (readDigits 10 (whole ++ fraction)).map (·, fraction.length)
  | _ => none

/-- `StrUnsignedDecimalLiteral`, but for `Infinity`. -/
def readDecimal (cs : List Char) : Option ℚ :=
  match cs.splitOnP fun c => c = 'e' || c = 'E' with
  | [significand] => do
    let (digits, places) ← readSignificand significand
    return digits / 10 ^ places
  | [significand, exponent] => do
    let (digits, places) ← readSignificand significand
    let exponent ← readExponent exponent
    return digits * 10 ^ (exponent - places)
  | _ => none

/-- `StrDecimalLiteral`, after its sign. -/
def readSigned (negative : Bool) (cs : List Char) : JsNumber :=
  if cs = "Infinity".toList then .infinity negative
  else
    match readDecimal cs with
    | some q => ofRat (if negative then -q else q)
    | none => .nan

/-- The base that `0x`, `0o` or `0b` announces. -/
def literalBase (c : Char) : Option ℕ :=
  if c ∈ ['x', 'X'] then some 16
  else if c ∈ ['o', 'O'] then some 8
  else if c ∈ ['b', 'B'] then some 2
  else none

/-- `StrNumericLiteral`. -/
def readLiteral : List Char → JsNumber
  | '+' :: cs => readSigned false cs
  | '-' :: cs => readSigned true cs
  | '0' :: c :: cs =>
    match literalBase c with
    | some base => ((readDigits base cs).map ofNat).getD .nan
    | none => readSigned false ('0' :: c :: cs)
  | cs => readSigned false cs

/-- `Number(text)`. -/
def ofText (cs : List Char) : JsNumber :=
  if jsTrim cs = [] then ofNat 0 else readLiteral (jsTrim cs)

/-! ## Decimal numerals -/

theorem digit_of_digitValue {c : Char} {n : ℕ} (h : digitValue 10 c = some n) :
    '0' ≤ c ∧ c ≤ '9' := by
  by_contra hnot
  unfold digitValue at h
  rw [if_neg hnot] at h
  dsimp only at h
  -- the letters begin with the value ten
  rw [if_neg] at h
  · cases h
  · split_ifs
    · omega
    · omega
    · omega

theorem digits_of_readDigits {cs : List Char} {n : ℕ} (h : readDigits 10 cs = some n) :
    cs ≠ [] ∧ ∀ c ∈ cs, '0' ≤ c ∧ c ≤ '9' := by
  unfold readDigits at h
  split at h
  · cases h
  · rename_i hne
    refine ⟨hne, ?_⟩
    clear hne
    generalize 0 = start at h
    induction cs generalizing start with
    | nil => simp
    | cons c cs ih =>
      rw [List.foldlM_cons] at h
      obtain ⟨next, hnext, hrest⟩ := Option.bind_eq_some_iff.mp h
      obtain ⟨value, hvalue, -⟩ := Option.map_eq_some_iff.mp hnext
      exact List.forall_mem_cons.mpr ⟨digit_of_digitValue hvalue, ih next hrest⟩

theorem digitValue_of_digit {c : Char} (h : '0' ≤ c ∧ c ≤ '9') :
    digitValue 10 c = some (c.toNat - 48) ∧ c.toNat - 48 < 10 := by
  have hhi : c.toNat ≤ 57 := UInt32.le_iff_toNat_le.mp h.2
  have hlt : c.toNat - 48 < 10 := by omega
  refine ⟨?_, hlt⟩
  unfold digitValue
  rw [if_pos h]
  exact if_pos hlt

theorem readDigits_of_digits {cs : List Char} (hne : cs ≠ [])
    (h : ∀ c ∈ cs, '0' ≤ c ∧ c ≤ '9') :
    ∃ n, readDigits 10 cs = some n ∧ n < 10 ^ cs.length := by
  -- the digits behind `start` leave it as the number of their powers of ten
  have hfold : ∀ start, ∃ n, cs.foldlM (fun n c => (digitValue 10 c).map (10 * n + ·)) start =
      some n ∧ n < (start + 1) * 10 ^ cs.length := by
    clear hne
    induction cs with
    | nil =>
      intro start
      exact ⟨start, rfl, by simp⟩
    | cons c cs ih =>
      intro start
      obtain ⟨hvalue, hlt⟩ := digitValue_of_digit (h c (by simp))
      obtain ⟨n, hn, hbound⟩ := ih (fun c hc => h c (by simp [hc])) (10 * start + (c.toNat - 48))
      refine ⟨n, ?_, ?_⟩
      · rw [List.foldlM_cons, hvalue]
        exact hn
      · calc n < (10 * start + (c.toNat - 48) + 1) * 10 ^ cs.length := hbound
          _ ≤ (start + 1) * 10 * 10 ^ cs.length := Nat.mul_le_mul_right _ (by omega)
          _ = (start + 1) * 10 ^ (c :: cs).length := by
            rw [List.length_cons, Nat.pow_succ, Nat.mul_assoc, Nat.mul_comm 10]
  obtain ⟨n, hn, hbound⟩ := hfold 0
  exact ⟨n, by rw [readDigits, if_neg hne, hn], by simpa using hbound⟩

theorem jsSpace_digit {c : Char} (h : '0' ≤ c ∧ c ≤ '9') : jsSpace c = false := by
  have hlo : 48 ≤ c.toNat := UInt32.le_iff_toNat_le.mp h.1
  have hhi : c.toNat ≤ 57 := UInt32.le_iff_toNat_le.mp h.2
  simp only [jsSpace, List.mem_cons, List.not_mem_nil, or_false, decide_eq_false_iff_not]
  omega

theorem jsTrim_digits {cs : List Char} (h : ∀ c ∈ cs, '0' ≤ c ∧ c ≤ '9') : jsTrim cs = cs :=
  trim_of_forall fun c hc => jsSpace_digit (h c hc)

theorem readLiteral_digits {cs : List Char} (h : ∀ c ∈ cs, '0' ≤ c ∧ c ≤ '9') :
    readLiteral cs = readSigned false cs := by
  unfold readLiteral
  split
  · exact absurd (h '+' (by simp)) (by decide)
  · exact absurd (h '-' (by simp)) (by decide)
  · rename_i c cs
    have hbase : literalBase c = none := by
      have hdigit := h c (by simp)
      unfold literalBase
      rw [if_neg, if_neg, if_neg]
      all_goals
        simp only [List.mem_cons, List.not_mem_nil, or_false]
        rintro (rfl | rfl)
        · exact absurd hdigit (by decide)
        · exact absurd hdigit (by decide)
    rw [hbase]
  · rfl

theorem readDecimal_digits {cs : List Char} {n : ℕ} (h : readDigits 10 cs = some n) :
    readDecimal cs = some n := by
  have hdigits := (digits_of_readDigits h).2
  have hexponent : (cs.splitOnP fun c => c = 'e' || c = 'E') = [cs] := by
    refine List.splitOnP_eq_singleton fun c hc => ?_
    have hlower : c ≠ 'e' := by
      intro he
      exact absurd (he ▸ (hdigits c hc).2) (by decide)
    have hupper : c ≠ 'E' := by
      intro he
      exact absurd (he ▸ (hdigits c hc).2) (by decide)
    simp [hlower, hupper]
  have hpoint : cs.splitOn '.' = [cs] := by
    refine List.splitOn_eq_singleton fun hdot => ?_
    exact absurd (hdigits '.' hdot) (by decide)
  rw [readDecimal, hexponent]
  simp [readSignificand, hpoint, h]

/-- Decimal numerals are read as what they denote, leading zeros or not. -/
theorem ofText_digits {cs : List Char} {n : ℕ} (h : readDigits 10 cs = some n) :
    ofText cs = ofNat n := by
  obtain ⟨hne, hdigits⟩ := digits_of_readDigits h
  have hinfinity : cs ≠ "Infinity".toList := by
    rintro rfl
    exact absurd (hdigits 'I' (by decide)) (by decide)
  rw [ofText, jsTrim_digits hdigits, if_neg hne, readLiteral_digits hdigits, readSigned,
    if_neg hinfinity, readDecimal_digits h]
  rfl

end JsNumber

end InfraOps
