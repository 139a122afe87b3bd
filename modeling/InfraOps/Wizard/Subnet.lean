import InfraOps.Core.Ipv4
import InfraOps.Support.JsNumber

/-!
# Subnet masks

`maskToPrefix` and `prefixToMask` of `lib/utils.ts`, and `parsePrefixInput` of the wizard's
schema, which takes a prefix length or a mask. The octets of a mask are read by `Number`, so
that other texts pass for them.
-/

namespace InfraOps.Wizard

/-- `text.padStart(width, fill)`. -/
def padStart (width : Nat) (fill : Char) (cs : List Char) : List Char :=
  List.replicate (width - cs.length) fill ++ cs

/-- `text.padEnd(width, fill)`. -/
def padEnd (width : Nat) (fill : Char) (cs : List Char) : List Char :=
  cs ++ List.replicate (width - cs.length) fill

/-- `/^1*0*$/`. -/
def onesThenZeros (binary : List Char) : Bool := (binary.dropWhile (· = '1')).all (· = '0')

/-- Whether a number is neither `NaN` nor out of the range of an octet. -/
def octetRange (p : JsNumber) : Bool :=
  !(p.isNaN || p.lt (.ofNat 0) || (JsNumber.ofNat 255).lt p)

def octetBinary (p : JsNumber) : List Char := padStart 8 '0' p.toBinary

/-- `binary.indexOf('0') === -1 ? 32 : binary.indexOf('0')`. -/
def firstZero (binary : List Char) : Nat := if '0' ∈ binary then binary.idxOf '0' else 32

def maskToPrefix (mask : List Char) : Option Nat :=
  let parts := (mask.splitOn '.').map JsNumber.ofText
  if parts.length = 4 ∧ parts.all octetRange then
    let binary := parts.flatMap octetBinary
    if onesThenZeros binary then some (firstZero binary) else none
  else none

/-- `binary.match(/.{8}/g)`. -/
def octetGroups : List Char → List (List Char)
  | a :: b :: c :: d :: e :: f :: g :: h :: rest => [a, b, c, d, e, f, g, h] :: octetGroups rest
  | _ => []

def prefixToMask (length : Nat) : List Char :=
  let binary := padEnd 32 '0' (List.replicate length '1')
  ['.'].intercalate ((octetGroups binary).map fun octet =>
    Nat.toDigits 10 ((JsNumber.readDigits 2 octet).getD 0))

/-- `/^\d{1,2}$/`. -/
def shortNumeral (input : List Char) : Bool :=
  input ≠ [] && input.length ≤ 2 && input.all Ipv4Address.digit

/-- `prefix >= 8 && prefix <= 32 ? prefix : null`. -/
def permittedPrefix (p : JsNumber) : Option JsNumber :=
  if (JsNumber.ofNat 8).le p && p.le (.ofNat 32) then some p else none

def parsePrefixInput (value : List Char) : Option JsNumber :=
  let input := jsTrim value
  if shortNumeral input then permittedPrefix (.ofText input)
  else
    match maskToPrefix input with
    | some length => permittedPrefix (.ofNat length)
    | none => none

/-! ## Octets in binary -/

def bits (octet : Fin 256) : List Char := padStart 8 '0' (Nat.toDigits 2 octet)

theorem length_bits : ∀ octet, (bits octet).length = 8 := by decide +kernel

theorem bits_injective : Function.Injective bits := by
  have hread : ∀ octet, JsNumber.readDigits 2 (bits octet) = some octet.val := by decide +kernel
  intro a b h
  have hvalue := congrArg (JsNumber.readDigits 2) h
  rw [hread, hread] at hvalue
  exact Fin.ext (Option.some.inj hvalue)

theorem flatMap_bits_injective {octets octets' : List (Fin 256)}
    (h : octets.flatMap bits = octets'.flatMap bits) : octets = octets' := by
  induction octets generalizing octets' with
  | nil =>
    cases octets' with
    | nil => rfl
    | cons b octets' =>
      have hlen := congrArg List.length h
      simp [length_bits] at hlen
      omega
  | cons a octets ih =>
    cases octets' with
    | nil =>
      have hlen := congrArg List.length h
      simp [length_bits] at hlen
    | cons b octets' =>
      rw [List.flatMap_cons, List.flatMap_cons] at h
      obtain ⟨hfirst, hrest⟩ := List.append_inj h (by rw [length_bits, length_bits])
      rw [bits_injective hfirst, ih hrest]

theorem octet_lt (octet : Fin 256) : octet.val < 2 ^ 53 := by omega

def octetNumber (octet : Fin 256) : JsNumber := .ofNat octet

@[simp] theorem octetBinary_octetNumber (octet : Fin 256) :
    octetBinary (octetNumber octet) = bits octet := by
  rw [octetBinary, octetNumber, JsNumber.toBinary_ofNat (octet_lt octet), bits]

@[simp] theorem octetRange_octetNumber (octet : Fin 256) :
    octetRange (octetNumber octet) = true := by
  have hlow := JsNumber.lt_ofNat (octet_lt octet) (n := 0) (by decide)
  have hhigh := JsNumber.lt_ofNat (m := 255) (by decide) (octet_lt octet)
  have hle : ¬ 255 < octet.val := by omega
  rw [octetRange, octetNumber, hlow, hhigh, JsNumber.ofNat_eq (octet_lt octet)]
  simp [JsNumber.isNaN, hle]

/-- A number in range whose binary text has no point is an octet. -/
theorem octet_of_binary {p : JsNumber} (h : octetRange p) (hpoint : '.' ∉ octetBinary p) :
    ∃ octet, p = octetNumber octet := by
  have hzero := JsNumber.ofNat_eq (n := 0) (by decide)
  have hmax := JsNumber.ofNat_eq (n := 255) (by decide)
  cases p with
  | nan => simp [octetRange, JsNumber.isNaN] at h
  | infinity negative =>
    rw [octetRange, hzero, hmax] at h
    cases negative with
    | true => simp [JsNumber.lt] at h
    | false => simp [JsNumber.lt] at h
  | finite value =>
    rw [octetRange, hzero, hmax] at h
    simp only [JsNumber.isNaN, JsNumber.lt, Bool.false_or, Bool.not_or, Bool.and_eq_true,
      Bool.not_eq_true', decide_eq_false_iff_not, not_lt, Nat.cast_zero] at h
    have hbinary : '.' ∉ (JsNumber.finite value).toBinary := by
      intro hmem
      exact hpoint (List.mem_append_right _ hmem)
    obtain ⟨n, hn⟩ := JsNumber.eq_ofNat_of_toBinary h.1 hbinary
    have hle : n ≤ 255 := by
      have hcast := h.2
      rw [hn] at hcast
      exact_mod_cast hcast
    refine ⟨⟨n, by omega⟩, ?_⟩
    rw [octetNumber, JsNumber.ofNat_eq (by omega)]
    exact congrArg JsNumber.finite (Subtype.ext hn)

/-! ## Masks -/

/-- The mask of a prefix length. -/
def subnetMask (length : Nat) : Ipv4Address := .ofValue (2 ^ 32 - 2 ^ (32 - length))

/-- Its octets. -/
def maskOctets (length : Nat) : List (Fin 256) :=
  let mask := subnetMask length
  [mask.a, mask.b, mask.c, mask.d]

/-- Its bits. -/
def maskBits (length : Nat) : List Char :=
  List.replicate length '1' ++ List.replicate (32 - length) '0'

theorem flatMap_bits_maskOctets :
    ∀ length ≤ 32, (maskOctets length).flatMap bits = maskBits length := by
  decide +kernel

theorem onesThenZeros_maskBits : ∀ length ≤ 32, onesThenZeros (maskBits length) = true ∧
    firstZero (maskBits length) = length := by
  decide +kernel

theorem digit_of_onesThenZeros {binary : List Char} (h : onesThenZeros binary) :
    ∀ c ∈ binary, c = '1' ∨ c = '0' := by
  intro c hc
  rw [← List.takeWhile_append_dropWhile (p := (· = '1')) (l := binary)] at hc
  rcases List.mem_append.mp hc with hc | hc
  · exact .inl (by simpa using List.mem_takeWhile_imp hc)
  · exact .inr (by simpa using List.all_eq_true.mp h c hc)

theorem eq_maskBits_of_onesThenZeros {binary : List Char} (h : onesThenZeros binary)
    (hlen : binary.length = 32) : ∃ length ≤ 32, binary = maskBits length := by
  have hones : binary.takeWhile (· = '1') =
      List.replicate (binary.takeWhile (· = '1')).length '1' := by
    refine List.eq_replicate_of_mem fun c hc => ?_
    simpa using List.mem_takeWhile_imp hc
  have hzeros : binary.dropWhile (· = '1') =
      List.replicate (binary.dropWhile (· = '1')).length '0' := by
    refine List.eq_replicate_of_mem fun c hc => ?_
    simpa using List.all_eq_true.mp h c hc
  have hsum : (binary.takeWhile (· = '1')).length + (binary.dropWhile (· = '1')).length = 32 := by
    rw [← List.length_append, List.takeWhile_append_dropWhile, hlen]
  refine ⟨(binary.takeWhile (· = '1')).length, by omega, ?_⟩
  rw [maskBits, ← hones, show 32 - (binary.takeWhile (· = '1')).length =
    (binary.dropWhile (· = '1')).length by omega, ← hzeros, List.takeWhile_append_dropWhile]

theorem octets_of_binary {parts : List JsNumber} (hrange : parts.all octetRange)
    (hpoint : '.' ∉ parts.flatMap octetBinary) :
    ∃ octets : List (Fin 256), parts = octets.map octetNumber := by
  induction parts with
  | nil => exact ⟨[], rfl⟩
  | cons p parts ih =>
    simp only [List.all_cons, Bool.and_eq_true] at hrange
    simp only [List.flatMap_cons, List.mem_append, not_or] at hpoint
    obtain ⟨octet, rfl⟩ := octet_of_binary hrange.1 hpoint.1
    obtain ⟨octets, rfl⟩ := ih hrange.2 hpoint.2
    exact ⟨octet :: octets, rfl⟩

/-- A mask is taken exactly if `Number` reads its four parts as the octets of one. -/
theorem maskToPrefix_eq_some {mask : List Char} {length : Nat} :
    maskToPrefix mask = some length ↔ length ≤ 32 ∧
      (mask.splitOn '.').map JsNumber.ofText = (maskOctets length).map octetNumber := by
  unfold maskToPrefix
  dsimp only
  constructor
  · intro h
    split_ifs at h with hparts hones
    obtain ⟨hlen, hrange⟩ := hparts
    have hpoint : '.' ∉ ((mask.splitOn '.').map JsNumber.ofText).flatMap octetBinary := by
      intro hmem
      rcases digit_of_onesThenZeros hones _ hmem with h | h
      · exact absurd h (by decide)
      · exact absurd h (by decide)
    obtain ⟨octets, hoctets⟩ := octets_of_binary hrange hpoint
    rw [hoctets] at hlen hones h ⊢
    have hbinary : (octets.map octetNumber).flatMap octetBinary = octets.flatMap bits := by
      simp [List.flatMap_map]
    rw [hbinary] at hones h
    have hbits : (octets.flatMap bits).length = 32 := by
      rw [List.length_map] at hlen
      simp [length_bits, hlen]
    obtain ⟨found, hle, hmask⟩ := eq_maskBits_of_onesThenZeros hones hbits
    have hindex := (onesThenZeros_maskBits found hle).2
    rw [hmask, hindex] at h
    cases h
    refine ⟨hle, ?_⟩
    rw [← flatMap_bits_maskOctets length hle] at hmask
    rw [flatMap_bits_injective hmask]
  · rintro ⟨hle, hparts⟩
    have hbinary : ((maskOctets length).map octetNumber).flatMap octetBinary = maskBits length := by
      rw [List.flatMap_map, ← flatMap_bits_maskOctets length hle]
      simp
    obtain ⟨hones, hindex⟩ := onesThenZeros_maskBits length hle
    rw [hparts, if_pos ⟨rfl, by simp⟩, hbinary, if_pos hones, hindex]

/-! ## Prefix lengths -/

theorem prefixToMask_eq : ∀ length ≤ 32, prefixToMask length = (subnetMask length).text := by
  decide +kernel

theorem jsTrim_subnetMask :
    ∀ length ≤ 32, jsTrim (subnetMask length).text = (subnetMask length).text := by
  decide +kernel

theorem readDigits_showOctet :
    ∀ octet, JsNumber.readDigits 10 (Ipv4Address.showOctet octet) = some octet.val := by
  decide +kernel

/-- The parts of a mask's text are read as its octets. -/
theorem map_ofText_subnetMask (length : Nat) :
    ((subnetMask length).text.splitOn '.').map JsNumber.ofText =
      (maskOctets length).map octetNumber := by
  have hread : ∀ octet, JsNumber.ofText (Ipv4Address.showOctet octet) = octetNumber octet :=
    fun octet => JsNumber.ofText_digits (readDigits_showOctet octet)
  have hdot : ∀ octet, '.' ∉ Ipv4Address.showOctet octet := by
    intro octet hmem
    have hdigits := (JsNumber.digits_of_readDigits (readDigits_showOctet octet)).2 '.' hmem
    exact absurd hdigits (by decide)
  rw [Ipv4Address.text, List.splitOn_intercalate _ (by simp [hdot]) (by simp)]
  simp [hread, maskOctets]

theorem permittedPrefix_ofNat {length : Nat} (h : length < 2 ^ 53) :
    permittedPrefix (.ofNat length) =
      if 8 ≤ length ∧ length ≤ 32 then some (.ofNat length) else none := by
  rw [permittedPrefix, JsNumber.le_ofNat (by decide) h, JsNumber.le_ofNat h (by decide)]
  simp

/-- What an input denotes: a numeral of at most two digits its value, and the dotted decimal
text of a mask the length of its prefix. -/
def Denotes (input : List Char) (length : Nat) : Prop :=
  input.length ≤ 2 ∧ JsNumber.readDigits 10 input = some length ∨
    input = (subnetMask length).text

/-- Four parts that `Number` reads as the octets of a permitted mask, but not its text. -/
def LooseMask (input : List Char) : Prop :=
  ∃ length, 8 ≤ length ∧ length ≤ 32 ∧
    (input.splitOn '.').map JsNumber.ofText = (maskOctets length).map octetNumber ∧
    input ≠ (subnetMask length).text

theorem digits_of_shortNumeral {input : List Char} (h : shortNumeral input) :
    input ≠ [] ∧ input.length ≤ 2 ∧ ∀ c ∈ input, '0' ≤ c ∧ c ≤ '9' := by
  simpa [shortNumeral, Ipv4Address.digit, and_assoc] using h

theorem parsePrefixInput_numeral {value : List Char} (h : shortNumeral (jsTrim value)) :
    ∃ n < 100, JsNumber.readDigits 10 (jsTrim value) = some n ∧
      parsePrefixInput value = permittedPrefix (.ofNat n) := by
  obtain ⟨hne, hlen, hdigits⟩ := digits_of_shortNumeral h
  obtain ⟨n, hn, hlt⟩ := JsNumber.readDigits_of_digits hne hdigits
  have hpow : 10 ^ (jsTrim value).length ≤ 10 ^ 2 := Nat.pow_le_pow_right (by decide) hlen
  refine ⟨n, by omega, hn, ?_⟩
  rw [parsePrefixInput, if_pos h, JsNumber.ofText_digits hn]

theorem parsePrefixInput_mask {value : List Char} (h : shortNumeral (jsTrim value) = false)
    (result : JsNumber) : parsePrefixInput value = some result ↔
      ∃ length, 8 ≤ length ∧ length ≤ 32 ∧ ((jsTrim value).splitOn '.').map JsNumber.ofText =
        (maskOctets length).map octetNumber ∧ result = .ofNat length := by
  have hparse : parsePrefixInput value =
      (maskToPrefix (jsTrim value)).bind fun length => permittedPrefix (.ofNat length) := by
    rw [parsePrefixInput, if_neg (by rw [h]; decide)]
    cases maskToPrefix (jsTrim value) with
    | none => rfl
    | some length => rfl
  rw [hparse, Option.bind_eq_some_iff]
  refine exists_congr fun length => ?_
  rw [maskToPrefix_eq_some]
  constructor
  · rintro ⟨⟨hle, hparts⟩, hresult⟩
    rw [permittedPrefix_ofNat (by omega)] at hresult
    split_ifs at hresult with hrange
    exact ⟨hrange.1, hle, hparts, by simpa using hresult.symm⟩
  · rintro ⟨hge, hle, hparts, rfl⟩
    refine ⟨⟨hle, hparts⟩, ?_⟩
    rw [permittedPrefix_ofNat (by omega), if_pos ⟨hge, hle⟩]

theorem shortNumeral_of_readDigits {input : List Char} {n : Nat} (hlen : input.length ≤ 2)
    (h : JsNumber.readDigits 10 input = some n) : shortNumeral input = true := by
  obtain ⟨hne, hdigits⟩ := JsNumber.digits_of_readDigits h
  simpa [shortNumeral, Ipv4Address.digit, hne, hlen] using hdigits

/-- A numeral is one part, and a mask is four. -/
theorem shortNumeral_of_mask {input : List Char} {length : Nat}
    (h : (input.splitOn '.').map JsNumber.ofText = (maskOctets length).map octetNumber) :
    shortNumeral input = false := by
  rw [Bool.eq_false_iff]
  intro hnumeral
  have hdot : '.' ∉ input := by
    intro hmem
    exact absurd ((digits_of_shortNumeral hnumeral).2.2 '.' hmem) (by decide)
  rw [List.splitOn_eq_singleton hdot] at h
  have hlen := congrArg List.length h
  simp [maskOctets] at hlen

theorem denotes_of_numeral {input : List Char} (h : shortNumeral input) {length : Nat} :
    Denotes input length ↔ JsNumber.readDigits 10 input = some length := by
  constructor
  · rintro (⟨-, hread⟩ | rfl)
    · exact hread
    · rw [shortNumeral_of_mask (map_ofText_subnetMask length)] at h
      cases h
  · exact fun hread => .inl ⟨(digits_of_shortNumeral h).2.1, hread⟩

theorem denotes_of_not_numeral {input : List Char} (h : shortNumeral input = false)
    {length : Nat} : Denotes input length ↔ input = (subnetMask length).text := by
  constructor
  · rintro (⟨hlen, hread⟩ | htext)
    · rw [shortNumeral_of_readDigits hlen hread] at h
      cases h
    · exact htext
  · exact .inr

theorem parsePrefixInput_of_strict {value : List Char} (hstrict : ¬ LooseMask (jsTrim value))
    (result : JsNumber) : parsePrefixInput value = some result ↔
      ∃ length, 8 ≤ length ∧ length ≤ 32 ∧ Denotes (jsTrim value) length ∧
        result = .ofNat length := by
  cases hnumeral : shortNumeral (jsTrim value) with
  | true =>
    obtain ⟨n, hlt, hn, hparse⟩ := parsePrefixInput_numeral hnumeral
    rw [hparse, permittedPrefix_ofNat (by omega)]
    constructor
    · intro h
      split_ifs at h with hrange
      exact ⟨n, hrange.1, hrange.2, (denotes_of_numeral hnumeral).mpr hn, by simpa using h.symm⟩
    · rintro ⟨length, hge, hle, hdenotes, rfl⟩
      have hsame : n = length := by
        have hread := (denotes_of_numeral hnumeral).mp hdenotes
        exact Option.some.inj (hn.symm.trans hread)
      rw [hsame, if_pos ⟨hge, hle⟩]
  | false =>
    rw [parsePrefixInput_mask hnumeral]
    refine exists_congr fun length => and_congr_right fun hge => and_congr_right fun hle =>
      and_congr_left fun _ => ?_
    rw [denotes_of_not_numeral hnumeral]
    constructor
    · intro hparts
      by_contra htext
      exact hstrict ⟨length, hge, hle, hparts, htext⟩
    · intro htext
      rw [htext]
      exact map_ofText_subnetMask length

/-- A loose mask is taken for one whose text it is not. -/
theorem parsePrefixInput_of_loose {value : List Char} (h : LooseMask (jsTrim value)) :
    ∃ length ≤ 32, parsePrefixInput value = some (.ofNat length) ∧
      ¬ Denotes (jsTrim value) length := by
  obtain ⟨length, hge, hle, hparts, htext⟩ := h
  have hnumeral := shortNumeral_of_mask hparts
  refine ⟨length, hle, ?_, ?_⟩
  · exact (parsePrefixInput_mask hnumeral _).mpr ⟨length, hge, hle, hparts, rfl⟩
  · rw [denotes_of_not_numeral hnumeral]
    exact htext

/-- An input is read as what it denotes, exactly if it is no loose mask; and the mask of a
permitted prefix length is read back as that length. -/
theorem parsePrefixInput_exact (value : List Char) :
    ((∀ result, parsePrefixInput value = some result ↔
        ∃ length, 8 ≤ length ∧ length ≤ 32 ∧ Denotes (jsTrim value) length ∧
          result = .ofNat length) ↔
      ¬ LooseMask (jsTrim value)) ∧
    ∀ length, 8 ≤ length → length ≤ 32 →
      parsePrefixInput (prefixToMask length) = some (.ofNat length) := by
  constructor
  · constructor
    · intro h hloose
      obtain ⟨length, hle, hparse, hnot⟩ := parsePrefixInput_of_loose hloose
      obtain ⟨length', -, hle', hdenotes, hsame⟩ := (h _).mp hparse
      rw [JsNumber.ofNat_inj (by omega) (by omega)] at hsame
      exact hnot (hsame ▸ hdenotes)
    · exact parsePrefixInput_of_strict
  · intro length hge hle
    have htrim : jsTrim (prefixToMask length) = (subnetMask length).text := by
      rw [prefixToMask_eq length hle, jsTrim_subnetMask length hle]
    have hparts := map_ofText_subnetMask length
    rw [← htrim] at hparts
    exact (parsePrefixInput_mask (shortNumeral_of_mask hparts) _).mpr
      ⟨length, hge, hle, hparts, rfl⟩

theorem parsePrefixInput_exact_numeral :
    parsePrefixInput (prefixToMask 23) = some (.ofNat 23) ∧
      ∀ result, parsePrefixInput " 24".toList = some result ↔
        ∃ length, 8 ≤ length ∧ length ≤ 32 ∧ Denotes "24".toList length ∧
          result = .ofNat length := by
  obtain ⟨hstrict, hround⟩ := parsePrefixInput_exact " 24".toList
  refine ⟨hround 23 (by decide) (by decide), ?_⟩
  apply hstrict.mpr
  rintro ⟨length, -, -, hparts, -⟩
  have hlen := congrArg List.length hparts
  have hone : ((jsTrim " 24".toList).splitOn '.').length = 1 := by decide
  rw [List.length_map, hone] at hlen
  cases hlen

/-- A mask without its last octet is read as the mask of 24 bits. -/
theorem parsePrefixInput_not_exact :
    ¬ ∀ value result, parsePrefixInput value = some result ↔
      ∃ length, 8 ≤ length ∧ length ≤ 32 ∧ Denotes (jsTrim value) length ∧
        result = .ofNat length := by
  have hoctet : JsNumber.ofText "255".toList = octetNumber 255 :=
    JsNumber.ofText_digits (readDigits_showOctet 255)
  have hempty : JsNumber.ofText [] = octetNumber 0 := rfl
  have hparts : ("255.255.255.".toList.splitOn '.').map JsNumber.ofText =
      (maskOctets 24).map octetNumber := by
    calc _ = [JsNumber.ofText "255".toList, JsNumber.ofText "255".toList,
          JsNumber.ofText "255".toList, JsNumber.ofText []] := rfl
      _ = _ := by
        rw [hoctet, hempty]
        rfl
  have hloose : LooseMask (jsTrim "255.255.255.".toList) :=
    ⟨24, by decide, by decide, hparts, by decide⟩
  obtain ⟨length, hle, hparse, hnot⟩ := parsePrefixInput_of_loose hloose
  intro h
  obtain ⟨length', -, hle', hdenotes, hsame⟩ := (h _ _).mp hparse
  rw [JsNumber.ofNat_inj (by omega) (by omega)] at hsame
  exact hnot (hsame ▸ hdenotes)

end InfraOps.Wizard
