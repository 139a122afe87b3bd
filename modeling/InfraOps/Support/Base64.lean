import Mathlib.Tactic.Common

/-!
# Base64

The URL-safe encoding of bytes, and the lenient decoder, which skips what is not in the
alphabet and stops at the padding that completes a group of four.
-/

namespace InfraOps.Base64

def alphabet : List Char :=
  "ABCDEFGHIJKLMNOPQRSTUVWXYZabcdefghijklmnopqrstuvwxyz0123456789-_".toList

def symbol (n : Nat) : Char := alphabet.getD n 'A'

/-- `urlsafe_b64encode`. -/
def encode : List UInt8 → List Char
  | [] => []
  | [a] => [symbol (a.toNat / 4), symbol (a.toNat % 4 * 16), '=', '=']
  | [a, b] =>
    [symbol (a.toNat / 4), symbol (a.toNat % 4 * 16 + b.toNat / 16),
      symbol (b.toNat % 16 * 4), '=']
  | a :: b :: c :: rest =>
    symbol (a.toNat / 4) :: symbol (a.toNat % 4 * 16 + b.toNat / 16) ::
      symbol (b.toNat % 16 * 4 + c.toNat / 64) :: symbol (c.toNat % 64) :: encode rest

/-- The alphabet's two last symbols are read in either spelling. -/
def sextet? (c : Char) : Option Nat :=
  if 'A' ≤ c ∧ c ≤ 'Z' then some (c.toNat - 'A'.toNat)
  else if 'a' ≤ c ∧ c ≤ 'z' then some (c.toNat - 'a'.toNat + 26)
  else if '0' ≤ c ∧ c ≤ '9' then some (c.toNat - '0'.toNat + 52)
  else if c = '-' ∨ c = '+' then some 62
  else if c = '_' ∨ c = '/' then some 63
  else none

/-- `binascii.a2b_base64` from within a group of four: how many of its symbols have been read,
the bits left over from them, and the padding seen since. -/
def decodeFrom (read left pads : Nat) : List Char → Option (List UInt8)
  | [] => if read = 0 then some [] else none
  | c :: cs =>
    if c = '=' then
      if 2 ≤ read then
        if 4 ≤ read + (pads + 1) then some [] else decodeFrom read left (pads + 1) cs
      else decodeFrom read left pads cs
    else
      match sextet? c with
      | none => decodeFrom read left pads cs
      | some n =>
        match read with
        | 0 => decodeFrom 1 n 0 cs
        | 1 => (decodeFrom 2 (n % 16) 0 cs).map (UInt8.ofNat (left * 4 + n / 16) :: ·)
        | 2 => (decodeFrom 3 (n % 4) 0 cs).map (UInt8.ofNat (left * 16 + n / 4) :: ·)
        | _ => (decodeFrom 0 0 0 cs).map (UInt8.ofNat (left * 64 + n) :: ·)

/-- `urlsafe_b64decode`. -/
def decode (text : List Char) : Option (List UInt8) := decodeFrom 0 0 0 text

/-! ## Symbols -/

theorem sextet?_symbol {n : Nat} (h : n < 64) : sextet? (symbol n) = some n := by
  revert n
  decide +kernel

theorem symbol_ne_pad (n : Nat) : symbol n ≠ '=' := by
  by_cases h : n < 64
  · revert n
    decide +kernel
  · have hlength : alphabet.length ≤ n := Nat.le_of_not_lt h
    rw [symbol, List.getD_eq_getElem?_getD, List.getElem?_eq_none hlength]
    decide

section

variable {n left pads : Nat} {a : UInt8} (hn : n < 64) (cs : List Char)

include hn

theorem decodeFrom_first : decodeFrom 0 left pads (symbol n :: cs) = decodeFrom 1 n 0 cs := by
  rw [decodeFrom, if_neg (symbol_ne_pad n), sextet?_symbol hn]
  rfl

theorem decodeFrom_second (ha : left * 4 + n / 16 = a.toNat) :
    decodeFrom 1 left pads (symbol n :: cs) = (decodeFrom 2 (n % 16) 0 cs).map (a :: ·) := by
  rw [decodeFrom, if_neg (symbol_ne_pad n), sextet?_symbol hn]
  simp only [ha, UInt8.ofNat_toNat]

theorem decodeFrom_third (ha : left * 16 + n / 4 = a.toNat) :
    decodeFrom 2 left pads (symbol n :: cs) = (decodeFrom 3 (n % 4) 0 cs).map (a :: ·) := by
  rw [decodeFrom, if_neg (symbol_ne_pad n), sextet?_symbol hn]
  simp only [ha, UInt8.ofNat_toNat]

theorem decodeFrom_fourth (ha : left * 64 + n = a.toNat) :
    decodeFrom 3 left pads (symbol n :: cs) = (decodeFrom 0 0 0 cs).map (a :: ·) := by
  rw [decodeFrom, if_neg (symbol_ne_pad n), sextet?_symbol hn]
  simp only [ha, UInt8.ofNat_toNat]

end

/-! ## The round trip -/

theorem decode_encode (bytes : List UInt8) : decode (encode bytes) = some bytes := by
  rw [decode]
  induction bytes using encode.induct with
  | case1 => rfl
  | case2 a =>
    have ha := a.toNat_lt
    rw [encode, decodeFrom_first (by omega), decodeFrom_second (a := a) (by omega) _ (by omega)]
    rfl
  | case3 a b =>
    have ha := a.toNat_lt
    have hb := b.toNat_lt
    rw [encode, decodeFrom_first (by omega), decodeFrom_second (a := a) (by omega) _ (by omega),
      decodeFrom_third (a := b) (by omega) _ (by omega)]
    rfl
  | case4 a b c rest ih =>
    have ha := a.toNat_lt
    have hb := b.toNat_lt
    have hc := c.toNat_lt
    rw [encode, decodeFrom_first (by omega), decodeFrom_second (a := a) (by omega) _ (by omega),
      decodeFrom_third (a := b) (by omega) _ (by omega),
      decodeFrom_fourth (a := c) (by omega) _ (by omega), ih]
    rfl

/-- What is encoded: symbols, and the padding that completes the last group of four. -/
theorem encode_eq (bytes : List UInt8) : ∃ symbols pads,
    encode bytes = symbols ++ List.replicate pads '=' ∧ '=' ∉ symbols ∧ pads < 4 ∧
      (symbols.length + pads) % 4 = 0 := by
  have hsymbols : ∀ ns : List Nat, '=' ∉ ns.map symbol := by
    intro ns hmem
    obtain ⟨n, -, hn⟩ := List.mem_map.mp hmem
    exact symbol_ne_pad n hn
  induction bytes using encode.induct with
  | case1 => exact ⟨[], 0, rfl, List.not_mem_nil, by decide, rfl⟩
  | case2 a =>
    exact ⟨[a.toNat / 4, a.toNat % 4 * 16].map symbol, 2, rfl, hsymbols _, by decide,
      by simp⟩
  | case3 a b =>
    exact ⟨[a.toNat / 4, a.toNat % 4 * 16 + b.toNat / 16, b.toNat % 16 * 4].map symbol, 1, rfl,
      hsymbols _, by decide, by simp⟩
  | case4 a b c rest ih =>
    obtain ⟨symbols, pads, heq, hmem, hpads, hlength⟩ := ih
    refine ⟨[a.toNat / 4, a.toNat % 4 * 16 + b.toNat / 16, b.toNat % 16 * 4 + c.toNat / 64,
      c.toNat % 64].map symbol ++ symbols, pads, ?_, ?_, hpads, ?_⟩
    · rw [encode, heq]
      rfl
    · exact fun h => (List.mem_append.mp h).elim (hsymbols _) hmem
    · rw [List.length_append, List.length_map]
      simp only [List.length_cons, List.length_nil]
      omega

end InfraOps.Base64
