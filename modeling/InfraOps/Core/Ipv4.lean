import Mathlib.Algebra.Ring.Nat
import InfraOps.Core.Text
import InfraOps.Support.Separated

/-!
# IPv4 addresses

`ipaddress.IPv4Address`: four decimal octets without leading zeros, and the one text that an
address is shown as.
-/

namespace InfraOps

structure Ipv4Address where
  a : Fin 256
  b : Fin 256
  c : Fin 256
  d : Fin 256
  deriving DecidableEq

namespace Ipv4Address

def digit (c : Char) : Bool := '0' ≤ c && c ≤ '9'

def octetValue (cs : List Char) : Nat :=
  cs.foldl (fun n c => 10 * n + (c.toNat - '0'.toNat)) 0

/-- `_parse_octet`. -/
def parseOctet (cs : List Char) : Option (Fin 256) :=
  if cs ≠ [] && cs.all digit && cs.length ≤ 3 && (cs = ['0'] || cs.head? ≠ some '0') then
    if h : octetValue cs < 256 then some ⟨octetValue cs, h⟩ else none
  else none

def parse (cs : List Char) : Option Ipv4Address :=
  match cs.splitOn '.' with
  | [a, b, c, d] => do
    let a ← parseOctet a
    let b ← parseOctet b
    let c ← parseOctet c
    let d ← parseOctet d
    return { a, b, c, d }
  | _ => none

def showOctet (n : Fin 256) : List Char := Nat.toDigits 10 n

/-- `str` of an address. -/
def text (ip : Ipv4Address) : List Char :=
  ['.'].intercalate [showOctet ip.a, showOctet ip.b, showOctet ip.c, showOctet ip.d]

def value (ip : Ipv4Address) : Nat :=
  ((ip.a.val * 256 + ip.b.val) * 256 + ip.c.val) * 256 + ip.d.val

def ofValue (n : Nat) : Ipv4Address where
  a := Fin.ofNat 256 (n / 2 ^ 24)
  b := Fin.ofNat 256 (n / 2 ^ 16)
  c := Fin.ofNat 256 (n / 2 ^ 8)
  d := Fin.ofNat 256 n

theorem parseOctet_showOctet : ∀ n, parseOctet (showOctet n) = some n := by decide +kernel

theorem kept_showOctet : ∀ n, (showOctet n).all (fun c => c ≠ '.' && !pySpace c) = true := by
  decide +kernel

theorem parse_text (ip : Ipv4Address) : parse ip.text = some ip := by
  have hdot : ∀ cs ∈ [showOctet ip.a, showOctet ip.b, showOctet ip.c, showOctet ip.d],
      '.' ∉ cs := by
    have hkept : ∀ n, '.' ∉ showOctet n := by
      intro n hmem
      have hall := List.all_eq_true.mp (kept_showOctet n) _ hmem
      simp at hall
    simp [hkept]
  rw [parse, text, List.splitOn_intercalate _ hdot (by simp)]
  simp only [parseOctet_showOctet]
  rfl

theorem pyStrip_text (ip : Ipv4Address) : pyStrip ip.text = ip.text := by
  have hoctet : ∀ n, ∀ c ∈ showOctet n, pySpace c = false := by
    intro n c hc
    have hall := List.all_eq_true.mp (kept_showOctet n) c hc
    simp only [Bool.and_eq_true, Bool.not_eq_true'] at hall
    exact hall.2
  refine trim_of_forall fun c hc => ?_
  simp only [text, List.intercalate, List.intersperse, List.flatten_cons, List.flatten_nil,
    List.append_nil, List.mem_append, List.mem_singleton] at hc
  rcases hc with hc | rfl | hc | rfl | hc | rfl | hc
  · exact hoctet _ c hc
  · decide
  · exact hoctet _ c hc
  · decide
  · exact hoctet _ c hc
  · decide
  · exact hoctet _ c hc

end Ipv4Address

end InfraOps
