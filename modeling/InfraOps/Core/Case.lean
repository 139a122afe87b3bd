import Mathlib.Data.List.Infix
import Mathlib.Data.List.Forall2

/-!
# Letter case

`str.lower` over the Unicode character database, of which only the part that decides ASCII
words is fixed: which words contain, or begin with, a given ASCII word in any letter case.
-/

namespace InfraOps

/-- The database behind `str.lower`: the lower case of a character, the one character with a
longer lower case, and the capital sigma, whose lower case its surroundings decide. -/
structure CaseTable where
  lower : Char → List Char
  finalSigma : List Char → List Char → Bool
  ascii : ∀ c : Char, c.toNat < 128 → lower c = [c.toLower]
  dotted : lower 'İ' = ['i', '\u0307']
  sigma : lower 'Σ' = ['σ']
  single : ∀ c, c ≠ 'İ' → ∃ d, lower c = [d]

namespace CaseTable

variable (table : CaseTable)

def lowerAt (before : List Char) (c : Char) (after : List Char) : List Char :=
  if c = 'Σ' then [if table.finalSigma before after then 'ς' else 'σ'] else table.lower c

def lowerFrom (before : List Char) : List Char → List Char
  | [] => []
  | c :: cs => table.lowerAt before c cs ++ lowerFrom (before ++ [c]) cs

/-- `str.lower()`. -/
def pyLower (text : List Char) : List Char := table.lowerFrom [] text

/-- The characters of `word`, each in some letter case of the one in `plain`. -/
def SameLetters (word plain : List Char) : Prop :=
  List.Forall₂ (fun c p => table.lower c = [p]) word plain

/-- No word ending in `i`: the dotted capital would complete it with a character of its own. -/
def asciiWord (word : List Char) : Bool :=
  word.all (fun c => c.toNat < 128) && word.getLast? != some 'i'

/-- The table of the ASCII letters and the two special ones. -/
def basic : CaseTable where
  lower c := if c = 'İ' then ['i', '\u0307'] else if c = 'Σ' then ['σ'] else [c.toLower]
  finalSigma before after := before ≠ [] && after = []
  ascii := by
    intro c hc
    have hdotted : c ≠ 'İ' := by intro h; subst h; revert hc; decide
    have hsigma : c ≠ 'Σ' := by intro h; subst h; revert hc; decide
    rw [if_neg hdotted, if_neg hsigma]
  dotted := rfl
  sigma := rfl
  single := by
    intro c hc
    rw [if_neg hc]
    split
    · exact ⟨_, rfl⟩
    · exact ⟨_, rfl⟩

/-! ## ASCII words -/

theorem asciiWord_cons {a : Char} {word : List Char} (h : asciiWord (a :: word) = true) :
    a.toNat < 128 ∧ asciiWord word = true ∧ (word = [] → a ≠ 'i') := by
  simp only [asciiWord, List.all_cons, Bool.and_eq_true, decide_eq_true_eq, bne_iff_ne] at h
  obtain ⟨⟨ha, hword⟩, hlast⟩ := h
  refine ⟨ha, ?_, ?_⟩
  · rw [asciiWord, Bool.and_eq_true, bne_iff_ne]
    refine ⟨hword, ?_⟩
    cases word with
    | nil => simp
    | cons b word => rwa [List.getLast?_cons_cons] at hlast
  · intro hnil ha
    subst hnil ha
    exact hlast rfl

theorem lowerAt_of_lower {c : Char} {a : Char} (h : table.lower c = [a]) (ha : a.toNat < 128)
    (before after : List Char) : table.lowerAt before c after = [a] := by
  rw [lowerAt, if_neg, h]
  intro hsigma
  subst hsigma
  have hword : 'σ' = a := by simpa [table.sigma] using h
  subst hword
  revert ha
  decide

/-- A character's lower case: one character, which the table gives if it is ASCII, or the
two of the dotted capital. -/
theorem lowerAt_cases (before : List Char) (c : Char) (after : List Char) :
    (∃ d, table.lowerAt before c after = [d] ∧ (d.toNat < 128 → table.lower c = [d])) ∨
      table.lowerAt before c after = ['i', '\u0307'] := by
  by_cases hsigma : c = 'Σ'
  · subst hsigma
    refine .inl ⟨_, if_pos rfl, ?_⟩
    intro hd
    split at hd
    · exact absurd hd (by decide)
    · exact absurd hd (by decide)
  · by_cases hdotted : c = 'İ'
    · subst hdotted
      exact .inr ((if_neg hsigma).trans table.dotted)
    · obtain ⟨d, hd⟩ := table.single c hdotted
      exact .inl ⟨d, (if_neg hsigma).trans hd, fun _ => hd⟩

theorem lowerFrom_suffix (before word rest : List Char) :
    table.lowerFrom (before ++ word) rest <:+ table.lowerFrom before (word ++ rest) := by
  induction word generalizing before with
  | nil => rw [List.append_nil, List.nil_append]
  | cons c word ih =>
    have h := ih (before ++ [c])
    rw [List.append_assoc] at h
    exact h.trans (List.suffix_append _ _)

theorem lowerFrom_sameLetters {word plain : List Char} (h : table.SameLetters word plain)
    (hplain : asciiWord plain = true) (before rest : List Char) :
    table.lowerFrom before (word ++ rest) = plain ++ table.lowerFrom (before ++ word) rest := by
  induction h generalizing before with
  | nil => rw [List.append_nil, List.nil_append, List.nil_append]
  | @cons c a word plain hc _ ih =>
    obtain ⟨ha, hplain, -⟩ := asciiWord_cons hplain
    have hrest := ih hplain (before ++ [c])
    rw [List.append_assoc] at hrest
    rw [List.cons_append, lowerFrom, hrest, table.lowerAt_of_lower hc ha]
    rfl

/-! ## Words in any letter case -/

/-- The lower case begins with an ASCII word exactly if the text begins with it in some
letter case. -/
theorem startsWith_iff {plain : List Char} (hplain : asciiWord plain = true)
    (before text : List Char) :
    plain <+: table.lowerFrom before text ↔
      ∃ word, word <+: text ∧ table.SameLetters word plain := by
  constructor
  · intro h
    induction text generalizing plain before with
    | nil =>
      obtain rfl : plain = [] := List.prefix_nil.mp h
      exact ⟨[], List.nil_prefix, .nil⟩
    | cons c text ih =>
      cases plain with
      | nil => exact ⟨[], List.nil_prefix, .nil⟩
      | cons a plain =>
        obtain ⟨ha, hrest, hlast⟩ := asciiWord_cons hplain
        rcases table.lowerAt_cases before c text with ⟨d, hd, hlower⟩ | hdotted
        · rw [lowerFrom, hd, List.singleton_append, List.cons_prefix_cons] at h
          obtain ⟨rfl, h⟩ := h
          obtain ⟨word, hword, hsame⟩ := ih hrest _ h
          exact ⟨c :: word, List.cons_prefix_cons.mpr ⟨rfl, hword⟩, .cons (hlower ha) hsame⟩
        · rw [lowerFrom, hdotted, List.cons_append, List.cons_prefix_cons] at h
          obtain ⟨rfl, h⟩ := h
          cases plain with
          | nil => exact absurd rfl (hlast rfl)
          | cons b plain =>
            rw [List.singleton_append, List.cons_prefix_cons] at h
            have hb := (asciiWord_cons hrest).1
            rw [h.1] at hb
            exact absurd hb (by decide)
  · rintro ⟨word, ⟨rest, rfl⟩, hsame⟩
    rw [table.lowerFrom_sameLetters hsame hplain]
    exact List.prefix_append _ _

/-- The lower case contains an ASCII word exactly if the text contains it in some letter
case. -/
theorem contains_iff {plain : List Char} (hplain : asciiWord plain = true)
    (before text : List Char) :
    plain <:+: table.lowerFrom before text ↔
      ∃ word, word <:+: text ∧ table.SameLetters word plain := by
  constructor
  · intro h
    induction text generalizing before with
    | nil =>
      obtain rfl : plain = [] := List.infix_nil.mp h
      exact ⟨[], List.nil_infix, .nil⟩
    | cons c text ih =>
      have hstart : plain <+: table.lowerFrom before (c :: text) →
          ∃ word, word <:+: c :: text ∧ table.SameLetters word plain := by
        intro h
        obtain ⟨word, hword, hsame⟩ := (table.startsWith_iff hplain before _).mp h
        exact ⟨word, hword.isInfix, hsame⟩
      have htail : plain <:+: table.lowerFrom (before ++ [c]) text →
          ∃ word, word <:+: c :: text ∧ table.SameLetters word plain := by
        intro h
        obtain ⟨word, hword, hsame⟩ := ih _ h
        exact ⟨word, hword.trans (List.suffix_cons c text).isInfix, hsame⟩
      rcases table.lowerAt_cases before c text with ⟨d, hd, -⟩ | hdotted
      · rw [lowerFrom, hd, List.singleton_append, List.infix_cons_iff] at h
        rcases h with h | h
        · apply hstart
          rwa [lowerFrom, hd]
        · exact htail h
      · rw [lowerFrom, hdotted, List.cons_append, List.singleton_append, List.infix_cons_iff,
          List.infix_cons_iff] at h
        rcases h with h | h | h
        · apply hstart
          rwa [lowerFrom, hdotted]
        · cases plain with
          | nil => exact ⟨[], List.nil_infix, .nil⟩
          | cons a plain =>
            have ha := (asciiWord_cons hplain).1
            rw [(List.cons_prefix_cons.mp h).1] at ha
            exact absurd ha (by decide)
        · exact htail h
  · rintro ⟨word, ⟨front, rest, rfl⟩, hsame⟩
    rw [List.append_assoc]
    have hword := table.lowerFrom_sameLetters hsame hplain (before ++ front) rest
    have hsuffix := table.lowerFrom_suffix before front (word ++ rest)
    rw [hword] at hsuffix
    exact (List.prefix_append plain _).isInfix.trans hsuffix.isInfix

end CaseTable

end InfraOps
