import Mathlib.Data.List.TakeWhile
import Mathlib.Tactic.Common

/-!
# The Prometheus text format

Sample lines as a scraper reads them: a metric's name, label values with escapes, and a
number. A writer that leaves values as they are is read back exactly if none of them holds a
character that needs an escape.
-/

namespace InfraOps.Exposition

/-! ## Names and numbers -/

def labelStart (c : Char) : Bool := c.isAlpha || c = '_'

def labelChar (c : Char) : Bool := c.isAlphanum || c = '_'

def metricStart (c : Char) : Bool := labelStart c || c = ':'

def metricChar (c : Char) : Bool := labelChar c || c = ':'

def isLabelName (name : List Char) : Bool := name.head?.any labelStart && name.all labelChar

def isMetricName (name : List Char) : Bool := name.head?.any metricStart && name.all metricChar

def blank (c : Char) : Bool := c = ' ' || c = '\t'

def numberChar (c : Char) : Bool := c.isAlphanum || c = '+' || c = '-' || c = '.'

/-- How a program's numbers are shown, and what a scraper reads them as. -/
structure NumberFormat (N V : Type) where
  text : N → List Char
  read : List Char → Option V
  value : N → V
  read_text : ∀ n, read (text n) = some (value n)
  text_number : ∀ n, ∀ c ∈ text n, numberChar c = true
  text_ne_nil : ∀ n, text n ≠ []

abbrev Labels := List (List Char × List Char)

structure Sample (V : Type) where
  name : List Char
  labels : Labels
  value : V

def Sample.map {N V : Type} (f : N → V) (sample : Sample N) : Sample V :=
  { name := sample.name, labels := sample.labels, value := f sample.value }

/-! ## Reading -/

def skipBlanks (text : List Char) : List Char := text.dropWhile blank

/-- A label's value up to its closing quote, and what follows. -/
def readValue : List Char → Option (List Char × List Char)
  | [] => none
  | '"' :: rest => some ([], rest)
  | '\n' :: _ => none
  | '\\' :: '\\' :: rest => (readValue rest).map fun read => ('\\' :: read.1, read.2)
  | '\\' :: '"' :: rest => (readValue rest).map fun read => ('"' :: read.1, read.2)
  | '\\' :: 'n' :: rest => (readValue rest).map fun read => ('\n' :: read.1, read.2)
  | '\\' :: _ => none
  | c :: rest => (readValue rest).map fun read => (c :: read.1, read.2)

/-- One label, and what follows. -/
def readLabel (text : List Char) : Option ((List Char × List Char) × List Char) :=
  let name := text.takeWhile labelChar
  if !isLabelName name then none
  else
    match skipBlanks (text.dropWhile labelChar) with
    | '=' :: rest =>
      match skipBlanks rest with
      | '"' :: rest => (readValue rest).map fun read => ((name, read.1), read.2)
      | _ => none
    | _ => none

/-- The labels up to the closing brace, at most `fuel` of them; the last may have a comma. -/
def readLabels : (fuel : Nat) → List Char → Option (Labels × List Char)
  | 0, _ => none
  | fuel + 1, text =>
    match skipBlanks text with
    | '}' :: rest => some ([], rest)
    | text =>
      match readLabel text with
      | none => none
      | some (label, rest) =>
        match skipBlanks rest with
        | '}' :: rest => some ([label], rest)
        | ',' :: rest => (readLabels fuel rest).map fun read => (label :: read.1, read.2)
        | _ => none

/-- A timestamp may follow the value. -/
def isTimestamp (text : List Char) : Bool :=
  match text with
  | [] => true
  | '-' :: digits => digits ≠ [] && digits.all Char.isDigit
  | digits => digits.all Char.isDigit

def readSample {N V : Type} (format : NumberFormat N V) (line : List Char) : Option (Sample V) :=
  let text := skipBlanks line
  let name := text.takeWhile metricChar
  if !isMetricName name then none
  else
    let rest := skipBlanks (text.dropWhile metricChar)
    let labels :=
      match rest with
      | '{' :: rest => readLabels rest.length rest
      | rest => some ([], rest)
    match labels with
    | none => none
    | some (labels, rest) =>
      let rest := skipBlanks rest
      match format.read (rest.takeWhile fun c => !blank c) with
      | none => none
      | some value =>
        if isTimestamp (skipBlanks (rest.dropWhile fun c => !blank c)) then
          some { name, labels, value }
        else none

/-! ## Writing without escapes -/

def writeLabel (label : List Char × List Char) : List Char :=
  label.1 ++ '=' :: '"' :: label.2 ++ ['"']

def writeLabels (labels : Labels) : List Char := [','].intercalate (labels.map writeLabel)

/-- Without labels no braces are written. -/
def writeSample {N V : Type} (format : NumberFormat N V) (sample : Sample N) : List Char :=
  let labels := writeLabels sample.labels
  sample.name ++ (if labels = [] then [] else '{' :: labels ++ ['}']) ++ ' ' ::
    format.text sample.value

/-- A value that needs no escape. -/
def plainValue (value : List Char) : Bool := value.all fun c => c ≠ '"' && c ≠ '\\' && c ≠ '\n'

/-! ## Values -/

theorem readValue_cons {c : Char} (hquote : c ≠ '"') (hslash : c ≠ '\\') (hbreak : c ≠ '\n')
    (rest : List Char) :
    readValue (c :: rest) = (readValue rest).map fun read => (c :: read.1, read.2) := by
  rw [readValue]
  · exact hquote
  · exact hbreak
  · exact fun _ heq => absurd heq hslash
  · exact fun _ heq => absurd heq hslash
  · exact fun _ heq => absurd heq hslash
  · exact hslash

theorem plainValue_cons {c : Char} {value : List Char} :
    plainValue (c :: value) = true ↔
      c ≠ '"' ∧ c ≠ '\\' ∧ c ≠ '\n' ∧ plainValue value = true := by
  simp only [plainValue, List.all_cons, Bool.and_eq_true, decide_eq_true_eq, and_assoc]

theorem readValue_plain {value : List Char} (h : plainValue value = true) (rest : List Char) :
    readValue (value ++ '"' :: rest) = some (value, rest) := by
  induction value with
  | nil => rfl
  | cons c value ih =>
    obtain ⟨hquote, hslash, hbreak, hvalue⟩ := plainValue_cons.mp h
    rw [List.cons_append, readValue_cons hquote hslash hbreak, ih hvalue]
    rfl

/-- Only an escaped backslash is read as a backslash. -/
theorem backslash_of_readValue {text read after : List Char}
    (h : readValue ('\\' :: text) = some ('\\' :: read, after)) :
    ∃ rest, text = '\\' :: rest ∧ readValue rest = some (read, after) := by
  cases text with
  | nil => cases h
  | cons d rest =>
    by_cases hslash : d = '\\'
    · subst hslash
      have hread : readValue ('\\' :: '\\' :: rest) =
          (readValue rest).map fun read => ('\\' :: read.1, read.2) := rfl
      rw [hread] at h
      obtain ⟨⟨tail, left⟩, htail, heq⟩ := Option.map_eq_some_iff.mp h
      obtain ⟨hcons, rfl⟩ := Prod.mk.inj heq
      obtain rfl : tail = read := (List.cons.inj hcons).2
      exact ⟨rest, rfl, htail⟩
    by_cases hquote : d = '"'
    · subst hquote
      have hread : readValue ('\\' :: '"' :: rest) =
          (readValue rest).map fun read => ('"' :: read.1, read.2) := rfl
      rw [hread] at h
      obtain ⟨_, _, heq⟩ := Option.map_eq_some_iff.mp h
      exact absurd (List.cons.inj (Prod.mk.inj heq).1).1 (by decide)
    by_cases hn : d = 'n'
    · subst hn
      have hread : readValue ('\\' :: 'n' :: rest) =
          (readValue rest).map fun read => ('\n' :: read.1, read.2) := rfl
      rw [hread] at h
      obtain ⟨_, _, heq⟩ := Option.map_eq_some_iff.mp h
      exact absurd (List.cons.inj (Prod.mk.inj heq).1).1 (by decide)
    · have hread : readValue ('\\' :: d :: rest) = none := by
        rw [readValue]
        · exact fun _ heq => hslash (List.cons.inj heq).1
        · exact fun _ heq => hquote (List.cons.inj heq).1
        · exact fun _ heq => hn (List.cons.inj heq).1
      rw [hread] at h
      cases h

/-- What is read as the value that was written, or with more backslashes before it, is read
so because no character needed an escape. -/
theorem plain_of_readValue (value : List Char) {n : Nat} {rest after : List Char}
    (h : readValue (value ++ '"' :: rest) = some (List.replicate n '\\' ++ value, after)) :
    n = 0 ∧ plainValue value = true := by
  match value with
  | [] =>
    have hread : readValue ('"' :: rest) = some ([], rest) := rfl
    rw [List.nil_append, hread, List.append_nil] at h
    have hnil := (Prod.mk.inj (Option.some.inj h)).1
    exact ⟨by simpa using (congrArg List.length hnil).symm, rfl⟩
  | c :: value =>
    rw [List.cons_append] at h
    by_cases hquote : c = '"'
    · -- the value would end here
      subst hquote
      have hread : readValue ('"' :: (value ++ '"' :: rest)) =
          some ([], value ++ '"' :: rest) := rfl
      rw [hread] at h
      have hlen := congrArg List.length (Prod.mk.inj (Option.some.inj h)).1
      simp at hlen
    by_cases hbreak : c = '\n'
    · subst hbreak
      have hread : readValue ('\n' :: (value ++ '"' :: rest)) = none := rfl
      rw [hread] at h
      cases h
    by_cases hslash : c = '\\'
    · -- an escape stands for a backslash only if it takes another one
      subst hslash
      have hshift : List.replicate n '\\' ++ '\\' :: value =
          '\\' :: (List.replicate n '\\' ++ value) := by
        rw [List.append_cons, ← List.replicate_succ', List.replicate_succ, List.cons_append]
      rw [hshift] at h
      obtain ⟨left, hleft, hread⟩ := backslash_of_readValue h
      cases value with
      | nil => exact absurd (List.cons.inj hleft).1 (by decide)
      | cons d value =>
        obtain ⟨rfl, rfl⟩ := List.cons.inj hleft
        rw [List.append_cons, ← List.replicate_succ'] at hread
        exact absurd (plain_of_readValue value hread).1 (Nat.succ_ne_zero n)
    · rw [readValue_cons hquote hslash hbreak] at h
      obtain ⟨⟨read, left⟩, hread, heq⟩ := Option.map_eq_some_iff.mp h
      have hcons := (Prod.mk.inj heq).1
      have hn : n = 0 := by
        cases n with
        | zero => rfl
        | succ n => exact absurd (List.cons.inj hcons).1 hslash
      subst hn
      have htail : read = List.replicate 0 '\\' ++ value := (List.cons.inj hcons).2
      rw [htail] at hread
      have hplain := (plain_of_readValue value hread).2
      exact ⟨rfl, plainValue_cons.mpr ⟨hquote, hslash, hbreak, hplain⟩⟩
termination_by value.length

/-! ## Labels -/

def namedLabels (labels : Labels) : Prop := ∀ label ∈ labels, isLabelName label.1 = true

def plainLabels (labels : Labels) : Prop := ∀ label ∈ labels, plainValue label.2 = true

theorem skipBlanks_cons {c : Char} (h : blank c = false) (text : List Char) :
    skipBlanks (c :: text) = c :: text := by
  rw [skipBlanks, List.dropWhile_cons_of_neg (by simp [h])]

/-- A name and the character that ends it. -/
theorem takeWhile_name {p : Char → Bool} {name : List Char} (hname : name.all p = true) {c : Char}
    (hc : p c = false) (rest : List Char) :
    (name ++ c :: rest).takeWhile p = name ∧ (name ++ c :: rest).dropWhile p = c :: rest := by
  have hall : ∀ a ∈ name, p a = true := List.all_eq_true.mp hname
  have hneg : ¬ p c = true := by simp [hc]
  constructor
  · rw [List.takeWhile_append_of_pos hall, List.takeWhile_cons_of_neg hneg, List.append_nil]
  · rw [List.dropWhile_append_of_pos hall, List.dropWhile_cons_of_neg hneg]

theorem readLabel_write {name : List Char} (hname : isLabelName name = true)
    (value rest : List Char) :
    readLabel (writeLabel (name, value) ++ rest) =
      (readValue (value ++ '"' :: rest)).map fun read => ((name, read.1), read.2) := by
  have hall : name.all labelChar = true := (Bool.and_eq_true_iff.mp hname).2
  have htext : writeLabel (name, value) ++ rest = name ++ '=' :: '"' :: (value ++ '"' :: rest) := by
    simp [writeLabel]
  obtain ⟨htake, hdrop⟩ :=
    takeWhile_name hall (c := '=') (by decide) ('"' :: (value ++ '"' :: rest))
  simp only [readLabel, htext, htake, hdrop, hname, skipBlanks_cons (c := '=') (by decide),
    skipBlanks_cons (c := '"') (by decide), Bool.not_true, Bool.false_eq_true, if_false]

/-- What follows a label when these labels are left. -/
def closing (labels : Labels) (rest : List Char) : List Char :=
  match labels with
  | [] => '}' :: rest
  | label :: labels => ',' :: (writeLabels (label :: labels) ++ '}' :: rest)

theorem writeLabels_cons (label : List Char × List Char) (labels : Labels) (rest : List Char) :
    writeLabels (label :: labels) ++ '}' :: rest = writeLabel label ++ closing labels rest := by
  cases labels with
  | nil => simp [writeLabels, closing]
  | cons next labels => simp [writeLabels, closing, List.intercalate]

/-- What is made of characters that are no blanks holds none. -/
theorem blank_eq_false {p : Char → Bool} (hspace : p ' ' = false) (htab : p '\t' = false) {c : Char}
    (h : p c = true) : blank c = false := by
  rw [Bool.eq_false_iff]
  intro hblank
  rcases Bool.or_eq_true_iff.mp hblank with hc | hc
  · rw [of_decide_eq_true hc, hspace] at h
    cases h
  · rw [of_decide_eq_true hc, htab] at h
    cases h

theorem labelChar_notSyntax {c : Char} (h : labelChar c = true) : blank c = false ∧ c ≠ '}' := by
  constructor
  · exact blank_eq_false (by decide) (by decide) h
  · intro hc
    rw [hc] at h
    exact absurd h (by decide)

theorem exists_cons_of_labelName {name : List Char} (h : isLabelName name = true) :
    ∃ c rest, name = c :: rest ∧ blank c = false ∧ c ≠ '}' := by
  cases name with
  | nil => cases h
  | cons c rest =>
    have hall := (Bool.and_eq_true_iff.mp h).2
    obtain ⟨hblank, hbrace⟩ := labelChar_notSyntax (List.all_eq_true.mp hall c List.mem_cons_self)
    exact ⟨c, rest, rfl, hblank, hbrace⟩

/-- How far the first label decides what is read. -/
theorem readLabels_succ {label : List Char × List Char} (hname : isLabelName label.1 = true)
    (fuel : Nat) (rest : List Char) :
    readLabels (fuel + 1) (writeLabel label ++ rest) =
      match readValue (label.2 ++ '"' :: rest) with
      | none => none
      | some (value, after) =>
        match skipBlanks after with
        | '}' :: rest => some ([(label.1, value)], rest)
        | ',' :: rest =>
          (readLabels fuel rest).map fun read => ((label.1, value) :: read.1, read.2)
        | _ => none := by
  obtain ⟨name, value⟩ := label
  obtain ⟨c, tail, hcons, hblank, hbrace⟩ := exists_cons_of_labelName hname
  have htext : writeLabel (name, value) ++ rest =
      c :: (tail ++ '=' :: '"' :: value ++ ['"'] ++ rest) := by
    simp only at hcons
    simp [writeLabel, hcons]
  have hskip :
      skipBlanks (writeLabel (name, value) ++ rest) = writeLabel (name, value) ++ rest := by
    rw [htext, skipBlanks_cons hblank]
  rw [readLabels, hskip]
  have hread := readLabel_write hname value rest
  split
  · rename_i after heq
    rw [htext] at heq
    exact absurd (List.cons.inj heq).1 hbrace
  · rw [hread]
    cases readValue (value ++ '"' :: rest) with
    | none => rfl
    | some read => rfl

theorem readLabels_write {labels : Labels} (hne : labels ≠ []) (hnamed : namedLabels labels)
    {fuel : Nat} (hfuel : labels.length ≤ fuel) (hplain : plainLabels labels) (rest : List Char) :
    readLabels fuel (writeLabels labels ++ '}' :: rest) = some (labels, rest) := by
  induction labels generalizing fuel with
  | nil => exact absurd rfl hne
  | cons label labels ih =>
    cases fuel with
    | zero => exact absurd hfuel (Nat.not_succ_le_zero _)
    | succ fuel =>
      have hname := hnamed label List.mem_cons_self
      have hvalue := hplain label List.mem_cons_self
      rw [writeLabels_cons, readLabels_succ hname, readValue_plain hvalue]
      cases labels with
      | nil => simp only [closing, skipBlanks_cons (c := '}') (by decide)]
      | cons next labels =>
        have hrest := ih (List.cons_ne_nil _ _) (fun l hl => hnamed l (List.mem_cons_of_mem _ hl))
          (Nat.le_of_succ_le_succ hfuel) fun l hl => hplain l (List.mem_cons_of_mem _ hl)
        simp only [closing, skipBlanks_cons (c := ',') (by decide), hrest, Option.map_some]

/-- Labels that are read back were plain. -/
theorem plain_of_readLabels {labels : Labels} (hnamed : namedLabels labels) {fuel : Nat}
    {rest after : List Char}
    (h : readLabels fuel (writeLabels labels ++ '}' :: rest) = some (labels, after)) :
    plainLabels labels := by
  induction labels generalizing fuel with
  | nil => exact fun _ hl => absurd hl List.not_mem_nil
  | cons label labels ih =>
    cases fuel with
    | zero => cases h
    | succ fuel =>
      rw [writeLabels_cons, readLabels_succ (hnamed label List.mem_cons_self)] at h
      cases hread : readValue (label.2 ++ '"' :: closing labels rest) with
      | none => rw [hread] at h; cases h
      | some read =>
        obtain ⟨value, left⟩ := read
        rw [hread] at h
        have hvalue : value = label.2 := by
          simp only at h
          split at h
          · have hlabel := (List.cons.inj (Prod.mk.inj (Option.some.inj h)).1).1
            exact congrArg Prod.snd hlabel
          · obtain ⟨_, _, heq⟩ := Option.map_eq_some_iff.mp h
            have hlabel := (List.cons.inj (Prod.mk.inj heq).1).1
            exact congrArg Prod.snd hlabel
          · cases h
        subst hvalue
        have hplain := (plain_of_readValue label.2 (n := 0) hread).2
        rw [readValue_plain hplain] at hread
        obtain rfl : closing labels rest = left := (Prod.mk.inj (Option.some.inj hread)).2
        have htail : plainLabels labels := by
          cases labels with
          | nil => exact fun _ hl => absurd hl List.not_mem_nil
          | cons next labels =>
            simp only [closing, skipBlanks_cons (c := ',') (by decide)] at h
            obtain ⟨⟨read, left⟩, hrest, heq⟩ := Option.map_eq_some_iff.mp h
            obtain ⟨hcons, rfl⟩ := Prod.mk.inj heq
            obtain rfl : read = next :: labels := (List.cons.inj hcons).2
            exact ih (fun l hl => hnamed l (List.mem_cons_of_mem _ hl)) hrest
        intro l hl
        rcases List.mem_cons.mp hl with rfl | hl
        · exact hplain
        · exact htail l hl

/-! ## Samples -/

theorem writeLabels_cons_cons (label next : List Char × List Char) (labels : Labels) :
    writeLabels (label :: next :: labels) =
      writeLabel label ++ ',' :: writeLabels (next :: labels) := by
  simp [writeLabels, List.intercalate]

theorem length_writeLabel (label : List Char × List Char) : 1 ≤ (writeLabel label).length := by
  rw [writeLabel, List.length_append, List.length_singleton]
  exact Nat.le_add_left 1 _

theorem length_le_writeLabels (labels : Labels) : labels.length ≤ (writeLabels labels).length := by
  induction labels with
  | nil => exact Nat.le_refl 0
  | cons label labels ih =>
    have hlabel := length_writeLabel label
    cases labels with
    | nil =>
      have hsingle : writeLabels [label] = writeLabel label := by simp [writeLabels]
      rwa [hsingle]
    | cons next labels =>
      rw [writeLabels_cons_cons]
      simp only [List.length_append, List.length_cons] at ih ⊢
      omega

theorem writeLabels_ne_nil {labels : Labels} (h : labels ≠ []) : writeLabels labels ≠ [] := by
  intro hnil
  have hlen := length_le_writeLabels labels
  rw [hnil, List.length_nil] at hlen
  exact h (List.eq_nil_of_length_eq_zero (Nat.le_zero.mp hlen))

/-- Plain labels are determined by what is written. -/
theorem writeLabels_injective {labels other : Labels} (hnamed : namedLabels labels)
    (hplain : plainLabels labels) (hnamed' : namedLabels other) (hplain' : plainLabels other)
    (h : writeLabels labels = writeLabels other) : labels = other := by
  by_cases hnil : labels = []
  · subst hnil
    by_contra hne
    exact writeLabels_ne_nil (Ne.symm hne) h.symm
  · have hnil' : other ≠ [] := by
      intro heq
      subst heq
      exact writeLabels_ne_nil hnil h
    have hread := readLabels_write hnil hnamed (Nat.le_add_right _ other.length) hplain []
    have hread' := readLabels_write hnil' hnamed' (Nat.le_add_left _ labels.length) hplain' []
    rw [h, hread'] at hread
    exact ((Prod.mk.inj (Option.some.inj hread)).1).symm

variable {N V : Type} (format : NumberFormat N V)

/-- Reading goes on after the metric's name. -/
theorem readSample_name {name : List Char} (hname : isMetricName name = true) {c : Char}
    (hc : metricChar c = false) (rest : List Char) :
    readSample format (name ++ c :: rest) =
      match (match skipBlanks (c :: rest) with
        | '{' :: rest => readLabels rest.length rest
        | rest => some ([], rest)) with
      | none => none
      | some (labels, rest) =>
        match format.read ((skipBlanks rest).takeWhile fun c => !blank c) with
        | none => none
        | some value =>
          if isTimestamp (skipBlanks ((skipBlanks rest).dropWhile fun c => !blank c)) then
            some { name, labels, value }
          else none := by
  have hall : name.all metricChar = true := (Bool.and_eq_true_iff.mp hname).2
  have hskip : skipBlanks (name ++ c :: rest) = name ++ c :: rest := by
    cases name with
    | nil => cases hname
    | cons first tail =>
      have hfirst := List.all_eq_true.mp hall first List.mem_cons_self
      exact skipBlanks_cons (blank_eq_false (by decide) (by decide) hfirst) _
  obtain ⟨htake, hdrop⟩ := takeWhile_name hall hc rest
  simp only [readSample, hskip, htake, hdrop, hname, Bool.not_true, Bool.false_eq_true, if_false]

theorem numberChar_notSyntax {c : Char} (h : numberChar c = true) : blank c = false ∧ c ≠ '{' := by
  constructor
  · exact blank_eq_false (by decide) (by decide) h
  · intro hc
    rw [hc] at h
    exact absurd h (by decide)

theorem exists_cons_of_number (value : N) :
    ∃ c tail, format.text value = c :: tail ∧ blank c = false ∧ c ≠ '{' := by
  cases htext : format.text value with
  | nil => exact absurd htext (format.text_ne_nil value)
  | cons c tail =>
    have hnumber := format.text_number value c (by rw [htext]; exact List.mem_cons_self)
    obtain ⟨hblank, hbrace⟩ := numberChar_notSyntax hnumber
    exact ⟨c, tail, rfl, hblank, hbrace⟩

theorem skipBlanks_number (value : N) :
    skipBlanks (' ' :: format.text value) = format.text value := by
  have hblank : skipBlanks (' ' :: format.text value) = skipBlanks (format.text value) :=
    List.dropWhile_cons_of_pos (by decide)
  obtain ⟨c, tail, htext, hsolid, -⟩ := exists_cons_of_number format value
  rw [hblank, htext, skipBlanks_cons hsolid]

/-- After the labels come a blank and the number, and nothing else. -/
theorem readNumber (value : N) :
    format.read ((format.text value).takeWhile fun c => !blank c) = some (format.value value) ∧
      (format.text value).dropWhile (fun c => !blank c) = [] := by
  have hsolid : ∀ c ∈ format.text value, (!blank c) = true := by
    intro c hc
    rw [(numberChar_notSyntax (format.text_number value c hc)).1]
    rfl
  constructor
  · rw [List.takeWhile_eq_self_iff.mpr hsolid, format.read_text]
  · exact List.dropWhile_eq_nil_iff.mpr hsolid

/-- **Reading back what is written without escapes**: exactly if no value needs one. -/
theorem readSample_writeSample_iff {sample : Sample N} (hname : isMetricName sample.name = true)
    (hnamed : namedLabels sample.labels) :
    readSample format (writeSample format sample) = some (sample.map format.value) ↔
      plainLabels sample.labels := by
  obtain ⟨name, labels, value⟩ := sample
  obtain ⟨hread, hdrop⟩ := readNumber format value
  by_cases hlabels : labels = []
  · subst hlabels
    have hline : writeSample format { name, labels := [], value } =
        name ++ ' ' :: format.text value := by simp [writeSample, writeLabels]
    refine iff_of_true ?_ fun _ hl => absurd hl List.not_mem_nil
    rw [hline, readSample_name format hname (by decide), skipBlanks_number]
    obtain ⟨c, tail, htext, hsolid, hbrace⟩ := exists_cons_of_number format value
    have hbraces : (match format.text value with
        | '{' :: rest => readLabels rest.length rest
        | rest => some ([], rest)) = some ([], format.text value) := by
      rw [htext]
      split
      · rename_i heq
        exact absurd (List.cons.inj heq).1 hbrace
      · rfl
    rw [hbraces]
    have hskip : skipBlanks (format.text value) = format.text value := by
      rw [htext]
      exact skipBlanks_cons hsolid tail
    simp only [hskip, hread, hdrop]
    rfl
  · have hline : writeSample format { name, labels, value } =
        name ++ '{' :: (writeLabels labels ++ '}' :: ' ' :: format.text value) := by
      simp [writeSample, writeLabels_ne_nil hlabels]
    rw [hline, readSample_name format hname (by decide),
      skipBlanks_cons (c := '{') (by decide)]
    simp only
    constructor
    · intro h
      cases hlabelsRead : readLabels (writeLabels labels ++ '}' :: ' ' :: format.text value).length
          (writeLabels labels ++ '}' :: ' ' :: format.text value) with
      | none => rw [hlabelsRead] at h; cases h
      | some read =>
        obtain ⟨readBack, rest⟩ := read
        rw [hlabelsRead] at h
        simp only at h
        split at h
        · cases h
        · split at h
          · obtain rfl : readBack = labels := by
              have hsample := Option.some.inj h
              exact congrArg Sample.labels hsample
            exact plain_of_readLabels hnamed hlabelsRead
          · cases h
    · intro hplain
      have hfuel : labels.length ≤
          (writeLabels labels ++ '}' :: ' ' :: format.text value).length := by
        rw [List.length_append]
        exact (length_le_writeLabels labels).trans (Nat.le_add_right _ _)
      rw [readLabels_write hlabels hnamed hfuel hplain]
      simp only [skipBlanks_number, hread, hdrop]
      rfl

end InfraOps.Exposition
