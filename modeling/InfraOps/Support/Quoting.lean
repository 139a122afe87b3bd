import Mathlib.Algebra.GroupWithZero.Nat
import Mathlib.Data.List.Chain
import Mathlib.Tactic.Common

/-!
# Quoted strings in program text

Text in which every character of a set opens and closes strings, and any two of them in a
row inside a string stand for the second one. `Rules` names that set, and the smaller set
of characters that a writer doubles.

The lexer is a machine fed one character at a time (`feed`), so feeding appended inputs
composes (`feed_append`). It loses nothing: the tokens weigh what the input is long
(`weight_of_lex`). Composition shows that text made of parts lexes as its parts when every
quoted value is escaped, and counting shows the converse (`lex_render_iff`).
-/

namespace InfraOps.Quoting

/-- The characters that delimit strings, and those a writer doubles inside them. -/
structure Rules (α : Type) where
  isQuote : α → Bool
  /-- What the writer opens and closes strings with. -/
  delimiter : α
  doubles : α → Bool
  isQuote_delimiter : isQuote delimiter = true
  isQuote_of_doubles : ∀ {c}, doubles c = true → isQuote c = true

/-- A character outside strings, or a whole string. -/
inductive Token (α : Type)
  | code (c : α)
  | string (value : List α)
  deriving DecidableEq, Repr

/-- Where the lexer stands: outside strings, inside one with what it has read of it, or
after a quote that closes the string unless another quote follows. -/
inductive Mode (α : Type)
  | code
  | inside (value : List α)
  | closing (value : List α)
  deriving DecidableEq, Repr

namespace Rules

variable {α : Type} (R : Rules α)

/-! ## The lexer -/

def next : Mode α → α → Mode α × List (Token α)
  | .code, c => if R.isQuote c then (.inside [], []) else (.code, [.code c])
  | .inside v, c => if R.isQuote c then (.closing v, []) else (.inside (v ++ [c]), [])
  | .closing v, c =>
    if R.isQuote c then (.inside (v ++ [c]), []) else (.code, [.string v, .code c])

def feed (m : Mode α) : List α → Mode α × List (Token α)
  | [] => (m, [])
  | c :: cs => ((feed (R.next m c).1 cs).1, (R.next m c).2 ++ (feed (R.next m c).1 cs).2)

/-- The tokens that the end of the input completes; `none` inside a string. -/
def finish : Mode α → Option (List (Token α))
  | .code => some []
  | .inside _ => none
  | .closing v => some [.string v]

def lexFrom (m : Mode α) (input : List α) : Option (List (Token α)) :=
  (finish (R.feed m input).1).map ((R.feed m input).2 ++ ·)

def lex (input : List α) : Option (List (Token α)) := R.lexFrom .code input

theorem feed_append (m : Mode α) (a b : List α) :
    R.feed m (a ++ b) =
      ((R.feed (R.feed m a).1 b).1, (R.feed m a).2 ++ (R.feed (R.feed m a).1 b).2) := by
  induction a generalizing m with
  | nil => rfl
  | cons c a ih => simp only [List.cons_append, feed, ih, List.append_assoc]

theorem lexFrom_append (m : Mode α) (a b : List α) :
    R.lexFrom m (a ++ b) = (R.lexFrom (R.feed m a).1 b).map ((R.feed m a).2 ++ ·) := by
  simp only [lexFrom, feed_append, Option.map_map]
  congr 1
  funext ts
  simp only [Function.comp_apply, List.append_assoc]

/-- A string is complete once something other than a quote follows it. -/
theorem lexFrom_closing (v : List α) {b : List α}
    (hb : ∀ c ∈ b.head?, R.isQuote c = false) :
    R.lexFrom (.closing v) b = (R.lex b).map (.string v :: ·) := by
  cases b with
  | nil => rfl
  | cons c b =>
    have hc : R.isQuote c = false := hb c rfl
    simp only [lex, lexFrom, feed, next, hc, Bool.false_eq_true, if_false, Option.map_map]
    rfl

/-- **Joining texts.** `a ++ b` lexes as `a` and then `b`, unless a quote that ends `a`
meets a quote that starts `b`. -/
theorem lex_append {a b : List α} {ts : List (Token α)} (ha : R.lex a = some ts)
    (hab : (R.feed .code a).1 = .code ∨ ∀ c ∈ b.head?, R.isQuote c = false) :
    R.lex (a ++ b) = (R.lex b).map (ts ++ ·) := by
  rw [lex, lexFrom_append]
  rw [lex, lexFrom] at ha
  cases hm : (R.feed .code a).1 with
  | code =>
    simp only [hm, finish, Option.map_some, List.append_nil, Option.some.injEq] at ha
    rw [ha, lex]
  | inside v => simp [hm, finish] at ha
  | closing v =>
    simp only [hm, finish, Option.map_some, Option.some.injEq] at ha
    rw [R.lexFrom_closing v (hab.resolve_left (by simp [hm])), Option.map_map, ← ha]
    congr 1
    funext us
    simp

/-! ## Nothing is lost -/

/-- The length of the shortest text that a string can come from. -/
def stringWeight (v : List α) : Nat := v.length + v.countP R.isQuote

def tokenWeight : Token α → Nat
  | .code _ => 1
  | .string v => R.stringWeight v + 2

def weight (ts : List (Token α)) : Nat := (ts.map R.tokenWeight).sum

def modeWeight : Mode α → Nat
  | .code => 0
  | .inside v => R.stringWeight v + 1
  | .closing v => R.stringWeight v + 2

@[simp] theorem weight_nil : R.weight [] = 0 := rfl

@[simp] theorem weight_cons (t : Token α) (ts : List (Token α)) :
    R.weight (t :: ts) = R.tokenWeight t + R.weight ts := rfl

@[simp] theorem weight_append (ts us : List (Token α)) :
    R.weight (ts ++ us) = R.weight ts + R.weight us := by
  simp [weight]

theorem weight_next (m : Mode α) (c : α) :
    R.modeWeight (R.next m c).1 + R.weight (R.next m c).2 = R.modeWeight m + 1 := by
  cases m with
  | code =>
    by_cases hc : R.isQuote c = true <;>
      simp [next, hc, modeWeight, tokenWeight, stringWeight]
  | inside v =>
    by_cases hc : R.isQuote c = true <;> simp [next, hc, modeWeight, stringWeight]
    omega
  | closing v =>
    by_cases hc : R.isQuote c = true <;> simp [next, hc, modeWeight, tokenWeight, stringWeight]
    omega

theorem weight_feed (m : Mode α) (input : List α) :
    R.modeWeight (R.feed m input).1 + R.weight (R.feed m input).2 =
      R.modeWeight m + input.length := by
  induction input generalizing m with
  | nil => simp [feed]
  | cons c cs ih =>
    have hc := R.weight_next m c
    have hcs := ih (R.next m c).1
    simp only [feed, weight_append, List.length_cons]
    omega

theorem weight_finish {m : Mode α} {ts : List (Token α)} (h : finish m = some ts) :
    R.weight ts = R.modeWeight m := by
  cases m with
  | code => simp only [finish, Option.some.injEq] at h; subst h; rfl
  | inside v => simp [finish] at h
  | closing v => simp only [finish, Option.some.injEq] at h; subst h; rfl

/-- The tokens of a text weigh what the text is long. -/
theorem weight_of_lex {input : List α} {ts : List (Token α)} (h : R.lex input = some ts) :
    R.weight ts = input.length := by
  have hfed := R.weight_feed .code input
  have hcode : R.modeWeight .code = 0 := rfl
  simp only [lex, lexFrom, Option.map_eq_some_iff] at h
  obtain ⟨us, hus, rfl⟩ := h
  have hus := R.weight_finish hus
  rw [weight_append]
  omega

/-! ## The writer -/

def double (v : List α) : List α := v.flatMap fun c => if R.doubles c then [c, c] else [c]

/-- `v` as a quoted string. -/
def quote (v : List α) : List α := R.delimiter :: (R.double v ++ [R.delimiter])

/-- The quotes of `v` that the writer does not double. -/
def unescaped (v : List α) : Nat := v.countP fun c => R.isQuote c && !R.doubles c

/-- Every character of `v` that the lexer takes for a quote is doubled. -/
def Escaped (v : List α) : Prop := ∀ c ∈ v, R.isQuote c = true → R.doubles c = true

instance (v : List α) : Decidable (R.Escaped v) := by
  unfold Escaped; infer_instance

theorem unescaped_eq_zero_iff (v : List α) : R.unescaped v = 0 ↔ R.Escaped v := by
  simp [unescaped, Escaped, List.countP_eq_zero]

theorem length_double (v : List α) :
    (R.double v).length + R.unescaped v = R.stringWeight v := by
  induction v with
  | nil => rfl
  | cons c v ih =>
    simp only [double, unescaped, stringWeight, List.flatMap_cons, List.length_append,
      List.length_cons, List.countP_cons] at ih ⊢
    by_cases hd : R.doubles c = true
    · have hq := R.isQuote_of_doubles hd
      simp only [hd, hq, if_true, List.length_cons, List.length_nil, Bool.not_true,
        Bool.and_false, Bool.false_eq_true, if_false]
      omega
    · by_cases hq : R.isQuote c = true
      · simp only [hd, hq, if_true, List.length_cons, List.length_nil, Bool.not_false,
          Bool.and_true, Bool.false_eq_true, if_false]
        omega
      · simp only [hd, hq, List.length_cons, List.length_nil, Bool.false_and,
          Bool.false_eq_true, if_false]
        omega

/-- Inside a string, an escaped value is read back whole. -/
theorem feed_double {v : List α} (hv : R.Escaped v) (u : List α) :
    R.feed (.inside u) (R.double v) = (.inside (u ++ v), []) := by
  induction v generalizing u with
  | nil => simp [double, feed]
  | cons c v ih =>
    have hrest := ih (fun d hd => hv d (List.mem_cons_of_mem c hd)) (u ++ [c])
    have hc : R.isQuote c = R.doubles c := by
      by_cases hd : R.doubles c = true
      · rw [hd, R.isQuote_of_doubles hd]
      · have hq : ¬ R.isQuote c = true := fun hq => hd (hv c (by simp) hq)
        simp [hd, hq]
    -- a doubled character passes through `closing`, any other is taken as it is
    have hone : R.feed (.inside u) (if R.doubles c then [c, c] else [c]) =
        (.inside (u ++ [c]), []) := by
      by_cases hd : R.doubles c = true <;> simp [hd, feed, next, hc]
    rw [double] at hrest
    rw [double, List.flatMap_cons, feed_append, hone, hrest]
    simp

theorem feed_quote {v : List α} (hv : R.Escaped v) :
    R.feed .code (R.quote v) = (.closing v, []) := by
  have hopen : R.next .code R.delimiter = (.inside [], []) := by
    simp [next, R.isQuote_delimiter]
  rw [quote, feed, hopen, feed_append, R.feed_double hv]
  simp [feed, next, R.isQuote_delimiter]

/-! ## Text made of parts -/

/-- Program text that may stand between quoted values: it does not start with a quote and
lexes on its own. When `settled`, it does not end with a quote either. -/
def isText (settled : Bool) (chars : List α) : Bool :=
  (chars.head?.any fun c => !R.isQuote c) &&
    match (R.feed .code chars).1 with
    | .code => true
    | .inside _ => false
    | .closing _ => !settled

theorem lex_isSome_of_isText {settled : Bool} {chars : List α}
    (h : R.isText settled chars = true) : (R.lex chars).isSome = true := by
  simp only [isText, Bool.and_eq_true] at h
  simp only [lex, lexFrom]
  cases hm : (R.feed .code chars).1 with
  | code => rfl
  | inside v => simp [hm] at h
  | closing v => rfl

theorem settled_of_isText {chars : List α} (h : R.isText true chars = true) :
    (R.feed .code chars).1 = .code := by
  simp only [isText, Bool.and_eq_true] at h
  cases hm : (R.feed .code chars).1 with
  | code => rfl
  | inside v => simp [hm] at h
  | closing v => simp [hm] at h

theorem head_of_isText {settled : Bool} {chars : List α} (h : R.isText settled chars = true) :
    ∃ c cs, chars = c :: cs ∧ R.isQuote c = false := by
  cases chars with
  | nil => simp [isText] at h
  | cons c cs =>
    simp only [isText, Bool.and_eq_true] at h
    exact ⟨c, cs, rfl, by simpa using h.1⟩

/-- Text without quotes. -/
theorem isText_of_plain {chars : List α} (hne : chars ≠ [])
    (h : ∀ c ∈ chars, R.isQuote c = false) : R.isText true chars = true := by
  have hfeed : ∀ cs : List α, (∀ c ∈ cs, R.isQuote c = false) →
      (R.feed .code cs).1 = .code := by
    intro cs hcs
    induction cs with
    | nil => rfl
    | cons c cs ih =>
      have hc := hcs c (by simp)
      simp only [feed, next, hc, Bool.false_eq_true, if_false]
      exact ih fun d hd => hcs d (by simp [hd])
  cases chars with
  | nil => exact absurd rfl hne
  | cons c cs => simp [isText, hfeed _ h, h c (by simp)]

/-- A part of a program: fixed text, or a value to be quoted. -/
inductive Part
  | text (settled : Bool) (chars : List α) (ok : R.isText settled chars = true)
  | quoted (value : List α)

namespace Part

variable {R}

def chars : R.Part → List α
  | text _ cs _ => cs
  | quoted v => R.quote v

/-- What a part is meant to lex as: text as it does on its own, a value as one string. -/
def tokens : R.Part → List (Token α)
  | text _ cs _ => (R.lex cs).getD []
  | quoted v => [.string v]

def value? : R.Part → Option (List α)
  | text _ _ _ => none
  | quoted v => some v

/-- A value does not follow a part that ends with a quote. -/
def Apart : R.Part → R.Part → Prop
  | _, text _ _ _ => True
  | text settled _ _, quoted _ => settled = true
  | quoted _, quoted _ => False

@[simp] theorem apart_text (p : R.Part) {settled : Bool} {cs : List α}
    {ok : R.isText settled cs = true} : p.Apart (text settled cs ok) := by
  cases p <;> trivial

@[simp] theorem text_apart {cs : List α} {ok : R.isText true cs = true} (p : R.Part) :
    (text true cs ok).Apart p := by
  cases p <;> simp [Apart]

/-- Parts that start with text can follow any others. -/
theorem isChain_append {ps qs : List R.Part} (hp : ps.IsChain Apart) (hq : qs.IsChain Apart)
    (hhead : ∀ q ∈ qs.head?, ∀ p : R.Part, p.Apart q) : (ps ++ qs).IsChain Apart :=
  hp.append hq fun p _ q hq => hhead q hq p

end Part

variable {R}

def render (parts : List R.Part) : List α := parts.flatMap Part.chars

def tokens (parts : List R.Part) : List (Token α) := parts.flatMap Part.tokens

def values (parts : List R.Part) : List (List α) := parts.filterMap Part.value?

theorem Part.lex_chars {p : R.Part} (hp : ∀ v, p.value? = some v → R.Escaped v) :
    R.lex p.chars = some p.tokens := by
  cases p with
  | text settled cs ok =>
    obtain ⟨ts, hts⟩ := Option.isSome_iff_exists.mp (R.lex_isSome_of_isText ok)
    simp only [Part.chars, Part.tokens, hts, Option.getD_some]
  | quoted v =>
    simp [Part.chars, Part.tokens, lex, lexFrom, R.feed_quote (hp v rfl), finish]

/-- Two parts that stand apart do not meet in two quotes. -/
theorem Part.apart_boundary {p : R.Part} {ps : List R.Part}
    (h : List.IsChain Part.Apart (p :: ps)) :
    (R.feed .code p.chars).1 = .code ∨ ∀ c ∈ (render ps).head?, R.isQuote c = false := by
  cases ps with
  | nil => exact .inr (by simp [render])
  | cons p' ps =>
    have hpp : p.Apart p' := (List.isChain_cons_cons.mp h).1
    cases p' with
    | text settled cs ok =>
      -- the next part starts with its text, which does not start with a quote
      obtain ⟨d, ds, rfl, hd⟩ := R.head_of_isText ok
      refine .inr fun c hc => ?_
      obtain rfl : d = c := by simpa [render, Part.chars] using hc
      exact hd
    | quoted v =>
      cases p with
      | text settled cs ok =>
        obtain rfl : settled = true := hpp
        exact .inl (R.settled_of_isText ok)
      | quoted u => exact hpp.elim

theorem lex_render {parts : List R.Part} (hparts : parts.IsChain Part.Apart)
    (hvals : ∀ v ∈ values parts, R.Escaped v) : R.lex (render parts) = some (tokens parts) := by
  induction parts with
  | nil => rfl
  | cons p ps ih =>
    have hp : R.lex p.chars = some p.tokens := by
      refine Part.lex_chars fun v hv => hvals v ?_
      exact List.mem_filterMap.mpr ⟨p, by simp, hv⟩
    have hps : R.lex (render ps) = some (tokens ps) := by
      refine ih hparts.of_cons fun v hv => hvals v ?_
      obtain ⟨p', hp', hv⟩ := List.mem_filterMap.mp hv
      exact List.mem_filterMap.mpr ⟨p', by simp [hp'], hv⟩
    rw [render, List.flatMap_cons, ← render, R.lex_append hp (Part.apart_boundary hparts), hps]
    rfl

theorem Part.weight_tokens (p : R.Part) :
    R.weight p.tokens = p.chars.length + (p.value?.elim 0 R.unescaped) := by
  cases p with
  | text settled cs ok =>
    have hlex : R.lex cs = some (Part.text settled cs ok).tokens :=
      Part.lex_chars (p := .text settled cs ok) (by simp [Part.value?])
    simpa [Part.chars, Part.value?] using R.weight_of_lex hlex
  | quoted v =>
    have := R.length_double v
    simp only [Part.tokens, Part.chars, Part.value?, quote, weight_cons, weight_nil, tokenWeight,
      List.length_cons, List.length_append, List.length_nil, Option.elim_some]
    omega

/-- The meant tokens weigh more than the text by the number of quotes left alone. -/
theorem weight_tokens (parts : List R.Part) :
    R.weight (tokens parts) =
      (render parts).length + ((values parts).map R.unescaped).sum := by
  induction parts with
  | nil => rfl
  | cons p ps ih =>
    have hp := p.weight_tokens
    simp only [tokens, render, values, List.flatMap_cons, weight_append, List.length_append,
      List.filterMap_cons] at ih ⊢
    cases hv : p.value? with
    | none => simp only [hv, Option.elim_none] at hp ⊢; omega
    | some v => simp only [hv, Option.elim_some, List.map_cons, List.sum_cons] at hp ⊢; omega

/-- **Text made of parts lexes as its parts exactly when every value is escaped.** One
quote left alone makes the whole text lex as something else. -/
theorem lex_render_iff {parts : List R.Part} (hparts : parts.IsChain Part.Apart) :
    R.lex (render parts) = some (tokens parts) ↔ ∀ v ∈ values parts, R.Escaped v := by
  constructor
  · intro hlex
    have hsum : ((values parts).map R.unescaped).sum = 0 := by
      have hw := R.weight_of_lex hlex
      rw [weight_tokens] at hw
      omega
    intro v hv
    rw [← R.unescaped_eq_zero_iff]
    exact List.sum_eq_zero_iff_forall_eq_nat.mp hsum _ (List.mem_map_of_mem hv)
  · exact lex_render hparts

end Rules

end InfraOps.Quoting
