import Mathlib.Data.List.Induction
import Mathlib.Tactic.Common

/-!
# Windows command lines

The rules by which `CommandLineToArgvW` splits what follows the program: blanks end an
argument outside quotes; of the backslashes in front of a quote every two stand for one, and an
odd one makes the quote a part of the argument; other backslashes stand for themselves. Two
quotes in a row have no meaning of their own here; in a rendered command line they would
stand around an empty text.
-/

namespace InfraOps.Argv

structure Reader where
  /-- The arguments that have ended. -/
  words : List (List Char) := []
  /-- The argument that has begun. -/
  current : Option (List Char) := none
  quoted : Bool := false
  /-- The backslashes that were read last. -/
  slashes : Nat := 0
  deriving DecidableEq

namespace Reader

def push (r : Reader) (cs : List Char) : Reader :=
  { r with current := some (r.current.getD [] ++ cs), slashes := 0 }

def endWord (r : Reader) : Reader :=
  match r.current with
  | none => r
  | some word =>
    { r with
      words := r.words ++ [word ++ List.replicate r.slashes '\\']
      current := none
      slashes := 0 }

def step (r : Reader) (c : Char) : Reader :=
  if c = '\\' then { r with current := some (r.current.getD []), slashes := r.slashes + 1 }
  else if c = '"' then
    if r.slashes % 2 = 0 then
      { r.push (List.replicate (r.slashes / 2) '\\') with quoted := !r.quoted }
    else r.push (List.replicate (r.slashes / 2) '\\' ++ ['"'])
  else if (c = ' ' ∨ c = '\t') ∧ r.quoted = false then r.endWord
  else r.push (List.replicate r.slashes '\\' ++ [c])

def feed (r : Reader) (cs : List Char) : Reader := cs.foldl step r

def finish (r : Reader) : List (List Char) := r.endWord.words

@[simp] theorem feed_nil (r : Reader) : r.feed [] = r := rfl

@[simp] theorem feed_cons (r : Reader) (c : Char) (cs : List Char) :
    r.feed (c :: cs) = (r.step c).feed cs := rfl

theorem feed_append (r : Reader) (cs ds : List Char) : r.feed (cs ++ ds) = (r.feed cs).feed ds :=
  List.foldl_append

end Reader

/-- The arguments of a command line, without the program. -/
def split (cs : List Char) : List (List Char) := (({} : Reader).feed cs).finish

/-! ## Rendering -/

/-- An argument as a writer puts it down. -/
inductive Piece
  | bare (word : List Char)
  | quoted (text : List Char)

namespace Piece

/-- The argument that is meant. -/
def text : Piece → List Char
  | bare word => word
  | quoted text => text

def chars : Piece → List Char
  | bare word => word
  | quoted text => '"' :: text ++ ['"']

/-- A word needs no quotes; a quoted text holds none. -/
def WellFormed : Piece → Prop
  | bare word => word ≠ [] ∧ ∀ c ∈ word, c ≠ '\\' ∧ c ≠ '"' ∧ c ≠ ' ' ∧ c ≠ '\t'
  | quoted text => '"' ∉ text

/-- No backslash stands in front of the closing quote. -/
def Closed : Piece → Prop
  | bare _ => True
  | quoted text => ∀ c ∈ text.getLast?, c ≠ '\\'

end Piece

def render : List Piece → List Char
  | [] => []
  | [piece] => piece.chars
  | piece :: next :: pieces => piece.chars ++ ' ' :: render (next :: pieces)

/-! ## Inside a quoted text -/

namespace Reader

/-- Inside quotes, after some backslashes. -/
def inside (words : List (List Char)) (current : List Char) (slashes : Nat) : Reader :=
  ⟨words, some current, true, slashes⟩

/-- Behind a whole argument, or behind its closing quote. -/
def behind (words : List (List Char)) (current : List Char) : Reader :=
  ⟨words, some current, false, 0⟩

/-- Between two arguments. -/
def between (words : List (List Char)) : Reader := ⟨words, none, false, 0⟩

variable {words : List (List Char)} {current : List Char} {slashes : Nat}

theorem feed_slashes (n : Nat) :
    (inside words current slashes).feed (List.replicate n '\\') =
      inside words current (slashes + n) := by
  induction n generalizing slashes with
  | zero => rfl
  | succ n ih =>
    have hstep : (inside words current slashes).step '\\' =
        inside words current (slashes + 1) := rfl
    rw [List.replicate_succ, feed_cons, hstep, ih, Nat.add_assoc, Nat.add_comm 1 n]

/-- A text that does not end in a backslash is read as it is. -/
theorem feed_body {body : List Char} (hquote : '"' ∉ body) (hne : body ≠ [])
    (hlast : ∀ c ∈ body.getLast?, c ≠ '\\') :
    (inside words current slashes).feed body =
      inside words (current ++ (List.replicate slashes '\\' ++ body)) 0 := by
  induction body generalizing current slashes with
  | nil => exact absurd rfl hne
  | cons c body ih =>
    obtain ⟨hc, hrest⟩ := not_or.mp (List.mem_cons.not.mp hquote)
    rw [feed_cons]
    by_cases hslash : c = '\\'
    · subst hslash
      have hbody : body ≠ [] := by
        rintro rfl
        exact hlast '\\' rfl rfl
      have hstep : (inside words current slashes).step '\\' =
          inside words current (slashes + 1) := rfl
      rw [hstep, ih hrest hbody (by rwa [List.getLast?_cons_of_ne_nil hbody] at hlast),
        List.replicate_succ']
      simp
    · have hstep : (inside words current slashes).step c =
          inside words (current ++ (List.replicate slashes '\\' ++ [c])) 0 := by
        simp [step, inside, push, hslash, Ne.symm hc]
      rw [hstep]
      by_cases hbody : body = []
      · rw [hbody, feed_nil]
      · rw [ih hrest hbody (by rwa [List.getLast?_cons_of_ne_nil hbody] at hlast)]
        simp

end Reader

/-- The backslashes at the end of a text. -/
theorem exists_body (text : List Char) :
    ∃ body n, text = body ++ List.replicate n '\\' ∧ ∀ c ∈ body.getLast?, c ≠ '\\' := by
  induction text using List.reverseRecOn with
  | nil => exact ⟨[], 0, rfl, by simp⟩
  | append_singleton text c ih =>
    by_cases hc : c = '\\'
    · obtain ⟨body, n, rfl, hlast⟩ := ih
      exact ⟨body, n + 1, by rw [hc, List.replicate_succ', List.append_assoc], hlast⟩
    · exact ⟨text ++ [c], 0, by simp, by simpa using hc⟩

namespace Reader

variable {words : List (List Char)}

/-- What stands between the quotes, with its last backslashes kept back. -/
theorem feed_inside {body : List Char} (n : Nat) (hquote : '"' ∉ body)
    (hlast : ∀ c ∈ body.getLast?, c ≠ '\\') :
    (inside words [] 0).feed (body ++ List.replicate n '\\') = inside words body n := by
  rw [feed_append]
  by_cases hbody : body = []
  · rw [hbody, feed_nil, feed_slashes, Nat.zero_add]
  · rw [feed_body hquote hbody hlast, feed_slashes]
    simp

/-- The closing quote, behind an even or an odd number of backslashes. -/
theorem step_quote_inside (body : List Char) (n : Nat) :
    (inside words body n).step '"' =
      if n % 2 = 0 then behind words (body ++ List.replicate (n / 2) '\\')
      else inside words (body ++ (List.replicate (n / 2) '\\' ++ ['"'])) 0 := by
  simp only [step, inside, behind, push, Option.getD_some, Bool.not_true]
  split
  · rename_i h
    exact absurd h (by decide)
  · rfl

theorem feed_bare {word : List Char} {current : List Char}
    (h : ∀ c ∈ word, c ≠ '\\' ∧ c ≠ '"' ∧ c ≠ ' ' ∧ c ≠ '\t') :
    (behind words current).feed word = behind words (current ++ word) := by
  induction word generalizing current with
  | nil => simp
  | cons c word ih =>
    obtain ⟨hslash, hquote, hspace, htab⟩ := h c List.mem_cons_self
    have hstep : (behind words current).step c = behind words (current ++ [c]) := by
      simp [step, behind, push, hslash, hquote, hspace, htab]
    rw [feed_cons, hstep, ih fun a ha => h a (List.mem_cons_of_mem _ ha)]
    simp

/-- A piece that is closed is read as it is meant. -/
theorem feed_chars {piece : Piece} (h : piece.WellFormed) (hclosed : piece.Closed) :
    (between words).feed piece.chars = behind words piece.text := by
  cases piece with
  | bare word =>
    obtain ⟨hne, hplain⟩ := h
    obtain ⟨c, word, rfl⟩ := List.exists_cons_of_ne_nil hne
    obtain ⟨hslash, hquote, hspace, htab⟩ := hplain c List.mem_cons_self
    have hstep : (between words).step c = behind words [c] := by
      simp [step, between, behind, push, hslash, hquote, hspace, htab]
    rw [Piece.chars, feed_cons, hstep, feed_bare fun a ha => hplain a (List.mem_cons_of_mem _ ha)]
    rfl
  | quoted text =>
    have hopen : (between words).step '"' = inside words [] 0 := by
      simp [step, between, inside, push]
    have htext : (inside words [] 0).feed (text ++ List.replicate 0 '\\') =
        inside words text 0 := feed_inside 0 h hclosed
    rw [List.replicate_zero, List.append_nil] at htext
    rw [Piece.chars, List.cons_append, feed_cons, hopen, feed_append, htext, feed_cons,
      step_quote_inside, feed_nil]
    simp [Piece.text]

/-! ## What a run keeps -/

/-- The words that have ended stay, and the one that has begun grows. -/
theorem exists_finish (r : Reader) (cs : List Char) :
    (∃ others, (r.feed cs).finish = r.words ++ others) ∧
      ∀ current, r.current = some current →
        ∃ more others, (r.feed cs).finish = r.words ++ (current ++ more) :: others := by
  induction cs generalizing r with
  | nil =>
    constructor
    · cases hcurrent : r.current with
      | none => exact ⟨[], by simp [finish, endWord, hcurrent]⟩
      | some word =>
        exact ⟨[word ++ List.replicate r.slashes '\\'], by simp [finish, endWord, hcurrent]⟩
    · intro current hcurrent
      exact ⟨List.replicate r.slashes '\\', [], by simp [finish, endWord, hcurrent]⟩
  | cons c cs ih =>
    obtain ⟨hwords, hcurrent⟩ := ih (r.step c)
    rw [feed_cons]
    by_cases hend : (c = ' ' ∨ c = '\t') ∧ r.quoted = false
    · -- the word ends here
      have hstep : r.step c = r.endWord := by
        rcases hend with ⟨rfl | rfl, hquoted⟩ <;> simp [step, hquoted]
      rw [hstep] at hwords ⊢
      obtain ⟨others, hothers⟩ := hwords
      constructor
      · cases hr : r.current with
        | none => exact ⟨others, by rw [hothers]; simp [endWord, hr]⟩
        | some word =>
          exact ⟨(word ++ List.replicate r.slashes '\\') :: others, by
            rw [hothers]; simp [endWord, hr]⟩
      · intro current hr
        exact ⟨List.replicate r.slashes '\\', others, by rw [hothers]; simp [endWord, hr]⟩
    · have hstep : (r.step c).words = r.words ∧
          ∃ more, (r.step c).current = some (r.current.getD [] ++ more) := by
        unfold step
        split
        · exact ⟨rfl, [], by simp⟩
        · split
          · split
            · exact ⟨rfl, _, rfl⟩
            · exact ⟨rfl, _, rfl⟩
          · exact ⟨rfl, _, rfl⟩
      obtain ⟨hkeep, more, hmore⟩ := hstep
      rw [hkeep] at hwords hcurrent
      refine ⟨hwords, fun current hr => ?_⟩
      obtain ⟨further, others, hothers⟩ := hcurrent _ hmore
      refine ⟨more ++ further, others, ?_⟩
      rw [hothers, hr, Option.getD_some, List.append_assoc]

end Reader

/-! ## Rendered command lines -/

open Reader

theorem feed_render_cons {words : List (List Char)} (piece : Piece) (pieces : List Piece) :
    ((between words).feed (render (piece :: pieces))).finish =
      if pieces = [] then ((between words).feed piece.chars).finish
      else ((((between words).feed piece.chars).step ' ').feed (render pieces)).finish := by
  cases pieces with
  | nil => rfl
  | cons next pieces => rw [if_neg (by simp), render, feed_append, feed_cons]

/-- Behind an open text, the reader has a word that is not the text. -/
theorem exists_word_of_open {words : List (List Char)} {text rest : List Char}
    (hquote : '"' ∉ text) (hopen : ¬ ∀ c ∈ text.getLast?, c ≠ '\\')
    (hrest : rest = [] ∨ ∃ more, rest = ' ' :: more) :
    ∃ word others, word ≠ text ∧
      ((between words).feed ((Piece.quoted text).chars ++ rest)).finish =
        words ++ word :: others := by
  obtain ⟨body, n, rfl, hlast⟩ := exists_body text
  have hbody : '"' ∉ body := fun h => hquote (List.mem_append_left _ h)
  have hn : 0 < n := by
    rcases Nat.eq_zero_or_pos n with rfl | hn
    · exact absurd (by simpa using hlast) hopen
    · exact hn
  have hstart : (between words).step '"' = inside words [] 0 := by
    simp [step, between, inside, push]
  have hfeed : (between words).feed
      ((Piece.quoted (body ++ List.replicate n '\\')).chars ++ rest) =
        ((inside words body n).step '"').feed rest := by
    rw [Piece.chars, List.cons_append, List.cons_append, feed_cons, hstart, List.append_assoc,
      feed_append, feed_inside n hbody hlast, List.singleton_append, feed_cons]
  rw [hfeed, step_quote_inside]
  split
  · -- half of the backslashes are lost
    have hne : body ++ List.replicate (n / 2) '\\' ≠ body ++ List.replicate n '\\' := by
      intro heq
      have hlength := congrArg List.length heq
      simp only [List.length_append, List.length_replicate] at hlength
      omega
    rcases hrest with rfl | ⟨more, rfl⟩
    · exact ⟨_, [], hne, by simp [behind, finish, endWord]⟩
    · have hspace : (behind words (body ++ List.replicate (n / 2) '\\')).step ' ' =
          between (words ++ [body ++ List.replicate (n / 2) '\\']) := by
        simp [step, behind, between, endWord]
      obtain ⟨others, hothers⟩ :=
        (exists_finish (between (words ++ [body ++ List.replicate (n / 2) '\\'])) more).1
      exact ⟨_, others, hne, by rw [feed_cons, hspace, hothers]; simp [between]⟩
  · -- the quote is a part of the word
    obtain ⟨more, others, hothers⟩ :=
      (exists_finish (inside words (body ++ (List.replicate (n / 2) '\\' ++ ['"'])) 0) rest).2 _ rfl
    refine ⟨_, others, ?_, hothers⟩
    intro heq
    exact hquote (heq ▸ by simp)

/-- **A command line is read as it is meant if and only if every quoted text is closed.** -/
theorem split_render_iff {pieces : List Piece} (h : ∀ piece ∈ pieces, piece.WellFormed) :
    split (render pieces) = pieces.map Piece.text ↔ ∀ piece ∈ pieces, piece.Closed := by
  -- with the words that have been read
  suffices hwords : ∀ words : List (List Char),
      ((between words).feed (render pieces)).finish = words ++ pieces.map Piece.text ↔
        ∀ piece ∈ pieces, piece.Closed by
    simpa [split, between] using hwords []
  induction pieces with
  | nil => simp [render, between, finish, endWord]
  | cons piece pieces ih =>
    intro words
    have hpiece := h piece List.mem_cons_self
    have ih := ih fun other hother => h other (List.mem_cons_of_mem _ hother)
    by_cases hclosed : piece.Closed
    · have hspace : (behind words piece.text).step ' ' = between (words ++ [piece.text]) := by
        simp [step, behind, between, endWord]
      rw [feed_render_cons, feed_chars hpiece hclosed]
      split
      · rename_i hnil
        simp [hnil, hclosed, behind, finish, endWord]
      · rw [hspace, List.map_cons, List.forall_mem_cons, ← ih (words ++ [piece.text])]
        simp [hclosed]
    · cases piece with
      | bare word => exact absurd trivial hclosed
      | quoted text =>
        have hrest : ∃ rest, (rest = [] ∨ ∃ more, rest = ' ' :: more) ∧
            render (.quoted text :: pieces) = (Piece.quoted text).chars ++ rest := by
          cases pieces with
          | nil => exact ⟨[], .inl rfl, by simp [render]⟩
          | cons next pieces => exact ⟨_, .inr ⟨_, rfl⟩, rfl⟩
        obtain ⟨rest, hstart, hrender⟩ := hrest
        have hopen : ∃ word others, word ≠ text ∧
            ((between words).feed ((Piece.quoted text).chars ++ rest)).finish =
              words ++ word :: others := exists_word_of_open hpiece hclosed hstart
        obtain ⟨word, others, hne, hfinish⟩ := hopen
        rw [hrender, hfinish]
        constructor
        · intro heq
          have hwords := List.append_cancel_left heq
          exact absurd (List.cons.inj hwords).1 hne
        · intro hall
          exact absurd (hall _ List.mem_cons_self) hclosed

end InfraOps.Argv
