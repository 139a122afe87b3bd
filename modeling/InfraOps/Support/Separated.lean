import Mathlib.Data.List.DropRight

/-!
# Separated lists and trimming

Splitting a joined list gives back the parts that hold no separator; a part that does is cut.
Trimming takes from both ends, and a second time nothing.
-/

namespace InfraOps

variable {α : Type}

/-! ## Splitting what was joined -/

theorem intercalate_append (sep : List α) {ls ls' : List (List α)} (h : ls ≠ []) (h' : ls' ≠ []) :
    sep.intercalate (ls ++ ls') = sep.intercalate ls ++ sep ++ sep.intercalate ls' := by
  induction ls with
  | nil => exact absurd rfl h
  | cons l ls ih =>
    cases ls with
    | nil =>
      rw [List.singleton_append, List.intercalate_cons_of_ne_nil h', List.intercalate_singleton]
    | cons l' ls =>
      rw [List.cons_append, List.cons_append, List.intercalate_cons_cons, ← List.cons_append,
        ih (List.cons_ne_nil l' ls), List.intercalate_cons_cons]
      simp only [List.append_assoc]

section

variable [BEq α] [LawfulBEq α] {sep : α}

/-- Every part is split on its own. -/
theorem splitOn_intercalate_eq_flatMap {parts : List (List α)} (h : parts ≠ []) :
    ([sep].intercalate parts).splitOn sep = parts.flatMap fun part => part.splitOn sep := by
  induction parts with
  | nil => exact absurd rfl h
  | cons part parts ih =>
    cases parts with
    | nil => simp
    | cons next parts =>
      rw [List.intercalate_cons_cons, List.append_assoc, List.singleton_append,
        List.splitOn_append_cons_self, ih (by simp)]
      rfl

/-- A part without the separator survives being joined with others. -/
theorem mem_splitOn_intercalate {parts : List (List α)} {part : List α} (h : part ∈ parts)
    (hsep : sep ∉ part) : part ∈ ([sep].intercalate parts).splitOn sep := by
  rw [splitOn_intercalate_eq_flatMap (List.ne_nil_of_mem h)]
  exact List.mem_flatMap.mpr ⟨part, h, by simp [List.splitOn_eq_singleton hsep]⟩

/-- No piece holds the separator. -/
theorem sep_notMem_of_mem_splitOn {cs piece : List α} (h : piece ∈ cs.splitOn sep) :
    sep ∉ piece := by
  induction cs generalizing piece with
  | nil => simp_all
  | cons c cs ih =>
    rw [List.splitOn_cons_eq_if_modifyHead] at h
    split at h
    · rcases List.mem_cons.mp h with rfl | h
      · simp
      · exact ih h
    · rename_i hc
      obtain ⟨first, rest, hsplit⟩ := List.exists_cons_of_ne_nil (List.splitOn_ne_nil sep cs)
      rw [hsplit] at h ih
      rcases List.mem_cons.mp h with rfl | h
      · have hfirst : sep ∉ first := ih List.mem_cons_self
        have hne : sep ≠ c := fun hsep => hc (by simp [hsep])
        simpa [hne] using hfirst
      · exact ih (List.mem_cons_of_mem _ h)

/-- What holds no separator goes into the first piece. -/
theorem splitOn_append_of_notMem {as : List α} (h : sep ∉ as) (bs : List α) :
    (as ++ bs).splitOn sep = (bs.splitOn sep).modifyHead (as ++ ·) := by
  induction as with
  | nil =>
    cases hsplit : bs.splitOn sep with
    | nil => rw [List.nil_append, hsplit, List.modifyHead_nil]
    | cons piece pieces => rw [List.nil_append, hsplit, List.modifyHead_cons, List.nil_append]
  | cons a as ih =>
    obtain ⟨hne, hmem⟩ := not_or.mp (List.mem_cons.not.mp h)
    rw [List.cons_append, List.splitOn_cons_eq_if_modifyHead, if_neg (by simpa using Ne.symm hne),
      ih hmem]
    cases bs.splitOn sep with
    | nil => rfl
    | cons piece pieces => rfl

/-- Where only the separator is mapped to it, the pieces are mapped one by one. -/
theorem splitOn_flatMap {f : α → List α} (hsep : f sep = [sep]) (h : ∀ a, a ≠ sep → sep ∉ f a)
    (as : List α) : (as.flatMap f).splitOn sep = (as.splitOn sep).map (·.flatMap f) := by
  induction as with
  | nil => simp
  | cons a as ih =>
    rw [List.flatMap_cons, List.splitOn_cons_eq_if_modifyHead]
    by_cases ha : a = sep
    · subst ha
      rw [hsep, List.singleton_append, List.splitOn_cons_eq_if_modifyHead, ih]
      simp
    · rw [splitOn_append_of_notMem (h a ha), ih, if_neg (by simpa using ha)]
      cases as.splitOn sep with
      | nil => rfl
      | cons piece pieces => simp

/-- A list continues behind a separator exactly if its pieces continue. -/
theorem append_sep_prefix_iff {as bs : List α} :
    as ++ [sep] <+: bs ↔ ∃ rest, rest ≠ [] ∧ bs.splitOn sep = as.splitOn sep ++ rest := by
  constructor
  · rintro ⟨after, rfl⟩
    refine ⟨after.splitOn sep, List.splitOn_ne_nil sep after, ?_⟩
    rw [List.append_assoc, List.singleton_append, List.splitOn_append_cons_self]
  · rintro ⟨rest, hrest, hsplit⟩
    refine ⟨[sep].intercalate rest, ?_⟩
    have hbs := congrArg [sep].intercalate hsplit
    rw [List.intercalate_splitOn] at hbs
    rw [hbs, intercalate_append _ (List.splitOn_ne_nil sep as) hrest, List.intercalate_splitOn,
      List.append_assoc]

/-- Every other element is in one of the pieces. -/
theorem mem_piece_of_mem {cs : List α} {c : α} (h : c ∈ cs) :
    c = sep ∨ ∃ piece ∈ cs.splitOn sep, c ∈ piece := by
  induction cs with
  | nil => cases h
  | cons x cs ih =>
    rw [List.splitOn_cons_eq_if_modifyHead]
    by_cases hx : (x == sep) = true
    · rw [if_pos hx]
      rcases List.mem_cons.mp h with rfl | h
      · exact .inl (by simpa using hx)
      · exact (ih h).imp_right fun ⟨piece, hpiece, hc⟩ => ⟨piece, .tail _ hpiece, hc⟩
    · rw [if_neg hx]
      obtain ⟨first, rest, hsplit⟩ := List.exists_cons_of_ne_nil (List.splitOn_ne_nil sep cs)
      rw [hsplit] at ih ⊢
      rw [List.modifyHead_cons]
      rcases List.mem_cons.mp h with rfl | h
      · exact .inr ⟨_, List.mem_cons_self, List.mem_cons_self⟩
      · refine (ih h).imp_right fun ⟨piece, hpiece, hc⟩ => ?_
        rcases List.mem_cons.mp hpiece with rfl | hpiece
        · exact ⟨_, List.mem_cons_self, .tail _ hc⟩
        · exact ⟨piece, .tail _ hpiece, hc⟩

omit [LawfulBEq α] in
theorem mem_of_mem_piece {cs piece : List α} {c : α} (h : piece ∈ cs.splitOn sep)
    (hc : c ∈ piece) : c ∈ cs := by
  induction cs generalizing piece with
  | nil =>
    rw [List.splitOn_nil, List.mem_singleton] at h
    exact h ▸ hc
  | cons x cs ih =>
    rw [List.splitOn_cons_eq_if_modifyHead] at h
    by_cases hx : (x == sep) = true
    · rw [if_pos hx] at h
      rcases List.mem_cons.mp h with rfl | h
      · cases hc
      · exact .tail _ (ih h hc)
    · rw [if_neg hx] at h
      obtain ⟨first, rest, hsplit⟩ := List.exists_cons_of_ne_nil (List.splitOn_ne_nil sep cs)
      rw [hsplit] at ih h
      rw [List.modifyHead_cons] at h
      rcases List.mem_cons.mp h with rfl | h
      · rcases List.mem_cons.mp hc with rfl | hc
        · exact List.mem_cons_self
        · exact .tail _ (ih List.mem_cons_self hc)
      · exact .tail _ (ih (.tail _ h) hc)

end

/-! ## Trimming -/

section

variable (p : α → Bool)

/-- Both ends without the elements `p` drops. -/
def trim (l : List α) : List α := (l.dropWhile p).rdropWhile p

variable {p}

theorem trim_sublist (l : List α) : (trim p l).Sublist l :=
  (List.rdropWhile_prefix p _).sublist.trans (List.dropWhile_sublist p)

theorem dropWhile_of_prefix {l l' : List α} (hl : l.dropWhile p = l) (h : l' <+: l) :
    l'.dropWhile p = l' := by
  cases l' with
  | nil => rfl
  | cons a l' =>
    obtain ⟨rest, rfl⟩ := h
    by_cases ha : p a
    · -- the first element would have been dropped from `l`
      have hlen := congrArg List.length hl
      have hle := (List.dropWhile_sublist p (l := l' ++ rest)).length_le
      simp [ha] at hlen hle
      omega
    · simp [ha]

/-- What is dropped at both ends of `l` is dropped around it as well. -/
theorem trim_append {before l after : List α} (hbefore : ∀ a ∈ before, p a)
    (hafter : ∀ a ∈ after, p a) (hfirst : ∀ a ∈ l.head?, p a = false)
    (hlast : ∀ a ∈ l.getLast?, p a = false) : trim p (before ++ l ++ after) = l := by
  cases l using List.reverseRecOn with
  | nil =>
    have hall : ∀ a ∈ before ++ [] ++ after, p a := by
      simpa [or_imp, forall_and] using ⟨hbefore, hafter⟩
    rw [trim, List.dropWhile_eq_nil_iff.mpr hall]
    rfl
  | append_singleton l z =>
    have hz : ¬ p z := by simpa using hlast z (by simp)
    have hstart : (before ++ (l ++ [z]) ++ after).dropWhile p = l ++ [z] ++ after := by
      rw [List.append_assoc, List.dropWhile_append_of_pos hbefore]
      cases l with
      | nil => exact List.dropWhile_cons_of_neg hz
      | cons a l => exact List.dropWhile_cons_of_neg (by simpa using hfirst a (by simp))
    have hend : (after.reverse).dropWhile p = [] :=
      List.dropWhile_eq_nil_iff.mpr fun a ha => hafter a (List.mem_reverse.mp ha)
    rw [trim, hstart, List.rdropWhile, List.reverse_append, List.dropWhile_append, hend]
    simp [hz]

theorem trim_of_ends {l : List α} (hfirst : ∀ a ∈ l.head?, p a = false)
    (hlast : ∀ a ∈ l.getLast?, p a = false) : trim p l = l := by
  have htrim : trim p ([] ++ l ++ []) = l := trim_append (by simp) (by simp) hfirst hlast
  rwa [List.nil_append, List.append_nil] at htrim

theorem trim_of_forall {l : List α} (h : ∀ a ∈ l, p a = false) : trim p l = l :=
  trim_of_ends (fun a ha => h a (List.mem_of_head? ha)) fun a ha => h a (List.mem_of_getLast? ha)

theorem trim_trim (l : List α) : trim p (trim p l) = trim p l := by
  have hstart : (trim p l).dropWhile p = trim p l :=
    dropWhile_of_prefix (List.dropWhile_idempotent p l) (List.rdropWhile_prefix p _)
  rw [trim, hstart]
  exact List.rdropWhile_idempotent p _

end

/-! ## Searching across a separator -/

/-- A text without the separator is found on one side of it. -/
theorem infix_append_cons_iff {text before after : List α} {sep : α} (hsep : sep ∉ text) :
    text <:+: before ++ sep :: after ↔ text <:+: before ∨ text <:+: after := by
  constructor
  · intro h
    rcases List.infix_append_iff.mp h with h | h | ⟨start, rest, rfl, hstart, hrest⟩
    · exact .inl h
    · rcases List.infix_cons_iff.mp h with h | h
      · cases text with
        | nil => exact .inl (List.nil_infix)
        | cons a text =>
          obtain rfl : a = sep := (List.cons_prefix_cons.mp h).1
          exact absurd List.mem_cons_self hsep
      · exact .inr h
    · -- what reaches over the border holds the separator, or ends before it
      cases rest with
      | nil => exact .inl (by simpa using hstart.isInfix)
      | cons a rest =>
        obtain rfl : a = sep := (List.cons_prefix_cons.mp hrest).1
        exact absurd (by simp) hsep
  · rintro (h | h)
    · exact h.trans (List.prefix_append _ _).isInfix
    · exact h.trans ((List.suffix_cons _ _).trans (List.suffix_append _ _)).isInfix

end InfraOps
