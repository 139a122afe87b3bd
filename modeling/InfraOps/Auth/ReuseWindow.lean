import InfraOps.Auth.RefreshTokens

/-!
# How long a refresh token can be used

The same table of refresh tokens with the times at which its tokens were used: the rotations
of one token that succeed are at most ten seconds apart, whatever else is interleaved with
them. The clock of the servers does not go back.
-/

namespace InfraOps

/-- The table, the time of each transaction's rotation, and the uses that were committed: of
which token, and when. -/
structure TokenUses where
  tokens : TokenState
  clock : Timestamp
  rotatedAt : Nat → Timestamp := fun _ => 0
  uses : List (Nat × Timestamp) := []

namespace TokenUses

variable (s : TokenUses)

/-- The use that a commit of the `i`-th transaction is. -/
def use (i : Nat) : List (Nat × Timestamp) :=
  match s.tokens.txs[i]? with
  | some (.issued read _ _) => [(read.jti, s.rotatedAt i)]
  | _ => []

def step (e : TokenEvent) : Option TokenUses :=
  match e with
  | .rotate i now _ _ =>
    if s.clock ≤ now then
      (s.tokens.step e).map fun tokens =>
        { s with tokens, clock := now, rotatedAt := Function.update s.rotatedAt i now }
    else none
  | .commit i =>
    (s.tokens.step e).map fun tokens => { s with tokens, uses := s.uses ++ s.use i }
  | e => (s.tokens.step e).map fun tokens => { s with tokens }

end TokenUses

/-- Any committed tokens, used before now or not at all. -/
def tokenUses : Machine TokenUses TokenEvent where
  init s := s.tokens.Quiet ∧ s.uses = [] ∧
    ∀ t ∈ s.tokens.rows, ∀ used, t.usedAt = some used → used ≤ s.clock
  step s := s.step

/-! ## Locks -/

namespace TokenState

variable {s s' : TokenState} {i : Nat} {p q : TokenPhase}

/-- What a transaction holds: the row it has read is locked and as it was, and so are the rows
that its `UPDATE` has written. -/
structure Holds (s : TokenState) (i : Nat) (p : TokenPhase) : Prop where
  read : ∀ row, p.read = some row → s.lockedBy row.jti = some i ∧ row ∈ s.rows
  issued : ∀ read row child, p = .issued read row child →
    (∃ now, row = { read with usedAt := read.usedAt.or (some now) }) ∧ child.usedAt = none
  written : ∀ family now pending revoked, p = .updating family now pending revoked →
    ∀ jti ∈ revoked, s.lockedBy jti = some i

structure LockInv (s : TokenState) : Prop where
  jtis : (s.rows.map RefreshToken.jti).Nodup
  txs : ∀ i p, s.txs[i]? = some p → s.Holds i p

theorem Holds.of_idle (hread : p.read = none)
    (hupdating : ∀ family now pending revoked, p ≠ .updating family now pending revoked) :
    s.Holds i p where
  read := fun row hrow => by simp [hread] at hrow
  issued := fun read row child hp => by simp [hp, TokenPhase.read] at hread
  written := fun family now pending revoked hp => absurd hp (hupdating _ _ _ _)

theorem Holds.frame (h : s.Holds i p)
    (hlocks : ∀ jti, s.lockedBy jti = some i → s'.lockedBy jti = some i)
    (hrows : ∀ t ∈ s.rows, s.lockedBy t.jti = some i → t ∈ s'.rows) : s'.Holds i p where
  read := by
    intro row hrow
    obtain ⟨hlocked, hmem⟩ := h.read row hrow
    exact ⟨hlocks _ hlocked, hrows row hmem hlocked⟩
  issued := h.issued
  written := fun family now pending revoked hp jti hjti =>
    hlocks jti (h.written family now pending revoked hp jti hjti)

/-- One transaction moves on: it takes no lock and changes no row that another one holds. -/
theorem LockInv.moves (h : s.LockInv) (htxs : s'.txs = s.txs.set i q)
    (hjtis : (s'.rows.map RefreshToken.jti).Nodup)
    (hlocks : ∀ j jti, j ≠ i → s.lockedBy jti = some j → s'.lockedBy jti = some j)
    (hrows : ∀ j t, j ≠ i → t ∈ s.rows → s.lockedBy t.jti = some j → t ∈ s'.rows)
    (hq : s'.Holds i q) : s'.LockInv where
  jtis := hjtis
  txs := by
    intro j r hr
    rw [htxs, List.getElem?_set] at hr
    split at hr
    · rename_i hij
      split at hr
      · cases hr
        exact hij ▸ hq
      · cases hr
    · rename_i hij
      have hji : j ≠ i := fun hji => hij hji.symm
      exact (h.txs j r hr).frame (fun jti => hlocks j jti hji) fun t => hrows j t hji

theorem LockInv.begin (h : s.LockInv) (hread : p.read = none)
    (hupdating : ∀ family now pending revoked, p ≠ .updating family now pending revoked) :
    (s.begin p).LockInv where
  jtis := h.jtis
  txs := by
    intro j r hr
    rw [TokenState.begin, List.getElem?_append] at hr
    split at hr
    · exact (h.txs j r hr).frame (fun _ hlocked => hlocked) fun _ ht _ => ht
    · obtain rfl : r = p := by
        have hmem := List.mem_of_getElem? hr
        simpa using hmem
      exact .of_idle hread hupdating

theorem LockInv.finish (h : s.LockInv) : (s.finish i).LockInv :=
  h.moves (q := .ended) rfl h.jtis (fun _ _ => finish_lockedBy) (fun _ _ _ ht _ => ht)
    (.of_idle rfl (by simp))

theorem LockInv.select {jti : Nat} {sub : UserId} (h : s.LockInv)
    (hselect : s.select i jti sub = some s') : s'.LockInv := by
  unfold TokenState.select at hselect
  split at hselect
  · cases hselect
    exact h.moves (q := .ended) rfl h.jtis (fun _ _ _ hlocked => hlocked) (fun _ _ _ ht _ => ht)
      (.of_idle rfl (by simp))
  · rename_i row hfind
    split at hselect
    · rename_i hfree
      cases hselect
      obtain ⟨hmem, rfl⟩ := find_eq_some hfind
      refine h.moves (q := .selected row sub) rfl h.jtis
        (fun _ _ hji hlocked => lock_lockedBy (.inl hfree) hji hlocked) (fun _ _ _ ht _ => ht) ?_
      exact {
        read := by
          intro row' hrow
          obtain rfl : row = row' := by simpa [TokenPhase.read] using hrow
          exact ⟨by simp [TokenState.setTx, TokenState.lock], hmem⟩
        issued := by simp
        written := by simp }
    · cases hselect

/-- A rotation issues from a row that is not used, or was used in the last ten seconds. -/
theorem rotateRefreshToken_eq_issues {row row' child : RefreshToken} {sub : UserId}
    {now : Timestamp} {active : Bool} {jti : Nat}
    (h : rotateRefreshToken row sub now active jti = .issues row' child) :
    row' = { row with usedAt := row.usedAt.or (some now) } ∧
      child = { jti, familyId := row.familyId, userId := row.userId } ∧
      ∀ used, row.usedAt = some used → now - used ≤ concurrentRefreshGrace := by
  unfold rotateRefreshToken at h
  split at h
  · cases h
  · split at h
    · cases h
    · split at h
      · cases h
      · rename_i hgrace
        split at h
        · cases h
        · cases h
          refine ⟨rfl, rfl, fun used hused => ?_⟩
          simpa [hused] using hgrace

theorem LockInv.rotate {row : RefreshToken} {sub : UserId} {now : Timestamp} {active : Bool}
    {jti : Nat} (h : s.LockInv) (hi : s.txs[i]? = some (.selected row sub))
    (hrotate : s.rotate i row sub now active jti = some s') : s'.LockInv := by
  unfold TokenState.rotate at hrotate
  split at hrotate
  · cases hrotate
    exact h.finish
  · rename_i family message _
    cases hrotate
    exact h.moves (q := .revoking family) rfl h.jtis (fun _ _ _ hlocked => hlocked)
      (fun _ _ _ ht _ => ht) (.of_idle rfl (by simp))
  · rename_i row' child hissues
    cases hrotate
    refine h.moves (q := .issued row row' child) rfl h.jtis (fun _ _ _ hlocked => hlocked)
      (fun _ _ _ ht _ => ht) ?_
    exact {
      read := by
        intro read hread
        obtain rfl : row = read := by simpa [TokenPhase.read] using hread
        exact (h.txs i _ hi).read row rfl
      issued := by
        intro read row'' child' hp
        cases hp
        obtain ⟨hrow, rfl, -⟩ := rotateRefreshToken_eq_issues hissues
        exact ⟨⟨now, hrow⟩, rfl⟩
      written := by simp }

theorem LockInv.updateRow {jti : Nat} {family : FamilyId} {now : Timestamp}
    {pending revoked : List Nat} (h : s.LockInv)
    (hi : s.txs[i]? = some (.updating family now pending revoked))
    (hupdate : s.updateRow i jti family now pending revoked = some s') : s'.LockInv := by
  have hwritten := (h.txs i _ hi).written family now pending revoked rfl
  unfold TokenState.updateRow at hupdate
  split at hupdate
  · rename_i hfree
    have hfree : s.lockedBy jti = none ∨ s.lockedBy jti = some i := by
      simpa [TokenState.free] using hfree.2
    dsimp only at hupdate
    split at hupdate
    · cases hupdate
      refine h.moves rfl h.jtis (fun _ _ hji hlocked => lock_lockedBy hfree hji hlocked)
        (fun _ _ _ ht _ => ht) ⟨by simp [TokenPhase.read], by simp, ?_⟩
      intro family' now' pending' revoked' hp jti' hjti'
      cases hp
      by_cases hsame : jti' = jti
      · simp [TokenState.setTx, TokenState.lock, hsame]
      · have hold : jti' ∈ revoked := by simpa [hsame] using hjti'
        simp [TokenState.setTx, TokenState.lock, hsame, hwritten jti' hold]
    · cases hupdate
      refine h.moves rfl h.jtis (fun _ _ _ hlocked => hlocked) (fun _ _ _ ht _ => ht)
        ⟨by simp [TokenPhase.read], by simp, ?_⟩
      intro family' now' pending' revoked' hp
      cases hp
      exact hwritten
  · cases hupdate

theorem map_jti_replaced {row : RefreshToken} :
    (s.rows.map fun t => if t.jti = row.jti then row else t).map RefreshToken.jti =
      s.rows.map RefreshToken.jti := by
  rw [List.map_map]
  refine List.map_congr_left fun t _ => ?_
  rw [Function.comp_apply]
  split
  · rename_i hsame
    exact hsame.symm
  · rfl

theorem LockInv.commitIssue {read row child : RefreshToken} (h : s.LockInv)
    (hi : s.txs[i]? = some (.issued read row child))
    (hcommit : s.commitIssue i row child = some s') : s'.LockInv := by
  obtain ⟨hlocked, -⟩ := (h.txs i _ hi).read read rfl
  obtain ⟨⟨now, hrow⟩, -⟩ := (h.txs i _ hi).issued read row child rfl
  have hjti : row.jti = read.jti := by rw [hrow]
  unfold TokenState.commitIssue at hcommit
  split at hcommit
  · rename_i hunused
    cases hcommit
    refine h.moves (q := .ended) rfl ?_ (fun _ _ => finish_lockedBy) ?_ (.of_idle rfl (by simp))
    · have hfresh : child.jti ∉ s.rows.map RefreshToken.jti := by
        intro hmem
        obtain ⟨t, ht, hsame⟩ := List.mem_map.mp hmem
        simp only [TokenState.unused, List.all_eq_true, bne_iff_ne] at hunused
        exact hunused t ht hsame
      rw [List.map_append, map_jti_replaced]
      simpa using List.Nodup.concat hfresh h.jtis
    · intro j t hji ht hlocked'
      have hne : t.jti ≠ row.jti := by
        rw [hjti]
        intro hsame
        rw [hsame, hlocked] at hlocked'
        exact hji (Option.some.inj hlocked').symm
      exact List.mem_append_left _ (List.mem_map.mpr ⟨t, ht, by simp [hne]⟩)
  · cases hcommit

theorem LockInv.commitRevocation {family : FamilyId} {now : Timestamp} {revoked : List Nat}
    (h : s.LockInv) (hi : s.txs[i]? = some (.updating family now [] revoked)) :
    (s.commitRevocation i family now revoked).LockInv := by
  have hwritten := (h.txs i _ hi).written family now [] revoked rfl
  refine h.moves (q := .ended) rfl ?_ (fun _ _ => finish_lockedBy) ?_ (.of_idle rfl (by simp))
  · have hjtis : (s.commitRevocation i family now revoked).rows.map RefreshToken.jti =
        s.rows.map RefreshToken.jti := by
      rw [TokenState.commitRevocation, List.map_map]
      refine List.map_congr_left fun t _ => ?_
      rw [Function.comp_apply]
      split <;> rfl
    exact hjtis ▸ h.jtis
  · intro j t hji ht hlocked
    have hnot : t.jti ∉ revoked := by
      intro hmem
      rw [hwritten t.jti hmem] at hlocked
      exact hji (Option.some.inj hlocked).symm
    exact List.mem_map.mpr ⟨t, ht, by simp [hnot]⟩

theorem LockInv.step {e : TokenEvent} (h : s.LockInv) (he : s.step e = some s') :
    s'.LockInv := by
  cases e <;> simp only [TokenState.step] at he
  case refresh jti sub =>
    cases he
    exact h.begin rfl (by simp)
  case logout jti =>
    cases he
    cases s.find jti with
    | none => exact h.begin rfl (by simp)
    | some t => exact h.begin rfl (by simp)
  case select i =>
    split at he
    · exact h.select he
    · cases he
  case rotate i now active jti =>
    split at he
    · rename_i hi
      exact h.rotate hi he
    · cases he
  case update i now =>
    split at he
    · rename_i family _
      cases he
      refine h.moves rfl h.jtis (fun _ _ _ hlocked => hlocked) (fun _ _ _ ht _ => ht)
        ⟨by simp [TokenPhase.read], by simp, ?_⟩
      intro family' now' pending revoked hp
      cases hp
      simp
    · cases he
  case updateRow i jti =>
    split at he
    · rename_i hi
      exact h.updateRow hi he
    · cases he
  case commit i =>
    obtain ⟨p, hi, he⟩ := Option.bind_eq_some_iff.mp he
    unfold TokenState.commit at he
    split at he
    · exact h.commitIssue hi he
    · cases he
      exact h.commitRevocation hi
    · cases he
  case abort i =>
    split at he
    · cases he
      exact h.finish
    · cases he

/-! ## What a step does to the rows -/

/-- Only a commit changes a row. -/
theorem rows_of_step {e : TokenEvent} (he : s.step e = some s') (hcommit : ∀ i, e ≠ .commit i) :
    s'.rows = s.rows := by
  cases e <;> simp only [TokenState.step] at he
  case commit i => exact absurd rfl (hcommit i)
  case refresh jti sub =>
    cases he
    rfl
  case logout jti =>
    cases he
    rfl
  case select i =>
    split at he
    · unfold TokenState.select at he
      split at he
      · cases he
        rfl
      · split at he <;> cases he
        rfl
    · cases he
  case rotate i now active jti =>
    split at he
    · unfold TokenState.rotate at he
      split at he <;> cases he <;> rfl
    · cases he
  case update i now =>
    split at he <;> cases he
    rfl
  case updateRow i jti =>
    split at he
    · unfold TokenState.updateRow at he
      split at he
      · dsimp only at he
        split at he <;> cases he <;> rfl
      · cases he
    · cases he
  case abort i =>
    split at he <;> cases he
    rfl

theorem getElem?_set_of_ne_phase {l : List TokenPhase} {j k : Nat} {p q : TokenPhase}
    (h : (l.set j p)[k]? = some q) (hpq : p ≠ q) : l[k]? = some q := by
  rw [List.getElem?_set] at h
  split at h
  · split at h
    · exact absurd (Option.some.inj h) hpq
    · cases h
  · exact h

/-- Only a rotation brings a transaction to the end of a rotation. -/
theorem issued_of_step {e : TokenEvent} (he : s.step e = some s')
    (hrotate : ∀ i now active jti, e ≠ .rotate i now active jti) {k : Nat}
    {read row child : RefreshToken} (hk : s'.txs[k]? = some (.issued read row child)) :
    s.txs[k]? = some (.issued read row child) := by
  have hfinish (i : Nat) (hk : (s.finish i).txs[k]? = some (.issued read row child)) :
      s.txs[k]? = some (.issued read row child) :=
    getElem?_set_of_ne_phase hk (by simp)
  have hbegin (p : TokenPhase) (hp : p ≠ .issued read row child)
      (hk : (s.begin p).txs[k]? = some (.issued read row child)) :
      s.txs[k]? = some (.issued read row child) := by
    rw [TokenState.begin, List.getElem?_append] at hk
    split at hk
    · exact hk
    · have hmem := List.mem_of_getElem? hk
      exact absurd (List.mem_singleton.mp hmem).symm hp
  cases e <;> simp only [TokenState.step] at he
  case rotate i now active jti => exact absurd rfl (hrotate i now active jti)
  case refresh jti sub =>
    cases he
    exact hbegin _ (by simp) hk
  case logout jti =>
    cases he
    refine hbegin _ ?_ hk
    cases s.find jti <;> simp
  case select i =>
    split at he
    · unfold TokenState.select at he
      split at he
      · cases he
        exact getElem?_set_of_ne_phase hk (by simp)
      · split at he <;> cases he
        exact getElem?_set_of_ne_phase hk (by simp)
    · cases he
  case update i now =>
    split at he <;> cases he
    exact getElem?_set_of_ne_phase hk (by simp)
  case updateRow i jti =>
    split at he
    · unfold TokenState.updateRow at he
      split at he
      · dsimp only at he
        split at he <;> cases he <;> exact getElem?_set_of_ne_phase hk (by simp)
      · cases he
    · cases he
  case commit i =>
    obtain ⟨p, -, he⟩ := Option.bind_eq_some_iff.mp he
    unfold TokenState.commit at he
    split at he
    · unfold TokenState.commitIssue at he
      split at he <;> cases he
      exact hfinish i hk
    · cases he
      exact hfinish i hk
    · cases he
  case abort i =>
    split at he <;> cases he
    exact hfinish i hk

end TokenState

/-! ## Uses -/

namespace TokenUses

variable {s s' : TokenUses} {i : Nat}

/-- A token that was first used at `used` may be used at `time`. -/
def InWindow (used time : Timestamp) : Prop :=
  used ≤ time ∧ time - used ≤ concurrentRefreshGrace

/-- A committed use is one of a row that remembers its first use. -/
def Remembered (rows : List RefreshToken) (use : Nat × Timestamp) : Prop :=
  ∃ t ∈ rows, t.jti = use.1 ∧ ∃ used, t.usedAt = some used ∧ InWindow used use.2

variable (s) in
structure Inv : Prop where
  locks : s.tokens.LockInv
  past : ∀ t ∈ s.tokens.rows, ∀ used, t.usedAt = some used → used ≤ s.clock
  pending : ∀ i read row child, s.tokens.txs[i]? = some (.issued read row child) →
    ∃ used, row.usedAt = some used ∧ used ≤ s.clock ∧ InWindow used (s.rotatedAt i)
  uses : ∀ use ∈ s.uses, Remembered s.tokens.rows use

/-- A step that neither rotates nor commits. -/
theorem Inv.other {e : TokenEvent} {tokens : TokenState} (h : s.Inv)
    (he : s.tokens.step e = some tokens)
    (hrotate : ∀ i now active jti, e ≠ .rotate i now active jti)
    (hcommit : ∀ i, e ≠ .commit i) : Inv { s with tokens } where
  locks := h.locks.step he
  past := by
    rw [TokenState.rows_of_step he hcommit]
    exact h.past
  pending := by
    intro k read row child hk
    exact h.pending k read row child (TokenState.issued_of_step he hrotate hk)
  uses := by
    rw [TokenState.rows_of_step he hcommit]
    exact h.uses

theorem inWindow_self (time : Timestamp) : InWindow time time := by
  refine ⟨Int.le_refl _, ?_⟩
  rw [Int.sub_self]
  decide

/-- A rotation remembers the first use of its row, which is now or in the last ten seconds. -/
theorem Inv.rotated {now : Timestamp} {active : Bool} {jti : Nat} {tokens : TokenState}
    (h : s.Inv) (hnow : s.clock ≤ now)
    (he : s.tokens.step (.rotate i now active jti) = some tokens) :
    Inv { s with tokens, clock := now, rotatedAt := Function.update s.rotatedAt i now } where
  locks := h.locks.step he
  past := by
    rw [TokenState.rows_of_step he (by simp)]
    exact fun t ht used hused => (h.past t ht used hused).trans hnow
  pending := by
    intro k read row child hk
    simp only [TokenState.step] at he
    split at he
    · rename_i sel sub hi
      obtain ⟨-, hmem⟩ := (h.locks.txs i _ hi).read sel rfl
      -- another transaction's rotation is as it was
      have hother (p : TokenPhase) (hk : (s.tokens.txs.set i p)[k]? = some (.issued read row child))
          (hp : p ≠ .issued read row child ∨ k ≠ i) :
          ∃ used, row.usedAt = some used ∧ used ≤ now ∧
            InWindow used (Function.update s.rotatedAt i now k) := by
        have hki : k ≠ i := by
          rintro rfl
          rw [List.getElem?_set_self (List.getElem?_eq_some_iff.mp hi).1] at hk
          exact hp.elim (fun hp => hp (Option.some.inj hk)) fun hki => hki rfl
        rw [List.getElem?_set_ne (Ne.symm hki)] at hk
        obtain ⟨used, hused, hpast, hwindow⟩ := h.pending k read row child hk
        rw [Function.update_of_ne hki]
        exact ⟨used, hused, hpast.trans hnow, hwindow⟩
      unfold TokenState.rotate at he
      split at he
      · cases he
        exact hother _ hk (.inl (by simp))
      · cases he
        exact hother _ hk (.inl (by simp))
      · rename_i row' child' hissues
        cases he
        obtain ⟨rfl, -, hgrace⟩ := TokenState.rotateRefreshToken_eq_issues hissues
        by_cases hki : k = i
        · subst k
          change (s.tokens.txs.set i _)[i]? = _ at hk
          rw [List.getElem?_set_self (List.getElem?_eq_some_iff.mp hi).1] at hk
          cases hk
          show ∃ used, _ ∧ used ≤ now ∧ InWindow used (Function.update s.rotatedAt i now i)
          rw [Function.update_self]
          cases hused : read.usedAt with
          | none => exact ⟨now, rfl, Int.le_refl _, inWindow_self now⟩
          | some used =>
            have hle := (h.past read hmem used hused).trans hnow
            exact ⟨used, rfl, hle, hle, hgrace used hused⟩
        · exact hother _ hk (.inr hki)
    · cases he
  uses := by
    rw [TokenState.rows_of_step he (by simp)]
    exact h.uses

theorem Inv.commitIssue {read row child : RefreshToken} {tokens : TokenState} (h : s.Inv)
    (hi : s.tokens.txs[i]? = some (.issued read row child))
    (he : s.tokens.commitIssue i row child = some tokens)
    (hstep : s.tokens.step (.commit i) = some tokens) :
    Inv { s with tokens, uses := s.uses ++ [(read.jti, s.rotatedAt i)] } := by
  have hholds := h.locks.txs i _ hi
  obtain ⟨-, hread⟩ := hholds.read read rfl
  obtain ⟨⟨now, hrow⟩, hchild⟩ := hholds.issued read row child rfl
  have hjti : row.jti = read.jti := by rw [hrow]
  obtain ⟨used, hused, hpast, hwindow⟩ := h.pending i read row child hi
  have hrows : tokens.rows =
      (s.tokens.rows.map fun t => if t.jti = row.jti then row else t) ++ [child] := by
    unfold TokenState.commitIssue at he
    split at he <;> cases he
    rfl
  have hnew : row ∈ tokens.rows := by
    rw [hrows]
    exact List.mem_append_left _ (List.mem_map.mpr ⟨read, hread, by simp [hjti]⟩)
  exact {
    locks := h.locks.step hstep
    past := by
      intro t ht used' hused'
      rw [hrows] at ht
      rcases TokenState.mem_issuedRows ht with rfl | rfl | ht
      · rw [hchild] at hused'
        cases hused'
      · rw [hused] at hused'
        cases hused'
        exact hpast
      · exact h.past t ht used' hused'
    pending := fun k read' row' child' hk =>
      h.pending k read' row' child' (TokenState.issued_of_step hstep (by simp) hk)
    uses := by
      intro use huse
      rcases List.mem_append.mp huse with huse | huse
      · obtain ⟨t, ht, htjti, u, hu, hin⟩ := h.uses use huse
        by_cases hsame : t.jti = row.jti
        · -- the row was read as it is, so the first use is still remembered
          obtain rfl : t = read :=
            List.inj_on_of_nodup_map h.locks.jtis ht hread (hsame.trans hjti)
          refine ⟨row, hnew, hjti.trans htjti, u, ?_, hin⟩
          rw [hrow, hu]
          rfl
        · refine ⟨t, ?_, htjti, u, hu, hin⟩
          rw [hrows]
          exact List.mem_append_left _ (List.mem_map.mpr ⟨t, ht, by simp [hsame]⟩)
      · rw [List.mem_singleton.mp huse]
        exact ⟨row, hnew, hjti, used, hused, hwindow⟩ }

theorem Inv.commitRevocation {family : FamilyId} {now : Timestamp} {revoked : List Nat}
    (h : s.Inv) (hstep : s.tokens.step (.commit i) =
      some (s.tokens.commitRevocation i family now revoked)) :
    Inv { s with tokens := s.tokens.commitRevocation i family now revoked } := by
  exact {
    locks := h.locks.step hstep
    past := by
      intro t ht used hused
      obtain ⟨t', ht', rfl⟩ := List.mem_map.mp ht
      refine h.past t' ht' used ?_
      split at hused <;> exact hused
    pending := fun k read row child hk =>
      h.pending k read row child (TokenState.issued_of_step hstep (by simp) hk)
    uses := by
      intro use huse
      obtain ⟨t, ht, htjti, u, hu, hin⟩ := h.uses use huse
      refine ⟨_, List.mem_map_of_mem ht, ?_, u, ?_, hin⟩
      · split <;> exact htjti
      · split <;> exact hu }

theorem Inv.step {e : TokenEvent} (h : s.Inv) (hs : s.step e = some s') : s'.Inv := by
  cases e with
  | rotate i now active jti =>
    simp only [TokenUses.step] at hs
    split at hs
    · rename_i hnow
      obtain ⟨tokens, he, rfl⟩ := Option.map_eq_some_iff.mp hs
      exact h.rotated hnow he
    · cases hs
  | commit i =>
    obtain ⟨tokens, hstep, rfl⟩ := Option.map_eq_some_iff.mp hs
    obtain ⟨p, hi, he⟩ := Option.bind_eq_some_iff.mp hstep
    cases p with
    | issued read row child =>
      have huse : s.use i = [(read.jti, s.rotatedAt i)] := by rw [use, hi]
      rw [huse]
      exact h.commitIssue hi he hstep
    | updating family now pending revoked =>
      cases pending with
      | nil =>
        cases he
        have huse : s.use i = [] := by rw [use, hi]
        rw [huse, List.append_nil]
        exact h.commitRevocation hstep
      | cons jti pending => cases he
    | selecting jti sub => cases he
    | selected row sub => cases he
    | revoking family => cases he
    | ended => cases he
  | refresh jti sub =>
    simp only [TokenUses.step, Option.map_eq_some_iff] at hs
    obtain ⟨tokens, he, rfl⟩ := hs
    exact h.other he (by simp) (by simp)
  | logout jti =>
    simp only [TokenUses.step, Option.map_eq_some_iff] at hs
    obtain ⟨tokens, he, rfl⟩ := hs
    exact h.other he (by simp) (by simp)
  | select i =>
    simp only [TokenUses.step, Option.map_eq_some_iff] at hs
    obtain ⟨tokens, he, rfl⟩ := hs
    exact h.other he (by simp) (by simp)
  | update i now =>
    simp only [TokenUses.step, Option.map_eq_some_iff] at hs
    obtain ⟨tokens, he, rfl⟩ := hs
    exact h.other he (by simp) (by simp)
  | updateRow i jti =>
    simp only [TokenUses.step, Option.map_eq_some_iff] at hs
    obtain ⟨tokens, he, rfl⟩ := hs
    exact h.other he (by simp) (by simp)
  | abort i =>
    simp only [TokenUses.step, Option.map_eq_some_iff] at hs
    obtain ⟨tokens, he, rfl⟩ := hs
    exact h.other he (by simp) (by simp)

theorem Inv.init (h : tokenUses.init s) : s.Inv := by
  obtain ⟨hquiet, huses, hpast⟩ := h
  exact {
    locks := ⟨hquiet.jtis, fun i p hp => by simp [hquiet.txs] at hp⟩
    past := hpast
    pending := fun i read row child hi => by simp [hquiet.txs] at hi
    uses := by simp [huses] }

theorem inv_of_reachable (h : tokenUses.Reachable s) : s.Inv :=
  h.invariant (fun _ => Inv.init) fun _ _ _ _ hi _ hs => hi.step hs

/-- **A refresh token is used within ten seconds or not at all.** Over every interleaving of
rotations, logouts and reuse detections, two committed rotations of the same token are at most
`_CONCURRENT_REFRESH_GRACE` apart. -/
theorem uses_within_grace (h : tokenUses.Reachable s) :
    ∀ jti time time', (jti, time) ∈ s.uses → (jti, time') ∈ s.uses →
      time' - time ≤ concurrentRefreshGrace := by
  have hinv := inv_of_reachable h
  intro jti time time' huse huse'
  obtain ⟨t, ht, htjti, used, hused, hle, -⟩ := hinv.uses _ huse
  obtain ⟨t', ht', htjti', used', hused', -, hgrace⟩ := hinv.uses _ huse'
  obtain rfl : t = t' :=
    List.inj_on_of_nodup_map hinv.locks.jtis ht ht' (htjti.trans htjti'.symm)
  obtain rfl : used = used' := Option.some.inj (hused.symm.trans hused')
  calc time' - time ≤ time' - used := Int.sub_le_sub_left hle time'
    _ ≤ concurrentRefreshGrace := hgrace

/-- Two tabs refresh with the same token, five seconds apart. -/
def refreshTwice : List TokenEvent :=
  [.refresh 0 1, .refresh 0 1, .select 0, .rotate 0 1000000 true 5, .commit 0,
    .select 1, .rotate 1 6000000 true 6, .commit 1]

theorem uses_within_grace_replay :
    ∃ s, tokenUses.Reachable s ∧ s.uses = [(0, 1000000), (0, 6000000)] ∧
      ∀ jti time time', (jti, time) ∈ s.uses → (jti, time') ∈ s.uses →
        time' - time ≤ concurrentRefreshGrace := by
  obtain ⟨s, hs, hp⟩ := Machine.exists_reachable_of_run (m := tokenUses) (t := refreshTwice)
    (p := fun s => s.uses = [(0, 1000000), (0, 6000000)])
    (s := { tokens := signedIn, clock := 0 })
    ⟨signedIn_quiet, rfl, by simp [signedIn]⟩ (by decide)
  exact ⟨s, hs, by simpa using hp, uses_within_grace hs⟩

end TokenUses

end InfraOps
