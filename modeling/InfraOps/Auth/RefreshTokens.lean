import InfraOps.Models.Jobs
import InfraOps.Support.Keyed
import InfraOps.Support.Machine

/-!
# Refresh tokens

The table `refresh_tokens` under the requests `refresh_tokens` and `logout`: each is one
transaction under READ COMMITTED. A rotation locks the row of its token and inserts a child
that nobody else sees before it commits. A revocation is one `UPDATE`: it goes through the
rows that were committed when the statement began, waits for each row that another
transaction holds, and tests it again before it writes.
-/

namespace InfraOps

abbrev FamilyId := Nat
abbrev UserId := Nat

structure RefreshToken where
  jti : Nat
  familyId : FamilyId
  userId : UserId
  usedAt : Option Timestamp := none
  revokedAt : Option Timestamp := none
  deriving DecidableEq

/-- `_CONCURRENT_REFRESH_GRACE`, ten seconds. -/
def concurrentRefreshGrace : Timestamp := 10000000

/-- What a rotation does with the row it has locked. -/
inductive Rotation
  /-- It raises, and nothing has changed. -/
  | refuses (message : String)
  /-- It raises, and the family is revoked. -/
  | revokes (family : FamilyId) (message : String)
  /-- The row is used, and its child is inserted. -/
  | issues (row child : RefreshToken)
  deriving DecidableEq

/-- `rotate_refresh_token` after its `SELECT`; `sub` is the subject that the presented token
names, `active` the user's state, and `jti` the one of the new token. -/
def rotateRefreshToken (row : RefreshToken) (sub : UserId) (now : Timestamp) (active : Bool)
    (jti : Nat) : Rotation :=
  if row.userId ≠ sub then .refuses "Session is no longer valid. Please sign in again."
  else if row.revokedAt.isSome then .refuses "Session was signed out. Please sign in again."
  else if row.usedAt.any fun used => now - used > concurrentRefreshGrace then
    .revokes row.familyId "Session was revoked. Please sign in again."
  else if !active then .revokes row.familyId "Account no longer active."
  else
    .issues { row with usedAt := row.usedAt.or (some now) }
      { jti, familyId := row.familyId, userId := row.userId }

/-! ## Transactions -/

inductive TokenPhase
  /-- `SELECT … FOR UPDATE` waits for the row. -/
  | selecting (jti : Nat) (sub : UserId)
  /-- The row is locked. -/
  | selected (row : RefreshToken) (sub : UserId)
  /-- The row, as it was read, is used and its child inserted. -/
  | issued (read row child : RefreshToken)
  /-- The `UPDATE` of the family is about to begin. -/
  | revoking (family : FamilyId)
  /-- It has still to come to the rows `pending`; those of `revoked` it has written. -/
  | updating (family : FamilyId) (now : Timestamp) (pending revoked : List Nat)
  | ended
  deriving DecidableEq

/-- The row as the transaction has read it under its lock. -/
def TokenPhase.read : TokenPhase → Option RefreshToken
  | selected row _ => some row
  | issued read _ _ => some read
  | _ => none

/-- The statement that revokes the family has begun. -/
def TokenPhase.updates (family : FamilyId) : TokenPhase → Bool
  | updating f _ _ _ => f == family
  | _ => false

structure TokenState where
  /-- What is committed. -/
  rows : List RefreshToken
  txs : List TokenPhase := []
  lockedBy : Nat → Option Nat := fun _ => none
  /-- History: the families that a committed transaction has revoked. -/
  revoked : List FamilyId := []
  /-- History: a rotation has issued tokens of such a family. -/
  late : Bool := false

inductive TokenEvent
  /-- A refresh begins. -/
  | refresh (jti : Nat) (sub : UserId)
  /-- A logout reads the row, without a lock. -/
  | logout (jti : Nat)
  | select (tx : Nat)
  | rotate (tx : Nat) (now : Timestamp) (active : Bool) (jti : Nat)
  | update (tx : Nat) (now : Timestamp)
  /-- The `UPDATE` comes to a row. -/
  | updateRow (tx : Nat) (jti : Nat)
  | commit (tx : Nat)
  /-- The transaction is rolled back: a deadlock, an error, a lost connection. -/
  | abort (tx : Nat)

namespace TokenState

variable (s : TokenState)

def find (jti : Nat) : Option RefreshToken := s.rows.find? fun t => t.jti = jti

def setTx (i : Nat) (p : TokenPhase) : TokenState := { s with txs := s.txs.set i p }

def begin (p : TokenPhase) : TokenState := { s with txs := s.txs ++ [p] }

def lock (i jti : Nat) : TokenState :=
  { s with lockedBy := Function.update s.lockedBy jti (some i) }

/-- Every lock of the transaction is released, and it is over. -/
def finish (i : Nat) : TokenState :=
  { s.setTx i .ended with
    lockedBy := fun jti => if s.lockedBy jti = some i then none else s.lockedBy jti }

/-- The row is not locked by another transaction. -/
def free (i jti : Nat) : Bool := s.lockedBy jti == none || s.lockedBy jti == some i

/-- A refresh token that is not revoked. -/
def revocable (family : FamilyId) (t : RefreshToken) : Bool :=
  t.familyId == family && t.revokedAt == none

/-- `SELECT … WHERE jti = … FOR UPDATE`, once the row is free. -/
def select (i jti : Nat) (sub : UserId) : Option TokenState :=
  match s.find jti with
  | none => some (s.setTx i .ended)
  | some row =>
    if s.lockedBy jti = none then some ((s.lock i jti).setTx i (.selected row sub)) else none

/-- The new identifier is not in use. -/
def unused (jti : Nat) : Bool := s.rows.all fun t => t.jti != jti

def rotate (i : Nat) (row : RefreshToken) (sub : UserId) (now : Timestamp) (active : Bool)
    (jti : Nat) : Option TokenState :=
  match rotateRefreshToken row sub now active jti with
  | .refuses _ => some (s.finish i)
  | .revokes family _ => some (s.setTx i (.revoking family))
  | .issues row' child => some (s.setTx i (.issued row row' child))

/-- The statement begins: it will go through what is committed now. -/
def update (i : Nat) (family : FamilyId) (now : Timestamp) : TokenState :=
  s.setTx i (.updating family now ((s.rows.filter (revocable family)).map RefreshToken.jti) [])

/-- A row that is free is tested again and written. -/
def updateRow (i jti : Nat) (family : FamilyId) (now : Timestamp) (pending revoked : List Nat) :
    Option TokenState :=
  if jti ∈ pending ∧ s.free i jti = true then
    let pending := pending.filter (· ≠ jti)
    if (s.find jti).any (revocable family) then
      some ((s.lock i jti).setTx i (.updating family now pending (jti :: revoked)))
    else some (s.setTx i (.updating family now pending revoked))
  else none

/-- A rotation commits. -/
def commitIssue (i : Nat) (row child : RefreshToken) : Option TokenState :=
  if s.unused child.jti then
    some { s.finish i with
      rows := (s.rows.map fun t => if t.jti = row.jti then row else t) ++ [child]
      late := s.late || decide (child.familyId ∈ s.revoked) }
  else none

/-- A revocation commits. -/
def commitRevocation (i : Nat) (family : FamilyId) (now : Timestamp) (revoked : List Nat) :
    TokenState :=
  { s.finish i with
    rows := s.rows.map fun t => if t.jti ∈ revoked then { t with revokedAt := some now } else t
    revoked := family :: s.revoked }

def commit (i : Nat) : TokenPhase → Option TokenState
  | .issued _ row child => s.commitIssue i row child
  | .updating family now [] revoked => some (s.commitRevocation i family now revoked)
  | _ => none

def step : TokenEvent → Option TokenState
  | .refresh jti sub => some (s.begin (.selecting jti sub))
  | .logout jti => some (s.begin (((s.find jti).map fun t => .revoking t.familyId).getD .ended))
  | .select i =>
    match s.txs[i]? with
    | some (.selecting jti sub) => s.select i jti sub
    | _ => none
  | .rotate i now active jti =>
    match s.txs[i]? with
    | some (.selected row sub) => s.rotate i row sub now active jti
    | _ => none
  | .update i now =>
    match s.txs[i]? with
    | some (.revoking family) => some (s.update i family now)
    | _ => none
  | .updateRow i jti =>
    match s.txs[i]? with
    | some (.updating family now pending revoked) => s.updateRow i jti family now pending revoked
    | _ => none
  | .commit i => (s.txs[i]?).bind (s.commit i)
  | .abort i => if i < s.txs.length then some (s.finish i) else none

/-- Any committed tokens, with no request under way. -/
structure Quiet (s : TokenState) : Prop where
  jtis : (s.rows.map RefreshToken.jti).Nodup
  txs : s.txs = []
  revoked : s.revoked = []
  late : s.late = false

end TokenState

/-- The refresh tokens and all requests that rotate or revoke them. -/
def refreshTokens : Machine TokenState TokenEvent where
  init := TokenState.Quiet
  step := TokenState.step

/-- Once a revocation of a family has committed, no unrevoked token of it is left, and none
of its tokens has yielded new ones since. -/
structure RevocationComplete (s : TokenState) : Prop where
  rows : ∀ t ∈ s.rows, t.familyId ∈ s.revoked → t.revokedAt ≠ none
  late : s.late = false

/-- A rotation does not commit while a revocation of its family is past its snapshot and not
over. -/
def outsideRevocations (s : TokenState) (e : TokenEvent) : Bool :=
  match e with
  | .commit i =>
    match s.txs[i]? with
    | some (.issued _ _ child) => s.txs.all fun p => !p.updates child.familyId
    | _ => true
  | _ => true

/-! ## The invariant -/

namespace TokenState

/-- What a transaction relies on: the row it has read is locked and as it was; a child is of
the family of an unrevoked row; and an `UPDATE` has still before it, or has locked and
written, every row of its family that is not revoked. -/
structure TxInv (s : TokenState) (i : Nat) (p : TokenPhase) : Prop where
  read : ∀ row, p.read = some row → s.lockedBy row.jti = some i ∧ row ∈ s.rows
  issued : ∀ read row child, p = .issued read row child → read.revokedAt = none ∧
    row.jti = read.jti ∧ row.revokedAt = none ∧ row.familyId = read.familyId ∧
      child.familyId = read.familyId
  written : ∀ family now pending revoked, p = .updating family now pending revoked →
    ∀ jti ∈ revoked, s.lockedBy jti = some i
  updating : ∀ family now pending revoked, p = .updating family now pending revoked →
    ∀ t ∈ s.rows, revocable family t = true → t.jti ∈ pending ∨ t.jti ∈ revoked

structure Inv (s : TokenState) : Prop where
  jtis : (s.rows.map RefreshToken.jti).Nodup
  txs : ∀ i p, s.txs[i]? = some p → s.TxInv i p
  complete : RevocationComplete s

variable {s s' : TokenState} {i : Nat} {p q : TokenPhase}

theorem Inv.init (h : s.Quiet) : s.Inv where
  jtis := h.jtis
  txs i p hp := by simp [h.txs] at hp
  complete := ⟨by simp [h.revoked], h.late⟩

theorem revocable_iff {family : FamilyId} {t : RefreshToken} :
    revocable family t = true ↔ t.familyId = family ∧ t.revokedAt = none := by
  simp [revocable]

/-- A phase without a row and without an `UPDATE` relies on nothing. -/
theorem TxInv.of_idle (hread : p.read = none)
    (hupdating : ∀ family now pending revoked, p ≠ .updating family now pending revoked) :
    s.TxInv i p where
  read row hrow := by simp [hread] at hrow
  issued read row child hp := by simp [hp, TokenPhase.read] at hread
  written family now pending revoked hp := absurd hp (hupdating _ _ _ _)
  updating family now pending revoked hp := absurd hp (hupdating _ _ _ _)

/-- What another transaction relies on survives a change that keeps its locks and its rows,
and adds no unrevoked row to the family it revokes. -/
theorem TxInv.frame (h : s.TxInv i p)
    (hlocks : ∀ jti, s.lockedBy jti = some i → s'.lockedBy jti = some i)
    (hrows : ∀ t ∈ s.rows, s.lockedBy t.jti = some i → t ∈ s'.rows)
    (hnew : ∀ family, p.updates family = true → ∀ t ∈ s'.rows, revocable family t = true →
      ∃ t' ∈ s.rows, t'.jti = t.jti ∧ revocable family t' = true) : s'.TxInv i p where
  read row hrow := by
    obtain ⟨hlocked, hmem⟩ := h.read row hrow
    exact ⟨hlocks _ hlocked, hrows row hmem hlocked⟩
  issued := h.issued
  written family now pending revoked hp jti hjti :=
    hlocks jti (h.written family now pending revoked hp jti hjti)
  updating family now pending revoked hp t ht hrevocable := by
    obtain ⟨t', ht', hjti, hrevocable'⟩ :=
      hnew family (by simp [hp, TokenPhase.updates]) t ht hrevocable
    rw [← hjti]
    exact h.updating family now pending revoked hp t' ht' hrevocable'

theorem find_eq_some {jti : Nat} {row : RefreshToken} (h : s.find jti = some row) :
    row ∈ s.rows ∧ row.jti = jti :=
  ⟨List.mem_of_find?_eq_some h, by simpa using List.find?_some h⟩

theorem Inv.find_eq (h : s.Inv) {t : RefreshToken} (ht : t ∈ s.rows) : s.find t.jti = some t :=
  find?_key RefreshToken.jti h.jtis ht

/-- A transaction changes its phase, and locks no row that another one holds; the rows are
as they were. -/
theorem Inv.moves (h : s.Inv) (htxs : s'.txs = s.txs.set i q) (hrows : s'.rows = s.rows)
    (hlocks : ∀ j jti, j ≠ i → s.lockedBy jti = some j → s'.lockedBy jti = some j)
    (hrevoked : s'.revoked = s.revoked) (hlate : s'.late = s.late) (hq : s'.TxInv i q) :
    s'.Inv where
  jtis := hrows ▸ h.jtis
  txs j r hr := by
    rw [htxs, List.getElem?_set] at hr
    split at hr
    · rename_i hij
      split at hr
      · cases hr
        exact hij ▸ hq
      · cases hr
    · rename_i hij
      refine (h.txs j r hr).frame (fun jti => hlocks j jti fun hji => hij hji.symm)
        (fun t ht _ => hrows ▸ ht) fun family _ t ht hrevocable => ⟨t, hrows ▸ ht, rfl, hrevocable⟩
  complete := ⟨by rw [hrows, hrevoked]; exact h.complete.rows, hlate ▸ h.complete.late⟩

/-! ## Requests -/

theorem Inv.begin (h : s.Inv) (hread : p.read = none)
    (hupdating : ∀ family now pending revoked, p ≠ .updating family now pending revoked) :
    (s.begin p).Inv where
  jtis := h.jtis
  txs j r hr := by
    rw [TokenState.begin, List.getElem?_append] at hr
    split at hr
    · exact (h.txs j r hr).frame (fun _ hlocked => hlocked) (fun _ ht _ => ht)
        fun _ _ t ht hrevocable => ⟨t, ht, rfl, hrevocable⟩
    · obtain rfl : r = p := by
        have hmem := List.mem_of_getElem? hr
        simpa using hmem
      exact .of_idle hread hupdating
  complete := ⟨h.complete.rows, h.complete.late⟩

theorem finish_lockedBy {j jti : Nat} (hji : j ≠ i) (hlocked : s.lockedBy jti = some j) :
    (s.finish i).lockedBy jti = some j := by
  have hne : ¬ some j = some i := by simpa using hji
  simp [TokenState.finish, hlocked, hne]

theorem Inv.finish (h : s.Inv) : (s.finish i).Inv :=
  h.moves (q := .ended) rfl rfl (fun _ _ => finish_lockedBy) rfl rfl (.of_idle rfl (by simp))

theorem lock_lockedBy {j jti jti' : Nat} (hfree : s.lockedBy jti = none ∨ s.lockedBy jti = some i)
    (hji : j ≠ i) (hlocked : s.lockedBy jti' = some j) : (s.lock i jti).lockedBy jti' = some j := by
  have hne : jti' ≠ jti := by
    rintro rfl
    rcases hfree with hfree | hfree
    · simp [hfree] at hlocked
    · rw [hfree] at hlocked
      exact hji (Option.some.inj hlocked).symm
  simp [TokenState.lock, hne, hlocked]

/-- The row that a rotation locks is the committed one. -/
theorem Inv.select {jti : Nat} {sub : UserId} (h : s.Inv)
    (hselect : s.select i jti sub = some s') : s'.Inv := by
  unfold TokenState.select at hselect
  split at hselect
  · cases hselect
    exact h.moves (q := .ended) rfl rfl (fun _ _ _ hlocked => hlocked) rfl rfl
      (.of_idle rfl (by simp))
  · rename_i row hfind
    split at hselect
    · rename_i hfree
      cases hselect
      obtain ⟨hmem, rfl⟩ := find_eq_some hfind
      refine h.moves (q := .selected row sub) rfl rfl
        (fun _ _ hji hlocked => lock_lockedBy (.inl hfree) hji hlocked) rfl rfl ?_
      exact ⟨fun row' hrow => by
          obtain rfl : row = row' := by simpa [TokenPhase.read] using hrow
          exact ⟨by simp [TokenState.setTx, TokenState.lock], hmem⟩,
        by simp, by simp, by simp⟩
    · cases hselect

/-- **What a rotation issues comes from an unrevoked row.** -/
theorem rotateRefreshToken_issues {row row' child : RefreshToken} {sub : UserId}
    {now : Timestamp} {active : Bool} {jti : Nat}
    (h : rotateRefreshToken row sub now active jti = .issues row' child) :
    row.revokedAt = none ∧ row'.jti = row.jti ∧ row'.revokedAt = none ∧
      row'.familyId = row.familyId ∧ child.familyId = row.familyId := by
  unfold rotateRefreshToken at h
  split at h
  · cases h
  · split at h
    · cases h
    · rename_i hrevoked
      split at h
      · cases h
      · split at h
        · cases h
        · cases h
          have hnone : row.revokedAt = none := by simpa using hrevoked
          exact ⟨hnone, rfl, hnone, rfl, rfl⟩

theorem Inv.rotate {row : RefreshToken} {sub : UserId} {now : Timestamp} {active : Bool}
    {jti : Nat} (h : s.Inv) (hi : s.txs[i]? = some (.selected row sub))
    (hrotate : s.rotate i row sub now active jti = some s') : s'.Inv := by
  unfold TokenState.rotate at hrotate
  split at hrotate
  · cases hrotate
    exact h.finish
  · rename_i family message _
    cases hrotate
    exact h.moves (q := .revoking family) rfl rfl (fun _ _ _ hlocked => hlocked) rfl rfl
      (.of_idle rfl (by simp))
  · rename_i row' child hissues
    cases hrotate
    obtain ⟨hlocked, hmem⟩ := (h.txs i _ hi).read row rfl
    refine h.moves (q := .issued row row' child) rfl rfl (fun _ _ _ hlocked => hlocked) rfl rfl ?_
    refine ⟨fun read hread => ?_, fun read row'' child' hp => ?_, by simp, by simp⟩
    · obtain rfl : row = read := by simpa [TokenPhase.read] using hread
      exact ⟨hlocked, hmem⟩
    · cases hp
      exact rotateRefreshToken_issues hissues

/-! ## Revocations -/

/-- The statement begins with every row of the family that is not revoked before it. -/
theorem Inv.update {family : FamilyId} {now : Timestamp} (h : s.Inv) :
    (s.update i family now).Inv := by
  refine h.moves rfl rfl (fun _ _ _ hlocked => hlocked) rfl rfl ⟨?_, by simp, ?_, ?_⟩
  · simp [TokenPhase.read]
  · intro family' now' pending revoked hp
    cases hp
    simp
  · intro family' now' pending revoked hp t ht hrevocable
    cases hp
    exact .inl (List.mem_map_of_mem (List.mem_filter.mpr ⟨ht, hrevocable⟩))

theorem Inv.updateRow {jti : Nat} {family : FamilyId} {now : Timestamp}
    {pending revoked : List Nat} (h : s.Inv)
    (hi : s.txs[i]? = some (.updating family now pending revoked))
    (hupdate : s.updateRow i jti family now pending revoked = some s') : s'.Inv := by
  obtain hwritten := (h.txs i _ hi).written family now pending revoked rfl
  obtain hupdating := (h.txs i _ hi).updating family now pending revoked rfl
  unfold TokenState.updateRow at hupdate
  split at hupdate
  · rename_i hfree
    have hfree : s.lockedBy jti = none ∨ s.lockedBy jti = some i := by
      simpa [TokenState.free] using hfree.2
    dsimp only at hupdate
    split at hupdate
    · -- the row is not revoked: it is locked and written
      cases hupdate
      refine h.moves rfl rfl (fun _ _ hji hlocked => lock_lockedBy hfree hji hlocked) rfl rfl
        ⟨by simp [TokenPhase.read], by simp, ?_, ?_⟩
      · intro family' now' pending' revoked' hp jti' hjti'
        cases hp
        by_cases hsame : jti' = jti
        · simp [TokenState.setTx, TokenState.lock, hsame]
        · have hold : jti' ∈ revoked := by simpa [hsame] using hjti'
          simp [TokenState.setTx, TokenState.lock, hsame, hwritten jti' hold]
      · intro family' now' pending' revoked' hp t ht hrevocable
        cases hp
        by_cases hsame : t.jti = jti
        · simp [hsame]
        · rcases hupdating t ht hrevocable with hold | hold
          · simp [hsame, hold]
          · simp [hold]
    · rename_i hfind
      cases hupdate
      refine h.moves rfl rfl (fun _ _ _ hlocked => hlocked) rfl rfl
        ⟨by simp [TokenPhase.read], by simp, ?_, ?_⟩
      · intro family' now' pending' revoked' hp
        cases hp
        exact hwritten
      · intro family' now' pending' revoked' hp t ht hrevocable
        cases hp
        have hsame : t.jti ≠ jti := by
          rintro rfl
          rw [h.find_eq ht] at hfind
          exact hfind hrevocable
        rcases hupdating t ht hrevocable with hold | hold
        · simp [hsame, hold]
        · exact .inr hold
  · cases hupdate

/-! ## Commits -/

/-- The rows after a revocation. -/
theorem mem_revokedRows {family : FamilyId} {now : Timestamp} {revoked : List Nat}
    {t : RefreshToken} (ht : t ∈ (s.commitRevocation i family now revoked).rows) :
    (t ∈ s.rows ∧ t.jti ∉ revoked) ∨ t.revokedAt ≠ none := by
  obtain ⟨t', ht', rfl⟩ := List.mem_map.mp ht
  by_cases hrevoked : t'.jti ∈ revoked
  · exact .inr (by simp [hrevoked])
  · exact .inl (by simp [hrevoked, ht'])

/-- **A revocation that commits leaves no unrevoked row of its family.** -/
theorem Inv.commitRevocation {family : FamilyId} {now : Timestamp} {revoked : List Nat}
    (h : s.Inv) (hi : s.txs[i]? = some (.updating family now [] revoked)) :
    (s.commitRevocation i family now revoked).Inv := by
  have hwritten := (h.txs i _ hi).written family now [] revoked rfl
  have hupdating := (h.txs i _ hi).updating family now [] revoked rfl
  constructor
  case jtis =>
    have hjtis : (s.commitRevocation i family now revoked).rows.map RefreshToken.jti =
        s.rows.map RefreshToken.jti := by
      rw [TokenState.commitRevocation, List.map_map]
      refine List.map_congr_left fun t _ => ?_
      rw [Function.comp_apply]
      split <;> rfl
    exact hjtis ▸ h.jtis
  case txs =>
    intro j r hr
    replace hr : (s.txs.set i .ended)[j]? = some r := hr
    rw [List.getElem?_set] at hr
    split at hr
    · split at hr
      · cases hr
        exact .of_idle rfl (by simp)
      · cases hr
    · rename_i hij
      have hji : j ≠ i := fun hji => hij hji.symm
      refine (h.txs j r hr).frame (fun jti => finish_lockedBy hji) ?_ ?_
      · intro t ht hlocked
        -- the rows written are locked by this transaction
        have hnot : t.jti ∉ revoked := by
          intro hmem
          rw [hwritten t.jti hmem] at hlocked
          exact hij (Option.some.inj hlocked)
        exact List.mem_map.mpr ⟨t, ht, by simp [hnot]⟩
      · intro family' _ t ht hrevocable
        rcases mem_revokedRows ht with ⟨ht, -⟩ | hrevoked
        · exact ⟨t, ht, rfl, hrevocable⟩
        · exact absurd (revocable_iff.mp hrevocable).2 hrevoked
  case complete =>
    refine ⟨fun t ht hfamily => ?_, h.complete.late⟩
    rcases mem_revokedRows ht with ⟨ht, hnot⟩ | hrevoked
    · intro hnone
      rcases List.mem_cons.mp hfamily with hfamily | hfamily
      · -- the `UPDATE` has come to every unrevoked row of the family
        rcases hupdating t ht (revocable_iff.mpr ⟨hfamily, hnone⟩) with hpending | hwritten
        · cases hpending
        · exact hnot hwritten
      · exact h.complete.rows t ht hfamily hnone
    · exact hrevoked

/-- The rows after a rotation: the child, and the old ones with the same standing. -/
theorem mem_issuedRows {row child t : RefreshToken}
    (ht : t ∈ (s.rows.map fun t => if t.jti = row.jti then row else t) ++ [child]) :
    t = child ∨ t = row ∨ t ∈ s.rows := by
  rcases List.mem_append.mp ht with ht | ht
  · obtain ⟨t', ht', rfl⟩ := List.mem_map.mp ht
    by_cases hjti : t'.jti = row.jti
    · exact .inr (.inl (by simp [hjti]))
    · exact .inr (.inr (by simp [hjti, ht']))
  · exact .inl (List.mem_singleton.mp ht)

/-- **A rotation that commits outside of every revocation of its family** issues a child of a
family that is not revoked. -/
theorem Inv.commitIssue {read row child : RefreshToken} (h : s.Inv)
    (hi : s.txs[i]? = some (.issued read row child))
    (houtside : ∀ p ∈ s.txs, p.updates child.familyId = false)
    (hcommit : s.commitIssue i row child = some s') : s'.Inv := by
  obtain ⟨hlocked, hread⟩ := (h.txs i _ hi).read read rfl
  obtain ⟨hunrevoked, hjti, hrow, hfamily, hchild⟩ := (h.txs i _ hi).issued read row child rfl
  have hnot : child.familyId ∉ s.revoked := by
    intro hmem
    exact h.complete.rows read hread (hchild ▸ hmem) hunrevoked
  unfold TokenState.commitIssue at hcommit
  split at hcommit
  · rename_i hunused
    cases hcommit
    constructor
    case jtis =>
      have hjtis : (s.rows.map fun t => if t.jti = row.jti then row else t).map RefreshToken.jti =
          s.rows.map RefreshToken.jti := by
        rw [List.map_map]
        refine List.map_congr_left fun t _ => ?_
        rw [Function.comp_apply]
        split
        · rename_i hsame
          exact hsame.symm
        · rfl
      have hfresh : child.jti ∉ s.rows.map RefreshToken.jti := by
        intro hmem
        obtain ⟨t, ht, hsame⟩ := List.mem_map.mp hmem
        simp only [TokenState.unused, List.all_eq_true, bne_iff_ne] at hunused
        exact hunused t ht hsame
      rw [List.map_append, hjtis]
      simpa using List.Nodup.concat hfresh h.jtis
    case txs =>
      intro j r hr
      replace hr : (s.txs.set i .ended)[j]? = some r := hr
      rw [List.getElem?_set] at hr
      split at hr
      · split at hr
        · cases hr
          exact .of_idle rfl (by simp)
        · cases hr
      · rename_i hij
        have hji : j ≠ i := fun hji => hij hji.symm
        refine (h.txs j r hr).frame (fun jti => finish_lockedBy hji) ?_ ?_
        · intro t ht hlocked'
          have hne : t.jti ≠ row.jti := by
            rw [hjti]
            intro hsame
            rw [hsame, hlocked] at hlocked'
            exact hij (Option.some.inj hlocked')
          exact List.mem_append_left _ (List.mem_map.mpr ⟨t, ht, by simp [hne]⟩)
        · intro family hupdates t ht hrevocable
          rcases mem_issuedRows ht with rfl | rfl | ht
          · -- the child is of no family that is being revoked
            have hother := houtside r (List.mem_of_getElem? hr)
            rw [(revocable_iff.mp hrevocable).1, hupdates] at hother
            cases hother
          · refine ⟨read, hread, hjti.symm, revocable_iff.mpr ⟨?_, hunrevoked⟩⟩
            exact hfamily.symm.trans (revocable_iff.mp hrevocable).1
          · exact ⟨t, ht, rfl, hrevocable⟩
    case complete =>
      refine ⟨fun t ht hmem => ?_, by simp [hnot, h.complete.late]⟩
      rcases mem_issuedRows ht with rfl | rfl | ht
      · exact absurd hmem hnot
      · rw [hfamily, ← hchild] at hmem
        exact absurd hmem hnot
      · exact h.complete.rows t ht hmem
  · cases hcommit

/-! ## Runs -/

theorem Inv.step {e : TokenEvent} (h : s.Inv) (houtside : outsideRevocations s e = true)
    (he : s.step e = some s') : s'.Inv := by
  cases e <;> simp only [TokenState.step] at he
  case refresh jti sub =>
    cases he
    exact h.begin rfl (by simp)
  case logout jti =>
    cases he
    cases s.find jti with
    | none => exact h.begin rfl (by simp)
    | some t => exact h.begin rfl (by simp)
  case select i =>
    split at he
    · exact h.select he
    · cases he
  case rotate i now active jti =>
    split at he
    · rename_i hi
      exact h.rotate hi he
    · cases he
  case update i now =>
    split at he
    · cases he
      exact h.update
    · cases he
  case updateRow i jti =>
    split at he
    · rename_i hi
      exact h.updateRow hi he
    · cases he
  case commit i =>
    obtain ⟨p, hi, he⟩ := Option.bind_eq_some_iff.mp he
    unfold TokenState.commit at he
    split at he
    · rename_i read row child
      simp only [outsideRevocations, hi, List.all_eq_true, Bool.not_eq_true'] at houtside
      exact h.commitIssue hi houtside he
    · cases he
      exact h.commitRevocation hi
    · cases he
  case abort i =>
    split at he
    · cases he
      exact h.finish
    · cases he

end TokenState

/-- **Revocation is complete in every run** whose rotations commit outside of the revocations
of their families. -/
theorem revocationComplete (s : TokenState)
    (hs : refreshTokens.ReachableUnder (fun s e => outsideRevocations s e = true) s) :
    RevocationComplete s :=
  (hs.invariant (fun _ h => TokenState.Inv.init h)
    fun _ _ _ _ h houtside he => h.step houtside he).complete

/-! ## A child that escapes -/

/-- A login has just issued its first token. -/
def signedIn : TokenState where
  rows := [{ jti := 0, familyId := 7, userId := 1 }]

theorem signedIn_quiet : signedIn.Quiet := ⟨by decide, rfl, rfl, rfl⟩

/-- A refresh, and then a logout with the new token. -/
def refreshThenLogout : List TokenEvent :=
  [.refresh 0 1, .select 0, .rotate 0 1 true 5, .commit 0,
    .logout 5, .update 1 2, .updateRow 1 0, .updateRow 1 5, .commit 1]

theorem revocationComplete_logout : ∃ s, 7 ∈ s.revoked ∧ s.rows.length = 2 ∧
    RevocationComplete s := by
  obtain ⟨s, hs, hrevoked⟩ := Machine.exists_reachableUnder_of_run (m := refreshTokens)
    (c := outsideRevocations) (t := refreshThenLogout)
    (p := fun s => decide (7 ∈ s.revoked ∧ s.rows.length = 2)) signedIn_quiet (by decide)
  obtain ⟨hfamily, hlength⟩ := of_decide_eq_true hrevoked
  exact ⟨s, hfamily, hlength, revocationComplete s hs⟩

/-- The logout's `UPDATE` begins while the rotation is still to commit, and waits for its row;
the child was not there when it began. -/
def logoutDuringRefresh : List TokenEvent :=
  [.refresh 0 1, .logout 0, .select 0, .rotate 0 1 true 5, .update 1 2, .commit 0,
    .updateRow 1 0, .commit 1]

theorem child_escapes_revocation : ¬ ∀ s, refreshTokens.Reachable s → RevocationComplete s := by
  intro hcomplete
  obtain ⟨s, hs, hescaped⟩ := Machine.exists_reachable_of_run (m := refreshTokens)
    (t := logoutDuringRefresh)
    (p := fun s => s.rows.any fun t => decide (t.familyId ∈ s.revoked ∧ t.revokedAt = none))
    signedIn_quiet (by decide)
  obtain ⟨t, ht, hunrevoked⟩ := List.any_eq_true.mp hescaped
  obtain ⟨hfamily, hnone⟩ := of_decide_eq_true hunrevoked
  exact (hcomplete s hs).rows t ht hfamily hnone

end InfraOps
