import InfraOps.Auth.ReuseWindow

/-!
# The refresh cookie of a browser

The tabs of a browser share the refresh cookie, and each refreshes when it needs to: the
requests and the answers that set the cookie are under way at the same time, in any order. A
rotation is one transaction, and takes effect at once. Every request and every answer arrives,
within a bound on its time.
-/

namespace InfraOps

structure RefreshPost where
  jti : Nat
  sentAt : Timestamp

/-- An answer with `Set-Cookie`. -/
structure RefreshReply where
  jti : Nat
  answeredAt : Timestamp

structure CookieState where
  now : Timestamp
  rows : List RefreshToken
  cookie : Option Nat := none
  posts : List RefreshPost := []
  replies : List RefreshReply := []
  /-- What the refreshes were refused with. -/
  errors : List String := []

inductive CookieEvent
  | time (now : Timestamp)
  /-- A tab posts the cookie. -/
  | refresh
  /-- The server takes a request; `jti` is that of the token it would issue. -/
  | rotate (k : Nat) (active : Bool) (jti : Nat)
  | receive (k : Nat)
  | login (user : UserId) (family : FamilyId) (jti : Nat)
  /-- The server revokes a family: somebody signs out. -/
  | revoke (family : FamilyId)
  | forgetCookie

namespace CookieState

variable (requestBound replyBound : Timestamp) (s : CookieState)

def jtis : List Nat := s.rows.map RefreshToken.jti

/-- `revoke_family`. -/
def revoked (family : FamilyId) : List RefreshToken :=
  s.rows.map fun t =>
    if t.familyId = family ∧ t.revokedAt = none then { t with revokedAt := some s.now } else t

/-- Nothing under way is late. -/
def onTime (now : Timestamp) : Bool :=
  (s.posts.all fun p => now ≤ p.sentAt + requestBound) &&
    s.replies.all fun r => now ≤ r.answeredAt + replyBound

/-- A token is inserted, and answered with. -/
def issue (rows : List RefreshToken) (child : RefreshToken) : CookieState :=
  { s with
    rows := rows ++ [child]
    replies := s.replies ++ [{ jti := child.jti, answeredAt := s.now }] }

/-- `refresh_tokens` for a request taken out of the posts. -/
def rotate (row : RefreshToken) (active : Bool) (jti : Nat) : CookieState :=
  match rotateRefreshToken row row.userId s.now active jti with
  | .refuses message => { s with errors := s.errors ++ [message] }
  | .revokes family message =>
    { s with rows := s.revoked family, errors := s.errors ++ [message] }
  | .issues row' child => s.issue (s.rows.map fun t => if t.jti = row'.jti then row' else t) child

def step : CookieEvent → Option CookieState
  | .time now =>
    if s.now ≤ now && s.onTime requestBound replyBound now then some { s with now } else none
  | .refresh =>
    s.cookie.map fun jti => { s with posts := s.posts ++ [{ jti, sentAt := s.now }] }
  | .rotate k active jti =>
    if jti ∈ s.jtis then none
    else
      match s.posts[k]? with
      | none => none
      | some post =>
        let s := { s with posts := s.posts.eraseIdx k }
        (s.rows.find? fun t => t.jti = post.jti).map fun row => s.rotate row active jti
  | .receive k =>
    s.replies[k]?.map fun reply =>
      { s with cookie := some reply.jti, replies := s.replies.eraseIdx k }
  | .login user family jti =>
    if jti ∈ s.jtis then none
    else some (s.issue s.rows { jti, familyId := family, userId := user })
  | .revoke family => some { s with rows := s.revoked family }
  | .forgetCookie => some { s with cookie := none }

end CookieState

/-- Any tokens of others, and a browser without a cookie. -/
def refreshCookie (requestBound replyBound : Timestamp) : Machine CookieState CookieEvent where
  init s :=
    s.jtis.Nodup ∧ (∀ t ∈ s.rows, ∀ used, t.usedAt = some used → used ≤ s.now) ∧
      s.cookie = none ∧ s.posts = [] ∧ s.replies = [] ∧ s.errors = []
  step s := s.step requestBound replyBound

/-- `RefreshTokenReuseError`. -/
def reuseMessage : String := "Session was revoked. Please sign in again."

namespace CookieState

variable {requestBound replyBound : Timestamp} {s s' : CookieState}

/-- The row of this token was first used at `used`. -/
def UsedAt (s : CookieState) (jti : Nat) (used : Timestamp) : Prop :=
  ∃ t ∈ s.rows, t.jti = jti ∧ t.usedAt = some used

variable (requestBound replyBound s) in
/-- A used cookie is about to be replaced, and so no request carries it for long. -/
structure Inv : Prop where
  nodup : s.jtis.Nodup
  cookie : ∀ c, s.cookie = some c → c ∈ s.jtis
  posted : ∀ p ∈ s.posts, p.jti ∈ s.jtis
  replied : ∀ r ∈ s.replies, r.jti ∈ s.jtis
  fresh : ∀ r ∈ s.replies, s.cookie ≠ some r.jti ∧ (∀ p ∈ s.posts, p.jti ≠ r.jti) ∧
    ∀ used, ¬ s.UsedAt r.jti used
  once : (s.replies.map RefreshReply.jti).Nodup
  postTimes : ∀ p ∈ s.posts, p.sentAt ≤ s.now ∧ s.now ≤ p.sentAt + requestBound
  replyTimes : ∀ r ∈ s.replies, r.answeredAt ≤ s.now ∧ s.now ≤ r.answeredAt + replyBound
  replaced : ∀ c, s.cookie = some c → ∀ used, s.UsedAt c used →
    ∃ r ∈ s.replies, r.answeredAt = used
  soon : ∀ p ∈ s.posts, ∀ used, s.UsedAt p.jti used → p.sentAt ≤ used + replyBound
  past : ∀ jti used, s.UsedAt jti used → used ≤ s.now
  quiet : reuseMessage ∉ s.errors

/-! ## Steps -/

theorem jtis_revoked (family : FamilyId) :
    jtis { s with rows := s.revoked family } = s.jtis := by
  simp only [jtis, revoked, List.map_map]
  refine List.map_congr_left fun t _ => ?_
  rw [Function.comp_apply]
  split <;> rfl

theorem usedAt_of_revoked {family : FamilyId} {jti : Nat} {used : Timestamp}
    (h : UsedAt { s with rows := s.revoked family } jti used) : s.UsedAt jti used := by
  obtain ⟨t, ht, hjti, hused⟩ := h
  obtain ⟨t', ht', rfl⟩ := List.mem_map.mp ht
  refine ⟨t', ht', ?_, ?_⟩
  · split at hjti <;> exact hjti
  · split at hused <;> exact hused

theorem Inv.revoked (h : s.Inv requestBound replyBound) (family : FamilyId)
    {errors : List String} (herrors : reuseMessage ∉ errors) :
    Inv requestBound replyBound { s with rows := s.revoked family, errors } where
  nodup := (jtis_revoked family).symm ▸ h.nodup
  cookie := fun c hc => (jtis_revoked family).symm ▸ h.cookie c hc
  posted := fun p hp => (jtis_revoked family).symm ▸ h.posted p hp
  replied := fun r hr => (jtis_revoked family).symm ▸ h.replied r hr
  fresh := by
    intro r hr
    obtain ⟨hcookie, hposts, hunused⟩ := h.fresh r hr
    exact ⟨hcookie, hposts, fun used hused => hunused used (usedAt_of_revoked hused)⟩
  once := h.once
  postTimes := h.postTimes
  replyTimes := h.replyTimes
  replaced := fun c hc used hused => h.replaced c hc used (usedAt_of_revoked hused)
  soon := fun p hp used hused => h.soon p hp used (usedAt_of_revoked hused)
  past := fun jti used hused => h.past jti used (usedAt_of_revoked hused)
  quiet := herrors

/-- A token is issued; of the tokens that are there, at most those `marked` are used now, and
none of them is still to be received. -/
theorem Inv.issue (h : s.Inv requestBound replyBound) (hreply : 0 ≤ replyBound)
    {rows : List RefreshToken} {child : RefreshToken} (marked : Nat → Prop)
    (hjtis : rows.map RefreshToken.jti = s.jtis) (hnew : child.jti ∉ s.jtis)
    (hchild : child.usedAt = none)
    (hused : ∀ t ∈ rows, ∀ used, t.usedAt = some used →
      s.UsedAt t.jti used ∨ marked t.jti ∧ used = s.now)
    (hmarked : ∀ r ∈ s.replies, ¬ marked r.jti) :
    (s.issue rows child).Inv requestBound replyBound := by
  have hall : (s.issue rows child).jtis = s.jtis ++ [child.jti] := by
    simp [CookieState.issue, jtis, hjtis]
  -- what is used after the step was used before it, or is marked
  have hold {jti : Nat} {used : Timestamp} (hu : (s.issue rows child).UsedAt jti used) :
      s.UsedAt jti used ∨ marked jti ∧ used = s.now := by
    obtain ⟨t, ht, rfl, hu⟩ := hu
    rcases List.mem_append.mp ht with ht | ht
    · exact hused t ht used hu
    · rw [List.mem_singleton.mp ht, hchild] at hu
      cases hu
  exact {
    nodup := by
      rw [hall]
      simpa using List.Nodup.concat hnew h.nodup
    cookie := fun c hc => hall ▸ List.mem_append_left _ (h.cookie c hc)
    posted := fun p hp => hall ▸ List.mem_append_left _ (h.posted p hp)
    replied := by
      intro r hr
      rw [hall]
      rcases List.mem_append.mp hr with hr | hr
      · exact List.mem_append_left _ (h.replied r hr)
      · rw [List.mem_singleton.mp hr]
        exact List.mem_append_right _ (List.mem_singleton.mpr rfl)
    fresh := by
      intro r hr
      rcases List.mem_append.mp hr with hr | hr
      · obtain ⟨hcookie, hposts, hunused⟩ := h.fresh r hr
        refine ⟨hcookie, hposts, fun used hu => ?_⟩
        rcases hold hu with hu | hu
        · exact hunused used hu
        · exact hmarked r hr hu.1
      · rw [List.mem_singleton.mp hr]
        refine ⟨fun hc => hnew (h.cookie _ hc), fun p hp hpj => ?_, ?_⟩
        · have hjti : p.jti = child.jti := hpj
          exact hnew (hjti ▸ h.posted p hp)
        rintro used ⟨t, ht, htjti, hu⟩
        rcases List.mem_append.mp ht with ht | ht
        · have hmem : t.jti ∈ s.jtis := hjtis ▸ List.mem_map_of_mem ht
          exact hnew ((show t.jti = child.jti from htjti) ▸ hmem)
        · rw [List.mem_singleton.mp ht, hchild] at hu
          cases hu
    once := by
      have hnot : child.jti ∉ s.replies.map RefreshReply.jti := by
        intro hmem
        obtain ⟨r, hr, hrj⟩ := List.mem_map.mp hmem
        exact hnew (hrj ▸ h.replied r hr)
      simpa [CookieState.issue] using List.Nodup.concat hnot h.once
    postTimes := h.postTimes
    replyTimes := by
      intro r hr
      rcases List.mem_append.mp hr with hr | hr
      · exact h.replyTimes r hr
      · rw [List.mem_singleton.mp hr]
        exact ⟨Int.le_refl _, Int.le_add_of_nonneg_right hreply⟩
    replaced := by
      intro c hc used hu
      rcases hold hu with hu | ⟨-, rfl⟩
      · obtain ⟨r, hr, hanswered⟩ := h.replaced c hc used hu
        exact ⟨r, List.mem_append_left _ hr, hanswered⟩
      · exact ⟨_, List.mem_append_right _ (List.mem_singleton.mpr rfl), rfl⟩
    soon := by
      intro p hp used hu
      rcases hold hu with hu | ⟨-, rfl⟩
      · exact h.soon p hp used hu
      · exact Int.le_trans (h.postTimes p hp).1 (Int.le_add_of_nonneg_right hreply)
    past := by
      intro jti used hu
      rcases hold hu with hu | ⟨-, rfl⟩
      · exact h.past jti used hu
      · exact Int.le_refl _
    quiet := h.quiet }

/-- Fewer requests under way. -/
theorem Inv.erasePost (h : s.Inv requestBound replyBound) (k : Nat) :
    Inv requestBound replyBound { s with posts := s.posts.eraseIdx k } :=
  { h with
    posted := fun p hp => h.posted p (List.mem_of_mem_eraseIdx hp)
    fresh := fun r hr => ⟨(h.fresh r hr).1,
      fun p hp => (h.fresh r hr).2.1 p (List.mem_of_mem_eraseIdx hp), (h.fresh r hr).2.2⟩
    postTimes := fun p hp => h.postTimes p (List.mem_of_mem_eraseIdx hp)
    soon := fun p hp => h.soon p (List.mem_of_mem_eraseIdx hp) }

/-- **No request is late enough to look like theft.** -/
theorem Inv.rotate (h : s.Inv requestBound replyBound) (hreply : 0 ≤ replyBound)
    (hbound : requestBound + replyBound ≤ concurrentRefreshGrace) {k : Nat} {post : RefreshPost}
    (hpost : s.posts[k]? = some post) {row : RefreshToken} (hrow : row ∈ s.rows)
    (hjti : row.jti = post.jti) (active : Bool) {jti : Nat} (hnew : jti ∉ s.jtis) :
    (CookieState.rotate { s with posts := s.posts.eraseIdx k } row active jti).Inv requestBound
      replyBound := by
  have hmem := List.mem_of_getElem? hpost
  have herased := h.erasePost k
  have hintime : ∀ used, row.usedAt = some used → s.now - used ≤ concurrentRefreshGrace := by
    intro used hused
    have hsoon := h.soon post hmem used ⟨row, hrow, hjti, hused⟩
    have hlate := (h.postTimes post hmem).2
    refine Int.sub_left_le_of_le_add (Int.le_trans hlate ?_)
    calc post.sentAt + requestBound ≤ used + replyBound + requestBound :=
          Int.add_le_add_right hsoon _
      _ = used + (requestBound + replyBound) := by rw [Int.add_assoc, Int.add_comm replyBound]
      _ ≤ used + concurrentRefreshGrace := Int.add_le_add_left hbound _
  unfold CookieState.rotate
  split
  · rename_i message hrefuses
    refine { herased with quiet := ?_ }
    have hmessage : message ≠ reuseMessage := by
      unfold rotateRefreshToken at hrefuses
      split at hrefuses
      · exact absurd rfl ‹row.userId ≠ row.userId›
      · split at hrefuses
        · cases hrefuses
          decide
        · split at hrefuses
          · cases hrefuses
          · split at hrefuses <;> cases hrefuses
    simpa [hmessage.symm] using h.quiet
  · rename_i family message hrevokes
    refine herased.revoked family ?_
    have hmessage : message ≠ reuseMessage := by
      unfold rotateRefreshToken at hrevokes
      split at hrevokes
      · cases hrevokes
      · split at hrevokes
        · cases hrevokes
        · split at hrevokes
          · rename_i hreuse
            obtain ⟨used, hused, hlate⟩ := (Option.any_eq_true _ _).mp hreuse
            have hlate : concurrentRefreshGrace < s.now - used := by simpa using hlate
            exact absurd (hintime used hused) (Int.not_le.mpr hlate)
          · split at hrevokes <;> cases hrevokes
            decide
    simpa [hmessage.symm] using h.quiet
  · rename_i row' child hissues
    obtain ⟨rfl, rfl, -⟩ := TokenState.rotateRefreshToken_eq_issues hissues
    refine herased.issue hreply (· = row.jti) ?_ hnew rfl ?_ ?_
    · simp only [jtis, List.map_map]
      refine List.map_congr_left fun t _ => ?_
      rw [Function.comp_apply]
      split
      · rename_i hsame
        exact hsame.symm
      · rfl
    · intro t ht used hu
      obtain ⟨t', ht', rfl⟩ := List.mem_map.mp ht
      split at hu
      · rename_i hsame
        rw [if_pos hsame]
        cases hused : row.usedAt with
        | none =>
          rw [hused] at hu
          exact .inr ⟨rfl, (Option.some.inj hu).symm⟩
        | some first =>
          rw [hused] at hu
          exact .inl ⟨row, hrow, rfl, hused.trans hu⟩
      · rename_i hother
        rw [if_neg hother]
        exact .inl ⟨t', ht', rfl, hu⟩
    · intro r hr hsame
      exact (h.fresh r hr).2.1 post hmem (hjti.symm.trans hsame.symm)

theorem Inv.receive (h : s.Inv requestBound replyBound) {k : Nat} {reply : RefreshReply}
    (hk : s.replies[k]? = some reply) :
    Inv requestBound replyBound
      { s with cookie := some reply.jti, replies := s.replies.eraseIdx k } := by
  obtain ⟨hlt, rfl⟩ := List.getElem?_eq_some_iff.mp hk
  have hmem : s.replies[k] ∈ s.replies := List.getElem_mem hlt
  -- the answers left are others than the one received
  have hparts := ((List.getElem_cons_eraseIdx_perm hlt).map RefreshReply.jti).nodup_iff.mpr h.once
  obtain ⟨hout, hnodup⟩ := List.nodup_cons.mp hparts
  exact { h with
    cookie := by
      intro c hc
      cases hc
      exact h.replied _ hmem
    replied := fun r hr => h.replied r (List.mem_of_mem_eraseIdx hr)
    fresh := by
      intro r hr
      refine ⟨fun hc => ?_, (h.fresh r (List.mem_of_mem_eraseIdx hr)).2⟩
      have hsame : s.replies[k].jti = r.jti := Option.some.inj hc
      exact hout (hsame ▸ List.mem_map_of_mem hr)
    once := hnodup
    replyTimes := fun r hr => h.replyTimes r (List.mem_of_mem_eraseIdx hr)
    replaced := by
      intro c hc used hu
      cases hc
      exact absurd hu ((h.fresh _ hmem).2.2 used) }

theorem Inv.refresh (h : s.Inv requestBound replyBound) (hrequest : 0 ≤ requestBound)
    {c : Nat} (hc : s.cookie = some c) :
    Inv requestBound replyBound
      { s with posts := s.posts ++ [{ jti := c, sentAt := s.now }] } :=
  { h with
    posted := by
      intro p hp
      rcases List.mem_append.mp hp with hp | hp
      · exact h.posted p hp
      · rw [List.mem_singleton.mp hp]
        exact h.cookie c hc
    fresh := by
      intro r hr
      obtain ⟨hcookie, hposts, hunused⟩ := h.fresh r hr
      refine ⟨hcookie, fun p hp => ?_, hunused⟩
      rcases List.mem_append.mp hp with hp | hp
      · exact hposts p hp
      · rw [List.mem_singleton.mp hp]
        rintro rfl
        exact hcookie hc
    postTimes := by
      intro p hp
      rcases List.mem_append.mp hp with hp | hp
      · exact h.postTimes p hp
      · rw [List.mem_singleton.mp hp]
        exact ⟨Int.le_refl _, Int.le_add_of_nonneg_right hrequest⟩
    soon := by
      intro p hp used hu
      rcases List.mem_append.mp hp with hp | hp
      · exact h.soon p hp used hu
      · rw [List.mem_singleton.mp hp] at hu ⊢
        -- a used cookie is about to be replaced
        obtain ⟨r, hr, rfl⟩ := h.replaced c hc used hu
        exact (h.replyTimes r hr).2 }

theorem Inv.time (h : s.Inv requestBound replyBound) {now : Timestamp} (hnow : s.now ≤ now)
    (htime : s.onTime requestBound replyBound now = true) :
    Inv requestBound replyBound { s with now } := by
  simp only [onTime, Bool.and_eq_true, List.all_eq_true, decide_eq_true_eq] at htime
  exact { h with
    postTimes := fun p hp => ⟨Int.le_trans (h.postTimes p hp).1 hnow, htime.1 p hp⟩
    replyTimes := fun r hr => ⟨Int.le_trans (h.replyTimes r hr).1 hnow, htime.2 r hr⟩
    past := fun jti used hu => Int.le_trans (h.past jti used hu) hnow }

theorem Inv.step {e : CookieEvent} (h : s.Inv requestBound replyBound)
    (hrequest : 0 ≤ requestBound) (hreply : 0 ≤ replyBound)
    (hbound : requestBound + replyBound ≤ concurrentRefreshGrace)
    (hs : s.step requestBound replyBound e = some s') : s'.Inv requestBound replyBound := by
  cases e with
  | time now =>
    simp only [CookieState.step, Bool.and_eq_true, decide_eq_true_eq] at hs
    split at hs
    · rename_i hnow
      cases hs
      exact h.time hnow.1 hnow.2
    · cases hs
  | refresh =>
    obtain ⟨c, hc, rfl⟩ := Option.map_eq_some_iff.mp hs
    exact h.refresh hrequest hc
  | rotate k active jti =>
    simp only [CookieState.step] at hs
    split at hs
    · cases hs
    · rename_i hnew
      split at hs
      · cases hs
      · rename_i post hpost
        obtain ⟨row, hrow, rfl⟩ := Option.map_eq_some_iff.mp hs
        have hjti : row.jti = post.jti := by simpa using List.find?_some hrow
        exact h.rotate hreply hbound hpost (List.mem_of_find?_eq_some hrow) hjti active hnew
  | receive k =>
    obtain ⟨reply, hk, rfl⟩ := Option.map_eq_some_iff.mp hs
    exact h.receive hk
  | login user family jti =>
    simp only [CookieState.step] at hs
    split at hs
    · cases hs
    · rename_i hnew
      cases hs
      exact h.issue hreply (fun _ => False) rfl hnew rfl
        (fun t ht used hu => .inl ⟨t, ht, rfl, hu⟩) fun _ _ => id
  | revoke family =>
    cases hs
    exact h.revoked family h.quiet
  | forgetCookie =>
    cases hs
    exact { h with
      cookie := fun _ hc => nomatch hc
      fresh := fun r hr => ⟨nofun, (h.fresh r hr).2⟩
      replaced := fun _ hc => nomatch hc }

/-! ## Runs -/

theorem inv_of_reachable (hrequest : 0 ≤ requestBound) (hreply : 0 ≤ replyBound)
    (hbound : requestBound + replyBound ≤ concurrentRefreshGrace)
    (h : (refreshCookie requestBound replyBound).Reachable s) :
    s.Inv requestBound replyBound := by
  refine h.invariant ?_ fun _ _ _ _ hinv _ hs => hinv.step hrequest hreply hbound hs
  rintro s ⟨hnodup, hpast, hcookie, hposts, hreplies, herrors⟩
  exact {
    nodup := hnodup
    cookie := by simp [hcookie]
    posted := by simp [hposts]
    replied := by simp [hreplies]
    fresh := by simp [hreplies]
    once := by simp [hreplies]
    postTimes := by simp [hposts]
    replyTimes := by simp [hreplies]
    replaced := by simp [hcookie]
    soon := by simp [hposts]
    past := by
      rintro jti used ⟨t, ht, -, hused⟩
      exact hpast t ht used hused
    quiet := by simp [herrors] }

end CookieState

end InfraOps
