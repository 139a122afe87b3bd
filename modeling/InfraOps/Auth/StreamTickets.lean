import InfraOps.Auth.Permissions
import InfraOps.Models.Jobs
import InfraOps.Support.Machine

/-!
# Stream tickets

The tickets for which a browser exchanges its bearer token before it opens an event stream.
Redis stores them under a hash of the ticket and takes them out atomically; whoever presents
a ticket, how often and for which job, is left open, and so is what administrators do to the
accounts in the meantime. The history of issues and openings is not stored anywhere.
-/

namespace InfraOps

/-- `TICKET_TTL_SECONDS`, in microseconds. -/
def ticketTtl : Timestamp := 30000000

def maxTicketLength : Nat := 128

structure Account where
  active : Bool
  roles : List String

/-- `get_active_user` and the permission that both endpoints ask for. -/
def Account.readsJobs (a : Account) : Bool := a.active && rolesGrant a.roles .jobsRead

structure TicketIssue where
  ticket : String
  userId : String
  jobId : JobId
  account : Account
  time : Timestamp

/-- What Redis holds; `issue` is the number of the issue. -/
structure StoredTicket where
  key : String
  userId : String
  jobId : JobId
  expires : Timestamp
  issue : Nat

/-- A request whose ticket was taken out of the store. -/
structure Redemption where
  ticket : String
  userId : String
  jobId : JobId
  issue : Nat
  time : Timestamp

structure StreamOpening extends Redemption where
  account : Account

structure TicketState where
  now : Timestamp
  accounts : String → Option Account
  store : List StoredTicket := []
  issues : List TicketIssue := []
  redeemed : List Redemption := []
  opened : List StreamOpening := []

inductive TicketEvent
  | tick (now : Timestamp)
  | account (userId : String) (account : Option Account)
  /-- `secrets.token_urlsafe` has given the ticket. -/
  | issue (userId ticket : String) (jobId : JobId)
  | present (ticket : String) (jobId : JobId)
  /-- The `i`-th of the requests that have redeemed a ticket looks its user up. -/
  | enter (i : Nat)

namespace TicketState

-- `_key`, and whether a job exists
variable (key : String → String) (exists? : JobId → Bool) (s : TicketState)

/-- `SET … EX`: an older ticket of the same key is replaced. -/
def set (entry : StoredTicket) : List StoredTicket :=
  entry :: s.store.filter fun e => e.key ≠ entry.key

def issueTicket (userId ticket : String) (jobId : JobId) (account : Account) : TicketState :=
  { s with
    store := s.set {
      key := key ticket, userId, jobId, expires := s.now + ticketTtl, issue := s.issues.length }
    issues := s.issues ++ [{ ticket, userId, jobId, account, time := s.now }] }

def live (k : String) (e : StoredTicket) : Bool := e.key = k && s.now < e.expires

/-- `consume`: `GETDEL`, and then the job is compared. -/
def consume (ticket : String) (jobId : JobId) : TicketState :=
  if ticket = "" || maxTicketLength < ticket.length then s
  else
    match s.store.find? (s.live (key ticket)) with
    | none => s
    | some e =>
      let s' := { s with store := s.store.filter fun x => x.key ≠ key ticket }
      if e.jobId ≠ jobId then s'
      else { s' with
        redeemed := s.redeemed ++
          [{ ticket, userId := e.userId, jobId := e.jobId, issue := e.issue, time := s.now }] }

/-- `_user_from_ticket` and `_get_job` for a redeemed ticket. -/
def enter (i : Nat) (r : Redemption) : TicketState :=
  let s' := { s with redeemed := s.redeemed.eraseIdx i }
  match s.accounts r.userId with
  | none => s'
  | some account =>
    if account.readsJobs && exists? r.jobId then
      { s' with opened := s.opened ++ [{ r with account }] }
    else s'

def step : TicketEvent → Option TicketState
  | .tick now => if s.now ≤ now then some { s with now } else none
  | .account userId account =>
    some { s with accounts := Function.update s.accounts userId account }
  | .issue userId ticket jobId =>
    match s.accounts userId with
    | none => none
    | some account =>
      if account.readsJobs && exists? jobId then
        some (s.issueTicket key userId ticket jobId account)
      else none
  | .present ticket jobId => some (s.consume key ticket jobId)
  | .enter i => s.redeemed[i]?.map (s.enter exists? i)

/-- The numbers of the issues whose tickets are still stored, redeemed or used. -/
def held : List Nat :=
  s.store.map StoredTicket.issue ++
    (s.redeemed.map Redemption.issue ++ s.opened.map fun o => o.issue)

end TicketState

def streamTickets (key : String → String) (exists? : JobId → Bool) :
    Machine TicketState TicketEvent where
  init s := s.store = [] ∧ s.issues = [] ∧ s.redeemed = [] ∧ s.opened = []
  step s := s.step key exists?

/-! ## The invariant -/

/-- A stored ticket is the one of its issue. -/
structure StoredTicket.Issued (key : String → String) (issues : List TicketIssue)
    (e : StoredTicket) (t : TicketIssue) : Prop where
  issue : issues[e.issue]? = some t
  key : e.key = key t.ticket
  userId : e.userId = t.userId
  jobId : e.jobId = t.jobId
  expires : e.expires = t.time + ticketTtl

/-- A redeemed ticket is the one of its issue, within its time. -/
structure Redemption.Issued (key : String → String) (issues : List TicketIssue)
    (r : Redemption) (t : TicketIssue) : Prop where
  issue : issues[r.issue]? = some t
  key : key r.ticket = key t.ticket
  userId : r.userId = t.userId
  jobId : r.jobId = t.jobId
  since : t.time ≤ r.time
  inTime : r.time < t.time + ticketTtl

variable {key : String → String} {exists? : JobId → Bool} {s s' : TicketState}

theorem getElem?_append_some {α : Type} {l : List α} {n : Nat} {a : α} (h : l[n]? = some a)
    (l' : List α) : (l ++ l')[n]? = some a := by
  rw [List.getElem?_append_left (List.getElem?_eq_some_iff.mp h).1]
  exact h

namespace TicketState

variable (key s) in
/-- Every ticket is in one place, and is the one of its issue. -/
structure Inv : Prop where
  nodup : s.held.Nodup
  since : ∀ t ∈ s.issues, t.time ≤ s.now
  store : ∀ e ∈ s.store, ∃ t, e.Issued key s.issues t
  redeemed : ∀ r ∈ s.redeemed, ∃ t, r.Issued key s.issues t
  opened : ∀ o ∈ s.opened, ∃ t, o.toRedemption.Issued key s.issues t
  admitted : ∀ o ∈ s.opened, o.account.readsJobs = true

theorem Inv.lt_of_mem_held (h : s.Inv key) {n : Nat} (hn : n ∈ s.held) :
    n < s.issues.length := by
  simp only [held, List.mem_append, List.mem_map] at hn
  obtain ⟨e, he, rfl⟩ | ⟨r, hr, rfl⟩ | ⟨o, ho, rfl⟩ := hn
  · obtain ⟨t, ht⟩ := h.store e he
    exact (List.getElem?_eq_some_iff.mp ht.issue).1
  · obtain ⟨t, ht⟩ := h.redeemed r hr
    exact (List.getElem?_eq_some_iff.mp ht.issue).1
  · obtain ⟨t, ht⟩ := h.opened o ho
    exact (List.getElem?_eq_some_iff.mp ht.issue).1

theorem Inv.tick (h : s.Inv key) {now : Timestamp} (hnow : s.now ≤ now) :
    Inv key { s with now } :=
  { h with since := fun t ht => (h.since t ht).trans hnow }

theorem Inv.accounts (h : s.Inv key) (accounts : String → Option Account) :
    Inv key { s with accounts } :=
  { h with }

theorem Inv.issueTicket (h : s.Inv key) (userId ticket : String) (jobId : JobId)
    (account : Account) : (s.issueTicket key userId ticket jobId account).Inv key where
  nodup := by
    have hsub : List.Sublist
        ((s.store.filter fun e => e.key ≠ key ticket).map StoredTicket.issue ++
          (s.redeemed.map Redemption.issue ++ s.opened.map fun o => o.issue)) s.held :=
      (List.filter_sublist.map _).append_right _
    refine List.nodup_cons.mpr ⟨fun hmem => ?_, h.nodup.sublist hsub⟩
    exact Nat.lt_irrefl _ (h.lt_of_mem_held (hsub.subset hmem))
  since := by
    intro t ht
    rcases List.mem_append.mp ht with ht | ht
    · exact h.since t ht
    · rw [List.mem_singleton.mp ht]
      exact Int.le_refl _
  store := by
    intro e he
    rcases List.mem_cons.mp he with rfl | he
    · exact ⟨_, List.getElem?_concat_length, rfl, rfl, rfl, rfl⟩
    · obtain ⟨t, ht⟩ := h.store e (List.mem_filter.mp he).1
      exact ⟨t, { ht with issue := getElem?_append_some ht.issue _ }⟩
  redeemed := by
    intro r hr
    obtain ⟨t, ht⟩ := h.redeemed r hr
    exact ⟨t, { ht with issue := getElem?_append_some ht.issue _ }⟩
  opened := by
    intro o ho
    obtain ⟨t, ht⟩ := h.opened o ho
    exact ⟨t, { ht with issue := getElem?_append_some ht.issue _ }⟩
  admitted := h.admitted

/-- Tickets that leave the store, and are not redeemed, are gone. -/
theorem Inv.forgets (h : s.Inv key) (keep : StoredTicket → Bool) :
    Inv key { s with store := s.store.filter keep } :=
  { h with
    nodup := h.nodup.sublist ((List.filter_sublist.map _).append_right _)
    store := fun e he => h.store e (List.mem_filter.mp he).1 }

/-- `GETDEL` moves the ticket from the store to the request. -/
theorem Inv.redeems (h : s.Inv key) {ticket : String} {e : StoredTicket}
    (he : s.store.find? (s.live (key ticket)) = some e) :
    Inv key { s with
      store := s.store.filter fun x => x.key ≠ key ticket
      redeemed := s.redeemed ++
        [{ ticket, userId := e.userId, jobId := e.jobId, issue := e.issue, time := s.now }] } := by
  have hmem := List.mem_of_find?_eq_some he
  have hlive := List.find?_some he
  simp only [live, Bool.and_eq_true, decide_eq_true_eq] at hlive
  obtain ⟨t, ht⟩ := h.store e hmem
  exact {
    nodup := by
      -- what stays in the store and what leaves it are the store, and `e` leaves it
      have hparts := (List.filter_append_perm (fun x => decide (x.key ≠ key ticket)) s.store)
      have hout : List.Sublist [e] (s.store.filter fun x => !decide (x.key ≠ key ticket)) :=
        List.singleton_sublist.mpr (List.mem_filter.mpr ⟨hmem, by simp [hlive.1]⟩)
      refine List.nodup_iff_count_le_one.mpr fun n => ?_
      have hn := List.nodup_iff_count_le_one.mp h.nodup n
      have hcount := (hparts.map StoredTicket.issue).count_eq n
      have hone := (hout.map StoredTicket.issue).count_le n
      simp only [held, List.map_append, List.count_append, List.map_cons, List.map_nil] at *
      omega
    since := h.since
    store := fun x hx => h.store x (List.mem_filter.mp hx).1
    redeemed := by
      intro r hr
      rcases List.mem_append.mp hr with hr | hr
      · exact h.redeemed r hr
      · rw [List.mem_singleton.mp hr]
        refine ⟨t, ht.issue, ?_, ht.userId, ht.jobId, h.since t (List.mem_of_getElem? ht.issue), ?_⟩
        · exact hlive.1.symm.trans ht.key
        · exact ht.expires ▸ hlive.2
    opened := h.opened
    admitted := h.admitted }

theorem Inv.consume (h : s.Inv key) (ticket : String) (jobId : JobId) :
    (s.consume key ticket jobId).Inv key := by
  unfold TicketState.consume
  split
  · exact h
  · split
    · exact h
    · rename_i e he
      dsimp only
      split
      · exact h.forgets _
      · exact h.redeems he

theorem Inv.enter (h : s.Inv key) {i : Nat} {r : Redemption} (hr : s.redeemed[i]? = some r) :
    (s.enter exists? i r).Inv key := by
  obtain ⟨hi, rfl⟩ := List.getElem?_eq_some_iff.mp hr
  have hmem : s.redeemed[i] ∈ s.redeemed := List.getElem_mem hi
  have hgone : Inv key { s with redeemed := s.redeemed.eraseIdx i } :=
    { h with
      nodup := h.nodup.sublist
        ((((List.eraseIdx_sublist _ i).map _).append_right _).append_left _)
      redeemed := fun x hx => h.redeemed x (List.mem_of_mem_eraseIdx hx) }
  unfold TicketState.enter
  dsimp only
  split
  · exact hgone
  · rename_i account _
    split
    · rename_i hreads
      simp only [Bool.and_eq_true] at hreads
      exact {
        nodup := by
          have hparts := List.getElem_cons_eraseIdx_perm hi
          refine List.nodup_iff_count_le_one.mpr fun n => ?_
          have hn := List.nodup_iff_count_le_one.mp h.nodup n
          have hcount := (hparts.map Redemption.issue).count_eq n
          simp only [held, List.map_append, List.count_append, List.map_cons, List.map_nil,
            List.count_cons, List.count_nil] at *
          omega
        since := h.since
        store := h.store
        redeemed := hgone.redeemed
        opened := by
          intro o ho
          rcases List.mem_append.mp ho with ho | ho
          · exact h.opened o ho
          · rw [List.mem_singleton.mp ho]
            exact h.redeemed _ hmem
        admitted := by
          intro o ho
          rcases List.mem_append.mp ho with ho | ho
          · exact h.admitted o ho
          · rw [List.mem_singleton.mp ho]
            exact hreads.1 }
    · exact hgone

theorem Inv.step {e : TicketEvent} (h : s.Inv key) (hs : s.step key exists? e = some s') :
    s'.Inv key := by
  cases e with
  | tick now =>
    simp only [TicketState.step] at hs
    split at hs
    · rename_i hnow
      cases hs
      exact h.tick hnow
    · cases hs
  | account userId account =>
    cases hs
    exact h.accounts _
  | issue userId ticket jobId =>
    simp only [TicketState.step] at hs
    split at hs
    · cases hs
    · split at hs
      · cases hs
        exact h.issueTicket userId ticket jobId _
      · cases hs
  | present ticket jobId =>
    cases hs
    exact h.consume ticket jobId
  | enter i =>
    obtain ⟨r, hr, rfl⟩ := Option.map_eq_some_iff.mp hs
    exact h.enter hr

theorem inv_of_reachable (h : (streamTickets key exists?).Reachable s) : s.Inv key := by
  refine h.invariant (fun s hs => ?_) fun _ _ _ _ hi _ hs => hi.step hs
  obtain ⟨hstore, hissues, hredeemed, hopened⟩ := hs
  exact {
    nodup := by simp [held, hstore, hredeemed, hopened]
    since := by simp [hissues]
    store := by simp [hstore]
    redeemed := by simp [hredeemed]
    opened := by simp [hopened]
    admitted := by simp [hopened] }

/-- **One stream for one ticket.** Over every interleaving of issues, presentations of any
strings for any jobs, changes of accounts and look-ups, the streams that were opened belong
to pairwise different issues: each redeemed the ticket of its issue for the user and the job
of that issue within thirty seconds, and was admitted as an active user who reads jobs. -/
theorem one_stream_per_ticket (h : (streamTickets key exists?).Reachable s) :
    (s.opened.map fun o => o.issue).Nodup ∧
      ∀ o ∈ s.opened, o.account.readsJobs = true ∧
        ∃ t, s.issues[o.issue]? = some t ∧ key o.ticket = key t.ticket ∧
          o.userId = t.userId ∧ o.jobId = t.jobId ∧
          t.time ≤ o.time ∧ o.time < t.time + ticketTtl := by
  have hinv := inv_of_reachable h
  refine ⟨hinv.nodup.of_append_right.of_append_right, fun o ho => ?_⟩
  obtain ⟨t, ht⟩ := hinv.opened o ho
  exact ⟨hinv.admitted o ho, t, ht.issue, ht.key, ht.userId, ht.jobId, ht.since, ht.inTime⟩

/-- A viewer's ticket is presented twice, and its stream opened. -/
def presentedTwice : List TicketEvent :=
  [.issue "u1" "ticket" "j1", .tick 1000000, .present "ticket" "j1", .present "ticket" "j1",
    .enter 0]

def oneViewer : TicketState where
  now := 0
  accounts := fun userId => if userId = "u1" then some ⟨true, ["viewer"]⟩ else none

theorem one_stream_per_ticket_replay :
    ∃ s, (streamTickets id fun _ => true).Reachable s ∧ s.opened.length = 1 ∧
      (s.opened.map fun o => o.issue).Nodup ∧
        ∀ o ∈ s.opened, o.account.readsJobs = true ∧
          ∃ t, s.issues[o.issue]? = some t ∧ id o.ticket = id t.ticket ∧
            o.userId = t.userId ∧ o.jobId = t.jobId ∧
            t.time ≤ o.time ∧ o.time < t.time + ticketTtl := by
  obtain ⟨s, hs, hp⟩ := Machine.exists_reachable_of_run (m := streamTickets id fun _ => true)
    (t := presentedTwice) (p := fun s => s.opened.length = 1) (s := oneViewer)
    ⟨rfl, rfl, rfl, rfl⟩ (by decide)
  exact ⟨s, hs, by simpa using hp, one_stream_per_ticket hs⟩

end TicketState

end InfraOps
