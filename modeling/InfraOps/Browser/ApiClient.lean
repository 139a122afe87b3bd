import InfraOps.Support.Machine
import Mathlib.Data.List.Basic

/-!
# The API client of a tab

`request` and `attemptRefresh` of `api.ts`: a call that is refused with 401 waits for a
refresh of the access token, which all such calls share, and is sent once more if the refresh
succeeds. What the server answers, when answers arrive, and when the promises of a settled
refresh resume their calls is left open, and so is who else sets the token (a sign-in, a
sign-out).
-/

namespace InfraOps

inductive ApiAnswer
  | status (code : Nat)
  /-- `fetch` rejects. -/
  | unreachable
  deriving DecidableEq

inductive CallPhase
  /-- The latest request is not answered. -/
  | sent
  /-- The call awaits the refresh of this number. -/
  | waiting (refresh : Nat)
  | ended
  deriving DecidableEq

/-- A call of `request`: the tokens it was sent with, the answers, and the refresh after which
it was sent again. -/
structure ApiCall where
  retryOn401 : Bool
  sends : List (Option String)
  answers : List ApiAnswer := []
  resentAfter : Option Nat := none
  phase : CallPhase := .sent
  deriving DecidableEq

/-- The variables of the module, and the requests under way; refreshes are numbered. -/
structure ApiTab where
  accessToken : Option String := none
  refreshInFlight : Option Nat := none
  posts : List Nat := []
  started : Nat := 0
  settled : Nat → Option Bool := fun _ => none
  calls : List ApiCall := []

inductive ApiEvent
  | setAccessToken (token : Option String)
  | request (retryOn401 : Bool)
  | answered (i : Nat) (answer : ApiAnswer)
  /-- The refresh ends: with a token, or not. -/
  | refreshed (refresh : Nat) (token : Option String)
  | resumed (i : Nat)

namespace ApiTab

variable (s : ApiTab)

/-- `attemptRefresh`: the refresh in flight, or a new one. -/
def attemptRefresh : Nat × ApiTab :=
  match s.refreshInFlight with
  | some refresh => (refresh, s)
  | none =>
    (s.started, { s with
      refreshInFlight := some s.started
      posts := s.posts ++ [s.started]
      started := s.started + 1 })

def setCall (i : Nat) (call : ApiCall) : ApiTab := { s with calls := s.calls.set i call }

def answer (i : Nat) (call : ApiCall) (answer : ApiAnswer) : ApiTab :=
  let answers := call.answers ++ [answer]
  if answer = .status 401 ∧ call.retryOn401 = true then
    let (refresh, s) := s.attemptRefresh
    s.setCall i { call with answers, phase := .waiting refresh }
  else s.setCall i { call with answers, phase := .ended }

/-- The promise settles, and `refreshInFlight` is cleared. -/
def refreshed (refresh : Nat) (token : Option String) : ApiTab :=
  { s with
    accessToken := token.or s.accessToken
    refreshInFlight := none
    posts := s.posts.erase refresh
    settled := Function.update s.settled refresh (some token.isSome) }

/-- The call goes on after its refresh. -/
def resume (i : Nat) (call : ApiCall) (refresh : Nat) (ok : Bool) : ApiTab :=
  if ok then
    s.setCall i { call with
      retryOn401 := false
      sends := call.sends ++ [s.accessToken]
      resentAfter := some refresh
      phase := .sent }
  else s.setCall i { call with phase := .ended }

def step : ApiEvent → Option ApiTab
  | .setAccessToken token => some { s with accessToken := token }
  | .request retryOn401 =>
    some { s with calls := s.calls ++ [{ retryOn401, sends := [s.accessToken] }] }
  | .answered i answer =>
    match s.calls[i]? with
    | some call => if call.phase = .sent then some (s.answer i call answer) else none
    | none => none
  | .refreshed refresh token => if refresh ∈ s.posts then some (s.refreshed refresh token) else none
  | .resumed i =>
    match s.calls[i]? with
    | some call =>
      match call.phase with
      | .waiting refresh => (s.settled refresh).map (s.resume i call refresh)
      | _ => none
    | none => none

end ApiTab

def apiClient : Machine ApiTab ApiEvent where
  init s := s.refreshInFlight = none ∧ s.posts = [] ∧ s.started = 0 ∧ s.settled = (fun _ => none) ∧
    s.calls = []
  step s := s.step

/-! ## The invariant -/

/-- What holds of a call, given the refresh in flight and those that have settled. -/
structure ApiCall.Ok (refreshInFlight : Option Nat) (settled : Nat → Option Bool)
    (c : ApiCall) : Prop where
  first : c.resentAfter = none → c.sends.length = 1
  again : ∀ r, c.resentAfter = some r →
    c.sends.length = 2 ∧ c.retryOn401 = false ∧ settled r = some true
  sent : c.phase = .sent → c.answers.length + 1 = c.sends.length
  answered : c.phase ≠ .sent → c.answers.length = c.sends.length
  refused : ∀ a ∈ c.answers.dropLast, a = .status 401
  resent : c.phase = .sent → ∀ a ∈ c.answers, a = .status 401
  waiting : ∀ r, c.phase = .waiting r → c.resentAfter = none ∧
    (∀ a ∈ c.answers, a = .status 401) ∧ (refreshInFlight = some r ∨ (settled r).isSome = true)

/-- The last request of a call is answered. -/
theorem ApiCall.Ok.ends {f : Option Nat} {g : Nat → Option Bool} {call : ApiCall}
    (h : call.Ok f g) (hphase : call.phase = .sent) (a : ApiAnswer) :
    ApiCall.Ok f g { call with answers := call.answers ++ [a], phase := .ended } where
  first := h.first
  again := h.again
  sent := fun hp => by cases hp
  answered := fun _ => by simpa using h.sent hphase
  refused := by
    intro x hx
    rw [List.dropLast_concat] at hx
    exact h.resent hphase x hx
  resent := fun hp => by cases hp
  waiting := fun r hr => by cases hr

/-- The first request of a call is refused. -/
theorem ApiCall.Ok.waits {f f' : Option Nat} {g : Nat → Option Bool} {call : ApiCall}
    (h : call.Ok f g) (hphase : call.phase = .sent) (hretry : call.retryOn401 = true)
    {refresh : Nat} (hf : f' = some refresh) :
    ApiCall.Ok f' g
      { call with answers := call.answers ++ [.status 401], phase := .waiting refresh } := by
  have hends := h.ends hphase (.status 401)
  have hall : ∀ a ∈ call.answers ++ [ApiAnswer.status 401], a = .status 401 := by
    intro a ha
    rcases List.mem_append.mp ha with ha | ha
    · exact h.resent hphase a ha
    · exact List.mem_singleton.mp ha
  have hfirst : call.resentAfter = none := by
    cases hr : call.resentAfter with
    | none => rfl
    | some r =>
      have := (h.again r hr).2.1
      rw [hretry] at this
      cases this
  exact {
    first := hends.first
    again := hends.again
    sent := fun hp => by cases hp
    answered := fun _ => hends.answered (fun hp => by cases hp)
    refused := hends.refused
    resent := fun hp => by cases hp
    waiting := by
      intro r hr
      cases hr
      exact ⟨hfirst, hall, .inl hf⟩ }

namespace ApiTab

variable {s s' : ApiTab} {call : ApiCall}

variable (s) in
/-- The request under way is the refresh in flight, and every call is well. -/
structure Inv : Prop where
  posts : s.posts = s.refreshInFlight.toList
  numbered : ∀ r, s.refreshInFlight = some r → r < s.started ∧ s.settled r = none
  fresh : ∀ r, s.started ≤ r → s.settled r = none
  calls : ∀ c ∈ s.calls, c.Ok s.refreshInFlight s.settled

theorem Inv.setCall (h : s.Inv) {c : ApiCall} (hc : c.Ok s.refreshInFlight s.settled) (i : Nat) :
    (s.setCall i c).Inv where
  posts := h.posts
  numbered := h.numbered
  fresh := h.fresh
  calls := by
    intro x hx
    rcases List.mem_or_eq_of_mem_set hx with hx | rfl
    · exact h.calls x hx
    · exact hc

/-- A call that is refused joins the refresh in flight, or starts the only one. -/
theorem Inv.attemptRefresh (h : s.Inv) {refresh : Nat} (hs : s.attemptRefresh = (refresh, s')) :
    s'.Inv ∧ s'.refreshInFlight = some refresh ∧ s'.settled = s.settled := by
  unfold ApiTab.attemptRefresh at hs
  split at hs
  · rename_i r hr
    cases hs
    exact ⟨h, hr, rfl⟩
  · rename_i hnone
    cases hs
    refine ⟨?_, rfl, rfl⟩
    exact {
      posts := by simp [h.posts, hnone]
      numbered := by
        intro r hr
        cases hr
        exact ⟨Nat.lt_succ_self _, h.fresh _ (Nat.le_refl _)⟩
      fresh := fun r hr => h.fresh r (Nat.le_of_succ_le hr)
      calls := by
        intro c hc
        have hok := h.calls c hc
        refine { hok with waiting := fun r hr => ?_ }
        obtain ⟨hnew, hall, hor⟩ := hok.waiting r hr
        rw [hnone] at hor
        exact ⟨hnew, hall, hor.imp_left fun hx => by cases hx⟩ }

theorem Inv.answer (h : s.Inv) (hc : call.Ok s.refreshInFlight s.settled)
    (hphase : call.phase = .sent) (i : Nat) (a : ApiAnswer) : (s.answer i call a).Inv := by
  unfold ApiTab.answer
  dsimp only
  split
  · rename_i hretry
    obtain ⟨rfl, hretry⟩ := hretry
    have hrefresh : s.attemptRefresh = (s.attemptRefresh.1, s.attemptRefresh.2) := rfl
    obtain ⟨hinv, hflight, hsettled⟩ := h.attemptRefresh hrefresh
    refine hinv.setCall ?_ i
    rw [hsettled]
    exact hc.waits hphase hretry hflight
  · exact h.setCall (hc.ends hphase a) i

theorem Inv.refreshed (h : s.Inv) {refresh : Nat} (hr : refresh ∈ s.posts)
    (token : Option String) : (s.refreshed refresh token).Inv := by
  have hflight : s.refreshInFlight = some refresh := by
    rw [h.posts] at hr
    exact Option.mem_toList.mp hr
  obtain ⟨hlt, hunsettled⟩ := h.numbered refresh hflight
  have hsettled (r : Nat) (ok : Bool) (hok : s.settled r = some ok) :
      Function.update s.settled refresh (some token.isSome) r = some ok := by
    rw [Function.update_of_ne]
    · exact hok
    · rintro rfl
      rw [hunsettled] at hok
      cases hok
  exact {
    posts := by simp [ApiTab.refreshed, h.posts, hflight]
    numbered := fun r hr => by cases hr
    fresh := by
      intro r hle
      have hne : r ≠ refresh := by
        rintro rfl
        exact absurd hlt (Nat.not_lt.mpr hle)
      show Function.update s.settled refresh _ r = none
      rw [Function.update_of_ne hne]
      exact h.fresh r hle
    calls := by
      intro c hc
      have hok := h.calls c hc
      refine { hok with
        again := fun r hr => ⟨(hok.again r hr).1, (hok.again r hr).2.1,
          hsettled r true (hok.again r hr).2.2⟩
        waiting := fun r hr => ?_ }
      obtain ⟨hnew, hall, hor⟩ := hok.waiting r hr
      refine ⟨hnew, hall, .inr ?_⟩
      rcases hor with hin | hdone
      · obtain rfl : refresh = r := Option.some.inj (hflight.symm.trans hin)
        show (Function.update s.settled refresh _ refresh).isSome = true
        rw [Function.update_self]
        rfl
      · obtain ⟨ok, hok⟩ := Option.isSome_iff_exists.mp hdone
        show (Function.update s.settled refresh _ r).isSome = true
        rw [hsettled r ok hok]
        rfl }

theorem Inv.resume (h : s.Inv) (hc : call.Ok s.refreshInFlight s.settled) {refresh : Nat}
    (hphase : call.phase = .waiting refresh) {ok : Bool} (hok : s.settled refresh = some ok)
    (i : Nat) : (s.resume i call refresh ok).Inv := by
  obtain ⟨hnew, hall, -⟩ := hc.waiting refresh hphase
  have hlength := hc.answered (by rw [hphase]; simp)
  unfold ApiTab.resume
  split
  · rename_i htrue
    refine h.setCall ?_ i
    exact {
      first := fun hr => by cases hr
      again := by
        intro r hr
        cases hr
        refine ⟨?_, rfl, by rw [hok, htrue]⟩
        rw [List.length_append, hc.first hnew]
        rfl
      sent := fun _ => by rw [List.length_append, hlength]; rfl
      answered := fun hp => absurd rfl hp
      refused := hc.refused
      resent := fun _ => hall
      waiting := fun r hr => by cases hr }
  · refine h.setCall ?_ i
    exact {
      first := hc.first
      again := hc.again
      sent := fun hp => by cases hp
      answered := fun _ => hlength
      refused := hc.refused
      resent := fun hp => by cases hp
      waiting := fun r hr => by cases hr }

theorem Inv.step {e : ApiEvent} (h : s.Inv) (hs : s.step e = some s') : s'.Inv := by
  cases e with
  | setAccessToken token =>
    cases hs
    exact ⟨h.posts, h.numbered, h.fresh, h.calls⟩
  | request retryOn401 =>
    cases hs
    refine ⟨h.posts, h.numbered, h.fresh, fun c hc => ?_⟩
    rcases List.mem_append.mp hc with hc | hc
    · exact h.calls c hc
    · rw [List.mem_singleton.mp hc]
      exact {
        first := fun _ => rfl
        again := fun r hr => by cases hr
        sent := fun _ => rfl
        answered := fun hp => absurd rfl hp
        refused := fun a ha => by cases ha
        resent := fun _ a ha => by cases ha
        waiting := fun r hr => by cases hr }
  | answered i a =>
    simp only [ApiTab.step] at hs
    split at hs
    · rename_i call hcall
      split at hs
      · rename_i hphase
        cases hs
        exact h.answer (h.calls call (List.mem_of_getElem? hcall)) hphase i a
      · cases hs
    · cases hs
  | refreshed refresh token =>
    simp only [ApiTab.step] at hs
    split at hs
    · rename_i hr
      cases hs
      exact h.refreshed hr token
    · cases hs
  | resumed i =>
    simp only [ApiTab.step] at hs
    split at hs
    · rename_i call hcall
      split at hs
      · rename_i refresh hphase
        obtain ⟨ok, hok, rfl⟩ := Option.map_eq_some_iff.mp hs
        exact h.resume (h.calls call (List.mem_of_getElem? hcall)) hphase hok i
      · cases hs
    · cases hs

theorem inv_of_reachable (h : apiClient.Reachable s) : s.Inv := by
  refine h.invariant (fun s hs => ?_) fun _ _ _ _ hi _ hs => hi.step hs
  obtain ⟨hflight, hposts, hstarted, hsettled, hcalls⟩ := hs
  exact {
    posts := by rw [hflight, hposts]; rfl
    numbered := by simp [hflight]
    fresh := by simp [hsettled]
    calls := by simp [hcalls] }

/-- **One refresh for all calls, and one repetition for each.** Over every order in which
calls start, answers arrive, refreshes end and calls resume: at most one refresh is under way;
a call is sent at most twice, the second time only after a refresh that succeeded; every
answer but its last was a 401, so that no request is repeated that the server has taken; and a
call that waits is going to be resumed, as its refresh is under way or has ended. -/
theorem one_refresh_one_repetition (h : apiClient.Reachable s) :
    s.posts.length ≤ 1 ∧ ∀ c ∈ s.calls,
      c.sends.length ≤ 2 ∧
      (c.sends.length = 2 → ∃ r, c.resentAfter = some r ∧ s.settled r = some true) ∧
      (∀ a ∈ c.answers.dropLast, a = .status 401) ∧
      ∀ r, c.phase = .waiting r → r ∈ s.posts ∨ (s.settled r).isSome = true := by
  have hinv := inv_of_reachable h
  refine ⟨?_, fun c hc => ?_⟩
  · rw [hinv.posts]
    cases s.refreshInFlight with
    | none => exact Nat.zero_le _
    | some r => exact Nat.le_refl _
  · have hok := hinv.calls c hc
    refine ⟨?_, ?_, hok.refused, ?_⟩
    · cases hr : c.resentAfter with
      | none => rw [hok.first hr]; omega
      | some r => exact Nat.le_of_eq (hok.again r hr).1
    · intro htwo
      cases hr : c.resentAfter with
      | none =>
        rw [hok.first hr] at htwo
        cases htwo
      | some r => exact ⟨r, rfl, (hok.again r hr).2.2⟩
    · intro r hr
      rw [hinv.posts]
      exact (hok.waiting r hr).2.2.imp_left Option.mem_toList.mpr

/-- Two calls are refused, share a refresh and are sent again. -/
def sharedRefresh : List ApiEvent :=
  [.request true, .request true, .answered 0 (.status 401), .answered 1 (.status 401),
    .refreshed 0 (some "fresh"), .resumed 1, .resumed 0]

theorem one_refresh_one_repetition_replay :
    ∃ s, apiClient.Reachable s ∧ s.started = 1 ∧
      s.calls.map (·.sends) = [[none, some "fresh"], [none, some "fresh"]] ∧
      s.posts.length ≤ 1 ∧ ∀ c ∈ s.calls, c.sends.length ≤ 2 := by
  obtain ⟨s, hs, hp⟩ := Machine.exists_reachable_of_run (m := apiClient) (t := sharedRefresh)
    (p := fun s => s.started = 1 &&
      s.calls.map (·.sends) = [[none, some "fresh"], [none, some "fresh"]])
    (s := {}) ⟨rfl, rfl, rfl, rfl, rfl⟩ (by decide)
  simp only [Bool.and_eq_true, decide_eq_true_eq] at hp
  obtain ⟨hone, hall⟩ := one_refresh_one_repetition hs
  exact ⟨s, hs, hp.1, hp.2, hone, fun c hc => (hall c hc).1⟩

end ApiTab

end InfraOps
