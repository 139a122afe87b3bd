import InfraOps.Support.Window
import Mathlib.Algebra.Order.Group.Int
import Mathlib.Data.List.Induction
import Mathlib.Data.List.TakeWhile
import Mathlib.Logic.Function.Basic

/-!
# The sliding window limiter

`SlidingWindowRateLimiter`, the fallback of the login limits. The deque of a key holds the
allowed moments that may still count; the moments themselves are those of any ordered group.
-/

namespace InfraOps

namespace RateLimit

variable {κ T : Type} [DecidableEq κ]

/-! ## Calls and what becomes of them -/

inductive Call (κ T : Type)
  | allow (now : T) (key : κ)
  | reset (key : κ)

inductive Event (κ T : Type)
  | allowed (now : T) (key : κ)
  | denied (now : T) (key : κ)
  | reset (key : κ)
  deriving DecidableEq

def Call.moment? : Call κ T → Option T
  | .allow now _ => some now
  | .reset _ => none

def Event.moment? : Event κ T → Option T
  | .allowed now _ => some now
  | .denied now _ => some now
  | .reset _ => none

/-- The moments at which the calls of a key were allowed. -/
def allowedTimes (key : κ) : List (Event κ T) → List T
  | [] => []
  | .allowed now other :: events =>
    if other = key then now :: allowedTimes key events else allowedTimes key events
  | .denied _ _ :: events => allowedTimes key events
  | .reset _ :: events => allowedTimes key events

def record (key : κ) (moments : List T) : Event κ T → List T
  | .allowed now other => if other = key then moments ++ [now] else moments
  | .denied _ _ => moments
  | .reset other => if other = key then [] else moments

/-- The allowed moments of a key since its last reset. -/
def sinceReset (key : κ) (events : List (Event κ T)) : List T := events.foldl (record key) []

/-! ## Histories -/

section Histories

variable {key : κ}

theorem allowedTimes_append (events more : List (Event κ T)) :
    allowedTimes key (events ++ more) = allowedTimes key events ++ allowedTimes key more := by
  induction events with
  | nil => rfl
  | cons event events ih =>
    cases event with
    | allowed now other =>
      by_cases hkey : other = key
      · rw [List.cons_append, allowedTimes, allowedTimes, if_pos hkey, if_pos hkey, ih]
        rfl
      · rw [List.cons_append, allowedTimes, allowedTimes, if_neg hkey, if_neg hkey, ih]
    | denied now other => exact ih
    | reset other => exact ih

theorem sinceReset_concat (events : List (Event κ T)) (event : Event κ T) :
    sinceReset key (events ++ [event]) = record key (sinceReset key events) event := by
  rw [sinceReset, List.foldl_append]
  rfl

theorem record_of_ne_reset {event : Event κ T} (h : event ≠ .reset key) (moments : List T) :
    record key moments event = moments ++ allowedTimes key [event] := by
  cases event with
  | allowed now other =>
    by_cases hkey : other = key
    · rw [record, allowedTimes, if_pos hkey, if_pos hkey, allowedTimes]
    · rw [record, allowedTimes, if_neg hkey, if_neg hkey, allowedTimes, List.append_nil]
  | denied now other => rw [record, allowedTimes, allowedTimes, List.append_nil]
  | reset other =>
    have hkey : other ≠ key := fun heq => h (congrArg Event.reset heq)
    rw [record, allowedTimes, if_neg hkey, allowedTimes, List.append_nil]

theorem sinceReset_append {segment : List (Event κ T)} (h : .reset key ∉ segment)
    (events : List (Event κ T)) :
    sinceReset key (events ++ segment) = sinceReset key events ++ allowedTimes key segment := by
  induction segment using List.reverseRecOn with
  | nil => rw [List.append_nil, allowedTimes, List.append_nil]
  | append_singleton segment event ih =>
    obtain ⟨hsegment, hevent⟩ := not_or.mp (List.mem_append.not.mp h)
    have hne : event ≠ .reset key := fun heq => hevent (List.mem_singleton.mpr heq.symm)
    rw [← List.append_assoc, sinceReset_concat, ih hsegment, record_of_ne_reset hne,
      allowedTimes_append, List.append_assoc]

/-- The events since the last reset. -/
theorem exists_sinceReset (key : κ) (events : List (Event κ T)) :
    ∃ front segment, events = front ++ segment ∧ .reset key ∉ segment ∧
      sinceReset key events = allowedTimes key segment := by
  induction events using List.reverseRecOn with
  | nil => exact ⟨[], [], rfl, List.not_mem_nil, rfl⟩
  | append_singleton events event ih =>
    by_cases hevent : event = .reset key
    · subst hevent
      refine ⟨events ++ [.reset key], [], (List.append_nil _).symm, List.not_mem_nil, ?_⟩
      rw [sinceReset_concat, record, if_pos rfl, allowedTimes]
    · obtain ⟨front, segment, rfl, hsegment, hsince⟩ := ih
      refine ⟨front, segment ++ [event], List.append_assoc _ _ _, ?_, ?_⟩
      · intro hmem
        rcases List.mem_append.mp hmem with hmem | hmem
        · exact hsegment hmem
        · exact hevent (List.mem_singleton.mp hmem).symm
      · rw [sinceReset_concat, hsince, record_of_ne_reset hevent, allowedTimes_append]

end Histories

/-! ## The limiter -/

/-- `_hits`, without entry as an empty deque. -/
structure Limiter (κ T : Type) where
  hits : κ → List T

def initial : Limiter κ T := { hits := fun _ => [] }

def Limiter.set (limiter : Limiter κ T) (key : κ) (moments : List T) : Limiter κ T :=
  { hits := Function.update limiter.hits key moments }

@[simp] theorem hits_set_self (limiter : Limiter κ T) (key : κ) (moments : List T) :
    (limiter.set key moments).hits key = moments := Function.update_self _ _ _

theorem hits_set_of_ne (limiter : Limiter κ T) {key other : κ} (h : key ≠ other)
    (moments : List T) : (limiter.set other moments).hits key = limiter.hits key :=
  Function.update_of_ne h _ _

variable [AddCommGroup T] [LinearOrder T] (limit : Nat) (window : T)

def allow (limiter : Limiter κ T) (now : T) (key : κ) : Bool × Limiter κ T :=
  let cutoff := now - window
  let hits := (limiter.hits key).dropWhile fun hit => hit < cutoff
  if limit ≤ hits.length then (false, limiter.set key hits)
  else (true, limiter.set key (hits ++ [now]))

def reset (limiter : Limiter κ T) (key : κ) : Limiter κ T := limiter.set key []

/-! ## Runs -/

def step (limiter : Limiter κ T) : Call κ T → Event κ T × Limiter κ T
  | .allow now key =>
    match allow limit window limiter now key with
    | (true, after) => (.allowed now key, after)
    | (false, after) => (.denied now key, after)
  | .reset key => (.reset key, reset limiter key)

/-- What happens in a run of calls. -/
def trace (limiter : Limiter κ T) : List (Call κ T) → List (Event κ T)
  | [] => []
  | call :: calls =>
    (step limit window limiter call).1 :: trace (step limit window limiter call).2 calls

def after (limiter : Limiter κ T) : List (Call κ T) → Limiter κ T
  | [] => limiter
  | call :: calls => after (step limit window limiter call).2 calls

/-- What the deque of a key is after the events so far: the allowed moments since the last
reset, less some that no window of a later call holds. -/
structure Held (limiter : Limiter κ T) (events : List (Event κ T)) (key : κ) : Prop where
  kept : ∃ dropped, sinceReset key events = dropped ++ limiter.hits key ∧
    ∀ a ∈ dropped, ∃ now ∈ events.filterMap Event.moment?, a < now - window
  sorted : (sinceReset key events).Pairwise (· ≤ ·)
  past : ∀ a ∈ sinceReset key events, a ∈ events.filterMap Event.moment?
  within : WithinLimit limit window (sinceReset key events)

/-! ## One call -/

section OneCall

variable {limit window} {limiter : Limiter κ T} {events : List (Event κ T)} {key : κ} {now : T}

/-- The hits that a call at `now` does not drop. -/
def recent (window : T) (limiter : Limiter κ T) (now : T) (key : κ) : List T :=
  (limiter.hits key).dropWhile fun hit => hit < now - window

theorem step_allow_of_lt (h : (recent window limiter now key).length < limit) :
    step limit window limiter (.allow now key) =
      (.allowed now key, limiter.set key (recent window limiter now key ++ [now])) := by
  have hallow : allow limit window limiter now key =
      (true, limiter.set key (recent window limiter now key ++ [now])) :=
    if_neg (not_le.mpr h)
  rw [step, hallow]

theorem step_allow_of_le (h : limit ≤ (recent window limiter now key).length) :
    step limit window limiter (.allow now key) =
      (.denied now key, limiter.set key (recent window limiter now key)) := by
  have hallow : allow limit window limiter now key =
      (false, limiter.set key (recent window limiter now key)) := if_pos h
  rw [step, hallow]

theorem Held.recent_eq [IsOrderedAddMonoid T] (h : Held limit window limiter events key)
    (hnow : ∀ u ∈ events.filterMap Event.moment?, u ≤ now) :
    recent window limiter now key = inWindow window (now - window) (sinceReset key events) := by
  obtain ⟨dropped, hsplit, hdropped⟩ := h.kept
  have hsorted := h.sorted
  rw [hsplit, List.pairwise_append] at hsorted
  have hold : dropped.filter (fun a => now - window ≤ a) = [] := by
    rw [List.filter_eq_nil_iff]
    intro a ha
    obtain ⟨u, hu, hlt⟩ := hdropped a ha
    have hcutoff : a < now - window := hlt.trans_le (sub_le_sub_right (hnow u hu) window)
    simp only [decide_eq_true_eq, not_le]
    exact hcutoff
  rw [inWindow_end fun a ha => hnow a (h.past a ha), hsplit, List.filter_append, hold,
    List.nil_append, recent, dropWhile_lt_eq_filter hsorted.2.1]

/-- What a call at `now` drops is before its cutoff. -/
theorem Held.kept_recent (h : Held limit window limiter events key) (now : T) :
    ∃ dropped, sinceReset key events = dropped ++ recent window limiter now key ∧
      ∀ a ∈ dropped, ∃ u ∈ events.filterMap Event.moment? ++ [now], a < u - window := by
  obtain ⟨dropped, hsplit, hdropped⟩ := h.kept
  refine ⟨dropped ++ (limiter.hits key).takeWhile fun hit => hit < now - window, ?_, ?_⟩
  · rw [List.append_assoc, recent, List.takeWhile_append_dropWhile, hsplit]
  · intro a ha
    rcases List.mem_append.mp ha with ha | ha
    · obtain ⟨u, hu, hlt⟩ := hdropped a ha
      exact ⟨u, List.mem_append_left _ hu, hlt⟩
    · have hlt := List.mem_takeWhile_imp ha
      exact ⟨now, List.mem_append_right _ (List.mem_singleton.mpr rfl), of_decide_eq_true hlt⟩

/-- A call of another key. -/
theorem Held.other (h : Held limit window limiter events key) {event : Event κ T} {other : κ}
    {moments : List T} (hevent : ∀ past, record key past event = past) (hkey : key ≠ other) :
    Held limit window (limiter.set other moments) (events ++ [event]) key := by
  obtain ⟨dropped, hsplit, hdropped⟩ := h.kept
  have hsince : sinceReset key (events ++ [event]) = sinceReset key events := by
    rw [sinceReset_concat, hevent]
  have hmoments : ∀ a ∈ events.filterMap Event.moment?,
      a ∈ (events ++ [event]).filterMap Event.moment? := by
    intro a ha
    rw [List.filterMap_append]
    exact List.mem_append_left _ ha
  constructor
  · refine ⟨dropped, ?_, fun a ha => ?_⟩
    · rw [hsince, hits_set_of_ne limiter hkey, hsplit]
    · obtain ⟨now, hnow, hlt⟩ := hdropped a ha
      exact ⟨now, hmoments now hnow, hlt⟩
  · rw [hsince]; exact h.sorted
  · rw [hsince]; exact fun a ha => hmoments a (h.past a ha)
  · rw [hsince]; exact h.within

theorem Held.denied (h : Held limit window limiter events key) :
    Held limit window (limiter.set key (recent window limiter now key))
      (events ++ [.denied now key]) key := by
  obtain ⟨dropped, hsplit, hdropped⟩ := h.kept_recent now
  have hsince : sinceReset key (events ++ [.denied now key]) = sinceReset key events := by
    rw [sinceReset_concat, record]
  have hmoments : (events ++ [Event.denied now key]).filterMap Event.moment? =
      events.filterMap Event.moment? ++ [now] := List.filterMap_append
  constructor
  · refine ⟨dropped, ?_, ?_⟩
    · rw [hsince, hits_set_self, hsplit]
    · rw [hmoments]
      exact hdropped
  · rw [hsince]; exact h.sorted
  · rw [hsince, hmoments]
    exact fun a ha => List.mem_append_left _ (h.past a ha)
  · rw [hsince]; exact h.within

theorem Held.allowed [IsOrderedAddMonoid T] (h : Held limit window limiter events key)
    (hnow : ∀ u ∈ events.filterMap Event.moment?, u ≤ now)
    (hroom : (recent window limiter now key).length < limit) :
    Held limit window (limiter.set key (recent window limiter now key ++ [now]))
      (events ++ [.allowed now key]) key := by
  obtain ⟨dropped, hsplit, hdropped⟩ := h.kept_recent now
  have hsince : sinceReset key (events ++ [.allowed now key]) = sinceReset key events ++ [now] := by
    rw [sinceReset_concat, record, if_pos rfl]
  have hmoments : (events ++ [Event.allowed now key]).filterMap Event.moment? =
      events.filterMap Event.moment? ++ [now] := List.filterMap_append
  have hpast : ∀ a ∈ sinceReset key events, a ≤ now := fun a ha => hnow a (h.past a ha)
  constructor
  · refine ⟨dropped, ?_, ?_⟩
    · rw [hsince, hits_set_self, hsplit, List.append_assoc]
    · rw [hmoments]
      exact hdropped
  · rw [hsince, List.pairwise_append]
    refine ⟨h.sorted, List.pairwise_singleton _ _, ?_⟩
    intro a ha b hb
    rw [List.mem_singleton.mp hb]
    exact hpast a ha
  · intro a ha
    rw [hsince] at ha
    rw [hmoments]
    rcases List.mem_append.mp ha with ha | ha
    · exact List.mem_append_left _ (h.past a ha)
    · exact List.mem_append_right _ ha
  · rw [hsince]
    rw [h.recent_eq hnow] at hroom
    exact h.within.append hpast hroom

theorem held_reset (limiter : Limiter κ T) (events : List (Event κ T)) (key : κ) :
    Held limit window (limiter.set key []) (events ++ [.reset key]) key := by
  have hsince : sinceReset key (events ++ [.reset key]) = [] := by
    rw [sinceReset_concat, record, if_pos rfl]
  constructor
  · refine ⟨[], ?_, fun a ha => absurd ha List.not_mem_nil⟩
    rw [hsince, hits_set_self, List.append_nil]
  · rw [hsince]; exact List.Pairwise.nil
  · rw [hsince]; exact fun a ha => absurd ha List.not_mem_nil
  · rw [hsince]; exact WithinLimit.nil limit window

/-- A call keeps what the deques are, whatever its key. -/
theorem held_step [IsOrderedAddMonoid T] (h : ∀ key, Held limit window limiter events key)
    (call : Call κ T)
    (hnow : ∀ now ∈ call.moment?, ∀ u ∈ events.filterMap Event.moment?, u ≤ now) (key : κ) :
    Held limit window (step limit window limiter call).2
      (events ++ [(step limit window limiter call).1]) key := by
  cases call with
  | reset other =>
    by_cases hkey : key = other
    · subst hkey
      exact held_reset limiter events key
    · exact (h key).other (fun past => if_neg (Ne.symm hkey)) hkey
  | allow now other =>
    by_cases hroom : (recent window limiter now other).length < limit
    · rw [step_allow_of_lt hroom]
      by_cases hkey : key = other
      · subst hkey
        exact (h key).allowed (hnow now rfl) hroom
      · exact (h key).other (fun past => if_neg (Ne.symm hkey)) hkey
    · rw [step_allow_of_le (not_lt.mp hroom)]
      by_cases hkey : key = other
      · subst hkey
        exact (h key).denied
      · exact (h key).other (fun past => rfl) hkey

end OneCall

/-! ## Any number of calls -/

section Runs

variable {limit window}

theorem moment?_step (limiter : Limiter κ T) (call : Call κ T) :
    (step limit window limiter call).1.moment? = call.moment? := by
  cases call with
  | reset key => rfl
  | allow now key =>
    by_cases hroom : (recent window limiter now key).length < limit
    · rw [step_allow_of_lt hroom]; rfl
    · rw [step_allow_of_le (not_lt.mp hroom)]; rfl

theorem moments_trace (limiter : Limiter κ T) (calls : List (Call κ T)) :
    (trace limit window limiter calls).filterMap Event.moment? =
      calls.filterMap Call.moment? := by
  induction calls generalizing limiter with
  | nil => rfl
  | cons call calls ih => rw [trace, List.filterMap_cons, List.filterMap_cons, moment?_step, ih]

theorem held_initial (key : κ) : Held limit window (initial : Limiter κ T) [] key where
  kept := ⟨[], rfl, fun _ ha => absurd ha List.not_mem_nil⟩
  sorted := List.Pairwise.nil
  past := fun _ ha => absurd ha List.not_mem_nil
  within := WithinLimit.nil limit window

/-- The run that starts with these events comes from calls of its own. -/
theorem exists_calls_of_trace {limiter : Limiter κ T} {calls : List (Call κ T)}
    {front rest : List (Event κ T)} (h : trace limit window limiter calls = front ++ rest) :
    ∃ earlier later, calls = earlier ++ later ∧ trace limit window limiter earlier = front ∧
      trace limit window (after limit window limiter earlier) later = rest := by
  induction front generalizing limiter calls with
  | nil => exact ⟨[], calls, rfl, rfl, h⟩
  | cons event front ih =>
    cases calls with
    | nil => exact absurd h (List.cons_ne_nil _ _).symm
    | cons call calls =>
      obtain ⟨hevent, hrest⟩ := List.cons.inj h
      obtain ⟨earlier, later, rfl, hearlier, hlater⟩ := ih hrest
      refine ⟨call :: earlier, later, rfl, ?_, hlater⟩
      rw [trace, hevent, hearlier]

/-- A denied call finds the deque full. -/
theorem denied_of_trace {limiter : Limiter κ T} {later : List (Call κ T)}
    {rest : List (Event κ T)} {now : T} {key : κ}
    (h : trace limit window limiter later = .denied now key :: rest) :
    now ∈ later.filterMap Call.moment? ∧ limit ≤ (recent window limiter now key).length := by
  cases later with
  | nil => exact absurd h (List.cons_ne_nil _ _).symm
  | cons call later =>
    have hevent := (List.cons.inj h).1
    cases call with
    | reset other => cases hevent
    | allow moment other =>
      by_cases hroom : (recent window limiter moment other).length < limit
      · rw [step_allow_of_lt hroom] at hevent
        cases hevent
      · rw [step_allow_of_le (not_lt.mp hroom)] at hevent
        obtain ⟨rfl, rfl⟩ := Event.denied.inj hevent
        exact ⟨List.mem_filterMap.mpr ⟨_, List.mem_cons_self, rfl⟩, not_lt.mp hroom⟩

variable [IsOrderedAddMonoid T]

theorem held_run {limiter : Limiter κ T} {events : List (Event κ T)}
    (h : ∀ key, Held limit window limiter events key) (calls : List (Call κ T))
    (hsorted : (events.filterMap Event.moment? ++ calls.filterMap Call.moment?).Pairwise (· ≤ ·))
    (key : κ) :
    Held limit window (after limit window limiter calls)
      (events ++ trace limit window limiter calls) key := by
  induction calls generalizing limiter events with
  | nil =>
    rw [trace, List.append_nil]
    exact h key
  | cons call calls ih =>
    have hnow : ∀ now ∈ call.moment?, ∀ u ∈ events.filterMap Event.moment?, u ≤ now := by
      intro now hcall u hu
      refine (List.pairwise_append.mp hsorted).2.2 u hu now ?_
      exact List.mem_filterMap.mpr ⟨call, List.mem_cons_self, hcall⟩
    have hstep := held_step h call hnow
    rw [trace, List.append_cons]
    refine ih hstep ?_
    have hmoments : (events ++ [(step limit window limiter call).1]).filterMap Event.moment? ++
        calls.filterMap Call.moment? =
          events.filterMap Event.moment? ++ (call :: calls).filterMap Call.moment? := by
      rw [List.filterMap_append, List.append_assoc, List.append_cancel_left_eq,
        List.filterMap_cons, List.filterMap_cons, moment?_step]
      cases call.moment? with
      | none => rfl
      | some now => rfl
    rwa [hmoments]

/-- At any point of a run from the start, what the deques are and that no later call comes
at an earlier moment. -/
theorem held_of_trace {calls : List (Call κ T)} {front rest : List (Event κ T)}
    (hsorted : (calls.filterMap Call.moment?).Pairwise (· ≤ ·))
    (h : trace limit window initial calls = front ++ rest) :
    ∃ limiter later, (∀ key, Held limit window limiter front key) ∧
      trace limit window limiter later = rest ∧
      ∀ now ∈ later.filterMap Call.moment?, ∀ u ∈ front.filterMap Event.moment?, u ≤ now := by
  obtain ⟨earlier, later, rfl, rfl, hlater⟩ := exists_calls_of_trace h
  rw [List.filterMap_append, List.pairwise_append] at hsorted
  refine ⟨after limit window initial earlier, later, ?_, hlater, ?_⟩
  · have hinitial : ∀ key, Held limit window (initial : Limiter κ T) [] key := held_initial
    exact held_run hinitial earlier hsorted.1
  · intro now hnow u hu
    rw [moments_trace] at hu
    exact hsorted.2.2 u hu now hnow

end Runs

/-- Between two resets of a key no closed window holds more than `limit` of its allowed calls,
and a call is denied only if the window ending there holds that many. -/
theorem slidingWindow [IsOrderedAddMonoid T] (calls : List (Call κ T))
    (hsorted : (calls.filterMap Call.moment?).Pairwise (· ≤ ·)) (key : κ) :
    (∀ front segment rest, trace limit window initial calls = front ++ segment ++ rest →
      .reset key ∉ segment →
        ∀ start, (inWindow window start (allowedTimes key segment)).length ≤ limit) ∧
    (∀ front now rest, trace limit window initial calls = front ++ .denied now key :: rest →
      ∃ before segment, front = before ++ segment ∧ .reset key ∉ segment ∧
        (inWindow window (now - window) (allowedTimes key segment)).length = limit) := by
  constructor
  · intro front segment rest htrace hsegment
    obtain ⟨limiter, -, hheld, -⟩ := held_of_trace hsorted htrace
    have hwithin := (hheld key).within
    rw [sinceReset_append hsegment] at hwithin
    exact hwithin.sublist (List.sublist_append_right _ _)
  · intro front now rest htrace
    obtain ⟨limiter, later, hheld, hlater, hmoments⟩ := held_of_trace hsorted htrace
    obtain ⟨hnow, hfull⟩ := denied_of_trace hlater
    rw [(hheld key).recent_eq (hmoments now hnow)] at hfull
    obtain ⟨before, segment, hsplit, hsegment, hsince⟩ := exists_sinceReset key front
    refine ⟨before, segment, hsplit, hsegment, le_antisymm ?_ ?_⟩
    · rw [← hsince]
      exact (hheld key).within _
    · rwa [← hsince]

def loginCalls : List (Call String Int) :=
  [.allow 0 "10.0.0.7", .allow 5 "10.0.0.7", .allow 60 "10.0.0.7", .allow 61 "10.0.0.7"]

def loginEvents : List (Event String Int) :=
  [.allowed 0 "10.0.0.7", .allowed 5 "10.0.0.7", .denied 60 "10.0.0.7", .allowed 61 "10.0.0.7"]

/-- Two logins a minute: at the very end of the minute the third one is still denied. -/
theorem slidingWindow_login :
    trace 2 60 initial loginCalls = loginEvents ∧
      ∀ start, (inWindow 60 start (allowedTimes "10.0.0.7" loginEvents)).length ≤ 2 := by
  have htrace : trace 2 60 initial loginCalls = loginEvents := by decide
  have hwindow := slidingWindow 2 60 loginCalls (by decide) "10.0.0.7"
  refine ⟨htrace, hwindow.1 [] loginEvents [] ?_ (by decide)⟩
  rw [htrace, List.nil_append, List.append_nil]

end RateLimit

end InfraOps
