import Mathlib.Tactic.Common

/-!
# Change feeds

A store that announces its commits on a channel after it has made them, and a reader who
subscribes to the channel, then reads the store in two queries, and then receives the
announcements in order. Commits are numbered; announcements of different writers overtake
each other, and may be lost before the channel takes them.
-/

namespace InfraOps

/-! ## The store -/

/-- The committed values, and the announcements that their writers still have to send;
`announced` are the numbers of those the channel took. -/
structure Feed (V E : Type) where
  past : List V := []
  current : V
  unsent : List (Nat × E) := []
  announced : List Nat := []

namespace Feed

variable {V E : Type} (f : Feed V E)

/-- The number of the latest commit. -/
def version : Nat := f.past.length

def history : List V := f.past ++ [f.current]

def valueAt (n : Nat) : Option V := f.history[n]?

def commit (v : V) (events : List E) : Feed V E :=
  { f with
    past := f.history
    current := v
    unsent := f.unsent ++ events.map fun e => (f.version + 1, e) }

/-- The `i`-th of the unsent announcements leaves its writer. -/
def sent (i : Nat) : Feed V E := { f with unsent := f.unsent.eraseIdx i }

def announce (i : Nat) (a : Nat × E) : Feed V E :=
  { f.sent i with announced := f.announced ++ [a.1] }

/-- Every announcement is of a commit that has been made. -/
structure WellFormed : Prop where
  unsent : ∀ a ∈ f.unsent, a.1 ≤ f.version
  announced : ∀ n ∈ f.announced, n ≤ f.version

@[simp] theorem version_commit (v : V) (events : List E) :
    (f.commit v events).version = f.version + 1 := by
  simp [version, commit, history]

@[simp] theorem version_sent (i : Nat) : (f.sent i).version = f.version := rfl

@[simp] theorem version_announce (i : Nat) (a : Nat × E) :
    (f.announce i a).version = f.version := rfl

@[simp] theorem current_commit (v : V) (events : List E) : (f.commit v events).current = v :=
  rfl

@[simp] theorem announced_commit (v : V) (events : List E) :
    (f.commit v events).announced = f.announced := rfl

@[simp] theorem announced_sent (i : Nat) : (f.sent i).announced = f.announced := rfl

@[simp] theorem mem_announced_announce (i : Nat) (a : Nat × E) (n : Nat) :
    n ∈ (f.announce i a).announced ↔ n ∈ f.announced ∨ n = a.1 := by
  simp [announce]

@[simp] theorem valueAt_sent (i n : Nat) : (f.sent i).valueAt n = f.valueAt n := rfl

@[simp] theorem valueAt_announce (i : Nat) (a : Nat × E) (n : Nat) :
    (f.announce i a).valueAt n = f.valueAt n := rfl

@[simp] theorem valueAt_version : f.valueAt f.version = some f.current := by
  simp [valueAt, version, history]

/-- What `f` has committed, `g` has committed under the same numbers. -/
def ExtendedBy (g : Feed V E) : Prop := ∀ n w, f.valueAt n = some w → g.valueAt n = some w

theorem extendedBy_commit (v : V) (events : List E) : f.ExtendedBy (f.commit v events) := by
  intro n w h
  have hn : n < f.history.length := (List.getElem?_eq_some_iff.mp h).1
  show (f.history ++ [v])[n]? = some w
  rw [List.getElem?_append_left hn]
  exact h

theorem extendedBy_sent (i : Nat) : f.ExtendedBy (f.sent i) := fun _ _ h => h

theorem extendedBy_announce (i : Nat) (a : Nat × E) : f.ExtendedBy (f.announce i a) :=
  fun _ _ h => h

theorem le_version_of_valueAt {n : Nat} {w : V} (h : f.valueAt n = some w) :
    n ≤ f.version := by
  have hn : n < f.history.length := (List.getElem?_eq_some_iff.mp h).1
  rw [history, List.length_append, List.length_singleton] at hn
  exact Nat.lt_succ_iff.mp hn

variable {f}

theorem WellFormed.commit (h : f.WellFormed) (v : V) (events : List E) :
    (f.commit v events).WellFormed where
  unsent := by
    intro a ha
    rw [version_commit]
    rcases List.mem_append.mp ha with ha | ha
    · have := h.unsent a ha
      omega
    · obtain ⟨e, -, rfl⟩ := List.mem_map.mp ha
      exact Nat.le_refl _
  announced := by
    intro n hn
    have := h.announced n hn
    rw [version_commit]
    omega

theorem WellFormed.sent (h : f.WellFormed) (i : Nat) : (f.sent i).WellFormed where
  unsent := fun a ha => h.unsent a (List.mem_of_mem_eraseIdx ha)
  announced := h.announced

theorem WellFormed.announce (h : f.WellFormed) {i : Nat} {a : Nat × E}
    (ha : f.unsent[i]? = some a) : (f.announce i a).WellFormed where
  unsent := (h.sent i).unsent
  announced := by
    intro n hn
    rcases (f.mem_announced_announce i a n).mp hn with hn | rfl
    · exact h.announced n hn
    · exact h.unsent a (List.mem_of_getElem? ha)

end Feed

/-! ## A reader -/

/-- How far a reader has come: subscribed, the first query answered as of a commit, the
answers of both queries on their way, or those answers received. -/
inductive ReadPhase (A B : Type)
  | fresh
  | reading (n : Nat) (first : A)
  | sent (n : Nat) (first : A) (m : Nat) (second : B)
  | shown (n : Nat)

/-- One reader's bridge from the channel. On their way to the reader are, in this order, the
snapshot of a `sent` phase, the announcements of `wire`, and the end if it is `ended`. -/
structure Bridge (A B E : Type) where
  phase : ReadPhase A B := .fresh
  buffer : List (Nat × E) := []
  wire : List (Nat × E) := []
  ended : Bool := false
  received : List Nat := []

namespace ReadPhase

variable {A B : Type}

/-- The commit as of which the first query was answered. -/
def startedAt : ReadPhase A B → Option Nat
  | .fresh => none
  | .reading n _ | .sent n _ _ _ | .shown n => some n

/-- The snapshot has left the bridge. -/
def forwards : ReadPhase A B → Bool
  | .fresh | .reading _ _ => false
  | .sent _ _ _ _ | .shown _ => true

def shows : ReadPhase A B → Bool
  | .shown _ => true
  | _ => false

end ReadPhase

namespace Bridge

variable {A B E V : Type} (b : Bridge A B E)

/-- The channel hands over what it takes while the subscription lasts. -/
def offer (a : Nat × E) : Bridge A B E :=
  if b.ended then b else { b with buffer := b.buffer ++ [a] }

def readFirst (n : Nat) (first : A) : Option (Bridge A B E) :=
  match b.phase with
  | .fresh => some { b with phase := .reading n first }
  | _ => none

def readSecond (m : Nat) (second : B) : Option (Bridge A B E) :=
  match b.phase with
  | .reading n first => some { b with phase := .sent n first m second }
  | _ => none

def forward : Option (Bridge A B E) :=
  match b.buffer with
  | a :: buffer =>
    if b.phase.forwards && !b.ended then some { b with buffer, wire := b.wire ++ [a] } else none
  | [] => none

/-- The bridge ends the subscription; what it has not forwarded is gone. -/
def finish : Option (Bridge A B E) :=
  if b.phase.forwards && !b.ended then some { b with buffer := [], ended := true } else none

def receiveSnapshot : Option ((Nat × A × Nat × B) × Bridge A B E) :=
  match b.phase with
  | .sent n first m second => some ((n, first, m, second), { b with phase := .shown n })
  | _ => none

def receiveUpdate : Option ((Nat × E) × Bridge A B E) :=
  match b.phase, b.wire with
  | .shown _, a :: wire => some (a, { b with wire, received := b.received ++ [a.1] })
  | _, _ => none

def receiveEnd : Bool :=
  match b.phase, b.wire with
  | .shown _, [] => b.ended
  | _, _ => false

/-- An announcement of commit `c` is on its way. -/
def Pending (c : Nat) : Prop := (∃ a ∈ b.buffer, a.1 = c) ∨ ∃ a ∈ b.wire, a.1 = c

/-- **Nothing is lost.** While the subscription lasts, every announced commit is in the
snapshot, on its way, or received; and nothing else is, nor anything before the snapshot. -/
structure Sound (f : Feed V E) : Prop where
  covers : b.ended = false → ∀ n, b.phase.startedAt = some n →
    ∀ c ∈ f.announced, c ≤ n ∨ b.Pending c ∨ c ∈ b.received
  first : b.phase.shows = false → b.received = []
  buffer : ∀ a ∈ b.buffer, a.1 ∈ f.announced
  wire : ∀ a ∈ b.wire, a.1 ∈ f.announced
  received : ∀ c ∈ b.received, c ∈ f.announced

variable {b} {f : Feed V E}

theorem Sound.fresh : ({} : Bridge A B E).Sound f where
  covers := by
    intro _ n hn
    cases hn
  first := fun _ => rfl
  buffer := by
    intro a ha
    cases ha
  wire := by
    intro a ha
    cases ha
  received := by
    intro c hc
    cases hc

/-- A commit announces nothing by itself, nor does a lost announcement. -/
theorem Sound.of_announced {g : Feed V E} (h : b.Sound f) (hg : g.announced = f.announced) :
    b.Sound g where
  covers := by
    rw [hg]
    exact h.covers
  first := h.first
  buffer := by
    rw [hg]
    exact h.buffer
  wire := by
    rw [hg]
    exact h.wire
  received := by
    rw [hg]
    exact h.received

theorem Pending.offer {c : Nat} (h : b.Pending c) (a : Nat × E) : (b.offer a).Pending c := by
  unfold Bridge.offer
  split
  · exact h
  · obtain ⟨x, hx, rfl⟩ | h := h
    · exact .inl ⟨x, List.mem_append_left _ hx, rfl⟩
    · exact .inr h

theorem phase_offer (a : Nat × E) : (b.offer a).phase = b.phase := by
  unfold offer
  split <;> rfl

theorem received_offer (a : Nat × E) : (b.offer a).received = b.received := by
  unfold offer
  split <;> rfl

theorem wire_offer (a : Nat × E) : (b.offer a).wire = b.wire := by
  unfold offer
  split <;> rfl

theorem ended_offer (a : Nat × E) : (b.offer a).ended = b.ended := by
  unfold offer
  split <;> rfl

theorem Sound.offer (h : b.Sound f) (i : Nat) (a : Nat × E) :
    (b.offer a).Sound (f.announce i a) where
  covers := by
    intro hended n hn c hc
    rw [ended_offer] at hended
    rw [phase_offer] at hn
    rw [received_offer]
    rcases (f.mem_announced_announce i a c).mp hc with hc | rfl
    · exact (h.covers hended n hn c hc).imp_right (Or.imp_left fun hp => hp.offer a)
    · have hnew : a ∈ (b.offer a).buffer := by simp [Bridge.offer, hended]
      exact .inr (.inl (.inl ⟨a, hnew, rfl⟩))
  first := by
    rw [phase_offer, received_offer]
    exact h.first
  buffer := by
    intro x hx
    rw [Feed.mem_announced_announce]
    unfold Bridge.offer at hx
    split at hx
    · exact .inl (h.buffer x hx)
    · rcases List.mem_append.mp hx with hx | hx
      · exact .inl (h.buffer x hx)
      · rw [List.mem_singleton.mp hx]
        exact .inr rfl
  wire := by
    intro x hx
    rw [wire_offer] at hx
    exact (f.mem_announced_announce i a _).mpr (.inl (h.wire x hx))
  received := by
    intro c hc
    rw [received_offer] at hc
    exact (f.mem_announced_announce i a c).mpr (.inl (h.received c hc))

/-- The first query sees everything announced so far: announcements follow their commits. -/
theorem Sound.readFirst {b' : Bridge A B E} {first : A} (h : b.Sound f) (hf : f.WellFormed)
    (hb : b.readFirst f.version first = some b') : b'.Sound f := by
  unfold Bridge.readFirst at hb
  split at hb
  · rename_i hphase
    cases hb
    exact {
      covers := by
        intro _ n hn c hc
        obtain rfl : f.version = n := Option.some.inj hn
        exact .inl (hf.announced c hc)
      first := fun _ => h.first (by rw [hphase]; rfl)
      buffer := h.buffer
      wire := h.wire
      received := h.received }
  · cases hb

theorem Sound.readSecond {b' : Bridge A B E} {m : Nat} {second : B} (h : b.Sound f)
    (hb : b.readSecond m second = some b') : b'.Sound f := by
  unfold Bridge.readSecond at hb
  split at hb
  · rename_i n first hphase
    cases hb
    exact {
      covers := by
        intro hended k hk
        exact h.covers hended k (by rw [hphase]; exact hk)
      first := fun _ => h.first (by rw [hphase]; rfl)
      buffer := h.buffer
      wire := h.wire
      received := h.received }
  · cases hb

theorem Sound.forward {b' : Bridge A B E} (h : b.Sound f) (hb : b.forward = some b') :
    b'.Sound f := by
  unfold Bridge.forward at hb
  split at hb
  · rename_i a buffer hbuffer
    split at hb
    · cases hb
      have ha : a ∈ b.buffer := by simp [hbuffer]
      exact {
        covers := by
          intro hended n hn c hc
          refine (h.covers hended n hn c hc).imp_right (Or.imp_left fun hp => ?_)
          obtain ⟨x, hx, rfl⟩ | ⟨x, hx, rfl⟩ := hp
          · rw [hbuffer] at hx
            rcases List.mem_cons.mp hx with rfl | hx
            · exact .inr ⟨x, by simp, rfl⟩
            · exact .inl ⟨x, hx, rfl⟩
          · exact .inr ⟨x, by simp [hx], rfl⟩
        first := h.first
        buffer := fun x hx => h.buffer x (by simp [hbuffer, hx])
        wire := by
          intro x hx
          rcases List.mem_append.mp hx with hx | hx
          · exact h.wire x hx
          · rw [List.mem_singleton.mp hx]
            exact h.buffer a ha
        received := h.received }
    · cases hb
  · cases hb

theorem Sound.finish {b' : Bridge A B E} (h : b.Sound f) (hb : b.finish = some b') :
    b'.Sound f := by
  unfold Bridge.finish at hb
  split at hb
  · cases hb
    exact {
      covers := fun hended => absurd hended (by simp)
      first := h.first
      buffer := fun a ha => absurd ha (by simp)
      wire := h.wire
      received := h.received }
  · cases hb

theorem Sound.receiveSnapshot {b' : Bridge A B E} {answers : Nat × A × Nat × B}
    (h : b.Sound f) (hb : b.receiveSnapshot = some (answers, b')) : b'.Sound f := by
  unfold Bridge.receiveSnapshot at hb
  split at hb
  · rename_i n first m second hphase
    cases hb
    exact {
      covers := by
        intro hended k hk
        exact h.covers hended k (by rw [hphase]; exact hk)
      first := fun _ => h.first (by rw [hphase]; rfl)
      buffer := h.buffer
      wire := h.wire
      received := h.received }
  · cases hb

theorem Sound.receiveUpdate {b' : Bridge A B E} {a : Nat × E} (h : b.Sound f)
    (hb : b.receiveUpdate = some (a, b')) : b'.Sound f := by
  unfold Bridge.receiveUpdate at hb
  split at hb
  · rename_i n x wire hphase hwire
    cases hb
    have ha : a ∈ b.wire := by simp [hwire]
    exact {
      covers := by
        intro hended k hk c hc
        rcases h.covers hended k hk c hc with hle | (hp | ⟨x, hx, rfl⟩) | hr
        · exact .inl hle
        · exact .inr (.inl (.inl hp))
        · rw [hwire] at hx
          rcases List.mem_cons.mp hx with rfl | hx
          · exact .inr (.inr (by simp))
          · exact .inr (.inl (.inr ⟨x, hx, rfl⟩))
        · exact .inr (.inr (by simp [hr]))
      first := fun hs => absurd hs (by simp [hphase, ReadPhase.shows])
      buffer := h.buffer
      wire := fun x hx => h.wire x (by simp [hwire, hx])
      received := by
        intro c hc
        rcases List.mem_append.mp hc with hc | hc
        · exact h.received c hc
        · rw [List.mem_singleton.mp hc]
          exact h.wire a ha }
  · cases hb

end Bridge

end InfraOps
