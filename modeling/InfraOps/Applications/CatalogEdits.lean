import InfraOps.Applications.CatalogGraph
import InfraOps.Support.Machine

/-!
# Edits of the catalog

The requests of `app/api/v1/admin_applications.py`, each one transaction under READ COMMITTED.
An edit reads applications with their dependencies one after the other into its session,
checks the graph that it has read with its own change, and commits the edges it takes away
and adds. A foreign key with `ON DELETE CASCADE` stands on both ends of an edge.

Of an application only what the graph needs is kept; a flush and its commit are one step.
-/

namespace InfraOps

open Relation

/-! ## Requests -/

/-- A request that creates an application or replaces its dependencies. -/
structure Edit where
  app : AppId
  creates : Bool
  name : String
  /-- `unique_ids`, in some order. -/
  dependencyIds : List AppId
  /-- The applications in the session, with the dependencies they had when they were loaded. -/
  view : List AppNode
  /-- The rows of `select(Application)`. -/
  listed : Option (List AppId) := none
  /-- History: another update has committed new edges since the request began. -/
  disturbed : Bool := false

namespace Edit

/-- An update has loaded its row. -/
def ofUpdate (row : AppNode) (deps : List AppId) : Edit where
  app := row.id
  creates := false
  name := row.name
  dependencyIds := deps.dedup
  view := [row]

/-- A creation has inserted its row, which nobody else sees. -/
def ofCreate (id : AppId) (name : String) (deps : List AppId) : Edit where
  app := id
  creates := true
  name := name
  dependencyIds := deps.dedup
  view := [{ id, name, enabled := true, dependencyIds := [] }]

variable (e : Edit)

def viewed : List AppId := e.view.map AppNode.id

/-- An application of the session. -/
def lookup (id : AppId) : AppNode :=
  (e.view.find? fun n => n.id = id).getD { id, name := "", enabled := true, dependencyIds := [] }

theorem id_lookup (id : AppId) : (e.lookup id).id = id := by
  unfold lookup
  cases hfind : e.view.find? fun n => n.id = id with
  | none => rfl
  | some n => simpa using List.find?_some hfind

theorem lookup_mem {e : Edit} {id : AppId} (h : id ∈ e.viewed) : e.lookup id ∈ e.view := by
  unfold lookup
  cases hfind : e.view.find? fun n => n.id = id with
  | none =>
    obtain ⟨n, hn, hid⟩ := List.mem_map.mp h
    exact absurd (List.find?_eq_none.mp hfind n hn) (by simp [hid])
  | some n => exact List.mem_of_find?_eq_some hfind

/-- The dependencies that the application had in the session. -/
def replaced : List AppId := (e.lookup e.app).dependencyIds

/-- The edges that the flush inserts. -/
def added : List AppId := e.dependencyIds.filter fun d => d ∉ e.replaced

/-- The edges that the flush deletes. -/
def removed : List AppId := e.replaced.filter fun d => d ∉ e.dependencyIds

/-- The listed applications, as the session has them. -/
def graph (listed : List AppId) : Catalog where
  nodes := listed.dedup.map e.lookup
  nodup := by
    have hids : AppNode.id ∘ e.lookup = id := funext e.id_lookup
    rw [List.map_map, hids, List.map_id]
    exact List.nodup_dedup _

theorem dependsOn_graph {e : Edit} {listed : List AppId} {a b : AppId} :
    (e.graph listed).DependsOn a b ↔ a ∈ listed ∧ b ∈ (e.lookup a).dependencyIds := by
  rw [Catalog.dependsOn_iff]
  constructor
  · rintro ⟨n, hn, rfl, hb⟩
    obtain ⟨a, ha, rfl⟩ := List.mem_map.mp hn
    rw [id_lookup]
    exact ⟨List.mem_dedup.mp ha, hb⟩
  · rintro ⟨ha, hb⟩
    exact ⟨_, List.mem_map_of_mem (List.mem_dedup.mpr ha), e.id_lookup a, hb⟩

theorem mem_ids_graph {e : Edit} {listed : List AppId} {a : AppId} :
    a ∈ (e.graph listed).ids ↔ a ∈ listed := by
  simp [Catalog.ids, graph, id_lookup]

/-- `_replace_dependencies` and `_assert_acyclic` raise nothing. -/
def passes (listed : List AppId) : Bool :=
  decide (e.app ∉ e.dependencyIds) && e.dependencyIds.all (fun d => decide (d ∈ e.viewed)) &&
    assertAcyclic (e.graph listed) e.app e.dependencyIds == []

end Edit

inductive EditPhase
  | reading (e : Edit)
  | validated (e : Edit)
  /-- No other application depends on this one. -/
  | deleting (id : AppId)
  | ended

structure CatalogState where
  catalog : Catalog
  requests : List EditPhase := []
  /-- History: every application that was ever committed. -/
  stored : List AppId

inductive EditEvent
  | create (id : AppId) (name : String) (deps : List AppId)
  | update (id : AppId) (deps : List AppId)
  | delete (id : AppId)
  /-- An application is loaded into the session. -/
  | load (request : Nat) (id : AppId)
  | list (request : Nat)
  | validate (request : Nat)
  | commit (request : Nat)
  | abort (request : Nat)

namespace EditPhase

/-- Another update has committed new edges. -/
def disturb : EditPhase → EditPhase
  | reading e => .reading { e with disturbed := true }
  | validated e => .validated { e with disturbed := true }
  | p => p

end EditPhase

namespace CatalogState

variable (s : CatalogState)

def begin (p : EditPhase) : CatalogState := { s with requests := s.requests ++ [p] }

def set (i : Nat) (p : EditPhase) : CatalogState := { s with requests := s.requests.set i p }

/-- An application as it is committed; what was deleted has no dependencies. -/
def current (id : AppId) : AppNode :=
  (s.catalog.get id).getD { id, name := "", enabled := true, dependencyIds := [] }

/-- `db.get`, or the loading of what was listed. -/
def load (i : Nat) (e : Edit) (id : AppId) : Option CatalogState :=
  if id ∉ e.viewed ∧ (id ∈ s.catalog.ids ∨ id ∈ e.listed.getD []) then
    some (s.set i (.reading { e with view := e.view ++ [s.current id] }))
  else none

/-- `select(Application)`; the session sees the application that it has inserted. -/
def list (i : Nat) (e : Edit) : CatalogState :=
  s.set i (.reading { e with
    listed := some (if e.creates then s.catalog.ids ++ [e.app] else s.catalog.ids) })

/-- Everything listed is loaded, and the check decides. -/
def validate (i : Nat) (e : Edit) : Option CatalogState :=
  match e.listed with
  | none => none
  | some listed =>
    if listed.all fun id => decide (id ∈ e.viewed) then
      some (s.set i (if e.passes listed then .validated e else .ended))
    else none

/-- The row and its edges are inserted; the primary and the foreign keys hold. -/
def commitCreate (i : Nat) (e : Edit) : Option CatalogState :=
  let n : AppNode :=
    { id := e.app, name := e.name, enabled := true, dependencyIds := e.dependencyIds.dedup,
      nodup := List.nodup_dedup _ }
  if h : n.id ∉ s.catalog.ids then
    if e.app ∉ s.stored ∧ ∀ d ∈ e.dependencyIds, d ∈ s.catalog.ids then
      some { s.set i .ended with catalog := s.catalog.add n h, stored := e.app :: s.stored }
    else none
  else none

/-- The edges of an application after the flush. -/
def flushed (e : Edit) (current : AppNode) : List AppId :=
  current.dependencyIds.filter (fun d => d ∉ e.removed) ++ e.added

/-- Edges are deleted and inserted; an insertion violates no key. Everyone else who is at
work has missed what is inserted. -/
def commitUpdate (i : Nat) (e : Edit) : Option CatalogState :=
  match s.catalog.get e.app with
  | none => if e.added = [] then some (s.set i .ended) else none
  | some row =>
    if h : (flushed e row).Nodup then
      if ∀ d ∈ e.added, d ∈ s.catalog.ids then
        let requests := if e.added = [] then s.requests else s.requests.map EditPhase.disturb
        some { s with
          catalog := s.catalog.setDependencies e.app (flushed e row) h
          requests := requests.set i .ended }
      else none
    else none

def commit (i : Nat) : EditPhase → Option CatalogState
  | .validated e => if e.creates then s.commitCreate i e else s.commitUpdate i e
  | .deleting id => some { s.set i .ended with catalog := s.catalog.remove id }
  | _ => none

def step : EditEvent → Option CatalogState
  | .create id name deps =>
    some (s.begin (.reading (.ofCreate id name deps)))
  | .update id deps =>
    (s.catalog.get id).map fun row => s.begin (.reading (.ofUpdate row deps))
  | .delete id =>
    if id ∈ s.catalog.ids ∧ ∀ n ∈ s.catalog.nodes, id ∉ n.dependencyIds then
      some (s.begin (.deleting id))
    else none
  | .load i id =>
    match s.requests[i]? with
    | some (.reading e) => s.load i e id
    | _ => none
  | .list i =>
    match s.requests[i]? with
    | some (.reading e) => some (s.list i e)
    | _ => none
  | .validate i =>
    match s.requests[i]? with
    | some (.reading e) => s.validate i e
    | _ => none
  | .commit i => (s.requests[i]?).bind (s.commit i)
  | .abort i => if i < s.requests.length then some (s.set i .ended) else none

/-- A sound catalog, with no request under way. -/
structure Idle (s : CatalogState) : Prop where
  sound : s.catalog.Sound
  requests : s.requests = []
  stored : ∀ a ∈ s.catalog.ids, a ∈ s.stored

end CatalogState

/-- The catalog and all requests that edit it. -/
def catalogEdits : Machine CatalogState EditEvent where
  init := CatalogState.Idle
  step := CatalogState.step

/-- An update that adds edges commits only if no other update has added edges since it
began to read. -/
def undisturbed (s : CatalogState) (e : EditEvent) : Bool :=
  match e with
  | .commit i =>
    match s.requests[i]? with
    | some (.validated e) => e.creates || e.added == [] || !e.disturbed
    | _ => true
  | _ => true

/-! ## What a request knows -/

namespace CatalogState

variable {s s' : CatalogState} {e : Edit} {i : Nat}

/-- An update knows applications that were committed once, its own among them; and until it is
disturbed, every edge that these have now. -/
structure Knows (s : CatalogState) (e : Edit) : Prop where
  viewStored : ∀ v ∈ e.view, v.id ∈ s.stored
  listedStored : ∀ id ∈ e.listed.getD [], id ∈ s.stored
  own : e.app ∈ e.viewed
  seen : e.disturbed = false → ∀ v ∈ e.view, ∀ b, s.catalog.DependsOn v.id b →
    b ∈ v.dependencyIds

/-- The check has been passed on listed applications that are all in the session. -/
def Checked (e : Edit) : Prop :=
  ∃ listed, (∀ id ∈ listed, id ∈ e.viewed) ∧ e.passes listed = true

/-- What holds of a request; the edges of a new application concern nobody. -/
structure PhaseInv (s : CatalogState) (p : EditPhase) : Prop where
  reading : ∀ e, p = .reading e → e.creates = false → s.Knows e
  validated : ∀ e, p = .validated e → e.creates = false → s.Knows e ∧ Checked e

structure Inv (s : CatalogState) : Prop where
  sound : s.catalog.Sound
  stored : ∀ a ∈ s.catalog.ids, a ∈ s.stored
  requests : ∀ p ∈ s.requests, s.PhaseInv p

theorem Inv.init (h : s.Idle) : s.Inv where
  sound := h.sound
  stored := h.stored
  requests p hp := by simp [h.requests] at hp

theorem PhaseInv.of_quiet {p : EditPhase} (hreading : ∀ e, p ≠ .reading e)
    (hvalidated : ∀ e, p ≠ .validated e) : s.PhaseInv p :=
  ⟨fun e hp => absurd hp (hreading e), fun e hp => absurd hp (hvalidated e)⟩

/-- What an update knows stays known while no application of its session gains an edge. -/
theorem Knows.frame (h : s.Knows e) (hstored : ∀ a ∈ s.stored, a ∈ s'.stored)
    (hedges : ∀ a b, a ∈ s.stored → s'.catalog.DependsOn a b → s.catalog.DependsOn a b) :
    s'.Knows e where
  viewStored v hv := hstored _ (h.viewStored v hv)
  listedStored id hid := hstored _ (h.listedStored id hid)
  own := h.own
  seen hdisturbed v hv b hb := h.seen hdisturbed v hv b (hedges _ _ (h.viewStored v hv) hb)

theorem PhaseInv.frame {p : EditPhase} (h : s.PhaseInv p)
    (hstored : ∀ a ∈ s.stored, a ∈ s'.stored)
    (hedges : ∀ a b, a ∈ s.stored → s'.catalog.DependsOn a b → s.catalog.DependsOn a b) :
    s'.PhaseInv p where
  reading e hp hupdate := (h.reading e hp hupdate).frame hstored hedges
  validated e hp hupdate :=
    ⟨(h.validated e hp hupdate).1.frame hstored hedges, (h.validated e hp hupdate).2⟩

/-- A disturbed request is promised no edges. -/
theorem PhaseInv.disturb {p : EditPhase} (h : s.PhaseInv p) (hstored : s'.stored = s.stored) :
    s'.PhaseInv p.disturb := by
  cases p with
  | reading e =>
    refine ⟨fun e' he' hupdate => ?_, by simp [EditPhase.disturb]⟩
    cases he'
    have hknows := h.reading e rfl hupdate
    exact ⟨hstored ▸ hknows.viewStored, hstored ▸ hknows.listedStored, hknows.own, by simp⟩
  | validated e =>
    refine ⟨by simp [EditPhase.disturb], fun e' he' hupdate => ?_⟩
    cases he'
    obtain ⟨hknows, hchecked⟩ := h.validated e rfl hupdate
    exact ⟨⟨hstored ▸ hknows.viewStored, hstored ▸ hknows.listedStored, hknows.own, by simp⟩,
      hchecked⟩
  | deleting id => exact .of_quiet (by simp [EditPhase.disturb]) (by simp [EditPhase.disturb])
  | ended => exact .of_quiet (by simp [EditPhase.disturb]) (by simp [EditPhase.disturb])

/-- Only the phase of one request changes. -/
theorem Inv.set {p : EditPhase} (h : s.Inv) (hp : s.PhaseInv p) : (s.set i p).Inv where
  sound := h.sound
  stored := h.stored
  requests q hq := by
    rcases List.mem_or_eq_of_mem_set hq with hq | rfl
    · exact (h.requests q hq).frame (fun _ ha => ha) fun _ _ _ hb => hb
    · exact hp.frame (fun _ ha => ha) fun _ _ _ hb => hb

theorem Inv.begin {p : EditPhase} (h : s.Inv) (hp : s.PhaseInv p) : (s.begin p).Inv where
  sound := h.sound
  stored := h.stored
  requests q hq := by
    rcases List.mem_append.mp hq with hq | hq
    · exact (h.requests q hq).frame (fun _ ha => ha) fun _ _ _ hb => hb
    · rw [List.mem_singleton.mp hq]
      exact hp.frame (fun _ ha => ha) fun _ _ _ hb => hb

/-! ## Reading -/

theorem dependsOn_current {id b : AppId} :
    s.catalog.DependsOn id b ↔ b ∈ (s.current id).dependencyIds := by
  unfold CatalogState.current Catalog.DependsOn
  cases s.catalog.get id with
  | none => simp
  | some n => simp

theorem id_current (id : AppId) : (s.current id).id = id := by
  unfold CatalogState.current
  cases hget : s.catalog.get id with
  | none => rfl
  | some n => exact Catalog.id_of_get hget

/-- An update begins with its own application. -/
theorem Inv.update {id : AppId} {deps : List AppId} {row : AppNode} (h : s.Inv)
    (hrow : s.catalog.get id = some row) :
    (s.begin (.reading (.ofUpdate row deps))).Inv := by
  refine h.begin ⟨fun e he _ => ?_, by simp⟩
  cases he
  have hid := Catalog.id_of_get hrow
  refine ⟨?_, by simp [Edit.ofUpdate], by simp [Edit.viewed, Edit.ofUpdate], ?_⟩
  · intro v hv
    rw [List.mem_singleton.mp hv, hid]
    exact h.stored _ (Catalog.mem_ids_of_get hrow)
  · intro _ v hv b hb
    rw [List.mem_singleton.mp hv, hid] at hb
    obtain ⟨n, hn, hb⟩ := hb
    rw [hrow] at hn
    cases hn
    rwa [List.mem_singleton.mp hv]

theorem Inv.load {id : AppId} (h : s.Inv) (he : .reading e ∈ s.requests)
    (hload : s.load i e id = some s') : s'.Inv := by
  unfold CatalogState.load at hload
  split at hload
  · rename_i hguard
    cases hload
    refine h.set ⟨fun e' he' hupdate => ?_, by simp⟩
    cases he'
    have hknows := (h.requests _ he).reading e rfl hupdate
    have hid : id ∈ s.stored := by
      rcases hguard.2 with hid | hid
      · exact h.stored id hid
      · exact hknows.listedStored id hid
    refine ⟨?_, hknows.listedStored, ?_, ?_⟩
    · intro v hv
      rcases List.mem_append.mp hv with hv | hv
      · exact hknows.viewStored v hv
      · rwa [List.mem_singleton.mp hv, id_current]
    · have hown := hknows.own
      simp only [Edit.viewed, List.map_append, List.mem_append] at hown ⊢
      exact .inl hown
    · intro hdisturbed v hv b hb
      rcases List.mem_append.mp hv with hv | hv
      · exact hknows.seen hdisturbed v hv b hb
      · rw [List.mem_singleton.mp hv, id_current] at hb
        rw [List.mem_singleton.mp hv]
        exact dependsOn_current.mp hb
  · cases hload

theorem Inv.list (h : s.Inv) (he : .reading e ∈ s.requests) : (s.list i e).Inv := by
  refine h.set ⟨fun e' he' hupdate => ?_, by simp⟩
  cases he'
  have hknows := (h.requests _ he).reading e rfl hupdate
  refine ⟨hknows.viewStored, ?_, hknows.own, hknows.seen⟩
  simp only [show e.creates = false from hupdate, Bool.false_eq_true, if_false, Option.getD_some]
  exact h.stored

theorem Inv.validate (h : s.Inv) (he : .reading e ∈ s.requests)
    (hvalidate : s.validate i e = some s') : s'.Inv := by
  unfold CatalogState.validate at hvalidate
  split at hvalidate
  · cases hvalidate
  · rename_i listed _
    split at hvalidate
    · rename_i hlisted
      cases hvalidate
      refine h.set ?_
      split
      · rename_i hpasses
        refine ⟨by simp, fun e' he' hupdate => ?_⟩
        cases he'
        exact ⟨(h.requests _ he).reading e rfl hupdate, listed,
          fun id hid => by simpa using List.all_eq_true.mp hlisted id hid, hpasses⟩
      · exact .of_quiet (by simp) (by simp)
    · cases hvalidate

/-! ## Commits -/

/-- A commit that gives no application of any session an edge. -/
theorem Inv.commits {c : Catalog} {stored : List AppId} (h : s.Inv) (hsound : c.Sound)
    (hids : ∀ a ∈ c.ids, a ∈ stored) (hstored : ∀ a ∈ s.stored, a ∈ stored)
    (hedges : ∀ a b, a ∈ s.stored → c.DependsOn a b → s.catalog.DependsOn a b) :
    Inv { s.set i .ended with catalog := c, stored := stored } where
  sound := hsound
  stored := hids
  requests p hp := by
    rcases List.mem_or_eq_of_mem_set hp with hp | rfl
    · exact (h.requests p hp).frame hstored hedges
    · exact .of_quiet (by simp) (by simp)

/-- The foreign keys delete the edges to an application with it. -/
theorem Inv.remove {id : AppId} (h : s.Inv) :
    Inv { s.set i .ended with catalog := s.catalog.remove id } := by
  refine h.commits ⟨?_, fun a b hab => ?_⟩ (fun a ha => ?_) (fun _ ha => ha) fun a b _ hab => ?_
  · exact h.sound.acyclic.mono fun a b hab => (Catalog.dependsOn_remove hab).1
  · obtain ⟨hold, hne⟩ := Catalog.dependsOn_remove hab
    exact Catalog.mem_ids_remove.mpr ⟨h.sound.closed a b hold, hne⟩
  · exact h.stored a (Catalog.mem_ids_remove.mp ha).1
  · exact (Catalog.dependsOn_remove hab).1

/-- Nothing depends on a new application, so it is on no cycle. -/
theorem sound_add {c : Catalog} {n : AppNode} (h : c.Sound) (hnew : n.id ∉ c.ids)
    (hdeps : ∀ d ∈ n.dependencyIds, d ∈ c.ids) : (c.add n hnew).Sound := by
  have hids : ∀ a b, (c.add n hnew).DependsOn a b → b ∈ c.ids := by
    intro a b hab
    rcases Catalog.dependsOn_add.mp hab with hab | ⟨-, hb⟩
    · exact h.closed a b hab
    · exact hdeps b hb
  constructor
  · refine h.acyclic.update (x := n.id) (fun a b ha hab => ?_) fun hcycle => ?_
    · rcases Catalog.dependsOn_add.mp hab with hab | ⟨hn, -⟩
      · exact hab
      · exact absurd hn ha
    · obtain ⟨a, -, hlast⟩ := TransGen.tail'_iff.mp hcycle
      exact hnew (hids a _ hlast)
  · intro a b hab
    simp only [Catalog.ids, Catalog.add, List.map_append, List.mem_append]
    exact .inl (hids a b hab)

theorem Inv.commitCreate (h : s.Inv) (hcommit : s.commitCreate i e = some s') : s'.Inv := by
  unfold CatalogState.commitCreate at hcommit
  dsimp only at hcommit
  split at hcommit
  · rename_i hnew
    split at hcommit
    · rename_i hguard
      cases hcommit
      obtain ⟨hfresh, hdeps⟩ := hguard
      refine h.commits (sound_add h.sound hnew fun d hd => hdeps d (List.mem_dedup.mp hd)) ?_
        (fun _ ha => List.mem_cons_of_mem _ ha) fun a b ha hab => ?_
      · intro a ha
        simp only [Catalog.ids, Catalog.add, List.map_append, List.map_singleton,
          List.mem_append, List.mem_singleton] at ha
        rcases ha with ha | rfl
        · exact List.mem_cons_of_mem _ (h.stored a ha)
        · exact List.mem_cons_self
      · rcases Catalog.dependsOn_add.mp hab with hab | ⟨rfl, -⟩
        · exact hab
        · exact absurd ha hfresh
    · cases hcommit
  · cases hcommit

/-- What is left of an update's edges, if it knew all that it found. -/
theorem mem_dependencyIds_of_flushed {row : AppNode} {b : AppId}
    (hrow : ∀ b ∈ row.dependencyIds, b ∈ e.replaced) (hb : b ∈ flushed e row) :
    b ∈ e.dependencyIds := by
  rcases List.mem_append.mp hb with hb | hb
  · obtain ⟨hb, hkept⟩ := List.mem_filter.mp hb
    by_contra hnot
    exact (by simpa using hkept : b ∉ e.removed)
      (List.mem_filter.mpr ⟨hrow b hb, by simpa using hnot⟩)
  · exact (List.mem_filter.mp hb).1

/-- **An undisturbed update leaves a sound graph**: everything that its application reaches
afterwards is in the graph that it has checked. -/
theorem sound_setDependencies {row : AppNode} (h : s.Inv) (hknows : s.Knows e)
    (hchecked : Checked e) (hdisturbed : e.disturbed = false)
    (hrow : s.catalog.get e.app = some row) (hnodup : (flushed e row).Nodup)
    (hadded : ∀ d ∈ e.added, d ∈ s.catalog.ids) :
    (s.catalog.setDependencies e.app (flushed e row) hnodup).Sound := by
  obtain ⟨listed, hlisted, hpasses⟩ := hchecked
  simp only [Edit.passes, Bool.and_eq_true, beq_iff_eq] at hpasses
  have hcheckedSound := sound_of_assertAcyclic hpasses.2
  have hrowEdge : ∀ b ∈ row.dependencyIds, s.catalog.DependsOn e.app b := fun b hb =>
    ⟨row, hrow, hb⟩
  have hseen : ∀ a ∈ e.viewed, ∀ b, s.catalog.DependsOn a b →
      b ∈ (e.lookup a).dependencyIds := by
    intro a ha b hb
    refine hknows.seen hdisturbed _ (Edit.lookup_mem ha) b ?_
    rwa [Edit.id_lookup]
  have hflushed : ∀ b ∈ flushed e row, b ∈ e.dependencyIds := fun b hb =>
    mem_dependencyIds_of_flushed (fun b hb => hseen _ hknows.own b (hrowEdge b hb)) hb
  constructor
  · refine h.sound.acyclic.update (x := e.app) (fun a b ha hab => ?_) fun hcycle => ?_
    · rw [Catalog.dependsOn_setDependencies, if_neg ha] at hab
      exact hab
    · -- from the application on, the path stays in the graph that was checked
      refine hcheckedSound.acyclic e.app (path_inside
        (fun a => a ∈ ((e.graph listed).edited e.app e.dependencyIds).ids)
        (fun a b ha hab => ?_) (Catalog.mem_ids_edited.mpr (.inr rfl)) hcycle).1
      have hchecked : ((e.graph listed).edited e.app e.dependencyIds).DependsOn a b := by
        rw [Catalog.dependsOn_setDependencies] at hab
        rw [Catalog.dependsOn_edited]
        by_cases happ : a = e.app
        · rw [if_pos happ] at hab ⊢
          exact hflushed b hab.2
        · rw [if_neg happ] at hab ⊢
          have hmem : a ∈ listed := by
            rcases Catalog.mem_ids_edited.mp ha with ha | ha
            · exact Edit.mem_ids_graph.mp ha
            · exact absurd ha happ
          exact Edit.dependsOn_graph.mpr ⟨hmem, hseen a (hlisted a hmem) b hab⟩
      exact ⟨hchecked, hcheckedSound.closed a b hchecked⟩
  · intro a b hab
    rw [Catalog.ids_setDependencies]
    rw [Catalog.dependsOn_setDependencies] at hab
    split at hab
    · rcases List.mem_append.mp hab.2 with hb | hb
      · exact h.sound.closed _ b (hrowEdge b (List.mem_filter.mp hb).1)
      · exact hadded b hb
    · exact h.sound.closed a b hab

theorem Inv.commitUpdate (h : s.Inv) (he : .validated e ∈ s.requests)
    (hupdate : e.creates = false) (hundisturbed : e.added = [] ∨ e.disturbed = false)
    (hcommit : s.commitUpdate i e = some s') : s'.Inv := by
  obtain ⟨hknows, hchecked⟩ := (h.requests _ he).validated e rfl hupdate
  unfold CatalogState.commitUpdate at hcommit
  split at hcommit
  · split at hcommit
    · cases hcommit
      exact h.set (.of_quiet (by simp) (by simp))
    · cases hcommit
  · rename_i row hrow
    split at hcommit
    · rename_i hnodup
      split at hcommit
      · rename_i hadded
        cases hcommit
        by_cases hnone : e.added = []
        · -- edges are taken away only
          have hless : ∀ a b, (s.catalog.setDependencies e.app (flushed e row) hnodup).DependsOn
              a b → s.catalog.DependsOn a b := by
            intro a b hab
            rw [Catalog.dependsOn_setDependencies] at hab
            split at hab
            · rename_i ha
              have hb := hab.2
              rw [flushed, hnone, List.append_nil] at hb
              exact ⟨row, ha ▸ hrow, (List.mem_filter.mp hb).1⟩
            · exact hab
          simp only [hnone, if_true]
          refine h.commits ⟨h.sound.acyclic.mono hless, fun a b hab => ?_⟩ ?_ (fun _ ha => ha)
            fun a b _ hab => hless a b hab
          · rw [Catalog.ids_setDependencies]
            exact h.sound.closed a b (hless a b hab)
          · rw [Catalog.ids_setDependencies]
            exact h.stored
        · have hdisturbed := hundisturbed.resolve_left hnone
          simp only [hnone, if_false]
          refine ⟨sound_setDependencies h hknows hchecked hdisturbed hrow hnodup hadded, ?_, ?_⟩
          · rw [Catalog.ids_setDependencies]
            exact h.stored
          · intro p hp
            rcases List.mem_or_eq_of_mem_set hp with hp | rfl
            · obtain ⟨q, hq, rfl⟩ := List.mem_map.mp hp
              exact (h.requests q hq).disturb rfl
            · exact .of_quiet (by simp) (by simp)
      · cases hcommit
    · cases hcommit

/-! ## Runs -/

theorem Inv.step {ev : EditEvent} (h : s.Inv) (hundisturbed : undisturbed s ev = true)
    (hstep : s.step ev = some s') : s'.Inv := by
  cases ev <;> simp only [CatalogState.step] at hstep
  case create id name deps =>
    cases hstep
    refine h.begin ⟨fun e he hupdate => ?_, by simp⟩
    cases he
    cases hupdate
  case update id deps =>
    obtain ⟨row, hrow, rfl⟩ := Option.map_eq_some_iff.mp hstep
    exact h.update hrow
  case delete id =>
    split at hstep
    · cases hstep
      exact h.begin (.of_quiet (by simp) (by simp))
    · cases hstep
  case load i id =>
    split at hstep
    · rename_i hi
      exact h.load (List.mem_of_getElem? hi) hstep
    · cases hstep
  case list i =>
    split at hstep
    · rename_i hi
      cases hstep
      exact h.list (List.mem_of_getElem? hi)
    · cases hstep
  case validate i =>
    split at hstep
    · rename_i hi
      exact h.validate (List.mem_of_getElem? hi) hstep
    · cases hstep
  case commit i =>
    obtain ⟨p, hi, hcommit⟩ := Option.bind_eq_some_iff.mp hstep
    unfold CatalogState.commit at hcommit
    split at hcommit
    · rename_i e
      split at hcommit
      · exact h.commitCreate hcommit
      · rename_i hcreates
        have hupdate : e.creates = false := by simpa using hcreates
        refine h.commitUpdate (List.mem_of_getElem? hi) hupdate ?_ hcommit
        simpa [undisturbed, hi, hupdate] using hundisturbed
    · cases hcommit
      exact h.remove
    · cases hcommit
  case abort i =>
    split at hstep
    · cases hstep
      exact h.set (.of_quiet (by simp) (by simp))
    · cases hstep

end CatalogState

/-- **The catalog stays sound in every run** whose updates add edges undisturbed. -/
theorem catalog_sound (s : CatalogState)
    (hs : catalogEdits.ReachableUnder (fun s e => undisturbed s e = true) s) : s.catalog.Sound :=
  (hs.invariant (fun _ h => CatalogState.Inv.init h)
    fun _ _ _ _ h hundisturbed hstep => h.step hundisturbed hstep).sound

/-! ## Two updates at once -/

def twoApplications : CatalogState where
  catalog :=
    { nodes := [{ id := "a", name := "agent", enabled := true, dependencyIds := [] },
        { id := "b", name := "base", enabled := true, dependencyIds := [] }] }
  stored := ["a", "b"]

theorem twoApplications_idle : twoApplications.Idle := by
  have hnone : ∀ a b, ¬ twoApplications.catalog.DependsOn a b := by
    intro a b hab
    obtain ⟨n, hn, -, hb⟩ := Catalog.dependsOn_iff.mp hab
    have hempty : ∀ n ∈ twoApplications.catalog.nodes, n.dependencyIds = [] := by decide
    simp [hempty n hn] at hb
  refine ⟨⟨fun a hcycle => ?_, fun a b hab => absurd hab (hnone a b)⟩, rfl, fun a ha => ha⟩
  obtain ⟨b, hab, -⟩ := TransGen.head'_iff.mp hcycle
  exact hnone a b hab

/-- The `i`-th request reads all there is and passes its check. -/
def readsAndPasses (i : Nat) (other : AppId) : List EditEvent :=
  [.load i other, .list i, .validate i]

/-- `a` depends on `b`, as a test. -/
def CatalogState.hasEdge (a b : AppId) (s : CatalogState) : Bool :=
  (s.catalog.get a).any fun n => decide (b ∈ n.dependencyIds)

theorem dependsOn_of_hasEdge {a b : AppId} {s : CatalogState} (h : s.hasEdge a b = true) :
    s.catalog.DependsOn a b := by
  unfold CatalogState.hasEdge at h
  cases hget : s.catalog.get a with
  | none => simp [hget] at h
  | some n => exact ⟨n, hget, by simpa [hget] using h⟩

theorem catalog_sound_update : ∃ s : CatalogState,
    s.catalog.DependsOn "a" "b" ∧ s.catalog.Sound := by
  obtain ⟨s, hs, hedge⟩ := Machine.exists_reachableUnder_of_run (m := catalogEdits)
    (c := undisturbed) (t := .update "a" ["b"] :: readsAndPasses 0 "b" ++ [.commit 0])
    (p := CatalogState.hasEdge "a" "b") twoApplications_idle (by decide)
  exact ⟨s, dependsOn_of_hasEdge hedge, catalog_sound s hs⟩

/-- Each update adds an edge that the other has not read. -/
def crossedUpdates : List EditEvent :=
  [.update "a" ["b"], .update "b" ["a"]] ++ readsAndPasses 0 "b" ++ readsAndPasses 1 "a" ++
    [.commit 0, .commit 1]

theorem updates_close_cycle : ¬ ∀ s, catalogEdits.Reachable s → s.catalog.Sound := by
  intro hsound
  obtain ⟨s, hs, hedges⟩ := Machine.exists_reachable_of_run (m := catalogEdits)
    (t := crossedUpdates)
    (p := fun s => s.hasEdge "a" "b" && s.hasEdge "b" "a") twoApplications_idle (by decide)
  obtain ⟨hab, hba⟩ := (Bool.and_eq_true_iff).mp hedges
  exact (hsound s hs).acyclic "a"
    (.tail (.single (dependsOn_of_hasEdge hab)) (dependsOn_of_hasEdge hba))

end InfraOps
