import Mathlib.Data.List.Sort
import Mathlib.Data.String.Basic
import Mathlib.Logic.Function.Basic
import Mathlib.Logic.Relation

/-!
# Dependency resolution

`app/services/applications/resolver.py`: a depth-first search colours the applications that
the selection needs and collects them, and a topological sort orders what was collected. The
search carries its state explicitly; its recursion is bounded by the catalog, since the
applications on the chain are distinct.
-/

namespace InfraOps

/-- `uuid.UUID`, by its text. -/
abbrev AppId := String

structure AppNode where
  id : AppId
  name : String
  enabled : Bool
  /-- A frozenset, listed in some order. -/
  dependencyIds : List AppId
  nodup : dependencyIds.Nodup := by decide
  deriving DecidableEq

/-- `dict[uuid.UUID, AppNode]`, as its callers build it: an application under its own key. -/
structure Catalog where
  nodes : List AppNode
  nodup : (nodes.map AppNode.id).Nodup := by decide

def Catalog.get (c : Catalog) (id : AppId) : Option AppNode := c.nodes.find? fun n => n.id == id

theorem Catalog.id_of_get {c : Catalog} {id : AppId} {n : AppNode} (h : c.get id = some n) :
    n.id = id := by
  simpa using List.find?_some h

/-- `a` depends directly on `b`. -/
def Catalog.DependsOn (c : Catalog) (a b : AppId) : Prop :=
  ∃ n, c.get a = some n ∧ b ∈ n.dependencyIds

/-- `b` is `a`, or among its transitive dependencies. -/
abbrev Catalog.Needs (c : Catalog) : AppId → AppId → Prop := Relation.ReflTransGen c.DependsOn

/-! ## The depth-first search -/

inductive Color
  | white | gray | black
  deriving DecidableEq

structure VisitState where
  errors : List String := []
  required : List AppNode := []
  color : AppId → Color := fun _ => .white
  chain : List AppId := []

/-- `catalog[cid].name if cid in catalog else str(cid)`. -/
def Catalog.label (c : Catalog) (id : AppId) : String := ((c.get id).map AppNode.name).getD id

def circularError (c : Catalog) (cycle : List AppId) : String :=
  "Circular dependency detected: " ++ " -> ".intercalate (cycle.map c.label)

def missingError (id : AppId) : String :=
  s!"A selected application depends on application '{id}', which does not exist."

def disabledError (name : String) : String :=
  s!"Application '{name}' is disabled in the catalog and cannot be installed."

/-- `sorted(node.dependency_ids, key=str)`. -/
def sortedIds (ids : List AppId) : List AppId := ids.insertionSort (· ≤ ·)

theorem mem_sortedIds {ids : List AppId} {id : AppId} : id ∈ sortedIds ids ↔ id ∈ ids :=
  List.mem_insertionSort _

/-- `visit`. -/
def visit (c : Catalog) : Nat → AppId → VisitState → VisitState
  | 0, _, st => st
  | fuel + 1, id, st =>
    match st.color id with
    | .black => st
    | .gray =>
      { st with errors := st.errors ++ [circularError c (st.chain.drop (st.chain.idxOf id))] }
    | .white =>
      match c.get id with
      | none =>
        { st with
          errors := st.errors ++ [missingError id]
          color := Function.update st.color id .black }
      | some node =>
        let entered := { st with
          color := Function.update st.color id .gray
          chain := st.chain ++ [id] }
        let left := (sortedIds node.dependencyIds).foldl (fun st dep => visit c fuel dep st) entered
        { left with
          chain := left.chain.dropLast
          color := Function.update left.color id .black
          required := left.required ++ [node] }

/-- The search from every selected application. -/
def visitAll (c : Catalog) (selected : List AppId) : VisitState :=
  selected.foldl (fun st id => visit c (c.nodes.length + 1) id st) {}

/-! ## The topological sort -/

/-- `required[a].name`. -/
def nameOf (required : List AppNode) (id : AppId) : String :=
  ((required.find? fun n => n.id == id).map AppNode.name).getD ""

/-- `sort(key=lambda a: required[a].name)`, which is stable. -/
def sortByName (required : List AppNode) (ids : List AppId) : List AppId :=
  ids.insertionSort fun a b => nameOf required a ≤ nameOf required b

/-- `edges_out[id]`. -/
def edgesOut (required : List AppNode) (id : AppId) : List AppId :=
  (required.filter fun n => id ∈ n.dependencyIds).map AppNode.id

/-- The initial in-degree: the dependencies that are required. -/
def indegree (required : List AppNode) (n : AppNode) : Int :=
  (n.dependencyIds.filter fun dep => dep ∈ required.map AppNode.id).length

/-- The decrements after `current` has been ordered. -/
def release (dependents : List AppId) (degree : AppId → Int) (ready : List AppId) :
    (AppId → Int) × List AppId :=
  dependents.foldl (fun (degree, ready) dependent =>
    let degree := Function.update degree dependent (degree dependent - 1)
    (degree, if degree dependent = 0 then ready ++ [dependent] else ready)) (degree, ready)

/-- The loop; every application becomes ready at most once. -/
def kahn (required : List AppNode) : Nat → (AppId → Int) → List AppId → List AppId
  | 0, _, _ => []
  | _ + 1, _, [] => []
  | fuel + 1, degree, current :: ready =>
    let (degree, ready) := release (edgesOut required current) degree ready
    current :: kahn required fuel degree (sortByName required ready)

def notOrderedError : String := "Dependencies could not be ordered (internal consistency error)."

def resolveInstallOrder (selected : List AppId) (c : Catalog) : List AppNode × List String :=
  let st := visitAll c selected
  let required := st.required
  let errors := st.errors ++ (required.filter fun n => !n.enabled).map fun n => disabledError n.name
  if errors ≠ [] then ([], errors)
  else
    let degree id := ((required.find? fun n => n.id == id).map (indegree required)).getD 0
    let ready := sortByName required
      ((required.filter fun n => indegree required n = 0).map AppNode.id)
    let ordered := kahn required required.length degree ready
    if ordered.length ≠ required.length then ([], [notOrderedError])
    else (ordered.filterMap fun id => required.find? fun n => n.id == id, [])

/-! ## What is collected -/

/-- Everything the search adds is needed by the application it started from, as the catalog
has it. -/
theorem mem_required_visit {c : Catalog} {fuel : Nat} {id : AppId} {st : VisitState}
    {n : AppNode} (h : n ∈ (visit c fuel id st).required) :
    n ∈ st.required ∨ c.Needs id n.id ∧ c.get n.id = some n := by
  induction fuel generalizing id st with
  | zero => exact .inl h
  | succ fuel ih =>
    -- the loop over the dependencies of a node that `id` needs
    have hloop : ∀ (deps : List AppId) (st : VisitState), (∀ dep ∈ deps, c.DependsOn id dep) →
        n ∈ (deps.foldl (fun st dep => visit c fuel dep st) st).required →
        n ∈ st.required ∨ c.Needs id n.id ∧ c.get n.id = some n := by
      intro deps
      induction deps with
      | nil => exact fun st _ hn => .inl hn
      | cons dep deps ihdeps =>
        intro st hdeps hn
        rcases ihdeps _ (fun d hd => hdeps d (List.mem_cons_of_mem _ hd)) hn with hn | hn
        · rcases ih hn with hn | ⟨hneeds, hget⟩
          · exact .inl hn
          · exact .inr ⟨.head (hdeps dep List.mem_cons_self) hneeds, hget⟩
        · exact .inr hn
    rw [visit] at h
    split at h
    · exact .inl h
    · exact .inl h
    · split at h
      · exact .inl h
      · rename_i node hnode
        rcases List.mem_append.mp h with h | h
        · have hn := hloop _ _ (fun dep hdep => ⟨node, hnode, mem_sortedIds.mp hdep⟩) h
          exact hn
        · rw [List.mem_singleton.mp h, Catalog.id_of_get hnode]
          exact .inr ⟨.refl, hnode⟩

theorem mem_required_visitAll {c : Catalog} {selected : List AppId} {n : AppNode}
    (h : n ∈ (visitAll c selected).required) :
    ∃ id ∈ selected, c.Needs id n.id ∧ c.get n.id = some n := by
  have hloop : ∀ (ids : List AppId) (st : VisitState), n ∈ (ids.foldl
      (fun st id => visit c (c.nodes.length + 1) id st) st).required →
      n ∈ st.required ∨ ∃ id ∈ ids, c.Needs id n.id ∧ c.get n.id = some n := by
    intro ids
    induction ids with
    | nil => exact fun st hn => .inl hn
    | cons id ids ih =>
      intro st hn
      rcases ih _ hn with hn | ⟨id', hid', hn⟩
      · rcases mem_required_visit hn with hn | hn
        · exact .inl hn
        · exact .inr ⟨id, List.mem_cons_self, hn⟩
      · exact .inr ⟨id', List.mem_cons_of_mem _ hid', hn⟩
  rcases hloop selected {} h with h | h
  · cases h
  · exact h

/-- **The install order holds nothing but the selection and its transitive dependencies**,
as the catalog has them. -/
theorem mem_resolveInstallOrder {c : Catalog} {selected : List AppId} {n : AppNode}
    (h : n ∈ (resolveInstallOrder selected c).1) :
    ∃ id ∈ selected, c.Needs id n.id ∧ c.get n.id = some n := by
  unfold resolveInstallOrder at h
  dsimp only at h
  split at h
  · cases h
  · split at h
    · cases h
    · obtain ⟨id, -, hfind⟩ := List.mem_filterMap.mp h
      exact mem_required_visitAll (List.mem_of_find?_eq_some hfind)

end InfraOps
