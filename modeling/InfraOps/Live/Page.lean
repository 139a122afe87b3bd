import InfraOps.Api.JobViews
import InfraOps.Support.Feed

/-!
# The live page of a job

`stream_job_events` on the server and `useJobEvents` with the query of `JobDetailPage` in the
browser, around the commits of one job. An answer of the server is read in two queries, the
job and then its steps, between which other commits may fall. The numbers of the commits are
not sent anywhere: they say what was read. The query cache replaces a fetch under way when the
query is invalidated, keeps it when the interval asks for another, and repeats a failed one
once.
-/

namespace InfraOps

abbrev JobFeed := Feed ShownJob LiveEvent

abbrev JobBridge := Bridge JobOut (List JobStepOut) LiveEvent

/-! ## The browser's side -/

/-- The cached answer of the query. -/
structure JobView where
  jobAt : Nat
  stepsAt : Nat
  detail : JobDetailOut

/-- A request for the detail: sent, the job read, or everything read. -/
inductive DetailFetch
  | asked (repeated : Bool)
  | jobRead (repeated : Bool) (n : Nat) (job : JobOut)
  | answered (repeated : Bool) (n m : Nat) (detail : JobDetailOut)

namespace DetailFetch

def repeated : DetailFetch → Bool
  | .asked repeated | .jobRead repeated _ _ | .answered repeated _ _ _ => repeated

/-- The commit as of which the job was read. -/
def jobAt : DetailFetch → Option Nat
  | .asked _ => none
  | .jobRead _ n _ | .answered _ n _ _ => some n

end DetailFetch

inductive EventConnection
  | off
  /-- The timer of the reconnection runs, for so many milliseconds. -/
  | waiting (delay : Nat)
  | requestingTicket
  | opening
  | streaming (bridge : JobBridge)

/-- The page and its entry in the query cache; `failed` is the error state of the query. -/
structure JobPage where
  mounted : Bool := false
  view : Option JobView := none
  fetch : Option DetailFetch := none
  failed : Bool := false
  refetchTimer : Bool := false
  connection : EventConnection := .off
  attempt : Nat := 0

def maxBackoffMs : Nat := 30000

/-- The delay of `scheduleReconnect`. -/
def reconnectDelay (immediate : Bool) (attempt : Nat) : Nat :=
  if immediate then 0 else min maxBackoffMs (1000 * Nat.pow 2 (min attempt 5))

/-- `RUNNING` or `QUEUED`: the statuses under which the page listens and asks again. -/
def JobView.active (v : JobView) : Bool :=
  v.detail.job.status = .running || v.detail.job.status = .queued

namespace JobPage

variable (p : JobPage)

def active : Bool := p.view.any JobView.active

/-- The page is told of changes. -/
def listens : Bool := p.mounted && p.active

/-- The effect of `useJobEvents` after the page is drawn: it starts, goes on, or is cleaned
up. -/
def drawn : JobPage :=
  if p.listens then
    match p.connection with
    | .off => { p with connection := .requestingTicket, attempt := 0 }
    | _ => p
  else { p with connection := .off, refetchTimer := false }

/-- `queryClient.invalidateQueries`: a fetch that can only repeat what is cached is replaced. -/
def invalidate : JobPage :=
  match p.view, p.fetch with
  | none, some _ => p
  | _, _ => { p with fetch := some (.asked false) }

/-- New data of the query. -/
def shows (v : JobView) : JobPage := { p with view := some v, failed := false }.drawn

def applySnapshot (n : Nat) (job : JobOut) (m : Nat) (steps : List JobStepOut) : JobPage :=
  match p.view with
  | some existing =>
    p.shows { jobAt := n, stepsAt := m, detail := { existing.detail with job, steps } }
  | none => p.invalidate

/-- An event changes the progress and the stage, never the status. -/
def applyProgressEvent (update : LiveEvent) : JobPage :=
  match p.view with
  | some existing =>
    p.shows { existing with
      detail := { existing.detail with
        job := { existing.detail.job with
          progress := update.progress
          currentStage := update.stage.or existing.detail.job.currentStage } } }
  | none => p

/-- `scheduleRefetch` of an effect that has not been cleaned up. -/
def scheduleRefetch : JobPage :=
  match p.connection with
  | .off => p
  | _ => { p with refetchTimer := true }

def scheduleReconnect (immediate : Bool) : JobPage :=
  match p.connection with
  | .off => p
  | _ => { p with
      connection := .waiting (reconnectDelay immediate p.attempt)
      attempt := p.attempt + 1 }

end JobPage

/-! ## The system -/

structure LiveJob where
  feed : JobFeed
  page : JobPage := {}

inductive LiveAction
  /-- A step of the job commits; its events are still to be published. -/
  | commit (m : Moment)
  /-- A writer publishes; `publish` swallows the error when Redis does not take it. -/
  | publish (i : Nat) (taken : Bool)
  -- `stream_job_events` and `_snapshot_event`
  | subscribe | snapshotJob | snapshotSteps | forward | deadline
  -- `connect` and the handlers of the event source
  | ticket | ticketFails | connectionFails | reconnect
  | onSnapshot | onUpdate | onReauthenticate
  -- the query
  | visit (stale : Bool) | leave | refetch | poll | acted
  | fetchJob | fetchSteps | fetchArrives | fetchFails

namespace LiveJob

variable (s : LiveJob)

def onPage (p : JobPage) : LiveJob := { s with page := p }

/-- The connection under way is now `b`. -/
def onBridge (b : JobBridge) : LiveJob :=
  s.onPage { s.page with connection := .streaming b }

/-- The bridge of an open stream. -/
def bridge? : Option JobBridge :=
  match s.page.connection with
  | .streaming b => some b
  | _ => none

/-- What a publication reaches. -/
def offered (a : Nat × LiveEvent) : JobPage :=
  match s.page.connection with
  | .streaming b => { s.page with connection := .streaming (b.offer a) }
  | _ => s.page

def receiveSnapshot (b : JobBridge) : Option LiveJob :=
  b.receiveSnapshot.map fun ((n, job, m, steps), b) =>
    let p := { s.page with connection := .streaming b, attempt := 0 }
    s.onPage (p.applySnapshot n job m steps)

def receiveUpdate (b : JobBridge) : Option LiveJob :=
  b.receiveUpdate.map fun ((_, update), b) =>
    let p := { s.page with connection := .streaming b }
    s.onPage (p.applyProgressEvent update).scheduleRefetch

/-- The page is opened; the query asks again unless its data are recent. -/
def visited (stale : Bool) : LiveJob :=
  let p := { s.page with mounted := true }
  let asks := (stale || p.view.isNone) && p.fetch.isNone
  s.onPage (if asks then { p with fetch := some (.asked false) } else p).drawn

variable (technical : Bool)

/-- The server reads for the fetch under way. -/
def fetchReadsJob : Option LiveJob :=
  match s.page.fetch with
  | some (.asked repeated) =>
    some (s.onPage { s.page with
      fetch := some (.jobRead repeated s.feed.version (jobOut s.feed.current)) })
  | _ => none

def fetchReadsSteps : Option LiveJob :=
  match s.page.fetch with
  | some (.jobRead repeated n job) =>
    some (s.onPage { s.page with
      fetch := some (.answered repeated n s.feed.version
        { detailOut technical s.feed.current with job }) })
  | _ => none

def fetchArrived : Option LiveJob :=
  match s.page.fetch with
  | some (.answered _ n m detail) =>
    some (s.onPage ({ s.page with fetch := none }.shows
      { jobAt := n, stepsAt := m, detail }))
  | _ => none

/-- The first failure is repeated, the second shown. -/
def fetchFailed : Option LiveJob :=
  s.page.fetch.map fun fetch =>
    s.onPage (if fetch.repeated then { s.page with fetch := none, failed := true }
      else { s.page with fetch := some (.asked true) })

variable (percent : Nat → Nat → Nat → Nat)

/-- The events of a step are published after its commit. -/
def committed (m : Moment) : Option LiveJob :=
  (s.feed.current.step percent m).map fun v =>
    { s with feed := s.feed.commit v (v.published.drop s.feed.current.published.length) }

def published (i : Nat) (taken : Bool) : Option LiveJob :=
  s.feed.unsent[i]?.map fun a =>
    if taken then { feed := s.feed.announce i a, page := s.offered a }
    else { s with feed := s.feed.sent i }

def step : LiveAction → Option LiveJob
  | .commit m => s.committed percent m
  | .publish i taken => s.published i taken
  | .subscribe =>
    match s.page.connection with
    | .opening => some (s.onBridge {})
    | _ => none
  | .snapshotJob =>
    (s.bridge?.bind fun b => b.readFirst s.feed.version (jobOut s.feed.current)).map s.onBridge
  | .snapshotSteps =>
    (s.bridge?.bind fun b =>
      b.readSecond s.feed.version (stepsOut technical s.feed.current)).map s.onBridge
  | .forward => (s.bridge?.bind Bridge.forward).map s.onBridge
  | .deadline => (s.bridge?.bind Bridge.finish).map s.onBridge
  | .ticket =>
    match s.page.connection with
    | .requestingTicket => some (s.onPage { s.page with connection := .opening })
    | _ => none
  | .ticketFails =>
    match s.page.connection with
    | .requestingTicket => some (s.onPage (s.page.scheduleReconnect false))
    | _ => none
  | .connectionFails =>
    match s.page.connection with
    | .opening | .streaming _ => some (s.onPage (s.page.scheduleReconnect false))
    | _ => none
  | .reconnect =>
    match s.page.connection with
    | .waiting _ => some (s.onPage { s.page with connection := .requestingTicket })
    | _ => none
  | .onSnapshot => s.bridge?.bind s.receiveSnapshot
  | .onUpdate => s.bridge?.bind s.receiveUpdate
  | .onReauthenticate =>
    s.bridge?.bind fun b =>
      if b.receiveEnd then some (s.onPage (s.page.scheduleReconnect true)) else none
  | .visit stale => some (s.visited stale)
  | .leave => some (s.onPage { s.page with mounted := false }.drawn)
  | .refetch =>
    if s.page.refetchTimer then
      some (s.onPage { s.page with refetchTimer := false }.invalidate)
    else none
  | .poll =>
    if s.page.listens then
      some (s.onPage (match s.page.fetch with
        | some _ => s.page
        | none => { s.page with fetch := some (.asked false) }))
    else none
  | .acted => if s.page.mounted then some (s.onPage s.page.invalidate) else none
  | .fetchJob => s.fetchReadsJob
  | .fetchSteps => s.fetchReadsSteps technical
  | .fetchArrives => s.fetchArrived
  | .fetchFails => s.fetchFailed

end LiveJob

/-- A submitted job of which nothing has been announced, and a page not yet opened. -/
def liveJob (technical : Bool) (percent : Nat → Nat → Nat → Nat) :
    Machine LiveJob LiveAction where
  init s := s.feed.current.Submitted ∧ s.feed.past = [] ∧ s.feed.unsent = [] ∧
    s.feed.announced = [] ∧ s.page = {}
  step s := s.step technical percent

end InfraOps
