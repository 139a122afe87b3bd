import InfraOps.Core.Errors
import InfraOps.Workers.StateMachine
import Mathlib.Algebra.Order.Archimedean.Basic
import Mathlib.Algebra.Order.Ring.Rat
import Mathlib.Data.List.Infix
import Mathlib.Order.Monotone.Basic
import Mathlib.Tactic.Linarith

/-!
# Watching Windows Setup

`stage_wait_for_guest_os` of `app/workers/stages.py`. The loop polls the VM and ends with a
ready guest, or with one of its errors; between two polls it sleeps. Its clocks are the start,
the last busy poll, the last report and the deadline. A rational number stands for the float
of the event loop's clock. The columns that the stage assigns on the job are left out.
-/

namespace InfraOps.SetupWatch

/-! ## The limit -/

structure PowerStateInfo where
  powerState : String
  toolsStatus : Option String := none
  toolsRunningStatus : Option String := none
  guestOperationsReady : Bool := false
  guestFamily : Option String := none
  guestHostName : Option String := none
  cpuUsageMhz : Option Int := none
  cpuCapacityMhz : Option Int := none
  deriving DecidableEq

/-- Floating-point arithmetic and Unicode. `share` is the product with `_SETUP_BUSY_SHARE`,
`showTenth` shows one decimal, and `casefold` folds a character. -/
structure Platform where
  share : Int → Rat
  showTenth : Rat → String
  casefold : Char → List Char

def setupPollSeconds : Rat := 20

def setupStatusSeconds : Rat := 60

def setupStallSeconds : Rat := 30 * 60

def setupBusyMinMhz : Rat := 100

/-- `_tools_ready`. -/
def toolsReady (info : PowerStateInfo) : Bool :=
  info.guestOperationsReady && (info.toolsRunningStatus = some "guestToolsRunning" ||
    info.toolsStatus = some "toolsOk" || info.toolsStatus = some "toolsOld")

section

variable (p : Platform)

/-- `_vm_busy`. -/
def vmBusy (info : PowerStateInfo) : Bool :=
  max setupBusyMinMhz (p.share (info.cpuCapacityMhz.getD 0)) ≤ (info.cpuUsageMhz.getD 0 : Int)

/-- `_minutes`. -/
def minutesText (seconds : Rat) : String :=
  let minutes := (seconds / 60).floor
  let rest := minutes % 60
  if minutes < 60 then s!"{minutes} min"
  else s!"{minutes / 60} h " ++ (if rest < 10 then s!"0{rest} min" else s!"{rest} min")

/-- `_cpu_text`. -/
def cpuText (info : PowerStateInfo) : String :=
  let usage := info.cpuUsageMhz.getD 0
  if usage ≥ 1000 then p.showTenth (usage / 1000) ++ " GHz" else s!"{usage} MHz"

/-! ## The loop -/

/-- How the loop ends. -/
inductive SetupEnd
  /-- `get_vm_info_by_id` has raised. -/
  | raised (raised : Raised)
  | disappeared
  | ready (info : PowerStateInfo)
  | poweredOff (powerState : String)
  | stalled (elapsed idle : Rat) (cpuUsageMhz : Option Int)
  | overLimit (timeout elapsed : Rat) (activity : String) (cpuUsageMhz : Option Int)

structure WatchState where
  lastBusy : Rat
  lastReport : Option Rat := none
  /-- What `report_live_status` has shown. -/
  reports : List String := []

inductive Polled
  | ended (result : SetupEnd)
  | sleeps (seconds : Rat)

/-- An observation, and the time at which it was asked for. -/
structure Poll where
  now : Rat
  answer : Except Raised (Option PowerStateInfo)

def deadline (started timeout : Rat) : Rat := started + max setupPollSeconds (timeout - 60)

def activityText (idle : Rat) (info : PowerStateInfo) : String :=
  if idle < setupPollSeconds then s!"VM busy (CPU {cpuText p info})"
  else s!"VM idle for {minutesText idle} (CPU {cpuText p info})"

def liveStatus (elapsed : Rat) (activity : String) : String :=
  s!"Windows Setup running for {minutesText elapsed}: {activity}; VMware Tools not " ++
    "installed yet (it is installed at the first logon after Setup)."

def reportDue (state : WatchState) (now : Rat) : Bool :=
  state.lastReport.all fun last => now - last ≥ setupStatusSeconds

/-- `report_live_status`, at most once a minute. -/
def report (state : WatchState) (now lastBusy : Rat) (text : String) : WatchState :=
  if reportDue state now then
    { lastBusy, lastReport := some now, reports := state.reports ++ [text] }
  else { state with lastBusy }

@[simp] theorem report_lastBusy (state : WatchState) (now lastBusy : Rat) (text : String) :
    (report state now lastBusy text).lastBusy = lastBusy := by
  unfold report
  split <;> rfl

/-- The body of the loop. -/
def poll (started timeout : Rat) (state : WatchState) (observed : Poll) : WatchState × Polled :=
  match observed.answer with
  | .error raised => (state, .ended (.raised raised))
  | .ok none => (state, .ended .disappeared)
  | .ok (some info) =>
    if toolsReady info then (state, .ended (.ready info))
    else if info.powerState ≠ "poweredOn" then (state, .ended (.poweredOff info.powerState))
    else
      let now := observed.now
      let lastBusy := if vmBusy p info then now else state.lastBusy
      let idle := now - lastBusy
      let elapsed := now - started
      let activity := activityText p idle info
      let state := report state now lastBusy (liveStatus elapsed activity)
      if idle ≥ setupStallSeconds then
        (state, .ended (.stalled elapsed idle info.cpuUsageMhz))
      else if now ≥ deadline started timeout then
        (state, .ended (.overLimit timeout elapsed activity info.cpuUsageMhz))
      else
        (state, .sleeps (min setupPollSeconds (max 0 (deadline started timeout - now))))

/-! ## The result of the stage -/

def firstLogonLog : String := "C:\\Windows\\Temp\\infraops-firstlogon.log"

def toolsMsiLog : String := "C:\\Windows\\Temp\\infraops-vmtools-msi.log"

section

variable (started timeout : Rat) (polls : Nat → Poll)

/-- The loop's state before its `i`-th poll. -/
def stateAt : Nat → WatchState
  | 0 => { lastBusy := started }
  | i + 1 => (poll p started timeout (stateAt i) (polls i)).1

def polledAt (i : Nat) : Polled :=
  (poll p started timeout (stateAt p started timeout polls i) (polls i)).2

/-- The loop makes its `i`-th poll. -/
def Reached (i : Nat) : Prop :=
  ∀ j < i, ∃ seconds, polledAt p started timeout polls j = .sleeps seconds

/-- The VM is powered on, and not ready. -/
def Waiting (observed : Poll) (info : PowerStateInfo) : Prop :=
  observed.answer = .ok (some info) ∧ toolsReady info = false ∧ info.powerState = "poweredOn"

end

/-! ## One poll -/

variable {p} {started timeout : Rat} {state : WatchState} {observed : Poll} {info : PowerStateInfo}

/-- How long the VM has been idle. -/
def idleAt (p : Platform) (state : WatchState) (observed : Poll) (info : PowerStateInfo) : Rat :=
  observed.now - if vmBusy p info then observed.now else state.lastBusy

/-- What a poll does while the VM waits. -/
theorem poll_waiting (h : Waiting observed info) :
    (poll p started timeout state observed).1.lastBusy =
        (if vmBusy p info then observed.now else state.lastBusy) ∧
      (poll p started timeout state observed).2 =
        if idleAt p state observed info ≥ setupStallSeconds then
          .ended (.stalled (observed.now - started) (idleAt p state observed info)
            info.cpuUsageMhz)
        else if observed.now ≥ deadline started timeout then
          .ended (.overLimit timeout (observed.now - started)
            (activityText p (idleAt p state observed info) info) info.cpuUsageMhz)
        else .sleeps (min setupPollSeconds (max 0 (deadline started timeout - observed.now))) := by
  obtain ⟨hanswer, hready, hpower⟩ := h
  unfold poll idleAt
  simp only [hanswer, hready, hpower, Bool.false_eq_true, ne_eq, not_true_eq_false, if_false]
  generalize (if vmBusy p info = true then observed.now else state.lastBusy) = lastBusy
  constructor
  · split
    · exact report_lastBusy ..
    · split
      · exact report_lastBusy ..
      · exact report_lastBusy ..
  · split
    · rfl
    · split <;> rfl

/-- Any other observation ends the loop: with a ready guest, or with an error of its own. -/
theorem poll_cases (p : Platform) (started timeout : Rat) (state : WatchState)
    (observed : Poll) :
    (∃ info, Waiting observed info) ∨ (∀ info, ¬ Waiting observed info) ∧
      ((∃ info, observed.answer = .ok (some info) ∧ toolsReady info = true ∧
        (poll p started timeout state observed).2 = .ended (.ready info)) ∨
      (poll p started timeout state observed).2 = .ended .disappeared ∨
      (∃ raised, (poll p started timeout state observed).2 = .ended (.raised raised)) ∨
      ∃ powerState, (poll p started timeout state observed).2 =
        .ended (.poweredOff powerState)) := by
  unfold Waiting
  cases hanswer : observed.answer with
  | error raised => exact .inr ⟨by simp, .inr (.inr (.inl ⟨raised, by simp [poll, hanswer]⟩))⟩
  | ok found =>
    cases found with
    | none => exact .inr ⟨by simp, .inr (.inl (by simp [poll, hanswer]))⟩
    | some info =>
      by_cases hready : toolsReady info = true
      · refine .inr ⟨?_, .inl ⟨info, rfl, hready, by simp [poll, hanswer, hready]⟩⟩
        rintro other ⟨hother, hnot, -⟩
        obtain rfl : info = other := by simpa using hother
        rw [hready] at hnot
        cases hnot
      · have hready : toolsReady info = false := by simpa using hready
        by_cases hpower : info.powerState = "poweredOn"
        · exact .inl ⟨info, rfl, hready, hpower⟩
        · refine .inr ⟨?_, .inr (.inr (.inr ⟨info.powerState, ?_⟩))⟩
          · rintro other ⟨hother, -, hon⟩
            obtain rfl : info = other := by simpa using hother
            exact hpower hon
          · simp [poll, hanswer, hready, hpower]

/-- The loop sleeps only before the deadline, and never beyond it. -/
theorem poll_sleeps {seconds : Rat}
    (h : (poll p started timeout state observed).2 = .sleeps seconds) :
    (∃ info, Waiting observed info) ∧ observed.now < deadline started timeout ∧
      seconds = min setupPollSeconds (deadline started timeout - observed.now) := by
  rcases poll_cases p started timeout state observed with
    ⟨info, hwaiting⟩ | ⟨-, ⟨info, -, -, hend⟩ | hend | ⟨raised, hend⟩ | ⟨powerState, hend⟩⟩
  · rw [(poll_waiting hwaiting).2] at h
    split at h
    · cases h
    · split at h
      · cases h
      · rename_i hbefore
        have hbefore : observed.now < deadline started timeout := not_le.mp hbefore
        cases h
        refine ⟨⟨info, hwaiting⟩, hbefore, ?_⟩
        rw [max_eq_right (by linarith)]
  all_goals
    rw [hend] at h
    cases h

/-! ## The clocks -/

variable {polls : Nat → Poll}

theorem Reached.mono {i j : Nat} (h : Reached p started timeout polls i) (hij : j ≤ i) :
    Reached p started timeout polls j :=
  fun k hk => h k (lt_of_lt_of_le hk hij)

/-- Before a poll that is made, the VM has been waiting. -/
theorem Reached.waiting {i j : Nat} (h : Reached p started timeout polls i) (hj : j < i) :
    ∃ info, Waiting (polls j) info := by
  obtain ⟨seconds, hsleeps⟩ := h j hj
  exact (poll_sleeps hsleeps).1

end

end InfraOps.SetupWatch
