import InfraOps.Services.Provisioning

/-!
# A retry in its session

`retry_stages` works on an object of the request's database session: the reset changes the
object, the commit writes it to the row, and a violated index leaves the row alone. The
roll-back that follows expires the object's attributes. Reading one of them then needs a
query, which only an awaited call can make; `reservation_conflict` is not awaited.
-/

namespace InfraOps

/-- The session of a request, as far as the job is concerned. -/
structure Session where
  stored : ProvisioningJob
  /-- The loaded attributes of the object; `none` once they have expired. -/
  object : Option ProvisioningJob

namespace Session

/-- A session that has just loaded the job. -/
def load (job : ProvisioningJob) : Session := ⟨job, some job⟩

/-- Reading an attribute outside an awaited call. -/
def read (s : Session) : Except RetryError ProvisioningJob :=
  match s.object with
  | some job => .ok job
  | none => .error .missingGreenlet

def assign (s : Session) (job : ProvisioningJob) : Session := { s with object := some job }

/-- `commit`, or the index that it violates. The attributes stay loaded
(`expire_on_commit=False`). -/
def commit (s : Session) (others : List OtherJob) : Session × Option UniqueConstraint :=
  match s.object with
  | none => (s, none)
  | some job =>
    if job.status.active then
      match violatedReservation others job.vmName job.reservedIpv4 with
      | some violated => (s, some violated)
      | none => ({ s with stored := job }, none)
    else ({ s with stored := job }, none)

def rollback (s : Session) : Session := { s with object := none }

/-- `reset_for_retry`: the reset stages, or the index that its commit violates. -/
def resetForRetry (s : Session) (job : ProvisioningJob) (stageKeys : Option (List Stage))
    (others : List OtherJob) (now : Timestamp) : Session × Except UniqueConstraint (List Stage) :=
  let (job', reset) := JobRepository.resetForRetry job stageKeys now
  if reset = [] then (s, .ok [])
  else
    match (s.assign job').commit others with
    | (s, some violated) => (s, .error violated)
    | (s, none) => (s, .ok reset)

/-- The `except IntegrityError` of `retry_stages`. -/
def translate (s : Session) (violated : UniqueConstraint) :
    Session × Except RetryError (List Stage) :=
  let s := s.rollback
  match s.read with
  | .error error => (s, .error error)
  | .ok job =>
    match reservationConflict violated job.vmName with
    | some conflict => (s, .error (.app conflict))
    | none => (s, .error (.integrity violated))

/-- `retry_stages`. -/
def retryStages (s : Session) (stageKey : Option String) (parses : Bool)
    (others othersAtCommit : List OtherJob) (now : Timestamp) :
    Session × Except RetryError (List Stage) :=
  match s.read with
  | .error error => (s, .error error)
  | .ok job =>
    if !job.status.retriable then (s, .error (.app (notRetriableError job.status)))
    else if !parses then (s, .error (.app legacyRequestError))
    else match selectStages job stageKey with
      | .error error => (s, .error (.app error))
      | .ok stageKeys =>
        if hasActiveJobForVm others job.vmName then
          (s, .error (.app (otherActiveJobError job.vmName)))
        else
          match s.resetForRetry job stageKeys othersAtCommit now with
          | (s, .error violated) => s.translate violated
          | (s, .ok reset) =>
            if reset = [] then (s, .error (.app noFailedStagesError)) else (s, .ok reset)

end Session

/-- The reset makes the row active and keeps what it reserves. -/
theorem resetForRetry_reserves {job : ProvisioningJob} {stageKeys : Option (List Stage)}
    {now : Timestamp} (h : (JobRepository.resetForRetry job stageKeys now).2 ≠ []) :
    let job' := (JobRepository.resetForRetry job stageKeys now).1
    job'.status.active = true ∧ job'.vmName = job.vmName ∧
      job'.reservedIpv4 = job.reservedIpv4 := by
  have hqueued := (JobRepository.resetForRetry_of_ne h).1
  refine ⟨by rw [hqueued]; rfl, ?_, ?_⟩
  · unfold JobRepository.resetForRetry
    dsimp only
    split <;> rfl
  · unfold JobRepository.resetForRetry
    dsimp only
    split <;> rfl

/-- A reset of some stage reaches the commit, where the indexes decide. -/
theorem Session.resetForRetry_of_ne {job : ProvisioningJob} {stageKeys : Option (List Stage)}
    {now : Timestamp} (others : List OtherJob)
    (h : (JobRepository.resetForRetry job stageKeys now).2 ≠ []) :
    (Session.load job).resetForRetry job stageKeys others now =
      let (job', reset) := JobRepository.resetForRetry job stageKeys now
      match violatedReservation others job.vmName job.reservedIpv4 with
      | some violated => (⟨job, some job'⟩, .error violated)
      | none => (⟨job', some job'⟩, .ok reset) := by
  obtain ⟨hactive, hname, hipv4⟩ := resetForRetry_reserves h
  unfold Session.resetForRetry
  dsimp only
  rw [if_neg h]
  simp only [Session.commit, Session.assign, Session.load, hactive, hname, hipv4, if_true]
  cases violatedReservation others job.vmName job.reservedIpv4 <;> rfl

section

variable (job : ProvisioningJob) (stageKey : Option String) (parses : Bool)
  (others othersAtCommit : List OtherJob) (now : Timestamp)

/-- The stored job after the request, and what the request answers. -/
def retryRequest : ProvisioningJob × Except RetryError (List Stage) :=
  let r := (Session.load job).retryStages stageKey parses others othersAtCommit now
  (r.1.stored, r.2)

/-- **The session carries out `retryStages`**: an accepted retry stores the job that it
returns, and a refused one stores nothing. -/
theorem retryRequest_eq : retryRequest job stageKey parses others othersAtCommit now =
    match retryStages job stageKey parses others othersAtCommit now with
    | .ok (job', reset) => (job', .ok reset)
    | .error error => (job, .error error) := by
  unfold retryRequest retryStages Session.retryStages
  simp only [Session.load, Session.read]
  by_cases hstatus : job.status.retriable = true
  · by_cases hparses : parses = true
    · simp only [hstatus, hparses, Bool.not_true, Bool.false_eq_true, if_false]
      cases hkeys : selectStages job stageKey with
      | error error => rfl
      | ok stageKeys =>
        dsimp only
        by_cases hname : hasActiveJobForVm others job.vmName = true
        · simp only [hname, if_true]
        · simp only [hname, Bool.false_eq_true, if_false]
          by_cases hreset : (JobRepository.resetForRetry job stageKeys now).2 = []
          · simp [Session.resetForRetry, hreset]
          · have hcommit := Session.resetForRetry_of_ne othersAtCommit hreset
            simp only [Session.load] at hcommit
            cases hviolated : violatedReservation othersAtCommit job.vmName job.reservedIpv4 with
            | none => simp [hcommit, hviolated, hreset]
            | some violated =>
              simp [hcommit, hviolated, hreset, Session.translate, Session.rollback, Session.read]
    · simp [hstatus, hparses]
  · simp [hstatus]

/-! ## Which retries are clean -/

/-- No check before the reservations refuses the request, and there is something to reset. -/
def Acceptable : Prop :=
  job.status.retriable = true ∧ parses = true ∧
    ∃ stageKeys, selectStages job stageKey = .ok stageKeys ∧
      ∃ k, JobRepository.resets job stageKeys k = true

/-- Another active job holds the VM name when it is checked, or the name or the address when
the reset is committed. -/
def reservationHeld : Bool :=
  hasActiveJobForVm others job.vmName ||
    (violatedReservation othersAtCommit job.vmName job.reservedIpv4).isSome

/-- The request requeues the job, or raises one of the three errors and leaves the stored job
alone; a reservation that is held is a conflict. -/
structure CleanRetry : Prop where
  outcome :
    let r := retryRequest job stageKey parses others othersAtCommit now
    (∃ stageKeys reset, Requeued job stageKeys r.1 ∧ r.2 = .ok reset ∧ reset ≠ []) ∨
      (r.1 = job ∧ ∃ error, r.2 = .error (.app error))
  conflict : Acceptable job stageKey parses → reservationHeld job others othersAtCommit = true →
    ∃ error, (retryRequest job stageKey parses others othersAtCommit now).2 =
      .error (.app error) ∧ error.isConflict = true

/-- The reservation is discovered at the commit: the name was free when it was checked. -/
def FoundAtCommit : Prop :=
  Acceptable job stageKey parses ∧ hasActiveJobForVm others job.vmName = false ∧
    (violatedReservation othersAtCommit job.vmName job.reservedIpv4).isSome = true

variable {job stageKey parses}

theorem retryStages_of_not_acceptable (h : ¬Acceptable job stageKey parses) :
    ∃ error, retryStages job stageKey parses others othersAtCommit now = .error (.app error) := by
  unfold retryStages
  by_cases hstatus : job.status.retriable = true
  · by_cases hparses : parses = true
    · simp only [hstatus, hparses, Bool.not_true, Bool.false_eq_true, if_false]
      cases hkeys : selectStages job stageKey with
      | error error => exact ⟨_, rfl⟩
      | ok stageKeys =>
        have hreset : (JobRepository.resetForRetry job stageKeys now).2 = [] := by
          by_contra hne
          exact h ⟨hstatus, hparses, stageKeys, hkeys,
            JobRepository.resetForRetry_ne_nil_iff.mp hne⟩
        by_cases hname : hasActiveJobForVm others job.vmName = true
        · exact ⟨otherActiveJobError job.vmName, by simp [hname]⟩
        · exact ⟨noFailedStagesError, by simp [hname, hreset]⟩
    · exact ⟨legacyRequestError, by simp [hstatus, hparses]⟩
  · exact ⟨notRetriableError job.status, by simp [hstatus]⟩

/-- The name is checked before the reset, everything else at the commit. -/
theorem retryStages_of_acceptable (h : Acceptable job stageKey parses) :
    ∃ r, retryStages job stageKey parses others othersAtCommit now =
      if hasActiveJobForVm others job.vmName then .error (.app (otherActiveJobError job.vmName))
      else if (violatedReservation othersAtCommit job.vmName job.reservedIpv4).isSome then
        .error .missingGreenlet
      else .ok r := by
  obtain ⟨hstatus, hparses, stageKeys, hkeys, hresets⟩ := h
  have hne : (JobRepository.resetForRetry job stageKeys now).2 ≠ [] :=
    JobRepository.resetForRetry_ne_nil_iff.mpr hresets
  refine ⟨JobRepository.resetForRetry job stageKeys now, ?_⟩
  unfold retryStages
  simp only [hstatus, hparses, hkeys, Bool.not_true, Bool.false_eq_true, if_false]
  cases hviolated : violatedReservation othersAtCommit job.vmName job.reservedIpv4 with
  | none => simp [hne]
  | some violated => simp [hne]

/-- **A retry is clean** unless a reservation is only found to be held at the commit. -/
theorem retry_clean_iff (job : ProvisioningJob) (stageKey : Option String) (parses : Bool)
    (others othersAtCommit : List OtherJob) (now : Timestamp) :
    CleanRetry job stageKey parses others othersAtCommit now ↔
      ¬FoundAtCommit job stageKey parses others othersAtCommit := by
  have heq := retryRequest_eq job stageKey parses others othersAtCommit now
  by_cases hacceptable : Acceptable job stageKey parses
  · obtain ⟨r, hr⟩ := retryStages_of_acceptable others othersAtCommit now hacceptable
    cases hname : hasActiveJobForVm others job.vmName with
    | true =>
      simp only [hname, if_true] at hr
      rw [hr] at heq
      refine iff_of_true ⟨.inr ⟨by rw [heq], _, by rw [heq]⟩, fun _ _ => ⟨_, by rw [heq], rfl⟩⟩ ?_
      intro hfound
      rw [hfound.2.1] at hname
      cases hname
    | false =>
      cases hheld : (violatedReservation othersAtCommit job.vmName job.reservedIpv4).isSome with
      | true =>
        simp only [hname, hheld, if_true, Bool.false_eq_true, if_false] at hr
        rw [hr] at heq
        refine iff_of_false (fun hclean => ?_) fun hnot => hnot ⟨hacceptable, hname, hheld⟩
        obtain ⟨error, herror, -⟩ := hclean.conflict hacceptable (by simp [reservationHeld, hheld])
        rw [heq] at herror
        cases herror
      | false =>
        simp only [hname, hheld, Bool.false_eq_true, if_false] at hr
        obtain ⟨-, stageKeys, hrequeued⟩ := retryStages_requeued hr
        obtain ⟨-, -, hne, -⟩ := retryStages_ok hr
        rw [hr] at heq
        refine iff_of_true ⟨.inl ⟨stageKeys, r.2, ?_, by rw [heq], hne⟩, fun _ h => ?_⟩ ?_
        · rw [heq]
          exact hrequeued
        · simp [reservationHeld, hname, hheld] at h
        · intro hfound
          rw [hfound.2.2] at hheld
          cases hheld
  · obtain ⟨error, herror⟩ :=
      retryStages_of_not_acceptable others othersAtCommit now hacceptable
    rw [herror] at heq
    refine iff_of_true ⟨.inr ⟨by rw [heq], error, by rw [heq]⟩, fun h => absurd h hacceptable⟩ ?_
    exact fun hfound => hacceptable hfound.1

end

/-- A failed job with a static address that a later job has taken over. -/
def failedStaticJob : ProvisioningJob where
  id := "j1"
  vmName := "web01"
  status := .failed
  queuedAt := 0
  reservedIpv4 := some "10.0.0.5"
  steps k := if k = .validateRequest then some { status := .failed } else none

def addressHolder : OtherJob := ⟨"web02", .running, some "10.0.0.5"⟩

/-- The VM name is free, the address is not: the request ends with `MissingGreenlet`. -/
theorem retry_of_held_address_unhandled :
    (retryRequest failedStaticJob none true [addressHolder] [addressHolder] 5).2 =
        .error .missingGreenlet ∧
      ¬CleanRetry failedStaticJob none true [addressHolder] [addressHolder] 5 := by
  have hend : (retryRequest failedStaticJob none true [addressHolder] [addressHolder] 5).2 =
      .error .missingGreenlet := by decide +kernel
  refine ⟨hend, fun hclean => ?_⟩
  rcases hclean.outcome with ⟨-, reset, -, hreset, -⟩ | ⟨-, error, herror⟩
  · rw [hend] at hreset
    cases hreset
  · rw [hend] at herror
    cases herror

end InfraOps
