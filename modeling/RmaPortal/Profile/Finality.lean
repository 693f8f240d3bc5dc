import RmaPortal.Profile.Tasks

/-!
# An unconfirmed close is final

The process runs polls, checks and logins, any number of them and interleaved in any way.
`close_is_final` says what that means for the profile: there is one holder at most; a reader that
was entered is closed exactly once, and the lock is released if and only if its close was
confirmed; and when it was not, the profile is lost for the rest of the process.

## What is here

* `Job`, `Job.program`, `Process`, `Runs` — the programs that use the profile, and the process:
  what its tasks share, and the tasks.  A run is any number of turns of any tasks.
* `Holds`, `OneHolder` — who has acquired the lock and not let go of it, by the history of the
  tasks; and that there is one at most, in the state as well as by the histories.
* `ClosePromise` — of a task that has entered a reader: when it is over, the browser has been
  closed exactly once, and the lock was released if and only if that was confirmed.
* `Unconfirmed`, `LostFrom` — the profile is in the registry and its lock is held; and it is lost:
  it stays so, no lock is acquired or released any more, nobody reports the session ready, and
  whoever tries gets the error that names the profile.
* `phase_job`, `process_meets` — every program keeps to the protocol of `Profile.Exclusion`, and
  so every state of the process meets it.
* `over_of_closing`, `closed_of_over`, `unconfirmed_of_over` — what the protocol says about one
  task: once its browser has been asked to close, it goes through to its end in one turn.
* `locked_of_shut`, `close_is_final` — what it says about the rest of the run.
* `closeTooLong`, `close_is_final_tooLong` — a check whose browser takes too long to close.

The opening of a reader can fail after the browser has started; `Profile.Opening` is about that,
and nothing is promised of it here, since no reader has been entered.
-/

set_option autoImplicit false

open Coroutine

namespace RmaPortal

/-! ## The process -/

/-- What the process does with the profile. -/
inductive Job
  /-- `SyncAgreementQueue.execute` -/
  | poll
  /-- `SyncAgreementQueue.verify_session` -/
  | check (timeoutSeconds : ℕ)
  /-- `SessionConnector._run_login` -/
  | login

/-- What comes of it. -/
inductive JobResult
  | polled (result : SyncResult)
  | checked (ready : Bool)
  | loggedIn (verify : Bool)

/-- The program of a job. -/
def Job.program (settings : Settings) : Job → Prog JobResult
  | poll => do
    let result ← SyncAgreementQueue.execute
      (camoufoxPortalReaderFactory settings.toReaderSettings)
    pure (.polled result)
  | check timeoutSeconds => do
    let ready ← SyncAgreementQueue.verifySession
      (camoufoxPortalReaderFactory settings.toReaderSettings) timeoutSeconds
    pure (.checked ready)
  | login => do
    let verify ← runLogin settings
    pure (.loggedIn verify)

/-- The process: what its tasks share, and the tasks. -/
abbrev Process : Type := Pool Request.Val Exn JobResult World

/-- From one state of the process to another, by the turns `ls` of its tasks. -/
abbrev Runs (settings : Settings) (p : Process) (ls : List (ℕ × List Happening)) (p' : Process) :
    Prop :=
  Pool.Steps world suspends (fun c ↦ ∃ job : Job, c = job.program settings) p ls p'

/-- The task opens a reader: it is a poll or a check. -/
def OpensReader (settings : Settings) (task : Task Request.Val Exn JobResult) : Prop :=
  task.program = Job.poll.program settings ∨
    ∃ timeoutSeconds, task.program = (Job.check timeoutSeconds).program settings

/-- According to its history the task has acquired the lock and not let go of it. -/
def Holds (t : List Happening) (l : FileLock) : Prop :=
  ⟨.portal (.acquire l), .ok ()⟩ ∈ t ∧ ⟨.portal (.release l), .ok ()⟩ ∉ t ∧
    ⟨.portal (.forget l), .ok ()⟩ ∉ t

/-! ## What is promised -/

/-- The profile is in the registry, and the lock is held. -/
def Unconfirmed (settings : Settings) (lock : FileLock) (p : Process) : Prop :=
  (∃ entry, p.state.portal.unconfirmed.find? settings.lockPath = some entry ∧ entry.lock = lock) ∧
    lock ∈ p.state.portal.held

/-- The profile is lost: it stays in the registry and the lock held, no lock is acquired or released
any more, nobody reports the session ready, and whoever tries to acquire the profile is told so. -/
def LostFrom (settings : Settings) (lock : FileLock) (p : Process) : Prop :=
  ∀ ls p', Runs settings p ls p' → Unconfirmed settings lock p' ∧
    ∀ l ∈ ls, (∀ e ∈ l.2, Shut settings.lockPath e) ∧
      ∀ t₁ t₂ t₃ o, l.2 = t₁ ++ (t₂ ++ t₃) →
        Ends (acquireProfileLock settings.toProfilePaths) t₂ o →
        ∃ message, o = .error (.browserProfileLockedError message)

/-- At most one holder. -/
structure OneHolder (p : Process) : Prop where
  /-- At most one lock is held. -/
  lock : ∀ l ∈ p.state.portal.held, ∀ l' ∈ p.state.portal.held, l = l'
  /-- Who has acquired a lock and not let go of it does hold it. -/
  held : ∀ i task l, p.tasks i = some task → Holds task.history l → l ∈ p.state.portal.held
  /-- No two tasks hold a lock. -/
  task : ∀ i j task task' l l', p.tasks i = some task → p.tasks j = some task' →
    Holds task.history l → Holds task'.history l' → i = j

/-- What is promised of the close of a reader that a task has entered. -/
structure ClosePromise (settings : Settings) (p : Process) (task : Task Request.Val Exn JobResult)
    (reader : CamoufoxReader) : Prop where
  /-- When the task is over, the browser has been closed exactly once. -/
  once : ∀ o, task.rest = .done o → ∃ c, closings task.history = [(reader.manager, c)]
  /-- The lock has been released if and only if the close was confirmed. -/
  released : ∀ c, (reader.manager, c) ∈ closings task.history →
    (⟨.portal (.release reader.lock), .ok ()⟩ ∈ task.history ↔ c = .ok ()) ∧
      (reader.lock ∉ p.state.portal.held ↔ c = .ok ())
  /-- When the close was not confirmed, the profile is lost, and the task has not reported that the
  session is ready. -/
  final : ∀ e, (reader.manager, .error e) ∈ closings task.history →
    LostFrom settings reader.lock p ∧ (∀ e ∈ task.history, Happening.reportsReady e = false) ∧
      task.rest ≠ .done (.ok (.checked true))

section

variable {settings : Settings}

/-! ## The jobs meet the protocol -/

/-- What a job makes sure of. -/
def Job.Post (settings : Settings) :
    Job → List Happening → Except Exn JobResult → Phase → Prop
  | login, _, _, _ => True
  | _, t, o, q =>
    Uses settings.toReaderSettings t q ∧ (o = .ok (.checked true) → q.confirmed = true)

theorem phase_job (job : Job) :
    Sat (phases settings.lockPath) (job.program settings) .free (job.Post settings) := by
  cases job with
  | poll =>
    refine sat_bind (c := SyncAgreementQueue.execute
      (camoufoxPortalReaderFactory settings.toReaderSettings))
      phase_execute ?_ fun _ _ _ h ↦ ⟨h.1, by simp⟩
    rintro t result q ⟨huses, -⟩
    rw [← List.append_nil t] at huses
    exact ⟨huses, fun ho ↦ by cases ho⟩
  | check timeoutSeconds =>
    refine sat_bind (c := SyncAgreementQueue.verifySession
      (camoufoxPortalReaderFactory settings.toReaderSettings) timeoutSeconds)
      phase_verifySession ?_ fun _ _ _ h ↦ ⟨h.1, by simp⟩
    rintro t ready q ⟨huses, hready⟩
    rw [← List.append_nil t] at huses
    refine ⟨huses, fun ho ↦ hready ?_⟩
    cases ho
    rfl
  | login =>
    exact sat_bind phase_runLogin (fun _ _ _ _ ↦ trivial) fun _ _ _ _ ↦ trivial

/-- What a program of a job makes sure of. -/
def ProgramPost (settings : Settings) (c : Prog JobResult) (t : List Happening)
    (o : Except Exn JobResult) (q : Phase) : Prop :=
  ∀ job : Job, c = job.program settings → job.Post settings t o q

theorem phase_program (c : Prog JobResult) (hc : ∃ job : Job, c = job.program settings) :
    Sat (phases settings.lockPath) c .free (ProgramPost settings c) := by
  obtain ⟨job₀, hjob₀⟩ := hc
  have : Nonempty { job : Job // c = job.program settings } := ⟨⟨job₀, hjob₀⟩⟩
  refine (Sat.forall (ι := { job : Job // c = job.program settings })
    (Q := fun job ↦ job.1.Post settings) fun ⟨job, hjob⟩ ↦ hjob ▸ phase_job job).mono
    fun t o q h job hjob ↦ h ⟨job, hjob⟩

/-- **Every state of the process meets the protocol.** -/
theorem process_meets {w : World} (hw : w.portal = .start) {ls : List (ℕ × List Happening)}
    {p : Process} (h : Runs settings (Pool.empty w) ls p) :
    ∃ θ, (profileProtocol settings.lockPath).Meets (ProgramPost settings) p θ := by
  have hinv : (profileProtocol settings.lockPath).inv w fun _ ↦ .free := by
    show ProfileInv settings.lockPath w.portal fun _ ↦ .free
    rw [hw]
    exact .start
  exact Protocol.sound (P := profileProtocol settings.lockPath) phase_program (.empty hinv) h

variable {p : Process} {θ : ℕ → Phase} {i : ℕ} {task : Task Request.Val Exn JobResult}
  {reader : CamoufoxReader}

/-! ## What the protocol says about a task -/

theorem oneHolder_of_meets
    (h : (profileProtocol settings.lockPath).Meets (ProgramPost settings) p θ) : OneHolder p := by
  have hinv : ProfileInv settings.lockPath p.state.portal θ := h.inv
  have hphase : ∀ {i task l}, p.tasks i = some task → Holds task.history l →
      (θ i).lock? = some l ∧ (θ i).holds = true := by
    rintro i task l htask ⟨hacquired, hreleased, hforgotten⟩
    obtain ⟨hlock, hholds⟩ := holds_of_path (h.task i task htask).path hacquired
    exact ⟨hlock, (hholds.resolve_right fun hor ↦ hor.elim hreleased hforgotten)⟩
  have hheld : ∀ i task l, p.tasks i = some task → Holds task.history l →
      l ∈ p.state.portal.held := fun i task l htask hholds ↦
    (hinv.fits i).held (hphase htask hholds).1 (hphase htask hholds).2
  refine ⟨hinv.single, hheld, fun i j task task' l l' hi hj hl hl' ↦ ?_⟩
  have hsame : l = l' := hinv.single l (hheld i task l hi hl) l' (hheld j task' l' hj hl')
  exact hinv.owner i j l (hphase hi hl).1 (hsame ▸ (hphase hj hl').1)

/-- A task whose browser has been asked to close, and has answered, is over. -/
theorem over_of_closing (h : (profileProtocol settings.lockPath).TaskMeets (ProgramPost settings)
    task (θ i)) {m : ManagerId} {c : Except Exn Unit} (hc : (m, c) ∈ closings task.history) :
    ∃ o, task.rest = .done o := by
  cases hrest : task.rest with
  | done o => exact ⟨o, rfl⟩
  | ask r k =>
    have hsuspends := h.rest
    have hsat := h.sat
    rw [hrest] at hsuspends hsat
    have hwait := canWait_of_pre hsuspends hsat.1
    rw [canWait_of_closing h.path (mem_closings.mp hc)] at hwait
    cases hwait

/-- When a task is over, the use of a reader it has entered has ended. -/
theorem closed_of_over (h : (profileProtocol settings.lockPath).TaskMeets (ProgramPost settings)
    task (θ i)) {o : Except Exn JobResult} (hover : task.rest = .done o)
    (hopens : OpensReader settings task)
    (hentered : Entered settings.toReaderSettings task.history reader) :
    (θ i).Closed reader := by
  have hpost := h.over hover
  rcases hopens with hprogram | ⟨timeoutSeconds, hprogram⟩
  · exact Uses.closed (hpost _ hprogram).1 h.path hentered
  · exact Uses.closed (hpost _ hprogram).1 h.path hentered

/-- A task that is over and has entered a reader has closed it once; and when that was not confirmed
the registry keeps the lock. -/
theorem unconfirmed_of_over
    (h : (profileProtocol settings.lockPath).Meets (ProgramPost settings) p θ)
    (htask : p.tasks i = some task) (hopens : OpensReader settings task)
    (hentered : Entered settings.toReaderSettings task.history reader)
    {o : Except Exn JobResult} (hover : task.rest = .done o) {e : Exn}
    (he : (reader.manager, .error e) ∈ closings task.history) :
    Unconfirmed settings reader.lock p := by
  have hmeets := h.task i task htask
  have hinv : ProfileInv settings.lockPath p.state.portal θ := h.inv
  have hfits := hinv.fits i
  rw [closings_of_path hmeets.path] at he
  obtain ⟨_, ⟨-, hq⟩ | ⟨-, e', hq⟩⟩ := closed_of_over hmeets hover hopens hentered
  · rw [hq] at he
    simp [Phase.closings] at he
  · rw [hq] at hfits
    exact ⟨hfits.2, hfits.1⟩

/-- Whoever looks and finds the entry cannot acquire the profile. -/
theorem locked_of_shut {paths : ProfilePaths} {t : List Happening} {o : Except Exn FileLock}
    (h : Ends (acquireProfileLock paths) t o) (hshut : ∀ e ∈ t, Shut paths.lockPath e) :
    ∃ message, o = .error (.browserProfileLockedError message) := by
  obtain ⟨a, _, t, -, rfl, h⟩ := h
  obtain ⟨-, entry, rfl⟩ := hshut _ List.mem_cons_self
  obtain ⟨-, rfl, -⟩ := h
  exact ⟨_, rfl⟩

/-- **An unconfirmed close is final**, in every state the process can reach: there is one holder of
the profile at most, and the close of every reader that a poll or a check has entered keeps what is
promised of it. -/
theorem close_is_final {w : World} (hw : w.portal = .start) {ls : List (ℕ × List Happening)}
    (hrun : Runs settings (Pool.empty w) ls p) :
    OneHolder p ∧ ∀ i task reader, p.tasks i = some task → OpensReader settings task →
      Entered settings.toReaderSettings task.history reader →
        ClosePromise settings p task reader := by
  obtain ⟨θ, hmeets⟩ := process_meets hw hrun
  refine ⟨oneHolder_of_meets hmeets, fun i task reader htask hopens hentered ↦ ?_⟩
  have htaskMeets := hmeets.task i task htask
  have hinv : ProfileInv settings.lockPath p.state.portal θ := hmeets.inv
  have hfits := hinv.fits i
  have hclosings := closings_of_path htaskMeets.path
  constructor
  case once =>
    intro o hover
    rw [hclosings]
    obtain ⟨_, ⟨-, hq⟩ | ⟨-, e, hq⟩⟩ := closed_of_over htaskMeets hover hopens hentered <;>
      rw [hq] <;> exact ⟨_, rfl⟩
  case released =>
    intro c hc
    obtain ⟨o, hover⟩ := over_of_closing htaskMeets hc
    rw [released_of_path htaskMeets.path]
    rw [hclosings] at hc
    obtain ⟨_, ⟨-, hq⟩ | ⟨-, e, hq⟩⟩ := closed_of_over htaskMeets hover hopens hentered
    · rw [hq] at hc hfits ⊢
      obtain rfl : c = .ok () := by simpa [Phase.closings] using hc
      exact ⟨by simp [Phase.released?], fun _ ↦ rfl, fun _ ↦ hfits⟩
    · rw [hq] at hc hfits ⊢
      obtain rfl : c = .error e := by simpa [Phase.closings] using hc
      exact ⟨by simp [Phase.released?], by simpa using hfits.1⟩
  case final =>
    intro e he
    obtain ⟨o, hover⟩ := over_of_closing htaskMeets he
    have hnotConfirmed : (θ i).confirmed ≠ true := by
      intro hconfirmed
      rw [hclosings] at he
      generalize θ i = q at hconfirmed he
      unfold Phase.confirmed at hconfirmed
      split at hconfirmed
      · simp [Phase.closings] at he
      · cases hconfirmed
    refine ⟨fun ls' p' hrun' ↦ ⟨?_, fun l hl ↦ ?_⟩, fun event hevent ↦ ?_, fun htrue ↦ ?_⟩
    · -- the task is over, so it is the same in every later state
      obtain ⟨θ', hmeets'⟩ := process_meets hw (hrun.trans hrun')
      exact unconfirmed_of_over hmeets' (hrun'.over htask hover) hopens hentered hover he
    · have hregistered : p.state.portal.unconfirmed.find? settings.lockPath ≠ none := by
        obtain ⟨⟨entry, hfind, -⟩, -⟩ :=
          unconfirmed_of_over hmeets htask hopens hentered hover he
        simp [hfind]
      have hshut := (Protocol.steps_stable (P := profileProtocol settings.lockPath) phase_program
        (registered_stable settings.lockPath) hmeets hrun' hregistered).2 l hl
      refine ⟨hshut, fun t₁ t₂ t₃ o' ht hends ↦ locked_of_shut hends fun event hevent ↦ ?_⟩
      exact hshut event (by rw [ht]; simp [hevent])
    · by_contra hready
      exact hnotConfirmed (confirmed_of_path htaskMeets.path event hevent (by simpa using hready))
    · have hpost := htaskMeets.over htrue
      rcases hopens with hprogram | ⟨timeoutSeconds, hprogram⟩
      · exact hnotConfirmed ((hpost _ hprogram).2 rfl)
      · exact hnotConfirmed ((hpost _ hprogram).2 rfl)

end

/-- A task takes a turn, and a close takes too long. -/
def turnTooLong (p : Process) : Process :=
  p.turnWith serve (closeEndsWith (.cancelledError true) 0) suspends 0

/-- A new process checks the session, and the close of the browser takes too long. -/
def closeTooLong : Process :=
  turnTooLong <| turnTooLong <| turnTooLong <| turnTooLong <|
    (Pool.empty World.start).spawnWith serve (closeEndsWith (.cancelledError true) 0) suspends 0 <|
      (Job.check 45).program .standard

/-- From then on its profile is lost. -/
theorem close_is_final_tooLong : LostFrom .standard ⟨0, "data/profile.lock"⟩ closeTooLong := by
  have hjob : ∃ job : Job, (Job.check 45).program .standard = job.program .standard := ⟨_, rfl⟩
  have hturn : ∀ {p}, (∃ ls, Runs .standard (Pool.empty World.start) ls p) →
      ∃ ls, Runs .standard (Pool.empty World.start) ls (turnTooLong p) :=
    Pool.Steps.exists_turnWith 0
  obtain ⟨ls, hrun⟩ : ∃ ls, Runs .standard (Pool.empty World.start) ls closeTooLong :=
    hturn <| hturn <| hturn <| hturn <| Pool.exists_spawnWith rfl hjob
  have hsome : (closeTooLong.tasks 0).isSome = true := rfl
  let task := (closeTooLong.tasks 0).get hsome
  have hentered : Entered ReaderSettings.standard task.history
      ⟨(0 : ℕ), ⟨0, "data/profile.lock"⟩⟩ :=
    ⟨task.history.take 4, _, task.history.drop 13, rfl,
      (exec_run serve (fun _ ↦ routine) (CamoufoxReader.aenter .standard) 0 World.start).ends⟩
  have hclosing : ((0 : ℕ), .error (.cancelledError true)) ∈ closings task.history :=
    List.mem_singleton_self _
  exact (((close_is_final rfl hrun).2 0 task _ rfl (Or.inr ⟨45, rfl⟩) hentered).final _ hclosing).1

end RmaPortal
