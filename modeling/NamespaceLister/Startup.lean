/-
The program from `buildAndStartSynchronizedAccessCache` on.

Threads of the system: the startup code, which registers the event handlers,
starts the goroutines and then calls `Synch` itself; the worker goroutine of
`Start`, which takes a request off the channel and calls `Synch`; the timer; the
handlers of the informers; and the cluster, which changes the resources.  A
handler call is outstanding from the change it announces to its `Request`.
-/

import NamespaceLister.SynchSteps

namespace NamespaceLister

open Library

universe u

/-- The list `oo`, in the order of registration. -/
def watchedKinds : List Kind :=
  [.nspace, .clusterRoleBinding, .roleBinding, .clusterRole, .role]

theorem mem_watchedKinds (kind : Kind) : kind ∈ watchedKinds := by
  cases kind <;> decide

inductive StartupError where
  | metrics (cause : GoString)
  | informer (cause : GoString)
  | synch (err : SynchError)
deriving DecidableEq

inductive StartupPc where
  | metrics
  | registering (remaining : List Kind)
  | synching
  | returned (result : Option StartupError)
deriving DecidableEq

inductive WorkerPc where
  | notStarted
  | waiting
  | synching
  | terminated
deriving DecidableEq

inductive Thread where
  | startup
  | worker
deriving DecidableEq

/-- What `errors.Is` finds: no error wraps another here. -/
def isSynchAlreadyRunningErr (err : Option SynchError) : Bool :=
  err == some .synchAlreadyRunning

/-- The errors the worker hands to `syncErrorHandler`.  The default handler, which
startup leaves in place, writes a log line. -/
def workerReports (err : Option SynchError) : List SynchError :=
  if isSynchAlreadyRunningErr err then err.toList else []

/-- An outstanding handler call holds the time of the change it announces, or
nothing when it delivers an object that was there at registration.  The times of
the announced changes and of the last `Request` are records only. -/
structure StartupState (rt : Runtime) (W : Type u) where
  shared : Shared rt W
  threads : Thread → SynchPc rt
  startup : StartupPc
  worker : WorkerPc
  timer : Bool
  registered : List Kind
  outstanding : List (Option Nat)
  notified : List Nat
  lastRequest : Option Nat
  reported : List SynchError

inductive StartupLabel (W : Type u) where
  | metricsRegistered
  | metricsFails (cause : GoString)
  | register (existing : Nat)
  | registerFails (cause : GoString)
  | start
  | startupSynch (action : SynchAction)
  | startupReturns
  | change (kind : Kind) (world : W)
  | handle (index : Nat)
  | timerFires
  | dequeue
  | workerSynch (action : SynchAction)
  | workerResumes
  | workerStops
  | timerStops

namespace StartupState

variable {rt : Runtime} {W : Type u}

def initial (rt : Runtime) (world : W) : StartupState rt W :=
  { shared := Shared.initial rt world
    threads := fun _ => .idle
    startup := .metrics
    worker := .notStarted
    timer := false
    registered := []
    outstanding := []
    notified := []
    lastRequest := none
    reported := [] }

def tick (state : StartupState rt W) : StartupState rt W :=
  { state with shared := state.shared.tick }

def setRequested (state : StartupState rt W) (requested : Channel 1) : StartupState rt W :=
  { state with
    shared := { state.shared with cache := { state.shared.cache with requested := requested } } }

def request (state : StartupState rt W) (announced : Option Nat) : StartupState rt W :=
  { state.setRequested state.shared.cache.requested.trySend.1 with
    notified := announced.toList ++ state.notified
    lastRequest := some state.shared.now }

def moveThread (state : StartupState rt W) (thread : Thread) (shared : Shared rt W)
    (pc : SynchPc rt) : StartupState rt W :=
  { state with
    shared := shared
    threads := Function.update state.threads thread pc }

/-- The worker waits at its select, the channel is empty, no Synch runs and no
handler call is outstanding. -/
def quiescent (state : StartupState rt W) : Prop :=
  state.worker = .waiting ∧ state.shared.cache.requested.length = 0 ∧
    (∀ thread, (state.threads thread).inside = false) ∧ state.outstanding = []

end StartupState

section Steps

variable {rt : Runtime} {W : Type u} (resources : ResourceReader W)

def startupAct (state : StartupState rt W) : StartupLabel W → Option (StartupState rt W)
  | .metricsRegistered =>
      match state.startup with
      | .metrics => some { state with startup := .registering watchedKinds }
      | _ => none
  | .metricsFails cause =>
      match state.startup with
      | .metrics => some { state with startup := .returned (some (.metrics cause)) }
      | _ => none
  | .register existing =>
      match state.startup with
      | .registering (kind :: rest) =>
          -- the informer delivers the objects it holds to the new handler
          some { state with
            startup := .registering rest
            registered := kind :: state.registered
            outstanding := state.outstanding ++ List.replicate existing none }
      | _ => none
  | .registerFails cause =>
      match state.startup with
      | .registering (_ :: _) =>
          some { state with startup := .returned (some (.informer cause)) }
      | _ => none
  | .start =>
      match state.startup with
      | .registering [] =>
          some { state.moveThread .startup state.shared .start with
            startup := .synching
            worker := .waiting
            timer := true }
      | _ => none
  | .startupSynch action =>
      match state.startup, synchStep resources state.shared (state.threads .startup) action with
      | .synching, some (shared, next) => some (state.moveThread .startup shared next)
      | _, _ => none
  | .startupReturns =>
      match state.startup, state.threads .startup with
      | .synching, .returned result =>
          some { state with startup := .returned (result.map .synch) }
      | _, _ => none
  | .change kind world =>
      some { state with
        shared := state.shared.change world
        outstanding :=
          if kind ∈ state.registered then state.outstanding ++ [some state.shared.now]
          else state.outstanding }
  | .handle index =>
      match state.outstanding[index]? with
      | some announced =>
          some { state.request announced with outstanding := state.outstanding.eraseIdx index }
      | none => none
  | .timerFires => if state.timer then some (state.request none) else none
  | .dequeue =>
      match state.worker, state.shared.cache.requested.receive with
      | .waiting, some requested =>
          let received := state.setRequested requested
          some { received.moveThread .worker received.shared .start with worker := .synching }
      | _, _ => none
  | .workerSynch action =>
      match state.worker, synchStep resources state.shared (state.threads .worker) action with
      | .synching, some (shared, next) => some (state.moveThread .worker shared next)
      | _, _ => none
  | .workerResumes =>
      match state.worker, state.threads .worker with
      | .synching, .returned result =>
          some { state.moveThread .worker state.shared .idle with
            worker := .waiting
            reported := state.reported ++ workerReports result }
      | _, _ => none
  | .workerStops =>
      match state.worker with
      | .waiting => some { state with worker := .terminated }
      | _ => none
  | .timerStops => if state.timer then some { state with timer := false } else none

def startupMachine : Machine (StartupState rt W) (StartupLabel W) :=
  { step := fun state label => (startupAct resources state label).map StartupState.tick }

inductive StartupEffect (state : StartupState rt W) :
    StartupLabel W → StartupState rt W → Prop where
  | metricsRegistered (now : state.startup = .metrics) :
      StartupEffect state .metricsRegistered { state with startup := .registering watchedKinds }
  | metricsFailed (cause : GoString) (now : state.startup = .metrics) :
      StartupEffect state (.metricsFails cause)
        { state with startup := .returned (some (.metrics cause)) }
  | registered (kind : Kind) (rest : List Kind) (existing : Nat)
      (now : state.startup = .registering (kind :: rest)) :
      StartupEffect state (.register existing)
        { state with
          startup := .registering rest
          registered := kind :: state.registered
          outstanding := state.outstanding ++ List.replicate existing none }
  | registerFailed (kind : Kind) (rest : List Kind) (cause : GoString)
      (now : state.startup = .registering (kind :: rest)) :
      StartupEffect state (.registerFails cause)
        { state with startup := .returned (some (.informer cause)) }
  | started (now : state.startup = .registering []) :
      StartupEffect state .start
        { state.moveThread .startup state.shared .start with
          startup := .synching
          worker := .waiting
          timer := true }
  | startupSynched (action : SynchAction) (shared : Shared rt W) (next : SynchPc rt)
      (now : state.startup = .synching)
      (stepped : synchStep resources state.shared (state.threads .startup) action =
        some (shared, next)) :
      StartupEffect state (.startupSynch action) (state.moveThread .startup shared next)
  | startupReturned (result : Option SynchError) (now : state.startup = .synching)
      (at_ : state.threads .startup = .returned result) :
      StartupEffect state .startupReturns
        { state with startup := .returned (result.map .synch) }
  | changed (kind : Kind) (world : W) :
      StartupEffect state (.change kind world)
        { state with
          shared := state.shared.change world
          outstanding :=
            if kind ∈ state.registered then state.outstanding ++ [some state.shared.now]
            else state.outstanding }
  | handled (index : Nat) (announced : Option Nat)
      (found : state.outstanding[index]? = some announced) :
      StartupEffect state (.handle index)
        { state.request announced with outstanding := state.outstanding.eraseIdx index }
  | timerFired (running : state.timer = true) :
      StartupEffect state .timerFires (state.request none)
  | dequeued (requested : Channel 1) (now : state.worker = .waiting)
      (received : state.shared.cache.requested.receive = some requested) :
      StartupEffect state .dequeue
        { (state.setRequested requested).moveThread .worker (state.setRequested requested).shared
            .start with worker := .synching }
  | workerSynched (action : SynchAction) (shared : Shared rt W) (next : SynchPc rt)
      (now : state.worker = .synching)
      (stepped : synchStep resources state.shared (state.threads .worker) action =
        some (shared, next)) :
      StartupEffect state (.workerSynch action) (state.moveThread .worker shared next)
  | workerResumed (result : Option SynchError) (now : state.worker = .synching)
      (at_ : state.threads .worker = .returned result) :
      StartupEffect state .workerResumes
        { state.moveThread .worker state.shared .idle with
          worker := .waiting
          reported := state.reported ++ workerReports result }
  | workerStopped (now : state.worker = .waiting) :
      StartupEffect state .workerStops { state with worker := .terminated }
  | timerStopped (running : state.timer = true) :
      StartupEffect state .timerStops { state with timer := false }

theorem startupAct_effect {state next : StartupState rt W} {label : StartupLabel W}
    (acted : startupAct resources state label = some next) :
    StartupEffect resources state label next := by
  cases label with
  | metricsRegistered =>
      simp only [startupAct] at acted
      split at acted
      · rename_i now
        cases acted
        exact .metricsRegistered now
      · cases acted
  | metricsFails cause =>
      simp only [startupAct] at acted
      split at acted
      · rename_i now
        cases acted
        exact .metricsFailed cause now
      · cases acted
  | register existing =>
      simp only [startupAct] at acted
      split at acted
      · rename_i kind rest now
        cases acted
        exact .registered kind rest existing now
      · cases acted
  | registerFails cause =>
      simp only [startupAct] at acted
      split at acted
      · rename_i kind rest now
        cases acted
        exact .registerFailed kind rest cause now
      · cases acted
  | start =>
      simp only [startupAct] at acted
      split at acted
      · rename_i now
        cases acted
        exact .started now
      · cases acted
  | startupSynch action =>
      simp only [startupAct] at acted
      split at acted
      · rename_i shared pc now stepped
        cases acted
        exact .startupSynched action shared pc now stepped
      · cases acted
  | startupReturns =>
      simp only [startupAct] at acted
      split at acted
      · rename_i result now at_
        cases acted
        exact .startupReturned result now at_
      · cases acted
  | change kind world =>
      cases acted
      exact .changed kind world
  | handle index =>
      simp only [startupAct] at acted
      split at acted
      · rename_i announced found
        cases acted
        exact .handled index announced found
      · cases acted
  | timerFires =>
      simp only [startupAct] at acted
      split at acted
      · rename_i running
        cases acted
        exact .timerFired running
      · cases acted
  | dequeue =>
      simp only [startupAct] at acted
      split at acted
      · rename_i requested now received
        cases acted
        exact .dequeued requested now received
      · cases acted
  | workerSynch action =>
      simp only [startupAct] at acted
      split at acted
      · rename_i shared pc now stepped
        cases acted
        exact .workerSynched action shared pc now stepped
      · cases acted
  | workerResumes =>
      simp only [startupAct] at acted
      split at acted
      · rename_i result now at_
        cases acted
        exact .workerResumed result now at_
      · cases acted
  | workerStops =>
      simp only [startupAct] at acted
      split at acted
      · rename_i now
        cases acted
        exact .workerStopped now
      · cases acted
  | timerStops =>
      simp only [startupAct] at acted
      split at acted
      · rename_i running
        cases acted
        exact .timerStopped running
      · cases acted

theorem startupMachine_effect {state next : StartupState rt W} {label : StartupLabel W}
    (stepped : (startupMachine resources).step state label = some next) :
    ∃ untimed, StartupEffect resources state label untimed ∧ next = untimed.tick := by
  obtain ⟨untimed, acted, ticked⟩ := Option.map_eq_some_iff.mp stepped
  exact ⟨untimed, startupAct_effect resources acted, ticked.symm⟩

end Steps

/-! ### Invariants of every run -/

section Invariants

variable {rt : Runtime} {W : Type u} {resources : ResourceReader W}
variable {state next : StartupState rt W} {label : StartupLabel W}

@[simp]
theorem StartupState.moveThread_same (state : StartupState rt W) (thread : Thread)
    (shared : Shared rt W) (pc : SynchPc rt) :
    (state.moveThread thread shared pc).threads thread = pc := by
  simp only [StartupState.moveThread, Function.update_self]

theorem StartupState.moveThread_other (state : StartupState rt W) {thread other : Thread}
    (different : other ≠ thread) (shared : Shared rt W) (pc : SynchPc rt) :
    (state.moveThread thread shared pc).threads other = state.threads other := by
  simp only [StartupState.moveThread, Function.update_of_ne different]

theorem StartupState.moveThread_worker (state : StartupState rt W) (shared : Shared rt W)
    (pc : SynchPc rt) :
    (state.moveThread .worker shared pc).threads .startup = state.threads .startup :=
  state.moveThread_other (by decide) shared pc

theorem StartupState.moveThread_startup (state : StartupState rt W) (shared : Shared rt W)
    (pc : SynchPc rt) :
    (state.moveThread .startup shared pc).threads .worker = state.threads .worker :=
  state.moveThread_other (by decide) shared pc

def StartupPc.unregistered : StartupPc → List Kind
  | .metrics => watchedKinds
  | .registering remaining => remaining
  | .synching => []
  | .returned none => []
  | .returned (some _) => watchedKinds

def StartupPc.early : StartupPc → Bool
  | .metrics => true
  | .registering _ => true
  | _ => false

def StartupPc.fits : StartupPc → SynchPc rt → Prop
  | .metrics, pc => pc = .idle
  | .registering _, pc => pc = .idle
  | .synching, pc => pc ≠ .idle
  | .returned none, pc => pc = .returned none
  | .returned (some _), pc => pc.inside = false

structure Wired (state : StartupState rt W) : Prop where
  fits : state.startup.fits (state.threads .startup)
  unstarted : state.startup.early = true → state.worker = .notStarted
  resting : state.worker ≠ .synching → state.threads .worker = .idle
  watched : ∀ kind, kind ∈ state.registered ∨ kind ∈ state.startup.unregistered

theorem synchStep_ne_idle {shared after : Shared rt W} {pc pcAfter : SynchPc rt}
    {action : SynchAction}
    (stepped : synchStep resources shared pc action = some (after, pcAfter)) :
    pcAfter ≠ .idle := by
  cases synchStep_effect resources stepped <;> nofun

theorem wired_initial (world : W) : Wired (StartupState.initial rt world) := by
  constructor
  · rfl
  · intro _early
    rfl
  · intro _resting
    rfl
  · intro kind
    exact Or.inr (mem_watchedKinds kind)

theorem wired_step (wired : Wired state) (effect : StartupEffect resources state label next) :
    Wired next := by
  obtain ⟨fits, unstarted, resting, watched⟩ := wired
  have late : state.worker ≠ .notStarted → state.startup.early = true → False :=
    fun started early => started (unstarted early)
  cases effect with
  | metricsRegistered now =>
      rw [now] at fits unstarted watched
      exact ⟨fits, unstarted, resting, watched⟩
  | metricsFailed cause now =>
      rw [now] at fits unstarted watched
      refine ⟨?_, nofun, resting, watched⟩
      change (state.threads .startup).inside = false
      rw [fits]
      rfl
  | registered kind rest existing now =>
      rw [now] at fits unstarted watched
      refine ⟨fits, unstarted, resting, ?_⟩
      intro other
      rcases watched other with known | left
      · exact Or.inl (List.mem_cons_of_mem kind known)
      · rcases List.mem_cons.mp left with here | later
        · exact Or.inl (List.mem_cons.mpr (Or.inl here))
        · exact Or.inr later
  | registerFailed kind rest cause now =>
      rw [now] at fits
      refine ⟨?_, nofun, resting, ?_⟩
      · change (state.threads .startup).inside = false
        rw [fits]
        rfl
      · intro other
        exact Or.inr (mem_watchedKinds other)
  | started now =>
      rw [now] at unstarted watched
      refine ⟨?_, nofun, ?_, watched⟩
      · change (state.moveThread .startup state.shared .start).threads .startup ≠ .idle
        rw [StartupState.moveThread_same]
        nofun
      · intro _waiting
        have idle : state.threads .worker = .idle := by
          apply resting
          rw [unstarted rfl]
          decide
        change (state.moveThread .startup state.shared .start).threads .worker = .idle
        rw [StartupState.moveThread_startup]
        exact idle
  | startupSynched action shared pc now stepped =>
      refine ⟨?_, ?_, ?_, watched⟩
      · change state.startup.fits ((state.moveThread .startup shared pc).threads .startup)
        rw [now, StartupState.moveThread_same]
        exact synchStep_ne_idle stepped
      · exact unstarted
      · intro asleep
        rw [StartupState.moveThread_startup]
        exact resting asleep
  | startupReturned result now at_ =>
      refine ⟨?_, nofun, resting, ?_⟩
      · change (StartupPc.returned (result.map .synch)).fits (state.threads .startup)
        rw [at_]
        cases result with
        | none => rfl
        | some err => rfl
      · rw [now] at watched
        intro kind
        rcases watched kind with known | left
        · exact Or.inl known
        · cases left
  | changed kind world => exact ⟨fits, unstarted, resting, watched⟩
  | handled index announced found => exact ⟨fits, unstarted, resting, watched⟩
  | timerFired running => exact ⟨fits, unstarted, resting, watched⟩
  | timerStopped running => exact ⟨fits, unstarted, resting, watched⟩
  | dequeued requested now received =>
      refine ⟨?_, ?_, nofun, watched⟩
      · change state.startup.fits
          (((state.setRequested requested).moveThread .worker
            (state.setRequested requested).shared .start).threads .startup)
        rw [StartupState.moveThread_worker]
        exact fits
      · intro early
        exact absurd early (late (by rw [now]; decide))
  | workerSynched action shared pc now stepped =>
      refine ⟨?_, unstarted, ?_, watched⟩
      · change state.startup.fits ((state.moveThread .worker shared pc).threads .startup)
        rw [StartupState.moveThread_worker]
        exact fits
      · intro asleep
        exact absurd now asleep
  | workerResumed result now at_ =>
      refine ⟨?_, ?_, ?_, watched⟩
      · change state.startup.fits ((state.moveThread .worker state.shared .idle).threads .startup)
        rw [StartupState.moveThread_worker]
        exact fits
      · intro early
        exact absurd early (late (by rw [now]; decide))
      · intro _waiting
        exact StartupState.moveThread_same state .worker state.shared .idle
  | workerStopped now =>
      refine ⟨fits, ?_, ?_, watched⟩
      · intro early
        exact absurd early (late (by rw [now]; decide))
      · intro _terminated
        apply resting
        rw [now]
        decide

structure Timed (state : StartupState rt W) : Prop where
  pending : ∀ announced ∈ state.outstanding, ∀ time ∈ announced, time < state.shared.now
  notified : ∀ time ∈ state.notified, time < state.shared.now
  requested : ∀ time ∈ state.lastRequest, time < state.shared.now

theorem timed_initial (world : W) : Timed (StartupState.initial rt world) := by
  constructor
  · intro announced member
    cases member
  · intro time member
    cases member
  · intro time member
    cases member

theorem startupMachine_now
    (stepped : (startupMachine resources).step state label = some next) :
    next.shared.now = state.shared.now + 1 := by
  obtain ⟨untimed, effect, ticked⟩ := startupMachine_effect resources stepped
  subst ticked
  cases effect with
  | startupSynched action shared pc now moved => exact congrArg Nat.succ (synchStep_now moved)
  | workerSynched action shared pc now moved => exact congrArg Nat.succ (synchStep_now moved)
  | _ => rfl

private theorem Timed.keep (timed : Timed state)
    (clock : next.shared.now = state.shared.now + 1)
    (outstanding : ∀ announced ∈ next.outstanding, announced ∈ state.outstanding ∨
      announced = none ∨ announced = some state.shared.now)
    (notified : ∀ time ∈ next.notified, time ∈ state.notified ∨ time < state.shared.now)
    (requested : ∀ time ∈ next.lastRequest, time ∈ state.lastRequest ∨
      time = state.shared.now) : Timed next := by
  obtain ⟨pendingPast, notifiedPast, requestedPast⟩ := timed
  constructor
  · intro announced member time atTime
    rcases outstanding announced member with old | existing | fresh
    · have past := pendingPast announced old time atTime
      omega
    · rw [existing] at atTime
      cases atTime
    · rw [fresh] at atTime
      cases atTime
      omega
  · intro time member
    rcases notified time member with old | past
    · have past := notifiedPast time old
      omega
    · omega
  · intro time member
    rcases requested time member with old | fresh
    · have past := requestedPast time old
      omega
    · omega

theorem timed_step (timed : Timed state) (effect : StartupEffect resources state label next) :
    Timed next.tick := by
  cases effect with
  | registered kind rest existing now =>
      refine timed.keep rfl ?_ (fun _ => Or.inl) (fun _ => Or.inl)
      intro announced member
      rcases List.mem_append.mp member with old | delivered
      · exact Or.inl old
      · exact Or.inr (Or.inl (List.eq_of_mem_replicate delivered))
  | changed kind world =>
      refine timed.keep rfl ?_ (fun _ => Or.inl) (fun _ => Or.inl)
      intro announced member
      change announced ∈ (if kind ∈ state.registered then _ else _) at member
      split at member
      · rcases List.mem_append.mp member with old | fresh
        · exact Or.inl old
        · exact Or.inr (Or.inr (List.mem_singleton.mp fresh))
      · exact Or.inl member
  | handled index announced found =>
      refine timed.keep rfl (fun _ member => Or.inl (List.mem_of_mem_eraseIdx member)) ?_ ?_
      · intro time member
        rcases List.mem_append.mp member with fresh | old
        · right
          exact timed.pending announced (List.mem_of_getElem? found) time
            (Option.mem_toList.mp fresh)
        · exact Or.inl old
      · intro time member
        cases member
        exact Or.inr rfl
  | timerFired running =>
      refine timed.keep rfl (fun _ => Or.inl) (fun _ => Or.inl) ?_
      intro time member
      cases member
      exact Or.inr rfl
  | startupSynched action shared pc now stepped =>
      refine timed.keep ?_ (fun _ => Or.inl) (fun _ => Or.inl) (fun _ => Or.inl)
      change shared.now + 1 = _
      rw [synchStep_now stepped]
  | workerSynched action shared pc now stepped =>
      refine timed.keep ?_ (fun _ => Or.inl) (fun _ => Or.inl) (fun _ => Or.inl)
      change shared.now + 1 = _
      rw [synchStep_now stepped]
  | _ => exact timed.keep rfl (fun _ => Or.inl) (fun _ => Or.inl) (fun _ => Or.inl)

structure StartupInvariant (resources : ResourceReader W) (state : StartupState rt W) :
    Prop where
  exclusive : Exclusive state.shared state.threads
  chronological : Chronological resources state.shared state.threads
  wired : Wired state
  timed : Timed state

/-- The request channel is no part of what the callers share in `Synch`. -/
private theorem exclusive_step (holds : StartupInvariant resources state)
    (effect : StartupEffect resources state label next) :
    Exclusive next.tick.shared next.tick.threads := by
  have same : ∀ shared : Shared rt W,
      shared.cache.synchronizing = state.shared.cache.synchronizing →
      Exclusive shared state.threads :=
    fun _ flag => holds.exclusive.of_same_inside flag (fun _ => rfl)
  cases effect with
  | started now =>
      refine holds.exclusive.keep rfl ?_
      have fits := holds.wired.fits
      rw [now] at fits
      rw [fits]
      rfl
  | dequeued requested now received =>
      refine holds.exclusive.keep rfl ?_
      rw [holds.wired.resting (by rw [now]; decide)]
      rfl
  | workerResumed result now at_ => exact holds.exclusive.keep rfl (by rw [at_]; rfl)
  | startupSynched action shared pc now stepped =>
      exact (holds.exclusive.step stepped).of_same_inside rfl (fun _ => rfl)
  | workerSynched action shared pc now stepped =>
      exact (holds.exclusive.step stepped).of_same_inside rfl (fun _ => rfl)
  | _ => exact same _ rfl

private theorem chronological_step (holds : StartupInvariant resources state)
    (effect : StartupEffect resources state label next) :
    Chronological resources next.tick.shared next.tick.threads := by
  cases effect with
  | changed kind world => exact holds.chronological.change world
  | started now =>
      exact holds.chronological.leave rfl rfl rfl rfl (Nat.le_succ _) (fun _ _ => nofun)
  | dequeued requested now received =>
      exact holds.chronological.leave rfl rfl rfl rfl (Nat.le_succ _) (fun _ _ => nofun)
  | workerResumed result now at_ =>
      exact holds.chronological.leave rfl rfl rfl rfl (Nat.le_succ _) (fun _ _ => nofun)
  | startupSynched action shared pc now stepped =>
      exact holds.chronological.step holds.exclusive stepped
  | workerSynched action shared pc now stepped =>
      exact holds.chronological.step holds.exclusive stepped
  | _ => exact holds.chronological.frame rfl rfl rfl rfl (Nat.le_succ _) (fun _ _ _ pc => pc)

theorem startupInvariant_step (holds : StartupInvariant resources state)
    (stepped : (startupMachine resources).step state label = some next) :
    StartupInvariant resources next := by
  obtain ⟨untimed, effect, ticked⟩ := startupMachine_effect resources stepped
  subst ticked
  have wired := wired_step holds.wired effect
  exact
    { exclusive := exclusive_step holds effect
      chronological := chronological_step holds effect
      wired := ⟨wired.fits, wired.unstarted, wired.resting, wired.watched⟩
      timed := timed_step holds.timed effect }

theorem startupInvariant_initial (resources : ResourceReader W) (world : W) :
    StartupInvariant resources (StartupState.initial rt world) :=
  { exclusive := exclusive_initial world
    chronological := chronological_initial resources world
    wired := wired_initial world
    timed := timed_initial world }

theorem startupInvariant_run {labels : List (StartupLabel W)}
    (holds : StartupInvariant resources state)
    (ran : (startupMachine resources).run state labels = some next) :
    StartupInvariant resources next := by
  apply (startupMachine resources).invariant_run _ holds
    ((startupMachine resources).along_of_forall (fun _ _ _ => trivial) _) ran
  intro before label after invariant _always stepped
  exact startupInvariant_step invariant stepped

end Invariants

/-! ### A small cluster -/

def oneTenant : ResourceReader Bool :=
  { listNamespaces := fun _ => [bareNamespace "team-a"]
    allowedSubjects := fun granted _ => (if granted then [userSubject "alice"] else [], none) }

def startupUntilSynch (existing : Nat) : List (StartupLabel Bool) :=
  [ .metricsRegistered, .register existing, .register 0, .register 0, .register 0, .register 0,
    .start ]

end NamespaceLister
