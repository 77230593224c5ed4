/-
The worker goroutine of `Start` and the errors that `Synch` returns to it.

The worker is a machine of its own here: requests may arrive at any time and a
call of `Synch` may return anything.  The goroutine of the whole program is a part
of `startupMachine`, and each of its runs is read as a run of this machine.

The handler is called under the test for `ErrSynchAlreadyRunning`, the one error
the default handler writes at debug level; every other error is dropped.
-/

import NamespaceLister.RequestCoverage

namespace NamespaceLister

open Library

universe u

/-! ### The default handler -/

inductive LogLevel where
  | debug
  | error
deriving DecidableEq

structure LogRecord where
  level : LogLevel
  message : GoString
  err : SynchError
deriving DecidableEq

/-- The test has its arguments the other way round than `isSynchAlreadyRunningErr`. -/
def defaultSyncErrorHandler (err : SynchError) : LogRecord :=
  { level := if SynchError.synchAlreadyRunning == err then .debug else .error
    message := "error synchronizing cache"
    err := err }

theorem defaultSyncErrorHandler_level (err : SynchError) :
    (defaultSyncErrorHandler err).level = .debug ↔ isSynchAlreadyRunningErr (some err) = true := by
  unfold defaultSyncErrorHandler isSynchAlreadyRunningErr
  by_cases running : SynchError.synchAlreadyRunning = err
  · subst err
    decide
  · simp [running, Ne.symm running]

/-! ### The worker -/

/-- `handed` are the errors passed to `syncErrorHandler`, in order. -/
structure WorkerState where
  requested : Channel 1
  worker : WorkerPc
  handed : List SynchError
deriving DecidableEq

inductive WorkerLabel where
  | start
  | request
  | dequeue
  | synchReturns (outcome : Option SynchError)
  | stop
deriving DecidableEq

def WorkerState.initial : WorkerState :=
  { requested := Channel.make 1
    worker := .notStarted
    handed := [] }

def workerStep (state : WorkerState) : WorkerLabel → Option WorkerState
  | .start =>
      match state.worker with
      | .notStarted => some { state with worker := .waiting }
      | _ => none
  | .request => some { state with requested := state.requested.trySend.1 }
  | .dequeue =>
      match state.worker, state.requested.receive with
      | .waiting, some requested =>
          some { state with requested := requested, worker := .synching }
      | _, _ => none
  | .synchReturns outcome =>
      match state.worker with
      | .synching =>
          some { state with worker := .waiting, handed := state.handed ++ workerReports outcome }
      | _ => none
  | .stop =>
      match state.worker with
      | .waiting => some { state with worker := .terminated }
      | _ => none

def workerMachine : Machine WorkerState WorkerLabel := { step := workerStep }

def WorkerLabel.outcome : WorkerLabel → Option SynchError
  | .synchReturns outcome => outcome
  | _ => none

def returnedErrors (labels : List WorkerLabel) : List SynchError :=
  labels.filterMap WorkerLabel.outcome

theorem returnedErrors_cons (label : WorkerLabel) (rest : List WorkerLabel) :
    returnedErrors (label :: rest) = label.outcome.toList ++ returnedErrors rest := by
  unfold returnedErrors
  cases returned : label.outcome with
  | none =>
      rw [List.filterMap_cons_none returned]
      rfl
  | some err =>
      rw [List.filterMap_cons_some returned]
      rfl

def WorkerState.log (state : WorkerState) : List LogRecord :=
  state.handed.map defaultSyncErrorHandler

theorem workerReports_eq_filter (err : Option SynchError) :
    workerReports err = err.toList.filter (· == .synchAlreadyRunning) := by
  unfold workerReports isSynchAlreadyRunningErr
  cases err with
  | none => rfl
  | some cause =>
      by_cases running : cause = .synchAlreadyRunning
      · subst cause
        rfl
      · simp [running]

theorem handed_step {state next : WorkerState} {label : WorkerLabel}
    (stepped : workerMachine.step state label = some next) :
    next.handed = state.handed ++ workerReports label.outcome := by
  change workerStep state label = some next at stepped
  unfold workerStep at stepped
  cases label with
  | start =>
      simp only at stepped
      split at stepped
      · cases stepped
        exact (List.append_nil _).symm
      · cases stepped
  | request =>
      cases stepped
      exact (List.append_nil _).symm
  | dequeue =>
      simp only at stepped
      split at stepped
      · cases stepped
        exact (List.append_nil _).symm
      · cases stepped
  | synchReturns outcome =>
      simp only at stepped
      split at stepped
      · cases stepped
        rfl
      · cases stepped
  | stop =>
      simp only at stepped
      split at stepped
      · cases stepped
        exact (List.append_nil _).symm
      · cases stepped

/-- In every run the handler gets the refusals and nothing else. -/
theorem handed_run {state final : WorkerState} {labels : List WorkerLabel}
    (ran : workerMachine.run state labels = some final) :
    final.handed =
      state.handed ++ (returnedErrors labels).filter (· == .synchAlreadyRunning) := by
  induction labels generalizing state with
  | nil =>
      cases ran
      exact (List.append_nil _).symm
  | cons label rest ih =>
      obtain ⟨next, stepped, ranRest⟩ := workerMachine.run_cons_some ran
      rw [ih ranRest, handed_step stepped, returnedErrors_cons, List.filter_append,
        workerReports_eq_filter, List.append_assoc]

theorem worker_hands_every_error_iff {labels : List WorkerLabel} {final : WorkerState}
    (ran : workerMachine.run WorkerState.initial labels = some final) :
    (final.handed = returnedErrors labels ∧
      ∀ err ∈ returnedErrors labels, err ≠ .synchAlreadyRunning →
        { level := .error, message := "error synchronizing cache", err := err } ∈ final.log) ↔
    ∀ err ∈ returnedErrors labels, err = .synchAlreadyRunning := by
  have handed : final.handed = (returnedErrors labels).filter (· == .synchAlreadyRunning) :=
    handed_run ran
  constructor
  · intro complete err member
    rw [← complete.1, handed, List.mem_filter] at member
    exact eq_of_beq member.2
  · intro refusals
    constructor
    · rw [handed]
      apply List.filter_eq_self.mpr
      intro err member
      exact beq_iff_eq.mpr (refusals err member)
    · intro err member other
      exact absurd (refusals err member) other

/-- Two requests; the first call of `Synch` finds another one running. -/
def refusedThenDone : List WorkerLabel :=
  [ .start, .request, .dequeue, .request, .synchReturns (some .synchAlreadyRunning), .dequeue,
    .synchReturns none ]

theorem worker_hands_refusal :
    ∃ final, workerMachine.run WorkerState.initial refusedThenDone = some final ∧
      final.handed = [.synchAlreadyRunning] := by
  refine ⟨_, rfl, ?_⟩
  have complete := (@worker_hands_every_error_iff refusedThenDone _ rfl).mpr (by decide)
  exact complete.1

def expiredSynch : List WorkerLabel :=
  [.start, .request, .dequeue, .synchReturns (some (.contextDone .deadlineExceeded))]

theorem worker_drops_deadline :
    ∃ final, workerMachine.run WorkerState.initial expiredSynch = some final ∧
      returnedErrors expiredSynch = [.contextDone .deadlineExceeded] ∧
      final.handed = [] ∧ final.log = [] :=
  ⟨_, rfl, rfl, rfl, rfl⟩

/-! ### The worker as a part of the program -/

section Program

variable {rt : Runtime} {W : Type u}

def StartupState.workerView (state : StartupState rt W) : WorkerState :=
  { requested := state.shared.cache.requested
    worker := state.worker
    handed := state.reported }

def StartupState.workerActions (state : StartupState rt W) : StartupLabel W → List WorkerLabel
  | .start => [.start]
  | .handle _ => [.request]
  | .timerFires => [.request]
  | .dequeue => [.dequeue]
  | .workerResumes =>
      match state.threads .worker with
      | .returned result => [.synchReturns result]
      | _ => []
  | .workerStops => [.stop]
  | _ => []

variable {resources : ResourceReader W}

theorem workerActions_simulated {state next : StartupState rt W} {label : StartupLabel W}
    (holds : StartupInvariant resources state)
    (stepped : (startupMachine resources).step state label = some next) :
    workerMachine.run state.workerView (state.workerActions label) = some next.workerView := by
  obtain ⟨untimed, effect, ticked⟩ := startupMachine_effect resources stepped
  subst ticked
  cases effect with
  | started now =>
      have unstarted : state.worker = .notStarted := by
        apply holds.wired.unstarted
        rw [now]
        rfl
      simp only [StartupState.workerActions, StartupState.workerView, Machine.run, workerMachine,
        workerStep, unstarted]
      rfl
  | startupSynched action shared pc now synched =>
      change some state.workerView =
        some { state.workerView with requested := shared.cache.requested }
      rw [synchStep_requested synched]
      rfl
  | workerSynched action shared pc now synched =>
      change some state.workerView =
        some { state.workerView with requested := shared.cache.requested }
      rw [synchStep_requested synched]
      rfl
  | dequeued requested now received =>
      simp only [StartupState.workerActions, StartupState.workerView, Machine.run, workerMachine,
        workerStep, now, received]
      rfl
  | workerResumed result now at_ =>
      simp only [StartupState.workerActions, StartupState.workerView, Machine.run, workerMachine,
        workerStep, now, at_]
      rfl
  | workerStopped now =>
      simp only [StartupState.workerActions, StartupState.workerView, Machine.run, workerMachine,
        workerStep, now]
      rfl
  | _ => rfl

theorem worker_run {state final : StartupState rt W} {labels : List (StartupLabel W)}
    (holds : StartupInvariant resources state)
    (ran : (startupMachine resources).run state labels = some final) :
    workerMachine.run state.workerView
        ((startupMachine resources).actions StartupState.workerActions state labels) =
      some final.workerView :=
  (startupMachine resources).run_actions
    (fun _before _label _after invariant stepped => startupInvariant_step invariant stepped)
    (fun _before _label _after invariant stepped => workerActions_simulated invariant stepped)
    holds ran

theorem reported_run (world : W) {labels : List (StartupLabel W)} {final : StartupState rt W}
    (ran : (startupMachine resources).run (StartupState.initial rt world) labels = some final) :
    final.reported =
      (returnedErrors ((startupMachine resources).actions StartupState.workerActions
        (StartupState.initial rt world) labels)).filter (· == .synchAlreadyRunning) := by
  have handed := handed_run (worker_run (startupInvariant_initial resources world) ran)
  exact handed.trans (List.nil_append _)

/-- Whatever happens in the cluster, the default handler writes no line at error
level. -/
theorem reported_debug_only (world : W) {labels : List (StartupLabel W)}
    {final : StartupState rt W}
    (ran : (startupMachine resources).run (StartupState.initial rt world) labels = some final) :
    ∀ err ∈ final.reported, (defaultSyncErrorHandler err).level = .debug := by
  intro err member
  rw [reported_run world ran, List.mem_filter] at member
  apply (defaultSyncErrorHandler_level err).mpr
  rw [eq_of_beq member.2]
  rfl

end Program

-- The same in the program: after a complete startup the timer requests a
-- synchronization that runs into its deadline.
example :
    ∃ final : StartupState Runtime.reference Bool,
      (startupMachine oneTenant).run (StartupState.initial Runtime.reference true)
        (startupUntilSynch 0 ++
          [ .startupSynch .compareAndSwap, .startupSynch .list, .startupSynch .computeNamespace,
            .startupSynch .restock, .startupSynch .reset, .startupReturns, .timerFires, .dequeue,
            .workerSynch .compareAndSwap, .workerSynch .list,
            .workerSynch (.contextDone .deadlineExceeded), .workerSynch .reset,
            .workerResumes ]) = some final ∧
      final.worker = .waiting ∧ final.reported = [] :=
  ⟨_, rfl, rfl, rfl⟩

end NamespaceLister
