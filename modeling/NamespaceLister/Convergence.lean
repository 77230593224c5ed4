/-
The running system left to itself.

The steps the program takes on its own are the handler calls that are still
outstanding and the moves of the worker.  Each of them lowers the work that is
pending, and as long as the system is not at rest one of them is enabled.  A
firing of the timer is a request like any other, so once the work that follows it
is done the published data is what `Synch` computes from the resources, also
where an earlier update was lost.
-/

import NamespaceLister.SteadyState

namespace NamespaceLister

open Library

universe u

variable {rt : Runtime} {W : Type u} {resources : ResourceReader W}
variable {state next : StartupState rt W} {label : StartupLabel W}

/-- The steps that need neither the cluster, nor the timer, nor a signal. -/
def StartupLabel.internal : StartupLabel W → Bool
  | .handle _ => true
  | .dequeue => true
  | .workerSynch _ => true
  | .workerResumes => true
  | _ => false

/-! ### Pending work -/

/-- The steps a call of `Synch` has left, its return to the worker included, when
it is still to list the given number of namespaces. -/
def SynchPc.remaining (listed : Nat) : SynchPc rt → Nat
  | .idle => 0
  | .start => listed + 5
  | .locked => listed + 4
  | .looping todo _ => todo.length + 3
  | .finishing _ => 2
  | .returned _ => 1

/-- A queued request costs its receive and a whole call, an outstanding handler
call its send besides. -/
def workFor (listed outstanding queued : Nat) (pc : SynchPc rt) : Nat :=
  outstanding * (listed + 7) + queued * (listed + 6) + pc.remaining listed

def pendingWork (resources : ResourceReader W) (state : StartupState rt W) : Nat :=
  workFor (resources.listNamespaces state.shared.world).length state.outstanding.length
    state.shared.cache.requested.length (state.threads .worker)

theorem workFor_handled (listed left queued added : Nat) (pc : SynchPc rt) (atMost : added ≤ 1) :
    workFor listed left (queued + added) pc < workFor listed (left + 1) queued pc := by
  have bound : added * (listed + 6) ≤ listed + 6 := by
    calc added * (listed + 6) ≤ 1 * (listed + 6) := Nat.mul_le_mul_right _ atMost
      _ = listed + 6 := Nat.one_mul _
  unfold workFor
  rw [Nat.add_mul left, Nat.add_mul queued, Nat.one_mul]
  omega

theorem workFor_dequeued (listed outstanding queued : Nat) :
    workFor listed outstanding queued (.start : SynchPc rt) <
      workFor listed outstanding (queued + 1) (.idle : SynchPc rt) := by
  unfold workFor
  rw [Nat.add_mul queued, Nat.one_mul]
  simp only [SynchPc.remaining]
  omega

theorem workFor_moved (listed outstanding queued : Nat) {pc pcAfter : SynchPc rt}
    (lower : pcAfter.remaining listed < pc.remaining listed) :
    workFor listed outstanding queued pcAfter < workFor listed outstanding queued pc := by
  unfold workFor
  omega

theorem remaining_step {shared after : Shared rt W} {pc pcAfter : SynchPc rt}
    {action : SynchAction}
    (stepped : synchStep resources shared pc action = some (after, pcAfter)) :
    pcAfter.remaining (resources.listNamespaces shared.world).length <
      pc.remaining (resources.listNamespaces shared.world).length := by
  cases synchStep_effect resources stepped with
  | computed ns todo snapshot => simp only [SynchPc.remaining, List.length_cons]; omega
  | _ => simp only [SynchPc.remaining]; omega

theorem pendingWork_step (wired : Wired state) (internal : label.internal = true)
    (effect : StartupEffect resources state label next) :
    pendingWork resources next.tick < pendingWork resources state ∧
      next.tick.shared.world = state.shared.world := by
  cases effect with
  | handled index announced found =>
      have erased : (state.outstanding.eraseIdx index).length + 1 = state.outstanding.length :=
        List.length_eraseIdx_add_one (List.getElem?_eq_some_iff.mp found).1
      refine ⟨?_, rfl⟩
      unfold pendingWork
      rw [← erased]
      change workFor _ _ state.shared.cache.requested.trySend.1.length _ < _
      rw [Channel.trySend_length]
      exact workFor_handled _ _ _ _ _ (Bool.toNat_le _)
  | dequeued requested now received =>
      have idle : state.threads .worker = .idle := wired.resting (by rw [now]; decide)
      refine ⟨?_, rfl⟩
      unfold pendingWork
      rw [idle, Channel.receive_length received]
      change workFor _ _ _ (((state.setRequested requested).moveThread .worker
        (state.setRequested requested).shared .start).threads .worker) < _
      rw [StartupState.moveThread_same]
      exact workFor_dequeued _ _ _
  | workerSynched action shared pc now stepped =>
      have world := synchStep_world stepped
      refine ⟨?_, world⟩
      unfold pendingWork
      change workFor (resources.listNamespaces shared.world).length _
        shared.cache.requested.length ((state.moveThread .worker shared pc).threads .worker) < _
      rw [StartupState.moveThread_same, world, synchStep_requested stepped]
      exact workFor_moved _ _ _ (remaining_step stepped)
  | workerResumed result now at_ =>
      refine ⟨?_, rfl⟩
      unfold pendingWork
      rw [at_]
      change workFor _ _ _ ((state.moveThread .worker state.shared .idle).threads .worker) < _
      rw [StartupState.moveThread_same]
      exact workFor_moved _ _ _ Nat.zero_lt_one
  | _ => cases internal

/-! ### Progress -/

structure Engaged (state : StartupState rt W) : Prop where
  launched : state.startup = .synching ∨ state.startup = .returned none →
    state.worker ≠ .notStarted
  calling : state.worker = .synching → state.threads .worker ≠ .idle

theorem engaged_initial (world : W) : Engaged (StartupState.initial rt world) := by
  constructor
  · intro late
    rcases late with synching | returned
    · cases synching
    · cases returned
  · intro synching
    cases synching

theorem engaged_step (engaged : Engaged state) (effect : StartupEffect resources state label next) :
    Engaged next := by
  obtain ⟨launched, calling⟩ := engaged
  cases effect with
  | metricsRegistered now => exact ⟨by simp, calling⟩
  | metricsFailed cause now => exact ⟨by simp, calling⟩
  | registered kind rest existing now => exact ⟨by simp, calling⟩
  | registerFailed kind rest cause now => exact ⟨by simp, calling⟩
  | started now => exact ⟨fun _ => nofun, nofun⟩
  | startupSynched action shared pc now stepped =>
      refine ⟨launched, ?_⟩
      intro synching
      rw [StartupState.moveThread_startup]
      exact calling synching
  | startupReturned result now at_ => exact ⟨fun _ => launched (Or.inl now), calling⟩
  | changed kind world => exact ⟨launched, calling⟩
  | handled index announced found => exact ⟨launched, calling⟩
  | timerFired running => exact ⟨launched, calling⟩
  | timerStopped running => exact ⟨launched, calling⟩
  | dequeued requested now received =>
      refine ⟨fun _ => nofun, ?_⟩
      intro _synching
      change ((state.setRequested requested).moveThread .worker
        (state.setRequested requested).shared .start).threads .worker ≠ .idle
      rw [StartupState.moveThread_same]
      nofun
  | workerSynched action shared pc now stepped =>
      refine ⟨launched, ?_⟩
      intro _synching
      rw [StartupState.moveThread_same]
      exact synchStep_ne_idle stepped
  | workerResumed result now at_ => exact ⟨fun _ => nofun, nofun⟩
  | workerStopped now => exact ⟨fun _ => nofun, nofun⟩

theorem engaged_run {labels : List (StartupLabel W)} (engaged : Engaged state)
    (ran : (startupMachine resources).run state labels = some next) : Engaged next := by
  apply (startupMachine resources).invariant_run _ engaged
    ((startupMachine resources).along_of_forall (fun _ _ _ => trivial) state) ran
  intro current label reached holds _ stepped
  obtain ⟨untimed, effect, ticked⟩ := startupMachine_effect resources stepped
  have kept := engaged_step holds effect
  subst ticked
  exact ⟨kept.launched, kept.calling⟩

/-- A call of `Synch` can always go on without failing. -/
theorem synchStep_enabled (resources : ResourceReader W) (shared : Shared rt W) (pc : SynchPc rt)
    (active : pc ≠ .idle) (unfinished : ∀ result, pc ≠ .returned result) :
    ∃ action after pcAfter, action.benign = true ∧
      synchStep resources shared pc action = some (after, pcAfter) := by
  cases pc with
  | idle => exact absurd rfl active
  | start =>
      by_cases busy : shared.cache.synchronizing = true
      · exact ⟨.compareAndSwap, _, _, rfl, if_pos busy⟩
      · exact ⟨.compareAndSwap, _, _, rfl, if_neg busy⟩
  | locked => exact ⟨.list, _, _, rfl, rfl⟩
  | looping todo snapshot =>
      cases todo with
      | nil => exact ⟨.restock, _, _, rfl, rfl⟩
      | cons ns rest => exact ⟨.computeNamespace, _, _, rfl, rfl⟩
  | finishing result => exact ⟨.reset, _, _, rfl, rfl⟩
  | returned result => exact absurd rfl (unfinished result)

/-- While the system is not at rest, a step of its own is enabled. -/
theorem progress (holds : StartupInvariant resources state) (engaged : Engaged state)
    (returned : state.startup = .returned none) (alive : state.worker ≠ .terminated)
    (restless : ¬state.quiescent) :
    ∃ label : StartupLabel W, label.internal = true ∧ label.benign = true ∧
      ((startupMachine resources).step state label).isSome = true := by
  cases worker : state.worker with
  | notStarted => exact absurd worker (engaged.launched (Or.inr returned))
  | terminated => exact absurd worker alive
  | synching =>
      by_cases finished : ∃ result, state.threads .worker = .returned result
      · obtain ⟨result, at_⟩ := finished
        refine ⟨.workerResumes, rfl, rfl, ?_⟩
        simp only [startupMachine, startupAct, worker, at_, Option.map_some, Option.isSome_some]
      · obtain ⟨action, after, pcAfter, benign, stepped⟩ :=
          synchStep_enabled resources state.shared (state.threads .worker)
            (engaged.calling worker) (fun result at_ => finished ⟨result, at_⟩)
        refine ⟨.workerSynch action, rfl, benign, ?_⟩
        simp only [startupMachine, startupAct, worker, stepped, Option.map_some,
          Option.isSome_some]
  | waiting =>
      cases pending : state.outstanding with
      | cons announced rest =>
          refine ⟨.handle 0, rfl, rfl, ?_⟩
          simp only [startupMachine, startupAct, pending, List.getElem?_cons_zero,
            Option.map_some, Option.isSome_some]
      | nil =>
          have idle : state.threads .worker = .idle :=
            holds.wired.resting (by rw [worker]; decide)
          have fits := holds.wired.fits
          rw [returned] at fits
          have outside : ∀ thread, (state.threads thread).inside = false := by
            intro thread
            cases thread with
            | worker => rw [idle]; rfl
            | startup =>
                change state.threads .startup = .returned none at fits
                rw [fits]
                rfl
          cases received : state.shared.cache.requested.receive with
          | some requested =>
              refine ⟨.dequeue, rfl, rfl, ?_⟩
              simp only [startupMachine, startupAct, worker, received, Option.map_some,
                Option.isSome_some]
          | none =>
              have empty := Channel.length_eq_zero_of_receive received
              exact absurd ⟨worker, empty, outside, pending⟩ restless

/-! ### Convergence -/

/-- A state the system reaches on its own after a request made at `base` or
later. -/
structure Draining (resources : ResourceReader W) (base : Nat) (world : W)
    (state : StartupState rt W) : Prop where
  invariant : StartupInvariant resources state
  engaged : Engaged state
  returned : state.startup = .returned none
  alive : state.worker ≠ .terminated
  unchanged : state.shared.world = world
  late : base ≤ state.shared.now
  requested : ∃ time, state.lastRequest = some time ∧ base ≤ time

theorem draining_step {base : Nat} {world : W} (draining : Draining resources base world state)
    (internal : label.internal = true)
    (stepped : (startupMachine resources).step state label = some next) :
    Draining resources base world next ∧
      pendingWork resources next < pendingWork resources state := by
  obtain ⟨untimed, effect, ticked⟩ := startupMachine_effect resources stepped
  have invariant := startupInvariant_step draining.invariant stepped
  have engaged := engaged_step draining.engaged effect
  have lower := pendingWork_step draining.invariant.wired internal effect
  have clock := draining.late
  subst ticked
  refine ⟨?_, lower.1⟩
  have kept : untimed.startup = .returned none ∧ untimed.worker ≠ .terminated ∧
      state.shared.now ≤ untimed.shared.now ∧
      (untimed.lastRequest = state.lastRequest ∨
        untimed.lastRequest = some state.shared.now) := by
    have returned := draining.returned
    have alive := draining.alive
    cases effect with
    | handled index announced found => exact ⟨returned, alive, Nat.le_refl _, Or.inr rfl⟩
    | dequeued requested now received =>
        exact ⟨returned, nofun, Nat.le_refl _, Or.inl rfl⟩
    | workerSynched action shared pc now acted =>
        exact ⟨returned, alive, Nat.le_of_eq (synchStep_now acted).symm, Or.inl rfl⟩
    | workerResumed result now at_ => exact ⟨returned, nofun, Nat.le_refl _, Or.inl rfl⟩
    | _ => cases internal
  obtain ⟨returned, alive, later, request⟩ := kept
  refine
    { invariant := invariant
      engaged := ⟨engaged.launched, engaged.calling⟩
      returned := returned
      alive := alive
      unchanged := lower.2.trans draining.unchanged
      late := Nat.le_trans clock (Nat.le_succ_of_le later)
      requested := ?_ }
  rcases request with same | fresh
  · obtain ⟨time, atTime, since⟩ := draining.requested
    exact ⟨time, same.trans atTime, since⟩
  · exact ⟨state.shared.now, fresh, clock⟩

theorem draining_run {base : Nat} {world : W} {labels : List (StartupLabel W)}
    (draining : Draining resources base world state)
    (internal : ∀ label ∈ labels, label.internal = true)
    (ran : (startupMachine resources).run state labels = some next) :
    Draining resources base world next ∧
      labels.length + pendingWork resources next ≤ pendingWork resources state := by
  have along := Machine.along_of_forall
    (startupMachine resources : Machine (StartupState rt W) (StartupLabel W))
    (fun label member _ => internal label member) state
  constructor
  · exact (startupMachine resources).invariant_run
      (fun _ _ _ holds enabled stepped => (draining_step holds enabled stepped).1)
      draining along ran
  · exact (startupMachine resources).length_add_measure_le
      (fun _ _ _ holds enabled stepped => (draining_step holds enabled stepped).1)
      (fun _ _ _ holds enabled stepped => (draining_step holds enabled stepped).2)
      draining along ran

/-- In every state after startup, whatever was lost before it, a firing of the
timer is followed by a bounded number of internal steps; one of them is enabled as
long as the system is not at rest; and at rest, when none of them failed, the
published data is what `Synch` computes from the resources. -/
theorem resync_converges (resources : ResourceReader W) (world : W)
    (before : List (StartupLabel W)) (started fired : StartupState rt W)
    (startup : (startupMachine resources).run (StartupState.initial rt world) before =
      some started)
    (returned : started.startup = .returned none) (alive : started.worker ≠ .terminated)
    (fires : (startupMachine resources).step started .timerFires = some fired)
    (labels : List (StartupLabel W)) (state : StartupState rt W)
    (internal : ∀ label ∈ labels, label.internal = true)
    (ran : (startupMachine resources).run fired labels = some state) :
    labels.length + pendingWork resources state ≤ pendingWork resources fired ∧
    (¬state.quiescent → ∃ label : StartupLabel W, label.internal = true ∧ label.benign = true ∧
      ((startupMachine resources).step state label).isSome = true) ∧
    (state.quiescent → (∀ label ∈ labels, label.benign = true) →
      state.shared.cache.accessCache.data =
        (SynchronizedAccessCache.new.Synch rt
          (steady (resources.listNamespaces started.shared.world) (fun _ => none)
            (resources.allowedSubjects started.shared.world))).1.accessCache.data) := by
  have holds := startupInvariant_run (startupInvariant_initial resources world) startup
  have engaged := engaged_run (engaged_initial world) startup
  obtain ⟨untimed, effect, ticked⟩ := startupMachine_effect resources fires
  have start : Draining resources started.shared.now started.shared.world fired := by
    have invariant := startupInvariant_step holds fires
    have still := engaged_step engaged effect
    subst ticked
    cases effect with
    | timerFired running =>
        exact
          { invariant := invariant
            engaged := ⟨still.launched, still.calling⟩
            returned := returned
            alive := alive
            unchanged := rfl
            late := Nat.le_succ _
            requested := ⟨_, rfl, Nat.le_refl _⟩ }
  obtain ⟨draining, bounded⟩ := draining_run start internal ran
  refine ⟨bounded, progress draining.invariant draining.engaged draining.returned
    draining.alive, ?_⟩
  intro quiescent benign
  obtain ⟨waiting, empty, _, settled⟩ := quiescent
  have whole : (startupMachine resources).run started (.timerFires :: labels) = some state := by
    rw [Machine.run, fires]
    exact ran
  have succeeds : ∀ label ∈ StartupLabel.timerFires :: labels, label.benign = true := by
    intro label member
    rcases List.mem_cons.mp member with isTimer | later
    · subst label
      rfl
    · exact benign label later
  obtain ⟨time, requested, since⟩ := draining.requested
  obtain ⟨published, _, stored, _, reflects⟩ :=
    (steady_run startup returned whole succeeds).at_rest waiting empty settled requested since
  rw [stored, published.computed, reflects, draining.unchanged]
  symm
  apply Synch_steady_data
  exact Synch_steady_succeeds rt SynchronizedAccessCache.new rfl _ _

/-- Startup, then a grant whose handler call is still outstanding. -/
private def grantUnannounced : List (StartupLabel Bool) :=
  startupUntilSynch 0 ++
    [ .startupSynch .compareAndSwap, .startupSynch .list, .startupSynch .computeNamespace,
      .startupSynch .restock, .startupSynch .reset, .startupReturns, .change .role true ]

private def drainedOnce : List (StartupLabel Bool) :=
  [ .handle 0, .dequeue, .workerSynch .compareAndSwap, .workerSynch .list,
    .workerSynch .computeNamespace, .workerSynch .restock, .workerSynch .reset, .workerResumes ]

theorem resync_converges_grant :
    ∃ started fired state : StartupState Runtime.reference Bool,
      (startupMachine oneTenant).run (StartupState.initial Runtime.reference false)
        grantUnannounced = some started ∧
      (startupMachine oneTenant).step started .timerFires = some fired ∧
      (startupMachine oneTenant).run fired drainedOnce = some state ∧
      state.shared.cache.accessCache.data =
        (SynchronizedAccessCache.new.Synch Runtime.reference
          (steady [bareNamespace "team-a"] (fun _ => none)
            (fun _ => ([userSubject "alice"], none)))).1.accessCache.data :=
  ⟨_, _, _, rfl, rfl, rfl,
    (resync_converges oneTenant false grantUnannounced _ _ rfl rfl nofun rfl drainedOnce _
      (by decide) rfl).2.2
      ⟨rfl, rfl, fun thread => by cases thread <;> rfl, rfl⟩ (by decide)⟩

end NamespaceLister
