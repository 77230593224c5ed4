/-
The running system after startup has returned.

The worker is then the only caller of `Synch`, so its compare-and-swap is never
refused and every request stays covered until data read after it is published.
A request that finds one already queued is discarded without loss.
-/

import NamespaceLister.RequestCoverage

namespace NamespaceLister

open Library

universe u

variable {rt : Runtime} {W : Type u} {resources : ResourceReader W}
variable {state next : StartupState rt W} {label : StartupLabel W}

/-- Only the startup thread can make the worker's compare-and-swap fail. -/
theorem busy_startup_inside (holds : StartupInvariant resources state)
    (effect : StartupEffect resources state label next)
    (swap : label = .workerSynch .compareAndSwap)
    (busy : state.shared.cache.synchronizing = true) :
    (state.threads .startup).inside = true := by
  obtain ⟨thread, inside⟩ := holds.exclusive.flag_iff.mp busy
  cases thread with
  | startup => exact inside
  | worker =>
      subst swap
      cases effect with
      | workerSynched action shared pc now stepped =>
          have swapped := synchStep_effect resources stepped
          generalize state.threads .worker = current at swapped inside
          cases swapped <;> cases inside

/-- The system from the moment `base` on, at which startup had returned. -/
structure Steady (resources : ResourceReader W) (base : Nat) (state : StartupState rt W) :
    Prop where
  invariant : StartupInvariant resources state
  returned : state.startup = .returned none
  covered : ∀ time ∈ state.lastRequest, base ≤ time → Covered [time] state
  accounted : state.shared.changedAt < base ∨
    some state.shared.changedAt ∈ state.outstanding ∨
    ∃ time ∈ state.lastRequest, state.shared.changedAt < time

private theorem returned_step (returned : state.startup = .returned none)
    (effect : StartupEffect resources state label next) : next.startup = .returned none := by
  cases effect with
  | metricsRegistered now => rw [returned] at now; cases now
  | metricsFailed cause now => rw [returned] at now; cases now
  | registered kind rest existing now => rw [returned] at now; cases now
  | registerFailed kind rest cause now => rw [returned] at now; cases now
  | started now => rw [returned] at now; cases now
  | startupReturned result now at_ => rw [returned] at now; cases now
  | _ => exact returned

private theorem covered_steady {base : Nat} (steady : Steady resources base state)
    (benign : label.benign = true) (effect : StartupEffect resources state label next) :
    ∀ time ∈ next.lastRequest, base ≤ time → Covered [time] next := by
  have holds := steady.invariant
  have kept : ∀ times, label = .workerSynch .compareAndSwap →
      state.shared.cache.synchronizing = true →
      0 < state.shared.cache.requested.length ∨
        (state.threads .startup).settles times state.shared.publications := by
    intro times swap busy
    have inside := busy_startup_inside holds effect swap busy
    have fits := holds.wired.fits
    rw [steady.returned] at fits
    change state.threads .startup = .returned none at fits
    rw [fits] at inside
    cases inside
  have unrequested : ∀ time ∈ state.lastRequest, base ≤ time → Covered [time] next := by
    intro time member since
    have past : ∀ other ∈ [time], other < state.shared.now := by
      intro other isTime
      rw [List.mem_singleton.mp isTime]
      exact holds.timed.requested time member
    exact covered_step holds past (steady.covered time member since) benign (kept [time]) effect
  cases effect with
  | handled index announced found =>
      intro time _member _since
      exact covered_request state announced
  | timerFired running =>
      intro time _member _since
      exact covered_request state none
  | _ => exact unrequested

private theorem accounted_steady {base : Nat} (steady : Steady resources base state)
    (effect : StartupEffect resources state label next) :
    next.shared.changedAt < base ∨ some next.shared.changedAt ∈ next.outstanding ∨
      ∃ time ∈ next.lastRequest, next.shared.changedAt < time := by
  have changed := steady.invariant.chronological.changed
  cases effect with
  | changed kind world =>
      -- every kind has its handler, so the change is announced
      have watched := steady.invariant.wired.watched kind
      rw [steady.returned] at watched
      have registered : kind ∈ state.registered := by
        rcases watched with known | left
        · exact known
        · cases left
      right
      left
      change some state.shared.now ∈ (if kind ∈ state.registered then _ else _)
      rw [if_pos registered]
      exact List.mem_append_right _ (List.mem_singleton_self _)
  | handled index announced found =>
      exact Or.inr (Or.inr ⟨state.shared.now, rfl, changed⟩)
  | timerFired running => exact Or.inr (Or.inr ⟨state.shared.now, rfl, changed⟩)
  | registered kind rest existing now =>
      rw [steady.returned] at now
      cases now
  | startupSynched action shared pc now stepped =>
      rw [steady.returned] at now
      cases now
  | workerSynched action shared pc now stepped =>
      change shared.changedAt < base ∨ some shared.changedAt ∈ state.outstanding ∨
        ∃ time ∈ state.lastRequest, shared.changedAt < time
      rw [synchStep_changedAt stepped]
      exact steady.accounted
  | _ => exact steady.accounted

theorem steady_step {base : Nat} (steady : Steady resources base state)
    (benign : label.benign = true)
    (stepped : (startupMachine resources).step state label = some next) :
    Steady resources base next := by
  obtain ⟨untimed, effect, ticked⟩ := startupMachine_effect resources stepped
  have invariant := startupInvariant_step steady.invariant stepped
  have covered := covered_steady steady benign effect
  have accounted := accounted_steady steady effect
  have returned := returned_step steady.returned effect
  subst ticked
  exact ⟨invariant, returned, covered, accounted⟩

theorem steady_start (holds : StartupInvariant resources state)
    (returned : state.startup = .returned none) :
    Steady resources state.shared.now state := by
  constructor
  · exact holds
  · exact returned
  · intro time member since
    have past := holds.timed.requested time member
    omega
  · exact Or.inl holds.chronological.changed

theorem steady_run {world : W} {before after : List (StartupLabel W)}
    {started : StartupState rt W}
    (startup : (startupMachine resources).run (StartupState.initial rt world) before =
      some started)
    (returned : started.startup = .returned none)
    (ran : (startupMachine resources).run started after = some state)
    (succeeds : ∀ label ∈ after, label.benign = true) :
    Steady resources started.shared.now state := by
  have base := startupInvariant_run (startupInvariant_initial resources world) startup
  apply (startupMachine resources).invariant_run _ (steady_start base returned)
    ((startupMachine resources).along_of_forall (fun label member _ => succeeds label member) _)
    ran
  intro current label reached steady benign stepped
  exact steady_step steady benign stepped

/-- At rest the published data was read after the last request, and after the
last change of the resources. -/
theorem Steady.at_rest {base time : Nat} (steady : Steady resources base state)
    (waiting : state.worker = .waiting) (empty : state.shared.cache.requested.length = 0)
    (settled : state.outstanding = []) (requested : state.lastRequest = some time)
    (since : base ≤ time) :
    ∃ published, state.shared.publications.getLast? = some published ∧
      state.shared.cache.accessCache.data = some published.data ∧ published.After time ∧
      published.pairs = pairsOf (resources.listNamespaces state.shared.world)
        (resources.allowedSubjects state.shared.world) := by
  have chronological := steady.invariant.chronological
  obtain ⟨published, isLast, covers⟩ :=
    (steady.covered time requested since).quiescent steady.invariant waiting empty
      steady.returned
  have readAfter : time < published.listedAt := covers time (List.mem_singleton_self time)
  obtain ⟨_, ordered, reflects⟩ :=
    chronological.published published (List.mem_of_getLast? isLast)
  have stored : state.shared.cache.accessCache.data = some published.data := by
    rw [chronological.latest, isLast]
    rfl
  -- all changes are older than the last request, so the reads saw the present resources
  have unchanged : state.shared.changedAt < published.listedAt := by
    rcases steady.accounted with early | pending | announced
    · omega
    · rw [settled] at pending
      cases pending
    · obtain ⟨last, isRequest, older⟩ := announced
      rw [requested] at isRequest
      cases isRequest
      omega
  exact ⟨published, isLast, stored, Snapshot.After.of_listedAt ordered readAfter,
    reflects unchanged⟩

/-- In the running system no request is lost: whenever it comes to rest, the
published data was read after the last `Request`, and it is what `Synch` computes
from the resources as they are. -/
theorem steady_state_no_lost_update (resources : ResourceReader W) (world : W)
    (before after : List (StartupLabel W)) (started state : StartupState rt W)
    (startup : (startupMachine resources).run (StartupState.initial rt world) before =
      some started)
    (returned : started.startup = .returned none)
    (ran : (startupMachine resources).run started after = some state)
    (succeeds : ∀ label ∈ after, label.benign = true)
    (waiting : state.worker = .waiting) (empty : state.shared.cache.requested.length = 0)
    (settled : state.outstanding = [])
    (time : Nat) (requested : state.lastRequest = some time)
    (since : started.shared.now ≤ time) :
    (∃ published, state.shared.publications.getLast? = some published ∧
      state.shared.cache.accessCache.data = some published.data ∧ published.After time) ∧
    state.shared.cache.accessCache.data =
      (SynchronizedAccessCache.new.Synch rt
        (steady (resources.listNamespaces state.shared.world) (fun _ => none)
          (resources.allowedSubjects state.shared.world))).1.accessCache.data := by
  obtain ⟨published, isLast, stored, readAfter, reflects⟩ :=
    (steady_run startup returned ran succeeds).at_rest waiting empty settled requested since
  refine ⟨⟨published, isLast, stored, readAfter⟩, ?_⟩
  rw [stored, published.computed, reflects]
  symm
  apply Synch_steady_data
  exact Synch_steady_succeeds rt SynchronizedAccessCache.new rfl _ _

private def startupAlone : List (StartupLabel Bool) :=
  startupUntilSynch 0 ++
    [ .startupSynch .compareAndSwap, .startupSynch .list, .startupSynch .computeNamespace,
      .startupSynch .restock, .startupSynch .reset, .startupReturns ]

private def grantAnnounced : List (StartupLabel Bool) :=
  [ .change .role true, .handle 0, .timerFires, .dequeue, .workerSynch .compareAndSwap,
    .workerSynch .list, .workerSynch .computeNamespace, .workerSynch .restock,
    .workerSynch .reset, .workerResumes ]

theorem steady_state_no_lost_update_grant :
    ∃ started state : StartupState Runtime.reference Bool,
      (startupMachine oneTenant).run (StartupState.initial Runtime.reference false)
        startupAlone = some started ∧
      (startupMachine oneTenant).run started grantAnnounced = some state ∧
      state.shared.cache.accessCache.data =
        (SynchronizedAccessCache.new.Synch Runtime.reference
          (steady [bareNamespace "team-a"] (fun _ => none)
            (fun _ => ([userSubject "alice"], none)))).1.accessCache.data :=
  ⟨_, _, rfl, rfl,
    (steady_state_no_lost_update oneTenant false startupAlone grantAnnounced _ _ rfl rfl rfl
      (by decide) rfl rfl rfl 16 rfl (by decide)).2⟩

end NamespaceLister
