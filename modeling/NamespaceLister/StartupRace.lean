/-
The two callers of `Synch` during startup.

`Start` launches the worker before startup makes its own call, so either may
hold the flag when the other one comes.  A worker that is refused has already
taken its request off the channel and drops it: the request is lost unless another
one is queued or the direct call is still to list.  A direct call that is refused makes startup
fail, although a synchronization is running.
-/

import NamespaceLister.RequestCoverage

namespace NamespaceLister

open Library

universe u

variable {rt : Runtime} {W : Type u} {resources : ResourceReader W}
variable {state next : StartupState rt W} {label : StartupLabel W}

/-! ### The request of a refused worker -/

/-- When the worker is refused, another request is queued or the direct call has
not listed yet. -/
def tokenKept (state : StartupState rt W) (label : StartupLabel W) : Prop :=
  label = .workerSynch .compareAndSwap →
  state.shared.cache.synchronizing = true →
  0 < state.shared.cache.requested.length ∨ state.threads .startup = .locked

/-- The moments at which the worker takes a request off the channel.  The clock
starts at one, and every step ticks. -/
def dequeueTimes (labels : List (StartupLabel W)) : List Nat :=
  (labels.zipIdx 1).filterMap (fun timed => if timed.1.receives then some timed.2 else none)

theorem dequeueTimes_concat (labels : List (StartupLabel W)) (label : StartupLabel W) :
    dequeueTimes (labels ++ [label]) =
      dequeueTimes labels ++ if label.receives then [labels.length + 1] else [] := by
  unfold dequeueTimes
  rw [List.zipIdx_append, List.filterMap_append, Nat.add_comm 1]
  cases receives : label.receives <;> simp [receives]

def directPending (state : StartupState rt W) : Prop :=
  state.startup.early = true ∨ state.threads .startup = .start

def startupFails (state : StartupState rt W) : Prop :=
  (∃ err, state.startup = .returned (some err)) ∨
    ∃ err, state.threads .startup = .returned (some err)

/-- Startup fails, its direct call is still to read everything, or the moments are
covered. -/
def Kept (times : List Nat) (state : StartupState rt W) : Prop :=
  startupFails state ∨ directPending state ∨ Covered times state

section Kept

variable {times : List Nat}

private theorem Kept.unmoved (kept : Kept times state)
    (sameStartup : next.startup = state.startup)
    (sameThread : next.threads .startup = state.threads .startup)
    (covered : Covered times state → Covered times next) : Kept times next := by
  rcases kept with failed | pending | before
  · left
    unfold startupFails
    rw [sameStartup, sameThread]
    exact failed
  · right
    left
    unfold directPending
    rw [sameStartup, sameThread]
    exact pending
  · exact Or.inr (Or.inr (covered before))

private theorem Kept.synching (kept : Kept times state) (now : state.startup = .synching) :
    (∃ err, state.threads .startup = .returned (some err)) ∨
      state.threads .startup = .start ∨ Covered times state := by
  rcases kept with failed | pending | covered
  · rcases failed with returned | refused
    · obtain ⟨err, returned⟩ := returned
      rw [now] at returned
      cases returned
    · exact Or.inl refused
  · rcases pending with early | starting
    · rw [now] at early
      cases early
    · exact Or.inr (Or.inl starting)
  · exact Or.inr (Or.inr covered)

theorem kept_step (holds : StartupInvariant resources state)
    (past : ∀ time ∈ times, time < state.shared.now) (kept : Kept times state)
    (benign : label.benign = true) (condition : tokenKept state label)
    (effect : StartupEffect resources state label next) : Kept times next := by
  have refusal : label = .workerSynch .compareAndSwap →
      state.shared.cache.synchronizing = true →
      0 < state.shared.cache.requested.length ∨
        (state.threads .startup).settles times state.shared.publications := by
    intro swap busy
    rcases condition swap busy with queued | unlisted
    · exact Or.inl queued
    · right
      rw [unlisted]
      trivial
  have coveredNext : Covered times state → Covered times next :=
    fun covered => covered_step holds past covered benign refusal effect
  cases effect with
  | metricsRegistered now => exact Or.inr (Or.inl (Or.inl rfl))
  | metricsFailed cause now => exact Or.inl (Or.inl ⟨_, rfl⟩)
  | registered kind rest existing now => exact Or.inr (Or.inl (Or.inl rfl))
  | registerFailed kind rest cause now => exact Or.inl (Or.inl ⟨_, rfl⟩)
  | started now =>
      exact Or.inr (Or.inl (Or.inr
        (StartupState.moveThread_same state .startup state.shared .start)))
  | startupReturned result now at_ =>
      cases result with
      | some err => exact Or.inl (Or.inl ⟨_, rfl⟩)
      | none =>
          rcases kept.synching now with refused | starting | covered
          · obtain ⟨err, refused⟩ := refused
            rw [at_] at refused
            cases refused
          · rw [at_] at starting
            cases starting
          · exact Or.inr (Or.inr (coveredNext covered))
  | startupSynched action shared pc now stepped =>
      have moved := synchStep_effect resources stepped
      rcases kept.synching now with refused | starting | covered
      · obtain ⟨err, refused⟩ := refused
        rw [refused] at moved
        cases moved
      · rw [starting] at moved
        cases moved with
        | refused busy =>
            exact Or.inl (Or.inr ⟨_, StartupState.moveThread_same state .startup _ _⟩)
        | acquired free =>
            right
            right
            right
            right
            left
            refine ⟨.startup, ?_⟩
            rw [StartupState.moveThread_same]
            trivial
      · exact Or.inr (Or.inr (coveredNext covered))
  | dequeued requested now received =>
      exact kept.unmoved rfl
        ((state.setRequested requested).moveThread_worker (state.setRequested requested).shared
          .start) coveredNext
  | workerSynched action shared pc now stepped =>
      exact kept.unmoved rfl (state.moveThread_worker shared pc) coveredNext
  | workerResumed result now at_ =>
      exact kept.unmoved rfl (state.moveThread_worker state.shared .idle) coveredNext
  | _ => exact kept.unmoved rfl rfl coveredNext

theorem Kept.covered (kept : Kept times state) (holds : StartupInvariant resources state)
    (returned : state.startup = .returned none) : Covered times state := by
  have fits := holds.wired.fits
  rw [returned] at fits
  change state.threads .startup = .returned none at fits
  rcases kept with failed | pending | covered
  · rcases failed with ⟨err, wrong⟩ | ⟨err, wrong⟩
    · rw [returned] at wrong
      cases wrong
    · rw [fits] at wrong
      cases wrong
  · rcases pending with early | starting
    · rw [returned] at early
      cases early
    · rw [fits] at starting
      cases starting
  · exact covered

end Kept

structure Unforgotten (resources : ResourceReader W) (labels : List (StartupLabel W))
    (state : StartupState rt W) : Prop where
  system : StartupInvariant resources state
  clock : state.shared.now = labels.length + 1
  taken : ∀ time ∈ dequeueTimes labels, time < state.shared.now
  kept : Kept (dequeueTimes labels ++ state.notified) state

theorem unforgotten_step {labels : List (StartupLabel W)}
    (holds : Unforgotten resources labels state) (benign : label.benign = true)
    (condition : tokenKept state label)
    (stepped : (startupMachine resources).step state label = some next) :
    Unforgotten resources (labels ++ [label]) next := by
  have system := startupInvariant_step holds.system stepped
  have clock := startupMachine_now stepped
  obtain ⟨untimed, effect, ticked⟩ := startupMachine_effect resources stepped
  subst ticked
  refine ⟨system, ?_, ?_, ?_⟩
  · rw [clock, holds.clock, List.length_append]
    rfl
  · intro time member
    rw [clock]
    rw [dequeueTimes_concat] at member
    rcases List.mem_append.mp member with earlier | now
    · exact Nat.lt_succ_of_lt (holds.taken time earlier)
    · split at now
      · rw [List.mem_singleton.mp now, holds.clock]
        exact Nat.lt_succ_self _
      · cases now
  · by_cases passed : label.sends = true ∨ label.receives = true
    · -- the request that passes now stands for everything before it
      have covered : Covered (dequeueTimes (labels ++ [label]) ++ untimed.notified) untimed :=
        covered_of_passed passed effect
      exact Or.inr (Or.inr covered)
    · rw [not_or, Bool.not_eq_true, Bool.not_eq_true] at passed
      have sameTimes : dequeueTimes (labels ++ [label]) = dequeueTimes labels := by
        rw [dequeueTimes_concat, passed.2]
        exact List.append_nil _
      have past : ∀ time ∈ dequeueTimes labels ++ state.notified, time < state.shared.now := by
        intro time member
        rcases List.mem_append.mp member with taken | announced
        · exact holds.taken time taken
        · exact holds.system.timed.notified time announced
      have kept := kept_step holds.system past holds.kept benign condition effect
      rw [← notified_of_silent passed.1 effect, ← sameTimes] at kept
      exact kept

theorem unforgotten_run {world : W} {labels : List (StartupLabel W)}
    (ran : (startupMachine resources).run (StartupState.initial rt world) labels = some state)
    (succeeds : ∀ label ∈ labels, label.benign = true)
    (kept : (startupMachine resources).Along tokenKept (StartupState.initial rt world) labels) :
    Unforgotten resources labels state := by
  apply (startupMachine resources).history_run _ _
    (Machine.Along.and _ kept
      ((startupMachine resources).along_of_forall
        (fun label member _ => succeeds label member) _)) ran
  · intro before current label reached holds condition stepped
    exact unforgotten_step holds condition.2 condition.1 stepped
  · refine ⟨startupInvariant_initial resources world, rfl, ?_, Or.inr (Or.inl (Or.inl rfl))⟩
    intro time member
    cases member

/-- Startup loses no event in the runs in which a worker is refused only while
another request is queued or the direct call is still to list.  The value that is
published in the end was read after every announced change, and after every moment
at which the worker took a request off the channel. -/
theorem startup_no_lost_event (resources : ResourceReader W) (world : W)
    (labels : List (StartupLabel W)) (state : StartupState rt W)
    (ran : (startupMachine resources).run (StartupState.initial rt world) labels = some state)
    (succeeds : ∀ label ∈ labels, label.benign = true)
    (kept : (startupMachine resources).Along tokenKept (StartupState.initial rt world) labels)
    (returned : state.startup = .returned none) (quiescent : state.quiescent) :
    ∃ published, state.shared.publications.getLast? = some published ∧
      state.shared.cache.accessCache.data = some published.data ∧
      (∀ time ∈ state.notified, published.After time) ∧
      ∀ time ∈ dequeueTimes labels, published.After time := by
  have unforgotten := unforgotten_run ran succeeds kept
  have holds := unforgotten.system
  obtain ⟨waiting, empty, _, _⟩ := quiescent
  obtain ⟨published, isLast, covers⟩ :=
    (unforgotten.kept.covered holds returned).quiescent holds waiting empty returned
  obtain ⟨_, ordered, _⟩ :=
    holds.chronological.published published (List.mem_of_getLast? isLast)
  have stored : state.shared.cache.accessCache.data = some published.data := by
    rw [holds.chronological.latest, isLast]
    rfl
  have after : ∀ time ∈ dequeueTimes labels ++ state.notified, published.After time :=
    fun time member => Snapshot.After.of_listedAt ordered (covers time member)
  exact ⟨published, isLast, stored,
    fun time member => after time (List.mem_append_right _ member),
    fun time member => after time (List.mem_append_left _ member)⟩

/-- A grant is announced after the direct call has read and before it ends: the
worker takes the request and is refused. -/
private def grantDuringDirectSynch : List (StartupLabel Bool) :=
  startupUntilSynch 0 ++
    [ .startupSynch .compareAndSwap, .startupSynch .list, .startupSynch .computeNamespace,
      .change .role true, .handle 0, .dequeue, .workerSynch .compareAndSwap, .workerResumes,
      .startupSynch .restock, .startupSynch .reset, .startupReturns ]

theorem startup_event_lost :
    ∃ state : StartupState Runtime.reference Bool,
      (startupMachine oneTenant).run (StartupState.initial Runtime.reference false)
        grantDuringDirectSynch = some state ∧
      (∀ label ∈ grantDuringDirectSynch, label.benign = true) ∧
      state.startup = .returned none ∧ state.quiescent ∧
      ¬∃ published, state.shared.publications.getLast? = some published ∧
        state.shared.cache.accessCache.data = some published.data ∧
        ((∀ time ∈ state.notified, published.After time) ∨
          ∀ time ∈ dequeueTimes grantDuringDirectSynch, published.After time) := by
  refine ⟨_, rfl, by decide, rfl, ⟨rfl, rfl, ?_, rfl⟩, ?_⟩
  · intro thread
    cases thread <;> rfl
  · intro reflected
    obtain ⟨published, isLast, _, either⟩ := reflected
    cases isLast
    rcases either with announced | dequeued
    · have after := announced 11 (by decide)
      exact absurd after.1 (by decide)
    · have after := dequeued 13 (by decide)
      exact absurd after.1 (by decide)

/-- The change comes before the direct call reads, so a refused worker loses
nothing. -/
private def grantBeforeDirectList : List (StartupLabel Bool) :=
  startupUntilSynch 0 ++
    [ .change .role true, .handle 0, .startupSynch .compareAndSwap, .dequeue,
      .workerSynch .compareAndSwap, .workerResumes, .startupSynch .list,
      .startupSynch .computeNamespace, .startupSynch .restock, .startupSynch .reset,
      .startupReturns ]

/-- The worker swaps on a free flag or while the direct call is still to read. -/
private def swapsBeforeList (state : StartupState Runtime.reference Bool) :
    StartupLabel Bool → Bool
  | .workerSynch .compareAndSwap =>
      !state.shared.cache.synchronizing ||
        match state.threads .startup with
        | .locked => true
        | _ => false
  | _ => true

private theorem tokenKept_of_swapsBeforeList (state : StartupState Runtime.reference Bool)
    (label : StartupLabel Bool) (passed : swapsBeforeList state label = true) :
    tokenKept state label := by
  intro swap busy
  subst swap
  right
  simp only [swapsBeforeList, busy, Bool.not_true, Bool.false_or] at passed
  cases at_ : state.threads .startup with
  | locked => rfl
  | _ =>
      rw [at_] at passed
      cases passed

theorem startup_no_lost_event_grant :
    ∃ state : StartupState Runtime.reference Bool,
      (startupMachine oneTenant).run (StartupState.initial Runtime.reference false)
        grantBeforeDirectList = some state ∧
      state.notified = [8] ∧ dequeueTimes grantBeforeDirectList = [11] ∧
      ∃ published, state.shared.publications.getLast? = some published ∧
        state.shared.cache.accessCache.data = some published.data ∧
        (∀ time ∈ state.notified, published.After time) ∧
        ∀ time ∈ dequeueTimes grantBeforeDirectList, published.After time :=
  ⟨_, rfl, rfl, by decide,
    startup_no_lost_event oneTenant false grantBeforeDirectList _ rfl (by decide)
      ((startupMachine oneTenant).along_of_passes tokenKept_of_swapsBeforeList (by decide)) rfl
      ⟨rfl, rfl, fun thread => by cases thread <;> rfl, rfl⟩⟩

/-! ### The result of startup -/

def StartupLabel.succeeds : StartupLabel W → Bool
  | .metricsFails _ => false
  | .registerFails _ => false
  | label => label.benign

/-- The direct call finds the worker outside `Synch`. -/
def uncontended (state : StartupState rt W) (label : StartupLabel W) : Prop :=
  label = .startupSynch .compareAndSwap → (state.threads .worker).inside = false

/-- The result startup is bound to return, once it is decided. -/
def StartupPc.outcome : StartupPc → SynchPc rt → Option (Option StartupError)
  | .returned result, _ => some result
  | .synching, .locked => some none
  | .synching, .looping _ _ => some none
  | .synching, .finishing result => some (result.map .synch)
  | .synching, .returned result => some (result.map .synch)
  | _, _ => none

def StartupState.outcome (state : StartupState rt W) : Option (Option StartupError) :=
  state.startup.outcome (state.threads .startup)

private theorem outcome_unmoved (sameStartup : next.startup = state.startup)
    (sameThread : next.threads .startup = state.threads .startup) :
    next.outcome = state.outcome := by
  unfold StartupState.outcome
  rw [sameStartup, sameThread]

private theorem outcome_moved {shared : Shared rt W} {pc : SynchPc rt}
    (now : state.startup = .synching) :
    (state.moveThread .startup shared pc).outcome = StartupPc.synching.outcome pc := by
  unfold StartupState.outcome
  rw [StartupState.moveThread_same]
  change state.startup.outcome pc = _
  rw [now]

theorem outcome_swap
    (effect : StartupEffect resources state (.startupSynch .compareAndSwap) next) :
    state.outcome = none ∧
      next.outcome =
        some (if state.shared.cache.synchronizing then some (.synch .synchAlreadyRunning)
          else none) := by
  cases effect with
  | startupSynched action shared pc now stepped =>
      rw [outcome_moved now]
      unfold StartupState.outcome
      rw [now]
      have moved := synchStep_effect resources stepped
      generalize state.threads .startup = current at moved
      cases moved with
      | refused busy =>
          rw [if_pos busy]
          exact ⟨rfl, rfl⟩
      | acquired free =>
          rw [free]
          exact ⟨rfl, rfl⟩

theorem outcome_other (succeeds : label.succeeds = true)
    (other : label ≠ .startupSynch .compareAndSwap)
    (effect : StartupEffect resources state label next) : next.outcome = state.outcome := by
  cases effect with
  | metricsRegistered now => simp only [StartupState.outcome, StartupPc.outcome, now]
  | metricsFailed cause now => cases succeeds
  | registered kind rest existing now => simp only [StartupState.outcome, StartupPc.outcome, now]
  | registerFailed kind rest cause now => cases succeeds
  | started now =>
      simp only [StartupState.outcome, StartupPc.outcome, now, StartupState.moveThread_same]
  | startupReturned value now at_ =>
      simp only [StartupState.outcome, StartupPc.outcome, now, at_]
  | startupSynched action shared pc now stepped =>
      rw [outcome_moved now]
      unfold StartupState.outcome
      rw [now]
      have moved := synchStep_effect resources stepped
      generalize state.threads .startup = current at moved
      cases moved with
      | refused busy => exact absurd rfl other
      | acquired free => exact absurd rfl other
      | listFailed cause => cases succeeds
      | expired ns todo snapshot cause => cases succeeds
      | listed => rfl
      | computed ns todo snapshot => rfl
      | restocked snapshot => rfl
      | released value => rfl
  | dequeued requested now received =>
      exact outcome_unmoved rfl
        ((state.setRequested requested).moveThread_worker (state.setRequested requested).shared
          .start)
  | workerSynched action shared pc now stepped =>
      exact outcome_unmoved rfl (state.moveThread_worker shared pc)
  | workerResumed value now at_ =>
      exact outcome_unmoved rfl (state.moveThread_worker state.shared .idle)
  | _ => rfl

private theorem outcome_step_other (succeeds : label.succeeds = true)
    (other : label ≠ .startupSynch .compareAndSwap)
    (stepped : (startupMachine resources).step state label = some next) :
    next.outcome = state.outcome := by
  obtain ⟨untimed, effect, ticked⟩ := startupMachine_effect resources stepped
  have same := outcome_other succeeds other effect
  subst ticked
  exact same

/-- With the flag invariant: the direct call is refused by the worker alone. -/
private theorem outcome_step_swap (holds : StartupInvariant resources state)
    (stepped : (startupMachine resources).step state (.startupSynch .compareAndSwap) =
      some next) :
    state.outcome = none ∧
      ((state.threads .worker).inside = true ∧
          next.outcome = some (some (.synch .synchAlreadyRunning)) ∨
        (state.threads .worker).inside = false ∧ next.outcome = some none) := by
  obtain ⟨untimed, effect, ticked⟩ := startupMachine_effect resources stepped
  subst ticked
  obtain ⟨undecided, decided⟩ := outcome_swap effect
  refine ⟨undecided, ?_⟩
  have outside : (state.threads .startup).inside = false := by
    cases effect with
    | startupSynched action shared pc now moved =>
        have swapped := synchStep_effect resources moved
        generalize state.threads .startup = current at swapped
        cases swapped <;> rfl
  by_cases inside : (state.threads .worker).inside = true
  · have busy := holds.exclusive.flag_iff.mpr ⟨.worker, inside⟩
    rw [if_pos busy] at decided
    exact Or.inl ⟨inside, decided⟩
  · have free : ¬state.shared.cache.synchronizing = true := by
      intro busy
      obtain ⟨thread, within⟩ := holds.exclusive.flag_iff.mp busy
      cases thread with
      | startup =>
          rw [outside] at within
          cases within
      | worker => exact inside within
    rw [if_neg free] at decided
    exact Or.inr ⟨Bool.eq_false_iff.mpr inside, decided⟩

/-- Once decided, the result stands and no swap of the direct call follows. -/
private theorem outcome_run_decided {result : Option StartupError}
    {labels : List (StartupLabel W)} {final : StartupState rt W}
    (holds : StartupInvariant resources state)
    (succeeds : ∀ label ∈ labels, label.succeeds = true)
    (decided : state.outcome = some result)
    (ran : (startupMachine resources).run state labels = some final) :
    final.outcome = some result ∧
      (startupMachine resources).Along uncontended state labels := by
  induction labels generalizing state with
  | nil =>
      cases ran
      exact ⟨decided, trivial⟩
  | cons label rest ih =>
      obtain ⟨next, stepped, ranRest⟩ := (startupMachine resources).run_cons_some ran
      have other : label ≠ .startupSynch .compareAndSwap := by
        intro swap
        subst swap
        have undecided := (outcome_step_swap holds stepped).1
        rw [decided] at undecided
        cases undecided
      have same := outcome_step_other (succeeds label List.mem_cons_self) other stepped
      obtain ⟨last, along⟩ := ih (startupInvariant_step holds stepped)
        (fun later member => succeeds later (List.mem_cons_of_mem label member))
        (same.trans decided) ranRest
      refine ⟨last, ?_⟩
      rw [(startupMachine resources).along_cons_iff stepped]
      exact ⟨fun swap => absurd swap other, along⟩

private theorem outcome_run_undecided {result : Option StartupError}
    {labels : List (StartupLabel W)} {final : StartupState rt W}
    (holds : StartupInvariant resources state)
    (succeeds : ∀ label ∈ labels, label.succeeds = true)
    (undecided : state.outcome = none)
    (ran : (startupMachine resources).run state labels = some final)
    (reached : final.outcome = some result) :
    (result = none ∧ (startupMachine resources).Along uncontended state labels) ∨
      (result = some (.synch .synchAlreadyRunning) ∧
        ¬(startupMachine resources).Along uncontended state labels) := by
  induction labels generalizing state with
  | nil =>
      cases ran
      rw [undecided] at reached
      cases reached
  | cons label rest ih =>
      obtain ⟨next, stepped, ranRest⟩ := (startupMachine resources).run_cons_some ran
      have invariant := startupInvariant_step holds stepped
      have succeedsRest : ∀ later ∈ rest, later.succeeds = true :=
        fun later member => succeeds later (List.mem_cons_of_mem label member)
      by_cases swap : label = .startupSynch .compareAndSwap
      · subst swap
        rcases (outcome_step_swap holds stepped).2 with ⟨inside, refused⟩ | ⟨outside, acquired⟩
        · right
          obtain ⟨last, _⟩ := outcome_run_decided invariant succeedsRest refused ranRest
          rw [reached] at last
          cases last
          refine ⟨rfl, ?_⟩
          intro along
          rw [along.1 rfl] at inside
          cases inside
        · left
          obtain ⟨last, along⟩ := outcome_run_decided invariant succeedsRest acquired ranRest
          rw [reached] at last
          cases last
          refine ⟨rfl, ?_⟩
          rw [(startupMachine resources).along_cons_iff stepped]
          exact ⟨fun _ => outside, along⟩
      · have same := outcome_step_other (succeeds label List.mem_cons_self) swap stepped
        have alongIff : (startupMachine resources).Along uncontended state (label :: rest) ↔
            (startupMachine resources).Along uncontended next rest := by
          rw [(startupMachine resources).along_cons_iff stepped]
          exact and_iff_right (fun isSwap => absurd isSwap swap)
        rw [alongIff]
        exact ih invariant succeedsRest (same.trans undecided) ranRest

/-! ### Startup comes to its end -/

def StartupLabel.own : StartupLabel W → Bool
  | .metricsRegistered => true
  | .register _ => true
  | .start => true
  | .startupSynch _ => true
  | .startupReturns => true
  | _ => false

/-- Startup can return by steps of its own that succeed. -/
def Completes (resources : ResourceReader W) (state : StartupState rt W) : Prop :=
  ∃ labels final result, (∀ label ∈ labels, label.own = true ∧ label.succeeds = true) ∧
    (startupMachine resources).run state labels = some final ∧
    final.startup = .returned result

private theorem completes_step (label : StartupLabel W) (own : label.own = true)
    (succeeds : label.succeeds = true)
    (acted : startupAct resources state label = some next)
    (completes : Completes resources next.tick) : Completes resources state := by
  obtain ⟨labels, final, result, all, ran, returned⟩ := completes
  refine ⟨label :: labels, final, result, ?_, ?_, returned⟩
  · intro other member
    rcases List.mem_cons.mp member with here | later
    · rw [here]
      exact ⟨own, succeeds⟩
    · exact all other later
  · have stepped : (startupMachine resources).step state label = some next.tick :=
      congrArg (Option.map StartupState.tick) acted
    rw [Machine.run, stepped]
    exact ran

private theorem completes_synch (action : SynchAction) (benign : action.benign = true)
    {shared : Shared rt W} {pc : SynchPc rt} (now : state.startup = .synching)
    (stepped : synchStep resources state.shared (state.threads .startup) action =
      some (shared, pc))
    (completes : Completes resources (state.moveThread .startup shared pc).tick) :
    Completes resources state := by
  refine completes_step (.startupSynch action) rfl benign ?_ completes
  simp only [startupAct, now, stepped]

private theorem completes_returned {result : Option SynchError}
    (now : state.startup = .synching) (at_ : state.threads .startup = .returned result) :
    Completes resources state := by
  refine completes_step .startupReturns rfl rfl (by simp only [startupAct, now, at_]; rfl) ?_
  exact ⟨[], _, _, fun _ member => absurd member List.not_mem_nil, rfl, rfl⟩

private theorem completes_finishing {result : Option SynchError}
    (now : state.startup = .synching) (at_ : state.threads .startup = .finishing result) :
    Completes resources state := by
  refine completes_synch .reset rfl now (by rw [at_]; rfl) ?_
  exact completes_returned now (state.moveThread_same .startup _ (.returned result))

private theorem completes_looping (todo : List Namespace) {snapshot : Snapshot rt}
    (now : state.startup = .synching) (at_ : state.threads .startup = .looping todo snapshot) :
    Completes resources state := by
  induction todo generalizing state snapshot with
  | nil =>
      refine completes_synch .restock rfl now (by rw [at_]; rfl) ?_
      exact completes_finishing now (state.moveThread_same .startup _ (.finishing none))
  | cons ns rest ih =>
      refine completes_synch .computeNamespace rfl now (by rw [at_]; rfl) ?_
      exact ih now (state.moveThread_same .startup _ _)

private theorem completes_start (now : state.startup = .synching)
    (at_ : state.threads .startup = .start) : Completes resources state := by
  by_cases busy : state.shared.cache.synchronizing = true
  · refine completes_synch .compareAndSwap rfl now (by rw [at_, synchStep, if_pos busy]) ?_
    exact completes_returned now (state.moveThread_same .startup _ _)
  · refine completes_synch .compareAndSwap rfl now (by rw [at_, synchStep, if_neg busy]) ?_
    refine completes_synch .list rfl now
      (by rw [StartupState.tick, StartupState.moveThread_same]; rfl) ?_
    exact completes_looping _ now (StartupState.moveThread_same _ .startup _ _)

private theorem completes_registering (remaining : List Kind)
    (now : state.startup = .registering remaining) : Completes resources state := by
  induction remaining generalizing state with
  | nil =>
      refine completes_step .start rfl rfl (by simp only [startupAct, now]; rfl) ?_
      exact completes_start rfl (state.moveThread_same .startup state.shared .start)
  | cons kind rest ih =>
      refine completes_step (.register 0) rfl rfl (by simp only [startupAct, now]; rfl) ?_
      exact ih rfl

theorem completes (holds : StartupInvariant resources state) : Completes resources state := by
  have fits := holds.wired.fits
  cases now : state.startup with
  | metrics =>
      refine completes_step .metricsRegistered rfl rfl (by simp only [startupAct, now]; rfl) ?_
      exact completes_registering watchedKinds rfl
  | registering remaining => exact completes_registering remaining now
  | returned result =>
      exact ⟨[], state, result, fun _ member => absurd member List.not_mem_nil, rfl, now⟩
  | synching =>
      rw [now] at fits
      cases at_ : state.threads .startup with
      | idle => exact absurd at_ fits
      | start => exact completes_start now at_
      | locked =>
          refine completes_synch .list rfl now (by rw [at_]; rfl) ?_
          exact completes_looping _ now (state.moveThread_same .startup _ _)
      | looping todo snapshot => exact completes_looping todo now at_
      | finishing result => exact completes_finishing now at_
      | returned result => exact completes_returned now at_

/-- Startup returns nil exactly when its direct call finds the worker outside
`Synch`; otherwise it reports the running synchronization as its error.  It can
always go on to its return. -/
theorem startup_succeeds_iff (resources : ResourceReader W) (world : W)
    (labels : List (StartupLabel W)) (state : StartupState rt W)
    (ran : (startupMachine resources).run (StartupState.initial rt world) labels = some state)
    (succeeds : ∀ label ∈ labels, label.succeeds = true) :
    (∀ result, state.startup = .returned result →
      (result = none ↔
        (startupMachine resources).Along uncontended (StartupState.initial rt world) labels) ∧
      (result = none ∨ result = some (.synch .synchAlreadyRunning))) ∧
    ∃ rest final result, (∀ label ∈ rest, label.own = true ∧ label.succeeds = true) ∧
      (startupMachine resources).run state rest = some final ∧
      final.startup = .returned result := by
  have start : StartupInvariant resources (StartupState.initial rt world) :=
    startupInvariant_initial resources world
  refine ⟨?_, completes (startupInvariant_run start ran)⟩
  intro result returned
  have reached : state.outcome = some result := by
    unfold StartupState.outcome
    rw [returned]
    rfl
  rcases outcome_run_undecided start succeeds rfl ran reached with
    ⟨isNil, along⟩ | ⟨isError, contended⟩
  · exact ⟨⟨fun _ => along, fun _ => isNil⟩, Or.inl isNil⟩
  · refine ⟨⟨?_, fun along => absurd along contended⟩, Or.inr isError⟩
    intro isNil
    rw [isError] at isNil
    cases isNil

/-- The namespace informer holds an object at registration; its Add event makes
the worker win the flag. -/
private def workerFirst : List (StartupLabel Bool) :=
  startupUntilSynch 1 ++
    [ .handle 0, .dequeue, .workerSynch .compareAndSwap, .startupSynch .compareAndSwap,
      .startupReturns ]

theorem startup_fails_on_running_synch :
    ∃ state : StartupState Runtime.reference Bool,
      (startupMachine oneTenant).run (StartupState.initial Runtime.reference false)
        workerFirst = some state ∧
      (∀ label ∈ workerFirst, label.succeeds = true) ∧
      state.startup = .returned (some (.synch .synchAlreadyRunning)) :=
  ⟨_, rfl, by decide, rfl⟩

theorem startup_succeeds_iff_worker_first :
    ∃ state : StartupState Runtime.reference Bool,
      (startupMachine oneTenant).run (StartupState.initial Runtime.reference false)
        workerFirst = some state ∧
      ¬(startupMachine oneTenant).Along uncontended
        (StartupState.initial Runtime.reference false) workerFirst :=
  ⟨_, rfl, fun along =>
    nomatch ((startup_succeeds_iff oneTenant false workerFirst _ rfl (by decide)).1 _ rfl).1.mpr
      along⟩

end NamespaceLister
