/-
What stands for a request until it is served.

A set of past moments is covered while a request is queued, while the worker
holds a dequeued request it has not yet acted on, while some call of `Synch` is
bound to publish data read after these moments, or once such data is published.
One step of the system keeps the coverage, except a compare-and-swap of the
worker that is refused: then only what the holder of the flag has read counts.
-/

import NamespaceLister.Startup

namespace NamespaceLister

open Library

universe u

variable {rt : Runtime} {W : Type u} {resources : ResourceReader W}

def Snapshot.covers (snapshot : Snapshot rt) (times : List Nat) : Prop :=
  ∀ time ∈ times, time < snapshot.listedAt

def newestCovers (times : List Nat) (publications : List (Snapshot rt)) : Prop :=
  ∃ newest, publications.getLast? = some newest ∧ newest.covers times

/-- The call is bound to leave data that covers the times, unless it fails. -/
def SynchPc.settles (times : List Nat) (publications : List (Snapshot rt)) : SynchPc rt → Prop
  | .locked => True
  | .looping _ snapshot => snapshot.covers times
  | .finishing none => newestCovers times publications
  | .returned none => newestCovers times publications
  | _ => False

def SynchAction.benign : SynchAction → Bool
  | .listFails _ => false
  | .contextDone _ => false
  | _ => true

/-! ### Steps of one call -/

section Call

variable {times : List Nat} {shared after : Shared rt W} {pc next : SynchPc rt}
variable {action : SynchAction}

theorem settles_step (past : ∀ time ∈ times, time < shared.now) (benign : action.benign = true)
    (settled : pc.settles times shared.publications)
    (stepped : synchStep resources shared pc action = some (after, next)) :
    next.settles times after.publications := by
  cases synchStep_effect resources stepped with
  | refused busy => cases settled
  | acquired free => cases settled
  | listed => exact past
  | listFailed cause => cases benign
  | computed ns todo snapshot => exact settled
  | expired ns todo snapshot cause => cases benign
  | restocked snapshot => exact ⟨snapshot, List.getLast?_concat, settled⟩
  | released result =>
      cases result with
      | none => exact settled
      | some err => cases settled

theorem settles_outside (settled : pc.settles times shared.publications)
    (outside : pc.inside = false) : newestCovers times shared.publications := by
  cases pc with
  | returned result =>
      cases result with
      | none => exact settled
      | some err => cases settled
  | idle => cases settled
  | start => cases settled
  | locked => cases outside
  | looping todo snapshot => cases outside
  | finishing result => cases outside

theorem synchStep_outside (outside : pc.inside = false)
    (stepped : synchStep resources shared pc action = some (after, next)) :
    after.publications = shared.publications := by
  cases synchStep_effect resources stepped with
  | refused busy => rfl
  | acquired free => rfl
  | _ => cases outside

theorem synchStep_requested
    (stepped : synchStep resources shared pc action = some (after, next)) :
    after.cache.requested = shared.cache.requested := by
  cases synchStep_effect resources stepped <;> rfl

/-- A later publication was read later. -/
theorem newestCovers_step {Caller : Type} {pcs : Caller → SynchPc rt} {caller : Caller}
    (chronological : Chronological resources shared pcs)
    (newest : newestCovers times shared.publications)
    (stepped : synchStep resources shared (pcs caller) action = some (after, next)) :
    newestCovers times after.publications := by
  have effect := synchStep_effect resources stepped
  generalize at_ : pcs caller = current at effect
  cases effect with
  | restocked snapshot =>
      obtain ⟨last, isLast, covers⟩ := newest
      obtain ⟨_, _, newer, _⟩ := chronological.looping caller [] snapshot at_
      refine ⟨snapshot, List.getLast?_concat, ?_⟩
      intro time member
      have before := covers time member
      have later := newer last (List.mem_of_getLast? isLast)
      omega
  | _ => exact newest

end Call

/-! ### Steps of the system -/

def StartupLabel.benign : StartupLabel W → Bool
  | .startupSynch action => action.benign
  | .workerSynch action => action.benign
  | _ => true

def Covered (times : List Nat) (state : StartupState rt W) : Prop :=
  0 < state.shared.cache.requested.length ∨
    state.threads .worker = .start ∨
    (∃ thread, (state.threads thread).settles times state.shared.publications) ∨
    newestCovers times state.shared.publications

section System

variable {times : List Nat} {state next : StartupState rt W} {label : StartupLabel W}

theorem covered_request (state : StartupState rt W) (announced : Option Nat) :
    Covered times (state.request announced) :=
  Or.inl (Channel.trySend_length_pos _ Nat.zero_lt_one)

def StartupLabel.sends : StartupLabel W → Bool
  | .handle _ => true
  | .timerFires => true
  | _ => false

def StartupLabel.receives : StartupLabel W → Bool
  | .dequeue => true
  | _ => false

theorem covered_of_passed (passed : label.sends = true ∨ label.receives = true)
    (effect : StartupEffect resources state label next) : Covered times next := by
  cases effect with
  | handled index announced found => exact covered_request state announced
  | timerFired running => exact covered_request state none
  | dequeued requested now received =>
      right
      left
      exact StartupState.moveThread_same (state.setRequested requested) .worker
        (state.setRequested requested).shared .start
  | _ => rcases passed with sends | receives <;> contradiction

theorem notified_of_silent (silent : label.sends = false)
    (effect : StartupEffect resources state label next) : next.notified = state.notified := by
  cases effect with
  | handled index announced found => cases silent
  | timerFired running => cases silent
  | _ => rfl

private theorem covered_of_queued {thread : Thread} {action : SynchAction}
    {shared : Shared rt W} {pc : SynchPc rt}
    (stepped : synchStep resources state.shared (state.threads thread) action =
      some (shared, pc))
    (queued : 0 < state.shared.cache.requested.length) :
    Covered times (state.moveThread thread shared pc) := by
  left
  change 0 < shared.cache.requested.length
  rw [synchStep_requested stepped]
  exact queued

private theorem settled_step (holds : StartupInvariant resources state)
    (past : ∀ time ∈ times, time < state.shared.now) {thread : Thread} {action : SynchAction}
    {shared : Shared rt W} {pc : SynchPc rt} (benign : action.benign = true)
    (stepped : synchStep resources state.shared (state.threads thread) action =
      some (shared, pc))
    (settled : (∃ other, (state.threads other).settles times state.shared.publications) ∨
      newestCovers times state.shared.publications) :
    (∃ other, ((state.moveThread thread shared pc).threads other).settles times
        shared.publications) ∨
      newestCovers times shared.publications := by
  rcases settled with bound | newest
  · obtain ⟨other, settles⟩ := bound
    by_cases same : other = thread
    · subst other
      left
      refine ⟨thread, ?_⟩
      rw [StartupState.moveThread_same]
      exact settles_step past benign settles stepped
    · by_cases inside : (state.threads other).inside = true
      · -- the other call holds the flag, so this one publishes nothing
        have outside : (state.threads thread).inside = false := by
          rw [Bool.eq_false_iff]
          intro both
          exact same (holds.exclusive.unique other thread inside both)
        left
        refine ⟨other, ?_⟩
        rw [StartupState.moveThread_other state same, synchStep_outside outside stepped]
        exact settles
      · right
        apply newestCovers_step holds.chronological _ stepped
        exact settles_outside settles (Bool.eq_false_iff.mpr inside)
  · exact Or.inr (newestCovers_step holds.chronological newest stepped)

/-- The only way to lose coverage is a refused compare-and-swap of the worker. -/
theorem covered_step (holds : StartupInvariant resources state)
    (past : ∀ time ∈ times, time < state.shared.now) (covered : Covered times state)
    (benign : label.benign = true)
    (kept : label = .workerSynch .compareAndSwap →
      state.shared.cache.synchronizing = true →
      0 < state.shared.cache.requested.length ∨
        (state.threads .startup).settles times state.shared.publications)
    (effect : StartupEffect resources state label next) : Covered times next := by
  have fresh : label.sends = true ∨ label.receives = true → Covered times next :=
    fun passed => covered_of_passed passed effect
  cases effect with
  | handled index announced found => exact fresh (Or.inl rfl)
  | timerFired running => exact fresh (Or.inl rfl)
  | dequeued requested now received => exact fresh (Or.inr rfl)
  | startupSynched action shared pc now stepped =>
      rcases covered with queued | holding | settled
      · exact covered_of_queued stepped queued
      · right
        left
        rw [StartupState.moveThread_startup]
        exact holding
      · exact Or.inr (Or.inr (settled_step holds past benign stepped settled))
  | workerSynched action shared pc now stepped =>
      rcases covered with queued | holding | settled
      · exact covered_of_queued stepped queued
      · have effect := synchStep_effect resources stepped
        rw [holding] at effect
        cases effect with
        | refused busy =>
            rcases kept rfl busy with queued | settles
            · exact Or.inl queued
            · right
              right
              left
              refine ⟨.startup, ?_⟩
              rw [StartupState.moveThread_worker]
              exact settles
        | acquired free =>
            right
            right
            left
            refine ⟨.worker, ?_⟩
            rw [StartupState.moveThread_same]
            trivial
      · exact Or.inr (Or.inr (settled_step holds past benign stepped settled))
  | workerResumed result now at_ =>
      rcases covered with queued | holding | bound | newest
      · exact Or.inl queued
      · rw [at_] at holding
        cases holding
      · obtain ⟨thread, settles⟩ := bound
        right
        right
        cases thread with
        | worker =>
            right
            apply settles_outside settles
            rw [at_]
            rfl
        | startup =>
            left
            refine ⟨.startup, ?_⟩
            change ((state.moveThread .worker state.shared .idle).threads .startup).settles _ _
            rw [StartupState.moveThread_worker]
            exact settles
      · exact Or.inr (Or.inr (Or.inr newest))
  | started now =>
      have fits := holds.wired.fits
      rw [now] at fits
      have unmoved :
          (state.moveThread .startup state.shared .start).threads .worker =
            state.threads .worker :=
        state.moveThread_startup state.shared .start
      rcases covered with queued | holding | bound | newest
      · exact Or.inl queued
      · exact Or.inr (Or.inl (unmoved.trans holding))
      · obtain ⟨thread, settles⟩ := bound
        cases thread with
        | worker =>
            right
            right
            left
            refine ⟨.worker, ?_⟩
            change ((state.moveThread .startup state.shared .start).threads .worker).settles _ _
            rw [unmoved]
            exact settles
        | startup =>
            rw [fits] at settles
            cases settles
      · exact Or.inr (Or.inr (Or.inr newest))
  | _ => exact covered

theorem Covered.quiescent (covered : Covered times state) (holds : StartupInvariant resources state)
    (waiting : state.worker = .waiting) (empty : state.shared.cache.requested.length = 0)
    (returned : state.startup = .returned none) :
    newestCovers times state.shared.publications := by
  have idle : state.threads .worker = .idle := by
    apply holds.wired.resting
    rw [waiting]
    decide
  have fits := holds.wired.fits
  rw [returned] at fits
  rcases covered with queued | holding | bound | newest
  · omega
  · rw [idle] at holding
    cases holding
  · obtain ⟨thread, settles⟩ := bound
    cases thread with
    | worker =>
        rw [idle] at settles
        cases settles
    | startup =>
        change state.threads .startup = .returned none at fits
        rw [fits] at settles
        exact settles
  · exact newest

end System

end NamespaceLister
