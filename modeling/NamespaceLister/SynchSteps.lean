/-
One call of `Synch` in its atomic steps.

The steps are the compare-and-swap, the namespace List, the computation of one
namespace, the restock and the deferred reset of the flag.  Reads see the
resources as they are at their step.  A snapshot keeps, beside the data under
construction, when its reads were made and what they returned; these records
are never looked at by a step.
-/

import NamespaceLister.Library.Machine
import NamespaceLister.SubjectNamespaceLister

namespace NamespaceLister

open Library

universe u v

/-- How the resources are read: `namespaceLister.List` and
`subjectLocator.AllowedSubjects`. -/
structure ResourceReader (W : Type u) where
  listNamespaces : W → List Namespace
  allowedSubjects : W → AttributesRecord → List Subject × Option GoString

/-! ### Snapshots -/

/-- Access data with the reads it was computed from. -/
structure Snapshot (rt : Runtime) where
  data : AccessData
  listedAt : Nat
  pairs : List (Namespace × List Subject)
  reads : List Nat
  computed : data = accessOf rt pairs

namespace Snapshot

variable {rt : Runtime}

def take (rt : Runtime) (now : Nat) : Snapshot rt :=
  { data := ∅
    listedAt := now
    pairs := []
    reads := []
    computed := rfl }

def extend (snapshot : Snapshot rt) (now : Nat) (ns : Namespace) (ss : List Subject) :
    Snapshot rt :=
  { data := synchNamespace rt snapshot.data ns ss
    listedAt := snapshot.listedAt
    pairs := snapshot.pairs ++ [(ns, ss)]
    reads := snapshot.reads ++ [now]
    computed := by
      rw [accessOf_append, snapshot.computed] }

def After (snapshot : Snapshot rt) (time : Nat) : Prop :=
  time < snapshot.listedAt ∧ ∀ read ∈ snapshot.reads, time < read

def Ordered (snapshot : Snapshot rt) : Prop :=
  ∀ read ∈ snapshot.reads, snapshot.listedAt < read

theorem After.of_listedAt {snapshot : Snapshot rt} {time : Nat} (ordered : snapshot.Ordered)
    (before : time < snapshot.listedAt) : snapshot.After time := by
  refine ⟨before, ?_⟩
  intro read member
  have later := ordered read member
  omega

theorem take_ordered (now : Nat) : (take rt now).Ordered := by
  intro read member
  cases member

theorem extend_ordered {snapshot : Snapshot rt} {now : Nat} (ordered : snapshot.Ordered)
    (later : snapshot.listedAt < now) (ns : Namespace) (ss : List Subject) :
    (snapshot.extend now ns ss).Ordered := by
  intro read member
  rcases List.mem_append.mp member with old | fresh
  · exact ordered read old
  · rw [List.mem_singleton.mp fresh]
    exact later

end Snapshot

/-! ### The steps of a caller -/

inductive SynchPc (rt : Runtime) where
  | idle
  | start
  | locked
  | looping (todo : List Namespace) (snapshot : Snapshot rt)
  | finishing (result : Option SynchError)
  | returned (result : Option SynchError)

/-- Between a successful compare-and-swap and the reset of the flag. -/
def SynchPc.inside {rt : Runtime} : SynchPc rt → Bool
  | .locked => true
  | .looping _ _ => true
  | .finishing _ => true
  | _ => false

inductive SynchAction where
  | compareAndSwap
  | list
  | listFails (cause : GoString)
  | computeNamespace
  | contextDone (cause : ContextError)
  | restock
  | reset
deriving DecidableEq

/-- What the callers share, with the clock, the time of the last change of the
resources and the values published so far, oldest first. -/
structure Shared (rt : Runtime) (W : Type u) where
  cache : SynchronizedAccessCache
  world : W
  now : Nat
  changedAt : Nat
  publications : List (Snapshot rt)

namespace Shared

variable {rt : Runtime} {W : Type u}

def initial (rt : Runtime) (world : W) : Shared rt W :=
  { cache := SynchronizedAccessCache.new
    world := world
    now := 1
    changedAt := 0
    publications := [] }

def setFlag (shared : Shared rt W) (flag : Bool) : Shared rt W :=
  { shared with cache := { shared.cache with synchronizing := flag } }

def publish (shared : Shared rt W) (snapshot : Snapshot rt) : Shared rt W :=
  { shared with
    cache := { shared.cache with accessCache := shared.cache.accessCache.restock snapshot.data }
    publications := shared.publications ++ [snapshot] }

def change (shared : Shared rt W) (world : W) : Shared rt W :=
  { shared with world := world, changedAt := shared.now }

def tick (shared : Shared rt W) : Shared rt W :=
  { shared with now := shared.now + 1 }

end Shared

section Steps

variable {rt : Runtime} {W : Type u} (reader : ResourceReader W)

def synchStep (shared : Shared rt W) :
    SynchPc rt → SynchAction → Option (Shared rt W × SynchPc rt)
  | .start, .compareAndSwap =>
      if shared.cache.synchronizing then
        some (shared, .returned (some .synchAlreadyRunning))
      else some (shared.setFlag true, .locked)
  | .locked, .list =>
      some (shared,
        .looping (reader.listNamespaces shared.world) (Snapshot.take rt shared.now))
  | .locked, .listFails cause => some (shared, .finishing (some (.listFailed cause)))
  | .looping (ns :: todo) snapshot, .computeNamespace =>
      let ss := (reader.allowedSubjects shared.world (namespaceAttributes ns)).1
      some (shared, .looping todo (snapshot.extend shared.now ns ss))
  | .looping (_ :: _) _, .contextDone cause =>
      some (shared, .finishing (some (.contextDone cause)))
  | .looping [] snapshot, .restock => some (shared.publish snapshot, .finishing none)
  | .finishing result, .reset => some (shared.setFlag false, .returned result)
  | _, _ => none

inductive SynchEffect (shared : Shared rt W) :
    SynchPc rt → SynchAction → Shared rt W → SynchPc rt → Prop where
  | refused (busy : shared.cache.synchronizing = true) :
      SynchEffect shared .start .compareAndSwap shared
        (.returned (some .synchAlreadyRunning))
  | acquired (free : shared.cache.synchronizing = false) :
      SynchEffect shared .start .compareAndSwap (shared.setFlag true) .locked
  | listed :
      SynchEffect shared .locked .list shared
        (.looping (reader.listNamespaces shared.world) (Snapshot.take rt shared.now))
  | listFailed (cause : GoString) :
      SynchEffect shared .locked (.listFails cause) shared
        (.finishing (some (.listFailed cause)))
  | computed (ns : Namespace) (todo : List Namespace) (snapshot : Snapshot rt) :
      SynchEffect shared (.looping (ns :: todo) snapshot) .computeNamespace shared
        (.looping todo (snapshot.extend shared.now ns
          (reader.allowedSubjects shared.world (namespaceAttributes ns)).1))
  | expired (ns : Namespace) (todo : List Namespace) (snapshot : Snapshot rt)
      (cause : ContextError) :
      SynchEffect shared (.looping (ns :: todo) snapshot) (.contextDone cause) shared
        (.finishing (some (.contextDone cause)))
  | restocked (snapshot : Snapshot rt) :
      SynchEffect shared (.looping [] snapshot) .restock (shared.publish snapshot)
        (.finishing none)
  | released (result : Option SynchError) :
      SynchEffect shared (.finishing result) .reset (shared.setFlag false) (.returned result)

theorem synchStep_effect {shared after : Shared rt W} {pc next : SynchPc rt}
    {action : SynchAction} (stepped : synchStep reader shared pc action = some (after, next)) :
    SynchEffect reader shared pc action after next := by
  unfold synchStep at stepped
  split at stepped
  · split at stepped
    · rename_i busy
      cases stepped
      exact .refused busy
    · rename_i free
      cases stepped
      exact .acquired (Bool.eq_false_iff.mpr free)
  · cases stepped
    exact .listed
  · cases stepped
    exact .listFailed _
  · cases stepped
    exact .computed _ _ _
  · cases stepped
    exact .expired _ _ _ _
  · cases stepped
    exact .restocked _
  · cases stepped
    exact .released _
  · cases stepped

variable {reader} {shared after : Shared rt W} {pc next : SynchPc rt} {action : SynchAction}

theorem synchStep_now (stepped : synchStep reader shared pc action = some (after, next)) :
    after.now = shared.now := by
  cases synchStep_effect reader stepped <;> rfl

theorem synchStep_world (stepped : synchStep reader shared pc action = some (after, next)) :
    after.world = shared.world := by
  cases synchStep_effect reader stepped <;> rfl

theorem synchStep_changedAt (stepped : synchStep reader shared pc action = some (after, next)) :
    after.changedAt = shared.changedAt := by
  cases synchStep_effect reader stepped <;> rfl

theorem synchStep_publications
    (stepped : synchStep reader shared pc action = some (after, next)) :
    ∃ more, after.publications = shared.publications ++ more := by
  cases synchStep_effect reader stepped with
  | restocked snapshot => exact ⟨[snapshot], rfl⟩
  | _ => exact ⟨[], (List.append_nil _).symm⟩

end Steps

/-! ### Any number of callers -/

section Callers

variable {rt : Runtime} {W : Type u} {Caller : Type v} {reader : ResourceReader W}
variable {shared after : Shared rt W} {pcs : Caller → SynchPc rt}

/-- At most one caller is inside, and the flag says whether one is. -/
structure Exclusive (shared : Shared rt W) (pcs : Caller → SynchPc rt) : Prop where
  unique : ∀ first second, (pcs first).inside = true → (pcs second).inside = true →
    first = second
  flag_iff : shared.cache.synchronizing = true ↔ ∃ caller, (pcs caller).inside = true

theorem Exclusive.of_same_inside {pcsAfter : Caller → SynchPc rt}
    (exclusive : Exclusive shared pcs)
    (sameFlag : after.cache.synchronizing = shared.cache.synchronizing)
    (sameInside : ∀ caller, (pcsAfter caller).inside = (pcs caller).inside) :
    Exclusive after pcsAfter := by
  constructor
  · intro first second insideFirst insideSecond
    rw [sameInside] at insideFirst insideSecond
    exact exclusive.unique first second insideFirst insideSecond
  · rw [sameFlag, exclusive.flag_iff]
    simp only [sameInside]

structure Chronological (reader : ResourceReader W) (shared : Shared rt W)
    (pcs : Caller → SynchPc rt) : Prop where
  changed : shared.changedAt < shared.now
  latest : shared.cache.accessCache.data = shared.publications.getLast?.map Snapshot.data
  increasing : shared.publications.Pairwise (fun older newer => older.listedAt < newer.listedAt)
  published : ∀ snapshot ∈ shared.publications,
    snapshot.listedAt < shared.now ∧ snapshot.Ordered ∧
      (shared.changedAt < snapshot.listedAt →
        snapshot.pairs =
          pairsOf (reader.listNamespaces shared.world) (reader.allowedSubjects shared.world))
  looping : ∀ caller todo snapshot, pcs caller = .looping todo snapshot →
    snapshot.listedAt < shared.now ∧ snapshot.Ordered ∧
      (∀ older ∈ shared.publications, older.listedAt < snapshot.listedAt) ∧
      (shared.changedAt < snapshot.listedAt →
        snapshot.pairs ++ pairsOf todo (reader.allowedSubjects shared.world) =
          pairsOf (reader.listNamespaces shared.world) (reader.allowedSubjects shared.world))

theorem Chronological.frame {pcsAfter : Caller → SynchPc rt}
    (chronological : Chronological reader shared pcs)
    (sameWorld : after.world = shared.world) (sameChange : after.changedAt = shared.changedAt)
    (sameData : after.cache.accessCache = shared.cache.accessCache)
    (samePublications : after.publications = shared.publications)
    (later : shared.now ≤ after.now)
    (sameLooping : ∀ caller todo snapshot, pcsAfter caller = .looping todo snapshot →
      pcs caller = .looping todo snapshot) :
    Chronological reader after pcsAfter := by
  constructor
  · have changed := chronological.changed
    omega
  · rw [sameData, samePublications]
    exact chronological.latest
  · rw [samePublications]
    exact chronological.increasing
  · intro snapshot member
    rw [samePublications] at member
    rw [sameWorld, sameChange]
    obtain ⟨past, ordered, reflects⟩ := chronological.published snapshot member
    exact ⟨by omega, ordered, reflects⟩
  · intro caller todo snapshot pc
    rw [sameWorld, sameChange, samePublications]
    obtain ⟨past, ordered, newer, reflects⟩ :=
      chronological.looping caller todo snapshot (sameLooping caller todo snapshot pc)
    exact ⟨by omega, ordered, newer, reflects⟩

theorem Chronological.change (chronological : Chronological reader shared pcs) (world : W) :
    Chronological reader (shared.change world).tick pcs := by
  constructor
  · exact Nat.lt_succ_self shared.now
  · exact chronological.latest
  · exact chronological.increasing
  · intro snapshot member
    obtain ⟨past, ordered, _⟩ := chronological.published snapshot member
    refine ⟨Nat.lt_succ_of_lt past, ordered, ?_⟩
    intro stale
    change shared.now < snapshot.listedAt at stale
    omega
  · intro caller todo snapshot pc
    obtain ⟨past, ordered, newer, _⟩ := chronological.looping caller todo snapshot pc
    refine ⟨Nat.lt_succ_of_lt past, ordered, newer, ?_⟩
    intro stale
    change shared.now < snapshot.listedAt at stale
    omega

variable [DecidableEq Caller] {caller : Caller} {next : SynchPc rt} {action : SynchAction}

theorem Exclusive.keep (exclusive : Exclusive shared pcs)
    (sameFlag : after.cache.synchronizing = shared.cache.synchronizing)
    (sameInside : next.inside = (pcs caller).inside) :
    Exclusive after (Function.update pcs caller next) := by
  apply exclusive.of_same_inside sameFlag
  intro other
  by_cases same : other = caller
  · subst other
    rw [Function.update_self]
    exact sameInside
  · rw [Function.update_of_ne same]

theorem Exclusive.step (exclusive : Exclusive shared pcs)
    (stepped : synchStep reader shared (pcs caller) action = some (after, next)) :
    Exclusive after (Function.update pcs caller next) := by
  have effect := synchStep_effect reader stepped
  generalize pc : pcs caller = current at effect
  cases effect with
  | refused busy => exact exclusive.keep rfl (by rw [pc]; rfl)
  | listed => exact exclusive.keep rfl (by rw [pc]; rfl)
  | listFailed cause => exact exclusive.keep rfl (by rw [pc]; rfl)
  | computed ns todo snapshot => exact exclusive.keep rfl (by rw [pc]; rfl)
  | expired ns todo snapshot cause => exact exclusive.keep rfl (by rw [pc]; rfl)
  | restocked snapshot => exact exclusive.keep rfl (by rw [pc]; rfl)
  | acquired free =>
      -- nobody was inside, so the caller is the only one now
      have nobody : ∀ other, (pcs other).inside ≠ true := by
        intro other inside
        have busy := exclusive.flag_iff.mpr ⟨other, inside⟩
        rw [free] at busy
        cases busy
      have only : ∀ other, (Function.update pcs caller SynchPc.locked other).inside = true →
          other = caller := by
        intro other inside
        by_contra different
        rw [Function.update_of_ne different] at inside
        exact nobody other inside
      constructor
      · intro first second insideFirst insideSecond
        rw [only first insideFirst, only second insideSecond]
      · refine ⟨fun _ => ⟨caller, ?_⟩, fun _ => rfl⟩
        rw [Function.update_self]
        rfl
  | released result =>
      have wasInside : (pcs caller).inside = true := by rw [pc]; rfl
      have nobody : ∀ other,
          (Function.update pcs caller (SynchPc.returned result) other).inside ≠ true := by
        intro other inside
        by_cases same : other = caller
        · subst other
          rw [Function.update_self] at inside
          cases inside
        · rw [Function.update_of_ne same] at inside
          exact same (exclusive.unique other caller inside wasInside)
      constructor
      · intro first second insideFirst
        exact absurd insideFirst (nobody first)
      · constructor
        · intro busy
          cases busy
        · intro someone
          obtain ⟨other, inside⟩ := someone
          exact absurd inside (nobody other)

theorem Chronological.leave (chronological : Chronological reader shared pcs)
    (sameWorld : after.world = shared.world) (sameChange : after.changedAt = shared.changedAt)
    (sameData : after.cache.accessCache = shared.cache.accessCache)
    (samePublications : after.publications = shared.publications)
    (later : shared.now ≤ after.now)
    (outside : ∀ todo snapshot, next ≠ .looping todo snapshot) :
    Chronological reader after (Function.update pcs caller next) := by
  apply chronological.frame sameWorld sameChange sameData samePublications later
  intro other todo snapshot pc
  by_cases same : other = caller
  · subst other
    rw [Function.update_self] at pc
    exact absurd pc (outside todo snapshot)
  · rw [Function.update_of_ne same] at pc
    exact pc

private theorem Chronological.enter (chronological : Chronological reader shared pcs)
    (todo : List Namespace) (snapshot : Snapshot rt)
    (past : snapshot.listedAt ≤ shared.now) (ordered : snapshot.Ordered)
    (newer : ∀ older ∈ shared.publications, older.listedAt < snapshot.listedAt)
    (reflects : shared.changedAt < snapshot.listedAt →
      snapshot.pairs ++ pairsOf todo (reader.allowedSubjects shared.world) =
        pairsOf (reader.listNamespaces shared.world) (reader.allowedSubjects shared.world)) :
    Chronological reader shared.tick (Function.update pcs caller (.looping todo snapshot)) := by
  constructor
  · exact Nat.lt_succ_of_lt chronological.changed
  · exact chronological.latest
  · exact chronological.increasing
  · intro older member
    obtain ⟨before, olderOrdered, olderReflects⟩ := chronological.published older member
    exact ⟨Nat.lt_succ_of_lt before, olderOrdered, olderReflects⟩
  · intro other otherTodo otherSnapshot pc
    by_cases same : other = caller
    · subst other
      rw [Function.update_self] at pc
      cases pc
      exact ⟨Nat.lt_succ_of_le past, ordered, newer, reflects⟩
    · rw [Function.update_of_ne same] at pc
      obtain ⟨before, otherOrdered, otherNewer, otherReflects⟩ :=
        chronological.looping other otherTodo otherSnapshot pc
      exact ⟨Nat.lt_succ_of_lt before, otherOrdered, otherNewer, otherReflects⟩

/-- The restock: nobody else is in the loop. -/
private theorem Chronological.append (chronological : Chronological reader shared pcs)
    (exclusive : Exclusive shared pcs) (snapshot : Snapshot rt)
    (pc : pcs caller = .looping [] snapshot) :
    Chronological reader (shared.publish snapshot).tick
      (Function.update pcs caller (.finishing none)) := by
  obtain ⟨past, ordered, newer, reflects⟩ := chronological.looping caller [] snapshot pc
  have wasInside : (pcs caller).inside = true := by rw [pc]; rfl
  constructor
  · exact Nat.lt_succ_of_lt chronological.changed
  · change some snapshot.data = (shared.publications ++ [snapshot]).getLast?.map Snapshot.data
    rw [List.getLast?_concat]
    rfl
  · change (shared.publications ++ [snapshot]).Pairwise _
    rw [List.pairwise_append]
    refine ⟨chronological.increasing, List.pairwise_singleton _ _, ?_⟩
    intro older member last isLast
    rw [List.mem_singleton.mp isLast]
    exact newer older member
  · intro other member
    rcases List.mem_append.mp member with old | fresh
    · obtain ⟨before, otherOrdered, otherReflects⟩ := chronological.published other old
      exact ⟨Nat.lt_succ_of_lt before, otherOrdered, otherReflects⟩
    · rw [List.mem_singleton.mp fresh]
      refine ⟨Nat.lt_succ_of_lt past, ordered, ?_⟩
      intro unchanged
      have whole := reflects unchanged
      change snapshot.pairs ++ [] = _ at whole
      rw [List.append_nil] at whole
      exact whole
  · intro other todo otherSnapshot otherPc
    by_cases same : other = caller
    · subst other
      rw [Function.update_self] at otherPc
      cases otherPc
    · rw [Function.update_of_ne same] at otherPc
      have otherInside : (pcs other).inside = true := by rw [otherPc]; rfl
      exact absurd (exclusive.unique other caller otherInside wasInside) same

theorem Chronological.step (chronological : Chronological reader shared pcs)
    (exclusive : Exclusive shared pcs)
    (stepped : synchStep reader shared (pcs caller) action = some (after, next)) :
    Chronological reader after.tick (Function.update pcs caller next) := by
  have effect := synchStep_effect reader stepped
  generalize pc : pcs caller = current at effect
  cases effect with
  | refused busy =>
      exact chronological.leave rfl rfl rfl rfl (Nat.le_succ _) (fun _ _ => nofun)
  | acquired free =>
      exact chronological.leave rfl rfl rfl rfl (Nat.le_succ _) (fun _ _ => nofun)
  | listFailed cause =>
      exact chronological.leave rfl rfl rfl rfl (Nat.le_succ _) (fun _ _ => nofun)
  | expired ns todo snapshot cause =>
      exact chronological.leave rfl rfl rfl rfl (Nat.le_succ _) (fun _ _ => nofun)
  | released result =>
      exact chronological.leave rfl rfl rfl rfl (Nat.le_succ _) (fun _ _ => nofun)
  | listed =>
      apply chronological.enter
      · exact Nat.le_refl _
      · exact Snapshot.take_ordered _
      · intro older member
        exact (chronological.published older member).1
      · intro _unchanged
        rfl
  | computed ns todo snapshot =>
      obtain ⟨past, ordered, newer, reflects⟩ :=
        chronological.looping caller (ns :: todo) snapshot pc
      apply chronological.enter
      · exact Nat.le_of_lt past
      · exact Snapshot.extend_ordered ordered past ns _
      · exact newer
      · intro unchanged
        rw [← reflects unchanged]
        change (snapshot.pairs ++ [_]) ++ _ = _
        rw [List.append_assoc]
        rfl
  | restocked snapshot => exact chronological.append exclusive snapshot pc

end Callers

theorem exclusive_initial {rt : Runtime} {W : Type u} {Caller : Type v} (world : W) :
    Exclusive (Shared.initial rt world) (fun _ : Caller => SynchPc.idle) := by
  constructor
  · intro first second inside
    cases inside
  · constructor
    · intro busy
      cases busy
    · intro someone
      obtain ⟨_, inside⟩ := someone
      cases inside

theorem chronological_initial {rt : Runtime} {W : Type u} {Caller : Type v}
    (reader : ResourceReader W) (world : W) :
    Chronological reader (Shared.initial rt world) (fun _ : Caller => SynchPc.idle) := by
  constructor
  · exact Nat.zero_lt_one
  · rfl
  · exact List.Pairwise.nil
  · intro snapshot member
    cases member
  · intro caller todo snapshot pc
    cases pc

end NamespaceLister
