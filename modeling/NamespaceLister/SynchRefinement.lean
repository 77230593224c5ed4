/-
The interleaved `Synch` against the plain one.

`SynchronizedAccessCache.Synch` runs a synchronization in one piece over given
observations.  In the running program its reads are spread over time: the List of
the namespaces, and for each of them the reads of `AllowedSubjects`, while the stores
go on changing.  Every published value is nevertheless the result of the plain
`Synch` for observations whose reads were made at increasing moments of the run.
-/

import NamespaceLister.SynchOutcome
import NamespaceLister.SynchReads

namespace NamespaceLister

open Library

universe v

/-! ### The history of the stores -/

section History

variable {Caller : Type v}

def storesNext (cache : ResourceCache) : ReadingLabel Caller → ResourceCache
  | .change changed => changed
  | _ => cache

def storesAfter (cache : ResourceCache) (labels : List (ReadingLabel Caller)) : ResourceCache :=
  labels.foldl storesNext cache

/-- The stores that a step at the given time reads.  The clock starts at one, and
every step ticks. -/
def storesAt (cache : ResourceCache) (labels : List (ReadingLabel Caller)) (time : Nat) :
    ResourceCache :=
  storesAfter cache (labels.take (time - 1))

theorem storesAt_concat (cache : ResourceCache) (labels : List (ReadingLabel Caller))
    (label : ReadingLabel Caller) (time : Nat) (past : time ≤ labels.length + 1) :
    storesAt cache (labels ++ [label]) time = storesAt cache labels time := by
  unfold storesAt
  rw [List.take_append_of_le_length (by omega)]

theorem storesAt_now (cache : ResourceCache) (labels : List (ReadingLabel Caller)) :
    storesAt cache labels (labels.length + 1) = storesAfter cache labels := by
  unfold storesAt
  rw [Nat.add_sub_cancel, List.take_length]

end History

/-! ### The reads behind a snapshot -/

section Reads

variable {rt : Runtime}

def LocatedAt (locator : SubjectLocator) (history : Nat → ResourceCache)
    (pair : Namespace × List Subject) (times : List Nat) : Prop :=
  ∃ err, (locator (namespaceAttributes pair.1)).resume (fun time => crAuthRetriever (history time))
    times = some (.done (pair.2, err))

/-- The snapshot was read from the history before the given time, up to the
namespaces still to do; `times` are the reads already made for the first of them. -/
structure ReadsFrom (locator : SubjectLocator) (history : Nat → ResourceCache) (now : Nat)
    (todo : List Namespace) (snapshot : Snapshot rt) (moments : List (List Nat))
    (times : List Nat) : Prop where
  listed : (history snapshot.listedAt).namespaces = snapshot.pairs.map Prod.fst ++ todo
  rows : List.Forall₂ (LocatedAt locator history) snapshot.pairs moments
  increasing : (snapshot.listedAt :: (moments.flatten ++ times)).Pairwise
    (fun earlier later => earlier < later)
  past : ∀ time ∈ snapshot.listedAt :: (moments.flatten ++ times), time < now

def Underway (locator : SubjectLocator) (history : Nat → ResourceCache) (todo : List Namespace)
    (times : List Nat) : Option (AuthReading (List Subject × Option GoString)) → Prop
  | none => times = []
  | some rest =>
      ∃ ns later, todo = ns :: later ∧
        (locator (namespaceAttributes ns)).resume (fun time => crAuthRetriever (history time))
          times = some rest

variable {locator : SubjectLocator} {history longer : Nat → ResourceCache} {now : Nat}
variable {todo : List Namespace} {snapshot : Snapshot rt} {moments : List (List Nat)}
variable {times : List Nat}

private theorem rows_congr {pairs : List (Namespace × List Subject)}
    (rows : List.Forall₂ (LocatedAt locator history) pairs moments)
    (agree : ∀ time ∈ moments.flatten, longer time = history time) :
    List.Forall₂ (LocatedAt locator longer) pairs moments := by
  induction rows with
  | nil => exact .nil
  | cons located _ ih =>
      rw [List.flatten_cons] at agree
      obtain ⟨err, ends⟩ := located
      refine .cons ⟨err, ?_⟩ (ih (fun time member => agree time (List.mem_append_right _ member)))
      rw [Reading.resume_congr (fun time member => by
        rw [agree time (List.mem_append_left _ member)])]
      exact ends

theorem ReadsFrom.later {after : Nat}
    (reads : ReadsFrom locator history now todo snapshot moments times) (from_ : now ≤ after)
    (agree : ∀ time < now, longer time = history time) :
    ReadsFrom locator longer after todo snapshot moments times := by
  constructor
  · rw [agree _ (reads.past _ List.mem_cons_self)]
    exact reads.listed
  · exact rows_congr reads.rows (fun time member =>
      agree time (reads.past time (List.mem_cons_of_mem _ (List.mem_append_left _ member))))
  · exact reads.increasing
  · intro time member
    have before := reads.past time member
    omega

theorem Underway.later {program : Option (AuthReading (List Subject × Option GoString))}
    (underway : Underway locator history todo times program)
    (agree : ∀ time ∈ times, longer time = history time) :
    Underway locator longer todo times program := by
  cases program with
  | none => exact underway
  | some rest =>
      obtain ⟨ns, others, isTodo, resumed⟩ := underway
      refine ⟨ns, others, isTodo, ?_⟩
      rw [Reading.resume_congr (fun time member => by rw [agree time member])]
      exact resumed

theorem readsFrom_take (history : Nat → ResourceCache) (now : Nat) :
    ReadsFrom locator history (now + 1) (history now).namespaces (Snapshot.take rt now) [] [] := by
  constructor
  · rfl
  · exact .nil
  · exact List.pairwise_singleton _ _
  · intro time member
    rw [List.mem_singleton.mp member]
    exact Nat.lt_succ_self now

theorem ReadsFrom.read (reads : ReadsFrom locator history now todo snapshot moments times) :
    ReadsFrom locator history (now + 1) todo snapshot moments (times ++ [now]) := by
  constructor
  · exact reads.listed
  · exact reads.rows
  · rw [← List.append_assoc, ← List.cons_append]
    refine List.pairwise_append.mpr ⟨reads.increasing, List.pairwise_singleton _ _, ?_⟩
    intro earlier member later isNow
    rw [List.mem_singleton.mp isNow]
    exact reads.past earlier member
  · intro time member
    rw [← List.append_assoc, ← List.cons_append] at member
    rcases List.mem_append.mp member with old | fresh
    · exact Nat.lt_succ_of_lt (reads.past time old)
    · rw [List.mem_singleton.mp fresh]
      exact Nat.lt_succ_self now

theorem ReadsFrom.extend {ns : Namespace} {ss : List Subject} (at_ : Nat)
    (reads : ReadsFrom locator history now (ns :: todo) snapshot moments times)
    (ended : LocatedAt locator history (ns, ss) times) :
    ReadsFrom locator history now todo (snapshot.extend at_ ns ss) (moments ++ [times]) [] := by
  have flat : (moments ++ [times]).flatten ++ [] = moments.flatten ++ times := by
    rw [List.append_nil, List.flatten_append, List.flatten_singleton]
  constructor
  · change (history snapshot.listedAt).namespaces = (snapshot.pairs ++ [_]).map Prod.fst ++ todo
    rw [reads.listed, List.map_append, List.append_assoc]
    rfl
  · exact List.rel_append reads.rows (.cons ended .nil)
  · rw [flat]
    exact reads.increasing
  · rw [flat]
    exact reads.past

end Reads

/-! ### Runs -/

section Runs

variable {rt : Runtime} {Caller : Type v}

def HoldsReads (locator : SubjectLocator) (history : Nat → ResourceCache) (now : Nat)
    (pc : SynchPc rt) (locating : Option (AuthReading (List Subject × Option GoString))) : Prop :=
  ∀ todo snapshot, pc = .looping todo snapshot → ∃ moments times,
    ReadsFrom locator history now todo snapshot moments times ∧
      Underway locator history todo times locating

structure Traced (locator : SubjectLocator) (cache : ResourceCache)
    (labels : List (ReadingLabel Caller)) (state : ReadingState rt Caller) : Prop where
  clock : state.shared.now = labels.length + 1
  current : state.shared.world = storesAfter cache labels
  latest : state.shared.cache.accessCache.data =
    state.shared.publications.getLast?.map Snapshot.data
  published : ∀ snapshot ∈ state.shared.publications, ∃ moments,
    ReadsFrom locator (storesAt cache labels) state.shared.now [] snapshot moments []
  holds : ∀ caller, HoldsReads locator (storesAt cache labels) state.shared.now
    (state.calls caller) (state.locating caller)

variable {locator : SubjectLocator} {history longer : Nat → ResourceCache} {now : Nat}
variable {pc next : SynchPc rt} {locating : Option (AuthReading (List Subject × Option GoString))}

theorem HoldsReads.later {after : Nat} (holds : HoldsReads locator history now pc locating)
    (from_ : now ≤ after) (agree : ∀ time < now, longer time = history time) :
    HoldsReads locator longer after pc locating := by
  intro todo snapshot at_
  obtain ⟨moments, times, reads, underway⟩ := holds todo snapshot at_
  refine ⟨moments, times, reads.later from_ agree, underway.later ?_⟩
  intro time member
  exact agree time (reads.past time (List.mem_cons_of_mem _ (List.mem_append_right _ member)))

theorem holdsReads_synchStep {shared after : Shared rt ResourceCache} {action : SynchAction}
    (current : history shared.now = shared.world)
    (published : ∀ snapshot ∈ shared.publications, ∃ moments,
      ReadsFrom locator history shared.now [] snapshot moments [])
    (holds : HoldsReads locator history shared.now pc none)
    (whole : action ≠ .computeNamespace)
    (stepped : synchStep locator.atOnce shared pc action = some (after, next)) :
    (∀ snapshot ∈ after.publications, ∃ moments,
      ReadsFrom locator history (shared.now + 1) [] snapshot moments []) ∧
    HoldsReads locator history (shared.now + 1) next none := by
  have kept : ∀ snapshot ∈ shared.publications, ∃ moments,
      ReadsFrom locator history (shared.now + 1) [] snapshot moments [] := by
    intro snapshot member
    obtain ⟨moments, reads⟩ := published snapshot member
    exact ⟨moments, reads.later (Nat.le_succ _) (fun _ _ => rfl)⟩
  cases synchStep_effect locator.atOnce stepped with
  | refused busy => exact ⟨kept, fun _ _ => nofun⟩
  | acquired free => exact ⟨kept, fun _ _ => nofun⟩
  | listed =>
      refine ⟨kept, ?_⟩
      intro todo snapshot same
      cases same
      rw [← current]
      exact ⟨[], [], readsFrom_take history shared.now, rfl⟩
  | listFailed cause => exact ⟨kept, fun _ _ => nofun⟩
  | computed ns rest held => exact absurd rfl whole
  | expired ns rest held cause => exact ⟨kept, fun _ _ => nofun⟩
  | restocked held =>
      refine ⟨?_, fun _ _ => nofun⟩
      intro snapshot member
      rcases List.mem_append.mp member with old | fresh
      · exact kept snapshot old
      · rw [List.mem_singleton.mp fresh]
        obtain ⟨moments, times, reads, nothing⟩ := holds [] held rfl
        change times = [] at nothing
        subst nothing
        exact ⟨moments, reads.later (Nat.le_succ _) (fun _ _ => rfl)⟩
  | released result => exact ⟨kept, fun _ _ => nofun⟩

theorem synchStep_latest {shared after : Shared rt ResourceCache} {action : SynchAction}
    (latest : shared.cache.accessCache.data = shared.publications.getLast?.map Snapshot.data)
    (stepped : synchStep locator.atOnce shared pc action = some (after, next)) :
    after.cache.accessCache.data = after.publications.getLast?.map Snapshot.data := by
  cases synchStep_effect locator.atOnce stepped with
  | restocked held =>
      change some held.data = (shared.publications ++ [held]).getLast?.map Snapshot.data
      rw [List.getLast?_concat]
      rfl
  | _ => exact latest

variable {cache : ResourceCache} {labels : List (ReadingLabel Caller)}

theorem traced_initial :
    Traced locator cache ([] : List (ReadingLabel Caller))
      (ReadingState.initial rt Caller cache) := by
  constructor
  · rfl
  · rfl
  · rfl
  · intro snapshot member
    cases member
  · intro caller todo snapshot same
    cases same

/-! The history grows by one step. -/

section Growth

variable {state : ReadingState rt Caller} (traced : Traced locator cache labels state)

include traced

theorem Traced.storesAfter_concat (label : ReadingLabel Caller) :
    storesAfter cache (labels ++ [label]) = storesNext state.shared.world label := by
  unfold storesAfter
  rw [List.foldl_append, traced.current]
  rfl

theorem Traced.storesAt_agree (label : ReadingLabel Caller) :
    ∀ time < state.shared.now,
      storesAt cache (labels ++ [label]) time = storesAt cache labels time := by
  intro time past
  have clock := traced.clock
  exact storesAt_concat cache labels label time (by omega)

theorem Traced.storesAt_now_concat (label : ReadingLabel Caller) :
    storesAt cache (labels ++ [label]) state.shared.now = state.shared.world := by
  have clock := traced.clock
  rw [storesAt_concat cache labels label _ (by omega), clock, storesAt_now, traced.current]

theorem Traced.publishedNow (label : ReadingLabel Caller) :
    ∀ snapshot ∈ state.shared.publications, ∃ moments,
      ReadsFrom locator (storesAt cache (labels ++ [label])) state.shared.now [] snapshot
        moments [] := by
  intro snapshot member
  obtain ⟨moments, reads⟩ := traced.published snapshot member
  exact ⟨moments, reads.later (Nat.le_refl _) (traced.storesAt_agree label)⟩

theorem Traced.publishedLater (label : ReadingLabel Caller) :
    ∀ snapshot ∈ state.shared.publications, ∃ moments,
      ReadsFrom locator (storesAt cache (labels ++ [label])) (state.shared.now + 1) [] snapshot
        moments [] := by
  intro snapshot member
  obtain ⟨moments, reads⟩ := traced.publishedNow label snapshot member
  exact ⟨moments, reads.later (Nat.le_succ _) (fun _ _ => rfl)⟩

theorem Traced.holdsNow (label : ReadingLabel Caller) (caller : Caller) :
    HoldsReads locator (storesAt cache (labels ++ [label])) state.shared.now
      (state.calls caller) (state.locating caller) :=
  (traced.holds caller).later (Nat.le_refl _) (traced.storesAt_agree label)

theorem Traced.holdsLater (label : ReadingLabel Caller) (caller : Caller) :
    HoldsReads locator (storesAt cache (labels ++ [label])) (state.shared.now + 1)
      (state.calls caller) (state.locating caller) :=
  (traced.holds caller).later (Nat.le_succ _) (traced.storesAt_agree label)

end Growth

/-- One caller moves. -/
theorem holds_of_moved {calls callsAfter : Caller → SynchPc rt}
    {inside insideAfter : Caller → Option (AuthReading (List Subject × Option GoString))}
    (others : ∀ caller, HoldsReads locator history now (calls caller) (inside caller))
    (caller : Caller)
    (same : ∀ other, other ≠ caller →
      callsAfter other = calls other ∧ insideAfter other = inside other)
    (isPc : callsAfter caller = pc) (isInside : insideAfter caller = locating)
    (moved : HoldsReads locator history now pc locating) :
    ∀ other, HoldsReads locator history now (callsAfter other) (insideAfter other) := by
  intro other
  by_cases own : other = caller
  · rw [own, isPc, isInside]
    exact moved
  · rw [(same other own).1, (same other own).2]
    exact others other

/-! The three steps of a call that computes a namespace. -/

section Located

variable {ns : Namespace} {todo : List Namespace} {snapshot : Snapshot rt}

theorem HoldsReads.asked
    (holds : HoldsReads locator history now (.looping (ns :: todo) snapshot) none) :
    HoldsReads locator history now (.looping (ns :: todo) snapshot)
      (some (locator (namespaceAttributes ns))) := by
  intro current held same
  obtain ⟨moments, times, reads, nothing⟩ := holds current held same
  change times = [] at nothing
  subst nothing
  cases same
  exact ⟨moments, [], reads, ns, todo, rfl, rfl⟩

theorem HoldsReads.read {query : AuthQuery}
    {next : query.Answer → AuthReading (List Subject × Option GoString)}
    (holds : HoldsReads locator history now pc (some (.ask query next))) :
    HoldsReads locator history (now + 1) pc
      (some (next (crAuthRetriever (history now) query))) := by
  intro current held at_
  obtain ⟨moments, times, reads, ns, later, isTodo, resumed⟩ := holds current held at_
  exact ⟨moments, times ++ [now], reads.read, ns, later, isTodo,
    Reading.resume_concat resumed now⟩

theorem HoldsReads.located {result : List Subject × Option GoString} (at_ : Nat)
    (holds : HoldsReads locator history now (.looping (ns :: todo) snapshot)
      (some (.done result))) :
    HoldsReads locator history now (.looping todo (snapshot.extend at_ ns result.1)) none := by
  intro current held same
  cases same
  obtain ⟨moments, times, reads, first, later, isTodo, resumed⟩ := holds (ns :: todo) snapshot rfl
  cases isTodo
  exact ⟨moments ++ [times], [], reads.extend at_ ⟨result.2, resumed⟩, rfl⟩

end Located

variable {state untimed : ReadingState rt Caller} {label : ReadingLabel Caller}

/-- A step that publishes nothing. -/
theorem Traced.quiet (traced : Traced locator cache labels state)
    (sameNow : untimed.shared.now = state.shared.now)
    (stores : untimed.shared.world = storesNext state.shared.world label)
    (sameCache : untimed.shared.cache = state.shared.cache)
    (samePublications : untimed.shared.publications = state.shared.publications)
    (holds : ∀ caller, HoldsReads locator (storesAt cache (labels ++ [label]))
      (state.shared.now + 1) (untimed.calls caller) (untimed.locating caller)) :
    Traced locator cache (labels ++ [label]) untimed.tick := by
  have ticks : untimed.tick.shared.now = state.shared.now + 1 := congrArg (· + 1) sameNow
  constructor
  · rw [ticks, traced.clock, List.length_append, List.length_singleton]
  · exact stores.trans (traced.storesAfter_concat label).symm
  · change untimed.shared.cache.accessCache.data = untimed.shared.publications.getLast?.map _
    rw [sameCache, samePublications]
    exact traced.latest
  · change ∀ snapshot ∈ untimed.shared.publications, _
    rw [ticks, samePublications]
    exact traced.publishedLater label
  · rw [ticks]
    exact holds

variable [DecidableEq Caller] {reached : ReadingState rt Caller}

theorem traced_step (traced : Traced locator cache labels state)
    (stepped : (readingMachine locator).step state label = some reached) :
    Traced locator cache (labels ++ [label]) reached := by
  obtain ⟨untimed, effect, ticked⟩ := readingMachine_effect stepped
  subst ticked
  have now := traced.holdsNow label
  have others := traced.holdsLater label
  have current := traced.storesAt_now_concat label
  have stores := traced.storesAfter_concat label
  have published := traced.publishedNow label
  cases effect with
  | changed changedTo => exact traced.quiet rfl rfl rfl rfl others
  | called caller =>
      refine traced.quiet rfl rfl rfl rfl (holds_of_moved others caller ?_
        (Function.update_self _ _ _) rfl (fun _ _ => nofun))
      exact fun other different => ⟨Function.update_of_ne different _ _, rfl⟩
  | synched caller action shared pc whole outside moved =>
      have held := now caller
      rw [outside] at held
      obtain ⟨publishedThen, holdsThen⟩ :=
        holdsReads_synchStep current published held whole moved
      have ticks : shared.tick.now = state.shared.now + 1 := congrArg (· + 1) (synchStep_now moved)
      constructor
      · change shared.tick.now = _
        rw [ticks, traced.clock, List.length_append, List.length_singleton]
      · exact (synchStep_world moved).trans stores.symm
      · change shared.cache.accessCache.data = shared.publications.getLast?.map Snapshot.data
        exact synchStep_latest traced.latest moved
      · change ∀ snapshot ∈ shared.publications, ∃ moments,
          ReadsFrom _ _ shared.tick.now [] snapshot moments []
        rw [ticks]
        exact publishedThen
      · change ∀ other, HoldsReads _ _ shared.tick.now (Function.update state.calls caller pc other)
          (state.locating other)
        rw [ticks]
        refine holds_of_moved others caller ?_ (Function.update_self _ _ _) outside holdsThen
        exact fun other different => ⟨Function.update_of_ne different _ _, rfl⟩
  | asked caller ns todo snapshot at_ outside =>
      have held := others caller
      rw [at_, outside] at held
      refine traced.quiet rfl rfl rfl rfl (holds_of_moved others caller ?_ at_
        (Function.update_self _ _ _) held.asked)
      exact fun other different => ⟨rfl, Function.update_of_ne different _ _⟩
  | read caller query after inside =>
      have held := now caller
      rw [inside] at held
      have readNow := held.read
      rw [current] at readNow
      refine traced.quiet rfl rfl rfl rfl (holds_of_moved others caller ?_ rfl
        (Function.update_self _ _ _) readNow)
      exact fun other different => ⟨rfl, Function.update_of_ne different _ _⟩
  | located caller ns todo snapshot result at_ inside =>
      have held := others caller
      rw [at_, inside] at held
      refine traced.quiet rfl rfl rfl rfl (holds_of_moved others caller ?_
        (Function.update_self _ _ _) (Function.update_self _ _ _) (held.located state.shared.now))
      exact fun other different =>
        ⟨Function.update_of_ne different _ _, Function.update_of_ne different _ _⟩

theorem traced_run
    (ran : (readingMachine locator).run (ReadingState.initial rt Caller cache) labels =
      some state) : Traced locator cache labels state :=
  (readingMachine locator).history_run
    (fun _ _ _ _ traced _always stepped => traced_step traced stepped) traced_initial
    ((readingMachine locator).along_of_forall (fun _ _ _ => trivial) _) ran

end Runs

/-! ### The plain `Synch` of what was read -/

section Observed

variable {rt : Runtime} {locator : SubjectLocator} {history : Nat → ResourceCache}

/-- What a call in time observes when it lists the namespaces at one moment and reads
for each of them at moments of its own. -/
structure ObservedAt (locator : SubjectLocator) (history : Nat → ResourceCache) (listedAt : Nat)
    (moments : List (List Nat)) (obs : SynchObservations) : Prop where
  listed : obs.listed = .ok (history listedAt).namespaces
  inTime : ∀ position, obs.ctxErr position = none
  counted : moments.length = (history listedAt).namespaces.length
  answered : ∀ (position : Nat) ns times,
    (history listedAt).namespaces[position]? = some ns → moments[position]? = some times →
    (locator (namespaceAttributes ns)).resume (fun time => crAuthRetriever (history time)) times =
      some (.done (obs.allowedSubjects position (namespaceAttributes ns)))

theorem ObservedAt.atOnce {listedAt : Nat} {moments : List (List Nat)} {obs : SynchObservations}
    (observed : ObservedAt locator history listedAt moments obs) {position : Nat} {ns : Namespace}
    {times : List Nat} (isNs : (history listedAt).namespaces[position]? = some ns)
    (isTimes : moments[position]? = some times) {cache : ResourceCache}
    (still : ∀ time ∈ times, history time = cache) :
    obs.allowedSubjects position (namespaceAttributes ns) =
      locator.atOnce.allowedSubjects cache (namespaceAttributes ns) :=
  Reading.answer_of_resume (fun time member => by rw [still time member])
    (observed.answered position ns times isNs isTimes)

def observationsAt (locator : SubjectLocator) (history : Nat → ResourceCache) (listedAt : Nat)
    (moments : List (List Nat)) : SynchObservations :=
  { listed := .ok (history listedAt).namespaces
    ctxErr := fun _ => none
    allowedSubjects := fun position attributes =>
      match (locator attributes).resume (fun time => crAuthRetriever (history time))
          (moments.getD position []) with
      | some (.done result) => result
      | _ => ([], none) }

private theorem observationsAt_located {listedAt position : Nat} {moments : List (List Nat)}
    {times : List Nat} {pair : Namespace × List Subject} (isTimes : moments[position]? = some times)
    (located : LocatedAt locator history pair times) :
    (locator (namespaceAttributes pair.1)).resume (fun time => crAuthRetriever (history time))
        times =
      some (.done ((observationsAt locator history listedAt moments).allowedSubjects position
        (namespaceAttributes pair.1))) ∧
    ((observationsAt locator history listedAt moments).allowedSubjects position
      (namespaceAttributes pair.1)).1 = pair.2 := by
  obtain ⟨err, ends⟩ := located
  unfold observationsAt
  simp only [List.getD_eq_getElem?_getD, isTimes, Option.getD_some, ends, and_self]

private theorem observedPairs_rows (listedAt : Nat) (moments : List (List Nat))
    (position : Nat) (pairs : List (Namespace × List Subject)) (remaining : List (List Nat))
    (isRemaining : moments.drop position = remaining)
    (rows : List.Forall₂ (LocatedAt locator history) pairs remaining) :
    observedPairs (observationsAt locator history listedAt moments) position
      (pairs.map Prod.fst) = pairs := by
  induction rows generalizing position with
  | nil => rfl
  | @cons pair times pairs rest located _ ih =>
      have isTimes : moments[position]? = some times := by
        rw [← List.head?_drop, isRemaining]
        rfl
      have isRest : moments.drop (position + 1) = rest := by
        rw [← List.tail_drop, isRemaining]
        rfl
      rw [List.map_cons, observedPairs, ih (position + 1) isRest,
        (observationsAt_located isTimes located).2]

/-- With a free flag and in time, `Synch` publishes what it observed. -/
theorem Synch_in_time (rt : Runtime) (s : SynchronizedAccessCache)
    (free : s.synchronizing = false) (obs : SynchObservations) (nn : List Namespace)
    (listed : obs.listed = .ok nn)
    (inTime : ∀ position < nn.length, obs.ctxErr position = none) :
    s.Synch rt obs =
      ({ s with
          accessCache := s.accessCache.restock (accessOf rt (observedPairs obs 0 nn)) }, none) := by
  have exit := Synch_exit rt s obs
  generalize s.Synch rt obs = result at exit
  cases exit with
  | running busy =>
      rw [free] at busy
      cases busy
  | listFailed cause _ failed =>
      rw [listed] at failed
      cases failed
  | expired other position cause _ sameList inside seen =>
      rw [listed] at sameList
      cases sameList
      rw [inTime position inside] at seen
      cases seen
  | published other _ sameList _ =>
      rw [listed] at sameList
      cases sameList
      rw [← free]

variable {now : Nat} {snapshot : Snapshot rt} {moments : List (List Nat)}

theorem ReadsFrom.observed (reads : ReadsFrom locator history now [] snapshot moments []) :
    ObservedAt locator history snapshot.listedAt moments
      (observationsAt locator history snapshot.listedAt moments) := by
  have names := reads.listed
  rw [List.append_nil] at names
  have rows := List.forall₂_iff_get.mp reads.rows
  constructor
  · rfl
  · intro position
    rfl
  · rw [names, List.length_map, rows.1]
  · intro position ns times isNs isTimes
    rw [names, List.getElem?_map] at isNs
    obtain ⟨pair, isPair, isName⟩ := Option.map_eq_some_iff.mp isNs
    obtain ⟨inPairs, atPosition⟩ := List.getElem?_eq_some_iff.mp isPair
    obtain ⟨inMoments, timesAt⟩ := List.getElem?_eq_some_iff.mp isTimes
    have located := rows.2 position inPairs inMoments
    rw [List.get_eq_getElem, List.get_eq_getElem, atPosition, timesAt] at located
    subst isName
    exact (observationsAt_located isTimes located).1

theorem ReadsFrom.synch (reads : ReadsFrom locator history now [] snapshot moments []) :
    SynchronizedAccessCache.new.Synch rt
        (observationsAt locator history snapshot.listedAt moments) =
      ({ SynchronizedAccessCache.new with
          accessCache :=
            SynchronizedAccessCache.new.accessCache.restock snapshot.data }, none) := by
  have names := reads.listed
  rw [List.append_nil] at names
  have pairs := observedPairs_rows snapshot.listedAt moments 0 snapshot.pairs moments
    List.drop_zero reads.rows
  rw [← names] at pairs
  rw [Synch_in_time rt SynchronizedAccessCache.new rfl _ _ rfl (fun _ _ => rfl), pairs,
    snapshot.computed]

end Observed

/-- In every interleaving of any number of calls with changes of the stores, each
published value is what the plain `Synch` publishes for observations made at
increasing moments of the run: one List of the namespaces, and after it, for each of
them, the reads of `AllowedSubjects`.  The cache holds the last published value. -/
theorem published_is_Synch_of_reads {rt : Runtime} {Caller : Type v} [DecidableEq Caller]
    (locator : SubjectLocator) (cache : ResourceCache) (labels : List (ReadingLabel Caller))
    (state : ReadingState rt Caller)
    (ran : (readingMachine locator).run (ReadingState.initial rt Caller cache) labels =
      some state) :
    state.shared.cache.accessCache.data =
        state.shared.publications.getLast?.map Snapshot.data ∧
    ∀ snapshot ∈ state.shared.publications, ∃ moments obs,
      (snapshot.listedAt :: moments.flatten).Pairwise (fun earlier later => earlier < later) ∧
      (∀ time ∈ snapshot.listedAt :: moments.flatten, time < state.shared.now) ∧
      ObservedAt locator (storesAt cache labels) snapshot.listedAt moments obs ∧
      (∀ (position : Nat) ns times still,
        (storesAt cache labels snapshot.listedAt).namespaces[position]? = some ns →
        moments[position]? = some times →
        (∀ time ∈ times, storesAt cache labels time = still) →
        obs.allowedSubjects position (namespaceAttributes ns) =
          locator.atOnce.allowedSubjects still (namespaceAttributes ns)) ∧
      SynchronizedAccessCache.new.Synch rt obs =
        ({ SynchronizedAccessCache.new with
            accessCache :=
              SynchronizedAccessCache.new.accessCache.restock snapshot.data }, none) := by
  have traced := traced_run ran
  refine ⟨traced.latest, ?_⟩
  intro snapshot member
  obtain ⟨moments, reads⟩ := traced.published snapshot member
  have increasing := reads.increasing
  have past := reads.past
  rw [List.append_nil] at increasing past
  refine ⟨moments, _, increasing, past, reads.observed, ?_, reads.synch⟩
  intro position ns times still isNs isTimes unchanged
  exact reads.observed.atOnce isNs isTimes unchanged

private def grantingRole : ClusterRole :=
  { metadata := ObjectMeta.bare [] "reader"
    rules :=
      [{ verbs := [GoString.ofLiteral "get"]
         apiGroups := [GoString.ofLiteral ""]
         resources := [GoString.ofLiteral "namespaces"]
         resourceNames := [] }] }

private def bindingOfAlice : ClusterRoleBinding :=
  { metadata := ObjectMeta.bare [] "readers"
    subjects := [userSubject "alice"]
    roleRef := { apiGroup := rbacGroupName, kind := "ClusterRole", name := "reader" } }

private def boundOnly : ResourceCache :=
  { ResourceCache.empty with
    namespaces := [bareNamespace "team-a"]
    clusterRoleBindings := [bindingOfAlice]
    namespacesNodup := by decide }

private def grantedOnly : ResourceCache :=
  { ResourceCache.empty with
    namespaces := [bareNamespace "team-a"]
    clusterRoles := [grantingRole]
    namespacesNodup := by decide
    clusterRolesNodup := by decide }

private def describeNothing : List LookupFailure → GoString := fun _ => []

/-- The stores change after the bindings were listed and before the role is read. -/
private def changedBetween : List (ReadingLabel Unit) :=
  [ .call (), .synch () .compareAndSwap, .synch () .list, .locate (), .read (),
    .change grantedOnly, .read (), .read (), .located (), .synch () .restock ]

theorem published_is_Synch_of_reads_changed :
    ∃ state : ReadingState Runtime.reference Unit,
      (readingMachine (walkingLocator describeNothing)).run
        (ReadingState.initial Runtime.reference Unit boundOnly) changedBetween = some state ∧
      ∃ snapshot ∈ state.shared.publications,
        -- no store grants what was read from the two
        (snapshot.data.lookup (userSubject "alice")).isSome = true ∧
        (∀ cache ∈ [boundOnly, grantedOnly], userSubject "alice" ∉
          ((walkingLocator describeNothing).atOnce.allowedSubjects cache
            (namespaceAttributes (bareNamespace "team-a"))).1) ∧
        ∃ obs, SynchronizedAccessCache.new.Synch Runtime.reference obs =
          ({ SynchronizedAccessCache.new with
              accessCache :=
                SynchronizedAccessCache.new.accessCache.restock snapshot.data }, none) := by
  refine ⟨_, rfl, _, List.mem_singleton_self _, rfl, ?_, ?_⟩
  · rw [walkingLocator_atOnce]
    decide
  · obtain ⟨_, obs, _, _, _, _, synched⟩ :=
      (published_is_Synch_of_reads (walkingLocator describeNothing) boundOnly changedBetween _
        rfl).2 _ (List.mem_singleton_self _)
    exact ⟨obs, synched⟩

end NamespaceLister
