/-
Any number of callers of `Synch` beside any number of readers of the cache.

A call of the exported `List` loads the pointer once and then looks its keys up
one by one in what it loaded.  Every interleaving of the atomic steps of callers
and readers is a run of `synchMachine`.
-/

import NamespaceLister.SynchSteps

namespace NamespaceLister

open Library

universe u v w

/-! ### Readers -/

/-- One finished call of `List`.  The version is the number of values published
when the pointer was loaded; a call without keys loads nothing. -/
structure Answer where
  keys : List Subject
  startedAt : Nat
  finishedAt : Nat
  version : Option Nat
  order : RangeOrder Namespace
  result : Except Panic (Option (List Namespace))

/-- Where a reader stands.  The two paths of a call that has keys differ after
the load. -/
inductive ListPc where
  | idle
  | called (startedAt : Nat) (keys : List Subject)
  | single (startedAt version : Nat) (pointer : Option AccessData) (key : Subject)
  | several (startedAt version : Nat) (pointer : Option AccessData) (keys todo : List Subject)
      (known : AList (fun _ : GoString => Namespace))

inductive ListAction where
  | load
  | lookup
  | finish (order : RangeOrder Namespace)

section Readers

variable {rt : Runtime} {W : Type u}

def listStep (shared : Shared rt W) : ListPc → ListAction → Option (ListPc × Option Answer)
  | .called startedAt [], .finish order =>
      some (.idle, some
        { keys := []
          startedAt := startedAt
          finishedAt := shared.now
          version := none
          order := order
          result := .ok none })
  | .called startedAt [key], .load =>
      some (.single startedAt shared.publications.length shared.cache.accessCache.data key, none)
  | .called startedAt (first :: second :: rest), .load =>
      some (.several startedAt shared.publications.length shared.cache.accessCache.data
        (first :: second :: rest) (first :: second :: rest) ∅, none)
  | .single startedAt version pointer key, .lookup =>
      some (.idle, some
        { keys := [key]
          startedAt := startedAt
          finishedAt := shared.now
          version := some version
          order := RangeOrder.asKept Namespace
          result :=
            match pointer with
            | none => .ok none
            | some stored => .ok (stored.lookup key) })
  | .several startedAt version none keys (_ :: _) _, .lookup =>
      -- the pointer is dereferenced without a check
      some (.idle, some
        { keys := keys
          startedAt := startedAt
          finishedAt := shared.now
          version := some version
          order := RangeOrder.asKept Namespace
          result := .error .nilDereference })
  | .several startedAt version (some stored) keys (key :: todo) known, .lookup =>
      some (.several startedAt version (some stored) keys todo
        (AtomicListRestockCache.collect Namespace.name stored known key), none)
  | .several startedAt version _ keys [] known, .finish order =>
      some (.idle, some
        { keys := keys
          startedAt := startedAt
          finishedAt := shared.now
          version := some version
          order := order
          result := .ok (some (order.arrange (mapValues known))) })
  | _, _ => none

def pointerAt (publications : List (Snapshot rt)) (version : Nat) : Option AccessData :=
  (publications.take version).getLast?.map Snapshot.data

/-- The answer is the one `List` gives on a single published value. -/
def Answer.fromOne (publications : List (Snapshot rt)) (answer : Answer) : Prop :=
  match answer.version with
  | none => answer.keys = [] ∧ answer.result = .ok none
  | some version =>
      version ≤ publications.length ∧
        answer.result =
          AtomicListRestockCache.listKeys answer.order
            (⟨pointerAt publications version⟩ : AccessCache) answer.keys

/-- What a reader holds was loaded from one published value, and its lookups so
far are those of `listAll` on that value. -/
def ListPc.consistent (publications : List (Snapshot rt)) (now : Nat) (answers : List Answer) :
    ListPc → Prop
  | .idle => True
  | .called startedAt _ => startedAt < now
  | .single startedAt version pointer _ =>
      startedAt < now ∧ version ≤ publications.length ∧
        pointer = pointerAt publications version ∧
        ∀ answer ∈ answers, answer.finishedAt < startedAt →
          ∀ earlier ∈ answer.version, earlier ≤ version
  | .several startedAt version pointer keys todo known =>
      startedAt < now ∧ version ≤ publications.length ∧
        pointer = pointerAt publications version ∧
        (∀ answer ∈ answers, answer.finishedAt < startedAt →
          ∀ earlier ∈ answer.version, earlier ≤ version) ∧
        (∃ first second rest, keys = first :: second :: rest) ∧
        (pointer = none → todo = keys) ∧
        ∀ stored, pointer = some stored → ∃ done, keys = done ++ todo ∧
          known = done.foldl (AtomicListRestockCache.collect Namespace.name stored) ∅

theorem pointerAt_append (publications more : List (Snapshot rt)) (version : Nat)
    (past : version ≤ publications.length) :
    pointerAt (publications ++ more) version = pointerAt publications version := by
  unfold pointerAt
  rw [List.take_append_of_le_length past]

theorem pointerAt_length (publications : List (Snapshot rt)) :
    pointerAt publications publications.length = publications.getLast?.map Snapshot.data := by
  unfold pointerAt
  rw [List.take_length]

theorem Answer.fromOne_append {publications : List (Snapshot rt)} {answer : Answer}
    (from_ : answer.fromOne publications) (more : List (Snapshot rt)) :
    answer.fromOne (publications ++ more) := by
  unfold Answer.fromOne at from_ ⊢
  cases loaded : answer.version with
  | none =>
      rw [loaded] at from_
      exact from_
  | some version =>
      rw [loaded] at from_
      obtain ⟨past, same⟩ := from_
      refine ⟨?_, ?_⟩
      · rw [List.length_append]
        omega
      · rw [pointerAt_append publications more version past]
        exact same

theorem ListPc.consistent_append {publications : List (Snapshot rt)} {now : Nat}
    {answers : List Answer} {pc : ListPc} (holds : pc.consistent publications now answers)
    (more : List (Snapshot rt)) : pc.consistent (publications ++ more) (now + 1) answers := by
  cases pc with
  | idle => trivial
  | called startedAt keys => exact Nat.lt_succ_of_lt holds
  | single startedAt version pointer key =>
      obtain ⟨started, past, loaded, newer⟩ := holds
      refine ⟨Nat.lt_succ_of_lt started, ?_, ?_, newer⟩
      · rw [List.length_append]
        omega
      · rw [pointerAt_append publications more version past]
        exact loaded
  | several startedAt version pointer keys todo known =>
      obtain ⟨started, past, loaded, newer, shape, untouched, progress⟩ := holds
      refine ⟨Nat.lt_succ_of_lt started, ?_, ?_, newer, shape, untouched, progress⟩
      · rw [List.length_append]
        omega
      · rw [pointerAt_append publications more version past]
        exact loaded

theorem ListPc.consistent_answer {publications : List (Snapshot rt)} {now : Nat}
    {answers : List Answer} {pc : ListPc} (holds : pc.consistent publications now answers)
    (fresh : List Answer) (givenNow : ∀ answer ∈ fresh, now ≤ answer.finishedAt) :
    pc.consistent publications now (answers ++ fresh) := by
  have extended : ∀ startedAt version, startedAt < now →
      (∀ answer ∈ answers, answer.finishedAt < startedAt →
        ∀ earlier ∈ answer.version, earlier ≤ version) →
      ∀ answer ∈ answers ++ fresh, answer.finishedAt < startedAt →
        ∀ earlier ∈ answer.version, earlier ≤ version := by
    intro startedAt version started newer answer member finished
    rcases List.mem_append.mp member with old | new
    · exact newer answer old finished
    · have late := givenNow answer new
      omega
  cases pc with
  | idle => trivial
  | called startedAt keys => exact holds
  | single startedAt version pointer key =>
      obtain ⟨started, past, loaded, newer⟩ := holds
      exact ⟨started, past, loaded, extended startedAt version started newer⟩
  | several startedAt version pointer keys todo known =>
      obtain ⟨started, past, loaded, newer, rest⟩ := holds
      exact ⟨started, past, loaded, extended startedAt version started newer, rest⟩

theorem ListPc.consistent_tick {publications : List (Snapshot rt)} {now : Nat}
    {answers : List Answer} {pc : ListPc} (holds : pc.consistent publications now answers)
    (fresh : List Answer) (givenNow : ∀ answer ∈ fresh, now ≤ answer.finishedAt) :
    pc.consistent publications (now + 1) (answers ++ fresh) := by
  have ticked := ListPc.consistent_append (ListPc.consistent_answer holds fresh givenNow) []
  rw [List.append_nil] at ticked
  exact ticked

structure AnsweredNow (publications : List (Snapshot rt)) (now : Nat) (answers : List Answer)
    (answer : Answer) : Prop where
  fromOne : answer.fromOne publications
  started : answer.startedAt < now
  finished : answer.finishedAt = now
  newer : ∀ earlier ∈ answers, earlier.finishedAt < answer.startedAt →
    ∀ old ∈ earlier.version, ∀ new ∈ answer.version, old ≤ new

private theorem newer_of_version {answers : List Answer} {startedAt version : Nat}
    (newer : ∀ answer ∈ answers, answer.finishedAt < startedAt →
      ∀ earlier ∈ answer.version, earlier ≤ version) :
    ∀ earlier ∈ answers, earlier.finishedAt < startedAt →
      ∀ old ∈ earlier.version, ∀ new ∈ some version, old ≤ new := by
  intro earlier member finished old atOld new atNew
  cases atNew
  exact newer earlier member finished old atOld

theorem listStep_consistent {shared : Shared rt W} {answers : List Answer} {pc next : ListPc}
    {action : ListAction} {answer : Option Answer}
    (latest : shared.cache.accessCache.data = shared.publications.getLast?.map Snapshot.data)
    (known : ∀ earlier ∈ answers, earlier.fromOne shared.publications)
    (holds : pc.consistent shared.publications shared.now answers)
    (stepped : listStep shared pc action = some (next, answer)) :
    next.consistent shared.publications shared.now answers ∧
      ∀ given ∈ answer, AnsweredNow shared.publications shared.now answers given := by
  -- every version answered so far is at most the one that is loaded now
  have loadedNewest : ∀ startedAt, ∀ earlier ∈ answers, earlier.finishedAt < startedAt →
      ∀ old ∈ earlier.version, old ≤ shared.publications.length := by
    intro startedAt earlier member _finished old atOld
    have from_ := known earlier member
    unfold Answer.fromOne at from_
    rw [Option.mem_def.mp atOld] at from_
    exact from_.1
  have loadedData : shared.cache.accessCache.data =
      pointerAt shared.publications shared.publications.length := by
    rw [latest, pointerAt_length]
  unfold listStep at stepped
  split at stepped
  · -- no key
    cases stepped
    refine ⟨trivial, ?_⟩
    intro given atGiven
    cases atGiven
    exact ⟨⟨rfl, rfl⟩, holds, rfl, fun _ _ _ _ _ new atNew => by cases atNew⟩
  · -- the load of a single-key call
    cases stepped
    exact ⟨⟨holds, Nat.le_refl _, loadedData, loadedNewest _⟩, fun _ atGiven => by cases atGiven⟩
  · -- the load of a call with several keys
    cases stepped
    refine ⟨⟨holds, Nat.le_refl _, loadedData, loadedNewest _, ⟨_, _, _, rfl⟩, fun _ => rfl, ?_⟩,
      fun _ atGiven => by cases atGiven⟩
    intro stored _loaded
    exact ⟨[], rfl, rfl⟩
  · -- the lookup of a single-key call
    cases stepped
    obtain ⟨started, past, loaded, newer⟩ := holds
    refine ⟨trivial, ?_⟩
    intro given atGiven
    cases atGiven
    refine ⟨⟨past, ?_⟩, started, rfl, newer_of_version newer⟩
    rw [← loaded]
    rename_i pointer _
    cases pointer with
    | none => rfl
    | some stored => rfl
  · -- a lookup through a nil pointer
    cases stepped
    obtain ⟨started, past, loaded, newer, shape, _, _⟩ := holds
    refine ⟨trivial, ?_⟩
    intro given atGiven
    cases atGiven
    refine ⟨⟨past, ?_⟩, started, rfl, newer_of_version newer⟩
    obtain ⟨first, second, rest, keysAre⟩ := shape
    rw [← loaded]
    subst keysAre
    rfl
  · -- one lookup of a call with several keys
    rename_i startedAt version stored keys key todo collected
    cases stepped
    obtain ⟨started, past, loaded, newer, shape, _, progress⟩ := holds
    refine ⟨⟨started, past, loaded, newer, shape, nofun, ?_⟩, fun _ atGiven => by cases atGiven⟩
    intro other sameStored
    cases sameStored
    obtain ⟨done, split, collectedIs⟩ := progress stored rfl
    refine ⟨done ++ [key], ?_, ?_⟩
    · rw [split, List.append_assoc]
      rfl
    · rw [List.foldl_append, collectedIs]
      rfl
  · -- the collapse of the collected map
    cases stepped
    obtain ⟨started, past, loaded, newer, shape, untouched, progress⟩ := holds
    rename_i startedAt version pointer keys collected order
    refine ⟨trivial, ?_⟩
    intro given atGiven
    cases atGiven
    refine ⟨⟨past, ?_⟩, started, rfl, newer_of_version newer⟩
    obtain ⟨first, second, rest, keysAre⟩ := shape
    cases pointer with
    | none =>
        have empty := untouched rfl
        rw [keysAre] at empty
        cases empty
    | some stored =>
        obtain ⟨done, split, collectedIs⟩ := progress stored rfl
        rw [List.append_nil] at split
        subst split
        rw [← loaded, collectedIs, keysAre]
        rfl
  · cases stepped

end Readers

/-! ### The system -/

structure SynchState (rt : Runtime) (W : Type u) (Caller : Type v) (Reader : Type w) where
  shared : Shared rt W
  callers : Caller → SynchPc rt
  readers : Reader → ListPc
  answers : List Answer

inductive SynchLabel (W : Type u) (Caller : Type v) (Reader : Type w) where
  | call (caller : Caller)
  | caller (caller : Caller) (action : SynchAction)
  | invoke (reader : Reader) (keys : List Subject)
  | reader (reader : Reader) (action : ListAction)
  | change (world : W)

section System

variable {rt : Runtime} {W : Type u} {Caller : Type v} {Reader : Type w}
variable [DecidableEq Caller] [DecidableEq Reader]

def SynchState.initial (rt : Runtime) (world : W) : SynchState rt W Caller Reader :=
  { shared := Shared.initial rt world
    callers := fun _ => .idle
    readers := fun _ => .idle
    answers := [] }

def SynchPc.canCall {rt : Runtime} : SynchPc rt → Bool
  | .idle => true
  | .returned _ => true
  | _ => false

def synchMachineStep (resources : ResourceReader W) (state : SynchState rt W Caller Reader) :
    SynchLabel W Caller Reader → Option (SynchState rt W Caller Reader)
  | .call caller =>
      if (state.callers caller).canCall then
        some { state with
          shared := state.shared.tick
          callers := Function.update state.callers caller .start }
      else none
  | .caller caller action =>
      match synchStep resources state.shared (state.callers caller) action with
      | none => none
      | some (shared, next) =>
          some { state with
            shared := shared.tick
            callers := Function.update state.callers caller next }
  | .invoke reader keys =>
      match state.readers reader with
      | .idle =>
          some { state with
            shared := state.shared.tick
            readers := Function.update state.readers reader (.called state.shared.now keys) }
      | _ => none
  | .reader reader action =>
      match listStep state.shared (state.readers reader) action with
      | none => none
      | some (next, answer) =>
          some { state with
            shared := state.shared.tick
            readers := Function.update state.readers reader next
            answers := state.answers ++ answer.toList }
  | .change world => some { state with shared := (state.shared.change world).tick }

def synchMachine (resources : ResourceReader W) :
    Machine (SynchState rt W Caller Reader) (SynchLabel W Caller Reader) :=
  { step := synchMachineStep resources }

inductive SystemEffect (resources : ResourceReader W) (state : SynchState rt W Caller Reader) :
    SynchLabel W Caller Reader → SynchState rt W Caller Reader → Prop where
  | called (caller : Caller) (free : (state.callers caller).canCall = true) :
      SystemEffect resources state (.call caller)
        { state with
          shared := state.shared.tick
          callers := Function.update state.callers caller .start }
  | moved (caller : Caller) (action : SynchAction) (shared : Shared rt W) (pc : SynchPc rt)
      (synched : synchStep resources state.shared (state.callers caller) action =
        some (shared, pc)) :
      SystemEffect resources state (.caller caller action)
        { state with
          shared := shared.tick
          callers := Function.update state.callers caller pc }
  | invoked (reader : Reader) (keys : List Subject) (idle : state.readers reader = .idle) :
      SystemEffect resources state (.invoke reader keys)
        { state with
          shared := state.shared.tick
          readers := Function.update state.readers reader (.called state.shared.now keys) }
  | listed (reader : Reader) (action : ListAction) (pc : ListPc) (answer : Option Answer)
      (moved : listStep state.shared (state.readers reader) action = some (pc, answer)) :
      SystemEffect resources state (.reader reader action)
        { state with
          shared := state.shared.tick
          readers := Function.update state.readers reader pc
          answers := state.answers ++ answer.toList }
  | changed (world : W) :
      SystemEffect resources state (.change world)
        { state with shared := (state.shared.change world).tick }

theorem synchMachineStep_effect (resources : ResourceReader W)
    {state next : SynchState rt W Caller Reader} {label : SynchLabel W Caller Reader}
    (stepped : synchMachineStep resources state label = some next) :
    SystemEffect resources state label next := by
  cases label with
  | call caller =>
      simp only [synchMachineStep] at stepped
      split at stepped
      · rename_i free
        cases stepped
        exact .called caller free
      · cases stepped
  | caller caller action =>
      simp only [synchMachineStep] at stepped
      split at stepped
      · cases stepped
      · rename_i shared pc synched
        cases stepped
        exact .moved caller action shared pc synched
  | invoke reader keys =>
      simp only [synchMachineStep] at stepped
      split at stepped
      · rename_i idle
        cases stepped
        exact .invoked reader keys idle
      · cases stepped
  | reader reader action =>
      simp only [synchMachineStep] at stepped
      split at stepped
      · cases stepped
      · rename_i pc answer moved
        cases stepped
        exact .listed reader action pc answer moved
  | change world =>
      cases stepped
      exact .changed world

/-! ### The invariant of every run -/

structure SynchInvariant (resources : ResourceReader W) (state : SynchState rt W Caller Reader) :
    Prop where
  exclusive : Exclusive state.shared state.callers
  chronological : Chronological resources state.shared state.callers
  reading : ∀ reader,
    (state.readers reader).consistent state.shared.publications state.shared.now state.answers
  answered : ∀ answer ∈ state.answers,
    answer.fromOne state.shared.publications ∧ answer.startedAt < state.shared.now ∧
      answer.finishedAt < state.shared.now
  sequential : ∀ earlier ∈ state.answers, ∀ later ∈ state.answers,
    earlier.finishedAt < later.startedAt →
      ∀ old ∈ earlier.version, ∀ new ∈ later.version, old ≤ new

omit [DecidableEq Caller] [DecidableEq Reader] in
private theorem SynchInvariant.other {resources : ResourceReader W}
    {state : SynchState rt W Caller Reader} (holds : SynchInvariant resources state)
    {shared : Shared rt W} {callers : Caller → SynchPc rt}
    (exclusive : Exclusive shared callers) (chronological : Chronological resources shared callers)
    (clock : shared.now = state.shared.now + 1)
    (grown : ∃ more, shared.publications = state.shared.publications ++ more) :
    SynchInvariant resources { state with shared := shared, callers := callers } := by
  obtain ⟨more, publications⟩ := grown
  constructor
  · exact exclusive
  · exact chronological
  · intro reader
    simp only [clock, publications]
    exact ListPc.consistent_append (holds.reading reader) more
  · intro answer member
    obtain ⟨from_, started, finished⟩ := holds.answered answer member
    simp only [clock, publications]
    exact ⟨Answer.fromOne_append from_ more, Nat.lt_succ_of_lt started, Nat.lt_succ_of_lt finished⟩
  · exact holds.sequential

omit [DecidableEq Caller] in
private theorem SynchInvariant.readerStep {resources : ResourceReader W}
    {state : SynchState rt W Caller Reader} (holds : SynchInvariant resources state)
    (reader : Reader) (next : ListPc) (fresh : List Answer)
    (consistent : next.consistent state.shared.publications (state.shared.now + 1)
      (state.answers ++ fresh))
    (given : ∀ answer ∈ fresh,
      AnsweredNow state.shared.publications state.shared.now state.answers answer) :
    SynchInvariant resources
      { state with
        shared := state.shared.tick
        readers := Function.update state.readers reader next
        answers := state.answers ++ fresh } := by
  have late : ∀ answer ∈ fresh, state.shared.now ≤ answer.finishedAt := by
    intro answer member
    rw [(given answer member).finished]
  constructor
  · exact holds.exclusive.of_same_inside rfl (fun _ => rfl)
  · exact holds.chronological.frame rfl rfl rfl rfl (Nat.le_succ _) (fun _ _ _ pc => pc)
  · intro other
    by_cases same : other = reader
    · subst other
      simp only [Function.update_self]
      exact consistent
    · simp only [Function.update_of_ne same]
      exact ListPc.consistent_tick (holds.reading other) fresh late
  · intro answer member
    rcases List.mem_append.mp member with old | new
    · obtain ⟨from_, started, finished⟩ := holds.answered answer old
      exact ⟨from_, Nat.lt_succ_of_lt started, Nat.lt_succ_of_lt finished⟩
    · obtain ⟨from_, started, finished, _⟩ := given answer new
      refine ⟨from_, Nat.lt_succ_of_lt started, ?_⟩
      rw [finished]
      exact Nat.lt_succ_self _
  · intro earlier earlierMember later laterMember ordered
    rcases List.mem_append.mp laterMember with oldLater | newLater
    · rcases List.mem_append.mp earlierMember with oldEarlier | newEarlier
      · exact holds.sequential earlier oldEarlier later oldLater ordered
      · -- an answer given now does not end before an earlier call began
        have finished := (given earlier newEarlier).finished
        have started := (holds.answered later oldLater).2.1
        omega
    · rcases List.mem_append.mp earlierMember with oldEarlier | newEarlier
      · exact (given later newLater).newer earlier oldEarlier ordered
      · have finished := (given earlier newEarlier).finished
        have started := (given later newLater).started
        omega

theorem synchInvariant_step (resources : ResourceReader W)
    (state next : SynchState rt W Caller Reader) (label : SynchLabel W Caller Reader)
    (holds : SynchInvariant resources state)
    (stepped : synchMachineStep resources state label = some next) :
    SynchInvariant resources next := by
  cases synchMachineStep_effect resources stepped with
  | called caller free =>
      have outside : (state.callers caller).inside = false := by
        cases pc : state.callers caller <;> rw [pc] at free <;> first | rfl | cases free
      apply holds.other
      · exact holds.exclusive.keep rfl (by rw [outside]; rfl)
      · exact holds.chronological.leave rfl rfl rfl rfl (Nat.le_succ _) (fun _ _ => nofun)
      · rfl
      · exact ⟨[], (List.append_nil _).symm⟩
  | moved caller action shared pc synched =>
      have grown := synchStep_publications synched
      apply holds.other
      · exact (holds.exclusive.step synched).of_same_inside rfl (fun _ => rfl)
      · exact holds.chronological.step holds.exclusive synched
      · change shared.now + 1 = _
        rw [synchStep_now synched]
      · exact grown
  | invoked reader keys idle =>
      have invoked := holds.readerStep reader (.called state.shared.now keys) []
        (Nat.lt_succ_self _) (fun _ member => absurd member List.not_mem_nil)
      rw [List.append_nil] at invoked
      exact invoked
  | listed reader action pc answer moved =>
      obtain ⟨consistent, given⟩ := listStep_consistent holds.chronological.latest
        (fun earlier member => (holds.answered earlier member).1) (holds.reading reader) moved
      have fresh : ∀ later ∈ answer.toList, AnsweredNow state.shared.publications
          state.shared.now state.answers later := by
        intro later member
        exact given later (Option.mem_toList.mp member)
      apply holds.readerStep reader pc answer.toList _ fresh
      apply ListPc.consistent_tick consistent
      intro later member
      rw [(fresh later member).finished]
  | changed world =>
      apply holds.other
      · exact holds.exclusive.of_same_inside rfl (fun _ => rfl)
      · exact holds.chronological.change world
      · rfl
      · exact ⟨[], (List.append_nil _).symm⟩

omit [DecidableEq Caller] [DecidableEq Reader] in
theorem synchInvariant_initial (resources : ResourceReader W) (world : W) :
    SynchInvariant resources
      (SynchState.initial rt world : SynchState rt W Caller Reader) := by
  constructor
  · exact exclusive_initial world
  · exact chronological_initial resources world
  · intro reader
    trivial
  · intro answer member
    cases member
  · intro earlier member
    cases member

theorem synchInvariant_run (resources : ResourceReader W) (world : W)
    (labels : List (SynchLabel W Caller Reader)) (state : SynchState rt W Caller Reader)
    (ran : (synchMachine resources).run (SynchState.initial rt world) labels = some state) :
    SynchInvariant resources state := by
  apply (synchMachine resources).invariant_run _ (synchInvariant_initial resources world)
    ((synchMachine resources).along_of_forall (fun _ _ _ => trivial) _) ran
  intro before label after holds _always stepped
  exact synchInvariant_step resources before after label holds stepped

/-! ### Mutual exclusion and monotone publication -/

/-- A step that clears the flag is the reset of the caller inside. -/
private theorem cleared_by_holder (resources : ResourceReader W)
    (state next : SynchState rt W Caller Reader) (label : SynchLabel W Caller Reader)
    (stepped : synchMachineStep resources state label = some next)
    (busy : state.shared.cache.synchronizing = true)
    (cleared : next.shared.cache.synchronizing = false) :
    ∃ caller, label = .caller caller .reset ∧ (state.callers caller).inside = true := by
  have unchanged : next.shared.cache.synchronizing ≠ state.shared.cache.synchronizing := by
    rw [busy, cleared]
    decide
  cases synchMachineStep_effect resources stepped with
  | moved caller action shared pc synched =>
      have effect := synchStep_effect resources synched
      generalize at_ : state.callers caller = current at effect
      cases effect with
      | acquired free => cases cleared
      | released result => exact ⟨caller, rfl, by rw [at_]; rfl⟩
      | _ => exact absurd rfl unchanged
  | _ => exact absurd rfl unchanged

/-- A refused caller leaves the cache as it is, with the flag set. -/
private theorem refused_keeps (resources : ResourceReader W)
    (state next : SynchState rt W Caller Reader) (caller : Caller)
    (starting : state.callers caller = .start)
    (stepped : synchMachineStep resources state (.caller caller .compareAndSwap) = some next)
    (refused : next.callers caller = .returned (some .synchAlreadyRunning)) :
    next.shared.cache = state.shared.cache ∧ state.shared.cache.synchronizing = true := by
  cases synchMachineStep_effect resources stepped with
  | moved caller action shared pc synched =>
      have effect := synchStep_effect resources synched
      rw [starting] at effect
      cases effect with
      | refused busy => exact ⟨rfl, busy⟩
      | acquired free =>
          simp only [Function.update_self, reduceCtorEq] at refused

structure ExclusiveMonotone (resources : ResourceReader W)
    (state : SynchState rt W Caller Reader) : Prop where
  one_inside : ∀ first second, (state.callers first).inside = true →
    (state.callers second).inside = true → first = second
  flag_iff_inside : state.shared.cache.synchronizing = true ↔
    ∃ caller, (state.callers caller).inside = true
  refused_keeps_flag : ∀ caller next, state.callers caller = .start →
    (synchMachine resources).step state (.caller caller .compareAndSwap) = some next →
    next.callers caller = .returned (some .synchAlreadyRunning) →
    next.shared.cache = state.shared.cache ∧ state.shared.cache.synchronizing = true
  flag_cleared_inside : ∀ label next, (synchMachine resources).step state label = some next →
    state.shared.cache.synchronizing = true → next.shared.cache.synchronizing = false →
    ∃ caller, label = .caller caller .reset ∧ (state.callers caller).inside = true
  published_as_listed :
    state.shared.publications.Pairwise (fun older newer => older.listedAt < newer.listedAt)
  answered_from_one : ∀ answer ∈ state.answers, answer.fromOne state.shared.publications
  never_older : ∀ earlier ∈ state.answers, ∀ later ∈ state.answers,
    earlier.finishedAt < later.startedAt →
      ∀ old ∈ earlier.version, ∀ new ∈ later.version, old ≤ new

theorem synch_exclusive_monotone (resources : ResourceReader W) (world : W)
    (labels : List (SynchLabel W Caller Reader)) (state : SynchState rt W Caller Reader)
    (ran : (synchMachine resources).run (SynchState.initial rt world) labels = some state) :
    ExclusiveMonotone resources state := by
  have holds := synchInvariant_run resources world labels state ran
  constructor
  · exact holds.exclusive.unique
  · exact holds.exclusive.flag_iff
  · intro caller next starting stepped refused
    exact refused_keeps resources state next caller starting stepped refused
  · intro label next stepped busy cleared
    exact cleared_by_holder resources state next label stepped busy cleared
  · exact holds.chronological.increasing
  · intro answer member
    exact (holds.answered answer member).1
  · exact holds.sequential

end System

private def aliceEverywhere : ResourceReader Unit :=
  { listNamespaces := fun _ => [bareNamespace "team-a"]
    allowedSubjects := fun _ _ => ([userSubject "alice"], none) }

/-- The second caller is refused in the middle of the first one's call, and a
call of `List` with two keys starts before the restock and loads after it. -/
private def overlappingCalls : List (SynchLabel Unit Bool Unit) :=
  [ .call true, .caller true .compareAndSwap, .call false, .caller false .compareAndSwap,
    .caller true .list, .invoke () [userSubject "alice", groupSubject "devs"],
    .caller true .computeNamespace, .caller true .restock, .reader () .load,
    .reader () .lookup, .caller true .reset, .reader () .lookup,
    .reader () (.finish (RangeOrder.asKept Namespace)) ]

theorem synch_exclusive_monotone_overlapping :
    ∃ state : SynchState Runtime.reference Unit Bool Unit,
      (synchMachine aliceEverywhere).run (SynchState.initial Runtime.reference ())
        overlappingCalls = some state ∧
      state.answers.length = 1 ∧ ExclusiveMonotone aliceEverywhere state :=
  ⟨_, rfl, rfl, synch_exclusive_monotone aliceEverywhere () overlappingCalls _ rfl⟩

end NamespaceLister
