/-
The running system with its metrics.

`Request` sends first and counts afterwards, and `Synch` reports its outcome, one
collector after the other, between the end of the synchronization and the reset of
the flag, so in between the metrics lag behind.  Every step of the system without
metrics is a step here, beside the steps that count.  Over every interleaving the
counters and what is still to be counted add up: each request is counted once under
its cause, and the requests counted as queued are those the worker receives.
-/

import NamespaceLister.Informer
import NamespaceLister.RequestCoverage
import NamespaceLister.AccessCacheMetrics

namespace NamespaceLister

open Library

universe u

/-! ### The request counters -/

/-- The event of a request, with all its fields; nil is no object. -/
structure RequestEvent where
  object : Option Object
  eventType : GoString
  timeTriggered : Bool
deriving DecidableEq

def timeTriggeredEvent : RequestEvent :=
  { object := none
    eventType := []
    timeTriggered := true }

def Event.asRequest (event : Event) : RequestEvent :=
  { object := some event.object
    eventType := event.eventType
    timeTriggered := false }

def statusQueuedLabel : GoString := "queued"

def statusSkippedLabel : GoString := "skipped"

def getStatusLabel (queued : Bool) : GoString :=
  if queued then statusQueuedLabel else statusSkippedLabel

/-- A counter vector with the label status: the series that exist. -/
abbrev StatusCounter := GoMap GoString Nat

def StatusCounter.inc (counter : StatusCounter) (status : GoString) : StatusCounter :=
  counter.insert status ((counter.lookup status).getD 0 + 1)

def StatusCounter.value (counter : StatusCounter) (queued : Bool) : Nat :=
  (counter.lookup (getStatusLabel queued)).getD 0

structure RequestMetrics where
  timeRequestsGauge : StatusCounter
  resourceRequestsGauge : StatusCounter

def RequestMetrics.new : RequestMetrics :=
  { timeRequestsGauge := ∅
    resourceRequestsGauge := ∅ }

def RequestMetrics.CollectRequestMetrics (m : RequestMetrics) (event : RequestEvent)
    (queued : Bool) : RequestMetrics :=
  let status := getStatusLabel queued
  if event = timeTriggeredEvent then
    { m with timeRequestsGauge := m.timeRequestsGauge.inc status }
  else { m with resourceRequestsGauge := m.resourceRequestsGauge.inc status }

theorem getStatusLabel_injective {first second : Bool}
    (same : getStatusLabel first = getStatusLabel second) : first = second := by
  cases first <;> cases second <;> first | rfl | exact absurd same (by decide)

theorem StatusCounter.value_inc (counter : StatusCounter) (counted queued : Bool) :
    (counter.inc (getStatusLabel counted)).value queued =
      counter.value queued + (counted == queued).toNat := by
  unfold StatusCounter.inc StatusCounter.value
  rw [GoMap.lookup_assign]
  by_cases same : counted = queued
  · subst queued
    rw [if_pos rfl, beq_self_eq_true]
    rfl
  · rw [if_neg (fun equal => same (getStatusLabel_injective equal.symm)),
      beq_false_of_ne same]
    rfl

def RequestEvent.byTimer (event : RequestEvent) : Bool := event = timeTriggeredEvent

def RequestMetrics.counter (m : RequestMetrics) (timer : Bool) : StatusCounter :=
  if timer then m.timeRequestsGauge else m.resourceRequestsGauge

theorem CollectRequestMetrics_value (m : RequestMetrics) (event : RequestEvent)
    (queued timer status : Bool) :
    ((m.CollectRequestMetrics event queued).counter timer).value status =
      (m.counter timer).value status +
        (event.byTimer == timer && queued == status).toNat := by
  unfold RequestMetrics.CollectRequestMetrics RequestMetrics.counter RequestEvent.byTimer
  by_cases ofTimer : event = timeTriggeredEvent
  · simp only [if_pos ofTimer, decide_eq_true ofTimer]
    cases timer with
    | true => exact StatusCounter.value_inc m.timeRequestsGauge queued status
    | false => rfl
  · simp only [if_neg ofTimer, decide_eq_false ofTimer]
    cases timer with
    | true => rfl
    | false => exact StatusCounter.value_inc m.resourceRequestsGauge queued status

/-- A handler fills in an object, so no resource event is taken for the timer's. -/
theorem asRequest_byTimer (event : Event) : event.asRequest.byTimer = false := by
  apply decide_eq_false
  intro same
  cases congrArg RequestEvent.timeTriggered same

/-! ### The system with its counters -/

/-- How a step of the system meets the metrics: it makes a request, or it resets
the flag, before which the outcome is counted. -/
inductive MeteredRole where
  | handler
  | timer
  | reset (thread : Thread)
  | other
deriving DecidableEq

def StartupLabel.role {W : Type u} : StartupLabel W → MeteredRole
  | .handle _ => .handler
  | .timerFires => .timer
  | .startupSynch .reset => .reset .startup
  | .workerSynch .reset => .reset .worker
  | _ => .other

/-- What the report of a synchronization meets: how long it took and the visiting
orders of its two loops. -/
structure Reporting where
  duration : Int
  visit : AccessData → VisitedAccessData
  visit_same : ∀ data, (visit data).toFinmap = data
  order : RangeOrder (Sigma fun _ : GoString => Nat)

/-- How far a call of `CollectSynchMetrics` has come: nothing yet, the duration
observed, the outcome counted, and at last the pairs that are still to be set. -/
inductive ReportPc where
  | fresh
  | timed
  | counted
  | setting (rest : List (Sigma fun _ : GoString => Nat))

def ReportPc.ended : ReportPc → Bool
  | .setting [] => true
  | _ => false

/-- `CollectSynchMetrics` collector by collector; after a failure only the first two
are touched. -/
def reportStep (reporting : Reporting) (data : AccessData) (result : Option SynchError)
    (m : AccessCacheMetrics) : ReportPc → Option (AccessCacheMetrics × ReportPc)
  | .fresh =>
      let status := if result = none then statusCompleted else statusFailed
      some ({ m with synchDuration := observe m.synchDuration status reporting.duration }, .timed)
  | .timed =>
      match result with
      | some err =>
          some ({ m with synchGauge := countSynch m.synchGauge statusFailed err.text },
            .setting [])
      | none =>
          some ({ m with synchGauge := countSynch m.synchGauge statusCompleted [] }, .counted)
  | .counted =>
      let cacheData := reporting.visit data
      some ({ m with subjectCounter := cacheData.entries.length },
        .setting (reporting.order.arrange (cacheData.entries.foldl addPairs ∅).entries))
  | .setting (entry :: rest) =>
      some ({ m with
          subjectNamespacePairsCounter :=
            m.subjectNamespacePairsCounter.insert entry.1 entry.2 }, .setting rest)
  | .setting [] => none

/-- The requests that have sent and are still to count, each with what its send
returned, and how far the report of a thread has come. -/
structure MeteredState (rt : Runtime) (W : Type u) where
  system : StartupState rt W
  requestMetrics : RequestMetrics
  synchMetrics : AccessCacheMetrics
  collecting : List (RequestEvent × Bool)
  reports : Thread → ReportPc

inductive MeteredLabel (W : Type u) where
  | act (label : StartupLabel W)
  | handle (index : Nat) (notification : Notification)
  | collectRequest (index : Nat)
  | collectSynch (thread : Thread) (reporting : Reporting)

def MeteredLabel.act? {W : Type u} : MeteredLabel W → Option (StartupLabel W)
  | .act label => some label
  | .handle index _ => some (.handle index)
  | _ => none

namespace MeteredState

variable {rt : Runtime} {W : Type u}

def initial (rt : Runtime) (world : W) : MeteredState rt W :=
  { system := StartupState.initial rt world
    requestMetrics := RequestMetrics.new
    synchMetrics := NewAccessCacheMetrics
    collecting := []
    reports := fun _ => .fresh }

def requested (state : MeteredState rt W) (event : RequestEvent) (system : StartupState rt W) :
    MeteredState rt W :=
  { state with
    system := system
    collecting :=
      state.collecting ++ [(event, state.system.shared.cache.requested.trySend.2)] }

/-- The call still holds the flag, so the data it returned is the data that is
published. -/
def data (state : MeteredState rt W) : AccessData :=
  state.system.shared.cache.accessCache.data.getD ∅

def reported (state : MeteredState rt W) (thread : Thread)
    (next : AccessCacheMetrics × ReportPc) : MeteredState rt W :=
  { state with
    synchMetrics := next.1
    reports := Function.update state.reports thread next.2 }

end MeteredState

section Steps

variable {rt : Runtime} {W : Type u} (resources : ResourceReader W)

def meteredStep (state : MeteredState rt W) : MeteredLabel W → Option (MeteredState rt W)
  | .act label =>
      match label.role with
      | .handler => none
      | .timer =>
          ((startupMachine resources).step state.system label).map
            (state.requested timeTriggeredEvent)
      | .reset thread =>
          if (state.reports thread).ended then
            ((startupMachine resources).step state.system label).map (fun system =>
              { state with
                system := system
                reports := Function.update state.reports thread .fresh })
          else none
      | .other =>
          ((startupMachine resources).step state.system label).map (fun system =>
            { state with system := system })
  | .handle index notification =>
      ((startupMachine resources).step state.system (.handle index)).map
        (state.requested (eventHandlerFuncs notification).asRequest)
  | .collectRequest index =>
      match state.collecting[index]? with
      | none => none
      | some (event, queued) =>
          some { state with
            requestMetrics := state.requestMetrics.CollectRequestMetrics event queued
            collecting := state.collecting.eraseIdx index }
  | .collectSynch thread reporting =>
      match state.system.threads thread with
      | .finishing result =>
          (reportStep reporting state.data result state.synchMetrics (state.reports thread)).map
            (state.reported thread)
      | _ => none

def meteredMachine : Machine (MeteredState rt W) (MeteredLabel W) :=
  { step := meteredStep resources }

inductive MeteredEffect (state : MeteredState rt W) :
    MeteredLabel W → MeteredState rt W → Prop where
  | moved (label : StartupLabel W) (system : StartupState rt W) (plain : label.role = .other)
      (stepped : (startupMachine resources).step state.system label = some system) :
      MeteredEffect state (.act label) { state with system := system }
  | timerFired (label : StartupLabel W) (system : StartupState rt W)
      (timer : label.role = .timer)
      (stepped : (startupMachine resources).step state.system label = some system) :
      MeteredEffect state (.act label) (state.requested timeTriggeredEvent system)
  | handled (index : Nat) (notification : Notification) (system : StartupState rt W)
      (stepped : (startupMachine resources).step state.system (.handle index) = some system) :
      MeteredEffect state (.handle index notification)
        (state.requested (eventHandlerFuncs notification).asRequest system)
  | released (label : StartupLabel W) (thread : Thread) (system : StartupState rt W)
      (resets : label.role = .reset thread) (finished : (state.reports thread).ended = true)
      (stepped : (startupMachine resources).step state.system label = some system) :
      MeteredEffect state (.act label)
        { state with
          system := system
          reports := Function.update state.reports thread .fresh }
  | requestCounted (index : Nat) (event : RequestEvent) (queued : Bool)
      (found : state.collecting[index]? = some (event, queued)) :
      MeteredEffect state (.collectRequest index)
        { state with
          requestMetrics := state.requestMetrics.CollectRequestMetrics event queued
          collecting := state.collecting.eraseIdx index }
  | synchReported (thread : Thread) (reporting : Reporting) (result : Option SynchError)
      (next : AccessCacheMetrics × ReportPc)
      (at_ : state.system.threads thread = .finishing result)
      (stepped : reportStep reporting state.data result state.synchMetrics
        (state.reports thread) = some next) :
      MeteredEffect state (.collectSynch thread reporting) (state.reported thread next)

theorem meteredStep_effect {state next : MeteredState rt W} {label : MeteredLabel W}
    (stepped : (meteredMachine resources).step state label = some next) :
    MeteredEffect resources state label next := by
  change meteredStep resources state label = some next at stepped
  cases label with
  | act label =>
      simp only [meteredStep] at stepped
      split at stepped
      · cases stepped
      · rename_i timer
        obtain ⟨system, moved, same⟩ := Option.map_eq_some_iff.mp stepped
        subst same
        exact .timerFired label system timer moved
      · rename_i thread resets
        split at stepped
        · rename_i finished
          obtain ⟨system, moved, same⟩ := Option.map_eq_some_iff.mp stepped
          subst same
          exact .released label thread system resets finished moved
        · cases stepped
      · rename_i plain
        obtain ⟨system, moved, same⟩ := Option.map_eq_some_iff.mp stepped
        subst same
        exact .moved label system plain moved
  | handle index notification =>
      obtain ⟨system, moved, same⟩ := Option.map_eq_some_iff.mp stepped
      subst same
      exact .handled index notification system moved
  | collectRequest index =>
      simp only [meteredStep] at stepped
      split at stepped
      · cases stepped
      · rename_i event queued found
        cases stepped
        exact .requestCounted index event queued found
  | collectSynch thread reporting =>
      simp only [meteredStep] at stepped
      split at stepped
      · rename_i result at_
        obtain ⟨next, moved, same⟩ := Option.map_eq_some_iff.mp stepped
        subst same
        exact .synchReported thread reporting result next at_ moved
      · cases stepped

end Steps

section Invariants

variable {rt : Runtime} {W : Type u} {resources : ResourceReader W}
variable {state next : MeteredState rt W} {label : MeteredLabel W}

theorem metered_projects {world : W} {labels : List (MeteredLabel W)}
    (ran : (meteredMachine resources).run (MeteredState.initial rt world) labels = some state) :
    (startupMachine resources).run (StartupState.initial rt world)
      ((meteredMachine resources).actions (fun _ label => label.act?.toList)
        (MeteredState.initial rt world) labels) = some state.system := by
  have simulated : ∀ (current : MeteredState rt W) (label : MeteredLabel W)
      (reached : MeteredState rt W), True →
      (meteredMachine resources).step current label = some reached →
      (startupMachine resources).run (MeteredState.system current)
        (MeteredLabel.act? label).toList = some (MeteredState.system reached) := by
    intro current label reached _ stepped
    cases meteredStep_effect resources stepped with
    | moved label system plain moved =>
        exact (startupMachine resources).run_singleton moved
    | timerFired label system timer moved =>
        exact (startupMachine resources).run_singleton moved
    | handled index notification system moved =>
        exact (startupMachine resources).run_singleton moved
    | released label thread system resets finished moved =>
        exact (startupMachine resources).run_singleton moved
    | requestCounted index event queued found => rfl
    | synchReported thread reporting result after at_ reported => rfl
  exact (meteredMachine resources).run_actions (fun _ _ _ _ _ => trivial) simulated trivial ran

/-- A call that has begun its report has not reset the flag yet. -/
structure MeteredInvariant (resources : ResourceReader W) (state : MeteredState rt W) : Prop where
  system : StartupInvariant resources state.system
  finishing : ∀ thread, state.reports thread ≠ .fresh →
    ∃ result, state.system.threads thread = .finishing result

theorem meteredInvariant_initial (resources : ResourceReader W) (world : W) :
    MeteredInvariant resources (MeteredState.initial rt world) := by
  constructor
  · exact startupInvariant_initial resources world
  · intro thread begun
    exact absurd rfl begun

/-! ### What a step of the system concludes -/

def SynchPc.outcome : SynchPc rt → Option (GoString × GoString)
  | .finishing none => some (statusCompleted, [])
  | .finishing (some err) => some (statusFailed, err.text)
  | _ => none

def SynchAction.concludes : SynchAction → Option (GoString × GoString)
  | .restock => some (statusCompleted, [])
  | .listFails cause => some (statusFailed, cause)
  | .contextDone cause => some (statusFailed, (SynchError.contextDone cause).text)
  | _ => none

def StartupLabel.concludesFor (thread : Thread) : StartupLabel W → Option (GoString × GoString)
  | .startupSynch action => if thread = .startup then action.concludes else none
  | .workerSynch action => if thread = .worker then action.concludes else none
  | _ => none

theorem synchStep_outcome {shared after : Shared rt W} {pc pcAfter : SynchPc rt}
    {action : SynchAction}
    (stepped : synchStep resources shared pc action = some (after, pcAfter))
    (plain : action ≠ .reset) :
    pc.outcome = none ∧ pcAfter.outcome = action.concludes := by
  cases synchStep_effect resources stepped with
  | released result => exact absurd rfl plain
  | _ => exact ⟨rfl, rfl⟩

theorem outcome_step {system reached : StartupState rt W} {inner : StartupLabel W}
    (wired : Wired system) (plain : ∀ thread, inner.role ≠ .reset thread)
    (effect : StartupEffect resources system inner reached) (thread : Thread) :
    ((system.threads thread).outcome = none ∧
      (reached.threads thread).outcome = inner.concludesFor thread) ∨
    (reached.threads thread = system.threads thread ∧ inner.concludesFor thread = none) := by
  cases effect with
  | started now =>
      cases thread with
      | startup =>
          left
          have idle := wired.fits
          rw [now] at idle
          change system.threads .startup = .idle at idle
          rw [idle, StartupState.moveThread_same]
          exact ⟨rfl, rfl⟩
      | worker => exact Or.inr ⟨system.moveThread_startup system.shared .start, rfl⟩
  | dequeued requested now received =>
      cases thread with
      | worker =>
          left
          have idle : system.threads .worker = .idle := wired.resting (by rw [now]; decide)
          rw [idle, StartupState.moveThread_same]
          exact ⟨rfl, rfl⟩
      | startup =>
          exact Or.inr ⟨(system.setRequested requested).moveThread_worker
            (system.setRequested requested).shared .start, rfl⟩
  | workerResumed result now at_ =>
      cases thread with
      | worker =>
          left
          rw [at_, StartupState.moveThread_same]
          exact ⟨rfl, rfl⟩
      | startup => exact Or.inr ⟨system.moveThread_worker system.shared .idle, rfl⟩
  | startupSynched action shared pc now stepped =>
      have unreset : action ≠ .reset := by
        intro resets
        subst action
        exact plain .startup rfl
      cases thread with
      | startup =>
          left
          rw [StartupState.moveThread_same]
          exact synchStep_outcome stepped unreset
      | worker => exact Or.inr ⟨system.moveThread_startup shared pc, rfl⟩
  | workerSynched action shared pc now stepped =>
      have unreset : action ≠ .reset := by
        intro resets
        subst action
        exact plain .worker rfl
      cases thread with
      | worker =>
          left
          rw [StartupState.moveThread_same]
          exact synchStep_outcome stepped unreset
      | startup => exact Or.inr ⟨system.moveThread_worker shared pc, rfl⟩
  | _ => exact Or.inr ⟨rfl, rfl⟩

theorem reset_step {system reached : StartupState rt W} {inner : StartupLabel W}
    {thread : Thread} (resets : inner.role = .reset thread)
    (effect : StartupEffect resources system inner reached) :
    (∃ result, system.threads thread = .finishing result ∧
      reached.threads thread = .returned result) ∧
    (∀ other, other ≠ thread → reached.threads other = system.threads other) ∧
    (∀ other, inner.concludesFor other = none) ∧
    reached.shared.publications = system.shared.publications ∧
    reached.shared.cache.accessCache = system.shared.cache.accessCache := by
  cases effect with
  | startupSynched action shared pc now stepped =>
      cases action with
      | reset =>
          cases resets
          have moved := synchStep_effect resources stepped
          generalize at_ : system.threads .startup = current at moved
          cases moved with
          | released result =>
              refine ⟨⟨result, rfl, system.moveThread_same .startup _ _⟩, ?_, ?_, rfl, rfl⟩
              · intro other different
                exact system.moveThread_other different _ _
              · intro other
                simp only [StartupLabel.concludesFor, SynchAction.concludes, ite_self]
      | _ => cases resets
  | workerSynched action shared pc now stepped =>
      cases action with
      | reset =>
          cases resets
          have moved := synchStep_effect resources stepped
          generalize at_ : system.threads .worker = current at moved
          cases moved with
          | released result =>
              refine ⟨⟨result, rfl, system.moveThread_same .worker _ _⟩, ?_, ?_, rfl, rfl⟩
              · intro other different
                exact system.moveThread_other different _ _
              · intro other
                simp only [StartupLabel.concludesFor, SynchAction.concludes, ite_self]
      | _ => cases resets
  | _ => cases resets

theorem outcome_finishing (pc : SynchPc rt) :
    pc.outcome ≠ none ↔ ∃ result, pc = .finishing result := by
  cases pc with
  | finishing result => cases result <;> simp [SynchPc.outcome]
  | _ => simp [SynchPc.outcome]

private theorem finishing_kept {system reached : StartupState rt W} {inner : StartupLabel W}
    (wired : Wired system) (plain : ∀ thread, inner.role ≠ .reset thread)
    (effect : StartupEffect resources system inner reached) {thread : Thread}
    (finishing : ∃ result, system.threads thread = .finishing result) :
    ∃ result, reached.threads thread = .finishing result := by
  rcases outcome_step wired plain effect thread with moved | kept
  · exact absurd moved.1 ((outcome_finishing _).mpr finishing)
  · rw [kept.1]
    exact finishing

theorem MeteredInvariant.reported (holds : MeteredInvariant resources state) {thread : Thread}
    {result : Option SynchError} (at_ : state.system.threads thread = .finishing result)
    (after : AccessCacheMetrics × ReportPc) :
    MeteredInvariant resources (state.reported thread after) := by
  refine ⟨holds.system, ?_⟩
  intro other begun
  change Function.update state.reports thread after.2 other ≠ .fresh at begun
  by_cases same : other = thread
  · rw [same]
    exact ⟨result, at_⟩
  · rw [Function.update_of_ne same] at begun
    exact holds.finishing other begun

theorem meteredInvariant_step (holds : MeteredInvariant resources state)
    (stepped : (meteredMachine resources).step state label = some next) :
    MeteredInvariant resources next := by
  have system := holds.system
  have finishing := holds.finishing
  have plainly : ∀ inner reached, (∀ thread, StartupLabel.role inner ≠ .reset thread) →
      (startupMachine resources).step state.system inner = some reached →
      StartupInvariant resources reached ∧
        ∀ thread, state.reports thread ≠ .fresh →
          ∃ result, reached.threads thread = .finishing result := by
    intro inner reached plain moved
    obtain ⟨untimed, effect, ticked⟩ := startupMachine_effect resources moved
    refine ⟨startupInvariant_step system moved, ?_⟩
    intro thread begun
    subst ticked
    exact finishing_kept system.wired plain effect (finishing thread begun)
  cases meteredStep_effect resources stepped with
  | moved inner reached plain moved =>
      obtain ⟨invariant, kept⟩ := plainly inner reached (by rw [plain]; nofun) moved
      exact ⟨invariant, kept⟩
  | timerFired inner reached timer moved =>
      obtain ⟨invariant, kept⟩ := plainly inner reached (by rw [timer]; nofun) moved
      exact ⟨invariant, kept⟩
  | handled index notification reached moved =>
      obtain ⟨invariant, kept⟩ := plainly _ reached (fun _ same => by cases same) moved
      exact ⟨invariant, kept⟩
  | released inner thread reached resets finished moved =>
      obtain ⟨untimed, effect, ticked⟩ := startupMachine_effect resources moved
      obtain ⟨_, others, _⟩ := reset_step resets effect
      refine ⟨startupInvariant_step system moved, ?_⟩
      intro other begun
      change Function.update state.reports thread .fresh other ≠ .fresh at begun
      by_cases same : other = thread
      · rw [same, Function.update_self] at begun
        exact absurd rfl begun
      · rw [Function.update_of_ne same] at begun
        subst ticked
        change ∃ result, untimed.threads other = .finishing result
        rw [others other same]
        exact finishing other begun
  | requestCounted index event queued found => exact ⟨system, finishing⟩
  | synchReported thread reporting result after at_ reported => exact holds.reported at_ after

/-! ### Requests -/

theorem requested_length_step {system reached : StartupState rt W} {inner : StartupLabel W}
    (effect : StartupEffect resources system inner reached) :
    reached.shared.cache.requested.length + inner.receives.toNat =
      system.shared.cache.requested.length +
        (inner.sends && system.shared.cache.requested.trySend.2).toNat := by
  cases effect with
  | handled index announced found => exact Channel.trySend_length system.shared.cache.requested
  | timerFired running => exact Channel.trySend_length system.shared.cache.requested
  | dequeued requested now received => exact (Channel.receive_length received).symm
  | startupSynched action shared pc now stepped =>
      exact congrArg Channel.length (synchStep_requested stepped)
  | workerSynched action shared pc now stepped =>
      exact congrArg Channel.length (synchStep_requested stepped)
  | _ => rfl

def MeteredLabel.isTimer : MeteredLabel W → Bool
  | .act label => label.role == .timer
  | _ => false

def MeteredLabel.isHandler : MeteredLabel W → Bool
  | .handle _ _ => true
  | _ => false

def MeteredLabel.isReceive : MeteredLabel W → Bool
  | .act label => label.receives
  | _ => false

theorem role_sends (inner : StartupLabel W) :
    inner.sends = (inner.role == .handler || inner.role == .timer) := by
  cases inner with
  | startupSynch action => cases action <;> rfl
  | workerSynch action => cases action <;> rfl
  | _ => rfl

theorem countP_eraseIdx {E : Type u} (p : E → Bool) {items : List E} {index : Nat} {item : E}
    (found : items[index]? = some item) :
    (items.eraseIdx index).countP p + (p item).toNat = items.countP p := by
  obtain ⟨inside, same⟩ := List.getElem?_eq_some_iff.mp found
  rw [← (List.getElem_cons_eraseIdx_perm inside).countP_eq p, List.countP_cons, same]
  cases p item <;> rfl

theorem countP_concat {E : Type u} (p : E → Bool) (items : List E) (item : E) :
    (items ++ [item]).countP p = items.countP p + (p item).toNat := by
  rw [List.countP_append, List.countP_singleton]
  cases p item <;> rfl

/-- The requests of the timer or of the handlers: those that are counted, under
either status, and those that are still to count. -/
def MeteredState.requestsOf (state : MeteredState rt W) (timer : Bool) : Nat :=
  (state.requestMetrics.counter timer).value true +
    (state.requestMetrics.counter timer).value false +
    state.collecting.countP (fun entry => entry.1.byTimer == timer)

def MeteredState.queuedRequests (state : MeteredState rt W) : Nat :=
  (state.requestMetrics.counter true).value true +
    (state.requestMetrics.counter false).value true +
    state.collecting.countP Prod.snd

theorem requests_counted {index : Nat} {event : RequestEvent} {queued : Bool}
    (found : state.collecting[index]? = some (event, queued)) :
    let counted : MeteredState rt W :=
      { state with
        requestMetrics := state.requestMetrics.CollectRequestMetrics event queued
        collecting := state.collecting.eraseIdx index }
    (∀ timer, counted.requestsOf timer = state.requestsOf timer) ∧
      counted.queuedRequests = state.queuedRequests := by
  constructor
  · intro timer
    have erased := countP_eraseIdx (fun entry : RequestEvent × Bool => entry.1.byTimer == timer)
      found
    unfold MeteredState.requestsOf
    simp only [CollectRequestMetrics_value]
    rw [← erased]
    cases event.byTimer == timer <;> cases queued <;> simp <;> omega
  · have erased := countP_eraseIdx (Prod.snd : RequestEvent × Bool → Bool) found
    unfold MeteredState.queuedRequests
    simp only [CollectRequestMetrics_value]
    rw [← erased]
    cases event.byTimer <;> cases queued <;> simp <;> omega

theorem requests_sent (state : MeteredState rt W) (event : RequestEvent)
    (system : StartupState rt W) :
    (∀ timer, (state.requested event system).requestsOf timer =
      state.requestsOf timer + (event.byTimer == timer).toNat) ∧
    (state.requested event system).queuedRequests =
      state.queuedRequests + state.system.shared.cache.requested.trySend.2.toNat := by
  constructor
  · intro timer
    change _ + _ + (state.collecting ++ [_]).countP _ = _
    rw [countP_concat]
    exact (Nat.add_assoc _ _ _).symm
  · change _ + _ + (state.collecting ++ [_]).countP _ = _
    rw [countP_concat]
    exact (Nat.add_assoc _ _ _).symm

theorem requestsOf_step (stepped : (meteredMachine resources).step state label = some next) :
    next.requestsOf true = state.requestsOf true + label.isTimer.toNat ∧
      next.requestsOf false = state.requestsOf false + label.isHandler.toNat := by
  cases meteredStep_effect resources stepped with
  | moved inner reached plain moved =>
      refine ⟨?_, rfl⟩
      simp only [MeteredLabel.isTimer, plain]
      rfl
  | timerFired inner reached timer moved =>
      obtain ⟨sent, _⟩ := requests_sent state timeTriggeredEvent reached
      refine ⟨?_, sent false⟩
      simp only [MeteredLabel.isTimer, timer]
      exact sent true
  | handled index notification reached moved =>
      obtain ⟨sent, _⟩ := requests_sent state (eventHandlerFuncs notification).asRequest reached
      rw [asRequest_byTimer] at sent
      exact ⟨sent true, sent false⟩
  | released inner thread reached resets finished moved =>
      refine ⟨?_, rfl⟩
      simp only [MeteredLabel.isTimer, resets]
      rfl
  | requestCounted index event queued found =>
      obtain ⟨same, _⟩ := requests_counted found
      exact ⟨same true, same false⟩
  | synchReported thread reporting result after at_ reported => exact ⟨rfl, rfl⟩

theorem queuedRequests_step (stepped : (meteredMachine resources).step state label = some next) :
    next.queuedRequests + state.system.shared.cache.requested.length =
      state.queuedRequests + next.system.shared.cache.requested.length +
        label.isReceive.toNat := by
  have channel : ∀ inner reached,
      (startupMachine resources).step state.system inner = some reached →
      reached.shared.cache.requested.length + inner.receives.toNat =
        state.system.shared.cache.requested.length +
          (inner.sends && state.system.shared.cache.requested.trySend.2).toNat := by
    intro inner reached moved
    obtain ⟨untimed, effect, ticked⟩ := startupMachine_effect resources moved
    have lengths := requested_length_step effect
    subst ticked
    exact lengths
  cases meteredStep_effect resources stepped with
  | moved inner reached plain moved =>
      have lengths := channel inner reached moved
      have silent : inner.sends = false := by rw [role_sends, plain]; rfl
      rw [silent, Bool.false_and, Bool.toNat_false] at lengths
      change state.queuedRequests + _ = state.queuedRequests +
        reached.shared.cache.requested.length + inner.receives.toNat
      omega
  | timerFired inner reached timer moved =>
      have lengths := channel inner reached moved
      have sends : inner.sends = true := by rw [role_sends, timer]; rfl
      rw [sends, Bool.true_and] at lengths
      obtain ⟨_, sent⟩ := requests_sent state timeTriggeredEvent reached
      rw [sent]
      change _ = state.queuedRequests + reached.shared.cache.requested.length +
        inner.receives.toNat
      omega
  | handled index notification reached moved =>
      have lengths := channel _ reached moved
      obtain ⟨_, sent⟩ := requests_sent state (eventHandlerFuncs notification).asRequest reached
      rw [sent]
      change reached.shared.cache.requested.length + 0 = _ at lengths
      rw [StartupLabel.sends, Bool.true_and] at lengths
      change _ = state.queuedRequests + reached.shared.cache.requested.length + 0
      omega
  | released inner thread reached resets finished moved =>
      have lengths := channel inner reached moved
      have silent : inner.sends = false := by rw [role_sends, resets]; rfl
      rw [silent, Bool.false_and, Bool.toNat_false] at lengths
      change state.queuedRequests + _ = state.queuedRequests +
        reached.shared.cache.requested.length + inner.receives.toNat
      omega
  | requestCounted index event queued found =>
      obtain ⟨_, same⟩ := requests_counted found
      rw [same]
      rfl
  | synchReported thread reporting result after at_ reported => rfl

/-- In every interleaving the counters of the requests, with those still to count,
tell the firings of the timer and the calls of the handlers, and the requests that
were queued are those the worker received and at most one in the channel. -/
theorem request_metrics_account (resources : ResourceReader W) (world : W)
    (labels : List (MeteredLabel W)) (state : MeteredState rt W)
    (ran : (meteredMachine resources).run (MeteredState.initial rt world) labels = some state) :
    state.requestsOf true = labels.countP MeteredLabel.isTimer ∧
    state.requestsOf false = labels.countP MeteredLabel.isHandler ∧
    state.queuedRequests =
      labels.countP MeteredLabel.isReceive + state.system.shared.cache.requested.length ∧
    state.system.shared.cache.requested.length ≤ 1 := by
  have timer : ∀ (current : MeteredState rt W) (label : MeteredLabel W)
      (reached : MeteredState rt W), True →
      (meteredMachine resources).step current label = some reached →
      (reached.requestsOf true : Int) = current.requestsOf true + label.isTimer.toNat := by
    intro current label reached _ stepped
    have added := (requestsOf_step stepped).1
    omega
  have handler : ∀ (current : MeteredState rt W) (label : MeteredLabel W)
      (reached : MeteredState rt W), True →
      (meteredMachine resources).step current label = some reached →
      (reached.requestsOf false : Int) = current.requestsOf false + label.isHandler.toNat := by
    intro current label reached _ stepped
    have added := (requestsOf_step stepped).2
    omega
  have receive : ∀ (current : MeteredState rt W) (label : MeteredLabel W)
      (reached : MeteredState rt W), True →
      (meteredMachine resources).step current label = some reached →
      (reached.queuedRequests : Int) - reached.system.shared.cache.requested.length =
        current.queuedRequests - current.system.shared.cache.requested.length +
          label.isReceive.toNat := by
    intro current label reached _ stepped
    have moved := queuedRequests_step stepped
    omega
  have timers := (meteredMachine resources).tally_run (fun _ _ _ _ _ => trivial) timer trivial ran
  have handlers := (meteredMachine resources).tally_run (fun _ _ _ _ _ => trivial) handler trivial
    ran
  have received := (meteredMachine resources).tally_run (fun _ _ _ _ _ => trivial) receive trivial
    ran
  have nothing : (MeteredState.initial rt world).requestsOf true = 0 ∧
      (MeteredState.initial rt world).requestsOf false = 0 ∧
      (MeteredState.initial rt world).queuedRequests = 0 ∧
      (MeteredState.initial rt world).system.shared.cache.requested.length = 0 :=
    ⟨rfl, rfl, rfl, rfl⟩
  refine ⟨?_, ?_, ?_, state.system.shared.cache.requested.bounded⟩
  · omega
  · omega
  · omega

/-- Startup with one namespace held by its informer; the handler call for it and a
firing of the timer come before the worker's receive. -/
private def meteredStartup : List (MeteredLabel Bool) :=
  (startupUntilSynch 1).map .act ++
    [ .handle 0 (.onAdd (.nspace (bareNamespace "team-a"))), .act .timerFires,
      .collectRequest 1, .act .dequeue ]

theorem request_metrics_account_startup :
    ∃ state : MeteredState Runtime.reference Bool,
      (meteredMachine oneTenant).run (MeteredState.initial Runtime.reference false)
        meteredStartup = some state ∧
      state.collecting.length = 1 ∧ state.requestsOf true = 1 ∧ state.requestsOf false = 1 ∧
      state.queuedRequests = 1 + state.system.shared.cache.requested.length :=
  ⟨_, rfl, rfl,
    (request_metrics_account oneTenant false meteredStartup _ rfl).1,
    (request_metrics_account oneTenant false meteredStartup _ rfl).2.1,
    (request_metrics_account oneTenant false meteredStartup _ rfl).2.2.1⟩

end Invariants

end NamespaceLister
