/-
The metrics of synchronizations.

`Synch` reports its outcome between the end of the synchronization and the reset of
the flag: the duration, the count, the gauge of the subjects and the series of the
pairs, each on its own.  Over every interleaving of these steps each call that got
the flag is counted once, under its outcome, the successful ones are the values
published, and once the gauge of the subjects is set the gauges are those of the
published data, with the pairs that are still to be set.
-/

import NamespaceLister.MeteredSystem

namespace NamespaceLister

open Library

universe u

variable {rt : Runtime} {W : Type u} {resources : ResourceReader W}
variable {state next : MeteredState rt W} {label : MeteredLabel W}

/-! ### Counting outcomes -/

def AccessCacheMetrics.synchs (m : AccessCacheMetrics) (key : GoString × GoString) : Nat :=
  (m.synchGauge.lookup key).getD 0

theorem countSynch_value (synchGauge : GoMap (GoString × GoString) Nat) (status err : GoString)
    (key : GoString × GoString) :
    ((countSynch synchGauge status err).lookup key).getD 0 =
      (synchGauge.lookup key).getD 0 + (some (status, err) == some key).toNat := by
  unfold countSynch
  rw [GoMap.lookup_assign]
  by_cases same : key = (status, err)
  · subst key
    rw [if_pos rfl, beq_self_eq_true]
    rfl
  · have differs : (some (status, err) == some key) = false := by
      apply beq_false_of_ne
      intro equal
      exact same (Option.some.inj equal).symm
    rw [if_neg same, differs]
    rfl

def AccessCacheMetrics.setGauges (reporting : Reporting) (data : AccessData)
    (m : AccessCacheMetrics) : AccessCacheMetrics :=
  let cacheData := reporting.visit data
  { m with
    subjectCounter := cacheData.entries.length
    subjectNamespacePairsCounter :=
      GoMap.assignAll (reporting.order.arrange (cacheData.entries.foldl addPairs ∅).entries)
        m.subjectNamespacePairsCounter }

def ReportPc.finish (reporting : Reporting) (data : AccessData) (result : Option SynchError) :
    ReportPc → AccessCacheMetrics → AccessCacheMetrics
  | .fresh, m =>
      m.CollectSynchMetrics reporting.order reporting.duration (reporting.visit data)
        (result.map SynchError.text)
  | .timed, m =>
      match result with
      | some err => { m with synchGauge := countSynch m.synchGauge statusFailed err.text }
      | none =>
          AccessCacheMetrics.setGauges reporting data
            { m with synchGauge := countSynch m.synchGauge statusCompleted [] }
  | .counted, m => m.setGauges reporting data
  | .setting rest, m =>
      { m with
        subjectNamespacePairsCounter :=
          GoMap.assignAll rest m.subjectNamespacePairsCounter }

theorem reportStep_finish {reporting : Reporting} {data : AccessData}
    {result : Option SynchError} {m after : AccessCacheMetrics} {pc pcAfter : ReportPc}
    (stepped : reportStep reporting data result m pc = some (after, pcAfter)) :
    pcAfter.finish reporting data result after = pc.finish reporting data result m := by
  cases pc with
  | fresh =>
      cases result <;>
      · cases stepped
        rfl
  | timed =>
      cases result <;>
      · cases stepped
        rfl
  | counted =>
      cases stepped
      rfl
  | setting rest =>
      cases rest <;> cases stepped
      rfl

def reportMachine (reporting : Reporting) (data : AccessData) (result : Option SynchError) :
    Machine (AccessCacheMetrics × ReportPc) Unit :=
  { step := fun state _ => reportStep reporting data result state.1 state.2 }

theorem reportRun_finish {reporting : Reporting} {data : AccessData}
    {result : Option SynchError} {steps : List Unit} {start final : AccessCacheMetrics × ReportPc}
    (ran : (reportMachine reporting data result).run start steps = some final) :
    final.2.finish reporting data result final.1 =
      start.2.finish reporting data result start.1 := by
  induction steps generalizing start with
  | nil =>
      cases ran
      rfl
  | cons step rest ih =>
      obtain ⟨middle, stepped, later⟩ := (reportMachine reporting data result).run_cons_some ran
      exact (ih later).trans (reportStep_finish stepped)

/-- The steps of a report in a row are `CollectSynchMetrics`. -/
theorem report_collects {reporting : Reporting} {data : AccessData} {result : Option SynchError}
    {m after : AccessCacheMetrics} {steps : List Unit}
    (ran : (reportMachine reporting data result).run (m, .fresh) steps =
      some (after, .setting [])) :
    after = m.CollectSynchMetrics reporting.order reporting.duration (reporting.visit data)
      (result.map SynchError.text) :=
  reportRun_finish ran

def ReportPc.uncounted : ReportPc → Bool
  | .fresh | .timed => true
  | _ => false

theorem reportStep_synchs {reporting : Reporting} {data : AccessData}
    {result : Option SynchError} {m after : AccessCacheMetrics} {pc pcAfter : ReportPc}
    (stepped : reportStep reporting data result m pc = some (after, pcAfter))
    (key : GoString × GoString) :
    after.synchs key +
        (pcAfter.uncounted && (SynchPc.finishing result : SynchPc rt).outcome == some key).toNat =
      m.synchs key +
        (pc.uncounted && (SynchPc.finishing result : SynchPc rt).outcome == some key).toNat := by
  cases pc with
  | fresh =>
      cases stepped
      rfl
  | timed =>
      cases result with
      | none =>
          cases stepped
          exact countSynch_value m.synchGauge statusCompleted [] key
      | some err =>
          cases stepped
          exact countSynch_value m.synchGauge statusFailed err.text key
  | counted =>
      cases stepped
      rfl
  | setting rest =>
      cases rest <;> cases stepped
      rfl

/-- The call of the thread has the outcome and is still to count it. -/
def MeteredState.uncounted (state : MeteredState rt W) (key : GoString × GoString)
    (thread : Thread) : Bool :=
  (state.reports thread).uncounted && (state.system.threads thread).outcome == some key

/-- The synchronizations with an outcome: those that are counted and those that are
still to count. -/
def MeteredState.synchsWith (state : MeteredState rt W) (key : GoString × GoString) : Nat :=
  state.synchMetrics.synchs key + (state.uncounted key .startup).toNat +
    (state.uncounted key .worker).toNat

def MeteredLabel.concludes (key : GoString × GoString) : MeteredLabel W → Bool
  | .act label =>
      label.concludesFor .startup == some key || label.concludesFor .worker == some key
  | _ => false

theorem concludes_toNat (key : GoString × GoString) (inner : StartupLabel W) :
    ((MeteredLabel.act inner).concludes key).toNat =
      (inner.concludesFor .startup == some key).toNat +
        (inner.concludesFor .worker == some key).toNat := by
  cases inner with
  | startupSynch action =>
      change (action.concludes == some key || false).toNat =
        (action.concludes == some key).toNat + 0
      rw [Bool.or_false]
      rfl
  | workerSynch action => exact (Nat.zero_add _).symm
  | _ => rfl

theorem MeteredInvariant.fresh_of_outcome (holds : MeteredInvariant resources state)
    {thread : Thread} (undecided : (state.system.threads thread).outcome = none) :
    state.reports thread = .fresh := by
  by_contra begun
  exact (outcome_finishing _).mpr (holds.finishing thread begun) undecided

private theorem uncounted_plain (holds : MeteredInvariant resources state)
    {inner : StartupLabel W} {reached : StartupState rt W}
    (plain : ∀ thread, inner.role ≠ .reset thread)
    (moved : (startupMachine resources).step state.system inner = some reached)
    (key : GoString × GoString) (thread : Thread) :
    ((state.reports thread).uncounted &&
        (reached.threads thread).outcome == some key).toNat =
      (state.uncounted key thread).toNat + (inner.concludesFor thread == some key).toNat := by
  obtain ⟨untimed, effect, ticked⟩ := startupMachine_effect resources moved
  have outcome := outcome_step holds.system.wired plain effect thread
  subst ticked
  change ((state.reports thread).uncounted &&
    (untimed.threads thread).outcome == some key).toNat = _
  rcases outcome with ⟨before, after⟩ | ⟨same, silent⟩
  · have fresh : state.reports thread = .fresh := holds.fresh_of_outcome before
    unfold MeteredState.uncounted
    rw [fresh, before, after]
    exact (Nat.zero_add _).symm
  · unfold MeteredState.uncounted
    rw [same, silent]
    exact (Nat.add_zero _).symm

private theorem synchsWith_plain (holds : MeteredInvariant resources state)
    {inner : StartupLabel W} {reached : StartupState rt W}
    (plain : ∀ thread, inner.role ≠ .reset thread)
    (moved : (startupMachine resources).step state.system inner = some reached)
    (key : GoString × GoString) :
    state.synchMetrics.synchs key +
        ((state.reports .startup).uncounted &&
          (reached.threads .startup).outcome == some key).toNat +
        ((state.reports .worker).uncounted &&
          (reached.threads .worker).outcome == some key).toNat =
      state.synchsWith key + ((MeteredLabel.act inner).concludes key).toNat := by
  rw [uncounted_plain holds plain moved, uncounted_plain holds plain moved, concludes_toNat]
  unfold MeteredState.synchsWith
  omega

theorem eq_setting_of_ended {pc : ReportPc} (finished : pc.ended = true) : pc = .setting [] := by
  cases pc with
  | setting rest =>
      cases rest with
      | nil => rfl
      | cons entry rest => cases finished
  | _ => cases finished

private theorem uncounted_released {inner : StartupLabel W} {thread : Thread}
    {reached : StartupState rt W} (resets : inner.role = .reset thread)
    (finished : (state.reports thread).ended = true)
    (moved : (startupMachine resources).step state.system inner = some reached)
    (key : GoString × GoString) (other : Thread) :
    MeteredState.uncounted
        { state with
          system := reached
          reports := Function.update state.reports thread .fresh } key other =
      state.uncounted key other := by
  obtain ⟨untimed, effect, ticked⟩ := startupMachine_effect resources moved
  obtain ⟨⟨result, _, after⟩, others, _⟩ := reset_step resets effect
  subst ticked
  unfold MeteredState.uncounted
  change ((Function.update state.reports thread .fresh other).uncounted &&
    (untimed.threads other).outcome == some key) = _
  by_cases same : other = thread
  · rw [same, after, eq_setting_of_ended finished]
    exact Bool.and_false _
  · rw [Function.update_of_ne same, others other same]

theorem synchsWith_step (holds : MeteredInvariant resources state)
    (stepped : (meteredMachine resources).step state label = some next)
    (key : GoString × GoString) :
    next.synchsWith key = state.synchsWith key + (label.concludes key).toNat := by
  cases meteredStep_effect resources stepped with
  | moved inner reached plain moved =>
      exact synchsWith_plain holds (by rw [plain]; nofun) moved key
  | timerFired inner reached timer moved =>
      exact synchsWith_plain holds (by rw [timer]; nofun) moved key
  | handled index notification reached moved =>
      exact synchsWith_plain holds (fun _ same => by cases same) moved key
  | released inner thread reached resets finished moved =>
      obtain ⟨untimed, effect, ticked⟩ := startupMachine_effect resources moved
      obtain ⟨_, _, silent, _⟩ := reset_step resets effect
      have unmoved := uncounted_released resets finished moved key
      rw [concludes_toNat, silent .startup, silent .worker]
      unfold MeteredState.synchsWith
      rw [unmoved, unmoved]
      rfl
  | requestCounted index event queued found => rfl
  | synchReported thread reporting result after at_ reported =>
      have counted : after.1.synchs key +
          ((state.reported thread after).uncounted key thread).toNat =
            state.synchMetrics.synchs key + (state.uncounted key thread).toNat := by
        have report := @reportStep_synchs rt _ _ _ _ _ _ _ reported key
        unfold MeteredState.uncounted MeteredState.reported
        simp only [Function.update_self, at_]
        exact report
      have others : ∀ other, other ≠ thread →
          (state.reported thread after).uncounted key other = state.uncounted key other := by
        intro other different
        unfold MeteredState.uncounted MeteredState.reported
        simp only [Function.update_of_ne different]
      change (state.reported thread after).synchsWith key = state.synchsWith key + 0
      unfold MeteredState.synchsWith
      change after.1.synchs key + _ + _ = _
      cases thread with
      | startup =>
          rw [others .worker (by decide)]
          omega
      | worker =>
          rw [others .startup (by decide)]
          omega

def completedSeries : GoString × GoString := (statusCompleted, [])

theorem failed_ne_completedSeries (text : GoString) :
    (some (statusFailed, text) == some completedSeries) = false := by
  apply beq_false_of_ne
  intro same
  have statuses : statusFailed = statusCompleted := congrArg Prod.fst (Option.some.inj same)
  exact absurd statuses (by decide)

theorem synchStep_publishes {shared after : Shared rt W} {pc pcAfter : SynchPc rt}
    {action : SynchAction}
    (stepped : synchStep resources shared pc action = some (after, pcAfter)) :
    after.publications.length =
        shared.publications.length + (action.concludes == some completedSeries).toNat ∧
      ((action.concludes == some completedSeries) = false →
        after.cache.accessCache = shared.cache.accessCache) := by
  cases synchStep_effect resources stepped with
  | restocked snapshot =>
      refine ⟨?_, ?_⟩
      · change (shared.publications ++ [snapshot]).length = shared.publications.length + 1
        rw [List.length_append]
        rfl
      · intro differs
        exact absurd differs (by decide)
  | listFailed cause =>
      refine ⟨?_, fun _ => rfl⟩
      rw [SynchAction.concludes, failed_ne_completedSeries]
      rfl
  | expired ns todo snapshot cause =>
      refine ⟨?_, fun _ => rfl⟩
      rw [SynchAction.concludes, failed_ne_completedSeries]
      rfl
  | _ => exact ⟨rfl, fun _ => rfl⟩

theorem publishes_step {system reached : StartupState rt W} {inner : StartupLabel W}
    (moved : (startupMachine resources).step system inner = some reached) :
    reached.shared.publications.length = system.shared.publications.length +
        ((MeteredLabel.act inner).concludes completedSeries).toNat ∧
      ((MeteredLabel.act inner).concludes completedSeries = false →
        reached.shared.cache.accessCache = system.shared.cache.accessCache) := by
  obtain ⟨untimed, effect, ticked⟩ := startupMachine_effect resources moved
  subst ticked
  cases effect with
  | startupSynched action shared pc now stepped =>
      have published := synchStep_publishes stepped
      change _ = _ + (action.concludes == some completedSeries || false).toNat ∧
        ((action.concludes == some completedSeries || false) = false → _)
      rw [Bool.or_false]
      exact published
  | workerSynched action shared pc now stepped =>
      have published := synchStep_publishes stepped
      exact published
  | _ => exact ⟨rfl, fun _ => rfl⟩

/-! ### Gauges -/

def ReportPc.ungauged : ReportPc → Bool
  | .setting _ => false
  | _ => true

def ReportPc.rest : ReportPc → List (Sigma fun _ : GoString => Nat)
  | .setting rest => rest
  | _ => []

/-- The call of the thread has published and is still to set the gauge of the
subjects. -/
def MeteredState.ungauged (state : MeteredState rt W) (thread : Thread) : Bool :=
  (state.reports thread).ungauged &&
    (state.system.threads thread).outcome == some completedSeries

def MeteredState.pendingPairs (state : MeteredState rt W) :
    List (Sigma fun _ : GoString => Nat) :=
  (state.reports .startup).rest ++ (state.reports .worker).rest

/-- The gauges tell the keys of the data and, once the pending pairs are set, the
pairs of its group/kinds. -/
structure AccessCacheMetrics.Gauges (m : AccessCacheMetrics)
    (pending : List (Sigma fun _ : GoString => Nat)) (data : AccessData) : Prop where
  subjects : m.subjectCounter = data.keys.card
  pairs : ∀ gk ∈ groupKinds data,
    ((GoMap.assignAll pending m.subjectNamespacePairsCounter).lookup gk).getD 0 = pairsIn data gk

def MeteredState.gauged (state : MeteredState rt W) : Prop :=
  (∀ thread, state.ungauged thread = false) →
    state.synchMetrics.Gauges state.pendingPairs state.data

theorem gauged_initial (world : W) : (MeteredState.initial rt world).gauged := by
  intro _gauged
  constructor
  · rfl
  · intro gk member
    cases member

theorem MeteredInvariant.pendingPairs_eq (holds : MeteredInvariant resources state)
    {thread : Thread} {result : Option SynchError}
    (at_ : state.system.threads thread = .finishing result) :
    state.pendingPairs = (state.reports thread).rest := by
  have alone : ∀ other, other ≠ thread → state.reports other = .fresh := by
    intro other different
    by_contra begun
    obtain ⟨otherResult, otherAt⟩ := holds.finishing other begun
    refine different (holds.system.exclusive.unique other thread ?_ ?_)
    · rw [otherAt]
      rfl
    · rw [at_]
      rfl
  unfold MeteredState.pendingPairs
  cases thread with
  | startup =>
      rw [alone .worker (by decide)]
      exact List.append_nil _
  | worker =>
      rw [alone .startup (by decide)]
      rfl

theorem gauges_set (reporting : Reporting) (data : AccessData) (m : AccessCacheMetrics) :
    ({ m with subjectCounter := (reporting.visit data).entries.length } :
        AccessCacheMetrics).Gauges
      (reporting.order.arrange ((reporting.visit data).entries.foldl addPairs ∅).entries)
      data := by
  have collected := collect_pairs m
    { duration := reporting.duration, cacheData := reporting.visit data, err := none,
      order := reporting.order } rfl
  simp only [reporting.visit_same] at collected
  constructor
  · calc (reporting.visit data).entries.length
        = ((reporting.visit data).entries.map Sigma.fst).length := by rw [List.length_map]
      _ = (reporting.visit data).toFinmap.keys.card := rfl
      _ = data.keys.card := by rw [reporting.visit_same]
  · intro gk member
    have pairs := collected gk
    rw [if_pos member] at pairs
    exact pairs

private theorem gauged_plain (holds : MeteredInvariant resources state) (gauged : state.gauged)
    {inner : StartupLabel W} {reached : StartupState rt W}
    (plain : ∀ thread, inner.role ≠ .reset thread)
    (moved : (startupMachine resources).step state.system inner = some reached)
    (set : ∀ thread, ((state.reports thread).ungauged &&
      (reached.threads thread).outcome == some completedSeries) = false) :
    state.synchMetrics.Gauges state.pendingPairs
      (reached.shared.cache.accessCache.data.getD ∅) := by
  have each : ∀ thread, state.ungauged thread = false ∧
      (inner.concludesFor thread == some completedSeries) = false := by
    intro thread
    have reachedSet := set thread
    obtain ⟨untimed, effect, ticked⟩ := startupMachine_effect resources moved
    have outcome := outcome_step holds.system.wired plain effect thread
    subst ticked
    change ((state.reports thread).ungauged &&
      (untimed.threads thread).outcome == some completedSeries) = false at reachedSet
    unfold MeteredState.ungauged
    rcases outcome with ⟨before, after⟩ | ⟨same, silent⟩
    · rw [holds.fresh_of_outcome before, after] at reachedSet
      rw [before]
      exact ⟨Bool.and_false _, reachedSet⟩
    · rw [same] at reachedSet
      rw [silent]
      exact ⟨reachedSet, rfl⟩
  have silent : (MeteredLabel.act inner).concludes completedSeries = false := by
    change (_ || _) = false
    rw [(each .startup).2, (each .worker).2]
    rfl
  rw [(publishes_step moved).2 silent]
  exact gauged (fun thread => (each thread).1)

/-- The gauge of the subjects is set in one step of a report; the others ask for
nothing new. -/
private theorem reportStep_gauges {reporting : Reporting} {data : AccessData}
    {result : Option SynchError} {m after : AccessCacheMetrics} {pc pcAfter : ReportPc}
    (stepped : reportStep reporting data result m pc = some (after, pcAfter))
    (set : (pcAfter.ungauged &&
      (SynchPc.finishing result : SynchPc rt).outcome == some completedSeries) = false)
    (unset : (pc.ungauged &&
      (SynchPc.finishing result : SynchPc rt).outcome == some completedSeries) = false →
      m.Gauges pc.rest data) :
    after.Gauges pcAfter.rest data := by
  cases pc with
  | fresh =>
      cases stepped
      obtain ⟨subjects, pairs⟩ := unset set
      exact ⟨subjects, pairs⟩
  | timed =>
      cases result with
      | none =>
          cases stepped
          obtain ⟨subjects, pairs⟩ := unset set
          exact ⟨subjects, pairs⟩
      | some err =>
          cases stepped
          obtain ⟨subjects, pairs⟩ := unset (failed_ne_completedSeries err.text)
          exact ⟨subjects, pairs⟩
  | counted =>
      cases stepped
      exact gauges_set reporting data m
  | setting rest =>
      cases rest with
      | nil => cases stepped
      | cons entry rest =>
          cases stepped
          obtain ⟨subjects, pairs⟩ := unset set
          exact ⟨subjects, pairs⟩

private theorem gauged_reported (holds : MeteredInvariant resources state)
    (gauged : state.gauged) {thread : Thread} {reporting : Reporting}
    {result : Option SynchError} {after : AccessCacheMetrics} {pcAfter : ReportPc}
    (at_ : state.system.threads thread = .finishing result)
    (stepped : reportStep reporting state.data result state.synchMetrics
      (state.reports thread) = some (after, pcAfter)) :
    (state.reported thread (after, pcAfter)).gauged := by
  intro set
  have pending := holds.pendingPairs_eq at_
  have alone : (state.reported thread (after, pcAfter)).pendingPairs = pcAfter.rest := by
    rw [(holds.reported at_ (after, pcAfter)).pendingPairs_eq at_]
    change (Function.update state.reports thread pcAfter thread).rest = _
    rw [Function.update_self]
  have here : (pcAfter.ungauged &&
      (SynchPc.finishing result : SynchPc rt).outcome == some completedSeries) = false := by
    have setHere := set thread
    unfold MeteredState.ungauged MeteredState.reported at setHere
    simp only [Function.update_self, at_] at setHere
    exact setHere
  change after.Gauges (state.reported thread (after, pcAfter)).pendingPairs state.data
  rw [alone]
  apply reportStep_gauges stepped here
  intro setBefore
  rw [← pending]
  apply gauged
  intro other
  by_cases same : other = thread
  · unfold MeteredState.ungauged
    rw [same, at_]
    exact setBefore
  · have setOther := set other
    unfold MeteredState.ungauged MeteredState.reported at setOther
    simp only [Function.update_of_ne same] at setOther
    exact setOther

theorem gauged_step (holds : MeteredInvariant resources state) (gauged : state.gauged)
    (stepped : (meteredMachine resources).step state label = some next) : next.gauged := by
  cases meteredStep_effect resources stepped with
  | moved inner reached plain moved =>
      exact gauged_plain holds gauged (by rw [plain]; nofun) moved
  | timerFired inner reached timer moved =>
      exact gauged_plain holds gauged (by rw [timer]; nofun) moved
  | handled index notification reached moved =>
      exact gauged_plain holds gauged (fun _ same => by cases same) moved
  | released inner thread reached resets finished moved =>
      intro set
      obtain ⟨untimed, effect, ticked⟩ := startupMachine_effect resources moved
      obtain ⟨⟨result, at_, _after⟩, others, _, _, sameCache⟩ := reset_step resets effect
      subst ticked
      have done := eq_setting_of_ended finished
      have nothing : state.pendingPairs = [] := by
        rw [holds.pendingPairs_eq at_, done]
        rfl
      have unset : ∀ other, state.ungauged other = false := by
        intro other
        by_cases same : other = thread
        · unfold MeteredState.ungauged
          rw [same, done]
          rfl
        · have setOther := set other
          unfold MeteredState.ungauged at setOther
          simp only [Function.update_of_ne same] at setOther
          change ((state.reports other).ungauged &&
            (untimed.threads other).outcome == some completedSeries) = false at setOther
          rw [others other same] at setOther
          exact setOther
      have cleared : MeteredState.pendingPairs
          { state with
            system := untimed.tick
            reports := Function.update state.reports thread .fresh } = [] := by
        unfold MeteredState.pendingPairs at nothing ⊢
        obtain ⟨startup, worker⟩ := List.append_eq_nil_iff.mp nothing
        cases thread with
        | startup =>
            simp only [Function.update_self]
            rw [Function.update_of_ne (by decide), worker]
            rfl
        | worker =>
            simp only [Function.update_self]
            rw [Function.update_of_ne (by decide), startup]
            rfl
      rw [cleared, ← nothing]
      change state.synchMetrics.Gauges _ (untimed.shared.cache.accessCache.data.getD ∅)
      rw [sameCache]
      exact gauged unset
  | requestCounted index event queued found => exact gauged
  | synchReported thread reporting result after at_ reported =>
      exact gauged_reported holds gauged at_ reported

theorem publications_step (stepped : (meteredMachine resources).step state label = some next) :
    next.system.shared.publications.length =
      state.system.shared.publications.length + (label.concludes completedSeries).toNat := by
  cases meteredStep_effect resources stepped with
  | moved inner reached plain moved => exact (publishes_step moved).1
  | timerFired inner reached timer moved => exact (publishes_step moved).1
  | handled index notification reached moved => exact (publishes_step moved).1
  | released inner thread reached resets finished moved => exact (publishes_step moved).1
  | requestCounted index event queued found => rfl
  | synchReported thread reporting result after at_ reported => rfl

/-- In every interleaving each synchronization that got the flag is counted once,
under its outcome; those counted as completed, with the ones still to count, are
the publications; and but for the time between a publication and the step that sets
the gauge of the subjects, that gauge and the pairs, with those still to be set, are
right for every group/kind of the published data. -/
theorem synch_metrics_account (resources : ResourceReader W) (world : W)
    (labels : List (MeteredLabel W)) (state : MeteredState rt W)
    (ran : (meteredMachine resources).run (MeteredState.initial rt world) labels = some state) :
    (∀ key, state.synchsWith key = labels.countP (MeteredLabel.concludes key)) ∧
    state.synchsWith completedSeries = state.system.shared.publications.length ∧
    state.gauged := by
  have start : MeteredInvariant resources (MeteredState.initial rt world) :=
    meteredInvariant_initial resources world
  have counted : ∀ key, state.synchsWith key = labels.countP (MeteredLabel.concludes key) := by
    intro key
    have adds : ∀ (current : MeteredState rt W) (label : MeteredLabel W)
        (reached : MeteredState rt W), MeteredInvariant resources current →
        (meteredMachine resources).step current label = some reached →
        (reached.synchsWith key : Int) =
          current.synchsWith key + (label.concludes key).toNat := by
      intro current label reached holds stepped
      have added := synchsWith_step holds stepped key
      omega
    have total := (meteredMachine resources).tally_run
      (fun _ _ _ holds stepped => meteredInvariant_step holds stepped) adds start ran
    have nothing : (MeteredState.initial rt world).synchsWith key = 0 := rfl
    omega
  have published : state.system.shared.publications.length =
      labels.countP (MeteredLabel.concludes completedSeries) := by
    have adds : ∀ (current : MeteredState rt W) (label : MeteredLabel W)
        (reached : MeteredState rt W), True →
        (meteredMachine resources).step current label = some reached →
        (reached.system.shared.publications.length : Int) =
          current.system.shared.publications.length +
            (label.concludes completedSeries).toNat := by
      intro current label reached _ stepped
      have added := publications_step stepped
      omega
    have total := (meteredMachine resources).tally_run (fun _ _ _ _ _ => trivial) adds trivial ran
    have nothing : (MeteredState.initial rt world).system.shared.publications.length = 0 := rfl
    omega
  have gauged : MeteredInvariant resources state ∧ state.gauged := by
    apply (meteredMachine resources).invariant_run _ ⟨start, gauged_initial world⟩
      ((meteredMachine resources).along_of_forall (fun _ _ _ => trivial) _) ran
    intro current label reached holds _ stepped
    exact ⟨meteredInvariant_step holds.1 stepped, gauged_step holds.1 holds.2 stepped⟩
  exact ⟨counted, (counted completedSeries).trans published.symm, gauged.2⟩

private theorem visit_exists (data : AccessData) :
    ∃ visited : VisitedAccessData, visited.toFinmap = data := by
  induction data using Finmap.induction_on with
  | _ visited => exact ⟨visited, rfl⟩

private noncomputable def someReporting : Reporting :=
  { duration := 3
    visit := fun data => (visit_exists data).choose
    visit_same := fun data => (visit_exists data).choose_spec
    order := RangeOrder.asKept _ }

private noncomputable def meteredSynch : List (MeteredLabel Bool) :=
  (startupUntilSynch 0).map .act ++
    [ .act (.startupSynch .compareAndSwap), .act (.startupSynch .list),
      .act (.startupSynch .computeNamespace), .act (.startupSynch .restock),
      .collectSynch .startup someReporting, .collectSynch .startup someReporting ]

theorem synch_metrics_account_startup :
    ∃ state : MeteredState Runtime.reference Bool,
      (meteredMachine oneTenant).run (MeteredState.initial Runtime.reference true)
        meteredSynch = some state ∧
      state.system.shared.publications.length = 1 ∧
      state.synchMetrics.synchs completedSeries = 1 ∧
      state.synchMetrics.subjectCounter = 0 ∧
      state.synchsWith completedSeries = state.system.shared.publications.length ∧
      state.gauged :=
  ⟨_, rfl, rfl, rfl, rfl,
    (synch_metrics_account oneTenant true meteredSynch _ rfl).2.1,
    (synch_metrics_account oneTenant true meteredSynch _ rfl).2.2⟩

end NamespaceLister
