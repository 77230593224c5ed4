/-
The metrics of the synchronizations.

A gauge vector keeps a series for each label it was ever set for.  The update
after a synchronization visits the group/kinds of the new access data only, so
the value of a series is the count of the last data that had its group/kind.
`pairsGauge_after` says so for every sequence of reports; the agreement with the
last data is read off it.
-/

import NamespaceLister.SynchOutcome

namespace NamespaceLister

open Library

/-- The gauges and counters that a synchronization updates.  A vector holds the
series that exist, by the values of their labels. -/
structure AccessCacheMetrics where
  subjectCounter : Nat
  subjectNamespacePairsCounter : GoMap GoString Nat
  synchGauge : GoMap (GoString × GoString) Nat
  synchDuration : GoMap GoString (List Int)

def NewAccessCacheMetrics : AccessCacheMetrics :=
  { subjectCounter := 0
    subjectNamespacePairsCounter := ∅
    synchGauge := ∅
    synchDuration := ∅ }

/-- Access data together with the order in which a `range` loop visits it. -/
abbrev VisitedAccessData := AList (fun _ : Subject => List Namespace)

abbrev SubjectEntry := Sigma fun _ : Subject => List Namespace

def subjectGK (s : Subject) : GoString :=
  GoString.trimLeft (s.apiGroup ++ GoString.ofLiteral "/" ++ s.kind) 47

def addPairs (gkNsPairCount : AList (fun _ : GoString => Nat))
    (entry : SubjectEntry) : AList (fun _ : GoString => Nat) :=
  gkNsPairCount.insert (subjectGK entry.1)
    ((gkNsPairCount.lookup (subjectGK entry.1)).getD 0 + entry.2.length)

def statusFailed : GoString := "failed"

def statusCompleted : GoString := "completed"

def observe (synchDuration : GoMap GoString (List Int)) (status : GoString) (duration : Int) :
    GoMap GoString (List Int) :=
  synchDuration.insert status ((synchDuration.lookup status).getD [] ++ [duration])

def countSynch (synchGauge : GoMap (GoString × GoString) Nat) (status err : GoString) :
    GoMap (GoString × GoString) Nat :=
  synchGauge.insert (status, err) ((synchGauge.lookup (status, err)).getD 0 + 1)

/-- `CollectSynchMetrics`; `order` is the order in which its second loop visits
the counts. -/
def AccessCacheMetrics.CollectSynchMetrics (s : AccessCacheMetrics)
    (order : RangeOrder (Sigma fun _ : GoString => Nat)) (duration : Int)
    (cacheData : VisitedAccessData) (err : Option GoString) : AccessCacheMetrics :=
  match err with
  | some text =>
      { s with
        synchDuration := observe s.synchDuration statusFailed duration
        synchGauge := countSynch s.synchGauge statusFailed text }
  | none =>
      let gkNsPairCount := cacheData.entries.foldl addPairs ∅
      { synchDuration := observe s.synchDuration statusCompleted duration
        synchGauge := countSynch s.synchGauge statusCompleted []
        subjectCounter := cacheData.entries.length
        subjectNamespacePairsCounter :=
          GoMap.assignAll (order.arrange gkNsPairCount.entries) s.subjectNamespacePairsCounter }

/-- The value of a series, 0 where it does not exist. -/
def AccessCacheMetrics.pairsGauge (m : AccessCacheMetrics) (gk : GoString) : Nat :=
  (m.subjectNamespacePairsCounter.lookup gk).getD 0

structure SynchReport where
  duration : Int
  cacheData : VisitedAccessData
  err : Option GoString
  order : RangeOrder (Sigma fun _ : GoString => Nat)

def AccessCacheMetrics.collect (m : AccessCacheMetrics) (report : SynchReport) :
    AccessCacheMetrics :=
  m.CollectSynchMetrics report.order report.duration report.cacheData report.err

def metricsAfter (reports : List SynchReport) : AccessCacheMetrics :=
  reports.foldl AccessCacheMetrics.collect NewAccessCacheMetrics

/-! ### What the gauges should say -/

def groupKinds (data : AccessData) : Finset GoString :=
  data.keys.image subjectGK

/-- The number of pairs of a subject of the group/kind and one of its namespaces. -/
def pairsIn (data : AccessData) (gk : GoString) : Nat :=
  ((data.entries.filter (fun entry => subjectGK entry.1 = gk)).map
    (fun entry => entry.2.length)).sum

def successes (reports : List SynchReport) : List AccessData :=
  reports.filterMap (fun report =>
    if report.err = none then some report.cacheData.toFinmap else none)

/-- The access data of the last call without an error; without one there is no data. -/
def lastData (history : List AccessData) : AccessData :=
  history.getLast?.getD ∅

def lastWith (history : List AccessData) (gk : GoString) : Option AccessData :=
  history.reverse.find? (fun data => gk ∈ groupKinds data)

/-! ### One report -/

theorem pairsIn_of_absent (data : AccessData) (gk : GoString) (absent : gk ∉ groupKinds data) :
    pairsIn data gk = 0 := by
  have nothing : data.entries.filter (fun entry => subjectGK entry.1 = gk) = 0 := by
    rw [Multiset.filter_eq_nil]
    intro entry member same
    apply absent
    unfold groupKinds
    rw [Finset.mem_image]
    exact ⟨entry.1, Finmap.mem_keys.mpr (Multiset.mem_map_of_mem _ member), same⟩
  unfold pairsIn
  rw [nothing]
  rfl

private theorem lookup_addPairs (counts : AList (fun _ : GoString => Nat))
    (entry : SubjectEntry) (gk : GoString) :
    (addPairs counts entry).lookup gk =
      if subjectGK entry.1 = gk then some ((counts.lookup gk).getD 0 + entry.2.length)
      else counts.lookup gk := by
  unfold addPairs
  by_cases same : subjectGK entry.1 = gk
  · subst gk
    rw [if_pos rfl, AList.lookup_insert]
  · rw [if_neg same, AList.lookup_insert_ne (fun equal => same equal.symm)]

private theorem lookup_foldl_addPairs (entries : List SubjectEntry)
    (counts : AList (fun _ : GoString => Nat)) (gk : GoString) :
    (entries.foldl addPairs counts).lookup gk =
      if gk ∈ entries.map (fun entry => subjectGK entry.1) then
        some ((counts.lookup gk).getD 0 +
          (((entries : Multiset SubjectEntry).filter (fun entry => subjectGK entry.1 = gk)).map
            (fun entry => entry.2.length)).sum)
      else counts.lookup gk := by
  induction entries generalizing counts with
  | nil => rfl
  | cons entry rest ih =>
      rw [List.foldl_cons, ih, lookup_addPairs, List.map_cons, ← Multiset.cons_coe]
      by_cases same : subjectGK entry.1 = gk
      · rw [if_pos (List.mem_cons.mpr (Or.inl same.symm)), if_pos same,
          Multiset.filter_cons_of_pos (p := fun other : SubjectEntry => subjectGK other.1 = gk) _
            same,
          Multiset.map_cons, Multiset.sum_cons]
        by_cases later : gk ∈ rest.map (fun other => subjectGK other.1)
        · rw [if_pos later, Option.getD_some, Nat.add_assoc]
        · have nothing :
              (rest : Multiset SubjectEntry).filter (fun other => subjectGK other.1 = gk) = 0 := by
            rw [Multiset.filter_eq_nil]
            intro other member found
            exact later (List.mem_map.mpr ⟨other, member, found⟩)
          rw [if_neg later, nothing]
          rfl
      · have elsewhere : gk ∈ subjectGK entry.1 :: rest.map (fun other => subjectGK other.1) ↔
            gk ∈ rest.map (fun other => subjectGK other.1) := by
          rw [List.mem_cons, or_iff_right (Ne.symm same)]
        rw [if_neg same,
          Multiset.filter_cons_of_neg (p := fun other : SubjectEntry => subjectGK other.1 = gk) _
            same]
        by_cases later : gk ∈ rest.map (fun other => subjectGK other.1)
        · rw [if_pos later, if_pos (elsewhere.mpr later)]
        · rw [if_neg later, if_neg (fun member => later (elsewhere.mp member))]

private theorem lookup_pairCounts (cacheData : VisitedAccessData) (gk : GoString) :
    (cacheData.entries.foldl addPairs ∅).lookup gk =
      if gk ∈ groupKinds cacheData.toFinmap then some (pairsIn cacheData.toFinmap gk)
      else none := by
  have present : gk ∈ groupKinds cacheData.toFinmap ↔
      gk ∈ cacheData.entries.map (fun entry => subjectGK entry.1) := by
    unfold groupKinds
    simp only [Finset.mem_image, Finmap.mem_keys, Finmap.mem_def, AList.toFinmap_entries]
    rw [List.mem_map]
    constructor
    · rintro ⟨sub, member, same⟩
      obtain ⟨entry, inside, key⟩ := List.mem_map.mp member
      subst key
      exact ⟨entry, inside, same⟩
    · rintro ⟨entry, inside, same⟩
      exact ⟨entry.1, List.mem_map_of_mem inside, same⟩
  rw [lookup_foldl_addPairs]
  by_cases found : gk ∈ cacheData.entries.map (fun entry => subjectGK entry.1)
  · rw [if_pos found, if_pos (present.mpr found), AList.lookup_empty, Option.getD_none,
      Nat.zero_add]
    rfl
  · rw [if_neg found, if_neg (fun member => found (present.mp member)), AList.lookup_empty]

theorem collect_failed (m : AccessCacheMetrics) (report : SynchReport)
    (failed : report.err ≠ none) :
    (m.collect report).subjectCounter = m.subjectCounter ∧
      (m.collect report).subjectNamespacePairsCounter = m.subjectNamespacePairsCounter := by
  cases outcome : report.err with
  | none => exact absurd outcome failed
  | some text =>
      unfold AccessCacheMetrics.collect AccessCacheMetrics.CollectSynchMetrics
      rw [outcome]
      exact ⟨rfl, rfl⟩

theorem collect_subjects (m : AccessCacheMetrics) (report : SynchReport)
    (succeeded : report.err = none) :
    (m.collect report).subjectCounter = report.cacheData.toFinmap.keys.card := by
  unfold AccessCacheMetrics.collect AccessCacheMetrics.CollectSynchMetrics
  rw [succeeded]
  change report.cacheData.entries.length = (report.cacheData.entries.map Sigma.fst).length
  rw [List.length_map]

theorem collect_pairs (m : AccessCacheMetrics) (report : SynchReport)
    (succeeded : report.err = none) (gk : GoString) :
    (m.collect report).pairsGauge gk =
      if gk ∈ groupKinds report.cacheData.toFinmap then pairsIn report.cacheData.toFinmap gk
      else m.pairsGauge gk := by
  have visited := report.order.perm (report.cacheData.entries.foldl addPairs ∅).entries
  have distinct : (report.order.arrange
      (report.cacheData.entries.foldl addPairs ∅).entries).NodupKeys :=
    (List.perm_nodupKeys visited).mpr (report.cacheData.entries.foldl addPairs ∅).nodupKeys
  have counted : (report.order.arrange
      (report.cacheData.entries.foldl addPairs ∅).entries).dlookup gk =
        if gk ∈ groupKinds report.cacheData.toFinmap then
          some (pairsIn report.cacheData.toFinmap gk)
        else none :=
    (List.perm_dlookup gk distinct visited).trans (lookup_pairCounts report.cacheData gk)
  unfold AccessCacheMetrics.pairsGauge AccessCacheMetrics.collect
    AccessCacheMetrics.CollectSynchMetrics
  rw [succeeded]
  change ((GoMap.assignAll _ _).lookup gk).getD 0 = _
  rw [GoMap.lookup_assignAll _ distinct, counted]
  by_cases present : gk ∈ groupKinds report.cacheData.toFinmap
  · rw [if_pos present, if_pos present, Option.some_or, Option.getD_some]
  · rw [if_neg present, if_neg present, Option.none_or]

/-! ### Sequences of reports -/

private theorem metricsAfter_concat (reports : List SynchReport) (report : SynchReport) :
    metricsAfter (reports ++ [report]) = (metricsAfter reports).collect report := by
  unfold metricsAfter
  rw [List.foldl_append]
  rfl

private theorem successes_concat_failed (reports : List SynchReport) (report : SynchReport)
    (failed : report.err ≠ none) : successes (reports ++ [report]) = successes reports := by
  unfold successes
  simp [failed]

private theorem successes_concat_succeeded (reports : List SynchReport) (report : SynchReport)
    (succeeded : report.err = none) :
    successes (reports ++ [report]) = successes reports ++ [report.cacheData.toFinmap] := by
  unfold successes
  simp [succeeded]

theorem lastData_concat (history : List AccessData) (data : AccessData) :
    lastData (history ++ [data]) = data := by
  unfold lastData
  rw [List.getLast?_append]
  rfl

private theorem lastData_mem_later (earlier later : List AccessData) (data : AccessData)
    (nonempty : later ≠ []) : lastData (earlier ++ data :: later) ∈ later := by
  rcases List.eq_nil_or_concat later with empty | ⟨before, last, shape⟩
  · exact absurd empty nonempty
  · rw [List.concat_eq_append] at shape
    subst later
    rw [← List.cons_append, ← List.append_assoc, lastData_concat]
    exact List.mem_append_right before List.mem_cons_self

private theorem lastWith_concat (history : List AccessData) (data : AccessData) (gk : GoString) :
    lastWith (history ++ [data]) gk =
      if gk ∈ groupKinds data then some data else lastWith history gk := by
  unfold lastWith
  rw [List.reverse_append]
  change List.find? _ (data :: history.reverse) = _
  by_cases present : gk ∈ groupKinds data
  · rw [if_pos present, List.find?_cons_of_pos (by simpa using present)]
  · rw [if_neg present, List.find?_cons_of_neg (by simpa using present)]

theorem subjectCounter_after (reports : List SynchReport) :
    (metricsAfter reports).subjectCounter = (lastData (successes reports)).keys.card := by
  induction reports using List.reverseRecOn with
  | nil => rfl
  | append_singleton reports report ih =>
      rw [metricsAfter_concat]
      by_cases succeeded : report.err = none
      · rw [collect_subjects _ _ succeeded, successes_concat_succeeded _ _ succeeded,
          lastData_concat]
      · rw [(collect_failed _ _ succeeded).1, successes_concat_failed _ _ succeeded, ih]

/-- A series keeps the count of the last data that had its group/kind. -/
theorem pairsGauge_after (reports : List SynchReport) (gk : GoString) :
    (metricsAfter reports).pairsGauge gk =
      match lastWith (successes reports) gk with
      | some data => pairsIn data gk
      | none => 0 := by
  induction reports using List.reverseRecOn with
  | nil => rfl
  | append_singleton reports report ih =>
      rw [metricsAfter_concat]
      by_cases succeeded : report.err = none
      · rw [collect_pairs _ _ succeeded, successes_concat_succeeded _ _ succeeded, lastWith_concat]
        by_cases present : gk ∈ groupKinds report.cacheData.toFinmap
        · rw [if_pos present, if_pos present]
        · rw [if_neg present, if_neg present, ih]
      · unfold AccessCacheMetrics.pairsGauge at ih ⊢
        rw [(collect_failed _ _ succeeded).2, successes_concat_failed _ _ succeeded, ih]

/-! ### Agreement with the last access data -/

def AccessCacheMetrics.describes (m : AccessCacheMetrics) (data : AccessData) : Prop :=
  m.subjectCounter = data.keys.card ∧ ∀ gk, m.pairsGauge gk = pairsIn data gk

/-- The gauges describe the data of the last successful call, and no failed
call of the sequence changed them. -/
def metricsAgree (reports : List SynchReport) : Prop :=
  (metricsAfter reports).describes (lastData (successes reports)) ∧
    ∀ before report rest, reports = before ++ report :: rest → report.err ≠ none →
      (metricsAfter (before ++ [report])).subjectCounter = (metricsAfter before).subjectCounter ∧
        ∀ gk, (metricsAfter (before ++ [report])).pairsGauge gk =
          (metricsAfter before).pairsGauge gk

/-- A group/kind that has pairs in data other than the last is a group/kind of
some later data too. -/
def groupKindsRecur (history : List AccessData) : Prop :=
  ∀ earlier data later, history = earlier ++ data :: later → later ≠ [] →
    ∀ gk, pairsIn data gk ≠ 0 → ∃ next ∈ later, gk ∈ groupKinds next

private theorem lastWith_split (earlier later : List AccessData) (data : AccessData)
    (gk : GoString) (present : gk ∈ groupKinds data)
    (absent : ∀ next ∈ later, gk ∉ groupKinds next) :
    lastWith (earlier ++ data :: later) gk = some data := by
  unfold lastWith
  rw [List.reverse_append, List.reverse_cons, List.append_assoc, List.find?_append]
  have nothing : later.reverse.find? (fun next => gk ∈ groupKinds next) = none := by
    rw [List.find?_eq_none]
    intro next member found
    exact absent next (List.mem_reverse.mp member) (of_decide_eq_true found)
  rw [nothing, Option.none_or]
  exact List.find?_cons_of_pos (by simpa using present)

private theorem split_of_lastWith (history : List AccessData) (data : AccessData) (gk : GoString)
    (found : lastWith history gk = some data) :
    gk ∈ groupKinds data ∧ ∃ earlier later, history = earlier ++ data :: later ∧
      ∀ next ∈ later, gk ∉ groupKinds next := by
  unfold lastWith at found
  rw [List.find?_eq_some_iff_append] at found
  obtain ⟨present, later, earlier, split, absent⟩ := found
  refine ⟨of_decide_eq_true present, earlier.reverse, later.reverse, ?_, ?_⟩
  · have reversed := congrArg List.reverse split
    rw [List.reverse_reverse] at reversed
    rw [reversed]
    simp
  · intro next member
    have outside := absent next (List.mem_reverse.mp member)
    simpa using outside

theorem pairsGauge_agrees_iff (reports : List SynchReport) :
    (∀ gk, (metricsAfter reports).pairsGauge gk = pairsIn (lastData (successes reports)) gk) ↔
      groupKindsRecur (successes reports) := by
  constructor
  · intro agree earlier data later split nonempty gk counted
    by_contra missing
    have absent : ∀ next ∈ later, gk ∉ groupKinds next :=
      fun next member present => missing ⟨next, member, present⟩
    have present : gk ∈ groupKinds data := by
      by_contra outside
      exact counted (pairsIn_of_absent data gk outside)
    have kept := agree gk
    rw [pairsGauge_after, split, lastWith_split earlier later data gk present absent] at kept
    have final := lastData_mem_later earlier later data nonempty
    rw [pairsIn_of_absent _ gk (absent _ final)] at kept
    exact counted kept
  · intro recur gk
    rw [pairsGauge_after]
    cases found : lastWith (successes reports) gk with
    | none =>
        symm
        apply pairsIn_of_absent
        intro present
        rcases List.eq_nil_or_concat (successes reports) with empty | ⟨before, last, shape⟩
        · rw [empty] at present
          cases present
        · rw [List.concat_eq_append] at shape
          rw [shape, lastData_concat] at present
          rw [shape, lastWith_concat, if_pos present] at found
          cases found
    | some data =>
        obtain ⟨_present, earlier, later, split, absent⟩ :=
          split_of_lastWith (successes reports) data gk found
        change pairsIn data gk = _
        by_cases nothingLater : later = []
        · rw [split, nothingLater, lastData_concat]
        · have final := lastData_mem_later earlier later data nothingLater
          rw [← split] at final
          rw [pairsIn_of_absent _ gk (absent _ final)]
          by_contra counted
          obtain ⟨next, member, present⟩ := recur earlier data later split nothingLater gk counted
          exact absent next member present

/-- The gauges agree with the last successful report exactly when every
group/kind with pairs comes back in a later successful report. -/
theorem metricsAgree_iff (reports : List SynchReport) :
    metricsAgree reports ↔ groupKindsRecur (successes reports) := by
  constructor
  · intro agree
    exact (pairsGauge_agrees_iff reports).mp agree.1.2
  · intro recur
    constructor
    · exact ⟨subjectCounter_after reports, (pairsGauge_agrees_iff reports).mpr recur⟩
    · intro before report rest _split failed
      have unchanged := collect_failed (metricsAfter before) report failed
      rw [metricsAfter_concat]
      constructor
      · exact unchanged.1
      · intro gk
        unfold AccessCacheMetrics.pairsGauge
        rw [unchanged.2]

private def developer : Subject :=
  { kind := userKind
    apiGroup := rbacGroupName
    name := "alice"
    nsName := [] }

private def reportOf (cacheData : VisitedAccessData) : SynchReport :=
  { duration := 12
    cacheData := cacheData
    err := none
    order := RangeOrder.asKept _ }

/-- The only user loses its only namespace: the next data is empty, and the
series of the users stays at 1. -/
private def lastUserLeaves : List SynchReport :=
  [reportOf (AList.singleton developer [bareNamespace "team-a"]), reportOf ∅]

theorem metricsAgree_stale : ¬ metricsAgree lastUserLeaves := by
  intro agree
  have stale := agree.1.2 "rbac.authorization.k8s.io/User"
  revert stale
  decide

/-! ### Synch with its metrics -/

def SynchError.text : SynchError → GoString
  | .synchAlreadyRunning => "Synch operation already running"
  | .listFailed cause => cause
  | .contextDone .canceled => "context canceled"
  | .contextDone .deadlineExceeded => "context deadline exceeded"

/-- What one call of `Synch` meets outside the cache: the observations of its
synchronization, how long it takes, and the visiting orders of the two loops of
the report. -/
structure SynchAttempt where
  obs : SynchObservations
  duration : Int
  visit : AccessData → VisitedAccessData
  visit_same : ∀ data, (visit data).toFinmap = data
  order : RangeOrder (Sigma fun _ : GoString => Nat)

def SynchAttempt.report (attempt : SynchAttempt) (result : Except SynchError AccessData) :
    SynchReport :=
  { duration := attempt.duration
    cacheData :=
      match result with
      | .error _ => ∅
      | .ok c => attempt.visit c
    err :=
      match result with
      | .error err => some err.text
      | .ok _ => none
    order := attempt.order }

structure MeteredCache where
  cache : SynchronizedAccessCache
  metrics : AccessCacheMetrics

def MeteredCache.Synch (rt : Runtime) (s : MeteredCache) (attempt : SynchAttempt) : MeteredCache :=
  if s.cache.synchronizing then s
  else
    let (after, result) := SynchronizedAccessCache.synch rt
      { s.cache with synchronizing := true } attempt.obs
    { cache := { after with synchronizing := false }
      metrics := s.metrics.collect (attempt.report result) }

theorem MeteredCache.Synch_cache (rt : Runtime) (s : MeteredCache) (attempt : SynchAttempt) :
    (s.Synch rt attempt).cache = (s.cache.Synch rt attempt.obs).1 := by
  unfold MeteredCache.Synch SynchronizedAccessCache.Synch
  split
  · rfl
  · rfl

/-- The metrics are those of a sequence of reports whose last successful one
gave the data that the cache holds. -/
def MeteredCache.Reported (s : MeteredCache) (reports : List SynchReport) : Prop :=
  s.metrics = metricsAfter reports ∧ s.cache.accessCache.data = (successes reports).getLast?

private theorem Reported_failed (s : MeteredCache) (reports : List SynchReport)
    (reported : s.Reported reports) (attempt : SynchAttempt) (err : SynchError) :
    MeteredCache.Reported
      { cache := { s.cache with synchronizing := false }
        metrics := s.metrics.collect (attempt.report (.error err)) }
      (reports ++ [attempt.report (.error err)]) := by
  constructor
  · rw [metricsAfter_concat, ← reported.1]
  · rw [successes_concat_failed _ _ (by simp [SynchAttempt.report]), ← reported.2]

theorem Reported_Synch (rt : Runtime) (s : MeteredCache) (attempt : SynchAttempt)
    (reports : List SynchReport) (reported : s.Reported reports) :
    ∃ added, (s.Synch rt attempt).Reported (reports ++ added) := by
  unfold MeteredCache.Synch
  cases flag : s.cache.synchronizing with
  | true =>
      rw [if_pos rfl]
      exact ⟨[], by rw [List.append_nil]; exact reported⟩
  | false =>
      rw [if_neg (by simp)]
      unfold SynchronizedAccessCache.synch
      cases listed : attempt.obs.listed with
      | error cause =>
          exact ⟨_, Reported_failed s reports reported attempt (.listFailed cause)⟩
      | ok nn =>
          cases completed : synchLoop rt attempt.obs 0 nn ∅ with
          | error err =>
              refine ⟨[attempt.report (.error err)], ?_⟩
              simp only [completed]
              exact Reported_failed s reports reported attempt err
          | ok c =>
              refine ⟨[attempt.report (.ok c)], ?_⟩
              simp only [completed]
              constructor
              · rw [metricsAfter_concat, ← reported.1]
              · rw [successes_concat_succeeded _ _ rfl, List.getLast?_append]
                simp [SynchAttempt.report, attempt.visit_same,
                  AtomicListRestockCache.restock]

def MeteredCache.new : MeteredCache :=
  { cache := SynchronizedAccessCache.new
    metrics := NewAccessCacheMetrics }

theorem Reported_run (rt : Runtime) (attempts : List SynchAttempt) :
    ∃ reports, (attempts.foldl (MeteredCache.Synch rt) MeteredCache.new).Reported reports := by
  induction attempts using List.reverseRecOn with
  | nil => exact ⟨[], rfl, rfl⟩
  | append_singleton attempts attempt ih =>
      obtain ⟨reports, reported⟩ := ih
      rw [List.foldl_append]
      obtain ⟨added, extended⟩ := Reported_Synch rt _ attempt reports reported
      exact ⟨reports ++ added, extended⟩

/-- In every run the subjects gauge is right, and so is the series of every
group/kind that the cache holds: only series of kinds that left can be stale. -/
theorem metered_run_describes (rt : Runtime) (attempts : List SynchAttempt) :
    let reached := attempts.foldl (MeteredCache.Synch rt) MeteredCache.new
    let published := reached.cache.accessCache.data.getD ∅
    reached.metrics.subjectCounter = published.keys.card ∧
      ∀ gk ∈ groupKinds published, reached.metrics.pairsGauge gk = pairsIn published gk := by
  intro reached published
  obtain ⟨reports, collected, held⟩ := Reported_run rt attempts
  have same : published = lastData (successes reports) := congrArg (fun data => data.getD ∅) held
  rw [same, collected]
  constructor
  · exact subjectCounter_after reports
  · intro gk present
    rw [pairsGauge_after]
    rcases List.eq_nil_or_concat (successes reports) with empty | ⟨before, last, shape⟩
    · rw [empty] at present
      cases present
    · rw [List.concat_eq_append] at shape
      rw [shape, lastData_concat] at present ⊢
      rw [lastWith_concat, if_pos present]

end NamespaceLister
