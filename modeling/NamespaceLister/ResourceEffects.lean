/-
What synchronizations leave behind in the resource cache.

`Synch_effect` sums up one Synch on shared maps: which cells it may have
changed, the label it leaves on each stored namespace, and that it publishes
what the value model publishes.  The two results on runs are read off it: when
the stored namespaces stay as they were, and that the labels left behind never
show in anything that is published.
-/

import NamespaceLister.SharedResources

namespace NamespaceLister

open Library

/-! ### Relabelling -/

@[simp]
theorem Namespace.withVisibility_name (ns : Namespace) (value : GoString) :
    (ns.withVisibility value).name = ns.name := by
  unfold Namespace.withVisibility
  split <;> rfl

theorem Namespace.withVisibility_twice (ns : Namespace) (first second : GoString) :
    (ns.withVisibility first).withVisibility second = ns.withVisibility second := by
  cases found : ns.metadata.labels with
  | none => simp only [Namespace.withVisibility, found]
  | some ll => simp only [Namespace.withVisibility, found, Finmap.insert_insert]

theorem Namespace.withVisibility_eq_self_iff (ns : Namespace) (value : GoString) :
    ns.withVisibility value = ns ↔
      ∀ ll, ns.metadata.labels = some ll → ll.lookup VirtualLabelKeyVisibility = some value := by
  cases found : ns.metadata.labels with
  | none => simp [Namespace.withVisibility, found]
  | some ll =>
      have relabelled : (ns.withVisibility value).metadata.labels =
          some (ll.insert VirtualLabelKeyVisibility value) := by
        simp only [Namespace.withVisibility, found]
      constructor
      · intro same other equal
        cases equal
        rw [same, found] at relabelled
        rw [Option.some.inj relabelled, GoMap.lookup_assign, if_pos rfl]
      · intro set
        have kept : ll.insert VirtualLabelKeyVisibility value = ll := by
          apply Finmap.ext_lookup
          intro key
          rw [GoMap.lookup_assign]
          by_cases same : key = VirtualLabelKeyVisibility
          · rw [if_pos same, same, set ll rfl]
          · rw [if_neg same]
        simp only [Namespace.withVisibility, found, kept]
        rw [← found]

theorem synchNamespace_withVisibility (rt : Runtime) (c : AccessData) (ns : Namespace)
    (ss : List Subject) (value : GoString) :
    synchNamespace rt c (ns.withVisibility value) ss = synchNamespace rt c ns ss := by
  unfold synchNamespace
  simp only [setVisibilityVirtualLabel_eq, Namespace.withVisibility_twice]

theorem synchLoop_withVisibility (rt : Runtime) (first second : SynchObservations)
    (value : GoString) (sameCtx : first.ctxErr = second.ctxErr)
    (sameReplies : first.allowedSubjects = second.allowedSubjects) (i : Nat)
    (nn : List Namespace) (c : AccessData) :
    synchLoop rt first i (nn.map (fun ns => ns.withVisibility value)) c =
      synchLoop rt second i nn c := by
  induction nn generalizing i c with
  | nil => rfl
  | cons ns rest ih =>
      have sameAttributes : namespaceAttributes (ns.withVisibility value) =
          namespaceAttributes ns := by
        unfold namespaceAttributes
        rw [Namespace.withVisibility_name]
      rw [List.map_cons, synchLoop, synchLoop, sameCtx, sameReplies, sameAttributes,
        synchNamespace_withVisibility, ih]

/-- Synch in the value model does not depend on the visibility labels it is given. -/
theorem Synch_withVisibility (rt : Runtime) (s : SynchronizedAccessCache) (call : SynchCall)
    (value : GoString) (nn : List Namespace) :
    s.Synch rt (call.observing (nn.map (fun ns => ns.withVisibility value))) =
      s.Synch rt (call.observing nn) := by
  cases failed : call.listErr with
  | some cause =>
      simp only [SynchronizedAccessCache.Synch, SynchronizedAccessCache.synch,
        SynchCall.observing, failed]
  | none =>
      have loop := synchLoop_withVisibility rt
        (call.observing (nn.map (fun ns => ns.withVisibility value))) (call.observing nn) value
        rfl rfl 0 nn ∅
      simp only [SynchCall.observing, failed] at loop
      simp only [SynchronizedAccessCache.Synch, SynchronizedAccessCache.synch,
        SynchCall.observing, failed, loop]

/-! ### Separated states -/

namespace ResourceState

/-- Every stored namespace is stored under its name and has maps of its own,
and no published entry has the label map of a stored namespace. -/
structure Separated (s : ResourceState) : Prop where
  keyed : ∀ name ns, s.stored.lookup name = some ns → ns.name = name
  inside : ∀ name ns, s.stored.lookup name = some ns → ns.within 0 s.heap.size
  ownMaps : ∀ name ns, s.stored.lookup name = some ns → ns.OwnMaps
  apart : ∀ first second one two, s.stored.lookup first = some one →
    s.stored.lookup second = some two → first ≠ second → one.Apart two
  published : ∀ c ∈ s.published, ∀ sub nn, c.lookup sub = some nn → ∀ ns ∈ nn,
    ns.within 0 s.heap.size ∧ ∀ name stored, s.stored.lookup name = some stored →
      ∀ address, ns.owns address → stored.labels ≠ some address

def LabelCell (s : ResourceState) (address : Nat) : Prop :=
  ∃ name ns, s.stored.lookup name = some ns ∧ ns.labels = some address

def values (s : ResourceState) (order : RangeOrder GoString) : List Namespace :=
  (s.list order).map (SharedNamespace.resolve s.heap)

def writes (s : ResourceState) (call : SynchCall) (name : GoString) : Option GoString :=
  if s.synchronizing then none
  else
    match call.listErr with
    | some _ => none
    | none => call.written 0 (call.order.arrange s.stored.keys) name

theorem mem_list (s : ResourceState) (order : RangeOrder GoString) (ns : SharedNamespace) :
    ns ∈ s.list order ↔ ∃ name, s.stored.lookup name = some ns := by
  unfold list
  rw [List.mem_filterMap]
  constructor
  · rintro ⟨name, _member, found⟩
    exact ⟨name, found⟩
  · rintro ⟨name, found⟩
    have present : name ∈ s.stored.keys :=
      AList.lookup_isSome.mp (Option.isSome_iff_exists.mpr ⟨ns, found⟩)
    exact ⟨name, (order.perm s.stored.keys).mem_iff.mpr present, found⟩

theorem values_eq (s : ResourceState) (order : RangeOrder GoString) :
    s.values order = (order.arrange s.stored.keys).filterMap s.content := by
  unfold values list
  rw [List.map_filterMap]
  rfl

theorem list_names (s : ResourceState) (separated : s.Separated) (order : RangeOrder GoString) :
    (s.list order).map SharedNamespace.name = order.arrange s.stored.keys := by
  have every : ∀ name ∈ order.arrange s.stored.keys,
      (s.stored.lookup name).map SharedNamespace.name = some name := by
    intro name member
    have present := (order.perm s.stored.keys).mem_iff.mp member
    obtain ⟨ns, found⟩ := Option.isSome_iff_exists.mp (AList.lookup_isSome.mpr present)
    rw [found, Option.map_some, separated.keyed name ns found]
  unfold list
  rw [List.map_filterMap, List.filterMap_congr every, List.filterMap_some]

theorem separateItems_list (s : ResourceState) (separated : s.Separated)
    (order : RangeOrder GoString) : SeparateItems s.heap.size (s.list order) := by
  have names : ((s.list order).map SharedNamespace.name).Nodup := by
    rw [list_names s separated]
    exact (order.perm s.stored.keys).nodup_iff.mpr s.stored.keys_nodup
  constructor
  · intro ns member
    obtain ⟨name, found⟩ := (s.mem_list order ns).mp member
    exact separated.inside name ns found
  · intro ns member
    obtain ⟨name, found⟩ := (s.mem_list order ns).mp member
    exact separated.ownMaps name ns found
  · rw [List.Nodup, List.pairwise_map] at names
    apply List.Pairwise.imp_of_mem _ names
    intro one two firstMember secondMember different
    obtain ⟨first, foundFirst⟩ := (s.mem_list order one).mp firstMember
    obtain ⟨second, foundSecond⟩ := (s.mem_list order two).mp secondMember
    apply separated.apart first second one two foundFirst foundSecond
    intro same
    apply different
    rw [separated.keyed first one foundFirst, separated.keyed second two foundSecond, same]
  · exact names

/-! ### One Synch -/

def firstCache (s : ResourceState) : SynchronizedAccessCache :=
  { SynchronizedAccessCache.new with synchronizing := s.synchronizing }

/-- What Synch did to the access data: a failed one published nothing, a
successful one published what the value model publishes on the listed values. -/
inductive Published (rt : Runtime) (s : ResourceState) (call : SynchCall)
    (result : ResourceState × Option SynchError) : Prop where
  | nothing (failed : result.2 ≠ none) (same : result.1.published = s.published)
  | added (c : SharedAccessData) (d : AccessData) (succeeded : result.2 = none)
      (appended : result.1.published = s.published ++ [c])
      (expected :
        (s.firstCache.Synch rt (call.observing (s.values call.order))).1.accessCache.data = some d)
      (represents : Represents s.heap.size result.1.heap c d)

structure SharedSynchEffect (rt : Runtime) (s : ResourceState) (call : SynchCall)
    (result : ResourceState × Option SynchError) : Prop where
  stored : result.1.stored = s.stored
  flag : result.1.synchronizing = s.synchronizing
  frame : Heap.Frame s.LabelCell s.heap result.1.heap
  content : ∀ name, result.1.content name =
    (s.content name).map (fun ns => ns.relabelled (s.writes call name))
  err : result.2 = (s.firstCache.Synch rt (call.observing (s.values call.order))).2
  data : Published rt s call result

private theorem map_relabelled_none (found : Option Namespace) :
    found = found.map (fun ns => ns.relabelled none) := by
  cases found with
  | none => rfl
  | some ns => rfl

private theorem sharedSynchEffect_early (rt : Runtime) (s : ResourceState) (call : SynchCall)
    (err : SynchError) (noWrites : ∀ name, s.writes call name = none)
    (same : (s.firstCache.Synch rt (call.observing (s.values call.order))).2 = some err) :
    SharedSynchEffect rt s call (s, some err) :=
  { stored := rfl
    flag := rfl
    frame := Heap.Frame.refl _ s.heap
    content := by
      intro name
      rw [noWrites]
      exact map_relabelled_none (s.content name)
    err := same.symm
    data := .nothing (by simp) rfl }

private theorem content_after_loop (s : ResourceState) (separated : s.Separated)
    (call : SynchCall) (free : s.synchronizing = false) (listed : call.listErr = none)
    (after : ResourceState) (sameStored : after.stored = s.stored)
    (relabelled : ∀ ns ∈ s.list call.order, ns.resolve after.heap =
      (ns.resolve s.heap).relabelled
        (call.written 0 ((s.list call.order).map SharedNamespace.name) ns.name))
    (name : GoString) :
    after.content name = (s.content name).map (fun ns => ns.relabelled (s.writes call name)) := by
  have written : s.writes call name =
      call.written 0 (call.order.arrange s.stored.keys) name := by
    simp only [writes, free, listed, Bool.false_eq_true, if_false]
  unfold content
  rw [sameStored, written]
  cases found : s.stored.lookup name with
  | none => rfl
  | some ns =>
      have shown := relabelled ns ((s.mem_list call.order ns).mpr ⟨name, found⟩)
      rw [list_names s separated, separated.keyed name ns found] at shown
      rw [Option.map_some, Option.map_some, Option.map_some, shown]

private theorem labelCell_of_list (s : ResourceState) (order : RangeOrder GoString)
    (address : Nat) (listed : ∃ ns ∈ s.list order, ns.labels = some address) :
    s.LabelCell address := by
  obtain ⟨ns, member, label⟩ := listed
  obtain ⟨name, found⟩ := (s.mem_list order ns).mp member
  exact ⟨name, ns, found, label⟩

private theorem sharedSynchEffect_loop (rt : Runtime) (s : ResourceState)
    (separated : s.Separated) (call : SynchCall) (free : s.synchronizing = false)
    (listed : call.listErr = none) (result : ResourceState × Option SynchError)
    (sameStored : result.1.stored = s.stored) (released : result.1.synchronizing = false)
    (frame : Heap.Frame s.LabelCell s.heap result.1.heap)
    (relabelled : ∀ ns ∈ s.list call.order, ns.resolve result.1.heap =
      (ns.resolve s.heap).relabelled
        (call.written 0 ((s.list call.order).map SharedNamespace.name) ns.name))
    (err : result.2 = (s.firstCache.Synch rt (call.observing (s.values call.order))).2)
    (data : Published rt s call result) : SharedSynchEffect rt s call result :=
  { stored := sameStored
    flag := released.trans free.symm
    frame := frame
    content := content_after_loop s separated call free listed result.1 sameStored relabelled
    err := err
    data := data }

private theorem Synch_loop (rt : Runtime) (s : ResourceState) (call : SynchCall)
    (free : s.synchronizing = false) (listed : call.listErr = none) (heap : MapHeap)
    (ended : Except SynchError SharedAccessData)
    (loop : SharedMaps.synchLoop rt call 0 (s.list call.order) s.heap ∅ = (heap, ended)) :
    s.Synch rt call =
      match ended with
      | .error err => ({ s with heap := heap, synchronizing := false }, some err)
      | .ok c =>
          ({ s with heap := heap, published := s.published ++ [c], synchronizing := false },
            none) := by
  have sameList : list { s with synchronizing := true } call.order = s.list call.order := rfl
  simp only [Synch, free, Bool.false_eq_true, if_false, synch, listed, sameList, loop]
  cases ended with
  | error err => rfl
  | ok c => rfl

private theorem firstCache_loop (rt : Runtime) (s : ResourceState) (call : SynchCall)
    (free : s.synchronizing = false) (listed : call.listErr = none)
    (ended : Except SynchError AccessData)
    (loop : synchLoop rt (call.observing (s.values call.order)) 0 (s.values call.order) ∅ = ended) :
    s.firstCache.Synch rt (call.observing (s.values call.order)) =
      match ended with
      | .error err => (s.firstCache, some err)
      | .ok d =>
          ({ s.firstCache with accessCache := s.firstCache.accessCache.restock d }, none) := by
  have sameListed : (call.observing (s.values call.order)).listed = .ok (s.values call.order) := by
    simp only [SynchCall.observing, listed]
  have sameFlag : s.firstCache.synchronizing = false := free
  simp only [SynchronizedAccessCache.Synch, sameFlag, Bool.false_eq_true, if_false,
    SynchronizedAccessCache.synch, sameListed, loop]
  cases ended with
  | error err =>
      simp only [← sameFlag]
  | ok d =>
      simp only [← sameFlag]

theorem Synch_effect (rt : Runtime) (s : ResourceState) (separated : s.Separated)
    (call : SynchCall) : SharedSynchEffect rt s call (s.Synch rt call) := by
  cases flag : s.synchronizing with
  | true =>
      have result : s.Synch rt call = (s, some .synchAlreadyRunning) := by
        simp only [Synch, flag, if_true]
      rw [result]
      apply sharedSynchEffect_early
      · intro name
        simp only [writes, flag, if_true]
      · simp only [SynchronizedAccessCache.Synch, firstCache, flag, if_true]
  | false =>
      cases failed : call.listErr with
      | some cause =>
          have result : s.Synch rt call = (s, some (.listFailed cause)) := by
            cases s
            cases flag
            simp only [Synch, synch, failed]
            rfl
          rw [result]
          apply sharedSynchEffect_early
          · intro name
            simp only [writes, flag, failed, Bool.false_eq_true, if_false]
          · simp only [SynchronizedAccessCache.Synch, SynchronizedAccessCache.synch, firstCache,
              SynchCall.observing, flag, failed, Bool.false_eq_true, if_false]
      | none =>
          obtain ⟨frame, outcome, relabelled⟩ := SharedMaps.synchLoop_spec rt call s.heap.size
            (s.values call.order) 0 (s.list call.order) s.heap ∅ ∅ (Nat.le_refl _)
            (separateItems_list s separated call.order) (Represents.empty _ _)
          change SameOutcome _ _ _ (synchLoop rt (call.observing (s.values call.order)) 0
            (s.values call.order) ∅) at outcome
          generalize shared : SharedMaps.synchLoop rt call 0 (s.list call.order) s.heap ∅ = loop
            at frame outcome relabelled
          generalize value : synchLoop rt (call.observing (s.values call.order)) 0
            (s.values call.order) ∅ = expected at outcome
          obtain ⟨heap, ended⟩ := loop
          have framed := frame.mono (labelCell_of_list s call.order)
          cases outcome with
          | failed err =>
              have result := Synch_loop rt s call flag failed heap _ shared
              have expected := firstCache_loop rt s call flag failed _ value
              rw [result]
              exact sharedSynchEffect_loop rt s separated call flag failed _ rfl rfl framed
                relabelled (by rw [expected]) (.nothing (by simp) rfl)
          | completed c d represents =>
              have result := Synch_loop rt s call flag failed heap _ shared
              have expected := firstCache_loop rt s call flag failed _ value
              rw [result]
              exact sharedSynchEffect_loop rt s separated call flag failed _ rfl rfl framed
                relabelled (by rw [expected])
                (.added c d rfl rfl (by rw [expected]; rfl) represents)

/-! ### Steps keep the maps apart -/

private theorem readData_kept (s : ResourceState) (separated : s.Separated) (after : MapHeap)
    (frame : Heap.Frame s.LabelCell s.heap after) (c : SharedAccessData)
    (member : c ∈ s.published) :
    readData after c = readData s.heap c := by
  apply readData_congr
  intro sub nn found ns inList
  obtain ⟨inside, notLabels⟩ := separated.published c member sub nn found ns inList
  apply ns.resolve_frame 0 inside frame
  rintro address owned ⟨name, stored, storedAt, label⟩
  exact notLabels name stored storedAt address owned label

theorem separated_Synch (rt : Runtime) (s : ResourceState) (separated : s.Separated)
    (call : SynchCall) : (s.Synch rt call).1.Separated := by
  have effect := Synch_effect rt s separated call
  generalize s.Synch rt call = result at effect
  obtain ⟨stored, _flag, frame, _content, _err, data⟩ := effect
  have grown : ∀ ns : SharedNamespace, ns.within 0 s.heap.size →
      ns.within 0 result.1.heap.size :=
    fun ns inside => ns.within_mono 0 _ 0 _ inside (Nat.le_refl _) frame.grows
  have oldData : ∀ c ∈ s.published, ∀ sub nn, c.lookup sub = some nn → ∀ ns ∈ nn,
      ns.within 0 result.1.heap.size ∧ ∀ name kept, s.stored.lookup name = some kept →
        ∀ address, ns.owns address → kept.labels ≠ some address := by
    intro c member sub nn found ns inList
    obtain ⟨inside, notLabels⟩ := separated.published c member sub nn found ns inList
    exact ⟨grown ns inside, notLabels⟩
  constructor
  · rw [stored]
    exact separated.keyed
  · rw [stored]
    intro name ns found
    exact grown ns (separated.inside name ns found)
  · rw [stored]
    exact separated.ownMaps
  · rw [stored]
    exact separated.apart
  · rw [stored]
    cases data with
    | nothing _failed same =>
        rw [same]
        exact oldData
    | added c d _succeeded appended _expected represents =>
        rw [appended]
        intro other member
        rcases List.mem_append.mp member with old | new
        · exact oldData other old
        · rw [List.mem_singleton] at new
          subst other
          intro sub nn found ns inList
          have fresh := represents.inside sub nn found ns inList
          constructor
          · exact ns.within_mono _ _ 0 _ fresh (Nat.zero_le _) (Nat.le_refl _)
          · intro name kept storedAt address owned label
            have late := (fresh address owned).1
            have early := (separated.inside name kept storedAt address (Or.inl label)).2
            omega

theorem lookup_put (s : ResourceState) (ns : Namespace) :
    ∃ fresh : SharedNamespace,
      Heap.Frame (fun _ => False) s.heap (s.put ns).heap ∧
      (∀ name, (s.put ns).stored.lookup name =
        if name = ns.name then some fresh else s.stored.lookup name) ∧
      fresh.name = ns.name ∧ fresh.within s.heap.size (s.put ns).heap.size ∧ fresh.OwnMaps ∧
      fresh.resolve (s.put ns).heap = ns := by
  obtain ⟨frame, labelsRead, annotationsRead, inside, apart⟩ :=
    s.heap.allocRef_twice ns.metadata.labels ns.metadata.annotations
  let fresh : SharedNamespace :=
    { name := ns.name
      nsName := ns.metadata.nsName
      labels := (s.heap.allocRef ns.metadata.labels).2
      annotations :=
        ((s.heap.allocRef ns.metadata.labels).1.allocRef ns.metadata.annotations).2
      managedFields := ns.metadata.managedFields
      spec := ns.spec
      status := ns.status }
  have resolved : fresh.resolve (s.put ns).heap = ns := by
    unfold SharedNamespace.resolve
    change ({ metadata := { ns.metadata with labels := _, annotations := _ }
              spec := ns.spec
              status := ns.status } : Namespace) = ns
    change fresh.labels.bind (s.put ns).heap.read = ns.metadata.labels at labelsRead
    change fresh.annotations.bind (s.put ns).heap.read = ns.metadata.annotations at annotationsRead
    rw [labelsRead, annotationsRead]
  refine ⟨fresh, frame, ?_, rfl, inside, apart, resolved⟩
  intro name
  by_cases same : name = ns.name
  · rw [if_pos same, same]
    exact AList.lookup_insert s.stored
  · rw [if_neg same]
    exact AList.lookup_insert_ne same

theorem content_put (s : ResourceState) (separated : s.Separated) (ns : Namespace)
    (name : GoString) :
    (s.put ns).content name = if name = ns.name then some ns else s.content name := by
  obtain ⟨fresh, frame, found, _named, _inside, _ownMaps, resolved⟩ := lookup_put s ns
  unfold content
  rw [found]
  by_cases same : name = ns.name
  · rw [if_pos same, if_pos same, Option.map_some, resolved]
  · rw [if_neg same, if_neg same]
    cases kept : s.stored.lookup name with
    | none => rfl
    | some stored =>
        rw [Option.map_some, Option.map_some, stored.resolve_frame 0
          (separated.inside name stored kept) frame (fun _ _ impossible => impossible)]

theorem separated_put (s : ResourceState) (separated : s.Separated) (ns : Namespace) :
    (s.put ns).Separated := by
  obtain ⟨fresh, frame, found, named, inside, ownMaps, _resolved⟩ := lookup_put s ns
  -- what holds of the new object and of every one that was stored holds of all
  have every : ∀ holds : GoString → SharedNamespace → Prop, holds ns.name fresh →
      (∀ name stored, s.stored.lookup name = some stored → holds name stored) →
      ∀ name stored, (s.put ns).stored.lookup name = some stored → holds name stored := by
    intro holds new old name stored storedAt
    rw [found] at storedAt
    by_cases same : name = ns.name
    · rw [if_pos same] at storedAt
      cases storedAt
      rw [same]
      exact new
    · rw [if_neg same] at storedAt
      exact old name stored storedAt
  have freshApart : ∀ name stored, s.stored.lookup name = some stored →
      ∀ address, stored.owns address → ¬ fresh.owns address := by
    intro name stored storedAt address owned freshOwned
    have early := (separated.inside name stored storedAt address owned).2
    have late := (inside address freshOwned).1
    omega
  constructor
  · exact every _ named separated.keyed
  · apply every
    · exact fresh.within_mono _ _ 0 _ inside (Nat.zero_le _) (Nat.le_refl _)
    · intro name stored storedAt
      exact stored.within_mono 0 _ 0 _ (separated.inside name stored storedAt) (Nat.le_refl _)
        frame.grows
  · exact every _ ownMaps separated.ownMaps
  · intro first second one two oneAt twoAt different
    rw [found] at oneAt twoAt
    by_cases isFirst : first = ns.name
    · have notSecond : second ≠ ns.name := fun same => different (isFirst.trans same.symm)
      rw [if_pos isFirst] at oneAt
      rw [if_neg notSecond] at twoAt
      cases oneAt
      intro address
      exact ⟨fun label owned => freshApart second two twoAt address owned (Or.inl label),
        fun label owned => freshApart second two twoAt address (Or.inl label) owned⟩
    · rw [if_neg isFirst] at oneAt
      by_cases isSecond : second = ns.name
      · rw [if_pos isSecond] at twoAt
        cases twoAt
        intro address
        exact ⟨fun label owned => freshApart first one oneAt address (Or.inl label) owned,
          fun label owned => freshApart first one oneAt address owned (Or.inl label)⟩
      · rw [if_neg isSecond] at twoAt
        exact separated.apart first second one two oneAt twoAt different
  · intro c member sub nn foundData item inList
    obtain ⟨itemInside, notLabels⟩ := separated.published c member sub nn foundData item inList
    constructor
    · exact item.within_mono 0 _ 0 _ itemInside (Nat.le_refl _) frame.grows
    · apply every
      · intro address owned label
        have early := (itemInside address owned).2
        have late := (inside address (Or.inl label)).1
        omega
      · exact notLabels

private theorem lookup_of_remove (s : ResourceState) (removed name : GoString)
    (ns : SharedNamespace) (found : (s.remove removed).stored.lookup name = some ns) :
    s.stored.lookup name = some ns := by
  change (s.stored.erase removed).lookup name = some ns at found
  by_cases same : name = removed
  · rw [same, AList.lookup_erase] at found
    cases found
  · rw [AList.lookup_erase_ne same] at found
    exact found

theorem content_remove (s : ResourceState) (removed name : GoString) :
    (s.remove removed).content name = if name = removed then none else s.content name := by
  change ((s.stored.erase removed).lookup name).map _ = _
  by_cases same : name = removed
  · rw [if_pos same, same, AList.lookup_erase]
    rfl
  · rw [if_neg same, AList.lookup_erase_ne same]
    rfl

theorem separated_remove (s : ResourceState) (separated : s.Separated) (removed : GoString) :
    (s.remove removed).Separated := by
  have old := lookup_of_remove s removed
  constructor
  · intro name ns found
    exact separated.keyed name ns (old name ns found)
  · intro name ns found
    exact separated.inside name ns (old name ns found)
  · intro name ns found
    exact separated.ownMaps name ns (old name ns found)
  · intro first second one two oneAt twoAt different
    exact separated.apart first second one two (old first one oneAt) (old second two twoAt)
      different
  · intro c member sub nn found ns inList
    obtain ⟨inside, notLabels⟩ := separated.published c member sub nn found ns inList
    exact ⟨inside, fun name stored storedAt => notLabels name stored (old name stored storedAt)⟩

/-! ### Runs -/

def empty : ResourceState :=
  { heap := { cells := [] }
    stored := ∅
    published := []
    synchronizing := false }

theorem separated_empty : empty.Separated := by
  constructor
  · intro name ns found
    cases found
  · intro name ns found
    cases found
  · intro name ns found
    cases found
  · intro first second one two found
    cases found
  · intro c member
    cases member

end ResourceState

inductive ResourceStep where
  | put (ns : Namespace)
  | remove (name : GoString)
  | synch (call : SynchCall)

def ResourceStep.isChange : ResourceStep → Bool
  | .put _ => true
  | .remove _ => true
  | .synch _ => false

def ResourceState.apply (rt : Runtime) (s : ResourceState) : ResourceStep → ResourceState
  | .put ns => s.put ns
  | .remove name => s.remove name
  | .synch call => (s.Synch rt call).1

def resourceRun (rt : Runtime) (steps : List ResourceStep) : ResourceState :=
  steps.foldl (ResourceState.apply rt) ResourceState.empty

theorem resourceRun_append (rt : Runtime) (steps later : List ResourceStep) :
    resourceRun rt (steps ++ later) =
      later.foldl (ResourceState.apply rt) (resourceRun rt steps) := by
  unfold resourceRun
  rw [List.foldl_append]

namespace ResourceState

theorem separated_apply (rt : Runtime) (s : ResourceState) (separated : s.Separated)
    (step : ResourceStep) : (s.apply rt step).Separated := by
  cases step with
  | put ns => exact separated_put s separated ns
  | remove name => exact separated_remove s separated name
  | synch call => exact separated_Synch rt s separated call

theorem separated_foldl (rt : Runtime) (s : ResourceState) (separated : s.Separated)
    (steps : List ResourceStep) : (steps.foldl (apply rt) s).Separated := by
  induction steps generalizing s with
  | nil => exact separated
  | cons step rest ih => exact ih (s.apply rt step) (separated_apply rt s separated step)

theorem separated_run (rt : Runtime) (steps : List ResourceStep) :
    (resourceRun rt steps).Separated :=
  separated_foldl rt empty separated_empty steps

/-! ### When the stored namespaces stay as they were -/

def afterCalls (rt : Runtime) (s : ResourceState) (calls : List SynchCall) : ResourceState :=
  calls.foldl (fun s call => (s.Synch rt call).1) s

def lastWrite (s : ResourceState) (calls : List SynchCall) (name : GoString) : Option GoString :=
  calls.reverse.findSome? (fun call => s.writes call name)

def resourcesUnchanged (rt : Runtime) (s : ResourceState) (calls : List SynchCall) : Prop :=
  ∀ name, (s.afterCalls rt calls).content name = s.content name

/-- Where a stored namespace has labels, the last value that the calls write is
the one that its visibility label has already. -/
def visibilityAlreadySet (s : ResourceState) (calls : List SynchCall) : Prop :=
  ∀ name ns ll value, s.content name = some ns → ns.metadata.labels = some ll →
    s.lastWrite calls name = some value → ll.lookup VirtualLabelKeyVisibility = some value

private theorem lastWrite_concat (s : ResourceState) (calls : List SynchCall) (call : SynchCall)
    (name : GoString) :
    s.lastWrite (calls ++ [call]) name = (s.writes call name).or (s.lastWrite calls name) := by
  unfold lastWrite
  rw [List.reverse_append, List.reverse_singleton, List.singleton_append, List.findSome?_cons]
  cases s.writes call name with
  | none => rfl
  | some value => rfl

private theorem relabelled_twice (ns : Namespace) (first second : Option GoString) :
    (ns.relabelled first).relabelled second = ns.relabelled (second.or first) := by
  cases second with
  | none => rfl
  | some value =>
      cases first with
      | none => rfl
      | some earlier => exact ns.withVisibility_twice earlier value

theorem afterCalls_effect (rt : Runtime) (s : ResourceState) (separated : s.Separated)
    (calls : List SynchCall) :
    (s.afterCalls rt calls).Separated ∧
      (s.afterCalls rt calls).stored = s.stored ∧
      (s.afterCalls rt calls).synchronizing = s.synchronizing ∧
      ∀ name, (s.afterCalls rt calls).content name =
        (s.content name).map (fun ns => ns.relabelled (s.lastWrite calls name)) := by
  induction calls using List.reverseRecOn with
  | nil =>
      refine ⟨separated, rfl, rfl, ?_⟩
      intro name
      exact map_relabelled_none (s.content name)
  | append_singleton calls call ih =>
      obtain ⟨reached, stored, flag, content⟩ := ih
      have last : s.afterCalls rt (calls ++ [call]) =
          ((s.afterCalls rt calls).Synch rt call).1 := by
        unfold afterCalls
        rw [List.foldl_append]
        rfl
      have effect := Synch_effect rt _ reached call
      rw [last]
      refine ⟨separated_Synch rt _ reached call, effect.stored.trans stored,
        effect.flag.trans flag, ?_⟩
      intro name
      have sameWrites : (s.afterCalls rt calls).writes call name = s.writes call name := by
        unfold writes
        rw [stored, flag]
      rw [effect.content, content, sameWrites, lastWrite_concat, Option.map_map]
      congr 1
      funext ns
      exact relabelled_twice ns _ _

/-- Synch calls leave the resource cache as it was exactly when the last value
that they write to each label map is in it already. -/
theorem resourcesUnchanged_iff (rt : Runtime) (s : ResourceState) (separated : s.Separated)
    (calls : List SynchCall) :
    s.resourcesUnchanged rt calls ↔ s.visibilityAlreadySet calls := by
  obtain ⟨_reached, _stored, _flag, content⟩ := afterCalls_effect rt s separated calls
  constructor
  · intro unchanged name ns ll value found labels written
    have same := (content name).symm.trans (unchanged name)
    rw [found, written] at same
    exact (ns.withVisibility_eq_self_iff value).mp (Option.some.inj same) ll labels
  · intro alreadySet name
    rw [content name]
    cases found : s.content name with
    | none => rfl
    | some ns =>
        cases written : s.lastWrite calls name with
        | none => rfl
        | some value =>
            have kept : ns.withVisibility value = ns :=
              (ns.withVisibility_eq_self_iff value).mpr
                (fun ll labels => alreadySet name ns ll value found labels written)
            exact congrArg some kept

private def builder : Subject :=
  { kind := userKind
    apiGroup := rbacGroupName
    name := "alice"
    nsName := [] }

private def tenant (labels : GoMap GoString GoString) : Namespace :=
  { metadata := { ObjectMeta.bare [] "team-a" with labels := some labels }
    spec := { finalizers := [] }
    status := { phase := [] } }

private def oneReader : SynchCall :=
  { listErr := none
    order := RangeOrder.asKept _
    ctxErr := fun _ => none
    allowedSubjects := fun _ _ => ([builder], none) }

/-- The stored namespace has labels but no visibility label: Synch adds one. -/
theorem resources_relabelled :
    (empty.put (tenant ∅)).Separated ∧
      ¬ (empty.put (tenant ∅)).resourcesUnchanged Runtime.reference [oneReader] := by
  constructor
  · exact separated_put empty separated_empty (tenant ∅)
  · intro unchanged
    have same := unchanged "team-a"
    revert same
    decide

private def privateTenant : Namespace :=
  tenant (Finmap.singleton VirtualLabelKeyVisibility VirtualLabelValueVisibilityPrivate)

theorem resourcesUnchanged_iff_private :
    (empty.put privateTenant).resourcesUnchanged Runtime.reference [oneReader] := by
  apply (resourcesUnchanged_iff Runtime.reference _
    (separated_put empty separated_empty privateTenant) [oneReader]).mpr
  intro name ns ll value found labels written
  rw [content_put empty separated_empty] at found
  by_cases same : name = privateTenant.name
  · have computed : (empty.put privateTenant).lastWrite [oneReader] privateTenant.name =
        some VirtualLabelValueVisibilityPrivate := by decide
    rw [same, computed] at written
    rw [if_pos same] at found
    cases found
    cases labels
    cases written
    decide
  · rw [if_neg same] at found
    cases found

/-! ### What is published does not show the history -/

structure SameSources (s t : ResourceState) : Prop where
  keys : s.stored.keys = t.stored.keys
  flag : s.synchronizing = t.synchronizing
  content : ∀ name, (s.content name).map (fun ns => ns.withVisibility []) =
    (t.content name).map (fun ns => ns.withVisibility [])

theorem sameSources_change (rt : Runtime) (s t : ResourceState) (sSeparated : s.Separated)
    (tSeparated : t.Separated) (same : SameSources s t) (step : ResourceStep)
    (isChange : step.isChange = true) : SameSources (s.apply rt step) (t.apply rt step) := by
  cases step with
  | put ns =>
      constructor
      · change (s.stored.insert ns.name _).keys = (t.stored.insert ns.name _).keys
        rw [AList.keys_insert, AList.keys_insert, same.keys]
      · exact same.flag
      · intro name
        change ((s.put ns).content name).map _ = ((t.put ns).content name).map _
        rw [content_put s sSeparated, content_put t tSeparated]
        by_cases here : name = ns.name
        · rw [if_pos here, if_pos here]
        · rw [if_neg here, if_neg here]
          exact same.content name
  | remove removed =>
      constructor
      · change (s.stored.erase removed).keys = (t.stored.erase removed).keys
        rw [AList.keys_erase, AList.keys_erase, same.keys]
      · exact same.flag
      · intro name
        change ((s.remove removed).content name).map _ = ((t.remove removed).content name).map _
        rw [content_remove, content_remove]
        by_cases here : name = removed
        · rw [if_pos here, if_pos here]
        · rw [if_neg here, if_neg here]
          exact same.content name
  | synch call => cases isChange

theorem sameSources_synch (rt : Runtime) (s t : ResourceState) (separated : s.Separated)
    (same : SameSources s t) (call : SynchCall) : SameSources (s.Synch rt call).1 t := by
  have effect := Synch_effect rt s separated call
  constructor
  · rw [effect.stored]
    exact same.keys
  · exact effect.flag.trans same.flag
  · intro name
    rw [effect.content, ← same.content name, Option.map_map]
    congr 1
    funext ns
    change (ns.relabelled (s.writes call name)).withVisibility [] = ns.withVisibility []
    cases s.writes call name with
    | none => rfl
    | some value => exact ns.withVisibility_twice value []

theorem sameSources_run (rt : Runtime) (steps : List ResourceStep) :
    SameSources (resourceRun rt steps) (resourceRun rt (steps.filter ResourceStep.isChange)) := by
  induction steps using List.reverseRecOn with
  | nil => exact ⟨rfl, rfl, fun _ => rfl⟩
  | append_singleton steps step ih =>
      have last : resourceRun rt (steps ++ [step]) = (resourceRun rt steps).apply rt step :=
        resourceRun_append rt steps [step]
      rw [last, List.filter_append]
      cases isChange : step.isChange with
      | true =>
          have lastChange : resourceRun rt
              (steps.filter ResourceStep.isChange ++ [step].filter ResourceStep.isChange) =
                (resourceRun rt (steps.filter ResourceStep.isChange)).apply rt step := by
            rw [List.filter_singleton, isChange]
            exact resourceRun_append rt _ [step]
          rw [lastChange]
          exact sameSources_change rt _ _ (separated_run rt _) (separated_run rt _) ih step isChange
      | false =>
          have noChange : [step].filter ResourceStep.isChange = [] := by
            rw [List.filter_singleton, isChange]
            rfl
          rw [noChange, List.append_nil]
          cases step with
          | put ns => cases isChange
          | remove name => cases isChange
          | synch call => exact sameSources_synch rt _ _ (separated_run rt steps) ih call

private theorem filterMap_content_blank (s t : ResourceState) (same : SameSources s t)
    (order : RangeOrder GoString) :
    (s.values order).map (fun ns => ns.withVisibility []) =
      (t.values order).map (fun ns => ns.withVisibility []) := by
  rw [values_eq, values_eq, same.keys, List.map_filterMap, List.map_filterMap]
  apply List.filterMap_congr
  intro name _member
  exact same.content name

theorem firstCache_sameSources (rt : Runtime) (s t : ResourceState) (same : SameSources s t)
    (call : SynchCall) :
    s.firstCache.Synch rt (call.observing (s.values call.order)) =
      t.firstCache.Synch rt (call.observing (t.values call.order)) := by
  have sameCache : s.firstCache = t.firstCache := by
    unfold firstCache
    rw [same.flag]
  rw [← Synch_withVisibility rt _ call [] (s.values call.order),
    ← Synch_withVisibility rt _ call [] (t.values call.order),
    filterMap_content_blank s t same, sameCache]

theorem readData_apply (rt : Runtime) (s : ResourceState) (separated : s.Separated)
    (step : ResourceStep) (c : SharedAccessData) (member : c ∈ s.published) :
    c ∈ (s.apply rt step).published ∧ readData (s.apply rt step).heap c = readData s.heap c := by
  cases step with
  | put ns =>
      obtain ⟨_fresh, frame, _found⟩ := lookup_put s ns
      exact ⟨member, readData_kept s separated _
        (frame.mono (fun _ impossible => impossible.elim)) c member⟩
  | remove name => exact ⟨member, rfl⟩
  | synch call =>
      have effect := Synch_effect rt s separated call
      refine ⟨?_, readData_kept s separated _ effect.frame c member⟩
      cases effect.data with
      | nothing _failed same =>
          change c ∈ (s.Synch rt call).1.published
          rw [same]
          exact member
      | added added _d _succeeded appended _expected _represents =>
          change c ∈ (s.Synch rt call).1.published
          rw [appended]
          exact List.mem_append_left _ member

theorem readData_foldl (rt : Runtime) (later : List ResourceStep) (s : ResourceState)
    (separated : s.Separated) (c : SharedAccessData) (member : c ∈ s.published) :
    readData (later.foldl (apply rt) s).heap c = readData s.heap c := by
  induction later generalizing s with
  | nil => rfl
  | cons step rest ih =>
      obtain ⟨stillPublished, same⟩ := readData_apply rt s separated step c member
      rw [List.foldl_cons, ih _ (separated_apply rt s separated step) stillPublished, same]

theorem published_of_changes (rt : Runtime) (steps : List ResourceStep)
    (changes : ∀ step ∈ steps, step.isChange = true) : (resourceRun rt steps).published = [] := by
  induction steps using List.reverseRecOn with
  | nil => rfl
  | append_singleton steps step ih =>
      have earlier := ih (fun other member => changes other (List.mem_append_left _ member))
      have last : resourceRun rt (steps ++ [step]) = (resourceRun rt steps).apply rt step :=
        resourceRun_append rt steps [step]
      rw [last]
      cases step with
      | put ns => exact earlier
      | remove name => exact earlier
      | synch call =>
          have impossible := changes (.synch call) (List.mem_append_right _ List.mem_cons_self)
          cases impossible

end ResourceState

/-- In every run, published access data reads the same after any further steps,
and a successful Synch publishes what the first Synch publishes where the same
changes were made to the stored namespaces and no Synch came before. -/
theorem published_immutable_history_free (rt : Runtime) (steps : List ResourceStep) :
    (∀ later, ∀ c ∈ (resourceRun rt steps).published,
      readData (resourceRun rt (steps ++ later)).heap c =
        readData (resourceRun rt steps).heap c) ∧
    ∀ call, ((resourceRun rt steps).Synch rt call).2 = none →
      ∃ c first,
        ((resourceRun rt steps).Synch rt call).1.published =
          (resourceRun rt steps).published ++ [c] ∧
        ((resourceRun rt (steps.filter ResourceStep.isChange)).Synch rt call).2 = none ∧
        ((resourceRun rt (steps.filter ResourceStep.isChange)).Synch rt call).1.published =
          [first] ∧
        readData ((resourceRun rt steps).Synch rt call).1.heap c =
          readData ((resourceRun rt (steps.filter ResourceStep.isChange)).Synch rt call).1.heap
            first := by
  constructor
  · intro later c member
    rw [resourceRun_append]
    exact ResourceState.readData_foldl rt later _ (ResourceState.separated_run rt steps) c member
  · intro call succeeded
    have same := ResourceState.sameSources_run rt steps
    have untouchedPublished := ResourceState.published_of_changes rt
      (steps.filter ResourceStep.isChange) (fun step member => (List.mem_filter.mp member).2)
    have touched := ResourceState.Synch_effect rt _ (ResourceState.separated_run rt steps) call
    have untouched := ResourceState.Synch_effect rt _
      (ResourceState.separated_run rt (steps.filter ResourceStep.isChange)) call
    have expected := ResourceState.firstCache_sameSources rt _ _ same call
    have alsoSucceeded := untouched.err.trans
      ((congrArg Prod.snd expected).symm.trans (touched.err.symm.trans succeeded))
    cases touched.data with
    | nothing failed _same => exact absurd succeeded failed
    | added c d _succeeded appended published represents =>
        cases untouched.data with
        | nothing failed _same => exact absurd alsoSucceeded failed
        | added first e _succeeded firstAppended firstPublished firstRepresents =>
            rw [expected, firstPublished] at published
            cases published
            refine ⟨c, first, appended, alsoSucceeded, ?_, ?_⟩
            · rw [firstAppended, untouchedPublished]
              rfl
            · funext sub
              rw [← represents.content, ← firstRepresents.content]

private def sharedWithEveryone : SynchCall :=
  { listErr := none
    order := RangeOrder.asKept _
    ctxErr := fun _ => none
    allowedSubjects := fun _ _ =>
      ([{ kind := groupKind, apiGroup := rbacGroupName, name := "system:authenticated",
          nsName := [] }], none) }

private def firstPrivate : List ResourceStep :=
  [.put (ResourceState.tenant ∅), .synch ResourceState.oneReader]

theorem published_immutable_history_free_shared :
    ∃ c first,
      ((resourceRun Runtime.reference firstPrivate).Synch Runtime.reference
        sharedWithEveryone).1.published =
          (resourceRun Runtime.reference firstPrivate).published ++ [c] ∧
      readData ((resourceRun Runtime.reference firstPrivate).Synch Runtime.reference
        sharedWithEveryone).1.heap c =
          readData ((resourceRun Runtime.reference [.put (ResourceState.tenant ∅)]).Synch
            Runtime.reference sharedWithEveryone).1.heap first := by
  obtain ⟨c, first, appended, _succeeded, _published, same⟩ :=
    (published_immutable_history_free Runtime.reference firstPrivate).2 sharedWithEveryone
      (by decide)
  exact ⟨c, first, appended, same⟩

end NamespaceLister
