/-
The resource cache with its label and annotation maps by reference.

The namespace List hands out shallow copies: the maps of a listed item are the
maps of the stored object.  Here a map is a cell of a heap, `synch` works on
references, and every result is about the values behind them.  A synchronization
is shown to compute what the value model computes on the stored values, and to
touch no old cell but the label maps of the stored namespaces.
-/

import NamespaceLister.SynchOutcome
import NamespaceLister.Library.Heap

namespace NamespaceLister

open Library

abbrev MapHeap := Heap (GoMap GoString GoString)

/-- A namespace whose maps are references; a nil map is no reference. -/
structure SharedNamespace where
  name : GoString
  nsName : GoString
  labels : Option Nat
  annotations : Option Nat
  managedFields : List GoString
  spec : NamespaceSpec
  status : NamespaceStatus
deriving DecidableEq

namespace SharedNamespace

def resolve (heap : MapHeap) (ns : SharedNamespace) : Namespace :=
  { metadata :=
      { name := ns.name
        nsName := ns.nsName
        labels := ns.labels.bind heap.read
        annotations := ns.annotations.bind heap.read
        managedFields := ns.managedFields }
    spec := ns.spec
    status := ns.status }

def owns (ns : SharedNamespace) (address : Nat) : Prop :=
  ns.labels = some address ∨ ns.annotations = some address

def within (ns : SharedNamespace) (low high : Nat) : Prop :=
  ∀ address, ns.owns address → low ≤ address ∧ address < high

def deepCopy (heap : MapHeap) (ns : SharedNamespace) : MapHeap × SharedNamespace :=
  let (heap, labels) := heap.copy ns.labels
  let (heap, annotations) := heap.copy ns.annotations
  (heap, { ns with labels := labels, annotations := annotations })

theorem resolve_congr (first second : MapHeap) (ns : SharedNamespace)
    (same : ∀ address, ns.owns address → second.read address = first.read address) :
    ns.resolve second = ns.resolve first := by
  have sameLabels : ns.labels.bind second.read = ns.labels.bind first.read := by
    cases reference : ns.labels with
    | none => rfl
    | some address => exact same address (Or.inl reference)
  have sameAnnotations : ns.annotations.bind second.read = ns.annotations.bind first.read := by
    cases reference : ns.annotations with
    | none => rfl
    | some address => exact same address (Or.inr reference)
  unfold resolve
  rw [sameLabels, sameAnnotations]

theorem resolve_frame {touched : Nat → Prop} {before after : MapHeap} (ns : SharedNamespace)
    (low : Nat) (inside : ns.within low before.size) (frame : Heap.Frame touched before after)
    (untouched : ∀ address, ns.owns address → ¬ touched address) :
    ns.resolve after = ns.resolve before := by
  apply resolve_congr
  intro address owned
  exact frame.kept address (inside address owned).2 (untouched address owned)

theorem within_mono (ns : SharedNamespace) (low high lower higher : Nat)
    (inside : ns.within low high) (down : lower ≤ low) (up : high ≤ higher) :
    ns.within lower higher := by
  intro address owned
  have bounds := inside address owned
  omega

end SharedNamespace

abbrev SharedAccessData := GoMap Subject (List SharedNamespace)

/-- What one Synch meets outside the resource cache: a possible error of the
List, the order in which it returns the stored objects, the state of the context
at each namespace, and the replies of AllowedSubjects. -/
structure SynchCall where
  listErr : Option GoString
  order : RangeOrder GoString
  ctxErr : Nat → Option ContextError
  allowedSubjects : Nat → AttributesRecord → List Subject × Option GoString

def SynchCall.observing (call : SynchCall) (nn : List Namespace) : SynchObservations :=
  { listed :=
      match call.listErr with
      | some cause => .error cause
      | none => .ok nn
    ctxErr := call.ctxErr
    allowedSubjects := call.allowedSubjects }

/-! ### Synch on references -/

namespace SharedMaps

/-- The map made for a nil one is filled and dropped. -/
def setVisibilityVirtualLabel (heap : MapHeap) (ns : SharedNamespace) (subs : List Subject) :
    MapHeap :=
  (heap.assign ns.labels ∅ (fun ll =>
    ll.insert VirtualLabelKeyVisibility (visibility subs))).1

def addAccess (rt : Runtime) (sub : Subject) (ll : GoMap GoString GoString) :
    GoMap GoString GoString :=
  ll.insert VirtualLabelKeyAccess (GoString.toLower rt.unicodeToLower sub.kind)

def addSubject (sub : Subject) (aa : GoMap GoString GoString) : GoMap GoString GoString :=
  let named := aa.insert VirtualAnnotationKeySubjectName sub.name
  if sub.nsName ≠ [] then named.insert VirtualAnnotationKeySubjectNamespace sub.nsName
  else named

def withVirtualLabelsAndAnnotationsForAccess (rt : Runtime) (heap : MapHeap)
    (ns : SharedNamespace) (sub : Subject) : MapHeap × SharedNamespace :=
  let (heap, lns) := ns.deepCopy heap
  let (heap, ll) := heap.assign lns.labels ∅ (addAccess rt sub)
  let (heap, aa) := heap.assign lns.annotations ∅ (addSubject sub)
  (heap, { lns with labels := some ll, annotations := some aa })

def storeAccess (rt : Runtime) (ns : SharedNamespace) (state : MapHeap × SharedAccessData)
    (sub : Subject) : MapHeap × SharedAccessData :=
  let (heap, lns) := withVirtualLabelsAndAnnotationsForAccess rt state.1 ns sub
  (heap, state.2.insert sub ((state.2.lookup sub).getD [] ++ [lns]))

def synchNamespace (rt : Runtime) (heap : MapHeap) (c : SharedAccessData) (ns : SharedNamespace)
    (ss : List Subject) : MapHeap × SharedAccessData :=
  let distinct := removeDuplicateSubjects rt ss
  distinct.foldl (storeAccess rt ns) (setVisibilityVirtualLabel heap ns distinct, c)

def synchLoop (rt : Runtime) (call : SynchCall) :
    Nat → List SharedNamespace → MapHeap → SharedAccessData →
      MapHeap × Except SynchError SharedAccessData
  | _, [], heap, c => (heap, .ok c)
  | i, ns :: rest, heap, c =>
      match call.ctxErr i with
      | some cause => (heap, .error (.contextDone cause))
      | none =>
          let (heap, c) := synchNamespace rt heap c ns
            (call.allowedSubjects i (namespaceAttributes (ns.resolve heap))).1
          synchLoop rt call (i + 1) rest heap c

end SharedMaps

/-- The resource cache and what was published from it.  `published` holds every
access data in the order of the Restock calls: the access cache points to the
last one, and requests may still read the others. -/
structure ResourceState where
  heap : MapHeap
  stored : AList (fun _ : GoString => SharedNamespace)
  published : List SharedAccessData
  synchronizing : Bool

namespace ResourceState

/-- The namespace List, without a deep copy. -/
def list (s : ResourceState) (order : RangeOrder GoString) : List SharedNamespace :=
  (order.arrange s.stored.keys).filterMap (fun name => s.stored.lookup name)

def synch (rt : Runtime) (s : ResourceState) (call : SynchCall) :
    ResourceState × Except SynchError SharedAccessData :=
  match call.listErr with
  | some cause => (s, .error (.listFailed cause))
  | none =>
      match SharedMaps.synchLoop rt call 0 (s.list call.order) s.heap ∅ with
      | (heap, .error err) => ({ s with heap := heap }, .error err)
      | (heap, .ok c) => ({ s with heap := heap, published := s.published ++ [c] }, .ok c)

def Synch (rt : Runtime) (s : ResourceState) (call : SynchCall) :
    ResourceState × Option SynchError :=
  if s.synchronizing then (s, some .synchAlreadyRunning)
  else
    let (after, result) := synch rt { s with synchronizing := true } call
    let err :=
      match result with
      | .error err => some err
      | .ok _ => none
    ({ after with synchronizing := false }, err)

/-- A watch event stores a new object: its maps are new ones. -/
def put (s : ResourceState) (ns : Namespace) : ResourceState :=
  let (heap, labels) := s.heap.allocRef ns.metadata.labels
  let (heap, annotations) := heap.allocRef ns.metadata.annotations
  { s with
    heap := heap
    stored := s.stored.insert ns.name
      { name := ns.name
        nsName := ns.metadata.nsName
        labels := labels
        annotations := annotations
        managedFields := ns.metadata.managedFields
        spec := ns.spec
        status := ns.status } }

def remove (s : ResourceState) (name : GoString) : ResourceState :=
  { s with stored := s.stored.erase name }

def content (s : ResourceState) (name : GoString) : Option Namespace :=
  (s.stored.lookup name).map (SharedNamespace.resolve s.heap)

end ResourceState

def readData (heap : MapHeap) (c : SharedAccessData) (sub : Subject) : Option (List Namespace) :=
  (c.lookup sub).map (List.map (SharedNamespace.resolve heap))

/-! ### One published entry -/

theorem SharedNamespace.deepCopy_spec (heap : MapHeap) (ns : SharedNamespace)
    (inside : ns.within 0 heap.size) :
    Heap.Frame (fun _ => False) heap (ns.deepCopy heap).1 ∧
      (ns.deepCopy heap).2.within heap.size (ns.deepCopy heap).1.size ∧
      (∀ address, (ns.deepCopy heap).2.labels = some address →
        (ns.deepCopy heap).2.annotations ≠ some address) ∧
      (ns.deepCopy heap).2.resolve (ns.deepCopy heap).1 = ns.resolve heap := by
  have labelsFrame : Heap.Frame (fun _ => False) heap (heap.copy ns.labels).1 :=
    (Heap.Frame.refl _ heap).allocRef _
  have annotationsSame : ns.annotations.bind (heap.copy ns.labels).1.read =
      ns.annotations.bind heap.read := by
    cases reference : ns.annotations with
    | none => rfl
    | some address =>
        exact labelsFrame.kept address (inside address (Or.inr reference)).2 not_false
  obtain ⟨frame, labelsRead, annotationsRead, fresh, apart⟩ := heap.allocRef_twice
    (ns.labels.bind heap.read) (ns.annotations.bind (heap.copy ns.labels).1.read)
  refine ⟨frame, fresh, apart, ?_⟩
  rw [annotationsSame] at annotationsRead
  unfold SharedNamespace.resolve
  rw [← labelsRead, ← annotationsRead, ← annotationsSame]
  rfl

namespace SharedMaps

theorem withVirtual_spec (rt : Runtime) (heap : MapHeap) (ns : SharedNamespace) (sub : Subject)
    (inside : ns.within 0 heap.size) :
    let made := withVirtualLabelsAndAnnotationsForAccess rt heap ns sub
    Heap.Frame (fun _ => False) heap made.1 ∧
      made.2.within heap.size made.1.size ∧
      made.2.resolve made.1 =
        NamespaceLister.withVirtualLabelsAndAnnotationsForAccess rt (ns.resolve heap) sub := by
  obtain ⟨copied, copyInside, copyApart, copySame⟩ := ns.deepCopy_spec heap inside
  unfold withVirtualLabelsAndAnnotationsForAccess
  generalize ns.deepCopy heap = copy at copied copyInside copyApart copySame ⊢
  obtain ⟨copyHeap, lns⟩ := copy
  dsimp only at copied copyInside copyApart copySame ⊢
  have labelsInside : ∀ address, lns.labels = some address →
      heap.size ≤ address ∧ address < copyHeap.size :=
    fun address owned => copyInside address (Or.inl owned)
  have annotationsInside : ∀ address, lns.annotations = some address →
      heap.size ≤ address ∧ address < copyHeap.size :=
    fun address owned => copyInside address (Or.inr owned)
  obtain ⟨labelRead, annotationRead⟩ := copyHeap.assign_twice lns.labels lns.annotations ∅
    (addAccess rt sub) (addSubject sub) (fun address owned => (labelsInside address owned).2)
    (fun address owned => (annotationsInside address owned).2) copyApart
  obtain ⟨frame, labelFresh, annotationFresh⟩ := copied.assign_twice lns.labels lns.annotations ∅
    (addAccess rt sub) (addSubject sub) labelsInside annotationsInside
  refine ⟨frame, ?_, ?_⟩
  · intro address owned
    rcases owned with first | second
    · cases first
      exact labelFresh
    · cases second
      exact annotationFresh
  · rw [← copySame]
    unfold SharedNamespace.resolve NamespaceLister.withVirtualLabelsAndAnnotationsForAccess
    simp only [Option.bind_some, labelRead, annotationRead]
    rfl

end SharedMaps

/-! ### The loop -/

structure Represents (low : Nat) (heap : MapHeap) (c : SharedAccessData) (d : AccessData) :
    Prop where
  content : ∀ sub, d.lookup sub = readData heap c sub
  inside : ∀ sub nn, c.lookup sub = some nn → ∀ ns ∈ nn, ns.within low heap.size

theorem Represents.empty (low : Nat) (heap : MapHeap) : Represents low heap ∅ ∅ :=
  { content := fun _ => rfl
    inside := fun _ _ absent => by cases absent }

theorem readData_congr (first second : MapHeap) (c : SharedAccessData)
    (same : ∀ sub nn, c.lookup sub = some nn → ∀ ns ∈ nn, ns.resolve second = ns.resolve first) :
    readData second c = readData first c := by
  funext sub
  unfold readData
  cases found : c.lookup sub with
  | none => rfl
  | some nn =>
      simp only [Option.map_some]
      rw [List.map_congr_left (same sub nn found)]

theorem Represents.frame {touched : Nat → Prop} {low : Nat} {before after : MapHeap}
    {c : SharedAccessData} {d : AccessData} (represents : Represents low before c d)
    (frame : Heap.Frame touched before after) (below : ∀ address, touched address → address < low) :
    Represents low after c d :=
  { content := by
      have same : readData after c = readData before c := by
        apply readData_congr
        intro sub nn found ns member
        apply ns.resolve_frame low (represents.inside sub nn found ns member) frame
        intro address owned reached
        have early := below address reached
        have late := (represents.inside sub nn found ns member address owned).1
        omega
      intro sub
      rw [same, represents.content]
    inside := by
      intro sub nn found ns member
      exact ns.within_mono low before.size low after.size
        (represents.inside sub nn found ns member) (Nat.le_refl _) frame.grows }

namespace SharedMaps

theorem storeAccess_spec (rt : Runtime) (low : Nat) (heap : MapHeap) (c : SharedAccessData)
    (d : AccessData) (ns : SharedNamespace) (sub : Subject) (lower : low ≤ heap.size)
    (inside : ns.within 0 heap.size) (represents : Represents low heap c d) :
    Heap.Frame (fun _ => False) heap (storeAccess rt ns (heap, c) sub).1 ∧
      Represents low (storeAccess rt ns (heap, c) sub).1 (storeAccess rt ns (heap, c) sub).2
        (NamespaceLister.storeAccess rt (ns.resolve heap) d sub) := by
  obtain ⟨frame, madeInside, made⟩ := withVirtual_spec rt heap ns sub inside
  unfold storeAccess
  generalize withVirtualLabelsAndAnnotationsForAccess rt heap ns sub = result
    at frame madeInside made ⊢
  obtain ⟨after, lns⟩ := result
  dsimp only at frame madeInside made ⊢
  have kept := represents.frame frame (fun _ impossible => impossible.elim)
  constructor
  · exact frame
  · constructor
    · intro wanted
      unfold NamespaceLister.storeAccess readData
      rw [GoMap.lookup_assign, GoMap.lookup_assign]
      by_cases same : wanted = sub
      · subst wanted
        rw [if_pos rfl, if_pos rfl, kept.content, ← made]
        unfold readData
        cases c.lookup sub <;> simp
      · rw [if_neg same, if_neg same]
        exact kept.content wanted
    · intro wanted nn found item member
      rw [GoMap.lookup_assign] at found
      by_cases same : wanted = sub
      · subst wanted
        rw [if_pos rfl] at found
        cases found
        rcases List.mem_append.mp member with old | new
        · cases stored : c.lookup sub with
          | none =>
              rw [stored] at old
              cases old
          | some earlier =>
              rw [stored] at old
              exact kept.inside sub earlier stored item old
        · rw [List.mem_singleton] at new
          subst item
          exact lns.within_mono heap.size after.size low after.size madeInside lower (Nat.le_refl _)
      · rw [if_neg same] at found
        exact kept.inside wanted nn found item member

theorem foldl_storeAccess_spec (rt : Runtime) (low : Nat) (ns : SharedNamespace)
    (ss : List Subject) (heap : MapHeap) (c : SharedAccessData) (d : AccessData)
    (lower : low ≤ heap.size) (inside : ns.within 0 heap.size)
    (represents : Represents low heap c d) :
    Heap.Frame (fun _ => False) heap (ss.foldl (storeAccess rt ns) (heap, c)).1 ∧
      Represents low (ss.foldl (storeAccess rt ns) (heap, c)).1
        (ss.foldl (storeAccess rt ns) (heap, c)).2
        (ss.foldl (NamespaceLister.storeAccess rt (ns.resolve heap)) d) := by
  induction ss generalizing heap c d with
  | nil => exact ⟨Heap.Frame.refl _ heap, represents⟩
  | cons sub rest ih =>
      obtain ⟨frame, stored⟩ := storeAccess_spec rt low heap c d ns sub lower inside represents
      rw [List.foldl_cons, List.foldl_cons]
      generalize storeAccess rt ns (heap, c) sub = result at frame stored ⊢
      obtain ⟨after, data⟩ := result
      dsimp only at frame stored
      have unchanged : ns.resolve after = ns.resolve heap :=
        ns.resolve_frame 0 inside frame (fun _ _ impossible => impossible)
      obtain ⟨later, completed⟩ := ih after data _ (Nat.le_trans lower frame.grows)
        (ns.within_mono 0 heap.size 0 after.size inside (Nat.le_refl _) frame.grows) stored
      rw [unchanged] at completed
      exact ⟨frame.trans later, completed⟩

end SharedMaps

/-! ### What a synchronization writes -/

def Namespace.withVisibility (ns : Namespace) (value : GoString) : Namespace :=
  match ns.metadata.labels with
  | none => ns
  | some ll =>
      { ns with
        metadata :=
          { ns.metadata with
            labels := some (ll.insert VirtualLabelKeyVisibility value) } }

theorem setVisibilityVirtualLabel_eq (ns : Namespace) (subs : List Subject) :
    setVisibilityVirtualLabel ns subs = ns.withVisibility (visibility subs) := rfl

def Namespace.relabelled (ns : Namespace) : Option GoString → Namespace
  | none => ns
  | some value => ns.withVisibility value

/-- The visibility that a pass over the names computes for one of them, unless
the context expires before it gets there. -/
def SynchCall.written (call : SynchCall) : Nat → List GoString → GoString → Option GoString
  | _, [], _ => none
  | i, name :: rest, wanted =>
      match call.ctxErr i with
      | some _ => none
      | none =>
          if name = wanted then
            some (visibility (call.allowedSubjects i (namespaceAttributes (bareNamespace name))).1)
          else call.written (i + 1) rest wanted

namespace SharedNamespace

def OwnMaps (ns : SharedNamespace) : Prop :=
  ∀ address, ns.labels = some address → ns.annotations ≠ some address

def Apart (first second : SharedNamespace) : Prop :=
  ∀ address, (first.labels = some address → ¬ second.owns address) ∧
    (second.labels = some address → ¬ first.owns address)

end SharedNamespace

structure SeparateItems (low : Nat) (nn : List SharedNamespace) : Prop where
  inside : ∀ ns ∈ nn, ns.within 0 low
  ownMaps : ∀ ns ∈ nn, ns.OwnMaps
  apart : nn.Pairwise SharedNamespace.Apart
  names : (nn.map SharedNamespace.name).Nodup

theorem SeparateItems.tail {low : Nat} {ns : SharedNamespace} {rest : List SharedNamespace}
    (separate : SeparateItems low (ns :: rest)) : SeparateItems low rest :=
  { inside := fun item member => separate.inside item (List.mem_cons_of_mem ns member)
    ownMaps := fun item member => separate.ownMaps item (List.mem_cons_of_mem ns member)
    apart := (List.pairwise_cons.mp separate.apart).2
    names := by
      have names := separate.names
      rw [List.map_cons, List.nodup_cons] at names
      exact names.2 }

theorem SeparateItems.rest_kept {low : Nat} {ns : SharedNamespace} {rest : List SharedNamespace}
    {before after : MapHeap} (separate : SeparateItems low (ns :: rest))
    (lower : low ≤ before.size)
    (frame : Heap.Frame (fun address => ns.labels = some address) before after) :
    ∀ item ∈ rest, item.resolve after = item.resolve before := by
  intro item member
  apply item.resolve_frame 0 _ frame
  · intro address owned label
    exact ((List.pairwise_cons.mp separate.apart).1 item member address).1 label owned
  · exact item.within_mono 0 low 0 before.size
      (separate.inside item (List.mem_cons_of_mem ns member)) (Nat.le_refl _) lower

theorem SeparateItems.head_kept {low : Nat} {ns : SharedNamespace} {rest : List SharedNamespace}
    {before after : MapHeap} (separate : SeparateItems low (ns :: rest))
    (lower : low ≤ before.size)
    (frame : Heap.Frame (fun address => ∃ item ∈ rest, item.labels = some address) before after) :
    ns.resolve after = ns.resolve before := by
  apply ns.resolve_frame 0 _ frame
  · rintro address owned ⟨item, member, label⟩
    exact ((List.pairwise_cons.mp separate.apart).1 item member address).2 label owned
  · exact ns.within_mono 0 low 0 before.size (separate.inside ns List.mem_cons_self)
      (Nat.le_refl _) lower

theorem SeparateItems.head_name {low : Nat} {ns : SharedNamespace} {rest : List SharedNamespace}
    (separate : SeparateItems low (ns :: rest)) (item : SharedNamespace) (member : item ∈ rest) :
    ns.name ≠ item.name := by
  have names := separate.names
  rw [List.map_cons, List.nodup_cons] at names
  intro same
  apply names.1
  rw [same]
  exact List.mem_map_of_mem member

inductive SameOutcome (low : Nat) (heap : MapHeap) :
    Except SynchError SharedAccessData → Except SynchError AccessData → Prop where
  | failed (err : SynchError) : SameOutcome low heap (.error err) (.error err)
  | completed (c : SharedAccessData) (d : AccessData) (represents : Represents low heap c d) :
      SameOutcome low heap (.ok c) (.ok d)

namespace SharedMaps

theorem setVisibilityVirtualLabel_spec (heap : MapHeap) (ns : SharedNamespace)
    (subs : List Subject) (inside : ns.within 0 heap.size) (ownMaps : ns.OwnMaps) :
    Heap.Frame (fun address => ns.labels = some address) heap
        (setVisibilityVirtualLabel heap ns subs) ∧
      ns.resolve (setVisibilityVirtualLabel heap ns subs) =
        (ns.resolve heap).withVisibility (visibility subs) := by
  have frame : Heap.Frame (fun address => ns.labels = some address) heap
      (setVisibilityVirtualLabel heap ns subs) :=
    (Heap.Frame.refl _ heap).assign _ _ (fun _ owned => Or.inl owned)
  refine ⟨frame, ?_⟩
  cases reference : ns.labels with
  | none =>
      have unchanged : ns.resolve (setVisibilityVirtualLabel heap ns subs) = ns.resolve heap := by
        apply ns.resolve_frame 0 inside frame
        intro address _owned label
        rw [reference] at label
        cases label
      rw [unchanged]
      simp [SharedNamespace.resolve, Namespace.withVisibility, reference]
  | some address =>
      have bound := (inside address (Or.inl reference)).2
      obtain ⟨ll, found⟩ := heap.read_of_lt address bound
      have written : (setVisibilityVirtualLabel heap ns subs).read address =
          some (ll.insert VirtualLabelKeyVisibility (visibility subs)) := by
        unfold setVisibilityVirtualLabel
        rw [reference]
        change (heap.update address _).read address = _
        rw [Heap.read_update, if_pos rfl, found]
        rfl
      have annotations : ns.annotations.bind (setVisibilityVirtualLabel heap ns subs).read =
          ns.annotations.bind heap.read := by
        cases second : ns.annotations with
        | none => rfl
        | some other =>
            exact frame.kept other (inside other (Or.inr second)).2
              (fun label => ownMaps other label second)
      unfold SharedNamespace.resolve Namespace.withVisibility
      simp only [reference, Option.bind_some, written, found, annotations]

theorem synchNamespace_spec (rt : Runtime) (low : Nat) (heap : MapHeap) (c : SharedAccessData)
    (d : AccessData) (ns : SharedNamespace) (ss : List Subject) (lower : low ≤ heap.size)
    (inside : ns.within 0 low) (ownMaps : ns.OwnMaps) (represents : Represents low heap c d) :
    Heap.Frame (fun address => ns.labels = some address) heap (synchNamespace rt heap c ns ss).1 ∧
      Represents low (synchNamespace rt heap c ns ss).1 (synchNamespace rt heap c ns ss).2
        (NamespaceLister.synchNamespace rt d (ns.resolve heap) ss) ∧
      ns.resolve (synchNamespace rt heap c ns ss).1 =
        (ns.resolve heap).withVisibility (visibility ss) := by
  have early := ns.within_mono 0 low 0 heap.size inside (Nat.le_refl _) lower
  obtain ⟨frame, relabelled⟩ := setVisibilityVirtualLabel_spec heap ns
    (removeDuplicateSubjects rt ss) early ownMaps
  have below : ∀ address, ns.labels = some address → address < low :=
    fun address owned => (inside address (Or.inl owned)).2
  have kept := represents.frame frame below
  unfold synchNamespace
  dsimp only
  generalize setVisibilityVirtualLabel heap ns (removeDuplicateSubjects rt ss) = labelled
    at frame relabelled kept ⊢
  have lateInside := ns.within_mono 0 heap.size 0 labelled.size early (Nat.le_refl _) frame.grows
  obtain ⟨stores, completed⟩ := foldl_storeAccess_spec rt low ns (removeDuplicateSubjects rt ss)
    labelled c d (Nat.le_trans lower frame.grows) lateInside kept
  rw [relabelled] at completed
  refine ⟨frame.trans (stores.mono (fun _ impossible => impossible.elim)), completed, ?_⟩
  rw [← visibility_removeDuplicateSubjects rt ss, ← relabelled]
  exact ns.resolve_frame 0 lateInside stores (fun _ _ impossible => impossible)

theorem synchLoop_spec (rt : Runtime) (call : SynchCall) (low : Nat) (values : List Namespace)
    (i : Nat) (nn : List SharedNamespace) (heap : MapHeap) (c : SharedAccessData) (d : AccessData)
    (lower : low ≤ heap.size) (separate : SeparateItems low nn)
    (represents : Represents low heap c d) :
    let result := synchLoop rt call i nn heap c
    Heap.Frame (fun address => ∃ ns ∈ nn, ns.labels = some address) heap result.1 ∧
      SameOutcome low result.1 result.2
        (NamespaceLister.synchLoop rt (call.observing values) i
          (nn.map (SharedNamespace.resolve heap)) d) ∧
      ∀ ns ∈ nn, ns.resolve result.1 =
        (ns.resolve heap).relabelled (call.written i (nn.map SharedNamespace.name) ns.name) := by
  induction nn generalizing i heap c d with
  | nil =>
      refine ⟨Heap.Frame.refl _ heap, SameOutcome.completed c d represents, ?_⟩
      intro ns member
      cases member
  | cons ns rest ih =>
      cases context : call.ctxErr i with
      | some cause =>
          have shared : synchLoop rt call i (ns :: rest) heap c =
              (heap, .error (.contextDone cause)) := by
            rw [synchLoop, context]
          rw [shared, List.map_cons,
            synchLoop_expired rt (call.observing values) i _ _ d cause context]
          refine ⟨Heap.Frame.refl _ heap, SameOutcome.failed _, ?_⟩
          intro item _member
          rw [List.map_cons, SynchCall.written, context]
          rfl
      | none =>
          generalize replied :
            (call.allowedSubjects i (namespaceAttributes (ns.resolve heap))).1 = ss
          have shared : synchLoop rt call i (ns :: rest) heap c =
              synchLoop rt call (i + 1) rest (synchNamespace rt heap c ns ss).1
                (synchNamespace rt heap c ns ss).2 := by
            rw [synchLoop, context]
            dsimp only
            rw [replied]
          have value := synchLoop_next rt (call.observing values) i (ns.resolve heap)
            (rest.map (SharedNamespace.resolve heap)) d context
          change _ = NamespaceLister.synchLoop _ _ _ _ (NamespaceLister.synchNamespace rt d _
            (call.allowedSubjects i (namespaceAttributes (ns.resolve heap))).1) at value
          rw [replied] at value
          obtain ⟨frame, stored, relabelled⟩ := synchNamespace_spec rt low heap c d ns ss lower
            (separate.inside ns List.mem_cons_self) (separate.ownMaps ns List.mem_cons_self)
            represents
          rw [shared, List.map_cons, value]
          generalize synchNamespace rt heap c ns ss = middle at frame stored relabelled
          have later := separate.rest_kept lower frame
          have lowerMiddle := Nat.le_trans lower frame.grows
          obtain ⟨restFrame, outcome, restWritten⟩ := ih (i + 1) middle.1 middle.2 _
            lowerMiddle separate.tail stored
          rw [List.map_congr_left later] at outcome
          refine ⟨?_, outcome, ?_⟩
          · apply (frame.mono _).trans (restFrame.mono _)
            · intro address label
              exact ⟨ns, List.mem_cons_self, label⟩
            · rintro address ⟨item, member, label⟩
              exact ⟨item, List.mem_cons_of_mem ns member, label⟩
          · intro item member
            rw [List.map_cons, SynchCall.written, context]
            dsimp only
            rcases List.mem_cons.mp member with head | inRest
            · subst item
              rw [if_pos rfl, separate.head_kept lowerMiddle restFrame, relabelled, ← replied]
              rfl
            · rw [if_neg (separate.head_name item inRest), ← later item inRest]
              exact restWritten item inRest

end SharedMaps
end NamespaceLister
