/-
The request path: from a username and its groups to a list of namespaces.
-/

import NamespaceLister.SynchOutcome

namespace NamespaceLister

open Library

/-- `corev1.NamespaceList`; `items` is `none` when the slice is nil. -/
structure NamespaceList where
  kind : GoString
  apiVersion : GoString
  items : Option (List Namespace)

def NamespaceList.names (reply : NamespaceList) : List GoString :=
  (reply.items.getD []).map Namespace.name

def colon : UInt8 := 58

def parseUsername (username : GoString) : Except Panic Subject :=
  if GoString.hasPrefix username "system:serviceaccount:" then
    let ss := GoString.split username colon
    match ss[3]?, ss[2]? with
    | some name, some nsName => .ok (serviceAccountSubject nsName name)
    | none, _ => .error (.indexOutOfRange 3 ss.length)
    | some _, none => .error (.indexOutOfRange 2 ss.length)
  else .ok (userSubject username)

def subjects (username : GoString) (groups : List GoString) : Except Panic (List Subject) :=
  match parseUsername username with
  | .error panic => .error panic
  | .ok sub => .ok (sub :: groups.map groupSubject)

def listNamespaces (order : RangeOrder Namespace) (cache : AccessCache) (username : GoString)
    (groups : List GoString) : Except Panic NamespaceList :=
  match subjects username groups with
  | .error panic => .error panic
  | .ok subs =>
      match cache.listKeys order subs with
      | .error panic => .error panic
      | .ok nn =>
          .ok
            { kind := "NamespaceList"
              apiVersion := "v1"
              items := nn }

/-! ### Replies after a synchronization -/

/-- Resources that do not change while `synch` reads them. -/
def steady (nn : List Namespace) (ctxErr : Nat → Option ContextError)
    (allowed : AttributesRecord → List Subject × Option GoString) : SynchObservations :=
  { listed := .ok nn
    ctxErr := ctxErr
    allowedSubjects := fun _ attributes => allowed attributes }

def allowedFor (allowed : AttributesRecord → List Subject × Option GoString)
    (ns : Namespace) : List Subject :=
  (allowed (namespaceAttributes ns)).1

def pairsOf (nn : List Namespace)
    (allowed : AttributesRecord → List Subject × Option GoString) :
    List (Namespace × List Subject) :=
  nn.map (fun ns => (ns, allowedFor allowed ns))

private theorem observedPairs_steady (listed : List Namespace)
    (ctxErr : Nat → Option ContextError)
    (allowed : AttributesRecord → List Subject × Option GoString) (i : Nat)
    (nn : List Namespace) :
    observedPairs (steady listed ctxErr allowed) i nn = pairsOf nn allowed := by
  induction nn generalizing i with
  | nil => rfl
  | cons ns rest ih =>
      unfold observedPairs
      rw [ih]
      rfl

theorem Synch_steady_data (rt : Runtime) (s : SynchronizedAccessCache) (nn : List Namespace)
    (ctxErr : Nat → Option ContextError)
    (allowed : AttributesRecord → List Subject × Option GoString)
    (succeeded : (s.Synch rt (steady nn ctxErr allowed)).2 = none) :
    (s.Synch rt (steady nn ctxErr allowed)).1.accessCache.data =
      some (accessOf rt (pairsOf nn allowed)) := by
  rw [← observedPairs_steady nn ctxErr allowed 0 nn]
  exact Synch_published rt s (steady nn ctxErr allowed) nn rfl succeeded

theorem Synch_steady_succeeds (rt : Runtime) (s : SynchronizedAccessCache)
    (free : s.synchronizing = false) (nn : List Namespace)
    (allowed : AttributesRecord → List Subject × Option GoString) :
    (s.Synch rt (steady nn (fun _ => none) allowed)).2 = none := by
  have exit := Synch_exit rt s (steady nn (fun _ => none) allowed)
  generalize s.Synch rt (steady nn (fun _ => none) allowed) = result at exit
  cases exit with
  | running busy =>
      rw [free] at busy
      cases busy
  | listFailed cause _free failed => cases failed
  | expired other position cause _free listed inside seen => cases seen
  | published other _free listed inTime => rfl

theorem mem_grants_names (rt : Runtime) (nn : List Namespace)
    (allowed : AttributesRecord → List Subject × Option GoString) (sub : Subject)
    (name : GoString) :
    name ∈ (grants rt (pairsOf nn allowed) sub).map Namespace.name ↔
      ∃ ns ∈ nn, ns.name = name ∧ sub ∈ allowedFor allowed ns := by
  rw [grants_names]
  simp only [pairsOf, List.mem_map, List.mem_filter, decide_eq_true_eq]
  constructor
  · intro present
    obtain ⟨pair, ⟨⟨ns, inList, same⟩, granted⟩, named⟩ := present
    subst pair
    exact ⟨ns, inList, named, granted⟩
  · intro present
    obtain ⟨ns, inList, named, granted⟩ := present
    exact ⟨(ns, allowedFor allowed ns), ⟨⟨ns, inList, rfl⟩, granted⟩, named⟩

theorem underKeys_accessOf (rt : Runtime) (pairs : List (Namespace × List Subject))
    (keys : List Subject) :
    AtomicListRestockCache.underKeys (accessOf rt pairs) keys =
      keys.flatMap (grants rt pairs) := by
  unfold AtomicListRestockCache.underKeys
  simp only [accessOf_getD]

theorem listNamespaces_of_listKeys (order : RangeOrder Namespace) (cache : AccessCache)
    (username : GoString) (groups : List GoString) (sub : Subject)
    (parsed : parseUsername username = .ok sub) (items : Option (List Namespace))
    (listed : cache.listKeys order (sub :: groups.map groupSubject) = .ok items) :
    listNamespaces order cache username groups =
      .ok { kind := "NamespaceList", apiVersion := "v1", items := items } := by
  simp only [listNamespaces, subjects, parsed, listed]

theorem listNamespaces_items (order : RangeOrder Namespace) (cache : AccessCache)
    (username : GoString) (groups : List GoString) (sub : Subject)
    (parsed : parseUsername username = .ok sub) (reply : NamespaceList)
    (listed : listNamespaces order cache username groups = .ok reply) :
    cache.listKeys order (sub :: groups.map groupSubject) = .ok reply.items := by
  cases found : cache.listKeys order (sub :: groups.map groupSubject) with
  | error panic => simp [listNamespaces, subjects, parsed, found] at listed
  | ok items =>
      rw [listNamespaces_of_listKeys order cache username groups sub parsed items found] at listed
      cases listed
      rfl

/-- The names in a reply are those granted to one of the looked-up subjects. -/
theorem listNamespaces_names (rt : Runtime) (order : RangeOrder Namespace)
    (s : SynchronizedAccessCache) (nn : List Namespace) (ctxErr : Nat → Option ContextError)
    (allowed : AttributesRecord → List Subject × Option GoString)
    (succeeded : (s.Synch rt (steady nn ctxErr allowed)).2 = none)
    (username : GoString) (groups : List GoString) (sub : Subject)
    (parsed : parseUsername username = .ok sub) :
    ∃ reply,
      listNamespaces order (s.Synch rt (steady nn ctxErr allowed)).1.accessCache
        username groups = .ok reply ∧
      ∀ name, name ∈ reply.names ↔
        ∃ ns ∈ nn, ns.name = name ∧
          ∃ key ∈ sub :: groups.map groupSubject, key ∈ allowedFor allowed ns := by
  obtain ⟨items, listed, ids⟩ :=
    AtomicListRestockCache.listKeys_ids order
      (s.Synch rt (steady nn ctxErr allowed)).1.accessCache
      (accessOf rt (pairsOf nn allowed))
      (Synch_steady_data rt s nn ctxErr allowed succeeded)
      (sub :: groups.map groupSubject)
  refine ⟨_, listNamespaces_of_listKeys order _ username groups sub parsed items listed, ?_⟩
  intro name
  change name ∈ (items.getD []).map Namespace.name ↔ _
  rw [ids, underKeys_accessOf, List.map_flatMap, List.mem_flatMap]
  simp only [mem_grants_names]
  constructor
  · intro present
    obtain ⟨key, inKeys, ns, inList, named, granted⟩ := present
    exact ⟨ns, inList, named, key, inKeys, granted⟩
  · intro present
    obtain ⟨ns, inList, named, key, inKeys, granted⟩ := present
    exact ⟨key, inKeys, ns, inList, named, granted⟩

/-- With distinct namespace names the reply is the first-wins union of the
entries of the looked-up subjects. -/
theorem listNamespaces_firstWins (rt : Runtime) (order : RangeOrder Namespace)
    (s : SynchronizedAccessCache) (nn : List Namespace) (ctxErr : Nat → Option ContextError)
    (allowed : AttributesRecord → List Subject × Option GoString)
    (distinct : (nn.map Namespace.name).Nodup)
    (succeeded : (s.Synch rt (steady nn ctxErr allowed)).2 = none)
    (username : GoString) (groups : List GoString) (sub : Subject)
    (parsed : parseUsername username = .ok sub) :
    ∃ reply,
      listNamespaces order (s.Synch rt (steady nn ctxErr allowed)).1.accessCache
        username groups = .ok reply ∧
      AtomicListRestockCache.FirstWins Namespace.name
        ((sub :: groups.map groupSubject).flatMap (grants rt (pairsOf nn allowed)))
        (reply.items.getD []) := by
  have pairsDistinct : ((pairsOf nn allowed).map (fun pair => pair.1.name)).Nodup := by
    unfold pairsOf
    rw [List.map_map]
    exact distinct
  obtain ⟨items, listed, union⟩ :=
    AtomicListRestockCache.listKeys_firstWins order
      (s.Synch rt (steady nn ctxErr allowed)).1.accessCache
      (accessOf rt (pairsOf nn allowed))
      (Synch_steady_data rt s nn ctxErr allowed succeeded)
      (sub :: groups.map groupSubject)
      (accessOf_lists_distinct rt (pairsOf nn allowed) pairsDistinct)
  refine ⟨_, listNamespaces_of_listKeys order _ username groups sub parsed items listed, ?_⟩
  rw [underKeys_accessOf] at union
  exact union

end NamespaceLister
