/-
A reply depends on the caller's own access only.

Two synchronizations whose inputs agree on the namespaces that some looked-up
subject may get, on which of these subjects may get them, and on their sharing
with system:authenticated give the same items, whatever they hold for others.
-/

import NamespaceLister.SubjectNamespaceLister

namespace NamespaceLister

open Library

/-- The namespaces that some subject of `keys` is allowed on. -/
def visibleTo (keys : List Subject)
    (allowed : AttributesRecord → List Subject × Option GoString) (nn : List Namespace) :
    List Namespace :=
  nn.filter (fun ns => keys.any (fun key => key ∈ allowedFor allowed ns))

private theorem grants_visibleTo (rt : Runtime) (keys : List Subject) (key : Subject)
    (member : key ∈ keys) (allowed : AttributesRecord → List Subject × Option GoString)
    (nn : List Namespace) :
    grants rt (pairsOf nn allowed) key =
      grants rt (pairsOf (visibleTo keys allowed nn) allowed) key := by
  unfold grants pairsOf visibleTo
  rw [List.filter_map, List.filter_map, List.filter_filter]
  congr 2
  apply List.filter_congr
  intro ns _inList
  simp only [Function.comp_apply]
  by_cases granted : key ∈ allowedFor allowed ns
  · have some_ : keys.any (fun other => other ∈ allowedFor allowed ns) = true :=
      List.any_eq_true.mpr ⟨key, member, by simpa using granted⟩
    simp only [granted, decide_true, some_, Bool.and_self]
  · simp only [granted, decide_false, Bool.false_and]

private theorem grants_congr (rt : Runtime) (key : Subject) (nn : List Namespace)
    (first second : AttributesRecord → List Subject × Option GoString)
    (agreeKey : ∀ ns ∈ nn, key ∈ allowedFor first ns ↔ key ∈ allowedFor second ns)
    (agreeAuthenticated : ∀ ns ∈ nn,
      (allowedFor first ns).any isSystemAuthenticatedGroup =
        (allowedFor second ns).any isSystemAuthenticatedGroup) :
    grants rt (pairsOf nn first) key = grants rt (pairsOf nn second) key := by
  induction nn with
  | nil => rfl
  | cons ns rest ih =>
      have tails := ih
        (fun other inRest => agreeKey other (List.mem_cons_of_mem ns inRest))
        (fun other inRest => agreeAuthenticated other (List.mem_cons_of_mem ns inRest))
      have relabelled : setVisibilityVirtualLabel ns (allowedFor first ns) =
          setVisibilityVirtualLabel ns (allowedFor second ns) :=
        setVisibilityVirtualLabel_congr ns _ _ (agreeAuthenticated ns List.mem_cons_self)
      have agreeHead := agreeKey ns List.mem_cons_self
      unfold grants pairsOf at tails ⊢
      rw [List.map_cons, List.map_cons]
      by_cases granted : key ∈ allowedFor first ns
      · have grantedSecond := agreeHead.mp granted
        rw [List.filter_cons_of_pos (by simpa using granted),
          List.filter_cons_of_pos (by simpa using grantedSecond), List.map_cons, List.map_cons,
          tails]
        simp only [accessEntry, relabelled]
      · have refusedSecond : key ∉ allowedFor second ns := fun granted' =>
          granted (agreeHead.mpr granted')
        rw [List.filter_cons_of_neg (by simpa using granted),
          List.filter_cons_of_neg (by simpa using refusedSecond), tails]

private theorem listKeys_none_iff (rt : Runtime) (order : RangeOrder Namespace)
    (cache : AccessCache) (pairs : List (Namespace × List Subject))
    (restocked : cache.data = some (accessOf rt pairs)) (keys : List Subject)
    (items : Option (List Namespace)) (listed : cache.listKeys order keys = .ok items) :
    items = none ↔ keys = [] ∨ ∃ key, keys = [key] ∧ grants rt pairs key = [] := by
  match keys with
  | [] =>
      cases listed
      simp
  | [key] =>
      simp only [AtomicListRestockCache.listKeys, AtomicListRestockCache.list, restocked,
        Except.ok.injEq] at listed
      rw [← listed, lookup_accessOf]
      simp
  | first :: second :: rest =>
      simp only [AtomicListRestockCache.listKeys, AtomicListRestockCache.listAll, restocked,
        Except.ok.injEq] at listed
      rw [← listed]
      simp

private theorem subjects_shape (username : GoString) (groups : List GoString)
    (keys : List Subject) (parsed : subjects username groups = .ok keys) :
    ∃ sub, parseUsername username = .ok sub ∧ keys = sub :: groups.map groupSubject := by
  unfold subjects at parsed
  cases user : parseUsername username with
  | error panic =>
      rw [user] at parsed
      cases parsed
  | ok sub =>
      rw [user] at parsed
      cases parsed
      exact ⟨sub, rfl, rfl⟩

private theorem nilSlice_of_same (keys : List Subject) (first second : Subject → List Namespace)
    (same : ∀ key ∈ keys, first key = second key)
    (empty : keys = [] ∨ ∃ key, keys = [key] ∧ first key = []) :
    keys = [] ∨ ∃ key, keys = [key] ∧ second key = [] := by
  rcases empty with noKeys | ⟨key, single, noGrant⟩
  · exact Or.inl noKeys
  · have member : key ∈ keys := by
      rw [single]
      exact List.mem_cons_self
    exact Or.inr ⟨key, single, (same key member).symm.trans noGrant⟩

private theorem grants_of_sameView (rt : Runtime) (keys : List Subject)
    (firstNn secondNn : List Namespace)
    (first second : AttributesRecord → List Subject × Option GoString)
    (sameVisible : visibleTo keys first firstNn = visibleTo keys second secondNn)
    (agreeKeys : ∀ ns ∈ visibleTo keys first firstNn, ∀ key ∈ keys,
      (key ∈ allowedFor first ns ↔ key ∈ allowedFor second ns))
    (agreeAuthenticated : ∀ ns ∈ visibleTo keys first firstNn,
      ((∃ sub ∈ allowedFor first ns, isSystemAuthenticatedGroup sub = true) ↔
        ∃ sub ∈ allowedFor second ns, isSystemAuthenticatedGroup sub = true))
    (key : Subject) (member : key ∈ keys) :
    grants rt (pairsOf firstNn first) key = grants rt (pairsOf secondNn second) key := by
  rw [grants_visibleTo rt keys key member first firstNn,
    grants_visibleTo rt keys key member second secondNn, ← sameVisible]
  apply grants_congr
  · intro ns inView
    exact agreeKeys ns inView key member
  · intro ns inView
    rw [Bool.eq_iff_iff, List.any_eq_true, List.any_eq_true]
    exact agreeAuthenticated ns inView

/-- Replies of two synchronizations that agree on the caller's own view have the
same items up to order, and a nil slice in one is a nil slice in the other. -/
theorem listNamespaces_noninterference (rt : Runtime)
    (firstOrder secondOrder : RangeOrder Namespace)
    (username : GoString) (groups : List GoString) (keys : List Subject)
    (parsed : subjects username groups = .ok keys)
    (firstCache secondCache : SynchronizedAccessCache)
    (firstNn secondNn : List Namespace) (firstCtx secondCtx : Nat → Option ContextError)
    (first second : AttributesRecord → List Subject × Option GoString)
    (firstDistinct : (firstNn.map Namespace.name).Nodup)
    (secondDistinct : (secondNn.map Namespace.name).Nodup)
    (firstSucceeded : (firstCache.Synch rt (steady firstNn firstCtx first)).2 = none)
    (secondSucceeded : (secondCache.Synch rt (steady secondNn secondCtx second)).2 = none)
    (sameVisible : visibleTo keys first firstNn = visibleTo keys second secondNn)
    (agreeKeys : ∀ ns ∈ visibleTo keys first firstNn, ∀ key ∈ keys,
      (key ∈ allowedFor first ns ↔ key ∈ allowedFor second ns))
    (agreeAuthenticated : ∀ ns ∈ visibleTo keys first firstNn,
      ((∃ sub ∈ allowedFor first ns, isSystemAuthenticatedGroup sub = true) ↔
        ∃ sub ∈ allowedFor second ns, isSystemAuthenticatedGroup sub = true)) :
    ∃ firstReply secondReply,
      listNamespaces firstOrder
        (firstCache.Synch rt (steady firstNn firstCtx first)).1.accessCache
        username groups = .ok firstReply ∧
      listNamespaces secondOrder
        (secondCache.Synch rt (steady secondNn secondCtx second)).1.accessCache
        username groups = .ok secondReply ∧
      (firstReply.items.getD []).Perm (secondReply.items.getD []) ∧
      (firstReply.items = none ↔ secondReply.items = none) := by
  obtain ⟨sub, parsedUser, keysShape⟩ := subjects_shape username groups keys parsed
  have sameGrants := grants_of_sameView rt keys firstNn secondNn first second sameVisible
    agreeKeys agreeAuthenticated
  obtain ⟨firstReply, firstListed, firstUnion⟩ := listNamespaces_firstWins rt firstOrder
    firstCache firstNn firstCtx first firstDistinct firstSucceeded username groups sub parsedUser
  obtain ⟨secondReply, secondListed, secondUnion⟩ := listNamespaces_firstWins rt secondOrder
    secondCache secondNn secondCtx second secondDistinct secondSucceeded username groups sub
    parsedUser
  refine ⟨firstReply, secondReply, firstListed, secondListed, ?_, ?_⟩
  · have sameReached : keys.flatMap (grants rt (pairsOf firstNn first)) =
        keys.flatMap (grants rt (pairsOf secondNn second)) :=
      List.flatMap_congr sameGrants
    rw [← keysShape, sameReached] at firstUnion
    rw [← keysShape] at secondUnion
    exact firstUnion.perm secondUnion
  · have firstItems := listNamespaces_items firstOrder _ username groups sub parsedUser
      firstReply firstListed
    have secondItems := listNamespaces_items secondOrder _ username groups sub parsedUser
      secondReply secondListed
    rw [← keysShape] at firstItems secondItems
    rw [listKeys_none_iff rt firstOrder _ _
        (Synch_steady_data rt firstCache firstNn firstCtx first firstSucceeded) keys _ firstItems,
      listKeys_none_iff rt secondOrder _ _
        (Synch_steady_data rt secondCache secondNn secondCtx second secondSucceeded) keys _
        secondItems]
    constructor
    · intro empty
      exact nilSlice_of_same keys _ _ sameGrants empty
    · intro empty
      exact nilSlice_of_same keys _ _ (fun key member => (sameGrants key member).symm) empty

private def sharedTenant : Namespace :=
  { bareNamespace "team-a" with
    metadata := { ObjectMeta.bare [] "team-a" with labels := some ∅ } }

private def otherTenant : Namespace :=
  { sharedTenant with metadata := { sharedTenant.metadata with name := "team-b" } }

private def aliceAlone (_attributes : AttributesRecord) : List Subject × Option GoString :=
  ([userSubject "alice"], none)

private def aliceAndBob (attributes : AttributesRecord) : List Subject × Option GoString :=
  if attributes.name = GoString.ofLiteral "team-a" then
    ([userSubject "bob", userSubject "alice"], none)
  else ([userSubject "bob"], none)

theorem listNamespaces_noninterference_alice :
    ∃ firstReply secondReply,
      listNamespaces (RangeOrder.asKept Namespace)
        (SynchronizedAccessCache.new.Synch Runtime.reference
          (steady [sharedTenant] (fun _ => none) aliceAlone)).1.accessCache
        "alice" [] = .ok firstReply ∧
      listNamespaces (RangeOrder.asKept Namespace)
        (SynchronizedAccessCache.new.Synch Runtime.reference
          (steady [otherTenant, sharedTenant] (fun _ => none) aliceAndBob)).1.accessCache
        "alice" [] = .ok secondReply ∧
      (firstReply.items.getD []).Perm (secondReply.items.getD []) ∧
      (firstReply.items = none ↔ secondReply.items = none) :=
  listNamespaces_noninterference Runtime.reference (RangeOrder.asKept Namespace)
    (RangeOrder.asKept Namespace) "alice" [] [userSubject "alice"] rfl
    SynchronizedAccessCache.new SynchronizedAccessCache.new _ _ _ _ aliceAlone aliceAndBob
    (by decide) (by decide)
    (Synch_steady_succeeds Runtime.reference SynchronizedAccessCache.new rfl _ aliceAlone)
    (Synch_steady_succeeds Runtime.reference SynchronizedAccessCache.new rfl _ aliceAndBob)
    (by decide) (by decide) (by decide)

end NamespaceLister
