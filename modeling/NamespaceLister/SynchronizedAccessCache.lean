/-
One synchronization of the access cache, from the listed namespaces to the
published access data.

The loop of `synch` inverts the relation between namespaces and their allowed
subjects.  `accessOf` is that loop without its error exits, over the pairs of a
namespace and the subjects that were returned for it; `lookup_accessOf` is the
one fact about it that the results on replies use.
-/

import NamespaceLister.AtomicListRestockCache
import NamespaceLister.Library.Machine

namespace NamespaceLister

open Library

abbrev AccessData := GoMap Subject (List Namespace)

abbrev AccessCache := AtomicListRestockCache Subject Namespace.name

/-! ### Virtual labels and annotations -/

def VirtualLabelKeyAccess : GoString := "virtual.konflux-ci.dev/access"

def VirtualLabelKeyVisibility : GoString := "virtual.konflux-ci.dev/visibility"

def VirtualLabelValueVisibilityAuthenticated : GoString := "authenticated"

def VirtualLabelValueVisibilityPrivate : GoString := "private"

def VirtualAnnotationKeySubjectName : GoString := "virtual.konflux-ci.dev/subject-name"

def VirtualAnnotationKeySubjectNamespace : GoString :=
  "virtual.konflux-ci.dev/subject-namespace"

def isSystemAuthenticatedGroup (sub : Subject) : Bool :=
  sub.apiGroup == rbacGroupName && sub.kind == groupKind &&
    sub.name == GoString.ofLiteral "system:authenticated"

def visibility (subs : List Subject) : GoString :=
  if subs.any isSystemAuthenticatedGroup then VirtualLabelValueVisibilityAuthenticated
  else VirtualLabelValueVisibilityPrivate

/-- The label is written into the namespace's own map.  For a nil map the code
writes into a fresh one and never stores it back. -/
def setVisibilityVirtualLabel (ns : Namespace) (subs : List Subject) : Namespace :=
  match ns.metadata.labels with
  | none => ns
  | some ll =>
      { ns with
        metadata :=
          { ns.metadata with
            labels := some (ll.insert VirtualLabelKeyVisibility (visibility subs)) } }

def withVirtualLabelsAndAnnotationsForAccess (rt : Runtime) (ns : Namespace)
    (sub : Subject) : Namespace :=
  let ll := ns.metadata.labels.getD ∅
  let aa := ns.metadata.annotations.getD ∅
  let named := aa.insert VirtualAnnotationKeySubjectName sub.name
  { ns with
    metadata :=
      { ns.metadata with
        labels := some (ll.insert VirtualLabelKeyAccess
          (GoString.toLower rt.unicodeToLower sub.kind))
        annotations := some
          (if sub.nsName ≠ [] then
            named.insert VirtualAnnotationKeySubjectNamespace sub.nsName
          else named) } }

/-! ### Sorting and compaction of the subjects -/

def compareSubjects (a b : Subject) : Ordering :=
  if compare a.apiGroup b.apiGroup ≠ .eq then compare a.apiGroup b.apiGroup
  else if compare a.kind b.kind ≠ .eq then compare a.kind b.kind
  else if compare a.nsName b.nsName ≠ .eq then compare a.nsName b.nsName
  else compare a.name b.name

def equalSubjects (a b : Subject) : Bool :=
  a.apiGroup == b.apiGroup && a.kind == b.kind && a.nsName == b.nsName && a.name == b.name

def removeDuplicateSubjects (rt : Runtime) (ss : List Subject) : List Subject :=
  compactFunc equalSubjects (rt.sortFunc.sort compareSubjects ss)

theorem equalSubjects_iff (a b : Subject) : equalSubjects a b = true ↔ a = b := by
  cases a with
  | mk kind apiGroup name nsName =>
      cases b with
      | mk kind' apiGroup' name' nsName' =>
          simp only [equalSubjects, Bool.and_eq_true, beq_iff_eq, Subject.mk.injEq]
          constructor
          · intro same
            exact ⟨same.1.1.2, same.1.1.1, same.2, same.1.2⟩
          · intro same
            exact ⟨⟨⟨same.2.1, same.1⟩, same.2.2.2⟩, same.2.2.1⟩

theorem compareSubjects_eq_lex :
    compareSubjects =
      compareLex (compareOn Subject.apiGroup) (compareLex (compareOn Subject.kind)
        (compareLex (compareOn Subject.nsName) (compareOn Subject.name))) := by
  funext a b
  unfold compareSubjects compareLex compareOn
  cases compare a.apiGroup b.apiGroup <;> cases compare a.kind b.kind <;>
    cases compare a.nsName b.nsName <;> simp

instance : Std.TransCmp compareSubjects := by
  rw [compareSubjects_eq_lex]
  infer_instance

theorem compareSubjects_eq_iff (a b : Subject) : compareSubjects a b = .eq ↔ a = b := by
  constructor
  · intro equal
    rw [compareSubjects_eq_lex] at equal
    simp only [compareLex, compareOn, Ordering.then_eq_eq, Std.compare_eq_iff_eq] at equal
    rw [← equalSubjects_iff]
    simp [equalSubjects, equal]
  · intro same
    subst b
    exact Std.ReflCmp.compare_self

private theorem equalSubjects_iff_compare (a b : Subject) :
    equalSubjects a b = true ↔ compareSubjects a b = .eq := by
  rw [equalSubjects_iff, compareSubjects_eq_iff]

theorem mem_removeDuplicateSubjects (rt : Runtime) (ss : List Subject) (sub : Subject) :
    sub ∈ removeDuplicateSubjects rt ss ↔ sub ∈ ss := by
  unfold removeDuplicateSubjects
  rw [mem_compactFunc (fun a b equal => (equalSubjects_iff a b).mp equal)]
  exact (rt.sortFunc.perm compareSubjects ss).mem_iff

theorem removeDuplicateSubjects_increasing (rt : Runtime) (ss : List Subject) :
    (removeDuplicateSubjects rt ss).Pairwise (fun a b => compareSubjects a b = .lt) :=
  compactFunc_increasing equalSubjects_iff_compare _ (rt.sortFunc.sorted compareSubjects ss)

theorem removeDuplicateSubjects_nodup (rt : Runtime) (ss : List Subject) :
    (removeDuplicateSubjects rt ss).Nodup :=
  nodup_of_increasing _ (removeDuplicateSubjects_increasing rt ss)

def subjectBefore (a b : Subject) : Prop :=
  a.apiGroup < b.apiGroup ∨ a.apiGroup = b.apiGroup ∧
    (a.kind < b.kind ∨ a.kind = b.kind ∧
      (a.nsName < b.nsName ∨ a.nsName = b.nsName ∧ a.name < b.name))

theorem compareSubjects_lt_iff (a b : Subject) :
    compareSubjects a b = .lt ↔ subjectBefore a b := by
  rw [compareSubjects_eq_lex]
  simp only [compareLex, compareOn, Ordering.then_eq_lt, GoString.compare_lt_iff,
    Std.compare_eq_iff_eq]
  rfl

/-- The result depends on the set of the subjects only: neither on their order and
number nor on how `slices` sorts. -/
theorem removeDuplicateSubjects_congr (rt other : Runtime) {ss ss' : List Subject}
    (sameMembers : ∀ sub, sub ∈ ss' ↔ sub ∈ ss) :
    removeDuplicateSubjects other ss' = removeDuplicateSubjects rt ss := by
  apply eq_of_increasing (removeDuplicateSubjects_increasing other ss')
    (removeDuplicateSubjects_increasing rt ss)
  intro sub
  rw [mem_removeDuplicateSubjects, mem_removeDuplicateSubjects, sameMembers]

theorem removeDuplicateSubjects_canonical (rt : Runtime) (ss : List Subject) :
    (StrictWeakOrdering compareSubjects ∧
      (∀ a b, compareSubjects a b = .lt ↔ subjectBefore a b) ∧
      ∀ a b, compareSubjects a b = .eq ↔ a = b) ∧
    (∀ sub, sub ∈ removeDuplicateSubjects rt ss ↔ sub ∈ ss) ∧
    (removeDuplicateSubjects rt ss).Pairwise subjectBefore ∧
    (removeDuplicateSubjects rt ss).Nodup ∧
    (∀ (other : Runtime) (ss' : List Subject), (∀ sub, sub ∈ ss' ↔ sub ∈ ss) →
      removeDuplicateSubjects other ss' = removeDuplicateSubjects rt ss) ∧
    ∀ other : Runtime,
      removeDuplicateSubjects other (removeDuplicateSubjects rt ss) =
        removeDuplicateSubjects rt ss := by
  refine ⟨⟨?_, compareSubjects_lt_iff, compareSubjects_eq_iff⟩,
    mem_removeDuplicateSubjects rt ss, ?_, removeDuplicateSubjects_nodup rt ss, ?_, ?_⟩
  · exact (strictWeakOrdering_iff compareSubjects).mpr inferInstance
  · refine (removeDuplicateSubjects_increasing rt ss).imp ?_
    intro a b below
    exact (compareSubjects_lt_iff a b).mp below
  · intro other ss' sameMembers
    exact removeDuplicateSubjects_congr rt other sameMembers
  · intro other
    exact removeDuplicateSubjects_congr rt other (mem_removeDuplicateSubjects rt ss)

/-! ### The synch loop -/

inductive ContextError where
  | canceled
  | deadlineExceeded
deriving DecidableEq

inductive SynchError where
  | synchAlreadyRunning
  | listFailed (cause : GoString)
  | contextDone (cause : ContextError)
deriving DecidableEq

def namespaceAttributes (ns : Namespace) : AttributesRecord :=
  { verb := "get"
    resource := "namespaces"
    apiGroup := ""
    apiVersion := "v1"
    name := ns.name
    nsName := ns.name
    resourceRequest := true }

/-- What one synchronization observes: the outcome of the namespace List, and at
its i-th namespace the state of the context and the reply of AllowedSubjects
(subjects together with a possible error). -/
structure SynchObservations where
  listed : Except GoString (List Namespace)
  ctxErr : Nat → Option ContextError
  allowedSubjects : Nat → AttributesRecord → List Subject × Option GoString

def storeAccess (rt : Runtime) (ns : Namespace) (c : AccessData) (sub : Subject) : AccessData :=
  c.insert sub
    ((c.lookup sub).getD [] ++ [withVirtualLabelsAndAnnotationsForAccess rt ns sub])

def synchNamespace (rt : Runtime) (c : AccessData) (ns : Namespace) (ss : List Subject) :
    AccessData :=
  let distinct := removeDuplicateSubjects rt ss
  distinct.foldl (storeAccess rt (setVisibilityVirtualLabel ns distinct)) c

def synchLoop (rt : Runtime) (obs : SynchObservations) :
    Nat → List Namespace → AccessData → Except SynchError AccessData
  | _, [], c => .ok c
  | i, ns :: rest, c =>
      match obs.ctxErr i with
      | some cause => .error (.contextDone cause)
      | none =>
          -- an error of AllowedSubjects is logged; its subjects are used all the same
          synchLoop rt obs (i + 1) rest
            (synchNamespace rt c ns (obs.allowedSubjects i (namespaceAttributes ns)).1)

theorem synchLoop_expired (rt : Runtime) (obs : SynchObservations) (i : Nat) (ns : Namespace)
    (rest : List Namespace) (c : AccessData) (cause : ContextError)
    (seen : obs.ctxErr i = some cause) :
    synchLoop rt obs i (ns :: rest) c = .error (.contextDone cause) := by
  rw [synchLoop, seen]

theorem synchLoop_next (rt : Runtime) (obs : SynchObservations) (i : Nat) (ns : Namespace)
    (rest : List Namespace) (c : AccessData) (inTime : obs.ctxErr i = none) :
    synchLoop rt obs i (ns :: rest) c =
      synchLoop rt obs (i + 1) rest
        (synchNamespace rt c ns (obs.allowedSubjects i (namespaceAttributes ns)).1) := by
  rw [synchLoop, inTime]

structure SynchronizedAccessCache where
  accessCache : AccessCache
  synchronizing : Bool
  requested : Channel 1

namespace SynchronizedAccessCache

def new : SynchronizedAccessCache :=
  { accessCache := AtomicListRestockCache.newAtomicListRestockCache Subject Namespace.name
    synchronizing := false
    requested := Channel.make 1 }

def synch (rt : Runtime) (s : SynchronizedAccessCache) (obs : SynchObservations) :
    SynchronizedAccessCache × Except SynchError AccessData :=
  match obs.listed with
  | .error cause => (s, .error (.listFailed cause))
  | .ok nn =>
      match synchLoop rt obs 0 nn ∅ with
      | .error err => (s, .error err)
      | .ok c => ({ s with accessCache := s.accessCache.restock c }, .ok c)

/-- The exported `Synch`; the second component is the returned error. -/
def Synch (rt : Runtime) (s : SynchronizedAccessCache) (obs : SynchObservations) :
    SynchronizedAccessCache × Option SynchError :=
  if s.synchronizing then (s, some .synchAlreadyRunning)
  else
    let (after, result) := synch rt { s with synchronizing := true } obs
    let err :=
      match result with
      | .error err => some err
      | .ok _ => none
    ({ after with synchronizing := false }, err)

end SynchronizedAccessCache

/-! ### The inverted access relation -/

def accessEntry (rt : Runtime) (ns : Namespace) (ss : List Subject) (sub : Subject) : Namespace :=
  withVirtualLabelsAndAnnotationsForAccess rt (setVisibilityVirtualLabel ns ss) sub

/-- The loop of `synch` run to its end over namespaces and their subjects. -/
def accessOf (rt : Runtime) (pairs : List (Namespace × List Subject)) : AccessData :=
  pairs.foldl (fun c pair => synchNamespace rt c pair.1 pair.2) ∅

def grants (rt : Runtime) (pairs : List (Namespace × List Subject)) (sub : Subject) :
    List Namespace :=
  (pairs.filter (fun pair => sub ∈ pair.2)).map (fun pair => accessEntry rt pair.1 pair.2 sub)

@[simp]
theorem setVisibilityVirtualLabel_name (ns : Namespace) (subs : List Subject) :
    (setVisibilityVirtualLabel ns subs).name = ns.name := by
  unfold setVisibilityVirtualLabel
  split <;> rfl

@[simp]
theorem accessEntry_name (rt : Runtime) (ns : Namespace) (ss : List Subject) (sub : Subject) :
    (accessEntry rt ns ss sub).name = ns.name :=
  setVisibilityVirtualLabel_name ns ss

/-- The label depends on the subjects only through the presence of the
system:authenticated group. -/
theorem setVisibilityVirtualLabel_congr (ns : Namespace) (first second : List Subject)
    (same : first.any isSystemAuthenticatedGroup = second.any isSystemAuthenticatedGroup) :
    setVisibilityVirtualLabel ns first = setVisibilityVirtualLabel ns second := by
  unfold setVisibilityVirtualLabel visibility
  rw [same]

private theorem any_removeDuplicateSubjects (rt : Runtime) (ss : List Subject)
    (matcher : Subject → Bool) :
    (removeDuplicateSubjects rt ss).any matcher = ss.any matcher := by
  rw [Bool.eq_iff_iff, List.any_eq_true, List.any_eq_true]
  simp only [mem_removeDuplicateSubjects]

theorem visibility_removeDuplicateSubjects (rt : Runtime) (ss : List Subject) :
    visibility (removeDuplicateSubjects rt ss) = visibility ss := by
  unfold visibility
  rw [any_removeDuplicateSubjects]

private theorem lookup_foldl_storeAccess (rt : Runtime) (ns : Namespace) (ss : List Subject)
    (distinct : ss.Nodup) (c : AccessData) (sub : Subject) :
    (ss.foldl (storeAccess rt ns) c).lookup sub =
      if sub ∈ ss then
        some ((c.lookup sub).getD [] ++ [withVirtualLabelsAndAnnotationsForAccess rt ns sub])
      else c.lookup sub := by
  induction ss generalizing c with
  | nil => simp
  | cons head tail ih =>
      rw [List.nodup_cons] at distinct
      rw [List.foldl_cons, ih distinct.2]
      by_cases same : sub = head
      · subst head
        rw [if_neg distinct.1, if_pos List.mem_cons_self]
        exact Finmap.lookup_insert c
      · have unchanged : (storeAccess rt ns c head).lookup sub = c.lookup sub :=
          Finmap.lookup_insert_of_ne c same
        rw [unchanged]
        simp [same]

/-- One namespace appends its entry to the list of each of its subjects and
leaves all other lists alone. -/
theorem lookup_synchNamespace (rt : Runtime) (c : AccessData) (ns : Namespace)
    (ss : List Subject) (sub : Subject) :
    (synchNamespace rt c ns ss).lookup sub =
      if sub ∈ ss then some ((c.lookup sub).getD [] ++ [accessEntry rt ns ss sub])
      else c.lookup sub := by
  have relabelled : setVisibilityVirtualLabel ns (removeDuplicateSubjects rt ss) =
      setVisibilityVirtualLabel ns ss :=
    setVisibilityVirtualLabel_congr ns _ _
      (any_removeDuplicateSubjects rt ss isSystemAuthenticatedGroup)
  unfold synchNamespace accessEntry
  rw [lookup_foldl_storeAccess rt _ _ (removeDuplicateSubjects_nodup rt ss), relabelled]
  simp only [mem_removeDuplicateSubjects]

theorem accessOf_append (rt : Runtime) (pairs : List (Namespace × List Subject))
    (ns : Namespace) (ss : List Subject) :
    accessOf rt (pairs ++ [(ns, ss)]) = synchNamespace rt (accessOf rt pairs) ns ss := by
  unfold accessOf
  rw [List.foldl_append]
  rfl

private theorem grants_append (rt : Runtime) (pairs : List (Namespace × List Subject))
    (ns : Namespace) (ss : List Subject) (sub : Subject) :
    grants rt (pairs ++ [(ns, ss)]) sub =
      grants rt pairs sub ++ if sub ∈ ss then [accessEntry rt ns ss sub] else [] := by
  unfold grants
  by_cases member : sub ∈ ss <;> simp [List.filter_append, member]

/-- The published data holds, for each subject, its entries in list order, and
no key for a subject without an entry. -/
theorem lookup_accessOf (rt : Runtime) (pairs : List (Namespace × List Subject))
    (sub : Subject) :
    (accessOf rt pairs).lookup sub =
      if grants rt pairs sub = [] then none else some (grants rt pairs sub) := by
  induction pairs using List.reverseRecOn with
  | nil => rfl
  | append_singleton pairs pair ih =>
      obtain ⟨ns, ss⟩ := pair
      rw [accessOf_append, lookup_synchNamespace, grants_append]
      by_cases member : sub ∈ ss
      · have previous : ((accessOf rt pairs).lookup sub).getD [] = grants rt pairs sub := by
          rw [ih]
          split
          · rename_i empty
            rw [empty]
            rfl
          · rfl
        rw [if_pos member, if_pos member, previous, if_neg (by simp)]
      · rw [if_neg member, if_neg member, List.append_nil, ih]

theorem accessOf_getD (rt : Runtime) (pairs : List (Namespace × List Subject))
    (sub : Subject) : ((accessOf rt pairs).lookup sub).getD [] = grants rt pairs sub := by
  rw [lookup_accessOf]
  split
  · rename_i empty
    rw [empty]
    rfl
  · rfl

theorem grants_names (rt : Runtime) (pairs : List (Namespace × List Subject))
    (sub : Subject) :
    (grants rt pairs sub).map Namespace.name =
      (pairs.filter (fun pair => sub ∈ pair.2)).map (fun pair => pair.1.name) := by
  unfold grants
  rw [List.map_map]
  apply List.map_congr_left
  intro pair _member
  exact accessEntry_name rt pair.1 pair.2 sub

theorem accessOf_lists_distinct (rt : Runtime) (pairs : List (Namespace × List Subject))
    (distinct : (pairs.map (fun pair => pair.1.name)).Nodup) (key : Subject)
    (items : List Namespace) (found : (accessOf rt pairs).lookup key = some items) :
    (items.map Namespace.name).Nodup := by
  have listed := accessOf_getD rt pairs key
  rw [found, Option.getD_some] at listed
  rw [listed, grants_names]
  exact List.Nodup.sublist (List.Sublist.map _ List.filter_sublist) distinct

end NamespaceLister
