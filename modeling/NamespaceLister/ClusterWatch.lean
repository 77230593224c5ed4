/-
The informers of the five watched kinds against the cluster.

`byObjectTransformers` gives every kind a transform and two kinds a label
selector.  What the API server sends for a change is up to the run; `Announces` says
what its watch promises: the changes filtered by the selector, each once and in
order, and an object that leaves the selection as deleted, with the version that was
still in it.  The List with which an informer begins stands for the creations of the
objects it returns; an informer that lists again is left out.

Once what is in flight is delivered, a store holds the trimmed versions of the
selected objects and nothing else, for as long as no stored role is rewritten
into one that lists nothing to keep.
-/

import NamespaceLister.Startup
import NamespaceLister.TransformLaws

namespace NamespaceLister

open Library

/-! ### Selectors -/

abbrev Labels := GoMap GoString GoString

abbrev Selector := Labels → Bool

def everything : Selector := fun _ => true

def selectorFromSet (set : List (GoString × GoString)) : Selector := fun labels =>
  set.all (fun entry => labels.lookup entry.1 == some entry.2)

def namespaceUseForAccessLabelKey : GoString :=
  "namespace-lister.konflux-ci.dev/use-for-access"

def namespaceUseForAccessLabelValueTrue : GoString := "true"

def usedForAccess : Selector :=
  selectorFromSet [(namespaceUseForAccessLabelKey, namespaceUseForAccessLabelValueTrue)]

namespace Object

def labels (object : Object) : Labels :=
  (object.metadata?.bind ObjectMeta.labels).getD ∅

end Object

namespace Kind

/-- The `Label` entries of `byObjectTransformers`. -/
def selector (namespaceSelector : Selector) : Kind → Selector
  | .nspace => namespaceSelector
  | .clusterRoleBinding => usedForAccess
  | .role | .roleBinding | .clusterRole => everything

def selects (namespaceSelector : Selector) (kind : Kind) (object : Object) : Bool :=
  kind.selector namespaceSelector object.labels

def trimmed (kind : Kind) (object : Object) : Option Object :=
  match kind.transform (some object) with
  | .ok result => result
  | .error _ => none

/-- What a store should hold of an object of the cluster. -/
def visible (namespaceSelector : Selector) (kind : Kind) (object : Object) : Option Object :=
  if kind.selects namespaceSelector object then kind.trimmed object else none

variable {kind : Kind} {object stored : Object}

theorem configured (ofKind : object.kind = some kind) :
    byObjectTransformers object = some kind.transform :=
  congrArg (Option.map transform) ofKind

theorem transform_of_trimmed (kept : kind.trimmed object = some stored) :
    kind.transform (some object) = .ok (some stored) := by
  unfold trimmed at kept
  split at kept
  · rename_i result returned
    rw [returned, kept]
  · cases kept

theorem trimmed_key (ofKind : object.kind = some kind) (kept : kind.trimmed object = some stored) :
    stored.key = object.key := by
  cases trimmed_of_transform (configured ofKind) (transform_of_trimmed kept) <;> rfl

theorem key_of_kind (ofKind : object.kind = some kind) : ∃ key, object.key = some key := by
  cases object with
  | other name => cases ofKind
  | _ => exact ⟨_, rfl⟩

end Kind

/-! ### One kind -/

/-- What a watch with a selector promises to send for a change from one version to
the next. -/
inductive Announces (selects : Object → Bool) (previous current : Option Object) :
    List WatchEvent → Prop where
  | nothing (before : previous.filter selects = none) (after : current.filter selects = none) :
      Announces selects previous current []
  | carried (watchType : WatchType) (object : Object) (kept : watchType ≠ .deleted)
      (after : current.filter selects = some object) :
      Announces selects previous current [{ watchType := watchType, object := object }]
  | left (object : Object) (before : previous.filter selects = some object)
      (after : current.filter selects = none) :
      Announces selects previous current [{ watchType := .deleted, object := object }]

/-- The objects of one kind in the cluster, the events on their way to the informer
and its store. -/
structure KindWatch where
  cluster : Store
  inFlight : List WatchEvent
  store : Store

namespace KindWatch

def empty : KindWatch :=
  { cluster := ∅
    inFlight := []
    store := ∅ }

def change (watch : KindWatch) (key : ObjectKey) (version : Option Object)
    (sent : List WatchEvent) : KindWatch :=
  { cluster :=
      match version with
      | some object => watch.cluster.insert key object
      | none => watch.cluster.erase key
    inFlight := watch.inFlight ++ sent
    store := watch.store }

def deliver (transform : TransformFunc) (watch : KindWatch) :
    Option (KindWatch × List Notification) :=
  match watch.inFlight with
  | [] => none
  | event :: rest =>
      let processed := processDelta transform watch.store event
      some ({ watch with inFlight := rest, store := processed.1 }, processed.2)

/-- The store once everything in flight is delivered. -/
def caughtUp (transform : TransformFunc) (watch : KindWatch) : Store :=
  watch.inFlight.foldl (fun store event => (processDelta transform store event).1) watch.store

def Tracks (namespaceSelector : Selector) (kind : Kind) (watch : KindWatch) : Prop :=
  ∀ key, (watch.caughtUp kind.transform).lookup key =
    (watch.cluster.lookup key).bind (kind.visible namespaceSelector)

/-- A stored version is rewritten, within the selection, into one that is not
stored. -/
def silentlyRevokes (namespaceSelector : Selector) (kind : Kind) (watch : KindWatch)
    (key : ObjectKey) (version : Option Object) : Prop :=
  ∃ previous current, watch.cluster.lookup key = some previous ∧ version = some current ∧
    kind.selects namespaceSelector current = true ∧
    (kind.visible namespaceSelector previous).isSome = true ∧ kind.trimmed current = none

structure Sorted (kind : Kind) (watch : KindWatch) : Prop where
  cluster : ∀ key object, watch.cluster.lookup key = some object →
    object.kind = some kind ∧ object.key = some key
  inFlight : ∀ event ∈ watch.inFlight, event.object.kind = some kind

end KindWatch

section OneKind

variable {namespaceSelector : Selector} {kind : Kind} {watch : KindWatch}
variable {key : ObjectKey} {version : Option Object} {sent : List WatchEvent}

/-- The store under a key after one delivery: an object that cannot be stored
leaves it alone, whatever the event. -/
theorem lookup_processDelta (store : Store) (event : WatchEvent)
    (ofKind : event.object.kind = some kind) (other : ObjectKey) :
    (processDelta kind.transform store event).1.lookup other =
      if event.object.key = some other then
        match kind.trimmed event.object, event.watchType with
        | none, _ => store.lookup other
        | some _, .deleted => none
        | some stored, _ => some stored
      else store.lookup other := by
  cases kept : kind.trimmed event.object with
  | none =>
      have unchanged : (processDelta kind.transform store event).1 = store := by
        unfold processDelta
        unfold Kind.trimmed at kept
        cases returned : kind.transform (some event.object) with
        | error err => rfl
        | ok result =>
            rw [returned] at kept
            subst kept
            rfl
      rw [unchanged]
      exact (ite_self _).symm
  | some stored =>
      obtain ⟨own, ownKey⟩ := Kind.key_of_kind ofKind
      have storedKey : stored.key = some own := (Kind.trimmed_key ofKind kept).trans ownKey
      unfold processDelta
      simp only [Kind.transform_of_trimmed kept, storedKey, ownKey, Option.some.injEq]
      cases event.watchType with
      | deleted => exact (GoMap.lookup_delete store own other).trans (if_congr eq_comm rfl rfl)
      | added | updated =>
          have inserted : (store.insert own stored).lookup other =
              if own = other then some stored else store.lookup other :=
            (GoMap.lookup_assign store own other _).trans (if_congr eq_comm rfl rfl)
          cases store.lookup own with
          | none => exact inserted
          | some old => exact inserted

theorem caughtUp_deliver {delivered : KindWatch} {notifications : List Notification}
    (taken : watch.deliver kind.transform = some (delivered, notifications)) :
    delivered.caughtUp kind.transform = watch.caughtUp kind.transform ∧
      delivered.cluster = watch.cluster := by
  unfold KindWatch.deliver at taken
  split at taken
  · cases taken
  · rename_i event rest pending
    cases taken
    unfold KindWatch.caughtUp
    rw [pending]
    exact ⟨rfl, rfl⟩

theorem sorted_deliver (sorted : watch.Sorted kind) {delivered : KindWatch}
    {notifications : List Notification}
    (taken : watch.deliver kind.transform = some (delivered, notifications)) :
    delivered.Sorted kind := by
  unfold KindWatch.deliver at taken
  split at taken
  · cases taken
  · rename_i event rest pending
    cases taken
    refine ⟨sorted.cluster, ?_⟩
    intro later member
    apply sorted.inFlight
    rw [pending]
    exact List.mem_cons_of_mem event member

theorem processDelta_unannounced (transform : TransformFunc) (store : Store) (event : WatchEvent) :
    (processDelta transform store event).2 = [] →
      (processDelta transform store event).1 = store := by
  unfold processDelta
  split
  · exact fun _ => rfl
  · exact fun _ => rfl
  · split
    · exact fun _ => rfl
    · split
      · exact fun called => by cases called
      · split
        · exact fun called => by cases called
        · exact fun called => by cases called
      · split
        · exact fun called => by cases called
        · exact fun called => by cases called

theorem store_of_unannounced {delivered : KindWatch}
    (taken : watch.deliver kind.transform = some (delivered, [])) :
    delivered.store = watch.store := by
  unfold KindWatch.deliver at taken
  split at taken
  · cases taken
  · rename_i event rest pending
    simp only [Option.some.injEq, Prod.mk.injEq] at taken
    obtain ⟨same, silent⟩ := taken
    subst same
    exact processDelta_unannounced kind.transform watch.store event silent

theorem lookup_change (other : ObjectKey) :
    (watch.change key version sent).cluster.lookup other =
      if other = key then version else watch.cluster.lookup other := by
  cases version with
  | none => exact GoMap.lookup_delete watch.cluster key other
  | some object => exact GoMap.lookup_assign watch.cluster key other object

theorem object_of_announced {selects : Object → Bool} {previous current : Option Object}
    (announced : Announces selects previous current sent) {event : WatchEvent}
    (member : event ∈ sent) :
    previous = some event.object ∨ current = some event.object := by
  cases announced with
  | nothing before after => cases member
  | carried watchType object kept after =>
      rw [List.mem_singleton.mp member]
      exact Or.inr (Option.filter_eq_some_iff.mp after).1
  | left object before after =>
      rw [List.mem_singleton.mp member]
      exact Or.inl (Option.filter_eq_some_iff.mp before).1

theorem sorted_change (sorted : watch.Sorted kind) {selects : Object → Bool}
    (proper : ∀ object ∈ version, object.kind = some kind ∧ object.key = some key)
    (announced : Announces selects (watch.cluster.lookup key) version sent) :
    (watch.change key version sent).Sorted kind := by
  constructor
  · intro other object found
    rw [lookup_change] at found
    split at found
    · rename_i same
      rw [same]
      exact proper object found
    · exact sorted.cluster other object found
  · intro event member
    rcases List.mem_append.mp member with earlier | fresh
    · exact sorted.inFlight event earlier
    · rcases object_of_announced announced fresh with previous | current
      · exact (sorted.cluster key event.object previous).1
      · exact (proper event.object current).1

def storedAfter (kind : Kind) (selects : Object → Bool) (held previous current : Option Object) :
    Option Object :=
  match previous.filter selects, current.filter selects with
  | _, some object => (kind.trimmed object).or held
  | some object, none => if (kind.trimmed object).isSome then none else held
  | none, none => held

theorem lookup_caughtUp_change (sorted : watch.Sorted kind) {selects : Object → Bool}
    (proper : ∀ object ∈ version, object.kind = some kind ∧ object.key = some key)
    (announced : Announces selects (watch.cluster.lookup key) version sent) (other : ObjectKey) :
    ((watch.change key version sent).caughtUp kind.transform).lookup other =
      if other = key then
        storedAfter kind selects ((watch.caughtUp kind.transform).lookup key)
          (watch.cluster.lookup key) version
      else (watch.caughtUp kind.transform).lookup other := by
  have appended : (watch.change key version sent).caughtUp kind.transform =
      sent.foldl (fun store event => (processDelta kind.transform store event).1)
        (watch.caughtUp kind.transform) := List.foldl_append
  have arrives : ∀ event : WatchEvent, event.object.kind = some kind →
      event.object.key = some key → ∀ value : Option Object,
      value = (match kind.trimmed event.object, event.watchType with
        | none, _ => (watch.caughtUp kind.transform).lookup key
        | some _, .deleted => none
        | some stored, _ => some stored) →
      ((processDelta kind.transform (watch.caughtUp kind.transform) event).1.lookup other =
        if other = key then value else (watch.caughtUp kind.transform).lookup other) := by
    intro event ofKind ownKey value isValue
    rw [lookup_processDelta _ event ofKind, ownKey, isValue]
    by_cases same : other = key
    · subst same
      rw [if_pos rfl, if_pos rfl]
    · rw [if_neg same, if_neg (fun equal => same (Option.some.inj equal).symm)]
  rw [appended]
  unfold storedAfter
  cases announced with
  | nothing before after =>
      rw [before, after]
      by_cases same : other = key
      · subst same
        rw [if_pos rfl]
        rfl
      · rw [if_neg same]
        rfl
  | carried watchType object kept after =>
      obtain ⟨ofKind, ownKey⟩ := proper object (Option.filter_eq_some_iff.mp after).1
      apply arrives { watchType := watchType, object := object } ofKind ownKey
      rw [after]
      cases trimmed : kind.trimmed object with
      | none => cases (watch.cluster.lookup key).filter selects <;> simp [trimmed]
      | some stored =>
          cases (watch.cluster.lookup key).filter selects <;>
            cases watchType <;> simp_all
  | left object before after =>
      obtain ⟨ofKind, ownKey⟩ := sorted.cluster key object (Option.filter_eq_some_iff.mp before).1
      apply arrives { watchType := .deleted, object := object } ofKind ownKey
      rw [before, after]
      cases trimmed : kind.trimmed object <;> simp [trimmed]

private theorem visible_of_unselected
    (unselected : version.filter (kind.selects namespaceSelector) = none) :
    version.bind (kind.visible namespaceSelector) = none := by
  cases version with
  | none => rfl
  | some object =>
      have refused : kind.selects namespaceSelector object = false := by simpa using unselected
      simp [Kind.visible, refused]

private theorem visible_of_selected {object : Object}
    (selected : version.filter (kind.selects namespaceSelector) = some object) :
    version = some object ∧ kind.selects namespaceSelector object = true ∧
      kind.visible namespaceSelector object = kind.trimmed object := by
  obtain ⟨isObject, accepted⟩ := Option.filter_eq_some_iff.mp selected
  exact ⟨isObject, accepted, if_pos accepted⟩

theorem storedAfter_eq_visible_iff (previous current : Option Object) :
    storedAfter kind (kind.selects namespaceSelector)
        (previous.bind (kind.visible namespaceSelector)) previous current =
      current.bind (kind.visible namespaceSelector) ↔
    ¬∃ before after, previous = some before ∧ current = some after ∧
      kind.selects namespaceSelector after = true ∧
      (kind.visible namespaceSelector before).isSome = true ∧ kind.trimmed after = none := by
  unfold storedAfter
  cases came : current.filter (kind.selects namespaceSelector) with
  | none =>
      -- nothing selected can be silently revoked into
      have harmless : ¬∃ before after, previous = some before ∧ current = some after ∧
          kind.selects namespaceSelector after = true ∧
          (kind.visible namespaceSelector before).isSome = true ∧ kind.trimmed after = none := by
        rintro ⟨before, after, _, isAfter, selected, _, _⟩
        rw [isAfter] at came
        simp [selected] at came
      rw [visible_of_unselected came]
      refine iff_of_true ?_ harmless
      cases gone : previous.filter (kind.selects namespaceSelector) with
      | none => exact visible_of_unselected gone
      | some before =>
          obtain ⟨isBefore, _, seen⟩ := visible_of_selected gone
          subst isBefore
          change (if (kind.trimmed before).isSome then none
            else kind.visible namespaceSelector before) = none
          rw [seen]
          cases kind.trimmed before <;> rfl
  | some after =>
      obtain ⟨isAfter, selected, seen⟩ := visible_of_selected came
      subst isAfter
      change (kind.trimmed after).or (previous.bind (kind.visible namespaceSelector)) =
        kind.visible namespaceSelector after ↔ _
      rw [seen]
      cases kept : kind.trimmed after with
      | some stored =>
          refine iff_of_true rfl ?_
          rintro ⟨_, other, _, isOther, _, _, dropped⟩
          cases isOther
          rw [kept] at dropped
          cases dropped
      | none =>
          rw [Option.none_or]
          constructor
          · rintro empty ⟨before, _, isBefore, _, _, held, _⟩
            subst isBefore
            change kind.visible namespaceSelector before = none at empty
            rw [empty] at held
            cases held
          · intro harmless
            cases previous with
            | none => rfl
            | some before =>
                by_contra held
                exact harmless ⟨before, after, rfl, rfl, selected,
                  Option.isSome_iff_ne_none.mpr held, kept⟩

theorem tracks_change_iff (sorted : watch.Sorted kind)
    (tracks : watch.Tracks namespaceSelector kind)
    (proper : ∀ object ∈ version, object.kind = some kind ∧ object.key = some key)
    (announced : Announces (kind.selects namespaceSelector) (watch.cluster.lookup key) version
      sent) :
    (watch.change key version sent).Tracks namespaceSelector kind ↔
      ¬watch.silentlyRevokes namespaceSelector kind key version := by
  unfold KindWatch.silentlyRevokes
  rw [← storedAfter_eq_visible_iff, ← tracks key]
  have moved := lookup_caughtUp_change sorted proper announced
  constructor
  · intro after
    have atKey := after key
    rw [moved, if_pos rfl, lookup_change, if_pos rfl] at atKey
    exact atKey
  · intro atKey other
    rw [moved, lookup_change]
    by_cases same : other = key
    · rw [if_pos same, if_pos same]
      exact atKey
    · rw [if_neg same, if_neg same]
      exact tracks other

end OneKind

/-! ### All kinds -/

inductive WatchLabel where
  | change (kind : Kind) (key : ObjectKey) (version : Option Object) (sent : List WatchEvent)
  | deliver (kind : Kind)

section AllKinds

def properVersion (kind : Kind) (key : ObjectKey) (version : Option Object) : Bool :=
  version.all (fun object => object.kind == some kind && object.key == some key)

def watchMachine : Machine (Kind → KindWatch) WatchLabel :=
  { step := fun watches label =>
      match label with
      | .change kind key version sent =>
          if properVersion kind key version then
            some (Function.update watches kind ((watches kind).change key version sent))
          else none
      | .deliver kind =>
          ((watches kind).deliver kind.transform).map
            (fun delivered => Function.update watches kind delivered.1) }

inductive WatchEffect (watches : Kind → KindWatch) : WatchLabel → (Kind → KindWatch) → Prop where
  | changed (kind : Kind) (key : ObjectKey) (version : Option Object) (sent : List WatchEvent)
      (proper : ∀ object ∈ version, object.kind = some kind ∧ object.key = some key) :
      WatchEffect watches (.change kind key version sent)
        (Function.update watches kind ((watches kind).change key version sent))
  | delivered (kind : Kind) (taken : KindWatch) (notifications : List Notification)
      (took : (watches kind).deliver kind.transform = some (taken, notifications)) :
      WatchEffect watches (.deliver kind) (Function.update watches kind taken)

namespace WatchLabel

/-- The watch keeps its promise at this step. -/
def announced (namespaceSelector : Selector) (watches : Kind → KindWatch) : WatchLabel → Prop
  | .change kind key version sent =>
      Announces (kind.selects namespaceSelector) ((watches kind).cluster.lookup key) version sent
  | .deliver _ => True

def silentlyRevokes (namespaceSelector : Selector) (watches : Kind → KindWatch) :
    WatchLabel → Prop
  | .change kind key version _ =>
      (watches kind).silentlyRevokes namespaceSelector kind key version
  | .deliver _ => False

end WatchLabel

variable {namespaceSelector : Selector} {watches next : Kind → KindWatch} {label : WatchLabel}

theorem watchMachine_effect (stepped : watchMachine.step watches label = some next) :
    WatchEffect watches label next := by
  cases label with
  | change kind key version sent =>
      simp only [watchMachine] at stepped
      split at stepped
      · rename_i proper
        cases stepped
        apply WatchEffect.changed
        intro object isVersion
        rw [isVersion] at proper
        simpa [properVersion] using proper
      · cases stepped
  | deliver kind =>
      obtain ⟨taken, took, updated⟩ := Option.map_eq_some_iff.mp stepped
      subst updated
      exact .delivered kind taken.1 taken.2 took

structure Tracking (namespaceSelector : Selector) (watches : Kind → KindWatch) : Prop where
  sorted : ∀ kind, (watches kind).Sorted kind
  tracks : ∀ kind, (watches kind).Tracks namespaceSelector kind

theorem tracking_empty : Tracking namespaceSelector (fun _ => KindWatch.empty) := by
  constructor
  · intro kind
    constructor
    · intro key object found
      cases found
    · intro event member
      cases member
  · intro kind key
    rfl

theorem forall_update {property : Kind → KindWatch → Prop} {kind : Kind} {watch : KindWatch}
    (others : ∀ other, property other (watches other)) (own : property kind watch) :
    ∀ other, property other (Function.update watches kind watch other) := by
  intro other
  by_cases same : other = kind
  · subst same
    rw [Function.update_self]
    exact own
  · rw [Function.update_of_ne same]
    exact others other

theorem sorted_watchStep (sorted : ∀ kind, (watches kind).Sorted kind)
    (announced : label.announced namespaceSelector watches)
    (effect : WatchEffect watches label next) : ∀ kind, (next kind).Sorted kind := by
  cases effect with
  | changed kind key version sent proper =>
      exact forall_update sorted (sorted_change (sorted kind) proper announced)
  | delivered kind taken notifications took =>
      exact forall_update sorted (sorted_deliver (sorted kind) took)

/-- A step keeps every store on its way exactly when it is not a silent
revocation. -/
theorem tracks_watchStep_iff (tracking : Tracking namespaceSelector watches)
    (announced : label.announced namespaceSelector watches)
    (effect : WatchEffect watches label next) :
    (∀ kind, (next kind).Tracks namespaceSelector kind) ↔
      ¬label.silentlyRevokes namespaceSelector watches := by
  cases effect with
  | changed kind key version sent proper =>
      have one := tracks_change_iff (tracking.sorted kind) (tracking.tracks kind) proper announced
      constructor
      · intro all
        have own := all kind
        rw [Function.update_self] at own
        exact one.mp own
      · intro harmless
        exact forall_update tracking.tracks (one.mpr harmless)
  | delivered kind taken notifications took =>
      refine iff_of_true ?_ (fun silent => silent)
      obtain ⟨sameStore, sameCluster⟩ := caughtUp_deliver took
      apply forall_update tracking.tracks
      intro key
      rw [sameStore, sameCluster]
      exact tracking.tracks kind key

theorem tracking_step (tracking : Tracking namespaceSelector watches)
    (announced : label.announced namespaceSelector watches)
    (harmless : ¬label.silentlyRevokes namespaceSelector watches)
    (stepped : watchMachine.step watches label = some next) : Tracking namespaceSelector next :=
  ⟨sorted_watchStep tracking.sorted announced (watchMachine_effect stepped),
    (tracks_watchStep_iff tracking announced (watchMachine_effect stepped)).mpr harmless⟩

end AllKinds

def convertToWatchEvent (selects : Object → Bool) (previous current : Option Object) :
    List WatchEvent :=
  match previous.filter selects, current.filter selects with
  | none, none => []
  | none, some object => [{ watchType := .added, object := object }]
  | some _, some object => [{ watchType := .updated, object := object }]
  | some object, none => [{ watchType := .deleted, object := object }]

theorem announces_convertToWatchEvent (selects : Object → Bool)
    (previous current : Option Object) :
    Announces selects previous current (convertToWatchEvent selects previous current) := by
  unfold convertToWatchEvent
  split
  · rename_i before after
    exact .nothing before after
  · rename_i object before after
    exact .carried .added object nofun after
  · rename_i previous object before after
    exact .carried .updated object nofun after
  · rename_i object before after
    exact .left object before after

namespace WatchLabel

def converted (namespaceSelector : Selector) (watches : Kind → KindWatch) : WatchLabel → Bool
  | .change kind key version sent =>
      sent == convertToWatchEvent (kind.selects namespaceSelector)
        ((watches kind).cluster.lookup key) version
  | .deliver _ => true

theorem announced_of_converted {namespaceSelector : Selector} {watches : Kind → KindWatch}
    {label : WatchLabel} (converted : label.converted namespaceSelector watches = true) :
    label.announced namespaceSelector watches := by
  cases label with
  | deliver kind => trivial
  | change kind key version sent =>
      rw [eq_of_beq converted]
      exact announces_convertToWatchEvent _ _ _

end WatchLabel

private def readersBinding (labels : Option Labels) : Object :=
  .clusterRoleBinding
    { metadata := { ObjectMeta.bare [] "readers" with labels := labels }
      subjects := []
      roleRef := { apiGroup := rbacGroupName, kind := "ClusterRole", name := "reader" } }

private def markedBinding : Object :=
  readersBinding (some
    (Finmap.insert namespaceUseForAccessLabelKey namespaceUseForAccessLabelValueTrue ∅))

private def relabelled : List WatchLabel :=
  [ .change .clusterRoleBinding ([], "readers") (some markedBinding)
      [{ watchType := .added, object := markedBinding }],
    .deliver .clusterRoleBinding,
    .change .clusterRoleBinding ([], "readers") (some (readersBinding none))
      [{ watchType := .deleted, object := markedBinding }],
    .deliver .clusterRoleBinding ]

end NamespaceLister
