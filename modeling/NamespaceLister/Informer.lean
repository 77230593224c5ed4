/-
The informer of one watched kind, between the watch and the resource cache.

Every delivered object passes through its transform before the store operation.
A nil object has no key, so the operation fails: the store keeps what it held
and no handler is called.  A role that still grants in the store is therefore
neither evicted nor announced when a later version lists nothing to keep.
-/

import NamespaceLister.TrimmedAccess

namespace NamespaceLister

open Library

/-! ### Events and handlers -/

/-- The event that triggers a request; only the metrics read it. -/
structure Event where
  object : Object
  eventType : GoString
deriving DecidableEq

def resourceAddedEventType : GoString := "Add"

def resourceUpdatedEventType : GoString := "Update"

def resourceDeletedEventType : GoString := "Delete"

inductive Notification where
  | onAdd (object : Object)
  | onUpdate (old new : Object)
  | onDelete (object : Object)
deriving DecidableEq

def eventHandlerFuncs : Notification → Event
  | .onAdd object => { object := object, eventType := resourceAddedEventType }
  | .onUpdate _ object => { object := object, eventType := resourceUpdatedEventType }
  | .onDelete object => { object := object, eventType := resourceDeletedEventType }

/-! ### The store -/

abbrev ObjectKey := GoString × GoString

namespace Object

def metadata? : Object → Option ObjectMeta
  | .role r => some r.metadata
  | .clusterRole cr => some cr.metadata
  | .roleBinding rb => some rb.metadata
  | .clusterRoleBinding crb => some crb.metadata
  | .nspace ns => some ns.metadata
  | .other _ => none

/-- `MetaNamespaceKeyFunc`: the store key is read from the metadata. -/
def key (object : Object) : Option ObjectKey :=
  object.metadata?.map (fun metadata => (metadata.nsName, metadata.name))

def rules : Object → List PolicyRule
  | .role r => r.rules
  | .clusterRole cr => cr.rules
  | _ => []

end Object

inductive WatchType where
  | added
  | updated
  | deleted
deriving DecidableEq

structure WatchEvent where
  watchType : WatchType
  object : Object
deriving DecidableEq

abbrev Store := GoMap ObjectKey Object

/-- One delivery: the transform, then the store operation, then the handlers. -/
def processDelta (transform : TransformFunc) (store : Store) (event : WatchEvent) :
    Store × List Notification :=
  match transform (some event.object) with
  | .error _ => (store, [])
  | .ok none => (store, [])
  | .ok (some object) =>
      match object.key with
      | none => (store, [])
      | some key =>
          match event.watchType with
          | .deleted => (store.erase key, [.onDelete object])
          | .added | .updated =>
              -- the store decides between OnAdd and OnUpdate, not the watch
              match store.lookup key with
              | none => (store.insert key object, [.onAdd object])
              | some old => (store.insert key object, [.onUpdate old object])

def storeAfter (transform : TransformFunc) (history : List WatchEvent) : Store :=
  history.foldl (fun store event => (processDelta transform store event).1) ∅

def handlerCalls (transform : TransformFunc) (store : Store) (event : WatchEvent) : List Event :=
  (processDelta transform store event).2.map eventHandlerFuncs

/-! ### The newest version -/

def WatchEvent.version (event : WatchEvent) : Option Object :=
  match event.watchType with
  | .deleted => none
  | .added | .updated => some event.object

def newest (history : List WatchEvent) (key : ObjectKey) : Option Object :=
  history.foldl
    (fun known event => if event.object.key = some key then event.version else known) none

def decision (version : Option Object) (name : GoString) : Bool :=
  match version with
  | none => false
  | some object => rulesAllow (namespaceAttributes (bareNamespace name)) object.rules

/-! ### Kinds that carry rules -/

inductive RulesKind where
  | role
  | clusterRole
deriving DecidableEq

namespace RulesKind

def admits : RulesKind → Object → Bool
  | .role, .role _ => true
  | .clusterRole, .clusterRole _ => true
  | _, _ => false

def kind : RulesKind → Kind
  | .role => .role
  | .clusterRole => .clusterRole

def transform (kind : RulesKind) : TransformFunc :=
  kind.kind.transform

def kept (object : Object) : Object :=
  (object.mapMetadata trimmedMeta).withRules (filterNamespacesRelatedPolicyRules object.rules)

theorem transform_admitted (kind : RulesKind) (object : Object)
    (admitted : kind.admits object = true) :
    kind.transform (some object) =
      if filterNamespacesRelatedPolicyRules object.rules = [] then .ok none
      else .ok (some (kept object)) := by
  cases kind with
  | role =>
      cases object with
      | role r => exact trimRole_role r
      | _ => cases admitted
  | clusterRole =>
      cases object with
      | clusterRole cr => exact trimClusterRole_clusterRole cr
      | _ => cases admitted

theorem kept_key (object : Object) : (kept object).key = object.key := by
  cases object <;> rfl

theorem kept_rules (object : Object) :
    (kept object).rules = filterNamespacesRelatedPolicyRules object.rules := by
  cases object <;> rfl

theorem admitted_key (kind : RulesKind) (object : Object)
    (admitted : kind.admits object = true) : ∃ key, object.key = some key := by
  cases object with
  | other name => cases kind <;> cases admitted
  | _ => exact ⟨_, rfl⟩

end RulesKind

/-! ### One delivery -/

section Delivery

variable (kind : RulesKind) (store : Store) (event : WatchEvent)
variable (admitted : kind.admits event.object = true)

include admitted

theorem processDelta_dropped
    (dropped : filterNamespacesRelatedPolicyRules event.object.rules = []) :
    processDelta kind.transform store event = (store, []) := by
  unfold processDelta
  rw [kind.transform_admitted event.object admitted, if_pos dropped]

theorem processDelta_kept
    (listed : filterNamespacesRelatedPolicyRules event.object.rules ≠ []) :
    (processDelta kind.transform store event).2 ≠ [] ∧
    ∀ key, (processDelta kind.transform store event).1.lookup key =
      if event.object.key = some key then event.version.map RulesKind.kept
      else store.lookup key := by
  obtain ⟨own, ownKey⟩ := kind.admitted_key event.object admitted
  unfold processDelta WatchEvent.version
  rw [kind.transform_admitted event.object admitted, if_neg listed]
  simp only [RulesKind.kept_key, ownKey, Option.some.injEq]
  cases event.watchType with
  | deleted =>
      refine ⟨by simp, ?_⟩
      intro key
      exact (GoMap.lookup_delete store own key).trans (if_congr eq_comm rfl rfl)
  | added | updated =>
      have inserted : ∀ key, (store.insert own (RulesKind.kept event.object)).lookup key =
          if own = key then some (RulesKind.kept event.object) else store.lookup key := by
        intro key
        exact (GoMap.lookup_assign store own key _).trans (if_congr eq_comm rfl rfl)
      cases store.lookup own with
      | none => exact ⟨by simp, inserted⟩
      | some old => exact ⟨by simp, inserted⟩

end Delivery

theorem decision_kept (object : Object) (name : GoString)
    (granted : decision (some (RulesKind.kept object)) name = true) :
    decision (some object) name = true := by
  unfold decision at granted ⊢
  simp only [RulesKind.kept_rules, rulesAllow_filtered] at granted
  exact rulesAllow_of_literallyAllows (bareNamespace name) object.rules granted

/-! ### Histories -/

theorem storeAfter_concat (transform : TransformFunc) (history : List WatchEvent)
    (event : WatchEvent) :
    storeAfter transform (history ++ [event]) =
      (processDelta transform (storeAfter transform history) event).1 := by
  unfold storeAfter
  rw [List.foldl_append]
  rfl

theorem newest_concat (history : List WatchEvent) (event : WatchEvent) (key : ObjectKey) :
    newest (history ++ [event]) key =
      if event.object.key = some key then event.version else newest history key := by
  unfold newest
  rw [List.foldl_append]
  rfl

/-- The store grants no more than the newest version of the role, and whatever
changes the decision of the newest version is announced. -/
def revocationReaches (kind : RulesKind) (history : List WatchEvent) (key : ObjectKey) : Prop :=
  (∀ name, decision ((storeAfter kind.transform history).lookup key) name = true →
    decision (newest history key) name = true) ∧
  ∀ before event after, history = before ++ event :: after →
    (∃ name, decision (newest (before ++ [event]) key) name ≠
      decision (newest before key) name) →
    handlerCalls kind.transform (storeAfter kind.transform before) event ≠ []

/-- No event whose object lists nothing to keep changes what its key grants. -/
def droppedVersionsKeepDecision (history : List WatchEvent) (key : ObjectKey) : Prop :=
  ∀ before event after, history = before ++ event :: after →
    event.object.key = some key →
    filterNamespacesRelatedPolicyRules event.object.rules = [] →
    ∀ name, decision event.version name = decision (newest before key) name

private theorem droppedVersionsKeepDecision_of_concat (history : List WatchEvent)
    (event : WatchEvent) (key : ObjectKey)
    (harmless : droppedVersionsKeepDecision (history ++ [event]) key) :
    droppedVersionsKeepDecision history key := by
  intro before other after split
  apply harmless before other (after ++ [event])
  rw [split]
  simp only [List.append_assoc, List.cons_append]

private theorem decision_step (kind : RulesKind) (history : List WatchEvent)
    (event : WatchEvent) (key : ObjectKey) (admitted : kind.admits event.object = true)
    (harmless : droppedVersionsKeepDecision (history ++ [event]) key)
    (sound : ∀ name, decision ((storeAfter kind.transform history).lookup key) name = true →
      decision (newest history key) name = true)
    (name : GoString)
    (granted : decision ((storeAfter kind.transform (history ++ [event])).lookup key) name = true) :
    decision (newest (history ++ [event]) key) name = true := by
  rw [storeAfter_concat] at granted
  rw [newest_concat]
  by_cases dropped : filterNamespacesRelatedPolicyRules event.object.rules = []
  · rw [processDelta_dropped kind _ event admitted dropped] at granted
    by_cases same : event.object.key = some key
    · rw [if_pos same, harmless history event [] rfl same dropped name]
      exact sound name granted
    · rw [if_neg same]
      exact sound name granted
  · have held := (processDelta_kept kind (storeAfter kind.transform history) event admitted
      dropped).2 key
    rw [held] at granted
    by_cases same : event.object.key = some key
    · rw [if_pos same] at granted ⊢
      cases version : event.version with
      | none =>
          rw [version] at granted
          cases granted
      | some object =>
          rw [version] at granted
          have own : object = event.object := by
            unfold WatchEvent.version at version
            split at version
            · cases version
            · exact (Option.some.inj version).symm
            · exact (Option.some.inj version).symm
          subst own
          exact decision_kept event.object name granted
    · rw [if_neg same] at granted ⊢
      exact sound name granted

private theorem stored_no_more_permissive (kind : RulesKind) (history : List WatchEvent)
    (key : ObjectKey) (admitted : ∀ event ∈ history, kind.admits event.object = true)
    (harmless : droppedVersionsKeepDecision history key) (name : GoString)
    (granted : decision ((storeAfter kind.transform history).lookup key) name = true) :
    decision (newest history key) name = true := by
  induction history using List.reverseRecOn generalizing name with
  | nil => cases granted
  | append_singleton history event ih =>
      have earlier := ih
        (fun other member => admitted other (List.mem_append_left _ member))
        (droppedVersionsKeepDecision_of_concat history event key harmless)
      have current : kind.admits event.object = true :=
        admitted event (List.mem_append_right _ (List.mem_singleton_self event))
      exact decision_step kind history event key current harmless earlier name granted

/-- Revocation reaches the resource cache exactly for the histories in which no
dropped version changes what its key grants. -/
theorem revocationReaches_iff (kind : RulesKind) (history : List WatchEvent) (key : ObjectKey)
    (admitted : ∀ event ∈ history, kind.admits event.object = true) :
    revocationReaches kind history key ↔ droppedVersionsKeepDecision history key := by
  constructor
  · intro reaches before event after split same dropped name
    by_contra changed
    have current : kind.admits event.object = true := by
      apply admitted event
      rw [split]
      exact List.mem_append_right _ List.mem_cons_self
    apply reaches.2 before event after split
    · refine ⟨name, ?_⟩
      rw [newest_concat, if_pos same]
      exact changed
    · unfold handlerCalls
      rw [processDelta_dropped kind _ event current dropped]
      rfl
  · intro harmless
    refine ⟨stored_no_more_permissive kind history key admitted harmless, ?_⟩
    intro before event after split changed unannounced
    have current : kind.admits event.object = true := by
      apply admitted event
      rw [split]
      exact List.mem_append_right _ List.mem_cons_self
    obtain ⟨name, different⟩ := changed
    apply different
    rw [newest_concat]
    by_cases same : event.object.key = some key
    · rw [if_pos same]
      apply harmless before event after split same
      -- an event that calls no handler is one whose object was dropped
      by_contra listed
      exact (processDelta_kept kind (storeAfter kind.transform before) event current listed).1
        (List.map_eq_nil_iff.mp unannounced)
    · rw [if_neg same]

/-! ### A revocation that is lost -/

private def viewerVersion (resource : GoString) : Object :=
  .role
    { metadata := ObjectMeta.bare "team-a" "viewer"
      rules :=
        [{ verbs := [GoString.ofLiteral "get"]
           apiGroups := [GoString.ofLiteral ""]
           resources := [resource]
           resourceNames := [] }] }

/-- The role first lets its subjects get namespaces, then only pods. -/
private def editedViewer : List WatchEvent :=
  [ { watchType := .added, object := viewerVersion "namespaces" },
    { watchType := .updated, object := viewerVersion "pods" } ]

theorem revocation_lost :
    ¬revocationReaches .role editedViewer
      (GoString.ofLiteral "team-a", GoString.ofLiteral "viewer") := by
  intro reaches
  have stored : decision ((storeAfter RulesKind.role.transform editedViewer).lookup
      (GoString.ofLiteral "team-a", GoString.ofLiteral "viewer")) "team-a" = true := by decide
  have revoked : decision (newest editedViewer
      (GoString.ofLiteral "team-a", GoString.ofLiteral "viewer")) "team-a" = false := by decide
  have granted := reaches.1 "team-a" stored
  rw [revoked] at granted
  cases granted

theorem revocationReaches_iff_viewer :
    revocationReaches .role editedViewer
        (GoString.ofLiteral "team-a", GoString.ofLiteral "viewer") ↔
      droppedVersionsKeepDecision editedViewer
        (GoString.ofLiteral "team-a", GoString.ofLiteral "viewer") :=
  revocationReaches_iff .role editedViewer _ (by decide)

end NamespaceLister
