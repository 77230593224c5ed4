/-
A transform applied to what it returned.

client-go may hand an object of the store to the transform of its kind again.
The rule filter rewrites the rules it keeps, so its result has to pass the same
filter unchanged; from that every transform returns its own results as they are,
and a second delivery of a stored object leaves the store alone.
-/

import NamespaceLister.Informer

namespace NamespaceLister

open Library

/-! ### The rule filter -/

theorem listsNamespaceGet_narrowedRule (rule : PolicyRule) :
    listsNamespaceGet (narrowedRule rule) = true := by
  simp [listsNamespaceGet, narrowedRule]

theorem narrowedRule_narrowedRule (rule : PolicyRule) :
    narrowedRule (narrowedRule rule) = narrowedRule rule := rfl

theorem filterNamespacesRelatedPolicyRules_idempotent (pp : List PolicyRule) :
    filterNamespacesRelatedPolicyRules (filterNamespacesRelatedPolicyRules pp) =
      filterNamespacesRelatedPolicyRules pp := by
  have passes : (filterNamespacesRelatedPolicyRules pp).filter listsNamespaceGet =
      filterNamespacesRelatedPolicyRules pp := by
    apply List.filter_eq_self.mpr
    intro rule member
    obtain ⟨listed, _present, narrowed⟩ := List.mem_map.mp member
    rw [← narrowed]
    exact listsNamespaceGet_narrowedRule listed
  calc filterNamespacesRelatedPolicyRules (filterNamespacesRelatedPolicyRules pp)
      = (filterNamespacesRelatedPolicyRules pp).map narrowedRule := by
        rw [filterNamespacesRelatedPolicyRules, passes]
    _ = filterNamespacesRelatedPolicyRules pp := by
        unfold filterNamespacesRelatedPolicyRules
        rw [List.map_map]
        exact List.map_congr_left (fun rule _member => narrowedRule_narrowedRule rule)

/-- The rules a transform leaves: some of the rules there were, in their order, cut
down to the get of namespaces with their resource names as they were. -/
structure TrimmedRules (rules left : List PolicyRule) : Prop where
  nonempty : left ≠ []
  filtered : left = filterNamespacesRelatedPolicyRules rules
  resourceNames : left.map (·.resourceNames) =
    (rules.filter listsNamespaceGet).map (·.resourceNames)

theorem trimmedRules_filtered (rules : List PolicyRule)
    (listed : filterNamespacesRelatedPolicyRules rules ≠ []) :
    TrimmedRules rules (filterNamespacesRelatedPolicyRules rules) := by
  refine ⟨listed, rfl, ?_⟩
  unfold filterNamespacesRelatedPolicyRules
  rw [List.map_map]
  rfl

/-! ### The transforms -/

def byObjectTransformers (object : Object) : Option TransformFunc :=
  object.kind.map Kind.transform

/-- All that may differ between an object and its trimmed version. -/
inductive Trimmed : Object → Object → Prop where
  | role (r : Role) (left : List PolicyRule) (trimmed : TrimmedRules r.rules left) :
      Trimmed (.role r) (.role { r with metadata := trimmedMeta r.metadata, rules := left })
  | clusterRole (cr : ClusterRole) (left : List PolicyRule)
      (trimmed : TrimmedRules cr.rules left) :
      Trimmed (.clusterRole cr)
        (.clusterRole { cr with metadata := trimmedMeta cr.metadata, rules := left })
  | roleBinding (rb : RoleBinding) :
      Trimmed (.roleBinding rb) (.roleBinding { rb with metadata := trimmedMeta rb.metadata })
  | clusterRoleBinding (crb : ClusterRoleBinding) :
      Trimmed (.clusterRoleBinding crb)
        (.clusterRoleBinding { crb with metadata := trimmedMeta crb.metadata })
  | nspace (ns : Namespace) :
      Trimmed (.nspace ns)
        (.nspace
          { ns with
            metadata := { ns.metadata with managedFields := [] }
            spec := { finalizers := [] }
            status := { phase := [] } })

section Configured

variable {object result : Object} {transform : TransformFunc}

theorem trimmed_of_transform (configured : byObjectTransformers object = some transform)
    (returned : transform (some object) = .ok (some result)) : Trimmed object result := by
  cases object with
  | role r =>
      cases configured
      rw [Kind.transform, trimRole_role] at returned
      split at returned
      · cases returned
      · rename_i listed
        cases returned
        exact .role r _ (trimmedRules_filtered r.rules listed)
  | clusterRole cr =>
      cases configured
      rw [Kind.transform, trimClusterRole_clusterRole] at returned
      split at returned
      · cases returned
      · rename_i listed
        cases returned
        exact .clusterRole cr _ (trimmedRules_filtered cr.rules listed)
  | roleBinding rb =>
      cases configured
      rw [Kind.transform, trimRoleBinding_roleBinding] at returned
      cases returned
      exact .roleBinding rb
  | clusterRoleBinding crb =>
      cases configured
      rw [Kind.transform, trimClusterRoleBinding_clusterRoleBinding] at returned
      cases returned
      exact .clusterRoleBinding crb
  | nspace ns =>
      cases configured
      rw [Kind.transform, trimNamespace_nspace] at returned
      cases returned
      exact .nspace ns
  | other name => cases configured

theorem Trimmed.fixed (trimmed : Trimmed object result)
    (configured : byObjectTransformers object = some transform) :
    transform (some result) = .ok (some result) := by
  cases trimmed with
  | role r left trimmedRules =>
      cases configured
      obtain ⟨nonempty, filtered, _names⟩ := trimmedRules
      subst filtered
      rw [Kind.transform, trimRole_role, filterNamespacesRelatedPolicyRules_idempotent,
        if_neg nonempty]
      rfl
  | clusterRole cr left trimmedRules =>
      cases configured
      obtain ⟨nonempty, filtered, _names⟩ := trimmedRules
      subst filtered
      rw [Kind.transform, trimClusterRole_clusterRole,
        filterNamespacesRelatedPolicyRules_idempotent, if_neg nonempty]
      rfl
  | roleBinding rb =>
      cases configured
      rfl
  | clusterRoleBinding crb =>
      cases configured
      rfl
  | nspace ns =>
      cases configured
      rfl

end Configured

theorem transform_idempotent_and_trims_only {object result : Object} {transform : TransformFunc}
    (configured : byObjectTransformers object = some transform)
    (returned : transform (some object) = .ok (some result)) :
    transform (some result) = .ok (some result) ∧ Trimmed object result := by
  have trimmed := trimmed_of_transform configured returned
  exact ⟨trimmed.fixed configured, trimmed⟩

def annotatedRole : Role :=
  { metadata :=
      { name := "viewer"
        nsName := "team-a"
        labels := none
        annotations := some ∅
        managedFields := ["kubectl"] }
    rules :=
      [ { verbs := ["get", "list"]
          apiGroups := ["", "apps"]
          resources := ["pods", "namespaces"]
          resourceNames := ["team-a"] },
        { verbs := ["create"]
          apiGroups := [""]
          resources := ["namespaces"]
          resourceNames := [] } ] }

def trimmedAnnotatedRole : Role :=
  { metadata := ObjectMeta.bare "team-a" "viewer"
    rules :=
      [ { verbs := ["get"]
          apiGroups := [""]
          resources := ["namespaces"]
          resourceNames := ["team-a"] } ] }

theorem annotatedRole_trimmed_once :
    (trimRole (some (.role annotatedRole)) = .ok (some (.role trimmedAnnotatedRole)) ∧
      annotatedRole ≠ trimmedAnnotatedRole) ∧
    trimRole (some (.role trimmedAnnotatedRole)) = .ok (some (.role trimmedAnnotatedRole)) ∧
    Trimmed (.role annotatedRole) (.role trimmedAnnotatedRole) := by
  refine ⟨⟨by decide, by decide⟩, ?_⟩
  exact transform_idempotent_and_trims_only rfl (by decide)

/-! ### The store of an informer -/

/-- Every object of the store lies under its own key and is what its transform
returns for it. -/
def Settled (transform : TransformFunc) (store : Store) : Prop :=
  ∀ key object, store.lookup key = some object →
    object.key = some key ∧ transform (some object) = .ok (some object)

section Redelivery

variable {transform : TransformFunc} {store : Store}

theorem Settled.insert (settled : Settled transform store) {own : ObjectKey} {object : Object}
    (ownKey : object.key = some own) (fixed : transform (some object) = .ok (some object)) :
    Settled transform (store.insert own object) := by
  intro key held found
  rw [GoMap.lookup_assign] at found
  split at found
  · rename_i same
    cases found
    rw [same]
    exact ⟨ownKey, fixed⟩
  · exact settled key held found

theorem Settled.erase (settled : Settled transform store) (own : ObjectKey) :
    Settled transform (store.erase own) := by
  intro key held found
  rw [GoMap.lookup_delete] at found
  split at found
  · cases found
  · exact settled key held found

theorem settled_processDelta (settled : Settled transform store) (event : WatchEvent)
    (configured : byObjectTransformers event.object = some transform) :
    Settled transform (processDelta transform store event).1 := by
  unfold processDelta
  cases returned : transform (some event.object) with
  | error err => exact settled
  | ok version =>
      cases version with
      | none => exact settled
      | some object =>
          have fixed := (trimmed_of_transform configured returned).fixed configured
          cases ownKey : object.key with
          | none =>
              simp only [ownKey]
              exact settled
          | some own =>
              simp only [ownKey]
              cases event.watchType with
              | deleted => exact settled.erase own
              | added | updated =>
                  cases store.lookup own with
                  | none => exact settled.insert ownKey fixed
                  | some old => exact settled.insert ownKey fixed

theorem settled_storeAfter (history : List WatchEvent)
    (configured : ∀ event ∈ history, byObjectTransformers event.object = some transform) :
    Settled transform (storeAfter transform history) := by
  induction history using List.reverseRecOn with
  | nil =>
      intro key object found
      cases found
  | append_singleton earlier event ih =>
      rw [storeAfter_concat]
      apply settled_processDelta
      · apply ih
        intro before member
        exact configured before (List.mem_append_left [event] member)
      · exact configured event (List.mem_append_right earlier (List.mem_singleton_self event))

theorem redelivery_keeps_store (history : List WatchEvent)
    (configured : ∀ event ∈ history, byObjectTransformers event.object = some transform)
    {key : ObjectKey} {object : Object}
    (held : (storeAfter transform history).lookup key = some object) :
    processDelta transform (storeAfter transform history)
        { watchType := .updated, object := object } =
      (storeAfter transform history, [.onUpdate object object]) := by
  obtain ⟨ownKey, fixed⟩ := settled_storeAfter history configured key object held
  have unchanged : (storeAfter transform history).insert key object =
      storeAfter transform history := by
    apply Finmap.ext_lookup
    intro other
    rw [GoMap.lookup_assign]
    split
    · rename_i same
      rw [same, held]
    · rfl
  unfold processDelta
  simp only [fixed, ownKey, held, unchanged]

end Redelivery

end NamespaceLister
