/-
The virtual labels and annotations of the published entries.

Namespaces reach `synch` with labels and annotations that their tenants wrote;
the trimming of the informers keeps both.  What an entry shows under the keys of
the cache is compared with what the subject alone should make it show.
-/

import NamespaceLister.SynchOutcome
import NamespaceLister.Transform

namespace NamespaceLister

open Library

def Namespace.labelAt (ns : Namespace) (key : GoString) : Option GoString :=
  (ns.metadata.labels.getD ∅).lookup key

def Namespace.annotationAt (ns : Namespace) (key : GoString) : Option GoString :=
  (ns.metadata.annotations.getD ∅).lookup key

/-! ### What the two steps write -/

theorem labelAt_setVisibilityVirtualLabel (ns : Namespace) (subs : List Subject) (key : GoString) :
    (setVisibilityVirtualLabel ns subs).labelAt key =
      if key = VirtualLabelKeyVisibility ∧ ns.metadata.labels ≠ none then some (visibility subs)
      else ns.labelAt key := by
  unfold setVisibilityVirtualLabel Namespace.labelAt
  cases labels : ns.metadata.labels with
  | none => simp [labels]
  | some ll =>
      simp only [Option.getD_some, GoMap.lookup_assign, ne_eq, reduceCtorEq, not_false_eq_true,
        and_true]

theorem annotationAt_setVisibilityVirtualLabel (ns : Namespace) (subs : List Subject)
    (key : GoString) :
    (setVisibilityVirtualLabel ns subs).annotationAt key = ns.annotationAt key := by
  unfold setVisibilityVirtualLabel
  split <;> rfl

theorem labelAt_withVirtual (rt : Runtime) (ns : Namespace) (sub : Subject) (key : GoString) :
    (withVirtualLabelsAndAnnotationsForAccess rt ns sub).labelAt key =
      if key = VirtualLabelKeyAccess then some (GoString.toLower rt.unicodeToLower sub.kind)
      else ns.labelAt key :=
  GoMap.lookup_assign (ns.metadata.labels.getD ∅) VirtualLabelKeyAccess key _

theorem annotationAt_withVirtual (rt : Runtime) (ns : Namespace) (sub : Subject) (key : GoString) :
    (withVirtualLabelsAndAnnotationsForAccess rt ns sub).annotationAt key =
      if key = VirtualAnnotationKeySubjectNamespace ∧ sub.nsName ≠ [] then some sub.nsName
      else if key = VirtualAnnotationKeySubjectName then some sub.name
      else ns.annotationAt key := by
  unfold withVirtualLabelsAndAnnotationsForAccess Namespace.annotationAt
  by_cases named : sub.nsName = []
  · simp [named, GoMap.lookup_assign]
  · simp [named, GoMap.lookup_assign]

private theorem virtual_label_keys_distinct :
    VirtualLabelKeyVisibility ≠ VirtualLabelKeyAccess := by
  decide

private theorem virtual_annotation_keys_distinct :
    VirtualAnnotationKeySubjectName ≠ VirtualAnnotationKeySubjectNamespace := by
  decide

theorem accessEntry_visibility (rt : Runtime) (ns : Namespace) (ss : List Subject)
    (sub : Subject) :
    (accessEntry rt ns ss sub).labelAt VirtualLabelKeyVisibility =
      if ns.metadata.labels ≠ none then some (visibility ss) else none := by
  unfold accessEntry
  rw [labelAt_withVirtual, if_neg virtual_label_keys_distinct, labelAt_setVisibilityVirtualLabel]
  by_cases nilMap : ns.metadata.labels = none
  · simp [nilMap, Namespace.labelAt]
  · simp [nilMap]

theorem forall₂_published (rt : Runtime) (s : SynchronizedAccessCache) (obs : SynchObservations)
    (nn : List Namespace) (listed : obs.listed = .ok nn)
    (succeeded : (s.Synch rt obs).2 = none) (sub : Subject)
    (related : Namespace × List Subject → Namespace → Prop) :
    List.Forall₂ related ((observedPairs obs 0 nn).filter (fun pair => sub ∈ pair.2))
        (((s.Synch rt obs).1.accessCache.list sub).getD []) ↔
      ∀ pair ∈ observedPairs obs 0 nn, sub ∈ pair.2 →
        related pair (accessEntry rt pair.1 pair.2 sub) := by
  have published : ((s.Synch rt obs).1.accessCache.list sub).getD [] =
      grants rt (observedPairs obs 0 nn) sub := by
    unfold AtomicListRestockCache.list
    rw [Synch_published rt s obs nn listed succeeded]
    exact accessOf_getD rt (observedPairs obs 0 nn) sub
  rw [published]
  unfold grants
  rw [List.forall₂_map_right_iff, List.forall₂_same]
  simp only [List.mem_filter, decide_eq_true_eq, and_imp]

/-! ### Visibility -/

def sharedWithAuthenticated (subs : List Subject) : Prop :=
  ∃ sub ∈ subs, sub.kind = groupKind ∧ sub.apiGroup = rbacGroupName ∧
    sub.name = GoString.ofLiteral "system:authenticated"

def showsVisibility (subs : List Subject) (entry : Namespace) : Prop :=
  (sharedWithAuthenticated subs →
    entry.labelAt VirtualLabelKeyVisibility = some VirtualLabelValueVisibilityAuthenticated) ∧
  (¬sharedWithAuthenticated subs →
    entry.labelAt VirtualLabelKeyVisibility = some VirtualLabelValueVisibilityPrivate)

private theorem any_systemAuthenticated_iff (subs : List Subject) :
    subs.any isSystemAuthenticatedGroup = true ↔ sharedWithAuthenticated subs := by
  rw [List.any_eq_true]
  unfold sharedWithAuthenticated isSystemAuthenticatedGroup
  simp only [Bool.and_eq_true, beq_iff_eq]
  constructor
  · intro present
    obtain ⟨sub, member, ⟨group, kind⟩, name⟩ := present
    exact ⟨sub, member, kind, group, name⟩
  · intro present
    obtain ⟨sub, member, kind, group, name⟩ := present
    exact ⟨sub, member, ⟨group, kind⟩, name⟩

private theorem showsVisibility_iff (subs : List Subject) (entry : Namespace) :
    showsVisibility subs entry ↔
      entry.labelAt VirtualLabelKeyVisibility = some (visibility subs) := by
  unfold showsVisibility visibility
  rw [← any_systemAuthenticated_iff]
  by_cases shared : subs.any isSystemAuthenticatedGroup = true
  · simp [shared]
  · simp [shared]

/-- Every entry shows the visibility of its namespace exactly when each listed
namespace that some subject may get has a label map. -/
theorem published_visibility_iff (rt : Runtime) (s : SynchronizedAccessCache)
    (obs : SynchObservations) (nn : List Namespace) (listed : obs.listed = .ok nn)
    (succeeded : (s.Synch rt obs).2 = none) :
    (∀ sub,
      List.Forall₂ (fun pair entry => showsVisibility pair.2 entry)
        ((observedPairs obs 0 nn).filter (fun pair => sub ∈ pair.2))
        (((s.Synch rt obs).1.accessCache.list sub).getD [])) ↔
      ∀ pair ∈ observedPairs obs 0 nn, pair.2 ≠ [] → pair.1.metadata.labels ≠ none := by
  constructor
  · intro shown pair observed nonempty nilMap
    obtain ⟨sub, member⟩ := List.exists_mem_of_ne_nil pair.2 nonempty
    have entry := (forall₂_published rt s obs nn listed succeeded sub _).mp (shown sub)
      pair observed member
    rw [showsVisibility_iff, accessEntry_visibility, if_neg (not_not.mpr nilMap)] at entry
    cases entry
  · intro mapped sub
    rw [forall₂_published rt s obs nn listed succeeded]
    intro pair observed member
    rw [showsVisibility_iff, accessEntry_visibility,
      if_pos (mapped pair observed (List.ne_nil_of_mem member))]

private def plainUser : Subject := userSubject "alice"

private def unlabelledTenant : SynchObservations :=
  { listed := .ok [bareNamespace "team-a"]
    ctxErr := fun _ => none
    allowedSubjects := fun _ _ =>
      ([plainUser], none) }

/-- The map made for a namespace without labels is never stored back. -/
theorem published_visibility_lost :
    (SynchronizedAccessCache.new.Synch Runtime.reference unlabelledTenant).2 = none ∧
    ¬∀ sub,
      List.Forall₂ (fun pair entry => showsVisibility pair.2 entry)
        ((observedPairs unlabelledTenant 0 [bareNamespace "team-a"]).filter
          (fun pair => sub ∈ pair.2))
        (((SynchronizedAccessCache.new.Synch Runtime.reference
          unlabelledTenant).1.accessCache.list sub).getD []) := by
  refine ⟨rfl, ?_⟩
  intro shown
  have entries := (forall₂_published Runtime.reference SynchronizedAccessCache.new
    unlabelledTenant [bareNamespace "team-a"] rfl rfl
    plainUser _).mp (shown plainUser)
    _ List.mem_cons_self List.mem_cons_self
  rw [showsVisibility_iff, accessEntry_visibility] at entries
  cases entries

private def labelledTenant : SynchObservations :=
  { unlabelledTenant with
    listed := .ok
      [{ bareNamespace "team-a" with
          metadata := { ObjectMeta.bare [] "team-a" with labels := some ∅ } }] }

theorem published_visibility_iff_labelled :
    List.Forall₂ (fun pair entry => showsVisibility pair.2 entry)
      ((observedPairs labelledTenant 0
        [{ bareNamespace "team-a" with
            metadata := { ObjectMeta.bare [] "team-a" with labels := some ∅ } }]).filter
        (fun pair => plainUser ∈ pair.2))
      (((SynchronizedAccessCache.new.Synch Runtime.reference
        labelledTenant).1.accessCache.list plainUser).getD []) :=
  (published_visibility_iff Runtime.reference SynchronizedAccessCache.new labelledTenant _ rfl
    rfl).mpr (by decide) plainUser

/-! ### Access metadata -/

/-- What an entry shows under the keys of the access metadata comes from the
subject alone, and everything under other keys from the namespace. -/
structure AccessMetadata (rt : Runtime) (ns : Namespace) (sub : Subject) (entry : Namespace) :
    Prop where
  access : entry.labelAt VirtualLabelKeyAccess =
    some (GoString.toLower rt.unicodeToLower sub.kind)
  subjectName : entry.annotationAt VirtualAnnotationKeySubjectName = some sub.name
  subjectNamespace : entry.annotationAt VirtualAnnotationKeySubjectNamespace =
    if sub.nsName = [] then none else some sub.nsName
  otherLabels : ∀ key, key ≠ VirtualLabelKeyAccess → key ≠ VirtualLabelKeyVisibility →
    entry.labelAt key = ns.labelAt key
  otherAnnotations : ∀ key, key ≠ VirtualAnnotationKeySubjectName →
    key ≠ VirtualAnnotationKeySubjectNamespace → entry.annotationAt key = ns.annotationAt key

private theorem annotationAt_accessEntry (rt : Runtime) (ns : Namespace) (ss : List Subject)
    (sub : Subject) (key : GoString) :
    (accessEntry rt ns ss sub).annotationAt key =
      if key = VirtualAnnotationKeySubjectNamespace ∧ sub.nsName ≠ [] then some sub.nsName
      else if key = VirtualAnnotationKeySubjectName then some sub.name
      else ns.annotationAt key := by
  unfold accessEntry
  rw [annotationAt_withVirtual, annotationAt_setVisibilityVirtualLabel]

private theorem subjectNamespace_accessEntry (rt : Runtime) (ns : Namespace) (ss : List Subject)
    (sub : Subject) :
    (accessEntry rt ns ss sub).annotationAt VirtualAnnotationKeySubjectNamespace =
      if sub.nsName = [] then ns.annotationAt VirtualAnnotationKeySubjectNamespace
      else some sub.nsName := by
  rw [annotationAt_accessEntry]
  by_cases unnamed : sub.nsName = []
  · rw [if_neg (fun both => both.2 unnamed), if_neg virtual_annotation_keys_distinct.symm,
      if_pos unnamed]
  · rw [if_pos ⟨rfl, unnamed⟩, if_neg unnamed]

theorem accessEntry_metadata_iff (rt : Runtime) (ns : Namespace) (ss : List Subject)
    (sub : Subject) :
    AccessMetadata rt ns sub (accessEntry rt ns ss sub) ↔
      sub.nsName ≠ [] ∨ ns.annotationAt VirtualAnnotationKeySubjectNamespace = none := by
  have shown := subjectNamespace_accessEntry rt ns ss sub
  constructor
  · intro metadata
    by_cases unnamed : sub.nsName = []
    · right
      have absent := metadata.subjectNamespace
      rw [shown, if_pos unnamed, if_pos unnamed] at absent
      exact absent
    · exact Or.inl unnamed
  · intro condition
    constructor
    · unfold accessEntry
      rw [labelAt_withVirtual, if_pos rfl]
    · rw [annotationAt_accessEntry,
        if_neg (fun both => virtual_annotation_keys_distinct both.1), if_pos rfl]
    · rw [shown]
      by_cases unnamed : sub.nsName = []
      · rw [if_pos unnamed, if_pos unnamed]
        exact condition.resolve_left (not_not.mpr unnamed)
      · rw [if_neg unnamed, if_neg unnamed]
    · intro key notAccess notVisibility
      unfold accessEntry
      rw [labelAt_withVirtual, if_neg notAccess, labelAt_setVisibilityVirtualLabel,
        if_neg (fun both => notVisibility both.1)]
    · intro key notName notNamespace
      rw [annotationAt_accessEntry, if_neg (fun both => notNamespace both.1), if_neg notName]

/-- In the data of a successful synch, each entry of each subject shows the right
access metadata exactly under that condition. -/
theorem published_metadata_iff (rt : Runtime) (s : SynchronizedAccessCache)
    (obs : SynchObservations) (nn : List Namespace) (listed : obs.listed = .ok nn)
    (succeeded : (s.Synch rt obs).2 = none) (sub : Subject) :
    List.Forall₂
      (fun pair entry => AccessMetadata rt pair.1 sub entry ↔
        sub.nsName ≠ [] ∨
          pair.1.annotationAt VirtualAnnotationKeySubjectNamespace = none)
      ((observedPairs obs 0 nn).filter (fun pair => sub ∈ pair.2))
      (((s.Synch rt obs).1.accessCache.list sub).getD []) := by
  rw [forall₂_published rt s obs nn listed succeeded]
  intro pair _observed _member
  exact accessEntry_metadata_iff rt pair.1 pair.2 sub

/-- A tenant's namespace that carries a subject-namespace annotation of its own. -/
private def forgedTenant : Namespace :=
  { bareNamespace "team-a" with
    metadata :=
      { ObjectMeta.bare [] "team-a" with
        annotations := some ((∅ : GoMap GoString GoString).insert
          VirtualAnnotationKeySubjectNamespace "kube-system") } }

private def forgedListing : SynchObservations :=
  { unlabelledTenant with listed := .ok [forgedTenant] }

theorem published_metadata_forged :
    trimNamespace (some (.nspace forgedTenant)) = .ok (some (.nspace forgedTenant)) ∧
    (SynchronizedAccessCache.new.Synch Runtime.reference forgedListing).2 = none ∧
    ¬List.Forall₂ (fun pair entry => AccessMetadata Runtime.reference pair.1 plainUser entry)
      ((observedPairs forgedListing 0 [forgedTenant]).filter (fun pair => plainUser ∈ pair.2))
      (((SynchronizedAccessCache.new.Synch Runtime.reference
        forgedListing).1.accessCache.list plainUser).getD []) := by
  refine ⟨rfl, rfl, ?_⟩
  intro genuine
  have entries := (forall₂_published Runtime.reference SynchronizedAccessCache.new
    forgedListing [forgedTenant] rfl rfl plainUser _).mp genuine
    _ List.mem_cons_self List.mem_cons_self
  rw [accessEntry_metadata_iff] at entries
  rcases entries with named | absent
  · exact named rfl
  · revert absent
    decide

private def builder : Subject := serviceAccountSubject "team-a" "builder"

theorem published_metadata_iff_account :
    List.Forall₂
      (fun pair entry => AccessMetadata Runtime.reference pair.1 builder entry ↔
        builder.nsName ≠ [] ∨
          pair.1.annotationAt VirtualAnnotationKeySubjectNamespace = none)
      ((observedPairs { forgedListing with allowedSubjects := fun _ _ => ([builder], none) } 0
        [forgedTenant]).filter (fun pair => builder ∈ pair.2))
      (((SynchronizedAccessCache.new.Synch Runtime.reference
        { forgedListing with
          allowedSubjects := fun _ _ => ([builder], none) }).1.accessCache.list builder).getD []) :=
  published_metadata_iff Runtime.reference SynchronizedAccessCache.new
    { forgedListing with allowedSubjects := fun _ _ => ([builder], none) }
    [forgedTenant] rfl rfl builder

end NamespaceLister
