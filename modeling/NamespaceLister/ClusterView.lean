/-
The objects the program sees of a cluster, and the access they give.

The selectors leave out namespaces and the cluster role bindings that are not
marked for access; the transforms trim the rest.  The decisions over a resource
cache depend only on the objects in it, so they are those of the selected and
trimmed cluster, and the trimming leaves the literal reading of the rules.
-/

import NamespaceLister.Authorizer
import NamespaceLister.ClusterWatch

namespace NamespaceLister

open Library

namespace ResourceCache

def objects (cache : ResourceCache) : Kind → List Object
  | .nspace => cache.namespaces.map .nspace
  | .role => cache.roles.map .role
  | .roleBinding => cache.roleBindings.map .roleBinding
  | .clusterRole => cache.clusterRoles.map .clusterRole
  | .clusterRoleBinding => cache.clusterRoleBindings.map .clusterRoleBinding

def SameObjects (first second : ResourceCache) : Prop :=
  ∀ kind object, object ∈ first.objects kind ↔ object ∈ second.objects kind

def selected (cache : ResourceCache) (namespaceSelector : Selector) : ResourceCache :=
  { cache with
    namespaces := cache.namespaces.filter
      (fun ns => Kind.nspace.selects namespaceSelector (.nspace ns))
    clusterRoleBindings := cache.clusterRoleBindings.filter
      (fun binding => Kind.clusterRoleBinding.selects namespaceSelector
        (.clusterRoleBinding binding))
    namespacesNodup :=
      cache.namespacesNodup.sublist (List.filter_sublist.map Namespace.name) }

end ResourceCache

/-! ### The same objects -/

namespace ResourceCache.SameObjects

variable {first second : ResourceCache} (same : first.SameObjects second)

include same

theorem namespaces (ns : Namespace) : ns ∈ first.namespaces ↔ ns ∈ second.namespaces := by
  simpa [ResourceCache.objects] using same .nspace (.nspace ns)

theorem roles (role : Role) : role ∈ first.roles ↔ role ∈ second.roles := by
  simpa [ResourceCache.objects] using same .role (.role role)

theorem clusterRoles (role : ClusterRole) :
    role ∈ first.clusterRoles ↔ role ∈ second.clusterRoles := by
  simpa [ResourceCache.objects] using same .clusterRole (.clusterRole role)

theorem roleBindings (binding : RoleBinding) :
    binding ∈ first.roleBindings ↔ binding ∈ second.roleBindings := by
  simpa [ResourceCache.objects] using same .roleBinding (.roleBinding binding)

theorem clusterRoleBindings (binding : ClusterRoleBinding) :
    binding ∈ first.clusterRoleBindings ↔ binding ∈ second.clusterRoleBindings := by
  simpa [ResourceCache.objects] using same .clusterRoleBinding (.clusterRoleBinding binding)

/-- A reference is resolved by key, so the order of the objects does not matter. -/
theorem referencedRules_eq (roleRef : RoleRef) (nsName : GoString) :
    referencedRules first roleRef nsName = referencedRules second roleRef nsName := by
  have asRole : getRole first nsName roleRef.name = getRole second nsName roleRef.name := by
    unfold getRole
    rw [find_sameMembers Role.key second.rolesNodup same.roles]
  have asClusterRole : getClusterRole first roleRef.name = getClusterRole second roleRef.name := by
    unfold getClusterRole
    rw [find_sameMembers (fun role : ClusterRole => role.metadata.name)
      second.clusterRolesNodup same.clusterRoles]
  unfold referencedRules getRoleReferenceRules
  rw [asRole, asClusterRole]

theorem mem_subjectsUnder_iff (ns : Namespace) (granted : List PolicyRule → Bool) (sub : Subject) :
    sub ∈ subjectsUnder first ns granted ↔ sub ∈ subjectsUnder second ns granted := by
  simp only [mem_subjectsUnder, same.clusterRoleBindings, same.roleBindings,
    same.referencedRules_eq]

end ResourceCache.SameObjects

/-! ### What is visible -/

namespace Kind

theorem trimmed_nspace (ns : Namespace) :
    Kind.nspace.trimmed (.nspace ns) = (trimmedNamespace? ns).map .nspace := rfl

theorem trimmed_role (role : Role) :
    Kind.role.trimmed (.role role) = (trimmedRole? role).map .role := by
  have returned := trimRole_role role
  by_cases dropped : filterNamespacesRelatedPolicyRules role.rules = []
  · simp only [trimmed, transform, trimmedRole?, returned, if_pos dropped, Option.map_none]
  · simp only [trimmed, transform, trimmedRole?, returned, if_neg dropped, Option.map_some]

theorem trimmed_clusterRole (role : ClusterRole) :
    Kind.clusterRole.trimmed (.clusterRole role) = (trimmedClusterRole? role).map .clusterRole := by
  have returned := trimClusterRole_clusterRole role
  by_cases dropped : filterNamespacesRelatedPolicyRules role.rules = []
  · simp only [trimmed, transform, trimmedClusterRole?, returned, if_pos dropped, Option.map_none]
  · simp only [trimmed, transform, trimmedClusterRole?, returned, if_neg dropped, Option.map_some]

theorem trimmed_roleBinding (binding : RoleBinding) :
    Kind.roleBinding.trimmed (.roleBinding binding) =
      (trimmedRoleBinding? binding).map .roleBinding := rfl

theorem trimmed_clusterRoleBinding (binding : ClusterRoleBinding) :
    Kind.clusterRoleBinding.trimmed (.clusterRoleBinding binding) =
      (trimmedClusterRoleBinding? binding).map .clusterRoleBinding := rfl

end Kind

private theorem mem_map_trimmed {A : Type} (kind : Kind) (namespaceSelector : Selector)
    (wrap : A → Object) (trim : A → Option A)
    (trims : ∀ item, kind.trimmed (wrap item) = (trim item).map wrap)
    (items : List A) (object : Object) :
    object ∈ ((items.filter (fun item => kind.selects namespaceSelector (wrap item))).filterMap
        trim).map wrap ↔
      ∃ source ∈ items.map wrap, kind.visible namespaceSelector source = some object := by
  simp only [List.mem_map, List.mem_filterMap, List.mem_filter]
  constructor
  · rintro ⟨result, ⟨item, ⟨member, selected⟩, kept⟩, wrapped⟩
    refine ⟨wrap item, ⟨item, member, rfl⟩, ?_⟩
    rw [Kind.visible, if_pos selected, trims, kept, Option.map_some, wrapped]
  · rintro ⟨_, ⟨item, member, rfl⟩, seen⟩
    unfold Kind.visible at seen
    split at seen
    · rename_i selected
      rw [trims] at seen
      obtain ⟨result, kept, wrapped⟩ := Option.map_eq_some_iff.mp seen
      exact ⟨result, ⟨item, ⟨member, selected⟩, kept⟩, wrapped⟩
    · cases seen

private theorem filter_everything {A : Type} (items : List A) (wrap : A → Object) (kind : Kind)
    (namespaceSelector : Selector) (unselective : kind.selector namespaceSelector = everything) :
    items.filter (fun item => kind.selects namespaceSelector (wrap item)) = items := by
  apply List.filter_eq_self.mpr
  intro item _member
  unfold Kind.selects
  rw [unselective]
  rfl

theorem mem_objects_selected_trimmed (cache : ResourceCache) (namespaceSelector : Selector)
    (kind : Kind) (object : Object) :
    object ∈ (cache.selected namespaceSelector).trimmed.objects kind ↔
      ∃ source ∈ cache.objects kind, kind.visible namespaceSelector source = some object := by
  cases kind with
  | nspace =>
      exact mem_map_trimmed .nspace namespaceSelector .nspace trimmedNamespace?
        Kind.trimmed_nspace cache.namespaces object
  | clusterRoleBinding =>
      exact mem_map_trimmed .clusterRoleBinding namespaceSelector .clusterRoleBinding
        trimmedClusterRoleBinding? Kind.trimmed_clusterRoleBinding cache.clusterRoleBindings object
  | roleBinding =>
      have all := mem_map_trimmed .roleBinding namespaceSelector .roleBinding trimmedRoleBinding?
        Kind.trimmed_roleBinding cache.roleBindings object
      rw [filter_everything _ _ _ _ rfl] at all
      exact all
  | clusterRole =>
      have all := mem_map_trimmed .clusterRole namespaceSelector .clusterRole trimmedClusterRole?
        Kind.trimmed_clusterRole cache.clusterRoles object
      rw [filter_everything _ _ _ _ rfl] at all
      exact all
  | role =>
      have all := mem_map_trimmed .role namespaceSelector .role trimmedRole?
        Kind.trimmed_role cache.roles object
      rw [filter_everything _ _ _ _ rfl] at all
      exact all

/-! ### The lists of a resource cache and the stores -/

def showsStore (objects : List Object) (store : Store) : Bool :=
  objects.all (fun object => object.key.any (fun key => store.lookup key == some object)) &&
    decide (∀ key ∈ store.keys, ∃ object ∈ objects, store.lookup key = some object)

theorem mem_of_showsStore {objects : List Object} {store : Store}
    (shows_ : showsStore objects store = true) (object : Object) :
    object ∈ objects ↔ ∃ key, store.lookup key = some object := by
  unfold showsStore at shows_
  rw [Bool.and_eq_true, List.all_eq_true, decide_eq_true_eq] at shows_
  constructor
  · intro member
    have stored := shows_.1 object member
    cases own : object.key with
    | none =>
        rw [own] at stored
        cases stored
    | some key =>
        rw [own] at stored
        exact ⟨key, by simpa using stored⟩
  · rintro ⟨key, found⟩
    have known : key ∈ store.keys := Finmap.mem_keys.mpr (Finmap.mem_of_lookup_eq_some found)
    obtain ⟨other, member, isOther⟩ := shows_.2 key known
    rw [found] at isOther
    cases isOther
    exact member

def ResourceCache.shows (cache : ResourceCache) (stores : Kind → Store) : Bool :=
  watchedKinds.all (fun kind => showsStore (cache.objects kind) (stores kind))

theorem ResourceCache.mem_objects_of_shows {cache : ResourceCache} {stores : Kind → Store}
    (shows_ : cache.shows stores = true) (kind : Kind) (object : Object) :
    object ∈ cache.objects kind ↔ ∃ key, (stores kind).lookup key = some object :=
  mem_of_showsStore (List.all_eq_true.mp shows_ kind (mem_watchedKinds kind)) object

theorem sameObjects_of_visible {live seen : ResourceCache} {cluster stores : Kind → Store}
    {namespaceSelector : Selector} (showsLive : live.shows cluster = true)
    (showsSeen : seen.shows stores = true)
    (caughtUp : ∀ kind key, (stores kind).lookup key =
      ((cluster kind).lookup key).bind (kind.visible namespaceSelector)) :
    seen.SameObjects (live.selected namespaceSelector).trimmed := by
  intro kind object
  rw [seen.mem_objects_of_shows showsSeen, mem_objects_selected_trimmed]
  simp only [caughtUp, Option.bind_eq_some_iff]
  constructor
  · rintro ⟨key, source, held, visible⟩
    exact ⟨source, (live.mem_objects_of_shows showsLive kind source).mpr ⟨key, held⟩, visible⟩
  · rintro ⟨source, member, visible⟩
    obtain ⟨key, held⟩ := (live.mem_objects_of_shows showsLive kind source).mp member
    exact ⟨key, source, held, visible⟩

/-! ### The access they give -/

/-- What the cluster itself says of a user and a namespace: a member of
`system:masters`, or someone whom a binding reaches, a cluster role binding marked
for access or a role binding of the namespace, with rules that literally list the
get of the namespace. -/
def literalAccess (live : ResourceCache) (username : GoString) (groups : List GoString)
    (name : GoString) : Prop :=
  GoString.ofLiteral "system:masters" ∈ groups ∨
  (∃ binding ∈ live.clusterRoleBindings,
    usedForAccess (binding.metadata.labels.getD ∅) = true ∧
    appliesTo username groups binding.subjects [] = true ∧
    literallyAllows name (referencedRules live binding.roleRef []) = true) ∨
  ∃ binding ∈ live.roleBindings, binding.metadata.nsName = name ∧
    appliesTo username groups binding.subjects name = true ∧
    literallyAllows name (referencedRules live binding.roleRef name) = true

/-- The keys of an ordinary user are granted a namespace over the selected and
trimmed objects exactly when the cluster gives the user literal access. -/
theorem key_granted_iff_literalAccess (live : ResourceCache) (namespaceSelector : Selector)
    (plain : live.allSubjects plainSubject) (username : GoString) (groups : List GoString)
    (ordinary : GoString.hasPrefix username "system:serviceaccount:" = false) (ns : Namespace) :
    (∃ key ∈ userSubject username :: groups.map groupSubject,
      key ∈ subjectsUnder (live.selected namespaceSelector).trimmed ns
        (rulesAllow (namespaceAttributes ns))) ↔
      literalAccess live username groups ns.name := by
  have matches_ : live.allSubjects (fun sub => ∀ nsName,
      sub ∈ userSubject username :: groups.map groupSubject ↔
        appliesToUser username groups sub nsName = true) :=
    ⟨fun binding member sub bound =>
        mem_keys_iff_applies username groups ordinary sub (plain.1 binding member sub bound),
      fun binding member sub bound =>
        mem_keys_iff_applies username groups ordinary sub (plain.2 binding member sub bound)⟩
  have notGroup : userKind ≠ groupKind := by decide
  have masters := systemMasters_mem_keys (userSubject username) notGroup groups
  have unselected : ∀ roleRef nsName, referencedRules (live.selected namespaceSelector) roleRef
      nsName = referencedRules live roleRef nsName := fun _ _ => rfl
  rw [← allowedSubjects_eq_subjectsUnder, allowedSubjects_trimmed_eq]
  simp only [mem_subjectsUnder, unselected]
  constructor
  · rintro ⟨key, inKeys, always | ⟨binding, member, allows, bound⟩ | ⟨binding, member, here,
      allows, bound⟩⟩
    · rw [always] at inKeys
      exact Or.inl (masters.mp inKeys)
    · obtain ⟨inLive, marked⟩ := List.mem_filter.mp member
      have applies := (matches_.1 binding inLive key bound []).mp inKeys
      exact Or.inr (Or.inl ⟨binding, inLive, marked,
        List.any_eq_true.mpr ⟨key, bound, applies⟩, allows⟩)
    · have applies := (matches_.2 binding member key bound ns.name).mp inKeys
      exact Or.inr (Or.inr ⟨binding, member, here,
        List.any_eq_true.mpr ⟨key, bound, applies⟩, allows⟩)
  · rintro (inGroups | ⟨binding, inLive, marked, applies, allows⟩ | ⟨binding, member, here, applies,
      allows⟩)
    · exact ⟨systemMasters, masters.mpr inGroups, Or.inl rfl⟩
    · obtain ⟨key, bound, matched⟩ := List.any_eq_true.mp applies
      exact ⟨key, (matches_.1 binding inLive key bound []).mpr matched,
        Or.inr (Or.inl ⟨binding, List.mem_filter.mpr ⟨inLive, marked⟩, allows, bound⟩)⟩
    · obtain ⟨key, bound, matched⟩ := List.any_eq_true.mp applies
      exact ⟨key, (matches_.2 binding member key bound ns.name).mpr matched,
        Or.inr (Or.inr ⟨binding, member, here, allows, bound⟩)⟩

end NamespaceLister
