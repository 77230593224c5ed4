/-
Trimming the cached objects against the access decision.

The transforms drop every rule that does not literally list get on namespaces
of the core group, and every role that is left without rules.  A reference to a
dropped role fails to resolve, which contributes no subject: the decision over
the trimmed objects is the literal reading of the rules.
-/

import NamespaceLister.SynchronizedAccessCache
import NamespaceLister.Transform

namespace NamespaceLister

open Library

/-! ### The trimmed collection -/

def trimmedNamespace? (ns : Namespace) : Option Namespace :=
  match trimNamespace (some (.nspace ns)) with
  | .ok (some (.nspace trimmed)) => some trimmed
  | _ => none

def trimmedRole? (role : Role) : Option Role :=
  match trimRole (some (.role role)) with
  | .ok (some (.role trimmed)) => some trimmed
  | _ => none

def trimmedClusterRole? (role : ClusterRole) : Option ClusterRole :=
  match trimClusterRole (some (.clusterRole role)) with
  | .ok (some (.clusterRole trimmed)) => some trimmed
  | _ => none

def trimmedRoleBinding? (binding : RoleBinding) : Option RoleBinding :=
  match trimRoleBinding (some (.roleBinding binding)) with
  | .ok (some (.roleBinding trimmed)) => some trimmed
  | _ => none

def trimmedClusterRoleBinding? (binding : ClusterRoleBinding) : Option ClusterRoleBinding :=
  match trimClusterRoleBinding (some (.clusterRoleBinding binding)) with
  | .ok (some (.clusterRoleBinding trimmed)) => some trimmed
  | _ => none

theorem trimmedRole?_eq (role : Role) :
    trimmedRole? role =
      if filterNamespacesRelatedPolicyRules role.rules = [] then none
      else some
        { metadata := trimmedMeta role.metadata
          rules := filterNamespacesRelatedPolicyRules role.rules } := by
  unfold trimmedRole?
  rw [trimRole_role]
  by_cases empty : filterNamespacesRelatedPolicyRules role.rules = []
  · rw [if_pos empty, if_pos empty]
  · rw [if_neg empty, if_neg empty]

theorem trimmedClusterRole?_eq (role : ClusterRole) :
    trimmedClusterRole? role =
      if filterNamespacesRelatedPolicyRules role.rules = [] then none
      else some
        { metadata := trimmedMeta role.metadata
          rules := filterNamespacesRelatedPolicyRules role.rules } := by
  unfold trimmedClusterRole?
  rw [trimClusterRole_clusterRole]
  by_cases empty : filterNamespacesRelatedPolicyRules role.rules = []
  · rw [if_pos empty, if_pos empty]
  · rw [if_neg empty, if_neg empty]

theorem trimmedRoleBinding?_eq (binding : RoleBinding) :
    trimmedRoleBinding? binding =
      some { binding with metadata := trimmedMeta binding.metadata } := by
  unfold trimmedRoleBinding?
  rw [trimRoleBinding_roleBinding]

theorem trimmedClusterRoleBinding?_eq (binding : ClusterRoleBinding) :
    trimmedClusterRoleBinding? binding =
      some { binding with metadata := trimmedMeta binding.metadata } := by
  unfold trimmedClusterRoleBinding?
  rw [trimClusterRoleBinding_clusterRoleBinding]

private theorem trimmedRole?_key (role trimmed : Role)
    (kept : trimmedRole? role = some trimmed) : trimmed.key = role.key := by
  rw [trimmedRole?_eq] at kept
  split at kept
  · cases kept
  · cases kept
    rfl

private theorem trimmedClusterRole?_name (role trimmed : ClusterRole)
    (kept : trimmedClusterRole? role = some trimmed) :
    trimmed.metadata.name = role.metadata.name := by
  rw [trimmedClusterRole?_eq] at kept
  split at kept
  · cases kept
  · cases kept
    rfl

private theorem trimmedNamespace?_name (ns trimmed : Namespace)
    (kept : trimmedNamespace? ns = some trimmed) : trimmed.name = ns.name := by
  cases kept
  rfl

/-- Every object goes through its transform; those that become nil are left
out. -/
def ResourceCache.trimmed (cache : ResourceCache) : ResourceCache :=
  { namespaces := cache.namespaces.filterMap trimmedNamespace?
    roles := cache.roles.filterMap trimmedRole?
    clusterRoles := cache.clusterRoles.filterMap trimmedClusterRole?
    roleBindings := cache.roleBindings.filterMap trimmedRoleBinding?
    clusterRoleBindings := cache.clusterRoleBindings.filterMap trimmedClusterRoleBinding?
    namespacesNodup := nodup_keys_filterMap Namespace.name Namespace.name trimmedNamespace?
      trimmedNamespace?_name cache.namespaces cache.namespacesNodup
    rolesNodup := nodup_keys_filterMap Role.key Role.key trimmedRole? trimmedRole?_key
      cache.roles cache.rolesNodup
    clusterRolesNodup := nodup_keys_filterMap _ _ trimmedClusterRole? trimmedClusterRole?_name
      cache.clusterRoles cache.clusterRolesNodup
    bindingsNamespaced := by
      intro binding member
      obtain ⟨original, inOriginal, kept⟩ := List.mem_filterMap.mp member
      rw [trimmedRoleBinding?_eq] at kept
      cases kept
      exact cache.bindingsNamespaced original inOriginal }

/-! ### References over the trimmed collection -/

/-- The rules behind a reference; none when it does not resolve. -/
def referencedRules (cache : ResourceCache) (roleRef : RoleRef) (nsName : GoString) :
    List PolicyRule :=
  match getRoleReferenceRules cache roleRef nsName with
  | .error _ => []
  | .ok rules => rules

private theorem getRole_trimmed (cache : ResourceCache) (nsName name : GoString) :
    getRole cache.trimmed nsName name =
      (getRole cache nsName name).bind (fun role =>
        if filterNamespacesRelatedPolicyRules role.rules = [] then
          .error (.roleNotFound nsName name)
        else .ok
          { metadata := trimmedMeta role.metadata
            rules := filterNamespacesRelatedPolicyRules role.rules }) := by
  have trimmedRoles : cache.trimmed.roles = cache.roles.filterMap trimmedRole? := rfl
  unfold getRole
  rw [trimmedRoles, find_filterMap Role.key Role.key trimmedRole? trimmedRole?_key cache.roles
    cache.rolesNodup (nsName, name)]
  cases cache.roles.find? (fun role => role.key = (nsName, name)) with
  | none => rfl
  | some role =>
      rw [Option.bind_some, trimmedRole?_eq]
      by_cases empty : filterNamespacesRelatedPolicyRules role.rules = []
      · simp only [Except.bind, if_pos empty]
      · simp only [Except.bind, if_neg empty]

private theorem getClusterRole_trimmed (cache : ResourceCache) (name : GoString) :
    getClusterRole cache.trimmed name =
      (getClusterRole cache name).bind (fun role =>
        if filterNamespacesRelatedPolicyRules role.rules = [] then
          .error (.clusterRoleNotFound name)
        else .ok
          { metadata := trimmedMeta role.metadata
            rules := filterNamespacesRelatedPolicyRules role.rules }) := by
  have trimmedRoles : cache.trimmed.clusterRoles =
      cache.clusterRoles.filterMap trimmedClusterRole? := rfl
  unfold getClusterRole
  rw [trimmedRoles, find_filterMap _ _ trimmedClusterRole? trimmedClusterRole?_name
    cache.clusterRoles cache.clusterRolesNodup name]
  cases cache.clusterRoles.find? (fun role => role.metadata.name = name) with
  | none => rfl
  | some role =>
      rw [Option.bind_some, trimmedClusterRole?_eq]
      by_cases empty : filterNamespacesRelatedPolicyRules role.rules = []
      · simp only [Except.bind, if_pos empty]
      · simp only [Except.bind, if_neg empty]

/-- A reference over the trimmed collection has the filtered rules, also when
the role itself was dropped. -/
theorem referencedRules_trimmed (cache : ResourceCache) (roleRef : RoleRef)
    (nsName : GoString) :
    referencedRules cache.trimmed roleRef nsName =
      filterNamespacesRelatedPolicyRules (referencedRules cache roleRef nsName) := by
  unfold referencedRules getRoleReferenceRules
  by_cases asRole : roleRef.kind = GoString.ofLiteral "Role"
  · rw [if_pos asRole, if_pos asRole, getRole_trimmed]
    cases getRole cache nsName roleRef.name with
    | error failure => rfl
    | ok role =>
        by_cases empty : filterNamespacesRelatedPolicyRules role.rules = []
        · simp only [Except.bind, empty, ↓reduceIte]
        · simp only [Except.bind, if_neg empty]
  · rw [if_neg asRole, if_neg asRole]
    by_cases asClusterRole : roleRef.kind = GoString.ofLiteral "ClusterRole"
    · rw [if_pos asClusterRole, if_pos asClusterRole, getClusterRole_trimmed]
      cases getClusterRole cache roleRef.name with
      | error failure => rfl
      | ok role =>
          by_cases empty : filterNamespacesRelatedPolicyRules role.rules = []
          · simp only [Except.bind, empty, ↓reduceIte]
          · simp only [Except.bind, if_neg empty]
    · rw [if_neg asClusterRole, if_neg asClusterRole]
      rfl

/-! ### The subjects under a reading of the rules -/

def subjectsUnder (cache : ResourceCache) (ns : Namespace) (granted : List PolicyRule → Bool) :
    List Subject :=
  systemMasters ::
    ((listClusterRoleBindings cache).flatMap (fun binding =>
        if granted (referencedRules cache binding.roleRef []) then binding.subjects else []) ++
      (cache.bindingsIn ns.name).flatMap (fun binding =>
        if granted (referencedRules cache binding.roleRef ns.name) then binding.subjects
        else []))

private theorem bindingSubjects_eq (cache : ResourceCache) (attributes : AttributesRecord)
    (roleRef : RoleRef) (nsName : GoString) (bound : List Subject) :
    (bindingSubjects cache attributes roleRef nsName bound).1 =
      if rulesAllow attributes (referencedRules cache roleRef nsName) then bound else [] := by
  unfold bindingSubjects referencedRules
  cases getRoleReferenceRules cache roleRef nsName with
  | error failure => rfl
  | ok rules => rfl

theorem ResourceCache.bindingsIn_empty (cache : ResourceCache) : cache.bindingsIn [] = [] := by
  unfold ResourceCache.bindingsIn
  rw [List.filter_eq_nil_iff]
  intro binding member
  simpa using cache.bindingsNamespaced binding member

theorem allowedSubjects_eq_subjectsUnder (cache : ResourceCache) (ns : Namespace) :
    (allowedSubjects cache (namespaceAttributes ns)).1 =
      subjectsUnder cache ns (rulesAllow (namespaceAttributes ns)) := by
  have namespaced :
      (if (namespaceAttributes ns).nsName ≠ [] then
        (listRoleBindings cache (namespaceAttributes ns).nsName).map (fun binding =>
          bindingSubjects cache (namespaceAttributes ns) binding.roleRef
            (namespaceAttributes ns).nsName binding.subjects)
      else []) =
      (cache.bindingsIn ns.name).map (fun binding =>
        bindingSubjects cache (namespaceAttributes ns) binding.roleRef ns.name
          binding.subjects) := by
    -- without the guard of the locator an empty name would list all bindings
    change (if ns.name ≠ [] then (listRoleBindings cache ns.name).map _ else _) = _
    by_cases unnamed : ns.name = []
    · rw [if_neg (by simpa using unnamed), unnamed, cache.bindingsIn_empty]
      rfl
    · rw [if_pos unnamed, listRoleBindings, if_neg unnamed]
      rfl
  unfold allowedSubjects subjectsUnder
  simp only [namespaced, List.flatMap_append, List.flatMap_map, bindingSubjects_eq]

private theorem subjectsUnder_trimmed (cache : ResourceCache) (ns : Namespace)
    (granted : List PolicyRule → Bool) :
    subjectsUnder cache.trimmed ns granted =
      subjectsUnder cache ns (fun rules => granted (filterNamespacesRelatedPolicyRules rules)) := by
  have clusterWide : listClusterRoleBindings cache.trimmed =
      (listClusterRoleBindings cache).map (fun binding =>
        { binding with metadata := trimmedMeta binding.metadata }) := by
    change cache.clusterRoleBindings.filterMap trimmedClusterRoleBinding? = _
    rw [← List.filterMap_eq_map]
    exact List.filterMap_congr (fun binding _ => trimmedClusterRoleBinding?_eq binding)
  have namespaced : cache.trimmed.bindingsIn ns.name =
      (cache.bindingsIn ns.name).map (fun binding =>
        { binding with metadata := trimmedMeta binding.metadata }) := by
    have trimmedBindings : cache.trimmed.roleBindings =
        cache.roleBindings.map (fun binding =>
          { binding with metadata := trimmedMeta binding.metadata }) := by
      change cache.roleBindings.filterMap trimmedRoleBinding? = _
      rw [← List.filterMap_eq_map]
      exact List.filterMap_congr (fun binding _ => trimmedRoleBinding?_eq binding)
    unfold ResourceCache.bindingsIn
    rw [trimmedBindings, List.filter_map]
    rfl
  unfold subjectsUnder
  simp only [clusterWide, namespaced, List.flatMap_map, referencedRules_trimmed]

theorem mem_subjectsUnder (cache : ResourceCache) (ns : Namespace)
    (granted : List PolicyRule → Bool) (sub : Subject) :
    sub ∈ subjectsUnder cache ns granted ↔
      sub = systemMasters ∨
        (∃ binding ∈ cache.clusterRoleBindings,
          granted (referencedRules cache binding.roleRef []) = true ∧ sub ∈ binding.subjects) ∨
        ∃ binding ∈ cache.roleBindings, binding.metadata.nsName = ns.name ∧
          granted (referencedRules cache binding.roleRef ns.name) = true ∧
            sub ∈ binding.subjects := by
  simp only [subjectsUnder, listClusterRoleBindings, ResourceCache.bindingsIn, List.mem_cons,
    List.mem_append, List.mem_flatMap, List.mem_filter, decide_eq_true_eq, List.mem_ite_nil_right,
    and_assoc]

theorem subjectsUnder_mono (cache : ResourceCache) (ns : Namespace)
    (narrow wide : List PolicyRule → Bool)
    (implied : ∀ rules, narrow rules = true → wide rules = true) (sub : Subject)
    (member : sub ∈ subjectsUnder cache ns narrow) : sub ∈ subjectsUnder cache ns wide := by
  rw [mem_subjectsUnder] at member ⊢
  rcases member with masters | clusterWide | namespaced
  · exact Or.inl masters
  · obtain ⟨binding, inCache, granted, bound⟩ := clusterWide
    exact Or.inr (Or.inl ⟨binding, inCache, implied _ granted, bound⟩)
  · obtain ⟨binding, inCache, here, granted, bound⟩ := namespaced
    exact Or.inr (Or.inr ⟨binding, inCache, here, implied _ granted, bound⟩)

theorem subjectsUnder_congr (cache : ResourceCache) (ns : Namespace)
    (first second : List PolicyRule → Bool)
    (agree : ∀ roleRef nsName, first (referencedRules cache roleRef nsName) =
      second (referencedRules cache roleRef nsName)) :
    subjectsUnder cache ns first = subjectsUnder cache ns second := by
  unfold subjectsUnder
  simp only [agree]

/-! ### The literal reading -/

/-- Some rule literally lists get on the namespaces of the core group, for every
name or for this one. -/
def literallyAllows (name : GoString) (rules : List PolicyRule) : Bool :=
  rules.any (fun rule => listsNamespaceGet rule && resourceNameMatches rule name)

theorem literallyAllows_iff (name : GoString) (rules : List PolicyRule) :
    literallyAllows name rules = true ↔
      ∃ rule ∈ rules, GoString.ofLiteral "" ∈ rule.apiGroups ∧
        GoString.ofLiteral "namespaces" ∈ rule.resources ∧
        GoString.ofLiteral "get" ∈ rule.verbs ∧
        (rule.resourceNames = [] ∨ name ∈ rule.resourceNames) := by
  simp only [literallyAllows, List.any_eq_true, listsNamespaceGet, resourceNameMatches,
    Bool.and_eq_true, Bool.or_eq_true, List.contains_iff_mem, List.isEmpty_iff, and_assoc]

private theorem ruleAllows_namespaceAttributes (ns : Namespace) (rule : PolicyRule) :
    ruleAllows (namespaceAttributes ns) rule =
      (matchesOrAll rule.verbs (GoString.ofLiteral "get") &&
        matchesOrAll rule.apiGroups (GoString.ofLiteral "") &&
        matchesOrAll rule.resources (GoString.ofLiteral "namespaces") &&
        resourceNameMatches rule ns.name) := rfl

theorem ruleAllows_narrowedRule (ns : Namespace) (rule : PolicyRule) :
    ruleAllows (namespaceAttributes ns) (narrowedRule rule) =
      resourceNameMatches rule ns.name := by
  rw [ruleAllows_namespaceAttributes]
  simp [matchesOrAll, narrowedRule, resourceNameMatches]

theorem rulesAllow_filtered (ns : Namespace) (rules : List PolicyRule) :
    rulesAllow (namespaceAttributes ns) (filterNamespacesRelatedPolicyRules rules) =
      literallyAllows ns.name rules := by
  unfold rulesAllow filterNamespacesRelatedPolicyRules literallyAllows
  rw [List.any_map, List.any_filter]
  simp only [Function.comp_apply, ruleAllows_narrowedRule]

private theorem matchesOrAll_of_mem (listed : List GoString) (wanted : GoString)
    (member : wanted ∈ listed) : matchesOrAll listed wanted = true := by
  unfold matchesOrAll
  rw [List.any_eq_true]
  exact ⟨wanted, member, by simp⟩

private theorem matchesOrAll_eq_contains (listed : List GoString) (wanted : GoString)
    (plain : wildcard ∉ listed) : matchesOrAll listed wanted = listed.contains wanted := by
  rw [Bool.eq_iff_iff, List.contains_iff_mem]
  constructor
  · intro granted
    obtain ⟨entry, member, equal⟩ := List.any_eq_true.mp granted
    rcases Bool.or_eq_true _ _ |>.mp equal with all | same
    · rw [beq_iff_eq] at all
      exact absurd (all ▸ member) plain
    · rw [beq_iff_eq] at same
      exact same ▸ member
  · exact matchesOrAll_of_mem listed wanted

theorem rulesAllow_of_literallyAllows (ns : Namespace) (rules : List PolicyRule)
    (granted : literallyAllows ns.name rules = true) :
    rulesAllow (namespaceAttributes ns) rules = true := by
  obtain ⟨rule, member, lists⟩ := List.any_eq_true.mp granted
  simp only [listsNamespaceGet, Bool.and_eq_true, List.contains_iff_mem] at lists
  obtain ⟨⟨⟨group, resource⟩, verb⟩, named⟩ := lists
  have allows : ruleAllows (namespaceAttributes ns) rule = true := by
    rw [ruleAllows_namespaceAttributes, matchesOrAll_of_mem rule.verbs _ verb,
      matchesOrAll_of_mem rule.apiGroups _ group, matchesOrAll_of_mem rule.resources _ resource]
    exact named
  exact List.any_eq_true.mpr ⟨rule, member, allows⟩

theorem literallyAllows_referencedRules (cache : ResourceCache) (roleRef : RoleRef)
    (nsName name : GoString) :
    literallyAllows name (referencedRules cache roleRef nsName) = true ↔
      ∃ rules, getRoleReferenceRules cache roleRef nsName = .ok rules ∧
        ∃ rule ∈ rules, GoString.ofLiteral "" ∈ rule.apiGroups ∧
          GoString.ofLiteral "namespaces" ∈ rule.resources ∧
          GoString.ofLiteral "get" ∈ rule.verbs ∧
          (rule.resourceNames = [] ∨ name ∈ rule.resourceNames) := by
  rw [literallyAllows_iff]
  unfold referencedRules
  cases getRoleReferenceRules cache roleRef nsName with
  | error failure => simp
  | ok rules => simp

def wildcardFree (rule : PolicyRule) : Prop :=
  wildcard ∉ rule.apiGroups ∧ wildcard ∉ rule.resources ∧ wildcard ∉ rule.verbs

theorem rulesAllow_eq_literallyAllows (ns : Namespace) (rules : List PolicyRule)
    (plain : ∀ rule ∈ rules, wildcardFree rule) :
    rulesAllow (namespaceAttributes ns) rules = literallyAllows ns.name rules := by
  rw [Bool.eq_iff_iff]
  constructor
  · intro granted
    obtain ⟨rule, member, allows⟩ := List.any_eq_true.mp granted
    obtain ⟨plainGroups, plainResources, plainVerbs⟩ := plain rule member
    rw [ruleAllows_namespaceAttributes, matchesOrAll_eq_contains _ _ plainGroups,
      matchesOrAll_eq_contains _ _ plainResources, matchesOrAll_eq_contains _ _ plainVerbs]
      at allows
    simp only [Bool.and_eq_true] at allows
    obtain ⟨⟨⟨verb, group⟩, resource⟩, named⟩ := allows
    apply List.any_eq_true.mpr
    refine ⟨rule, member, ?_⟩
    rw [Bool.and_eq_true]
    refine ⟨?_, named⟩
    unfold listsNamespaceGet
    rw [Bool.and_eq_true, Bool.and_eq_true]
    exact ⟨⟨group, resource⟩, verb⟩
  · exact rulesAllow_of_literallyAllows ns rules

private theorem referencedRules_mem (cache : ResourceCache) (roleRef : RoleRef)
    (nsName : GoString) (rule : PolicyRule)
    (member : rule ∈ referencedRules cache roleRef nsName) :
    (∃ role ∈ cache.roles, rule ∈ role.rules) ∨
      ∃ role ∈ cache.clusterRoles, rule ∈ role.rules := by
  unfold referencedRules getRoleReferenceRules getRole getClusterRole at member
  by_cases asRole : roleRef.kind = GoString.ofLiteral "Role"
  · rw [if_pos asRole] at member
    cases found : cache.roles.find? (fun role => role.key = (nsName, roleRef.name)) with
    | none => simp [found] at member
    | some role =>
        simp only [found] at member
        exact Or.inl ⟨role, List.mem_of_find?_eq_some found, member⟩
  · rw [if_neg asRole] at member
    by_cases asClusterRole : roleRef.kind = GoString.ofLiteral "ClusterRole"
    · rw [if_pos asClusterRole] at member
      cases found : cache.clusterRoles.find? (fun role => role.metadata.name = roleRef.name) with
      | none => simp [found] at member
      | some role =>
          simp only [found] at member
          exact Or.inr ⟨role, List.mem_of_find?_eq_some found, member⟩
    · rw [if_neg asClusterRole] at member
      cases member

theorem allowedSubjects_trimmed_eq (cache : ResourceCache) (ns : Namespace) :
    (allowedSubjects cache.trimmed (namespaceAttributes ns)).1 =
      subjectsUnder cache ns (literallyAllows ns.name) := by
  rw [allowedSubjects_eq_subjectsUnder, subjectsUnder_trimmed]
  exact subjectsUnder_congr cache ns _ _ (fun _ _ => rulesAllow_filtered ns _)

/-- Trimming never widens the access, keeps it exactly when no rule has a
wildcard, and in general leaves the literal reading of the rules. -/
theorem trimming_preserves_access (cache : ResourceCache) (ns : Namespace) :
    (∀ sub ∈ (allowedSubjects cache.trimmed (namespaceAttributes ns)).1,
      sub ∈ (allowedSubjects cache (namespaceAttributes ns)).1) ∧
    ((∀ role ∈ cache.roles, ∀ rule ∈ role.rules, wildcardFree rule) →
      (∀ role ∈ cache.clusterRoles, ∀ rule ∈ role.rules, wildcardFree rule) →
      (allowedSubjects cache.trimmed (namespaceAttributes ns)).1 =
        (allowedSubjects cache (namespaceAttributes ns)).1) ∧
    (∀ sub, sub ∈ (allowedSubjects cache.trimmed (namespaceAttributes ns)).1 ↔
      sub = systemMasters ∨
      (∃ binding ∈ cache.clusterRoleBindings, sub ∈ binding.subjects ∧
        ∃ rules, getRoleReferenceRules cache binding.roleRef [] = .ok rules ∧
          ∃ rule ∈ rules, GoString.ofLiteral "" ∈ rule.apiGroups ∧
            GoString.ofLiteral "namespaces" ∈ rule.resources ∧
            GoString.ofLiteral "get" ∈ rule.verbs ∧
            (rule.resourceNames = [] ∨ ns.name ∈ rule.resourceNames)) ∨
      ∃ binding ∈ cache.roleBindings, binding.metadata.nsName = ns.name ∧
        sub ∈ binding.subjects ∧
        ∃ rules, getRoleReferenceRules cache binding.roleRef ns.name = .ok rules ∧
          ∃ rule ∈ rules, GoString.ofLiteral "" ∈ rule.apiGroups ∧
            GoString.ofLiteral "namespaces" ∈ rule.resources ∧
            GoString.ofLiteral "get" ∈ rule.verbs ∧
            (rule.resourceNames = [] ∨ ns.name ∈ rule.resourceNames)) := by
  refine ⟨?_, ?_, ?_⟩
  · intro sub member
    rw [allowedSubjects_trimmed_eq] at member
    rw [allowedSubjects_eq_subjectsUnder]
    exact subjectsUnder_mono cache ns _ _ (rulesAllow_of_literallyAllows ns) sub member
  · intro plainRoles plainClusterRoles
    rw [allowedSubjects_trimmed_eq, allowedSubjects_eq_subjectsUnder]
    apply subjectsUnder_congr
    intro roleRef nsName
    symm
    apply rulesAllow_eq_literallyAllows
    intro rule member
    rcases referencedRules_mem cache roleRef nsName rule member with inRole | inClusterRole
    · obtain ⟨role, inRoles, inRules⟩ := inRole
      exact plainRoles role inRoles rule inRules
    · obtain ⟨role, inRoles, inRules⟩ := inClusterRole
      exact plainClusterRoles role inRoles rule inRules
  · intro sub
    rw [allowedSubjects_trimmed_eq, mem_subjectsUnder]
    simp only [literallyAllows_referencedRules]
    simp only [and_comm, and_left_comm]

private def viewerRole : Role :=
  { metadata := ObjectMeta.bare "team-a" "viewer"
    rules :=
      [{ verbs := [GoString.ofLiteral "get"]
         apiGroups := [GoString.ofLiteral ""]
         resources := [GoString.ofLiteral "namespaces", GoString.ofLiteral "pods"]
         resourceNames := [GoString.ofLiteral "team-a"] }] }

private def viewerCache : ResourceCache :=
  { namespaces := []
    roles := [viewerRole]
    clusterRoles := []
    roleBindings :=
      [{ metadata := ObjectMeta.bare "team-a" "viewers"
         subjects := [userSubject "alice"]
         roleRef := { apiGroup := rbacGroupName, kind := "Role", name := "viewer" } }]
    clusterRoleBindings := []
    namespacesNodup := by decide
    rolesNodup := by decide
    clusterRolesNodup := by decide
    bindingsNamespaced := by decide }

theorem trimming_preserves_access_viewer :
    (allowedSubjects viewerCache.trimmed (namespaceAttributes (bareNamespace "team-a"))).1 =
      [systemMasters, userSubject "alice"] :=
  ((trimming_preserves_access viewerCache (bareNamespace "team-a")).2.1
    (by unfold wildcardFree; decide) (by unfold wildcardFree; decide)).trans (by decide)

end NamespaceLister
