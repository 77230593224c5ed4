/-
The access cache against the RBAC authorizer of `NewAuthorizer`.

The authorizer is a component of Kubernetes and a parameter here; `Lawful` says what
its two questions mean: which subjects may make a request, and whether a user may.
The access cache asks the first one once for every namespace and answers a user from
the subjects it wrote down.  Over the same resource cache the two agree for every
ordinary username, but for the group that the subject locator always lists; for a
service account the cache shows nothing that the authorizer would refuse.
-/

import NamespaceLister.RbacAgreement
import NamespaceLister.TrimmedAccess
import NamespaceLister.SynchSteps

namespace NamespaceLister

open Library

inductive Decision where
  | allow
  | noOpinion
deriving DecidableEq

def appliesTo (username : GoString) (groups : List GoString) (bindingSubjects : List Subject)
    (nsName : GoString) : Bool :=
  bindingSubjects.any (fun subject => appliesToUser username groups subject nsName)

/-- The two questions of the RBAC authorizer over the objects of the resource cache:
`AllowedSubjects` and `Authorize`. -/
structure RbacAuthorizer where
  allowedSubjects : ResourceCache → AttributesRecord → List Subject × Option GoString
  authorize : ResourceCache → GoString → List GoString → AttributesRecord → Decision

/-- Some binding whose rules allow the get of the namespace has subjects that are
reached: a ClusterRoleBinding, or a RoleBinding of the namespace. -/
def ResourceCache.grants (cache : ResourceCache) (ns : Namespace)
    (reached : List Subject → GoString → Prop) : Prop :=
  (∃ binding ∈ cache.clusterRoleBindings, reached binding.subjects [] ∧
    rulesAllow (namespaceAttributes ns) (referencedRules cache binding.roleRef []) = true) ∨
  ∃ binding ∈ cache.roleBindings, binding.metadata.nsName = ns.name ∧
    reached binding.subjects ns.name ∧
    rulesAllow (namespaceAttributes ns) (referencedRules cache binding.roleRef ns.name) = true

/-- The locator lists the bound subjects and `system:masters`; a user is allowed what
a binding that applies to the user allows.  References that do not resolve take
nothing away from the others. -/
structure RbacAuthorizer.Lawful (rbac : RbacAuthorizer) : Prop where
  locates : ∀ cache ns sub, sub ∈ (rbac.allowedSubjects cache (namespaceAttributes ns)).1 ↔
    sub = systemMasters ∨ cache.grants ns (fun bound _ => sub ∈ bound)
  decides : ∀ cache ns username groups,
    rbac.authorize cache username groups (namespaceAttributes ns) = .allow ↔
      cache.grants ns (fun bound nsName => appliesTo username groups bound nsName = true)

def cacheReader (rbac : RbacAuthorizer) : ResourceReader ResourceCache :=
  { listNamespaces := ResourceCache.namespaces
    allowedSubjects := rbac.allowedSubjects }

def ResourceCache.allSubjects (cache : ResourceCache) (property : Subject → Prop) : Prop :=
  (∀ binding ∈ cache.clusterRoleBindings, ∀ sub ∈ binding.subjects, property sub) ∧
    ∀ binding ∈ cache.roleBindings, ∀ sub ∈ binding.subjects, property sub

theorem ResourceCache.grants_mono {cache : ResourceCache} {ns : Namespace}
    {narrow wide : List Subject → GoString → Prop}
    (clusterWide : ∀ binding ∈ cache.clusterRoleBindings,
      narrow binding.subjects [] → wide binding.subjects [])
    (namespaced : ∀ binding ∈ cache.roleBindings,
      narrow binding.subjects ns.name → wide binding.subjects ns.name)
    (granted : cache.grants ns narrow) : cache.grants ns wide := by
  rcases granted with
    ⟨binding, inCache, reached, allows⟩ | ⟨binding, inCache, here, reached, allows⟩
  · exact Or.inl ⟨binding, inCache, clusterWide binding inCache reached, allows⟩
  · exact Or.inr ⟨binding, inCache, here, namespaced binding inCache reached, allows⟩

/-! ### Keys and decisions -/

section Agreement

variable {rbac : RbacAuthorizer} (lawful : rbac.Lawful) (cache : ResourceCache)
variable (username : GoString) (groups : List GoString) (keys : List Subject) (ns : Namespace)

include lawful

theorem mem_allowedFor_iff (sub : Subject) :
    sub ∈ allowedFor ((cacheReader rbac).allowedSubjects cache) ns ↔
      sub ∈ subjectsUnder cache ns (rulesAllow (namespaceAttributes ns)) := by
  rw [mem_subjectsUnder]
  refine (lawful.locates cache ns sub).trans ?_
  simp only [ResourceCache.grants, and_comm]

/-- Keys that match the user wherever they are bound are allowed only where the
authorizer allows. -/
theorem authorize_of_key
    (sound : ∀ key ∈ keys, ∀ nsName, appliesToUser username groups key nsName = true)
    (key : Subject) (inKeys : key ∈ keys)
    (granted : key ∈ allowedFor ((cacheReader rbac).allowedSubjects cache) ns) :
    rbac.authorize cache username groups (namespaceAttributes ns) = .allow ∨
      systemMasters ∈ keys := by
  have applies : ∀ bound : List Subject, key ∈ bound → ∀ nsName,
      appliesTo username groups bound nsName = true := by
    intro bound member nsName
    exact List.any_eq_true.mpr ⟨key, member, sound key inKeys nsName⟩
  rcases (lawful.locates cache ns key).mp granted with masters | bound
  · rw [← masters]
    exact Or.inr inKeys
  · refine Or.inl ((lawful.decides cache ns username groups).mpr ?_)
    exact ResourceCache.grants_mono (fun _ _ reached => applies _ reached _)
      (fun _ _ reached => applies _ reached _) bound

/-- Keys that catch every bound subject that matches the user are allowed wherever
the authorizer allows. -/
theorem key_of_authorize
    (complete : cache.allSubjects (fun sub =>
      ∀ nsName, appliesToUser username groups sub nsName = true → sub ∈ keys))
    (allowed : rbac.authorize cache username groups (namespaceAttributes ns) = .allow) :
    ∃ key ∈ keys, key ∈ allowedFor ((cacheReader rbac).allowedSubjects cache) ns := by
  rcases (lawful.decides cache ns username groups).mp allowed with
    ⟨binding, inCache, applies, allows⟩ | ⟨binding, inCache, here, applies, allows⟩
  · obtain ⟨sub, bound, matched⟩ := List.any_eq_true.mp applies
    exact ⟨sub, complete.1 binding inCache sub bound [] matched,
      (lawful.locates cache ns sub).mpr (Or.inr (Or.inl ⟨binding, inCache, bound, allows⟩))⟩
  · obtain ⟨sub, bound, matched⟩ := List.any_eq_true.mp applies
    exact ⟨sub, complete.2 binding inCache sub bound _ matched,
      (lawful.locates cache ns sub).mpr
        (Or.inr (Or.inr ⟨binding, inCache, here, bound, allows⟩))⟩

end Agreement

theorem systemMasters_mem_keys (sub : Subject) (notGroup : sub.kind ≠ groupKind)
    (groups : List GoString) :
    systemMasters ∈ sub :: groups.map groupSubject ↔
      GoString.ofLiteral "system:masters" ∈ groups := by
  constructor
  · intro member
    rcases List.mem_cons.mp member with isSub | isGroup
    · rw [← isSub] at notGroup
      exact absurd rfl notGroup
    · obtain ⟨group, inGroups, same⟩ := List.mem_map.mp isGroup
      have named : group = GoString.ofLiteral "system:masters" := congrArg Subject.name same
      rw [← named]
      exact inGroups
  · intro member
    exact List.mem_cons_of_mem _ (List.mem_map.mpr ⟨_, member, rfl⟩)

/-! ### Replies and decisions -/

/-- For an ordinary username the reply of a cache synchronized with the resources
holds exactly the namespaces the authorizer would let the user get, and all of
them for a member of `system:masters`. -/
theorem reply_iff_authorize (rbac : RbacAuthorizer) (lawful : rbac.Lawful) (rt : Runtime)
    (order : RangeOrder Namespace) (s : SynchronizedAccessCache) (cache : ResourceCache)
    (ctxErr : Nat → Option ContextError) (plain : cache.allSubjects plainSubject)
    (succeeded : (s.Synch rt (steady ((cacheReader rbac).listNamespaces cache) ctxErr
      ((cacheReader rbac).allowedSubjects cache))).2 = none)
    (username : GoString) (groups : List GoString)
    (ordinary : GoString.hasPrefix username "system:serviceaccount:" = false) :
    ∃ reply,
      listNamespaces order (s.Synch rt (steady ((cacheReader rbac).listNamespaces cache) ctxErr
        ((cacheReader rbac).allowedSubjects cache))).1.accessCache username groups = .ok reply ∧
      ∀ name, name ∈ reply.names ↔
        ∃ ns ∈ cache.namespaces, ns.name = name ∧
          (rbac.authorize cache username groups (namespaceAttributes ns) = .allow ∨
            GoString.ofLiteral "system:masters" ∈ groups) := by
  obtain ⟨reply, listed, names⟩ := listNamespaces_names rt order s _ ctxErr _ succeeded
    username groups _ (parseUsername_ordinary username ordinary)
  refine ⟨reply, listed, ?_⟩
  intro name
  rw [names]
  have notGroup : userKind ≠ groupKind := by decide
  have sound : ∀ key ∈ userSubject username :: groups.map groupSubject, ∀ nsName,
      appliesToUser username groups key nsName = true := by
    intro key inKeys nsName
    rcases List.mem_cons.mp inKeys with isUser | isGroup
    · subst key
      exact (appliesToUser_user username groups _ nsName rfl).mpr rfl
    · exact groupSubject_applies username groups nsName key isGroup
  have complete : cache.allSubjects (fun sub => ∀ nsName,
      appliesToUser username groups sub nsName = true →
        sub ∈ userSubject username :: groups.map groupSubject) :=
    ⟨fun binding inCache sub bound nsName =>
        (mem_keys_iff_applies username groups ordinary sub
          (plain.1 binding inCache sub bound) nsName).mpr,
      fun binding inCache sub bound nsName =>
        (mem_keys_iff_applies username groups ordinary sub
          (plain.2 binding inCache sub bound) nsName).mpr⟩
  constructor
  · intro present
    obtain ⟨ns, inList, named, key, inKeys, granted⟩ := present
    refine ⟨ns, inList, named, ?_⟩
    rcases authorize_of_key lawful cache username groups _ ns sound key inKeys granted with
      allows | masters
    · exact Or.inl allows
    · exact Or.inr ((systemMasters_mem_keys _ notGroup groups).mp masters)
  · intro present
    obtain ⟨ns, inList, named, decided⟩ := present
    refine ⟨ns, inList, named, ?_⟩
    rcases decided with allows | masters
    · exact key_of_authorize lawful cache username groups _ ns complete allows
    · exact ⟨systemMasters, (systemMasters_mem_keys _ notGroup groups).mpr masters,
        (lawful.locates cache ns systemMasters).mpr (Or.inl rfl)⟩

/-- A service account is shown nothing that the authorizer would refuse it, but for
a member of `system:masters`, whatever shapes the subjects of the bindings have. -/
theorem serviceAccount_reply_within_authorize (rbac : RbacAuthorizer) (lawful : rbac.Lawful)
    (rt : Runtime) (order : RangeOrder Namespace) (s : SynchronizedAccessCache)
    (cache : ResourceCache) (ctxErr : Nat → Option ContextError)
    (succeeded : (s.Synch rt (steady ((cacheReader rbac).listNamespaces cache) ctxErr
      ((cacheReader rbac).allowedSubjects cache))).2 = none)
    (nsName account : GoString) (nonempty : nsName ≠ []) (absentNs : colon ∉ nsName)
    (absentName : colon ∉ account) (groups : List GoString) :
    ∃ reply,
      listNamespaces order (s.Synch rt (steady ((cacheReader rbac).listNamespaces cache) ctxErr
        ((cacheReader rbac).allowedSubjects cache))).1.accessCache
        (makeUsername nsName account) groups = .ok reply ∧
      ∀ name ∈ reply.names, ∃ ns ∈ cache.namespaces, ns.name = name ∧
        (rbac.authorize cache (makeUsername nsName account) groups (namespaceAttributes ns) =
            .allow ∨
          GoString.ofLiteral "system:masters" ∈ groups) := by
  obtain ⟨reply, listed, names⟩ := listNamespaces_names rt order s _ ctxErr _ succeeded
    (makeUsername nsName account) groups _
    (parseUsername_makeUsername nsName account absentNs absentName)
  refine ⟨reply, listed, ?_⟩
  intro name member
  obtain ⟨ns, inList, named, key, inKeys, granted⟩ := (names name).mp member
  refine ⟨ns, inList, named, ?_⟩
  have sound : ∀ key ∈ serviceAccountSubject nsName account :: groups.map groupSubject,
      ∀ boundIn, appliesToUser (makeUsername nsName account) groups key boundIn = true := by
    intro key inKeys boundIn
    rcases List.mem_cons.mp inKeys with isAccount | isGroup
    · subst key
      exact (appliesToUser_makeUsername nsName account groups nonempty absentNs absentName _
        boundIn).mpr (Or.inl ⟨rfl, rfl, Or.inl rfl⟩)
    · exact groupSubject_applies _ groups boundIn key isGroup
  rcases authorize_of_key lawful cache _ groups _ ns sound key inKeys granted with
    allows | masters
  · exact Or.inl allows
  · have notGroup : serviceAccountKind ≠ groupKind := by decide
    exact Or.inr ((systemMasters_mem_keys _ notGroup groups).mp masters)

/-! ### An authorizer that walks the bindings -/

structure AuthorizingVisitor where
  allowed : Bool
  errors : List LookupFailure

/-- A visit returns whether the walk goes on. -/
def AuthorizingVisitor.visit (attributes : AttributesRecord) (v : AuthorizingVisitor)
    (rule : Option PolicyRule) (err : Option LookupFailure) : AuthorizingVisitor × Bool :=
  if rule.any (ruleAllows attributes) then ({ v with allowed := true }, false)
  else ({ v with errors := v.errors ++ err.toList }, true)

section Walk

variable (cache : ResourceCache) (username : GoString) (groups : List GoString)
variable (attributes : AttributesRecord)

def visitBinding (nsName : GoString) (v : AuthorizingVisitor) (binding : List Subject × RoleRef) :
    AuthorizingVisitor × Bool :=
  if appliesTo username groups binding.1 nsName then
    match getRoleReferenceRules cache binding.2 nsName with
    | .error failure => v.visit attributes none (some failure)
    | .ok rules => visitEach (fun visitor rule => visitor.visit attributes (some rule) none) v rules
  else (v, true)

def visitRulesFor (v : AuthorizingVisitor) : AuthorizingVisitor :=
  let clusterWide := visitEach (visitBinding cache username groups attributes []) v
    ((listClusterRoleBindings cache).map (fun binding => (binding.subjects, binding.roleRef)))
  if clusterWide.2 = true ∧ attributes.nsName ≠ [] then
    (visitEach (visitBinding cache username groups attributes attributes.nsName) clusterWide.1
      ((listRoleBindings cache attributes.nsName).map
        (fun binding => (binding.subjects, binding.roleRef)))).1
  else clusterWide.1

/-- `RBACAuthorizer.Authorize`; the reason it gives is left out. -/
def authorize : Decision :=
  let ruleCheckingVisitor := visitRulesFor cache username groups attributes
    { allowed := false, errors := [] }
  if ruleCheckingVisitor.allowed then .allow else .noOpinion

/-! ### What the walk decides -/

private theorem visit_stopsAtHit :
    StopsAtHit AuthorizingVisitor.allowed (ruleAllows attributes)
      (fun visitor rule => visitor.visit attributes (some rule) none) := by
  constructor
  · intro visitor rule
    unfold AuthorizingVisitor.visit
    cases allows : ruleAllows attributes rule <;> simp [allows]
  · intro visitor rule
    unfold AuthorizingVisitor.visit
    cases allows : ruleAllows attributes rule <;> simp [allows]

def bindingGrants (nsName : GoString) (binding : List Subject × RoleRef) : Bool :=
  appliesTo username groups binding.1 nsName &&
    rulesAllow attributes (referencedRules cache binding.2 nsName)

private theorem visitBinding_stopsAtHit (nsName : GoString) :
    StopsAtHit AuthorizingVisitor.allowed (bindingGrants cache username groups attributes nsName)
      (visitBinding cache username groups attributes nsName) := by
  have walk := (visit_stopsAtHit attributes).each
  have both : ∀ visitor binding,
      (visitBinding cache username groups attributes nsName visitor binding).1.allowed =
          (visitor.allowed || bindingGrants cache username groups attributes nsName binding) ∧
        (visitBinding cache username groups attributes nsName visitor binding).2 =
          !bindingGrants cache username groups attributes nsName binding := by
    intro visitor binding
    unfold visitBinding bindingGrants referencedRules
    cases applies : appliesTo username groups binding.1 nsName with
    | false => exact ⟨(Bool.or_false _).symm, rfl⟩
    | true =>
        cases getRoleReferenceRules cache binding.2 nsName with
        | error failure => exact ⟨(Bool.or_false _).symm, rfl⟩
        | ok rules => exact ⟨walk.raises visitor rules, walk.stops visitor rules⟩
  exact ⟨fun visitor binding => (both visitor binding).1,
    fun visitor binding => (both visitor binding).2⟩

private theorem any_grants_iff {B : Type} (nsName : GoString) (bindings : List B)
    (subjectsOf : B → List Subject) (roleRefOf : B → RoleRef) :
    (bindings.map (fun binding => (subjectsOf binding, roleRefOf binding))).any
        (bindingGrants cache username groups attributes nsName) = true ↔
      ∃ binding ∈ bindings, appliesTo username groups (subjectsOf binding) nsName = true ∧
        rulesAllow attributes (referencedRules cache (roleRefOf binding) nsName) = true := by
  rw [List.any_map, List.any_eq_true]
  simp only [bindingGrants, Function.comp_apply, Bool.and_eq_true]

theorem authorize_iff :
    authorize cache username groups attributes = .allow ↔
      (∃ binding ∈ cache.clusterRoleBindings,
        appliesTo username groups binding.subjects [] = true ∧
        rulesAllow attributes (referencedRules cache binding.roleRef []) = true) ∨
      ∃ binding ∈ cache.roleBindings, binding.metadata.nsName = attributes.nsName ∧
        appliesTo username groups binding.subjects attributes.nsName = true ∧
        rulesAllow attributes (referencedRules cache binding.roleRef attributes.nsName) = true := by
  have clusterWide := any_grants_iff cache username groups attributes []
    (listClusterRoleBindings cache) ClusterRoleBinding.subjects ClusterRoleBinding.roleRef
  have namespaced := any_grants_iff cache username groups attributes attributes.nsName
    (cache.bindingsIn attributes.nsName) RoleBinding.subjects RoleBinding.roleRef
  have here : (∃ binding ∈ cache.bindingsIn attributes.nsName,
      appliesTo username groups binding.subjects attributes.nsName = true ∧
        rulesAllow attributes (referencedRules cache binding.roleRef attributes.nsName) = true) ↔
      ∃ binding ∈ cache.roleBindings, binding.metadata.nsName = attributes.nsName ∧
        appliesTo username groups binding.subjects attributes.nsName = true ∧
        rulesAllow attributes (referencedRules cache binding.roleRef attributes.nsName) = true := by
    simp only [ResourceCache.bindingsIn, List.mem_filter, decide_eq_true_eq, and_assoc]
  rw [← here, ← namespaced]
  change _ ↔ (∃ binding ∈ listClusterRoleBindings cache, _) ∨ _
  rw [← clusterWide]
  have firstWalk := (visitBinding_stopsAtHit cache username groups attributes []).each
  have secondWalk :=
    (visitBinding_stopsAtHit cache username groups attributes attributes.nsName).each
  have firstRaises := firstWalk.raises { allowed := false, errors := [] }
    ((listClusterRoleBindings cache).map (fun binding => (binding.subjects, binding.roleRef)))
  have firstStops := firstWalk.stops { allowed := false, errors := [] }
    ((listClusterRoleBindings cache).map (fun binding => (binding.subjects, binding.roleRef)))
  unfold authorize visitRulesFor
  generalize visitEach (visitBinding cache username groups attributes [])
    { allowed := false, errors := [] }
    ((listClusterRoleBindings cache).map (fun binding => (binding.subjects, binding.roleRef))) =
    walked at firstRaises firstStops
  generalize ((listClusterRoleBindings cache).map
    (fun binding => (binding.subjects, binding.roleRef))).any _ = first at firstRaises firstStops ⊢
  cases first with
  | true =>
      -- stopped at a cluster-wide grant
      simp [firstRaises, firstStops]
  | false =>
      by_cases unnamed : attributes.nsName = []
      · simp [firstRaises, unnamed, cache.bindingsIn_empty]
      · have secondRaises := secondWalk.raises walked.1
          ((cache.bindingsIn attributes.nsName).map
            (fun binding => (binding.subjects, binding.roleRef)))
        rw [firstRaises, Bool.or_false, Bool.false_or] at secondRaises
        simp [firstStops, unnamed, listRoleBindings, secondRaises]

end Walk

/-- The authorizer of Kubernetes; the text of the failures is a parameter. -/
def walkingAuthorizer (describe : List LookupFailure → GoString) : RbacAuthorizer :=
  { allowedSubjects := fun cache attributes =>
      let found := allowedSubjects cache attributes
      (found.1, if found.2 = [] then none else some (describe found.2))
    authorize := authorize }

theorem walkingAuthorizer_lawful (describe : List LookupFailure → GoString) :
    (walkingAuthorizer describe).Lawful := by
  constructor
  · intro cache ns sub
    change sub ∈ (allowedSubjects cache (namespaceAttributes ns)).1 ↔ _
    rw [allowedSubjects_eq_subjectsUnder, mem_subjectsUnder]
    simp only [ResourceCache.grants, and_comm]
  · intro cache ns username groups
    exact authorize_iff cache username groups (namespaceAttributes ns)

private def readersCache : ResourceCache :=
  { namespaces := [bareNamespace "team-a", bareNamespace "team-b"]
    roles :=
      [{ metadata := ObjectMeta.bare "team-a" "reader"
         rules :=
          [{ verbs := [GoString.ofLiteral "get"]
             apiGroups := [GoString.ofLiteral ""]
             resources := [GoString.ofLiteral "namespaces"]
             resourceNames := [] }] }]
    clusterRoles := []
    roleBindings :=
      [{ metadata := ObjectMeta.bare "team-a" "dangling"
         subjects := [userSubject "alice"]
         roleRef := { apiGroup := rbacGroupName, kind := "Role", name := "missing" } },
       { metadata := ObjectMeta.bare "team-a" "readers"
         subjects := [userSubject "alice", serviceAccountSubject "team-a" "builder"]
         roleRef := { apiGroup := rbacGroupName, kind := "Role", name := "reader" } }]
    clusterRoleBindings := []
    namespacesNodup := by decide
    rolesNodup := by decide
    clusterRolesNodup := List.nodup_nil
    bindingsNamespaced := by decide }

private def readersRbac : RbacAuthorizer := walkingAuthorizer (fun _ => [])

private def readersSynch : SynchronizedAccessCache × Option SynchError :=
  SynchronizedAccessCache.new.Synch Runtime.reference
    (steady ((cacheReader readersRbac).listNamespaces readersCache) (fun _ => none)
      ((cacheReader readersRbac).allowedSubjects readersCache))

theorem reply_iff_authorize_alice :
    ∃ reply,
      listNamespaces (RangeOrder.asKept Namespace) readersSynch.1.accessCache "alice" [] =
        .ok reply ∧
      GoString.ofLiteral "team-a" ∈ reply.names ∧ GoString.ofLiteral "team-b" ∉ reply.names := by
  obtain ⟨reply, listed, names⟩ := reply_iff_authorize readersRbac (walkingAuthorizer_lawful _)
    Runtime.reference (RangeOrder.asKept Namespace) SynchronizedAccessCache.new readersCache
    (fun _ => none) (by unfold ResourceCache.allSubjects; decide)
    (Synch_steady_succeeds Runtime.reference SynchronizedAccessCache.new rfl _ _)
    "alice" [] (by decide)
  refine ⟨reply, listed, ?_, ?_⟩
  · rw [names]
    decide
  · rw [names]
    decide

theorem serviceAccount_reply_within_authorize_builder :
    ∃ reply,
      listNamespaces (RangeOrder.asKept Namespace) readersSynch.1.accessCache
        (makeUsername "team-a" "builder") [] = .ok reply ∧
      ∀ name ∈ reply.names, ∃ ns ∈ readersCache.namespaces, ns.name = name ∧
        (readersRbac.authorize readersCache (makeUsername "team-a" "builder") []
            (namespaceAttributes ns) = .allow ∨
          GoString.ofLiteral "system:masters" ∈ ([] : List GoString)) :=
  serviceAccount_reply_within_authorize readersRbac (walkingAuthorizer_lawful _)
    Runtime.reference (RangeOrder.asKept Namespace) SynchronizedAccessCache.new readersCache
    (fun _ => none) (Synch_steady_succeeds Runtime.reference SynchronizedAccessCache.new rfl _ _)
    "team-a" "builder" (by decide) (by decide) (by decide) []

end NamespaceLister
