/-
The Kubernetes side of the access decision.

`appliesToUser` is the matching of subjects of the RBAC authorizer: a service
account subject without a namespace stands for an account of the namespace the
binding is in.  It is the yardstick for the replies of the cache, which match
subjects by equality of their four fields.

`allowedSubjects` is the subject locator over the objects of the resource cache,
which it reads through the four functions of `CRAuthRetriever`.  A reference to
a role that is not there is recorded as a failure and contributes no rules.
-/

import NamespaceLister.Resources

namespace NamespaceLister

open Library

def makeUsername (nsName name : GoString) : GoString :=
  GoString.ofLiteral "system:serviceaccount:" ++ nsName ++ GoString.ofLiteral ":" ++ name

def appliesToUser (username : GoString) (groups : List GoString) (subject : Subject)
    (nsName : GoString) : Bool :=
  if subject.kind = userKind then username = subject.name
  else if subject.kind = groupKind then subject.name ∈ groups
  else if subject.kind = serviceAccountKind then
    let saNamespace := if subject.nsName ≠ [] then subject.nsName else nsName
    saNamespace ≠ [] ∧ username = makeUsername saNamespace subject.name
  else false

/-! ### Rules -/

/-- `rbacv1.VerbAll`, `rbacv1.APIGroupAll` and `rbacv1.ResourceAll`. -/
def wildcard : GoString := "*"

def matchesOrAll (listed : List GoString) (wanted : GoString) : Bool :=
  listed.any (fun entry => entry == wildcard || entry == wanted)

def resourceNameMatches (rule : PolicyRule) (name : GoString) : Bool :=
  rule.resourceNames.isEmpty || rule.resourceNames.contains name

def ruleAllows (attributes : AttributesRecord) (rule : PolicyRule) : Bool :=
  attributes.resourceRequest && matchesOrAll rule.verbs attributes.verb &&
    matchesOrAll rule.apiGroups attributes.apiGroup &&
    matchesOrAll rule.resources attributes.resource &&
    resourceNameMatches rule attributes.name

def rulesAllow (attributes : AttributesRecord) (rules : List PolicyRule) : Bool :=
  rules.any (ruleAllows attributes)

/-! ### The resource cache and its readers -/

def Role.key (role : Role) : GoString × GoString :=
  (role.metadata.nsName, role.metadata.name)

/-- The objects held by the informers.  Stores are keyed by namespace and name,
and a namespaced object has a namespace. -/
structure ResourceCache where
  namespaces : List Namespace
  roles : List Role
  clusterRoles : List ClusterRole
  roleBindings : List RoleBinding
  clusterRoleBindings : List ClusterRoleBinding
  namespacesNodup : (namespaces.map Namespace.name).Nodup
  rolesNodup : (roles.map Role.key).Nodup
  clusterRolesNodup : (clusterRoles.map (fun role => role.metadata.name)).Nodup
  bindingsNamespaced : ∀ binding ∈ roleBindings, binding.metadata.nsName ≠ []

def ResourceCache.empty : ResourceCache :=
  { namespaces := []
    roles := []
    clusterRoles := []
    roleBindings := []
    clusterRoleBindings := []
    namespacesNodup := List.nodup_nil
    rolesNodup := List.nodup_nil
    clusterRolesNodup := List.nodup_nil
    bindingsNamespaced := List.forall_mem_nil _ }

inductive LookupFailure where
  | roleNotFound (nsName name : GoString)
  | clusterRoleNotFound (name : GoString)
  | unsupportedKind (kind : GoString)
deriving DecidableEq

def getRole (cache : ResourceCache) (nsName name : GoString) : Except LookupFailure Role :=
  match cache.roles.find? (fun role => role.key = (nsName, name)) with
  | none => .error (.roleNotFound nsName name)
  | some role => .ok role

def getClusterRole (cache : ResourceCache) (name : GoString) :
    Except LookupFailure ClusterRole :=
  match cache.clusterRoles.find? (fun role => role.metadata.name = name) with
  | none => .error (.clusterRoleNotFound name)
  | some role => .ok role

def ResourceCache.bindingsIn (cache : ResourceCache) (nsName : GoString) : List RoleBinding :=
  cache.roleBindings.filter (fun binding => binding.metadata.nsName = nsName)

/-- `client.InNamespace` with the empty name selects all namespaces. -/
def listRoleBindings (cache : ResourceCache) (nsName : GoString) : List RoleBinding :=
  if nsName = [] then cache.roleBindings else cache.bindingsIn nsName

def listClusterRoleBindings (cache : ResourceCache) : List ClusterRoleBinding :=
  cache.clusterRoleBindings

/-! ### The subject locator -/

def getRoleReferenceRules (cache : ResourceCache) (roleRef : RoleRef) (nsName : GoString) :
    Except LookupFailure (List PolicyRule) :=
  if roleRef.kind = GoString.ofLiteral "Role" then
    match getRole cache nsName roleRef.name with
    | .error failure => .error failure
    | .ok role => .ok role.rules
  else if roleRef.kind = GoString.ofLiteral "ClusterRole" then
    match getClusterRole cache roleRef.name with
    | .error failure => .error failure
    | .ok role => .ok role.rules
  else .error (.unsupportedKind roleRef.kind)

/-- What one binding contributes: its subjects when the referenced rules allow
the request, and a failure when the reference does not resolve. -/
def bindingSubjects (cache : ResourceCache) (attributes : AttributesRecord)
    (roleRef : RoleRef) (nsName : GoString) (bound : List Subject) :
    List Subject × List LookupFailure :=
  match getRoleReferenceRules cache roleRef nsName with
  | .error failure => ([], [failure])
  | .ok rules => (if rulesAllow attributes rules then bound else [], [])

def systemMasters : Subject :=
  { kind := groupKind
    apiGroup := rbacGroupName
    name := "system:masters"
    nsName := [] }

/-- The subjects come with the failures met on the way; a super user is not
configured. -/
def allowedSubjects (cache : ResourceCache) (attributes : AttributesRecord) :
    List Subject × List LookupFailure :=
  let clusterWide := (listClusterRoleBindings cache).map (fun binding =>
    bindingSubjects cache attributes binding.roleRef [] binding.subjects)
  let namespaced :=
    if attributes.nsName ≠ [] then
      (listRoleBindings cache attributes.nsName).map (fun binding =>
        bindingSubjects cache attributes binding.roleRef attributes.nsName binding.subjects)
    else []
  (systemMasters :: (clusterWide ++ namespaced).flatMap Prod.fst,
    (clusterWide ++ namespaced).flatMap Prod.snd)

end NamespaceLister
