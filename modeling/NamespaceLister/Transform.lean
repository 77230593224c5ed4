/-
The transforms that the informers apply to every object before it is stored.

A transform takes and returns Go's `any`: nil is `none`, and objects of kinds
the program does not watch are kept by the name of their type, which is all the
error texts show.
-/

import NamespaceLister.Rbac

namespace NamespaceLister

open Library

inductive Object where
  | role (role : Role)
  | clusterRole (role : ClusterRole)
  | roleBinding (binding : RoleBinding)
  | clusterRoleBinding (binding : ClusterRoleBinding)
  | nspace (ns : Namespace)
  | other (typeName : GoString)
deriving DecidableEq

abbrev TransformFunc := Option Object → Except GoString (Option Object)

namespace Object

def kind : Object → Option Kind
  | .nspace _ => some .nspace
  | .role _ => some .role
  | .roleBinding _ => some .roleBinding
  | .clusterRole _ => some .clusterRole
  | .clusterRoleBinding _ => some .clusterRoleBinding
  | .other _ => none

def mapMetadata (change : ObjectMeta → ObjectMeta) : Object → Object
  | .role r => .role { r with metadata := change r.metadata }
  | .clusterRole cr => .clusterRole { cr with metadata := change cr.metadata }
  | .roleBinding rb => .roleBinding { rb with metadata := change rb.metadata }
  | .clusterRoleBinding crb => .clusterRoleBinding { crb with metadata := change crb.metadata }
  | .nspace ns => .nspace { ns with metadata := change ns.metadata }
  | .other name => .other name

def typeName : Option Object → GoString
  | none => "<nil>"
  | some (.role _) => "*v1.Role"
  | some (.clusterRole _) => "*v1.ClusterRole"
  | some (.roleBinding _) => "*v1.RoleBinding"
  | some (.clusterRoleBinding _) => "*v1.ClusterRoleBinding"
  | some (.nspace _) => "*v1.Namespace"
  | some (.other name) => name

def rulesOfRole : Object → Option (List PolicyRule)
  | .role r => some r.rules
  | _ => none

def rulesOfClusterRole : Object → Option (List PolicyRule)
  | .clusterRole cr => some cr.rules
  | _ => none

def withRules (rules : List PolicyRule) : Object → Object
  | .role r => .role { r with rules := rules }
  | .clusterRole cr => .clusterRole { cr with rules := rules }
  | object => object

end Object

/-! ### Transforms -/

def mergeTransformFunc : List TransformFunc → TransformFunc
  | [], i => .ok i
  | f :: rest, i =>
      match f i with
      | .error err => .error err
      | .ok next => mergeTransformFunc rest next

/-- controller-runtime's transform: it clears managedFields and nothing else. -/
def transformStripManagedFields : TransformFunc := fun i =>
  .ok (i.map (Object.mapMetadata (fun metadata => { metadata with managedFields := [] })))

def trimAnnotations : TransformFunc := fun i =>
  .ok (i.map (Object.mapMetadata (fun metadata => { metadata with annotations := none })))

def listsNamespaceGet (rule : PolicyRule) : Bool :=
  rule.apiGroups.contains (GoString.ofLiteral "") &&
    rule.resources.contains (GoString.ofLiteral "namespaces") &&
    rule.verbs.contains (GoString.ofLiteral "get")

def narrowedRule (rule : PolicyRule) : PolicyRule :=
  { rule with
    apiGroups := [GoString.ofLiteral ""]
    resources := [GoString.ofLiteral "namespaces"]
    verbs := [GoString.ofLiteral "get"] }

def filterNamespacesRelatedPolicyRules (pp : List PolicyRule) : List PolicyRule :=
  (pp.filter listsNamespaceGet).map narrowedRule

/-- The last function of `TrimRole` and of `TrimClusterRole`: an object of another
kind is refused, and one that is left without rules becomes nil. -/
def trimPolicyRules (refusal : GoString) (rulesOf : Object → Option (List PolicyRule)) :
    TransformFunc := fun i =>
  match i, i.bind rulesOf with
  | some object, some rules =>
      let kept := filterNamespacesRelatedPolicyRules rules
      if kept = [] then .ok none else .ok (some (object.withRules kept))
  | _, _ => .error (refusal ++ Object.typeName i)

def trimRole : TransformFunc :=
  mergeTransformFunc
    [ transformStripManagedFields,
      trimAnnotations,
      trimPolicyRules "error caching Role: expected Role received " Object.rulesOfRole ]

def trimClusterRole : TransformFunc :=
  mergeTransformFunc
    [ transformStripManagedFields,
      trimAnnotations,
      trimPolicyRules "error caching ClusterRole: expected a ClusterRole received "
        Object.rulesOfClusterRole ]

def trimNamespaceFields : TransformFunc
  | some (.nspace ns) =>
      .ok (some (.nspace { ns with spec := { finalizers := [] }, status := { phase := [] } }))
  | i =>
      .error (GoString.ofLiteral "error caching Namespace: expected a Namespace received " ++
        Object.typeName i)

def trimNamespace : TransformFunc :=
  mergeTransformFunc [transformStripManagedFields, trimNamespaceFields]

def trimBinding : TransformFunc :=
  mergeTransformFunc [transformStripManagedFields, trimAnnotations]

def trimRoleBinding : TransformFunc := trimBinding

def trimClusterRoleBinding : TransformFunc := trimBinding

/-- The `Transform` entries of the configuration by kind. -/
def Kind.transform : Kind → TransformFunc
  | .nspace => trimNamespace
  | .role => trimRole
  | .roleBinding => trimRoleBinding
  | .clusterRole => trimClusterRole
  | .clusterRoleBinding => trimClusterRoleBinding

/-! ### What the transforms return on their own kind -/

def trimmedMeta (metadata : ObjectMeta) : ObjectMeta :=
  { metadata with annotations := none, managedFields := [] }

private theorem mergeTransformFunc_single (f : TransformFunc) (i : Option Object) :
    mergeTransformFunc [f] i = f i := by
  simp only [mergeTransformFunc]
  cases f i with
  | error err => rfl
  | ok next => rfl

private theorem trimPolicyRules_some (refusal : GoString)
    (rulesOf : Object → Option (List PolicyRule)) (object : Object) (rules : List PolicyRule)
    (selected : rulesOf object = some rules) :
    trimPolicyRules refusal rulesOf (some object) =
      if filterNamespacesRelatedPolicyRules rules = [] then .ok none
      else .ok (some (object.withRules (filterNamespacesRelatedPolicyRules rules))) := by
  simp only [trimPolicyRules, Option.bind_some, selected]

theorem trimRole_role (role : Role) :
    trimRole (some (.role role)) =
      if filterNamespacesRelatedPolicyRules role.rules = [] then .ok none
      else .ok (some (.role
        { metadata := trimmedMeta role.metadata
          rules := filterNamespacesRelatedPolicyRules role.rules })) := by
  have reached : trimRole (some (.role role)) =
      trimPolicyRules "error caching Role: expected Role received " Object.rulesOfRole
        (some (.role { role with metadata := trimmedMeta role.metadata })) :=
    mergeTransformFunc_single _ _
  rw [reached, trimPolicyRules_some _ Object.rulesOfRole _ role.rules rfl]
  rfl

theorem trimClusterRole_clusterRole (role : ClusterRole) :
    trimClusterRole (some (.clusterRole role)) =
      if filterNamespacesRelatedPolicyRules role.rules = [] then .ok none
      else .ok (some (.clusterRole
        { metadata := trimmedMeta role.metadata
          rules := filterNamespacesRelatedPolicyRules role.rules })) := by
  have reached : trimClusterRole (some (.clusterRole role)) =
      trimPolicyRules "error caching ClusterRole: expected a ClusterRole received "
        Object.rulesOfClusterRole
        (some (.clusterRole { role with metadata := trimmedMeta role.metadata })) :=
    mergeTransformFunc_single _ _
  rw [reached, trimPolicyRules_some _ Object.rulesOfClusterRole _ role.rules rfl]
  rfl

theorem trimNamespace_nspace (ns : Namespace) :
    trimNamespace (some (.nspace ns)) =
      .ok (some (.nspace
        { metadata := { ns.metadata with managedFields := [] }
          spec := { finalizers := [] }
          status := { phase := [] } })) := rfl

theorem trimRoleBinding_roleBinding (binding : RoleBinding) :
    trimRoleBinding (some (.roleBinding binding)) =
      .ok (some (.roleBinding { binding with metadata := trimmedMeta binding.metadata })) := rfl

theorem trimClusterRoleBinding_clusterRoleBinding (binding : ClusterRoleBinding) :
    trimClusterRoleBinding (some (.clusterRoleBinding binding)) =
      .ok (some (.clusterRoleBinding
        { binding with metadata := trimmedMeta binding.metadata })) := rfl

end NamespaceLister
