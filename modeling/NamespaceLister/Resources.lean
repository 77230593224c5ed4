/-
The Kubernetes objects the program reads, with the fields its functions use.
Names that Kubernetes fixes stand under the words of its `rbacv1` package.
-/

import NamespaceLister.Library.GoString
import NamespaceLister.Library.GoSlices
import NamespaceLister.Library.GoMaps

namespace NamespaceLister

open Library

/-! ### Objects -/

/-- A label or annotation map may be nil. -/
structure ObjectMeta where
  name : GoString
  nsName : GoString
  labels : Option (GoMap GoString GoString)
  annotations : Option (GoMap GoString GoString)
  managedFields : List GoString
deriving DecidableEq

def ObjectMeta.bare (nsName name : GoString) : ObjectMeta :=
  { name := name
    nsName := nsName
    labels := none
    annotations := none
    managedFields := [] }

structure NamespaceSpec where
  finalizers : List GoString
deriving DecidableEq

structure NamespaceStatus where
  phase : GoString
deriving DecidableEq

structure Namespace where
  metadata : ObjectMeta
  spec : NamespaceSpec
  status : NamespaceStatus
deriving DecidableEq

def Namespace.name (ns : Namespace) : GoString := ns.metadata.name

def bareNamespace (name : GoString) : Namespace :=
  { metadata := ObjectMeta.bare [] name
    spec := { finalizers := [] }
    status := { phase := [] } }

/-- A comparable struct of four strings, used as a map key as it is. -/
structure Subject where
  kind : GoString
  apiGroup : GoString
  name : GoString
  nsName : GoString
deriving DecidableEq

structure PolicyRule where
  verbs : List GoString
  apiGroups : List GoString
  resources : List GoString
  resourceNames : List GoString
deriving DecidableEq

structure RoleRef where
  apiGroup : GoString
  kind : GoString
  name : GoString
deriving DecidableEq

structure Role where
  metadata : ObjectMeta
  rules : List PolicyRule
deriving DecidableEq

structure ClusterRole where
  metadata : ObjectMeta
  rules : List PolicyRule
deriving DecidableEq

structure RoleBinding where
  metadata : ObjectMeta
  subjects : List Subject
  roleRef : RoleRef
deriving DecidableEq

structure ClusterRoleBinding where
  metadata : ObjectMeta
  subjects : List Subject
  roleRef : RoleRef
deriving DecidableEq

inductive Kind where
  | nspace
  | clusterRoleBinding
  | roleBinding
  | clusterRole
  | role
deriving DecidableEq

/-! ### Names fixed by Kubernetes -/

def rbacGroupName : GoString := "rbac.authorization.k8s.io"

def userKind : GoString := "User"

def groupKind : GoString := "Group"

def serviceAccountKind : GoString := "ServiceAccount"

def userSubject (username : GoString) : Subject :=
  { kind := userKind
    apiGroup := rbacGroupName
    name := username
    nsName := [] }

def groupSubject (group : GoString) : Subject :=
  { kind := groupKind
    apiGroup := rbacGroupName
    name := group
    nsName := [] }

def serviceAccountSubject (nsName name : GoString) : Subject :=
  { kind := serviceAccountKind
    apiGroup := []
    name := name
    nsName := nsName }

structure AttributesRecord where
  verb : GoString
  resource : GoString
  apiGroup : GoString
  apiVersion : GoString
  name : GoString
  nsName : GoString
  resourceRequest : Bool
deriving DecidableEq

/-! ### The Go standard library -/

/-- The parts of the standard library that stay parameters: the sorting
algorithm of `slices` and the Unicode tables of `strings.ToLower`. -/
structure Runtime where
  sortFunc : SortFunc Subject
  unicodeToLower : GoString → GoString

/-- One choice of these parts, exact on texts of ASCII bytes. -/
def Runtime.reference : Runtime :=
  { sortFunc := SortFunc.byInsertion Subject
    unicodeToLower := id }

inductive Panic where
  | nilDereference
  | indexOutOfRange (index length : Nat)
deriving DecidableEq

end NamespaceLister
