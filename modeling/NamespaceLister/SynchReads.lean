/-
Calls of `Synch` one read of the resources at a time.

`AllowedSubjects` reads the stores through the four methods of `CRAuthRetriever`, and
no lock is held between two reads.  The locator is any program of such reads; the
steps of a call are those of `synchStep`, except that computing a namespace is spread
over the reads, with changes of the stores and the steps of other calls in between.
-/

import NamespaceLister.Authorizer
import NamespaceLister.Library.Reading

namespace NamespaceLister

open Library

universe v

/-! ### What the locator reads -/

/-- The methods of `CRAuthRetriever`. -/
inductive AuthQuery where
  | getRole (nsName name : GoString)
  | listRoleBindings (nsName : GoString)
  | getClusterRole (name : GoString)
  | listClusterRoleBindings

abbrev AuthQuery.Answer : AuthQuery → Type
  | .getRole _ _ => Except LookupFailure Role
  | .listRoleBindings _ => List RoleBinding
  | .getClusterRole _ => Except LookupFailure ClusterRole
  | .listClusterRoleBindings => List ClusterRoleBinding

def crAuthRetriever (cache : ResourceCache) : (query : AuthQuery) → query.Answer
  | .getRole nsName name => getRole cache nsName name
  | .listRoleBindings nsName => listRoleBindings cache nsName
  | .getClusterRole name => getClusterRole cache name
  | .listClusterRoleBindings => listClusterRoleBindings cache

abbrev AuthReading := Reading AuthQuery AuthQuery.Answer

/-- `AllowedSubjects` may be any program that reads through `CRAuthRetriever`. -/
abbrev SubjectLocator := AttributesRecord → AuthReading (List Subject × Option GoString)

/-- All reads of one namespace at one moment. -/
def SubjectLocator.atOnce (locator : SubjectLocator) : ResourceReader ResourceCache :=
  { listNamespaces := ResourceCache.namespaces
    allowedSubjects := fun cache attributes =>
      (locator attributes).answer (crAuthRetriever cache) }

/-! ### The locator of Kubernetes, read by read -/

def locateRules (roleRef : RoleRef) (nsName : GoString) :
    AuthReading (Except LookupFailure (List PolicyRule)) :=
  if roleRef.kind = GoString.ofLiteral "Role" then do
    let found : Except LookupFailure Role ← Reading.read (AuthQuery.getRole nsName roleRef.name)
    return found.map Role.rules
  else if roleRef.kind = GoString.ofLiteral "ClusterRole" then do
    let found : Except LookupFailure ClusterRole ←
      Reading.read (AuthQuery.getClusterRole roleRef.name)
    return found.map ClusterRole.rules
  else return .error (.unsupportedKind roleRef.kind)

def locateBinding (attributes : AttributesRecord) (nsName : GoString)
    (binding : List Subject × RoleRef) : AuthReading (List Subject × List LookupFailure) := do
  match ← locateRules binding.2 nsName with
  | .error failure => return ([], [failure])
  | .ok rules => return (if rulesAllow attributes rules then binding.1 else [], [])

def locateClusterWide (attributes : AttributesRecord) :
    AuthReading (List (List Subject × List LookupFailure)) := do
  let bindings : List ClusterRoleBinding ← Reading.read AuthQuery.listClusterRoleBindings
  bindings.mapM' (fun binding => locateBinding attributes [] (binding.subjects, binding.roleRef))

def locateNamespaced (attributes : AttributesRecord) :
    AuthReading (List (List Subject × List LookupFailure)) :=
  if attributes.nsName ≠ [] then do
    let bindings : List RoleBinding ← Reading.read (AuthQuery.listRoleBindings attributes.nsName)
    bindings.mapM' (fun binding =>
      locateBinding attributes attributes.nsName (binding.subjects, binding.roleRef))
  else return []

def walkingLocator (describe : List LookupFailure → GoString) : SubjectLocator :=
  fun attributes => do
    let clusterWide ← locateClusterWide attributes
    let namespaced ← locateNamespaced attributes
    let failures := (clusterWide ++ namespaced).flatMap Prod.snd
    return (systemMasters :: (clusterWide ++ namespaced).flatMap Prod.fst,
      if failures = [] then none else some (describe failures))

theorem answer_locateBinding (cache : ResourceCache) (attributes : AttributesRecord)
    (nsName : GoString) (binding : List Subject × RoleRef) :
    (locateBinding attributes nsName binding).answer (crAuthRetriever cache) =
      bindingSubjects cache attributes binding.2 nsName binding.1 := by
  have rules : (locateRules binding.2 nsName).answer (crAuthRetriever cache) =
      getRoleReferenceRules cache binding.2 nsName := by
    unfold locateRules getRoleReferenceRules
    split
    · rw [Reading.answer_bind, Reading.answer_read]
      change (getRole cache nsName binding.2.name).map Role.rules = _
      cases getRole cache nsName binding.2.name <;> rfl
    · split
      · rw [Reading.answer_bind, Reading.answer_read]
        change (getClusterRole cache binding.2.name).map ClusterRole.rules = _
        cases getClusterRole cache binding.2.name <;> rfl
      · rfl
  unfold locateBinding bindingSubjects
  rw [Reading.answer_bind, rules]
  cases getRoleReferenceRules cache binding.2 nsName <;> rfl

/-- Read in one store, it is the locator that the other results are about. -/
theorem walkingLocator_atOnce (describe : List LookupFailure → GoString) :
    (walkingLocator describe).atOnce = cacheReader (walkingAuthorizer describe) := by
  unfold SubjectLocator.atOnce cacheReader walkingAuthorizer
  congr 1
  funext cache attributes
  have clusterWide : (locateClusterWide attributes).answer (crAuthRetriever cache) =
      (listClusterRoleBindings cache).map (fun binding =>
        bindingSubjects cache attributes binding.roleRef [] binding.subjects) := by
    unfold locateClusterWide
    rw [Reading.answer_bind, Reading.answer_mapM]
    simp only [answer_locateBinding]
    rfl
  have namespaced : (locateNamespaced attributes).answer (crAuthRetriever cache) =
      if attributes.nsName ≠ [] then
        (listRoleBindings cache attributes.nsName).map (fun binding =>
          bindingSubjects cache attributes binding.roleRef attributes.nsName binding.subjects)
      else [] := by
    unfold locateNamespaced
    split
    · rw [Reading.answer_bind, Reading.answer_mapM]
      simp only [answer_locateBinding]
      rfl
    · rfl
  unfold walkingLocator
  rw [Reading.answer_bind, Reading.answer_bind, clusterWide, namespaced]
  rfl

/-! ### The steps -/

section Steps

variable {rt : Runtime} {Caller : Type v}

/-- A caller in its loop may be inside `AllowedSubjects`, with the rest of its reads. -/
structure ReadingState (rt : Runtime) (Caller : Type v) where
  shared : Shared rt ResourceCache
  calls : Caller → SynchPc rt
  locating : Caller → Option (AuthReading (List Subject × Option GoString))

def ReadingState.initial (rt : Runtime) (Caller : Type v) (cache : ResourceCache) :
    ReadingState rt Caller :=
  { shared := Shared.initial rt cache
    calls := fun _ => .idle
    locating := fun _ => none }

inductive ReadingLabel (Caller : Type v) where
  | change (cache : ResourceCache)
  | call (caller : Caller)
  | synch (caller : Caller) (action : SynchAction)
  | locate (caller : Caller)
  | read (caller : Caller)
  | located (caller : Caller)

variable [DecidableEq Caller] (locator : SubjectLocator)

def readingStep (state : ReadingState rt Caller) :
    ReadingLabel Caller → Option (ReadingState rt Caller)
  | .change cache => some { state with shared := state.shared.change cache }
  | .call caller =>
      match state.calls caller with
      | .idle | .returned _ =>
          some { state with calls := Function.update state.calls caller .start }
      | _ => none
  | .synch caller action =>
      -- the namespaces are computed by the three steps below
      if action = .computeNamespace ∨ (state.locating caller).isSome then none
      else
        (synchStep locator.atOnce state.shared (state.calls caller) action).map
          (fun stepped =>
            { state with
              shared := stepped.1
              calls := Function.update state.calls caller stepped.2 })
  | .locate caller =>
      match state.calls caller, state.locating caller with
      | .looping (ns :: _) _, none =>
          some { state with
            locating :=
              Function.update state.locating caller (some (locator (namespaceAttributes ns))) }
      | _, _ => none
  | .read caller =>
      match state.locating caller with
      | some (.ask query next) =>
          some { state with
            locating := Function.update state.locating caller
              (some (next (crAuthRetriever state.shared.world query))) }
      | _ => none
  | .located caller =>
      match state.calls caller, state.locating caller with
      | .looping (ns :: todo) snapshot, some (.done result) =>
          some { state with
            calls := Function.update state.calls caller
              (.looping todo (snapshot.extend state.shared.now ns result.1))
            locating := Function.update state.locating caller none }
      | _, _ => none

def ReadingState.tick (state : ReadingState rt Caller) : ReadingState rt Caller :=
  { state with shared := state.shared.tick }

def readingMachine : Machine (ReadingState rt Caller) (ReadingLabel Caller) :=
  { step := fun state label => (readingStep locator state label).map ReadingState.tick }

inductive ReadingEffect (state : ReadingState rt Caller) :
    ReadingLabel Caller → ReadingState rt Caller → Prop where
  | changed (cache : ResourceCache) :
      ReadingEffect state (.change cache) { state with shared := state.shared.change cache }
  | called (caller : Caller) :
      ReadingEffect state (.call caller)
        { state with calls := Function.update state.calls caller .start }
  | synched (caller : Caller) (action : SynchAction) (shared : Shared rt ResourceCache)
      (pc : SynchPc rt) (whole : action ≠ .computeNamespace)
      (outside : state.locating caller = none)
      (moved : synchStep locator.atOnce state.shared (state.calls caller) action =
        some (shared, pc)) :
      ReadingEffect state (.synch caller action)
        { state with shared := shared, calls := Function.update state.calls caller pc }
  | asked (caller : Caller) (ns : Namespace) (todo : List Namespace) (snapshot : Snapshot rt)
      (at_ : state.calls caller = .looping (ns :: todo) snapshot)
      (outside : state.locating caller = none) :
      ReadingEffect state (.locate caller)
        { state with
          locating :=
            Function.update state.locating caller (some (locator (namespaceAttributes ns))) }
  | read (caller : Caller) (query : AuthQuery)
      (next : query.Answer → AuthReading (List Subject × Option GoString))
      (inside : state.locating caller = some (.ask query next)) :
      ReadingEffect state (.read caller)
        { state with
          locating := Function.update state.locating caller
            (some (next (crAuthRetriever state.shared.world query))) }
  | located (caller : Caller) (ns : Namespace) (todo : List Namespace) (snapshot : Snapshot rt)
      (result : List Subject × Option GoString)
      (at_ : state.calls caller = .looping (ns :: todo) snapshot)
      (inside : state.locating caller = some (.done result)) :
      ReadingEffect state (.located caller)
        { state with
          calls := Function.update state.calls caller
            (.looping todo (snapshot.extend state.shared.now ns result.1))
          locating := Function.update state.locating caller none }

variable {locator} {state next : ReadingState rt Caller} {label : ReadingLabel Caller}

theorem readingMachine_effect (stepped : (readingMachine locator).step state label = some next) :
    ∃ untimed, ReadingEffect locator state label untimed ∧ next = untimed.tick := by
  obtain ⟨untimed, moved, ticked⟩ := Option.map_eq_some_iff.mp stepped
  refine ⟨untimed, ?_, ticked.symm⟩
  cases label with
  | change cache =>
      cases moved
      exact .changed cache
  | call caller =>
      simp only [readingStep] at moved
      split at moved <;> cases moved
      · exact .called caller
      · exact .called caller
  | synch caller action =>
      simp only [readingStep] at moved
      split at moved
      · cases moved
      · rename_i allowed
        obtain ⟨⟨shared, pc⟩, inner, isUntimed⟩ := Option.map_eq_some_iff.mp moved
        subst isUntimed
        have outside : state.locating caller = none := by
          cases locating : state.locating caller with
          | none => rfl
          | some program => exact absurd (Or.inr (by rw [locating]; rfl)) allowed
        exact .synched caller action shared pc (fun same => allowed (Or.inl same)) outside inner
  | locate caller =>
      simp only [readingStep] at moved
      split at moved
      · rename_i ns todo snapshot at_ outside
        cases moved
        exact .asked caller ns todo snapshot at_ outside
      · cases moved
  | read caller =>
      simp only [readingStep] at moved
      split at moved
      · rename_i query after inside
        cases moved
        exact .read caller query after inside
      · cases moved
  | located caller =>
      simp only [readingStep] at moved
      split at moved
      · rename_i ns todo snapshot result at_ inside
        cases moved
        exact .located caller ns todo snapshot result at_ inside
      · cases moved

end Steps

end NamespaceLister
