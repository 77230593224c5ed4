/-
The deployed program in its cluster.

The cluster changes its objects, the watches carry the changes to the informers,
and the informers deliver them to the stores that the access cache reads.  A
delivery that calls the handlers of its kind is the change of resources of the
start-up system; one that calls nobody leaves the stores as they were.  A run of
the deployment is therefore a run of the watches and a run of the start-up system,
and what is known of the two meets in the replies.
-/

import NamespaceLister.ClusterView
import NamespaceLister.Convergence

namespace NamespaceLister

open Library

structure Deployment (rt : Runtime) where
  watches : Kind → KindWatch
  system : StartupState rt ResourceCache

/-- A change comes with what the API server sends for it, a delivery with the lists
that the readers see from then on. -/
inductive DeploymentLabel where
  | cluster (kind : Kind) (key : ObjectKey) (version : Option Object) (sent : List WatchEvent)
  | deliver (kind : Kind) (cache : ResourceCache)
  | inner (label : StartupLabel ResourceCache)

def StartupLabel.isChange {W : Type} : StartupLabel W → Bool
  | .change _ _ => true
  | _ => false

namespace Deployment

variable {rt : Runtime}

def initial (rt : Runtime) : Deployment rt :=
  { watches := fun _ => KindWatch.empty
    system := StartupState.initial rt ResourceCache.empty }

def stores (watches : Kind → KindWatch) (kind : Kind) : Store :=
  (watches kind).store

def announces (state : Deployment rt) (kind : Kind) : Bool :=
  ((state.watches kind).deliver kind.transform).any (fun delivered => !delivered.2.isEmpty)

end Deployment

section Machine

variable {rt : Runtime} (rbac : RbacAuthorizer)

def deploymentStep (state : Deployment rt) : DeploymentLabel → Option (Deployment rt)
  | .cluster kind key version sent =>
      (watchMachine.step state.watches (.change kind key version sent)).map
        (fun watches => { state with watches := watches })
  | .deliver kind cache =>
      match (state.watches kind).deliver kind.transform with
      | none => none
      | some (taken, notifications) =>
          let watches := Function.update state.watches kind taken
          if notifications.isEmpty then some { state with watches := watches }
          else if cache.shows (Deployment.stores watches) then
            ((startupMachine (cacheReader rbac)).step state.system (.change kind cache)).map
              (fun system => { watches := watches, system := system })
          else none
  | .inner label =>
      if label.isChange then none
      else
        ((startupMachine (cacheReader rbac)).step state.system label).map
          (fun system => { state with system := system })

def deploymentMachine : Machine (Deployment rt) DeploymentLabel :=
  { step := deploymentStep rbac }

inductive DeploymentEffect (state : Deployment rt) : DeploymentLabel → Deployment rt → Prop where
  | clusterChanged (kind : Kind) (key : ObjectKey) (version : Option Object)
      (sent : List WatchEvent) (watches : Kind → KindWatch)
      (changed : watchMachine.step state.watches (.change kind key version sent) =
        some watches) :
      DeploymentEffect state (.cluster kind key version sent) { state with watches := watches }
  | unannounced (kind : Kind) (cache : ResourceCache) (taken : KindWatch)
      (took : (state.watches kind).deliver kind.transform = some (taken, [])) :
      DeploymentEffect state (.deliver kind cache)
        { state with watches := Function.update state.watches kind taken }
  | announced (kind : Kind) (cache : ResourceCache) (taken : KindWatch)
      (first : Notification) (rest : List Notification)
      (system : StartupState rt ResourceCache)
      (took : (state.watches kind).deliver kind.transform = some (taken, first :: rest))
      (shown : cache.shows (Deployment.stores (Function.update state.watches kind taken)) = true)
      (changed : (startupMachine (cacheReader rbac)).step state.system (.change kind cache) =
        some system) :
      DeploymentEffect state (.deliver kind cache)
        { watches := Function.update state.watches kind taken, system := system }
  | moved (label : StartupLabel ResourceCache) (system : StartupState rt ResourceCache)
      (plain : label.isChange = false)
      (stepped : (startupMachine (cacheReader rbac)).step state.system label = some system) :
      DeploymentEffect state (.inner label) { state with system := system }

variable {rbac} {state next : Deployment rt} {label : DeploymentLabel}

theorem deploymentMachine_effect
    (stepped : (deploymentMachine rbac).step state label = some next) :
    DeploymentEffect rbac state label next := by
  cases label with
  | cluster kind key version sent =>
      obtain ⟨watches, changed, isNext⟩ := Option.map_eq_some_iff.mp stepped
      subst isNext
      exact .clusterChanged kind key version sent watches changed
  | deliver kind cache =>
      simp only [deploymentMachine, deploymentStep] at stepped
      split at stepped
      · cases stepped
      · rename_i taken notifications took
        cases notifications with
        | nil =>
            cases stepped
            exact .unannounced kind cache taken took
        | cons first rest =>
            simp only [List.isEmpty_cons, Bool.false_eq_true, if_false] at stepped
            split at stepped
            · rename_i shown
              obtain ⟨system, changed, isNext⟩ := Option.map_eq_some_iff.mp stepped
              subst isNext
              exact .announced kind cache taken first rest system took shown changed
            · cases stepped
  | inner label =>
      simp only [deploymentMachine, deploymentStep] at stepped
      split at stepped
      · cases stepped
      · rename_i plain
        obtain ⟨system, moved, isNext⟩ := Option.map_eq_some_iff.mp stepped
        subst isNext
        exact .moved label system (Bool.eq_false_of_not_eq_true plain) moved

end Machine

/-! ### The start-up system inside -/

namespace DeploymentLabel

def startupActions {rt : Runtime} (state : Deployment rt) :
    DeploymentLabel → List (StartupLabel ResourceCache)
  | .cluster _ _ _ _ => []
  | .deliver kind cache => if state.announces kind then [.change kind cache] else []
  | .inner label => [label]

def benign : DeploymentLabel → Bool
  | .inner label => label.benign
  | _ => true

def announced {rt : Runtime} (namespaceSelector : Selector) (state : Deployment rt) :
    DeploymentLabel → Prop
  | .cluster kind key version sent =>
      (WatchLabel.change kind key version sent).announced namespaceSelector state.watches
  | _ => True

def silentlyRevokes {rt : Runtime} (namespaceSelector : Selector) (state : Deployment rt) :
    DeploymentLabel → Prop
  | .cluster kind key version _ =>
      (state.watches kind).silentlyRevokes namespaceSelector kind key version
  | _ => False

theorem benign_startupActions {rt : Runtime} {state : Deployment rt} {label : DeploymentLabel}
    (benign : label.benign = true) {action : StartupLabel ResourceCache}
    (member : action ∈ label.startupActions state) : action.benign = true := by
  cases label with
  | cluster kind key version sent => cases member
  | deliver kind cache =>
      change action ∈ (if state.announces kind then [StartupLabel.change kind cache] else [])
        at member
      split at member
      · rw [List.mem_singleton.mp member]
        rfl
      · cases member
  | inner label =>
      rw [List.mem_singleton.mp member]
      exact benign

end DeploymentLabel

section Runs

variable {rt : Runtime} {namespaceSelector : Selector}
variable {rbac : RbacAuthorizer} {start state next : Deployment rt}
variable {label : DeploymentLabel} {labels : List DeploymentLabel}

theorem deployment_startup
    (ran : (deploymentMachine rbac).run start labels = some state) :
    (startupMachine (cacheReader rbac)).run start.system
      ((deploymentMachine rbac).actions
        DeploymentLabel.startupActions start labels) = some state.system := by
  have simulated : ∀ (current : Deployment rt) (label : DeploymentLabel) (reached : Deployment rt),
      True → (deploymentMachine rbac).step current label = some reached →
      (startupMachine (cacheReader rbac)).run (Deployment.system current)
        (DeploymentLabel.startupActions current label) = some (Deployment.system reached) := by
    intro current label reached _ stepped
    cases deploymentMachine_effect stepped with
    | clusterChanged kind key version sent watches changed => rfl
    | unannounced kind cache taken took =>
        have silent : current.announces kind = false := by
          unfold Deployment.announces
          rw [took]
          rfl
        unfold DeploymentLabel.startupActions
        simp only [silent, Bool.false_eq_true, if_false]
        rfl
    | announced kind cache taken first rest system took shown changed =>
        have called : current.announces kind = true := by
          unfold Deployment.announces
          rw [took]
          rfl
        unfold DeploymentLabel.startupActions
        simp only [called, if_true]
        exact Machine.run_singleton _ changed
    | moved label system plain moved => exact Machine.run_singleton _ moved
  exact (deploymentMachine rbac).run_actions (fun _ _ _ _ _ => trivial)
    simulated trivial ran

/-! ### The stores, the cluster and the lists the readers see -/

structure DeploymentInvariant (namespaceSelector : Selector) (state : Deployment rt) : Prop where
  tracking : Tracking namespaceSelector state.watches
  shown : state.system.shared.world.shows (Deployment.stores state.watches) = true

theorem startup_world {current reached : StartupState rt ResourceCache}
    {act : StartupLabel ResourceCache} {resources : ResourceReader ResourceCache}
    (effect : StartupEffect resources current act reached) (plain : act.isChange = false) :
    reached.shared.world = current.shared.world := by
  cases effect with
  | changed kind world => cases plain
  | startupSynched action shared pc now stepped => exact synchStep_world stepped
  | workerSynched action shared pc now stepped => exact synchStep_world stepped
  | _ => rfl

theorem stores_update {watches : Kind → KindWatch} {kind : Kind} {watch : KindWatch}
    (same : watch.store = (watches kind).store) :
    Deployment.stores (Function.update watches kind watch) = Deployment.stores watches := by
  funext other
  unfold Deployment.stores
  by_cases own : other = kind
  · subst own
    rw [Function.update_self]
    exact same
  · rw [Function.update_of_ne own]

theorem deploymentInvariant_step (holds : DeploymentInvariant namespaceSelector state)
    (announced : label.announced namespaceSelector state)
    (harmless : ¬label.silentlyRevokes namespaceSelector state)
    (stepped : (deploymentMachine rbac).step state label = some next) :
    DeploymentInvariant namespaceSelector next := by
  have delivers : ∀ {kind : Kind} {taken : KindWatch} {notifications : List Notification},
      (state.watches kind).deliver kind.transform = some (taken, notifications) →
      Tracking namespaceSelector (Function.update state.watches kind taken) := by
    intro kind taken notifications took
    have moved : watchMachine.step state.watches (.deliver kind) =
        some (Function.update state.watches kind taken) := by
      change Option.map _ ((state.watches kind).deliver kind.transform) = _
      rw [took]
      rfl
    have quiet : ¬(WatchLabel.deliver kind).silentlyRevokes namespaceSelector state.watches :=
      fun silent => silent
    have promised : (WatchLabel.deliver kind).announced namespaceSelector state.watches := trivial
    exact tracking_step holds.tracking promised quiet moved
  cases deploymentMachine_effect stepped with
  | clusterChanged kind key version sent watches changed =>
      have quiet : ¬(WatchLabel.change kind key version sent).silentlyRevokes namespaceSelector
          state.watches := harmless
      have promised : (WatchLabel.change kind key version sent).announced namespaceSelector
          state.watches := announced
      refine ⟨tracking_step holds.tracking promised quiet changed, ?_⟩
      cases watchMachine_effect changed with
      | changed _ _ _ _ proper =>
          -- the change is in flight; no store has moved
          have same : Deployment.stores (Function.update state.watches kind
              ((state.watches kind).change key version sent)) =
              Deployment.stores state.watches := stores_update rfl
          change state.system.shared.world.shows (Deployment.stores _) = true
          rw [same]
          exact holds.shown
  | unannounced kind cache taken took =>
      refine ⟨delivers took, ?_⟩
      change state.system.shared.world.shows (Deployment.stores _) = true
      rw [stores_update (store_of_unannounced took)]
      exact holds.shown
  | announced kind cache taken first rest system took shown changed =>
      refine ⟨delivers took, ?_⟩
      obtain ⟨untimed, effect, ticked⟩ := startupMachine_effect _ changed
      subst ticked
      cases effect with
      | changed _ _ => exact shown
  | moved label system plain moved =>
      refine ⟨holds.tracking, ?_⟩
      obtain ⟨untimed, effect, ticked⟩ := startupMachine_effect _ moved
      have world := startup_world effect plain
      subst ticked
      change untimed.shared.world.shows _ = true
      rw [world]
      exact holds.shown

theorem deploymentInvariant_initial :
    DeploymentInvariant namespaceSelector (Deployment.initial rt) :=
  ⟨tracking_empty, rfl⟩

theorem deploymentInvariant_run
    (announced : (deploymentMachine rbac).Along
      (fun current label => DeploymentLabel.announced namespaceSelector current label)
      (Deployment.initial rt) labels)
    (quiet : (deploymentMachine rbac).Along
      (fun current label => ¬DeploymentLabel.silentlyRevokes namespaceSelector current label)
      (Deployment.initial rt) labels)
    (ran : (deploymentMachine rbac).run (Deployment.initial rt) labels =
      some state) : DeploymentInvariant namespaceSelector state :=
  (deploymentMachine rbac).invariant_run
    (fun _ _ _ holds promised stepped =>
      deploymentInvariant_step holds promised.1 promised.2 stepped)
    deploymentInvariant_initial (Machine.Along.and _ announced quiet) ran

/-- The system has come to rest after a request that was made since startup
returned. -/
structure Deployment.AtRest (started state : Deployment rt) : Prop where
  quiescent : state.system.quiescent
  drained : ∀ kind, (state.watches kind).inFlight = []
  requested : ∃ time, state.system.lastRequest = some time ∧ started.system.shared.now ≤ time

/-- At rest the access cache answers from what `Synch` computes from the lists of
the readers. -/
theorem accessCache_at_rest {before after : List DeploymentLabel} {started : Deployment rt}
    (startup : (deploymentMachine rbac).run (Deployment.initial rt) before =
      some started)
    (returned : started.system.startup = .returned none)
    (ran : (deploymentMachine rbac).run started after = some state)
    (succeeds : ∀ label ∈ after, label.benign = true) (rest : started.AtRest state) :
    state.system.shared.cache.accessCache =
      (SynchronizedAccessCache.new.Synch rt
        (steady ((cacheReader rbac).listNamespaces state.system.shared.world) (fun _ => none)
          ((cacheReader rbac).allowedSubjects state.system.shared.world))).1.accessCache := by
  have succeedsInside : ∀ action ∈ (deploymentMachine rbac).actions
      DeploymentLabel.startupActions started after, action.benign = true := by
    intro action member
    obtain ⟨label, inLabels, at_, acts⟩ := Machine.mem_actions _ member
    exact DeploymentLabel.benign_startupActions (succeeds label inLabels) acts
  have steadyState := steady_run (deployment_startup startup) returned (deployment_startup ran)
    succeedsInside
  obtain ⟨time, requested, since⟩ := rest.requested
  obtain ⟨waiting, empty, _, settled⟩ := rest.quiescent
  obtain ⟨published, _, stored, _, reflects⟩ :=
    steadyState.at_rest waiting empty settled requested since
  have synched := Synch_steady_data rt SynchronizedAccessCache.new
    ((cacheReader rbac).listNamespaces state.system.shared.world) (fun _ => none)
    ((cacheReader rbac).allowedSubjects state.system.shared.world)
    (Synch_steady_succeeds rt SynchronizedAccessCache.new rfl _ _)
  rw [published.computed, reflects, ← synched] at stored
  cases current : state.system.shared.cache.accessCache with
  | mk data =>
      rw [current] at stored
      change data = _ at stored
      rw [stored]

end Runs

/-- From the cluster to the reply: once everything is delivered and the access cache
is at rest, an ordinary user is shown exactly the selected namespaces to which the
objects of the cluster give literal access, provided no stored role was rewritten
into one that lists nothing to keep.  The watches keep their promise, the locator is
lawful, and no call of `Synch` since startup failed. -/
theorem reply_reflects_cluster {rt : Runtime} (order : RangeOrder Namespace)
    (namespaceSelector : Selector) (rbac : RbacAuthorizer) (lawful : rbac.Lawful)
    (before after : List DeploymentLabel) (started state : Deployment rt)
    (startup : (deploymentMachine rbac).run (Deployment.initial rt) before =
      some started)
    (returned : started.system.startup = .returned none)
    (ran : (deploymentMachine rbac).run started after = some state)
    (succeeds : ∀ label ∈ after, label.benign = true) (rest : started.AtRest state)
    (announced : (deploymentMachine rbac).Along
      (fun current label => DeploymentLabel.announced namespaceSelector current label)
      (Deployment.initial rt) (before ++ after))
    (quiet : (deploymentMachine rbac).Along
      (fun current label => ¬DeploymentLabel.silentlyRevokes namespaceSelector current label)
      (Deployment.initial rt) (before ++ after))
    (live : ResourceCache) (shown : live.shows (fun kind => (state.watches kind).cluster) = true)
    (plain : live.allSubjects plainSubject) (username : GoString) (groups : List GoString)
    (ordinary : GoString.hasPrefix username "system:serviceaccount:" = false) :
    ∃ reply,
      listNamespaces order state.system.shared.cache.accessCache username groups = .ok reply ∧
      ∀ name, name ∈ reply.names ↔
        ∃ ns ∈ live.namespaces, ns.name = name ∧
          namespaceSelector (ns.metadata.labels.getD ∅) = true ∧
          literalAccess live username groups name := by
  have whole : (deploymentMachine rbac).run (Deployment.initial rt)
      (before ++ after) = some state := by
    rw [Machine.run_append _ startup]
    exact ran
  have holds := deploymentInvariant_run announced quiet whole
  have caughtUp : ∀ kind key, (Deployment.stores state.watches kind).lookup key =
      ((state.watches kind).cluster.lookup key).bind (kind.visible namespaceSelector) := by
    intro kind key
    have tracks := holds.tracking.tracks kind key
    unfold KindWatch.caughtUp at tracks
    rw [rest.drained kind] at tracks
    exact tracks
  have same := sameObjects_of_visible shown holds.shown caughtUp
  rw [accessCache_at_rest startup returned ran succeeds rest]
  obtain ⟨reply, listed, names⟩ := listNamespaces_names rt order SynchronizedAccessCache.new _
    (fun _ => none) _ (Synch_steady_succeeds rt SynchronizedAccessCache.new rfl _ _)
    username groups _ (parseUsername_ordinary username ordinary)
  refine ⟨reply, listed, ?_⟩
  intro name
  rw [names]
  have granted : ∀ ns : Namespace,
      (∃ key ∈ userSubject username :: groups.map groupSubject,
        key ∈ allowedFor ((cacheReader rbac).allowedSubjects state.system.shared.world) ns) ↔
      literalAccess live username groups ns.name := by
    intro ns
    simp only [mem_allowedFor_iff lawful, same.mem_subjectsUnder_iff]
    exact key_granted_iff_literalAccess live namespaceSelector plain username groups ordinary ns
  simp only [granted]
  constructor
  · rintro ⟨ns, member, named, access⟩
    have trimmed := (same.namespaces ns).mp member
    obtain ⟨source, inSelected, kept⟩ := List.mem_filterMap.mp trimmed
    obtain ⟨inLive, selected⟩ := List.mem_filter.mp inSelected
    cases kept
    subst named
    exact ⟨source, inLive, rfl, selected, access⟩
  · rintro ⟨source, inLive, named, selected, access⟩
    subst named
    have inSelected : source ∈ (live.selected namespaceSelector).namespaces :=
      List.mem_filter.mpr ⟨inLive, selected⟩
    exact ⟨_, (same.namespaces _).mpr (List.mem_filterMap.mpr ⟨source, inSelected, rfl⟩), rfl,
      access⟩

private def tenantRole : Role :=
  { metadata := ObjectMeta.bare "team-a" "reader"
    rules :=
      [{ verbs := [GoString.ofLiteral "get"]
         apiGroups := [GoString.ofLiteral ""]
         resources := [GoString.ofLiteral "namespaces"]
         resourceNames := [] }] }

private def tenantBinding : RoleBinding :=
  { metadata := ObjectMeta.bare "team-a" "readers"
    subjects := [userSubject "alice"]
    roleRef := { apiGroup := rbacGroupName, kind := "Role", name := "reader" } }

private def withNamespace : ResourceCache :=
  { ResourceCache.empty with
    namespaces := [bareNamespace "team-a"]
    namespacesNodup := List.nodup_singleton _ }

private def withRole : ResourceCache :=
  { withNamespace with
    roles := [tenantRole]
    rolesNodup := List.nodup_singleton _ }

private def withBinding : ResourceCache :=
  { withRole with
    roleBindings := [tenantBinding]
    bindingsNamespaced := List.forall_mem_singleton.mpr nofun }

private def tenantRbac : RbacAuthorizer := walkingAuthorizer (fun _ => [])

private def created (object : Object) : List WatchEvent :=
  [{ watchType := .added, object := object }]

private def tenantStartup : List DeploymentLabel :=
  [ .cluster .nspace ([], "team-a") (some (.nspace (bareNamespace "team-a")))
      (created (.nspace (bareNamespace "team-a"))),
    .cluster .role ("team-a", "reader") (some (.role tenantRole)) (created (.role tenantRole)),
    .cluster .roleBinding ("team-a", "readers") (some (.roleBinding tenantBinding))
      (created (.roleBinding tenantBinding)),
    .deliver .nspace withNamespace, .deliver .role withRole, .deliver .roleBinding withBinding ] ++
  [ .metricsRegistered, .register 1, .register 0, .register 1, .register 0, .register 1, .start,
    .startupSynch .compareAndSwap, .startupSynch .list, .startupSynch .computeNamespace,
    .startupSynch .restock, .startupSynch .reset, .startupReturns ].map DeploymentLabel.inner

private def tenantServed : List DeploymentLabel :=
  [ .handle 0, .handle 0, .handle 0, .dequeue, .workerSynch .compareAndSwap, .workerSynch .list,
    .workerSynch .computeNamespace, .workerSynch .restock, .workerSynch .reset,
    .workerResumes ].map DeploymentLabel.inner

private def creates (current : Deployment Runtime.reference) : DeploymentLabel → Bool
  | .cluster kind key version sent =>
      ((current.watches kind).cluster.lookup key).isNone &&
        (WatchLabel.change kind key version sent).converted everything current.watches
  | _ => true

private theorem tenant_promised :
    (deploymentMachine tenantRbac).Along
      (fun current label => DeploymentLabel.announced everything current label ∧
        ¬DeploymentLabel.silentlyRevokes everything current label)
      (Deployment.initial Runtime.reference) (tenantStartup ++ tenantServed) := by
  have sound : ∀ (current : Deployment Runtime.reference) (label : DeploymentLabel),
      creates current label = true →
      DeploymentLabel.announced everything current label ∧
        ¬DeploymentLabel.silentlyRevokes everything current label := by
    intro current label created
    cases label with
    | cluster kind key version sent =>
        obtain ⟨fresh, converted⟩ := Bool.and_eq_true_iff.mp created
        refine ⟨WatchLabel.announced_of_converted converted, ?_⟩
        rintro ⟨previous, _, held, _⟩
        rw [held] at fresh
        cases fresh
    | deliver kind cache => exact ⟨trivial, id⟩
    | inner label => exact ⟨trivial, id⟩
  exact Machine.along_of_passes _ sound rfl

theorem reply_reflects_cluster_alice :
    ∃ state : Deployment Runtime.reference, ∃ reply,
      (deploymentMachine tenantRbac).run (Deployment.initial Runtime.reference)
        (tenantStartup ++ tenantServed) = some state ∧
      listNamespaces (RangeOrder.asKept Namespace) state.system.shared.cache.accessCache "alice"
        [] = .ok reply ∧
      GoString.ofLiteral "team-a" ∈ reply.names := by
  obtain ⟨reply, listed, names⟩ := reply_reflects_cluster (RangeOrder.asKept Namespace) everything
    tenantRbac (walkingAuthorizer_lawful _) tenantStartup tenantServed _ _ rfl rfl rfl (by decide)
    ⟨⟨rfl, rfl, fun thread => by cases thread <;> rfl, rfl⟩, fun kind => by cases kind <;> rfl,
      ⟨19, rfl, by decide⟩⟩
    (Machine.Along.imp _ (fun _ _ promised => promised.1) tenant_promised)
    (Machine.Along.imp _ (fun _ _ promised => promised.2) tenant_promised)
    withBinding rfl (by unfold ResourceCache.allSubjects; decide) "alice" [] (by decide)
  refine ⟨_, reply, rfl, listed, (names _).mpr ?_⟩
  exact ⟨bareNamespace "team-a", List.mem_singleton_self _, rfl, rfl,
    Or.inr (Or.inr ⟨tenantBinding, List.mem_singleton_self _, rfl, by decide, by decide⟩)⟩

end NamespaceLister
