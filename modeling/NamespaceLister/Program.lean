/-
The program from `main` to the replies of its server.

`run` parses the flags, builds the authenticator and the configuration, starts the
informers and waits for them, builds the access cache, and only then serves.  A request is
authenticated, its username and groups become keys, and the keys are looked up in
the cache step by step, beside the worker, the timer and the cluster.  net/http
recovers a panic of a handler, so it ends one request and nothing else.
Everything stops when the process is gone, also requests in flight.
-/

import NamespaceLister.RequestPath
import NamespaceLister.Startup
import NamespaceLister.SynchMachine

namespace NamespaceLister

open Library

universe u v

/-! ### The control of `run` -/

def cachedObjects : List Kind :=
  [.nspace, .roleBinding, .clusterRole, .clusterRoleBinding, .role]

theorem mem_cachedObjects (kind : Kind) : kind ∈ cachedObjects := by
  cases kind <;> decide

/-- What `run` returns; it has no return without an error. -/
inductive RunError where
  | authenticator (cause : GoString)
  | config (cause : GoString)
  | build (cause : GoString)
  | informer (cause : GoString)
  | cacheSync
  | accessCache (err : StartupError)
  | metricsServer (cause : GoString)
  | serverClosed
  | serve (cause : GoString)
deriving DecidableEq

inductive Phase where
  | flags
  | registry
  | authenticator
  | config
  | build
  | informers (remaining : List Kind)
  | cacheSync
  | accessCache
  | metricsServer
  | apiServer
  | serving
  | returned (err : RunError)
  | exited (status : Nat)
  | killed
deriving DecidableEq

def Phase.over : Phase → Bool
  | .exited _ | .killed => true
  | _ => false

/-- The context of `signal.NotifyContext`.  A signal has its default action
before the context is made and after its `cancel` has run. -/
inductive SignalContext where
  | absent
  | live
  | done
  | released
deriving DecidableEq

def SignalContext.cancelled : SignalContext → Bool
  | .done | .released => true
  | _ => false

def SignalContext.release : SignalContext → SignalContext
  | .absent => .absent
  | _ => .released

structure Control where
  phase : Phase
  context : SignalContext
  informers : List Kind
  cacheStarted : Bool
  metricsServer : Bool

/-- What decides how `run` goes on.  The flag package ends the process itself when
help is asked for or a flag is wrong, and so does a missing configuration of the
cluster. -/
inductive ControlLabel where
  | helpRequested
  | flagsWrong
  | flagsParsed
  | registryReady
  | registryPanics
  | kubeConfigMissing
  | authenticatorBuilt
  | authenticatorFails (cause : GoString)
  | configRead
  | configFails (cause : GoString)
  | cacheBuilt
  | buildFails (cause : GoString)
  | informerFound
  | informerFails (cause : GoString)
  | cacheStarts
  | cacheStartFails
  | cacheSynced
  | cacheSyncFails
  | accessCacheReturns
  | metricsServerStarts
  | metricsServerDisabled
  | metricsServerFails (cause : GoString)
  | metricsServerEnds
  | apiServerBuilt
  | apiServerPanics
  | serverShutsDown
  | shutdownFails
  | serveFails (cause : GoString)
  | signal
  | exits
deriving DecidableEq

namespace Control

def initial : Control :=
  { phase := .flags
    context := .absent
    informers := []
    cacheStarted := false
    metricsServer := false }

def goTo (control : Control) (phase : Phase) : Control :=
  { control with phase := phase }

def returns (control : Control) (err : RunError) : Control :=
  { control with
    phase := .returned err
    context := control.context.release }

def during (control : Control) (phase : Phase) (after : Control) : Option Control :=
  if control.phase = phase then some after else none

/-- A step of `run` or of the goroutines it leaves behind, by where
`buildAndStartSynchronizedAccessCache` stands. -/
def act (enableMetrics : Bool) (startup : StartupPc) (control : Control) :
    ControlLabel → Option Control
  | .helpRequested => control.during .flags (control.goTo (.exited 0))
  | .flagsWrong => control.during .flags (control.goTo (.exited 2))
  | .flagsParsed => control.during .flags (control.goTo .registry)
  | .registryReady => control.during .registry (control.goTo .authenticator)
  | .registryPanics => control.during .registry (control.goTo (.exited 2))
  | .kubeConfigMissing => control.during .authenticator (control.goTo (.exited 1))
  | .authenticatorBuilt =>
      control.during .authenticator { control with phase := .config, context := .live }
  | .authenticatorFails cause =>
      control.during .authenticator (control.returns (.authenticator cause))
  | .configRead => control.during .config (control.goTo .build)
  | .configFails cause => control.during .config (control.returns (.config cause))
  | .cacheBuilt => control.during .build (control.goTo (.informers cachedObjects))
  | .buildFails cause => control.during .build (control.returns (.build cause))
  | .informerFound =>
      match control.phase with
      | .informers (kind :: rest) =>
          some { control with phase := .informers rest, informers := kind :: control.informers }
      | _ => none
  | .informerFails cause =>
      match control.phase with
      | .informers (_ :: _) => some (control.returns (.informer cause))
      | _ => none
  | .cacheStarts =>
      control.during (.informers []) { control with phase := .cacheSync, cacheStarted := true }
  | .cacheStartFails =>
      -- a panic outside the handlers ends the process
      if control.cacheStarted then some (control.goTo (.exited 2)) else none
  | .cacheSynced => control.during .cacheSync (control.goTo .accessCache)
  | .cacheSyncFails => control.during .cacheSync (control.returns .cacheSync)
  | .accessCacheReturns =>
      match startup with
      | .returned none => control.during .accessCache (control.goTo .metricsServer)
      | .returned (some err) => control.during .accessCache (control.returns (.accessCache err))
      | _ => none
  | .metricsServerStarts =>
      if enableMetrics then
        control.during .metricsServer { control with phase := .apiServer, metricsServer := true }
      else none
  | .metricsServerDisabled =>
      if enableMetrics then none
      else control.during .metricsServer { control with phase := .apiServer }
  | .metricsServerFails cause =>
      if enableMetrics then control.during .metricsServer (control.returns (.metricsServer cause))
      else none
  | .metricsServerEnds =>
      if control.metricsServer then
        some { control with context := .released, metricsServer := false }
      else none
  | .apiServerBuilt => control.during .apiServer (control.goTo .serving)
  | .apiServerPanics => control.during .apiServer (control.goTo (.exited 2))
  | .serverShutsDown =>
      -- ListenAndServe returns when Shutdown closes the listener, not when it is done
      if control.context.cancelled then control.during .serving (control.returns .serverClosed)
      else none
  | .shutdownFails =>
      if control.context.cancelled then control.during .serving (control.goTo (.exited 1))
      else none
  | .serveFails cause => control.during .serving (control.returns (.serve cause))
  | .signal =>
      match control.context with
      | .absent | .released => some (control.goTo .killed)
      | .live | .done => some { control with context := .done }
  | .exits =>
      match control.phase with
      | .returned _ => some (control.goTo (.exited 1))
      | _ => none

def step (enableMetrics : Bool) (startup : StartupPc) (control : Control) (label : ControlLabel) :
    Option Control :=
  if control.phase.over then none else control.act enableMetrics startup label

theorem during_eq_some {control after reached : Control} {phase : Phase}
    (moved : control.during phase after = some reached) :
    control.phase = phase ∧ reached = after := by
  unfold during at moved
  split at moved
  · rename_i now
    cases moved
    exact ⟨now, rfl⟩
  · cases moved

end Control

inductive ControlEffect (startup : StartupPc) (control : Control) :
    ControlLabel → Control → Prop where
  | helped (now : control.phase = .flags) :
      ControlEffect startup control .helpRequested (control.goTo (.exited 0))
  | failed (label : ControlLabel) (status : Nat) (failing : status ≠ 0)
      (other : label ≠ .helpRequested) :
      ControlEffect startup control label (control.goTo (.exited status))
  | killed : ControlEffect startup control .signal (control.goTo .killed)
  | returned (label : ControlLabel) (err : RunError) (other : label ≠ .helpRequested) :
      ControlEffect startup control label (control.returns err)
  | signalled (label : ControlLabel) (context : SignalContext) (metricsServer : Bool)
      (other : label ≠ .helpRequested) :
      ControlEffect startup control label
        { control with context := context, metricsServer := metricsServer }
  | prepared (label : ControlLabel) (phase : Phase) (context : SignalContext)
      (other : label ≠ .helpRequested)
      (reached : phase = .registry ∨ phase = .authenticator ∨ phase = .config ∨ phase = .build ∨
        phase = .informers cachedObjects) :
      ControlEffect startup control label { control with phase := phase, context := context }
  | informed (kind : Kind) (rest : List Kind) (now : control.phase = .informers (kind :: rest)) :
      ControlEffect startup control .informerFound
        { control with phase := .informers rest, informers := kind :: control.informers }
  | cacheStarted (now : control.phase = .informers []) :
      ControlEffect startup control .cacheStarts
        { control with phase := .cacheSync, cacheStarted := true }
  | cacheSynced (now : control.phase = .cacheSync) :
      ControlEffect startup control .cacheSynced (control.goTo .accessCache)
  | accessCacheBuilt (now : control.phase = .accessCache) (result : startup = .returned none) :
      ControlEffect startup control .accessCacheReturns (control.goTo .metricsServer)
  | metricsServed (label : ControlLabel) (metricsServer : Bool)
      (now : control.phase = .metricsServer) (other : label ≠ .helpRequested) :
      ControlEffect startup control label
        { control with phase := .apiServer, metricsServer := metricsServer }
  | apiServerBuilt (now : control.phase = .apiServer) :
      ControlEffect startup control .apiServerBuilt (control.goTo .serving)

theorem controlAct_effect {enableMetrics : Bool} {startup : StartupPc} {control after : Control}
    {label : ControlLabel} (acted : control.act enableMetrics startup label = some after) :
    ControlEffect startup control label after := by
  cases label with
  | helpRequested =>
      obtain ⟨now, rfl⟩ := Control.during_eq_some acted
      exact .helped now
  | flagsWrong | registryPanics | kubeConfigMissing | apiServerPanics =>
      obtain ⟨_now, rfl⟩ := Control.during_eq_some acted
      exact .failed _ _ nofun nofun
  | flagsParsed | registryReady | authenticatorBuilt | configRead | cacheBuilt =>
      obtain ⟨_now, rfl⟩ := Control.during_eq_some acted
      exact .prepared _ _ _ nofun (by simp)
  | authenticatorFails _ | configFails _ | buildFails _ | cacheSyncFails | serveFails _ =>
      obtain ⟨_now, rfl⟩ := Control.during_eq_some acted
      exact .returned _ _ nofun
  | informerFound =>
      simp only [Control.act] at acted
      split at acted
      · rename_i kind rest now
        cases acted
        exact .informed kind rest now
      · cases acted
  | informerFails cause =>
      simp only [Control.act] at acted
      split at acted
      · cases acted
        exact .returned _ _ nofun
      · cases acted
  | cacheStarts =>
      obtain ⟨now, rfl⟩ := Control.during_eq_some acted
      exact .cacheStarted now
  | cacheStartFails =>
      simp only [Control.act] at acted
      split at acted
      · cases acted
        exact .failed _ _ nofun nofun
      · cases acted
  | cacheSynced =>
      obtain ⟨now, rfl⟩ := Control.during_eq_some acted
      exact .cacheSynced now
  | accessCacheReturns =>
      simp only [Control.act] at acted
      split at acted
      · obtain ⟨now, rfl⟩ := Control.during_eq_some acted
        exact .accessCacheBuilt now rfl
      · obtain ⟨_now, rfl⟩ := Control.during_eq_some acted
        exact .returned _ _ nofun
      · cases acted
  | metricsServerStarts =>
      simp only [Control.act] at acted
      split at acted
      · obtain ⟨now, rfl⟩ := Control.during_eq_some acted
        exact .metricsServed _ _ now nofun
      · cases acted
  | metricsServerDisabled =>
      simp only [Control.act] at acted
      split at acted
      · cases acted
      · obtain ⟨now, rfl⟩ := Control.during_eq_some acted
        exact .metricsServed _ _ now nofun
  | metricsServerFails cause =>
      simp only [Control.act] at acted
      split at acted
      · obtain ⟨_now, rfl⟩ := Control.during_eq_some acted
        exact .returned _ _ nofun
      · cases acted
  | metricsServerEnds =>
      simp only [Control.act] at acted
      split at acted
      · cases acted
        exact .signalled _ _ _ nofun
      · cases acted
  | apiServerBuilt =>
      obtain ⟨now, rfl⟩ := Control.during_eq_some acted
      exact .apiServerBuilt now
  | serverShutsDown =>
      simp only [Control.act] at acted
      split at acted
      · obtain ⟨_now, rfl⟩ := Control.during_eq_some acted
        exact .returned _ _ nofun
      · cases acted
  | shutdownFails =>
      simp only [Control.act] at acted
      split at acted
      · obtain ⟨_now, rfl⟩ := Control.during_eq_some acted
        exact .failed _ _ nofun nofun
      · cases acted
  | signal =>
      simp only [Control.act] at acted
      split at acted
      · cases acted
        exact .killed
      · cases acted
        exact .killed
      · cases acted
        exact .signalled _ _ _ nofun
      · cases acted
        exact .signalled _ _ _ nofun
  | exits =>
      simp only [Control.act] at acted
      split at acted
      · cases acted
        exact .failed _ _ nofun nofun
      · cases acted

theorem control_effect {enableMetrics : Bool} {startup : StartupPc} {control after : Control}
    {label : ControlLabel} (stepped : control.step enableMetrics startup label = some after) :
    control.phase.over = false ∧ ControlEffect startup control label after := by
  unfold Control.step at stepped
  split at stepped
  · cases stepped
  · rename_i alive
    exact ⟨Bool.eq_false_iff.mpr alive, controlAct_effect stepped⟩

def Phase.uninformed : Phase → List Kind
  | .informers remaining => remaining
  | .cacheSync | .accessCache | .metricsServer | .apiServer | .serving => []
  | _ => cachedObjects

def Phase.built : Phase → Bool
  | .metricsServer | .apiServer | .serving => true
  | _ => false

structure ControlInvariant (control : Control) (startup : StartupPc) : Prop where
  informed : ∀ kind, kind ∈ control.informers ∨ kind ∈ control.phase.uninformed
  built : control.phase.built = true → startup = .returned none

theorem controlInvariant_initial (startup : StartupPc) :
    ControlInvariant Control.initial startup := by
  constructor
  · intro kind
    exact Or.inr (mem_cachedObjects kind)
  · intro impossible
    cases impossible

private theorem ControlInvariant.leave {after : Control} {startup : StartupPc}
    (uninformed : after.phase.uninformed = cachedObjects) (unbuilt : after.phase.built = false) :
    ControlInvariant after startup := by
  constructor
  · intro kind
    rw [uninformed]
    exact Or.inr (mem_cachedObjects kind)
  · intro built
    rw [unbuilt] at built
    cases built

private theorem ControlInvariant.keep {control after : Control} {startup : StartupPc}
    (holds : ControlInvariant control startup) (informers : after.informers = control.informers)
    (uninformed : control.phase.uninformed = after.phase.uninformed)
    (built : after.phase.built = true → startup = .returned none) :
    ControlInvariant after startup := by
  constructor
  · intro kind
    rw [informers, ← uninformed]
    exact holds.informed kind
  · exact built

theorem controlInvariant_step {startup : StartupPc} {control after : Control}
    {label : ControlLabel} (holds : ControlInvariant control startup)
    (effect : ControlEffect startup control label after) : ControlInvariant after startup := by
  cases effect with
  | helped now => exact .leave rfl rfl
  | failed _ status failing other => exact .leave rfl rfl
  | killed => exact .leave rfl rfl
  | returned _ err other => exact .leave rfl rfl
  | signalled _ context metricsServer other => exact holds.keep rfl rfl holds.built
  | prepared _ phase context other reached =>
      rcases reached with rfl | rfl | rfl | rfl | rfl <;> exact .leave rfl rfl
  | informed kind rest now =>
      constructor
      · intro other
        rcases holds.informed other with found | remaining
        · exact Or.inl (List.mem_cons_of_mem _ found)
        · rw [now] at remaining
          rcases List.mem_cons.mp remaining with same | later
          · subst same
            exact Or.inl List.mem_cons_self
          · exact Or.inr later
      · nofun
  | cacheStarted now => exact holds.keep rfl (by rw [now]; rfl) nofun
  | cacheSynced now => exact holds.keep rfl (by rw [now]; rfl) nofun
  | accessCacheBuilt now result => exact holds.keep rfl (by rw [now]; rfl) (fun _ => result)
  | metricsServed _ metricsServer now other =>
      exact holds.keep rfl (by rw [now]; rfl) (fun _ => holds.built (by rw [now]; rfl))
  | apiServerBuilt now =>
      exact holds.keep rfl (by rw [now]; rfl) (fun _ => holds.built (by rw [now]; rfl))

theorem exited_zero_iff {startup : StartupPc} {control after : Control} {label : ControlLabel}
    (alive : control.phase.over = false) (effect : ControlEffect startup control label after) :
    after.phase = .exited 0 ↔ label = .helpRequested := by
  cases effect with
  | helped now => exact ⟨fun _ => rfl, fun _ => rfl⟩
  | failed _ status failing other =>
      refine ⟨?_, fun same => absurd same other⟩
      intro exited
      cases exited
      exact absurd rfl failing
  | signalled _ context metricsServer other =>
      refine ⟨?_, fun same => absurd same other⟩
      intro exited
      change control.phase = .exited 0 at exited
      rw [exited] at alive
      cases alive
  | prepared _ phase context other reached =>
      refine ⟨?_, fun same => absurd same other⟩
      intro exited
      change phase = .exited 0 at exited
      subst exited
      rcases reached with same | same | same | same | same <;> cases same
  | returned _ err other => exact ⟨nofun, fun same => absurd same other⟩
  | metricsServed _ metricsServer now other => exact ⟨nofun, fun same => absurd same other⟩
  | _ => exact ⟨nofun, nofun⟩

/-! ### The program -/

/-- What the flags, the environment variables and the JSON encoder decide. -/
structure Settings where
  enableMetrics : Bool
  usernameHeader : GoString
  groupsHeader : GoString
  marshal : NamespaceList → Except GoString GoString

/-- The authenticator of a request, with what the token authenticator behind it
answers at that moment. -/
def Settings.authenticator (settings : Settings) (token : Authentication) : Authenticator :=
  { usernameHeader := settings.usernameHeader
    groupsHeader := settings.groupsHeader
    next := fun _ => token }

/-- Where a request stands; `seen` counts the values published when the server
accepted it. -/
inductive RequestPc where
  | idle
  | accepted (req : Request) (seen : Nat)
  | listing (req : Request) (seen : Nat) (token : Authentication) (user : AuthenticatedUser)
      (pc : ListPc)

/-- A request that has ended, with the numbers of values published when it was
accepted and when it ended.  A panic closes the connection without a response. -/
structure Outcome where
  req : Request
  seen : Nat
  token : Authentication
  ended : Nat
  reply : Except Panic Response

structure Program (rt : Runtime) (W : Type u) (Client : Type v) where
  control : Control
  system : StartupState rt W
  clients : Client → RequestPc
  outcomes : List Outcome

inductive ProgramLabel (W : Type u) (Client : Type v) where
  | control (label : ControlLabel)
  | system (label : StartupLabel W)
  | accept (client : Client) (req : Request)
  | authenticate (client : Client) (token : Authentication)
  | read (client : Client) (action : ListAction)

def StartupLabel.byStartup {W : Type u} : StartupLabel W → Bool
  | .metricsRegistered | .metricsFails _ | .register _ | .registerFails _ | .start
  | .startupSynch _ | .startupReturns => true
  | _ => false

def StartupLabel.awaitsCancel {W : Type u} : StartupLabel W → Bool
  | .workerStops | .timerStops => true
  | .startupSynch (.contextDone .canceled) | .workerSynch (.contextDone .canceled) => true
  | _ => false

def replyWith (marshal : NamespaceList → Except GoString GoString) :
    Except Panic (Option (List Namespace)) → Except Panic Response
  | .error panic => .error panic
  | .ok items =>
      match marshal { kind := "NamespaceList", apiVersion := "v1", items := items } with
      | .error err =>
          .ok
            { status := statusInternalServerError
              contentType := some "text/plain; charset=utf-8"
              body := err ++ [10] }
      | .ok b =>
          .ok
            { status := statusOK
              contentType := some "application/json;charset=utf-8"
              body := b }

def unauthorized : Response :=
  { status := statusUnauthorized
    contentType := none
    body := [] }

namespace Program

variable {rt : Runtime} {W : Type u} {Client : Type v} [DecidableEq Client]

def initial (rt : Runtime) (world : W) : Program rt W Client :=
  { control := Control.initial
    system := StartupState.initial rt world
    clients := fun _ => .idle
    outcomes := [] }

def published (state : Program rt W Client) : Nat :=
  state.system.shared.publications.length

def moveClient (state : Program rt W Client) (client : Client) (pc : RequestPc) :
    Program rt W Client :=
  { state with
    system := state.system.tick
    clients := Function.update state.clients client pc }

def finish (state : Program rt W Client) (client : Client) (req : Request) (seen : Nat)
    (token : Authentication) (reply : Except Panic Response) : Program rt W Client :=
  { state.moveClient client .idle with
    outcomes := state.outcomes ++
      [{ req := req, seen := seen, token := token, ended := state.published, reply := reply }] }

/-- `AddAuthnMiddleware`, and `ListNamespaces` up to its call of the cache. -/
def authenticate (settings : Settings) (state : Program rt W Client) (client : Client)
    (req : Request) (seen : Nat) (token : Authentication) : Program rt W Client :=
  let rs := (settings.authenticator token).authenticateRequest req
  if rs.err ≠ none ∨ rs.ok = false then state.finish client req seen token (.ok unauthorized)
  else
    match rs.response with
    | none => state.finish client req seen token (.error .nilDereference)
    | some user =>
        match subjects user.name user.groups with
        | .error panic => state.finish client req seen token (.error panic)
        | .ok keys =>
            state.moveClient client
              (.listing req seen token user (.called state.system.shared.now keys))

def step (resources : ResourceReader W) (settings : Settings) (state : Program rt W Client)
    (label : ProgramLabel W Client) : Option (Program rt W Client) :=
  if state.control.phase.over then none
  else
    match label with
    | .control label =>
        (state.control.step settings.enableMetrics state.system.startup label).map
          (fun control => { state with control := control })
    | .system label =>
        if (label.byStartup && state.control.phase != .accessCache) ||
            (label.awaitsCancel && !state.control.context.cancelled) then none
        else
          ((startupMachine resources).step state.system label).map
            (fun system => { state with system := system })
    | .accept client req =>
        match state.control.phase, state.clients client with
        | .serving, .idle => some (state.moveClient client (.accepted req state.published))
        | _, _ => none
    | .authenticate client token =>
        match state.clients client with
        | .accepted req seen => some (state.authenticate settings client req seen token)
        | _ => none
    | .read client action =>
        match state.clients client with
        | .listing req seen token user pc =>
            match listStep state.system.shared pc action with
            | none => none
            | some (next, none) =>
                some (state.moveClient client (.listing req seen token user next))
            | some (_, some answer) =>
                some (state.finish client req seen token
                  (replyWith settings.marshal answer.result))
        | _ => none

end Program

def programMachine {rt : Runtime} {W : Type u} {Client : Type v} [DecidableEq Client]
    (resources : ResourceReader W) (settings : Settings) :
    Machine (Program rt W Client) (ProgramLabel W Client) :=
  { step := Program.step resources settings }

/-! ### What a step can do -/

section Effects

variable {rt : Runtime} {W : Type u} {Client : Type v} [DecidableEq Client]
variable {resources : ResourceReader W} {settings : Settings}

def Settings.Admits (settings : Settings) (token : Authentication) (req : Request)
    (user : AuthenticatedUser) : Prop :=
  let rs := (settings.authenticator token).authenticateRequest req
  ¬(rs.err ≠ none ∨ rs.ok = false) ∧ rs.response = some user

/-- The sequential handler on an access cache. -/
def Settings.serve (settings : Settings) (order : RangeOrder Namespace) (data : AccessData)
    (token : Authentication) (req : Request) : Except Panic Response :=
  serveRequest order ⟨some data⟩ settings.marshal (settings.authenticator token) req

inductive ProgramEffect (resources : ResourceReader W) (settings : Settings)
    (state : Program rt W Client) : ProgramLabel W Client → Program rt W Client → Prop where
  | controlled (label : ControlLabel) (control : Control)
      (effect : ControlEffect state.system.startup state.control label control) :
      ProgramEffect resources settings state (.control label) { state with control := control }
  | advanced (label : StartupLabel W) (system : StartupState rt W)
      (stepped : (startupMachine resources).step state.system label = some system) :
      ProgramEffect resources settings state (.system label) { state with system := system }
  | accepted (client : Client) (req : Request) (serving : state.control.phase = .serving)
      (free : state.clients client = .idle) :
      ProgramEffect resources settings state (.accept client req)
        (state.moveClient client (.accepted req state.published))
  | turnedAway (client : Client) (req : Request) (seen : Nat) (token : Authentication)
      (reply : Except Panic Response) (now : state.clients client = .accepted req seen)
      (same : ∀ order data, settings.serve order data token req = reply) :
      ProgramEffect resources settings state (.authenticate client token)
        (state.finish client req seen token reply)
  | admitted (client : Client) (req : Request) (seen : Nat) (token : Authentication)
      (user : AuthenticatedUser) (keys : List Subject)
      (now : state.clients client = .accepted req seen)
      (admits : settings.Admits token req user)
      (parsed : subjects user.name user.groups = .ok keys) :
      ProgramEffect resources settings state (.authenticate client token)
        (state.moveClient client
          (.listing req seen token user (.called state.system.shared.now keys)))
  | readOn (client : Client) (req : Request) (seen : Nat) (token : Authentication)
      (user : AuthenticatedUser) (pc next : ListPc) (action : ListAction)
      (now : state.clients client = .listing req seen token user pc)
      (stepped : listStep state.system.shared pc action = some (next, none)) :
      ProgramEffect resources settings state (.read client action)
        (state.moveClient client (.listing req seen token user next))
  | answered (client : Client) (req : Request) (seen : Nat) (token : Authentication)
      (user : AuthenticatedUser) (pc next : ListPc) (action : ListAction) (answer : Answer)
      (now : state.clients client = .listing req seen token user pc)
      (stepped : listStep state.system.shared pc action = some (next, some answer)) :
      ProgramEffect resources settings state (.read client action)
        (state.finish client req seen token (replyWith settings.marshal answer.result))

theorem authenticate_effect (state : Program rt W Client) (client : Client) (req : Request)
    (seen : Nat) (token : Authentication) (now : state.clients client = .accepted req seen) :
    ProgramEffect resources settings state (.authenticate client token)
      (state.authenticate settings client req seen token) := by
  simp only [Program.authenticate]
  split
  · rename_i refused
    refine .turnedAway client req seen token _ now ?_
    intro order data
    simp only [Settings.serve, serveRequest, if_pos refused]
    rfl
  · rename_i passed
    have served : ∀ order data, settings.serve order data token req =
        serveListNamespaces order ⟨some data⟩ settings.marshal
          ((settings.authenticator token).authenticateRequest req).response := by
      intro order data
      simp only [Settings.serve, serveRequest, if_neg passed]
    split
    · rename_i noUser
      refine .turnedAway client req seen token _ now ?_
      intro order data
      rw [served, noUser]
      rfl
    · rename_i user response
      split
      · rename_i panic failed
        refine .turnedAway client req seen token _ now ?_
        intro order data
        rw [served, response]
        simp only [serveListNamespaces, listNamespaces, failed]
      · rename_i keys parsed
        exact .admitted client req seen token user keys now ⟨passed, response⟩ parsed

theorem programMachine_effect {state next : Program rt W Client} {label : ProgramLabel W Client}
    (stepped : (programMachine resources settings).step state label = some next) :
    state.control.phase.over = false ∧ ProgramEffect resources settings state label next := by
  change Program.step resources settings state label = some next at stepped
  unfold Program.step at stepped
  split at stepped
  · cases stepped
  rename_i alive
  refine ⟨Bool.eq_false_iff.mpr alive, ?_⟩
  cases label with
  | control label =>
      obtain ⟨control, moved, same⟩ := Option.map_eq_some_iff.mp stepped
      subst same
      exact .controlled label control (control_effect moved).2
  | system label =>
      simp only at stepped
      split at stepped
      · cases stepped
      · obtain ⟨system, moved, same⟩ := Option.map_eq_some_iff.mp stepped
        subst same
        exact .advanced label system moved
  | accept client req =>
      simp only at stepped
      split at stepped
      · rename_i serving free
        cases stepped
        exact .accepted client req serving free
      · cases stepped
  | authenticate client token =>
      simp only at stepped
      split at stepped
      · rename_i req seen now
        cases stepped
        exact authenticate_effect state client req seen token now
      · cases stepped
  | read client action =>
      simp only at stepped
      split at stepped
      · rename_i req seen token user pc now
        split at stepped
        · cases stepped
        · rename_i after moved
          cases stepped
          exact .readOn client req seen token user pc after action now moved
        · rename_i after answer moved
          cases stepped
          exact .answered client req seen token user pc after action answer now moved
      · cases stepped

theorem serve_of_listKeys {token : Authentication} {req : Request} {user : AuthenticatedUser}
    {keys : List Subject} (admits : settings.Admits token req user)
    (parsed : subjects user.name user.groups = .ok keys) (order : RangeOrder Namespace)
    (data : AccessData) :
    settings.serve order data token req =
      replyWith settings.marshal
        (AtomicListRestockCache.listKeys order (⟨some data⟩ : AccessCache) keys) := by
  obtain ⟨passed, response⟩ := admits
  simp only [Settings.serve, serveRequest, if_neg passed, response, serveListNamespaces,
    listNamespaces, parsed]
  cases AtomicListRestockCache.listKeys order (⟨some data⟩ : AccessCache) keys with
  | error panic => rfl
  | ok items => rfl

end Effects

/-! ### A small deployment -/

def tokenSettings : Settings :=
  { enableMetrics := false
    usernameHeader := []
    groupsHeader := []
    marshal := fun _ => .ok [] }

def tokenOf (username : GoString) : Authentication :=
  { response := some { name := username, groups := [] }
    ok := true
    err := none }

def startupSucceeds : List (StartupLabel Bool) :=
  startupUntilSynch 0 ++
    [ .startupSynch .compareAndSwap, .startupSynch .list, .startupSynch .computeNamespace,
      .startupSynch .restock, .startupSynch .reset, .startupReturns ]

def untilServing : List (ProgramLabel Bool Unit) :=
  [ .control .flagsParsed, .control .registryReady, .control .authenticatorBuilt,
    .control .configRead, .control .cacheBuilt, .control .informerFound,
    .control .informerFound, .control .informerFound, .control .informerFound,
    .control .informerFound, .control .cacheStarts, .control .cacheSynced ] ++
    startupSucceeds.map .system ++
    [ .control .accessCacheReturns, .control .metricsServerDisabled, .control .apiServerBuilt ]

end NamespaceLister
