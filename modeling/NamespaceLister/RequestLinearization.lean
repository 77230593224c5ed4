/-
Requests in flight against the sequential handler.

The reply of a request is put together over many steps, while Synch publishes new
values and the process may be on its way out.  It is still the reply that the
sequential handler gives on a single published value, one that was the newest at
some moment between the acceptance of the request and its end.  No request meets
the nil pointer of a cache that was never restocked, because the server starts
after the first publication.
-/

import NamespaceLister.Program

namespace NamespaceLister

open Library

universe u v

/-! ### Startup leaves a restocked cache -/

section Stocked

variable {rt : Runtime} {W : Type u} {resources : ResourceReader W}

def SynchPc.succeeded : SynchPc rt → Bool
  | .finishing none => true
  | .returned none => true
  | _ => false

def Stocked (state : StartupState rt W) : Prop :=
  ∀ thread, (state.threads thread).succeeded = true → state.shared.publications ≠ []

private theorem synchStep_succeeded {shared after : Shared rt W} {pc next : SynchPc rt}
    {action : SynchAction} (stocked : pc.succeeded = true → shared.publications ≠ [])
    (stepped : synchStep resources shared pc action = some (after, next))
    (succeeded : next.succeeded = true) : after.publications ≠ [] := by
  cases synchStep_effect resources stepped with
  | restocked snapshot => exact List.concat_ne_nil snapshot shared.publications
  | released result =>
      cases result with
      | none => exact stocked rfl
      | some err => cases succeeded
  | _ => cases succeeded

variable {state next : StartupState rt W} {label : StartupLabel W}

theorem startupEffect_publications (effect : StartupEffect resources state label next) :
    ∃ more, next.shared.publications = state.shared.publications ++ more := by
  cases effect with
  | startupSynched action shared pc now stepped => exact synchStep_publications stepped
  | workerSynched action shared pc now stepped => exact synchStep_publications stepped
  | _ => exact ⟨[], (List.append_nil _).symm⟩

theorem startupMachine_publications
    (stepped : (startupMachine resources).step state label = some next) :
    ∃ more, next.shared.publications = state.shared.publications ++ more := by
  obtain ⟨untimed, effect, ticked⟩ := startupMachine_effect resources stepped
  subst ticked
  obtain ⟨more, publications⟩ := startupEffect_publications effect
  exact ⟨more, publications⟩

private theorem Stocked.move (stocked : Stocked state) {thread : Thread} {shared : Shared rt W}
    {pc : SynchPc rt} (grown : ∃ more, shared.publications = state.shared.publications ++ more)
    (moved : pc.succeeded = true → shared.publications ≠ []) :
    Stocked (state.moveThread thread shared pc) := by
  intro other succeeded
  by_cases same : other = thread
  · subst same
    rw [StartupState.moveThread_same] at succeeded
    exact moved succeeded
  · rw [StartupState.moveThread_other state same] at succeeded
    obtain ⟨more, publications⟩ := grown
    change shared.publications ≠ []
    rw [publications]
    exact List.append_ne_nil_of_left_ne_nil (stocked other succeeded) more

theorem stocked_initial (world : W) : Stocked (StartupState.initial rt world) := by
  intro thread impossible
  cases impossible

theorem stocked_step (stocked : Stocked state)
    (stepped : (startupMachine resources).step state label = some next) : Stocked next := by
  obtain ⟨untimed, effect, ticked⟩ := startupMachine_effect resources stepped
  subst ticked
  have unpublished : ∃ more, state.shared.publications = state.shared.publications ++ more :=
    ⟨[], (List.append_nil _).symm⟩
  cases effect with
  | startupSynched action shared pc now moved =>
      have published : Stocked (state.moveThread .startup shared pc) :=
        stocked.move (synchStep_publications moved) (synchStep_succeeded (stocked .startup) moved)
      exact published
  | workerSynched action shared pc now moved =>
      have published : Stocked (state.moveThread .worker shared pc) :=
        stocked.move (synchStep_publications moved) (synchStep_succeeded (stocked .worker) moved)
      exact published
  | started now => exact stocked.move unpublished nofun
  | dequeued requested now received =>
      have kept : Stocked (state.setRequested requested) := stocked
      exact kept.move unpublished nofun
  | workerResumed result now at_ => exact stocked.move unpublished nofun
  | _ => exact stocked

theorem startup_returned_stays {result : Option StartupError}
    (returned : state.startup = .returned result)
    (stepped : (startupMachine resources).step state label = some next) :
    next.startup = .returned result := by
  obtain ⟨untimed, effect, ticked⟩ := startupMachine_effect resources stepped
  subst ticked
  cases effect with
  | metricsRegistered now | metricsFailed _ now | registered _ _ _ now | registerFailed _ _ _ now
  | started now | startupReturned _ now =>
      rw [returned] at now
      cases now
  | _ => exact returned

theorem publications_ne_nil_of_returned (holds : StartupInvariant resources state)
    (stocked : Stocked state) (returned : state.startup = .returned none) :
    state.shared.publications ≠ [] := by
  have fits := holds.wired.fits
  rw [returned] at fits
  change state.threads .startup = .returned none at fits
  refine stocked .startup ?_
  rw [fits]
  rfl

theorem startupInvariant_tick (holds : StartupInvariant resources state) :
    StartupInvariant resources state.tick := by
  have later : ∀ time, time < state.shared.now → time < state.shared.now + 1 :=
    fun _ past => Nat.lt_succ_of_lt past
  exact
    { exclusive := holds.exclusive.of_same_inside rfl (fun _ => rfl)
      chronological :=
        holds.chronological.frame rfl rfl rfl rfl (Nat.le_succ _) (fun _ _ _ pc => pc)
      wired := ⟨holds.wired.fits, holds.wired.unstarted, holds.wired.resting, holds.wired.watched⟩
      timed :=
        { pending := fun announced member time atTime =>
            later time (holds.timed.pending announced member time atTime)
          notified := fun time member => later time (holds.timed.notified time member)
          requested := fun time member => later time (holds.timed.requested time member) } }

end Stocked

/-! ### Requests in progress -/

section Requests

variable {rt : Runtime} {W : Type u} {settings : Settings}

/-- The reader works for a call with these keys and has loaded no value that was
outdated when the request was accepted. -/
def ListPc.WorksFor (seen : Nat) (keys : List Subject) : ListPc → Prop
  | .idle => False
  | .called _ given => given = keys
  | .single _ version _ key => [key] = keys ∧ seen ≤ version
  | .several _ version _ given _ _ => given = keys ∧ seen ≤ version

private theorem answered_since {answer : Answer} {keys : List Subject} {seen version : Nat}
    (sameKeys : answer.keys = keys) (loaded : answer.version = some version)
    (since : seen ≤ version) :
    ∀ given ∈ some answer, given.keys = keys ∧ ∀ other ∈ given.version, seen ≤ other := by
  intro given atGiven
  cases atGiven
  refine ⟨sameKeys, ?_⟩
  intro other atOther
  rw [loaded] at atOther
  cases atOther
  exact since

theorem listStep_worksFor {shared : Shared rt W} {pc next : ListPc} {action : ListAction}
    {answer : Option Answer} {seen : Nat} {keys : List Subject}
    (recent : seen ≤ shared.publications.length) (works : pc.WorksFor seen keys)
    (stepped : listStep shared pc action = some (next, answer)) :
    (answer = none → next.WorksFor seen keys) ∧
      ∀ given ∈ answer, given.keys = keys ∧ ∀ version ∈ given.version, seen ≤ version := by
  unfold listStep at stepped
  split at stepped
  · cases stepped
    refine ⟨nofun, ?_⟩
    intro given atGiven
    cases atGiven
    exact ⟨works, fun _ atVersion => by cases atVersion⟩
  · cases stepped
    exact ⟨fun _ => ⟨works, recent⟩, fun _ atGiven => by cases atGiven⟩
  · cases stepped
    exact ⟨fun _ => ⟨works, recent⟩, fun _ atGiven => by cases atGiven⟩
  · cases stepped
    exact ⟨nofun, answered_since works.1 rfl works.2⟩
  · cases stepped
    exact ⟨nofun, answered_since works.1 rfl works.2⟩
  · cases stepped
    exact ⟨fun _ => works, fun _ atGiven => by cases atGiven⟩
  · cases stepped
    exact ⟨nofun, answered_since works.1 rfl works.2⟩
  · cases stepped

def RequestPc.Sound (settings : Settings) (shared : Shared rt W) : RequestPc → Prop
  | .idle => True
  | .accepted _ seen => 0 < seen ∧ seen ≤ shared.publications.length
  | .listing req seen token user pc =>
      (0 < seen ∧ seen ≤ shared.publications.length) ∧
        settings.Admits token req user ∧ pc.consistent shared.publications shared.now [] ∧
        ∃ keys, subjects user.name user.groups = .ok keys ∧ pc.WorksFor seen keys

theorem RequestPc.Sound.later {shared after : Shared rt W} {pc : RequestPc}
    (sound : pc.Sound settings shared) (clock : after.now = shared.now + 1)
    (grown : ∃ more, after.publications = shared.publications ++ more) :
    pc.Sound settings after := by
  obtain ⟨more, publications⟩ := grown
  have longer : shared.publications.length ≤ after.publications.length := by
    rw [publications, List.length_append]
    omega
  cases pc with
  | idle => trivial
  | accepted req seen => exact ⟨sound.1, Nat.le_trans sound.2 longer⟩
  | listing req seen token user pc =>
      obtain ⟨⟨positive, recent⟩, admits, consistent, works⟩ := sound
      refine ⟨⟨positive, Nat.le_trans recent longer⟩, admits, ?_, works⟩
      rw [clock, publications]
      exact ListPc.consistent_append consistent more

/-- The reply is that of the sequential handler on one published value, the newest
one at some moment between acceptance and end. -/
def Outcome.Linearizes (settings : Settings) (publications : List (Snapshot rt))
    (outcome : Outcome) : Prop :=
  ∃ index value, publications[index]? = some value ∧
    outcome.seen ≤ index + 1 ∧ index + 1 ≤ outcome.ended ∧
    ∃ order, outcome.reply = settings.serve order value.data outcome.token outcome.req

theorem Outcome.Linearizes.later {publications : List (Snapshot rt)} {outcome : Outcome}
    (linearizes : outcome.Linearizes settings publications) (more : List (Snapshot rt)) :
    outcome.Linearizes settings (publications ++ more) := by
  obtain ⟨index, value, found, rest⟩ := linearizes
  refine ⟨index, value, ?_, rest⟩
  obtain ⟨inside, _⟩ := List.getElem?_eq_some_iff.mp found
  rw [List.getElem?_append_left inside]
  exact found

private theorem pointerAt_pos {publications : List (Snapshot rt)} {version : Nat}
    (positive : 0 < version) (past : version ≤ publications.length) :
    ∃ index value, index + 1 = version ∧ publications[index]? = some value ∧
      pointerAt publications version = some value.data := by
  obtain ⟨index, rfl⟩ := Nat.exists_eq_succ_of_ne_zero (Nat.ne_of_gt positive)
  have inside : index < publications.length := past
  refine ⟨index, publications[index], rfl, List.getElem?_eq_getElem inside, ?_⟩
  unfold pointerAt
  rw [List.take_succ_eq_append_getElem inside, List.getLast?_concat]
  rfl

theorem subjects_ne_nil {username : GoString} {groups : List GoString} {keys : List Subject}
    (parsed : subjects username groups = .ok keys) : keys ≠ [] := by
  unfold subjects at parsed
  split at parsed
  · cases parsed
  · cases parsed
    exact List.cons_ne_nil _ _

theorem linearizes_of_answered {shared : Shared rt W} {req : Request} {seen : Nat}
    {token : Authentication} {user : AuthenticatedUser} {pc next : ListPc} {action : ListAction}
    {answer : Answer}
    (latest : shared.cache.accessCache.data = shared.publications.getLast?.map Snapshot.data)
    (sound : (RequestPc.listing req seen token user pc).Sound settings shared)
    (stepped : listStep shared pc action = some (next, some answer)) :
    Outcome.Linearizes settings shared.publications
      { req := req
        seen := seen
        token := token
        ended := shared.publications.length
        reply := replyWith settings.marshal answer.result } := by
  obtain ⟨⟨positive, recent⟩, admits, consistent, keys, parsed, works⟩ := sound
  have given := (listStep_consistent latest (List.forall_mem_nil _) consistent stepped).2 answer rfl
  obtain ⟨sameKeys, notOutdated⟩ := (listStep_worksFor recent works stepped).2 answer rfl
  have from_ := given.fromOne
  unfold Answer.fromOne at from_
  cases loaded : answer.version with
  | none =>
      rw [loaded, sameKeys] at from_
      exact absurd from_.1 (subjects_ne_nil parsed)
  | some version =>
      rw [loaded] at from_
      obtain ⟨past, result⟩ := from_
      have since : seen ≤ version := notOutdated version loaded
      obtain ⟨index, value, shape, found, pointer⟩ :=
        pointerAt_pos (Nat.lt_of_lt_of_le positive since) past
      refine ⟨index, value, found, ?_, ?_, answer.order, ?_⟩
      · rw [shape]
        exact since
      · rw [shape]
        exact past
      · rw [serve_of_listKeys admits parsed, result, pointer, sameKeys]

end Requests

/-! ### Every run -/

section Runs

variable {rt : Runtime} {W : Type u} {Client : Type v} [DecidableEq Client]
variable {resources : ResourceReader W} {settings : Settings}
variable {state next : Program rt W Client} {label : ProgramLabel W Client}

structure ProgramInvariant (resources : ResourceReader W) (settings : Settings)
    (state : Program rt W Client) : Prop where
  system : StartupInvariant resources state.system
  stocked : Stocked state.system
  control : ControlInvariant state.control state.system.startup
  requests : ∀ client, (state.clients client).Sound settings state.system.shared
  outcomes : ∀ outcome ∈ state.outcomes,
    outcome.Linearizes settings state.system.shared.publications

omit [DecidableEq Client] in
theorem programInvariant_initial (resources : ResourceReader W) (settings : Settings) (world : W) :
    ProgramInvariant resources settings (Program.initial rt world : Program rt W Client) :=
  { system := startupInvariant_initial resources world
    stocked := stocked_initial world
    control := controlInvariant_initial _
    requests := fun _ => trivial
    outcomes := nofun }

omit [DecidableEq Client] in
theorem ProgramInvariant.published_pos (holds : ProgramInvariant resources settings state)
    (built : state.control.phase.built = true) : 0 < state.published :=
  List.length_pos_of_ne_nil
    (publications_ne_nil_of_returned holds.system holds.stocked (holds.control.built built))

private theorem ProgramInvariant.moveClient (holds : ProgramInvariant resources settings state)
    (client : Client) (pc : RequestPc)
    (sound : pc.Sound settings state.system.tick.shared) :
    ProgramInvariant resources settings (state.moveClient client pc) :=
  { system := startupInvariant_tick holds.system
    stocked := holds.stocked
    control := holds.control
    requests := by
      intro other
      by_cases same : other = client
      · subst same
        change (Function.update state.clients other pc other).Sound _ _
        rw [Function.update_self]
        exact sound
      · change (Function.update state.clients client pc other).Sound _ _
        rw [Function.update_of_ne same]
        exact (holds.requests other).later rfl ⟨[], (List.append_nil _).symm⟩
    outcomes := holds.outcomes }

private theorem ProgramInvariant.finish (holds : ProgramInvariant resources settings state)
    (client : Client) {req : Request} {seen : Nat} {token : Authentication}
    {reply : Except Panic Response}
    (linearizes : Outcome.Linearizes settings state.system.shared.publications
      { req := req, seen := seen, token := token, ended := state.published, reply := reply }) :
    ProgramInvariant resources settings (state.finish client req seen token reply) := by
  have moved := holds.moveClient client .idle trivial
  exact
    { system := moved.system
      stocked := moved.stocked
      control := moved.control
      requests := moved.requests
      outcomes := by
        intro outcome member
        rcases List.mem_append.mp member with old | fresh
        · exact holds.outcomes outcome old
        · rw [List.mem_singleton.mp fresh]
          exact linearizes }

private theorem linearizes_of_turnedAway {req : Request} {seen : Nat} {token : Authentication}
    {reply : Except Panic Response} {shared : Shared rt W}
    (sound : (RequestPc.accepted req seen).Sound settings shared)
    (same : ∀ order data, settings.serve order data token req = reply) :
    Outcome.Linearizes settings shared.publications
      { req := req
        seen := seen
        token := token
        ended := shared.publications.length
        reply := reply } := by
  obtain ⟨positive, recent⟩ := sound
  obtain ⟨index, value, shape, found, _pointer⟩ := pointerAt_pos positive recent
  refine ⟨index, value, found, ?_, ?_, RangeOrder.asKept Namespace, (same _ _).symm⟩
  · exact Nat.le_of_eq shape.symm
  · rw [shape]
    exact recent

theorem programInvariant_step (holds : ProgramInvariant resources settings state)
    (stepped : (programMachine resources settings).step state label = some next) :
    ProgramInvariant resources settings next := by
  cases (programMachine_effect stepped).2 with
  | controlled label control effect =>
      exact
        { system := holds.system
          stocked := holds.stocked
          control := controlInvariant_step holds.control effect
          requests := holds.requests
          outcomes := holds.outcomes }
  | advanced label system moved =>
      have grown := startupMachine_publications moved
      exact
        { system := startupInvariant_step holds.system moved
          stocked := stocked_step holds.stocked moved
          control :=
            { informed := holds.control.informed
              built := fun built => startup_returned_stays (holds.control.built built) moved }
          requests := fun client =>
            (holds.requests client).later (startupMachine_now moved) grown
          outcomes := by
            intro outcome member
            obtain ⟨more, publications⟩ := grown
            change outcome.Linearizes settings system.shared.publications
            rw [publications]
            exact (holds.outcomes outcome member).later more }
  | accepted client req serving free =>
      refine holds.moveClient client _ ⟨?_, Nat.le_refl _⟩
      exact holds.published_pos (by rw [serving]; rfl)
  | turnedAway client req seen token reply now same =>
      have sound := holds.requests client
      rw [now] at sound
      exact holds.finish client (linearizes_of_turnedAway sound same)
  | admitted client req seen token user keys now admits parsed =>
      have sound := holds.requests client
      rw [now] at sound
      exact holds.moveClient client _
        ⟨sound, admits, Nat.lt_succ_self _, keys, parsed, rfl⟩
  | readOn client req seen token user pc after action now moved =>
      have sound := holds.requests client
      rw [now] at sound
      obtain ⟨⟨positive, recent⟩, admits, consistent, keys, parsed, works⟩ := sound
      have kept := (listStep_consistent holds.system.chronological.latest
        (List.forall_mem_nil _) consistent moved).1
      exact holds.moveClient client _
        ⟨⟨positive, recent⟩, admits, ListPc.consistent_tick kept [] (List.forall_mem_nil _), keys,
          parsed, (listStep_worksFor recent works moved).1 rfl⟩
  | answered client req seen token user pc after action answer now moved =>
      have sound := holds.requests client
      rw [now] at sound
      exact holds.finish client
        (linearizes_of_answered holds.system.chronological.latest sound moved)

theorem programInvariant_run (world : W) {labels : List (ProgramLabel W Client)}
    (ran : (programMachine resources settings).run (Program.initial rt world) labels =
      some state) :
    ProgramInvariant resources settings state := by
  apply (programMachine resources settings).invariant_run _
    (programInvariant_initial resources settings world)
    ((programMachine resources settings).along_of_forall (fun _ _ _ => trivial) _) ran
  intro before label after invariant _always stepped
  exact programInvariant_step invariant stepped

/-- In every run of the program, with any number of requests in flight while the
worker publishes, every reply is the one the sequential handler gives on a single
published value, and that value was the newest at some moment between the
acceptance of the request and its end. -/
theorem requests_linearize (resources : ResourceReader W) (settings : Settings) (world : W)
    (labels : List (ProgramLabel W Client)) (state : Program rt W Client)
    (ran : (programMachine resources settings).run (Program.initial rt world) labels =
      some state)
    (outcome : Outcome) (ended : outcome ∈ state.outcomes) :
    ∃ index value, state.system.shared.publications[index]? = some value ∧
      outcome.seen ≤ index + 1 ∧ index + 1 ≤ outcome.ended ∧
      ∃ order, outcome.reply =
        serveRequest order ⟨some value.data⟩ settings.marshal
          (settings.authenticator outcome.token) outcome.req :=
  (programInvariant_run world ran).outcomes outcome ended

end Runs

/-- The worker publishes between the load and the lookup of a request. -/
private def overtaken : List (ProgramLabel Bool Unit) :=
  untilServing ++
    [ .accept () ⟨∅⟩, .authenticate () (tokenOf "alice"), .read () .load, .system .timerFires,
      .system .dequeue, .system (.workerSynch .compareAndSwap), .system (.workerSynch .list),
      .system (.workerSynch .computeNamespace), .system (.workerSynch .restock),
      .read () .lookup ]

theorem requests_linearize_overtaken :
    ∃ state : Program Runtime.reference Bool Unit,
      (programMachine oneTenant tokenSettings).run
        (Program.initial Runtime.reference true) overtaken = some state ∧
      ∃ outcome ∈ state.outcomes,
        (outcome.seen = 1 ∧ outcome.ended = 2 ∧ outcome.token = tokenOf "alice") ∧
        ∃ index value, state.system.shared.publications[index]? = some value ∧
          outcome.seen ≤ index + 1 ∧ index + 1 ≤ outcome.ended ∧
          ∃ order, outcome.reply =
            serveRequest order ⟨some value.data⟩ tokenSettings.marshal
              (tokenSettings.authenticator outcome.token) outcome.req := by
  refine ⟨_, rfl, _, List.mem_singleton_self _, ⟨rfl, rfl, rfl⟩, ?_⟩
  exact requests_linearize oneTenant tokenSettings true overtaken _ rfl _
    (List.mem_singleton_self _)

/-! ### Panics -/

section Panics

variable {settings : Settings}

/-- The token authenticator does not pass a request without a user. -/
def Authentication.Proper (token : Authentication) : Prop :=
  token.err = none → token.ok = true → token.response ≠ none

theorem Settings.Admits.unique {token : Authentication} {req : Request}
    {first second : AuthenticatedUser} (admitsFirst : settings.Admits token req first)
    (admitsSecond : settings.Admits token req second) : first = second :=
  Option.some.inj (admitsFirst.2.symm.trans admitsSecond.2)

theorem Authentication.Proper.refused_or_admitted {token : Authentication} (proper : token.Proper)
    (settings : Settings) (req : Request) :
    (∀ order data, settings.serve order data token req = .ok unauthorized) ∧
        (∀ user, ¬settings.Admits token req user) ∨
      ∃ user, settings.Admits token req user := by
  by_cases refused : ((settings.authenticator token).authenticateRequest req).err ≠ none ∨
      ((settings.authenticator token).authenticateRequest req).ok = false
  · left
    constructor
    · intro order data
      simp only [Settings.serve, serveRequest, if_pos refused]
      rfl
    · intro user admits
      exact admits.1 refused
  · right
    have response :
        ((settings.authenticator token).authenticateRequest req).response ≠ none := by
      have passed := refused
      unfold Authenticator.authenticateRequest at passed ⊢
      split
      · exact Option.some_ne_none _
      · rename_i noHeader
        rw [if_neg noHeader] at passed
        rw [not_or, not_not, Bool.not_eq_false] at passed
        exact proper passed.1 passed.2
    obtain ⟨user, found⟩ := Option.ne_none_iff_exists'.mp response
    exact ⟨user, refused, found⟩

theorem serve_unnamed {token : Authentication} {req : Request} {user : AuthenticatedUser}
    (admits : settings.Admits token req user) (unnamed : ¬namedServiceAccount user.name)
    (order : RangeOrder Namespace) (data : AccessData) :
    settings.serve order data token req = .error (.indexOutOfRange 3 3) := by
  unfold namedServiceAccount at unnamed
  simp only [not_forall] at unnamed
  obtain ⟨rest, shape, absent⟩ := unnamed
  have failed := parseUsername_unnamed rest absent
  rw [← shape] at failed
  simp only [Settings.serve, serveRequest, if_neg admits.1, admits.2, serveListNamespaces,
    listNamespaces, subjects, failed]

theorem serve_named {token : Authentication} {req : Request} {user : AuthenticatedUser}
    (admits : settings.Admits token req user) (named : namedServiceAccount user.name)
    (order : RangeOrder Namespace) (data : AccessData) :
    ∃ response, settings.serve order data token req = .ok response := by
  obtain ⟨sub, parsed⟩ := (parseUsername_ok_iff user.name).mpr named
  have keys : subjects user.name user.groups = .ok (sub :: user.groups.map groupSubject) := by
    simp only [subjects, parsed]
  obtain ⟨items, listed, _ids⟩ := AtomicListRestockCache.listKeys_ids order
    (⟨some data⟩ : AccessCache) data rfl (sub :: user.groups.map groupSubject)
  rw [serve_of_listKeys admits keys, listed]
  unfold replyWith
  split
  · rename_i panic impossible
    cases impossible
  · split
    · exact ⟨_, rfl⟩
    · exact ⟨_, rfl⟩

theorem serve_error_iff {token : Authentication} (proper : token.Proper)
    (order : RangeOrder Namespace) (data : AccessData) (req : Request) (panic : Panic) :
    settings.serve order data token req = .error panic ↔
      panic = .indexOutOfRange 3 3 ∧
        ∃ user, settings.Admits token req user ∧ ¬namedServiceAccount user.name := by
  rcases proper.refused_or_admitted settings req with ⟨refused, nobody⟩ | ⟨user, admits⟩
  · rw [refused]
    constructor
    · nofun
    · intro unnamed
      obtain ⟨_, user, admits, _⟩ := unnamed
      exact absurd admits (nobody user)
  · by_cases named : namedServiceAccount user.name
    · obtain ⟨response, served⟩ := serve_named admits named order data
      rw [served]
      constructor
      · nofun
      · intro unnamed
        obtain ⟨_, other, admitsOther, otherUnnamed⟩ := unnamed
        rw [admitsOther.unique admits] at otherUnnamed
        exact absurd named otherUnnamed
    · rw [serve_unnamed admits named order data, Except.error.injEq]
      constructor
      · intro same
        exact ⟨same.symm, user, admits, named⟩
      · intro unnamed
        exact unnamed.1.symm

end Panics

section Runs

variable {rt : Runtime} {W : Type u} {Client : Type v} [DecidableEq Client]

/-- In every run a request ends in a panic exactly when its authenticated user is
a service account without a name, and the panic is then the read of a fourth
segment; the nil pointer of an unfilled cache is never followed. -/
theorem request_panics_iff (resources : ResourceReader W) (settings : Settings) (world : W)
    (labels : List (ProgramLabel W Client)) (state : Program rt W Client)
    (ran : (programMachine resources settings).run (Program.initial rt world) labels =
      some state)
    (outcome : Outcome) (ended : outcome ∈ state.outcomes) (proper : outcome.token.Proper)
    (panic : Panic) :
    outcome.reply = .error panic ↔
      panic = .indexOutOfRange 3 3 ∧
        ∃ user, settings.Admits outcome.token outcome.req user ∧
          ¬namedServiceAccount user.name := by
  obtain ⟨_index, value, _found, _since, _until, order, reply⟩ :=
    (programInvariant_run world ran).outcomes outcome ended
  rw [reply]
  exact serve_error_iff proper order value.data outcome.req panic

private def unnamedAccount : List (ProgramLabel Bool Unit) :=
  untilServing ++
    [.accept () ⟨∅⟩, .authenticate () (tokenOf "system:serviceaccount:team-a")]

theorem request_panics_iff_unnamed :
    ∃ state : Program Runtime.reference Bool Unit,
      (programMachine oneTenant tokenSettings).run
        (Program.initial Runtime.reference true) unnamedAccount = some state ∧
      ∃ outcome ∈ state.outcomes,
        ∃ user, tokenSettings.Admits outcome.token outcome.req user ∧
          ¬namedServiceAccount user.name := by
  refine ⟨_, rfl, _, List.mem_singleton_self _, ?_⟩
  have panicked := @request_panics_iff Runtime.reference Bool Unit _ oneTenant tokenSettings true
    unnamedAccount _ rfl _ (List.mem_singleton_self _) (fun _ _ => Option.some_ne_none _)
    (.indexOutOfRange 3 3)
  exact (panicked.mp rfl).2

/-! ### Readiness -/

def ExitsOnHelp (labels : List (ProgramLabel W Client)) (state : Program rt W Client) : Prop :=
  state.control.phase = .exited 0 ↔ .control .helpRequested ∈ labels

theorem exitsOnHelp_step {resources : ResourceReader W} {settings : Settings}
    {labels : List (ProgramLabel W Client)} {state next : Program rt W Client}
    {label : ProgramLabel W Client} (exits : ExitsOnHelp labels state)
    (stepped : (programMachine resources settings).step state label = some next) :
    ExitsOnHelp (labels ++ [label]) next := by
  obtain ⟨alive, effect⟩ := programMachine_effect stepped
  have unhelped : ProgramLabel.control .helpRequested ∉ labels := by
    intro helped
    rw [exits.mpr helped] at alive
    cases alive
  have running : state.control.phase ≠ .exited 0 := fun gone => unhelped (exits.mp gone)
  unfold ExitsOnHelp
  rw [List.mem_append, List.mem_singleton, or_iff_right unhelped]
  cases effect with
  | controlled label control effect =>
      rw [ProgramLabel.control.injEq]
      exact (exited_zero_iff alive effect).trans eq_comm
  | _ => exact ⟨fun gone => absurd gone running, nofun⟩

omit [DecidableEq Client] in
theorem exitsOnHelp_initial (world : W) :
    ExitsOnHelp [] (Program.initial rt world : Program rt W Client) := by
  constructor
  · intro exited
    cases exited
  · intro helped
    cases helped

theorem exitsOnHelp_run {resources : ResourceReader W} {settings : Settings} (world : W)
    {labels : List (ProgramLabel W Client)} {state : Program rt W Client}
    (ran : (programMachine resources settings).run (Program.initial rt world) labels =
      some state) :
    ExitsOnHelp labels state :=
  (programMachine resources settings).history_run
    (fun _ _ _ _ exits _always stepped => exitsOnHelp_step exits stepped)
    (exitsOnHelp_initial world)
    ((programMachine resources settings).along_of_forall (fun _ _ _ => trivial) _) ran

/-- Whenever the server listens, and so whenever a readiness probe succeeds, the
cache holds the newest published value, and every watched kind has an informer
and a registered handler.  The process exits with status zero exactly when it was
asked for help. -/
theorem serving_is_ready (resources : ResourceReader W) (settings : Settings) (world : W)
    (labels : List (ProgramLabel W Client)) (state : Program rt W Client)
    (ran : (programMachine resources settings).run (Program.initial rt world) labels =
      some state) :
    (state.control.phase = .serving →
      (∃ value, state.system.shared.publications.getLast? = some value ∧
        state.system.shared.cache.accessCache.data = some value.data) ∧
      ∀ kind, kind ∈ state.control.informers ∧ kind ∈ state.system.registered) ∧
    (state.control.phase = .exited 0 ↔ .control .helpRequested ∈ labels) := by
  have holds := programInvariant_run world ran
  refine ⟨?_, exitsOnHelp_run world ran⟩
  intro serving
  have returned := holds.control.built (by rw [serving]; rfl)
  constructor
  · have stocked := publications_ne_nil_of_returned holds.system holds.stocked returned
    refine ⟨_, List.getLast?_eq_getLast_of_ne_nil stocked, ?_⟩
    rw [holds.system.chronological.latest, List.getLast?_eq_getLast_of_ne_nil stocked]
    rfl
  · intro kind
    constructor
    · rcases holds.control.informed kind with found | missing
      · exact found
      · rw [serving] at missing
        cases missing
    · rcases holds.system.wired.watched kind with found | missing
      · exact found
      · rw [returned] at missing
        cases missing

theorem serving_is_ready_oneTenant :
    ∃ state : Program Runtime.reference Bool Unit,
      (programMachine oneTenant tokenSettings).run
        (Program.initial Runtime.reference true) untilServing = some state ∧
      state.control.phase = .serving ∧
      ∃ value, state.system.shared.publications.getLast? = some value ∧
        state.system.shared.cache.accessCache.data = some value.data := by
  refine ⟨_, rfl, rfl, ?_⟩
  have ready := @serving_is_ready Runtime.reference Bool Unit _ oneTenant tokenSettings true
    untilServing _ rfl
  exact (ready.1 rfl).1

end Runs

end NamespaceLister
