/-
The metrics of the API server over concurrent requests.

`AddMetricsMiddleware` nests four instruments of promhttp around the handler: the
gauge of requests in flight innermost, then the response size, the counter and the
latency.  promhttp is not part of the program, so what its instruments do to the
collectors is a parameter, with its documented behaviour as a hypothesis: the gauge
goes down however the handler ends, and the other three record once after a return,
under the status and the size that their response writers hold.
-/

import Mathlib
import NamespaceLister.Program

namespace NamespaceLister

open Library

universe u v w

/-! ### Instruments -/

/-- The methods that the pattern `GET /api/v1/namespaces` lets through. -/
inductive Method where
  | get
  | head
deriving DecidableEq

structure Series where
  code : Nat
  method : Method
deriving DecidableEq

/-- The instruments that record after the handler, in the order in which they do. -/
inductive Observer where
  | responseSize
  | requestCounter
  | requestTiming
deriving DecidableEq

def Observer.rank : Observer → Nat
  | .responseSize => 0
  | .requestCounter => 1
  | .requestTiming => 2

def Observer.next : Observer → Option Observer
  | .responseSize => some .requestCounter
  | .requestCounter => some .requestTiming
  | .requestTiming => none

/-- What a scrape shows of a series; the sum of latencies is left to the clock. -/
inductive Measure where
  | responseSizeCount
  | responseSizeSum
  | requestCounter
  | requestTimingCount
deriving DecidableEq

def Measure.observer : Measure → Observer
  | .responseSizeCount | .responseSizeSum => .responseSize
  | .requestCounter => .requestCounter
  | .requestTimingCount => .requestTiming

structure Recorded where
  status : Nat
  written : Nat

def Measure.amount : Measure → Recorded → Nat
  | .responseSizeSum, recorded => recorded.written
  | _, _ => 1

/-- A request whose handler has returned, and the instrument that records next. -/
structure Observation where
  method : Method
  recorded : Recorded
  observer : Observer

def Observation.series (observation : Observation) : Series :=
  { code := observation.recorded.status
    method := observation.method }

def Observation.advance (observation : Observation) : Option Observation :=
  observation.observer.next.map (fun observer => { observation with observer := observer })

inductive Exit where
  | returned
  | panicked
deriving DecidableEq

def Exit.of (reply : Except Panic Response) : Exit :=
  match reply with
  | .ok _ => .returned
  | .error _ => .panicked

/-- What promhttp supplies: what its instruments do to the collectors, after which
exits of the handler they do it, and what the collectors show. -/
structure Promhttp (Collectors : Type w) where
  new : Collectors
  inFlight : Collectors → Int
  value : Measure → Series → Collectors → Nat
  inc : Collectors → Collectors
  dec : Collectors → Collectors
  decsAfter : Exit → Bool
  observe : Observation → Collectors → Collectors
  observesAfter : Exit → Bool

structure Promhttp.Lawful {Collectors : Type w} (prom : Promhttp Collectors) : Prop where
  new_inFlight : prom.inFlight prom.new = 0
  new_value : ∀ measure series, prom.value measure series prom.new = 0
  inc_inFlight : ∀ metrics, prom.inFlight (prom.inc metrics) = prom.inFlight metrics + 1
  inc_value : ∀ metrics measure series,
    prom.value measure series (prom.inc metrics) = prom.value measure series metrics
  dec_inFlight : ∀ metrics, prom.inFlight (prom.dec metrics) = prom.inFlight metrics - 1
  dec_value : ∀ metrics measure series,
    prom.value measure series (prom.dec metrics) = prom.value measure series metrics
  decsAlways : ∀ exit, prom.decsAfter exit = true
  observe_inFlight : ∀ observation metrics,
    prom.inFlight (prom.observe observation metrics) = prom.inFlight metrics
  observe_value : ∀ observation metrics measure series,
    prom.value measure series (prom.observe observation metrics) =
      prom.value measure series metrics +
        if measure.observer = observation.observer ∧ series = observation.series then
          measure.amount observation.recorded
        else 0
  observesReturns : ∀ exit, prom.observesAfter exit = true ↔ exit = .returned

/-! ### The instrumented server -/

structure Ended where
  method : Method
  recorded : Recorded
  reply : Except Panic Response

/-- The program with its metrics.  The list of ended requests is a record only. -/
structure Instrumented (rt : Runtime) (W : Type u) (Client : Type v) (Collectors : Type w) where
  program : Program rt W Client
  methods : Client → Method
  observing : Client → Option Observation
  metrics : Collectors
  ended : List Ended

/-- A step of the program says what the response writers hold if it ends a request. -/
inductive InstrumentedLabel (W : Type u) (Client : Type v) where
  | request (client : Client) (req : Request) (method : Method)
  | program (label : ProgramLabel W Client) (recorded : Recorded)
  | observe (client : Client)

def ProgramLabel.client {W : Type u} {Client : Type v} : ProgramLabel W Client → Option Client
  | .authenticate client _ => some client
  | .read client _ => some client
  | _ => none

def ProgramLabel.accepts {W : Type u} {Client : Type v} : ProgramLabel W Client → Bool
  | .accept _ _ => true
  | _ => false

section Steps

variable {rt : Runtime} {W : Type u} {Client : Type v} {Collectors : Type w}
variable [DecidableEq Client]

namespace Instrumented

def initial (rt : Runtime) (prom : Promhttp Collectors) (world : W) :
    Instrumented rt W Client Collectors :=
  { program := Program.initial rt world
    methods := fun _ => .get
    observing := fun _ => none
    metrics := prom.new
    ended := [] }

variable (prom : Promhttp Collectors) (state : Instrumented rt W Client Collectors)

def leaveHandler (program : Program rt W Client) (client : Client) (recorded : Recorded)
    (reply : Except Panic Response) : Instrumented rt W Client Collectors :=
  { state with
    program := program
    metrics := if prom.decsAfter (Exit.of reply) then prom.dec state.metrics else state.metrics
    observing :=
      if prom.observesAfter (Exit.of reply) then
        Function.update state.observing client
          (some { method := state.methods client, recorded := recorded,
                  observer := .responseSize })
      else state.observing
    ended := state.ended ++
      [{ method := state.methods client, recorded := recorded, reply := reply }] }

def follow (label : ProgramLabel W Client) (recorded : Recorded)
    (program : Program rt W Client) : Instrumented rt W Client Collectors :=
  match label.client, program.outcomes[state.program.outcomes.length]? with
  | some client, some outcome => state.leaveHandler prom program client recorded outcome.reply
  | _, _ => { state with program := program }

def step (resources : ResourceReader W) (settings : Settings) :
    InstrumentedLabel W Client → Option (Instrumented rt W Client Collectors)
  | .request client req method =>
      match state.observing client,
        (programMachine resources settings).step state.program (.accept client req) with
      | none, some program =>
          some { state with
            program := program
            methods := Function.update state.methods client method
            metrics := prom.inc state.metrics }
      | _, _ => none
  | .program label recorded =>
      if label.accepts then none
      else
        ((programMachine resources settings).step state.program label).map
          (state.follow prom label recorded)
  | .observe client =>
      match state.program.control.phase.over, state.observing client with
      | false, some observation =>
          some { state with
            observing := Function.update state.observing client observation.advance
            metrics := prom.observe observation state.metrics }
      | _, _ => none

end Instrumented

def instrumentedMachine (prom : Promhttp Collectors) (resources : ResourceReader W)
    (settings : Settings) :
    Machine (Instrumented rt W Client Collectors) (InstrumentedLabel W Client) :=
  { step := fun state label => state.step prom resources settings label }

/-! ### What a step can do -/

variable {prom : Promhttp Collectors} {resources : ResourceReader W} {settings : Settings}

def RequestPc.busy : RequestPc → Nat
  | .idle => 0
  | _ => 1

def InstrumentedLabel.plain : InstrumentedLabel W Client → List (ProgramLabel W Client)
  | .request client req _ => [.accept client req]
  | .program label _ => [label]
  | .observe _ => []

theorem follow_program (state : Instrumented rt W Client Collectors)
    (label : ProgramLabel W Client) (recorded : Recorded) (program : Program rt W Client) :
    (state.follow prom label recorded program).program = program := by
  unfold Instrumented.follow
  split
  · rfl
  · rfl

/-- The metrics only watch: without them a run is one of the program. -/
theorem instrumented_projects {state : Instrumented rt W Client Collectors}
    {world : W}
    {labels : List (InstrumentedLabel W Client)}
    (ran : (instrumentedMachine prom resources settings).run (Instrumented.initial rt prom world)
      labels = some state) :
    (programMachine resources settings).run (Program.initial rt world)
      ((instrumentedMachine prom resources settings).actions (fun _ label => label.plain)
        (Instrumented.initial rt prom world) labels) = some state.program := by
  have simulated : ∀ (current : Instrumented rt W Client Collectors)
      (label : InstrumentedLabel W Client) (reached : Instrumented rt W Client Collectors), True →
      (instrumentedMachine prom resources settings).step current label = some reached →
      (programMachine resources settings).run current.program label.plain =
        some reached.program := by
    intro current label reached _ stepped
    change current.step prom resources settings label = some reached at stepped
    cases label with
    | request client req method =>
        simp only [Instrumented.step] at stepped
        split at stepped
        · rename_i program _quiet accepted
          cases stepped
          exact (programMachine resources settings).run_singleton accepted
        · cases stepped
    | program label recorded =>
        simp only [Instrumented.step] at stepped
        split at stepped
        · cases stepped
        · obtain ⟨program, moved, same⟩ := Option.map_eq_some_iff.mp stepped
          rw [← same, follow_program]
          exact (programMachine resources settings).run_singleton moved
    | observe client =>
        simp only [Instrumented.step] at stepped
        split at stepped
        · cases stepped
          rfl
        · cases stepped
  exact (instrumentedMachine prom resources settings).run_actions (fun _ _ _ _ _ => trivial)
    simulated trivial ran

end Steps

/-! ### Accounting -/

section Accounting

variable {rt : Runtime} {W : Type u} {Client : Type v} {Collectors : Type w}
variable [DecidableEq Client]
variable {prom : Promhttp Collectors} {resources : ResourceReader W} {settings : Settings}

def Observation.owed (measure : Measure) (series : Series) : Option Observation → Nat
  | none => 0
  | some observation =>
      if observation.observer.rank ≤ measure.observer.rank ∧ series = observation.series then
        measure.amount observation.recorded
      else 0

/-- What an ended request adds in all; a panic adds nothing. -/
def due (measure : Measure) (series : Series) (ended : Ended) : Nat :=
  match ended.reply with
  | .ok _ =>
      if series = { code := ended.recorded.status, method := ended.method } then
        measure.amount ended.recorded
      else 0
  | .error _ => 0

structure Accounted [Fintype Client] (prom : Promhttp Collectors)
    (state : Instrumented rt W Client Collectors) : Prop where
  quiet : ∀ client, (state.program.clients client).busy = 1 → state.observing client = none
  gauge : prom.inFlight state.metrics = total RequestPc.busy state.program.clients
  ended : state.ended.map Ended.reply = state.program.outcomes.map Outcome.reply
  recorded : ∀ measure series,
    prom.value measure series state.metrics +
        total (Observation.owed measure series) state.observing =
      (state.ended.map (due measure series)).sum

theorem owed_fresh (measure : Measure) (series : Series) (method : Method)
    (recorded : Recorded) (response : Response) :
    Observation.owed measure series
        (some { method := method, recorded := recorded, observer := .responseSize }) =
      due measure series { method := method, recorded := recorded, reply := .ok response } := by
  simp [Observation.owed, due, Observer.rank, Observation.series]

variable [Fintype Client] {state next : Instrumented rt W Client Collectors}

/-- After a panic nothing is left to record, after a return everything. -/
private theorem leaveHandler_owed (lawful : prom.Lawful) (program : Program rt W Client)
    (client : Client) (recorded : Recorded) (reply : Except Panic Response)
    (silent : state.observing client = none) (measure : Measure) (series : Series) :
    total (Observation.owed measure series)
        (state.leaveHandler prom program client recorded reply).observing =
      total (Observation.owed measure series) state.observing +
        due measure series
          { method := state.methods client, recorded := recorded, reply := reply } := by
  cases reply with
  | error panic =>
      have ignored : prom.observesAfter (Exit.of (.error panic)) = false := by
        rw [Bool.eq_false_iff, ne_eq, lawful.observesReturns]
        nofun
      simp only [Instrumented.leaveHandler, ignored, due]
      rfl
  | ok response =>
      have noted : prom.observesAfter (Exit.of (.ok response)) = true :=
        (lawful.observesReturns _).mpr rfl
      have more := total_update (Observation.owed measure series) state.observing client
        (some { method := state.methods client, recorded := recorded,
                observer := .responseSize })
      rw [silent, owed_fresh measure series _ recorded response] at more
      simp only [Instrumented.leaveHandler, noted]
      exact more

theorem Accounted.leaveHandler (holds : Accounted prom state) (lawful : prom.Lawful)
    (program : Program rt W Client) (client : Client) (recorded : Recorded) (outcome : Outcome)
    (wasBusy : (state.program.clients client).busy = 1)
    (clients : program.clients = Function.update state.program.clients client .idle)
    (outcomes : program.outcomes = state.program.outcomes ++ [outcome]) :
    Accounted prom (state.leaveHandler prom program client recorded outcome.reply) := by
  have silent := holds.quiet client wasBusy
  have metrics : (state.leaveHandler prom program client recorded outcome.reply).metrics =
      prom.dec state.metrics := by
    simp only [Instrumented.leaveHandler, lawful.decsAlways, if_true]
  constructor
  · intro other busy
    change (program.clients other).busy = 1 at busy
    rw [clients] at busy
    by_cases same : other = client
    · subst same
      rw [Function.update_self] at busy
      cases busy
    · rw [Function.update_of_ne same] at busy
      have kept := holds.quiet other busy
      simp only [Instrumented.leaveHandler]
      split
      · rw [Function.update_of_ne same]
        exact kept
      · exact kept
  · rw [metrics, lawful.dec_inFlight]
    change _ = ((total RequestPc.busy program.clients : Nat) : Int)
    have fewer := total_update RequestPc.busy state.program.clients client .idle
    rw [← clients, wasBusy] at fewer
    have gauge := holds.gauge
    change _ = _ + 0 at fewer
    omega
  · change (state.ended ++ [_]).map Ended.reply = program.outcomes.map Outcome.reply
    rw [outcomes, List.map_append, List.map_append, holds.ended]
    rfl
  · intro measure series
    rw [metrics, lawful.dec_value,
      leaveHandler_owed lawful program client recorded outcome.reply silent, ← Nat.add_assoc,
      holds.recorded measure series]
    change _ = ((state.ended ++ [_]).map (due measure series)).sum
    rw [List.map_append, List.sum_append, List.map_singleton, List.sum_singleton]

end Accounting

/-! ### Collectors that are counted by hand -/

structure HttpMetrics where
  inFlight : Int
  value : Measure → Series → Nat

namespace HttpMetrics

def observe (observation : Observation) (metrics : HttpMetrics) : HttpMetrics :=
  { metrics with
    value := fun measure series => metrics.value measure series +
      if measure.observer = observation.observer ∧ series = observation.series then
        measure.amount observation.recorded
      else 0 }

end HttpMetrics

end NamespaceLister
