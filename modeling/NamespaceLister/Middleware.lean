/-
The handler and its middlewares, down to the calls of the response writer.

The writer belongs to net/http, and promhttp wraps it; both are parameters, with
what their documentation says of a fresh response as a hypothesis.  Of the body a
connection takes a part: all of it, nothing for a HEAD request, or what came before
a failure.  The chain is compared with `serveRequest`, which gives the response as
a value.
-/

import NamespaceLister.RequestPath

namespace NamespaceLister

open Library

universe u

/-! ### The response writer -/

inductive HandlerPanic where
  | runtime (panic : Panic)
  | interfaceConversion
  | invalidWriteHeaderCode (code : Int)
deriving DecidableEq

/-- What net/http supplies: the calls of a response writer, `http.Error`, what the
client has been sent, and which part of a text the connection takes, with the error
of the write. -/
structure NetHttp (Writer : Type u) where
  new : Writer
  addContentType : GoString → Writer → Writer
  writeHeader : Int → Writer → Except HandlerPanic Writer
  write : GoString → Writer → Writer × Option GoString
  httpError : GoString → Int → Writer → Except HandlerPanic Writer
  sent : Writer → Option (Int × Option GoString)
  body : Writer → GoString
  taken : GoString → GoString × Option GoString

structure NetHttp.Lawful {Writer : Type u} (net : NetHttp Writer) : Prop where
  new_sent : net.sent net.new = none
  taken_nil : (net.taken []).1 = []
  writeHeader_new : ∀ code, 400 ≤ code → code ≤ 599 →
    ∃ w, net.writeHeader code net.new = .ok w ∧ net.sent w = some (code, none) ∧ net.body w = []
  httpError_new : ∀ message code, 400 ≤ code → code ≤ 599 →
    ∃ w, net.httpError message code net.new = .ok w ∧
      net.sent w = some (code, some (GoString.ofLiteral "text/plain; charset=utf-8")) ∧
      -- the text is followed by a newline
      net.body w = (net.taken (message ++ [10])).1
  write_new : ∀ contentType data,
    let written := net.write data (net.addContentType contentType net.new)
    net.sent written.1 = some (200, some contentType) ∧
      net.body written.1 = (net.taken data).1 ∧ written.2 = (net.taken data).2
  /-- A second `WriteHeader` is superfluous. -/
  writeHeader_sent : ∀ code w, net.sent w ≠ none →
    ∃ after, net.writeHeader code w = .ok after ∧ net.sent after = net.sent w ∧
      net.body after = net.body w

/-! ### Log lines -/

inductive LineLevel where
  | debug
  | info
  | error
deriving DecidableEq

def LineLevel.value : LineLevel → Int
  | .debug => -4
  | .info => 0
  | .error => 8

/-- `GetLogLevel`, with `strconv.Atoi` as a parameter. -/
def getLogLevel (atoi : GoString → Except GoString Int) (env : GoString) : Int :=
  match atoi env with
  | .error _ => LineLevel.error.value
  | .ok level => level

/-- The logger that the middlewares extend; lines below its level are dropped. -/
structure Logger where
  level : Int
  correlationId : Option GoString

def buildLogger (level : Int) : Logger :=
  { level := level
    correlationId := none }

structure LogLine where
  level : LineLevel
  message : GoString
  correlationId : Option GoString
  error : Option GoString
deriving DecidableEq

/-- The two values of the context; without a logger all lines are discarded. -/
structure RequestContext where
  logger : Option Logger
  userDetails : Option (Option AuthenticatedUser)

def RequestContext.background : RequestContext :=
  { logger := none
    userDetails := none }

/-- A request being served.  A panic unwinds to net/http; what was logged stays. -/
structure Exchange (Writer : Type u) where
  writer : Writer
  log : List LogLine
  panic : Option HandlerPanic
deriving DecidableEq

namespace Exchange

variable {Writer : Type u}

def new (net : NetHttp Writer) : Exchange Writer :=
  { writer := net.new
    log := []
    panic := none }

def andThen (x : Exchange Writer) (next : Exchange Writer → Exchange Writer) : Exchange Writer :=
  if x.panic = none then next x else x

def fail (x : Exchange Writer) (panic : HandlerPanic) : Exchange Writer :=
  { x with panic := some panic }

def call (act : Writer → Except HandlerPanic Writer) (x : Exchange Writer) : Exchange Writer :=
  match act x.writer with
  | .error panic => x.fail panic
  | .ok writer => { x with writer := writer }

end Exchange

def RequestContext.log {Writer : Type u} (ctx : RequestContext) (level : LineLevel)
    (message : GoString) (error : Option GoString) (x : Exchange Writer) : Exchange Writer :=
  match ctx.logger with
  | none => x
  | some logger =>
      if logger.level ≤ level.value then
        { x with
          log := x.log ++
            [{ level := level, message := message, correlationId := logger.correlationId,
               error := error }] }
      else x

abbrev Handler (Writer : Type u) :=
  RequestContext → Request → Exchange Writer → Exchange Writer

/-! ### The handler -/

inductive ListError where
  | status (code : Int) (message : GoString)
  | other (message : GoString)

abbrev Lister := GoString → List GoString → Except HandlerPanic (Except ListError NamespaceList)

section Handlers

variable {Writer : Type u} (net : NetHttp Writer)

def writeReply (ctx : RequestContext) (data : GoString) (x : Exchange Writer) :
    Exchange Writer :=
  match net.write data x.writer with
  | (writer, none) => { x with writer := writer }
  | (writer, some err) =>
      (ctx.log .error "error writing reply" (some err) { x with writer := writer }).call
        (net.writeHeader statusInternalServerError)

def listNamespacesHandler (lister : Lister)
    (marshal : NamespaceList → Except GoString GoString) : Handler Writer := fun ctx _ x =>
  match ctx.userDetails with
  | none => x.fail .interfaceConversion
  | some none => x.fail (.runtime .nilDereference)
  | some (some user) =>
      match lister user.name user.groups with
      | .error panic => x.fail panic
      | .ok (.error (.status code message)) => x.call (net.httpError message code)
      | .ok (.error (.other message)) =>
          x.call (net.httpError message statusInternalServerError)
      | .ok (.ok nn) =>
          match marshal nn with
          | .error err => x.call (net.httpError err statusInternalServerError)
          | .ok b =>
              writeReply net ctx b
                { x with
                  writer := net.addContentType "application/json;charset=utf-8" x.writer }

/-! ### The middlewares -/

def addLogRequestMiddleware (next : Handler Writer) : Handler Writer := fun ctx req x =>
  (next ctx req x).andThen (ctx.log .info "request processed" none)

def addAuthnMiddleware (ar : Authenticator) (next : Handler Writer) : Handler Writer :=
  fun ctx req x =>
    let rs := ar.authenticateRequest req
    match rs.err with
    | some err =>
        (x.call (net.writeHeader statusUnauthorized)).andThen
          (ctx.log .error "error authenticating request" (some err))
    | none =>
        if rs.ok = false then x.call (net.writeHeader statusUnauthorized)
        else
          next { ctx with userDetails := some rs.response } req
            (ctx.log .debug "request authenticated" none x)

def correlationId (uuid : GoString) (req : Request) : GoString :=
  if req.get "X-Correlation-ID" ≠ [] then req.get "X-Correlation-ID" else uuid

def addLogCorrelationIDMiddleware (uuid : GoString) (next : Handler Writer) : Handler Writer :=
  fun ctx req x =>
    next
      { ctx with
        logger := ctx.logger.map
          (fun logger => { logger with correlationId := some (correlationId uuid req) }) }
      req x

def addInjectLoggerMiddleware (l : Logger) (next : Handler Writer) : Handler Writer :=
  fun ctx req x => next { ctx with logger := some l } req x

/-- What `NewAPIServer` puts under the pattern for namespaces, inside the metrics. -/
def namespacesHandler (l : Logger) (ar : Authenticator) (lister : Lister)
    (marshal : NamespaceList → Except GoString GoString) (uuid : GoString) : Handler Writer :=
  addInjectLoggerMiddleware l
    (addLogCorrelationIDMiddleware uuid
      (addAuthnMiddleware net ar
        (addLogRequestMiddleware
          (listNamespacesHandler net lister marshal))))

end Handlers

def subjectNamespaceLister (order : RangeOrder Namespace) (cache : AccessCache) : Lister :=
  fun username groups =>
    match listNamespaces order cache username groups with
    | .error panic => .error (.runtime panic)
    | .ok nn => .ok (.ok nn)

/-! ### The chain and the response as a value -/

section Chain

variable {Writer : Type u} {net : NetHttp Writer}

def Exchange.processed (x : Exchange Writer) : Prop :=
  ∃ line ∈ x.log, line.message = "request processed"

/-- How an exchange ends, by the level of the logger and the result of
`serveRequest`. -/
def Exchange.Ends (net : NetHttp Writer) (level : Int) (x : Exchange Writer) :
    Except Panic Response → Prop
  | .error panic =>
      x.panic = some (.runtime panic) ∧ net.sent x.writer = none ∧ ¬x.processed
  | .ok response =>
      x.panic = none ∧ net.sent x.writer = some ((response.status : Int), response.contentType) ∧
        net.body x.writer = (net.taken response.body).1 ∧
        (x.processed ↔ response.status ≠ statusUnauthorized ∧ level ≤ LineLevel.info.value)

structure Exchange.Pending (cid : GoString) (x : Exchange Writer) : Prop where
  correlated : ∀ found ∈ x.log, found.correlationId = some cid
  unprocessed : ¬x.processed

def RequestContext.logging (level : Int) (cid : GoString) : RequestContext :=
  { logger := some { level := level, correlationId := some cid }
    userDetails := none }

def RequestContext.Correlated (ctx : RequestContext) (level : Int) (cid : GoString) : Prop :=
  ctx.logger = some { level := level, correlationId := some cid }

theorem pending_new (net : NetHttp Writer) (cid : GoString) : (Exchange.new net).Pending cid := by
  constructor
  · exact List.forall_mem_nil _
  · rintro ⟨found, member, _processed⟩
    cases member

theorem Exchange.Pending.of_log {cid : GoString} {x after : Exchange Writer}
    (pending : x.Pending cid) (same : after.log = x.log) : after.Pending cid := by
  constructor
  · rw [same]
    exact pending.correlated
  · unfold Exchange.processed
    rw [same]
    exact pending.unprocessed

theorem Exchange.Pending.log {cid : GoString} {level : Int} {x : Exchange Writer}
    {ctx : RequestContext} (pending : x.Pending cid) (correlated : ctx.Correlated level cid)
    (line : LineLevel) {message : GoString} (other : message ≠ "request processed")
    (error : Option GoString) : (ctx.log line message error x).Pending cid := by
  simp only [RequestContext.log, show ctx.logger = _ from correlated]
  split
  · constructor
    · intro found member
      rcases List.mem_append.mp member with old | last
      · exact pending.correlated found old
      · rw [List.mem_singleton.mp last]
    · rintro ⟨found, member, processed⟩
      rcases List.mem_append.mp member with old | last
      · exact pending.unprocessed ⟨found, old, processed⟩
      · rw [List.mem_singleton.mp last] at processed
        exact other processed
  · exact pending

theorem log_writer (ctx : RequestContext) (line : LineLevel) (message : GoString)
    (error : Option GoString) (x : Exchange Writer) :
    (ctx.log line message error x).writer = x.writer ∧
      (ctx.log line message error x).panic = x.panic := by
  unfold RequestContext.log
  split
  · exact ⟨rfl, rfl⟩
  · split <;> exact ⟨rfl, rfl⟩

private theorem other_messages :
    GoString.ofLiteral "request authenticated" ≠ GoString.ofLiteral "request processed" ∧
      GoString.ofLiteral "error authenticating request" ≠
        GoString.ofLiteral "request processed" ∧
      GoString.ofLiteral "error writing reply" ≠ GoString.ofLiteral "request processed" := by
  decide

private theorem authorized_statuses :
    statusOK ≠ statusUnauthorized ∧ statusInternalServerError ≠ statusUnauthorized := by
  decide

structure Exchange.Shows (net : NetHttp Writer) (x : Exchange Writer) (response : Response) :
    Prop where
  running : x.panic = none
  sent : net.sent x.writer = some ((response.status : Int), response.contentType)
  body : net.body x.writer = (net.taken response.body).1

theorem ends_of_returned {level : Int} {cid : GoString} {ctx : RequestContext}
    {y : Exchange Writer} {reply : Response} (correlated : ctx.Correlated level cid)
    (shows_ : y.Shows net reply) (authorized : reply.status ≠ statusUnauthorized)
    (pending : y.Pending cid) :
    let x := y.andThen (ctx.log .info "request processed" none)
    x.Ends net level (.ok reply) ∧ ∀ found ∈ x.log, found.correlationId = some cid := by
  intro x
  have ends : x = ctx.log .info "request processed" none y := by
    change y.andThen _ = _
    unfold Exchange.andThen
    rw [if_pos shows_.running]
  obtain ⟨writer, panic⟩ := log_writer ctx .info "request processed" none y
  rw [ends]
  refine ⟨⟨?_, ?_, ?_, ?_⟩, ?_⟩
  · rw [panic]
    exact shows_.running
  · rw [writer]
    exact shows_.sent
  · rw [writer]
    exact shows_.body
  · simp only [RequestContext.log, show ctx.logger = _ from correlated]
    split
    · rename_i enabled
      refine ⟨fun _ => ⟨authorized, enabled⟩, fun _ => ?_⟩
      exact ⟨_, List.mem_append_right _ (List.mem_singleton_self _), rfl⟩
    · rename_i disabled
      exact ⟨fun processed => absurd processed pending.unprocessed,
        fun enabled => absurd enabled.2 disabled⟩
  · simp only [RequestContext.log, show ctx.logger = _ from correlated]
    split
    · intro found member
      rcases List.mem_append.mp member with old | last
      · exact pending.correlated found old
      · rw [List.mem_singleton.mp last]
    · exact pending.correlated

theorem httpError_shows (lawful : net.Lawful) (message : GoString) {x : Exchange Writer}
    (fresh : x.writer = net.new) (running : x.panic = none) :
    (x.call (net.httpError message statusInternalServerError)).Shows net
        { status := statusInternalServerError
          contentType := some "text/plain; charset=utf-8"
          body := message ++ [10] } ∧
      (x.call (net.httpError message statusInternalServerError)).log = x.log := by
  obtain ⟨w, called, sent, body⟩ :=
    lawful.httpError_new message statusInternalServerError (by decide) (by decide)
  have after : x.call (net.httpError message statusInternalServerError) =
      { x with writer := w } := by
    unfold Exchange.call
    rw [fresh, called]
  rw [after]
  exact ⟨⟨running, sent, body⟩, rfl⟩

theorem writeReply_shows (lawful : net.Lawful) {level : Int} {cid : GoString}
    {ctx : RequestContext} (correlated : ctx.Correlated level cid) (data : GoString)
    {x : Exchange Writer} (fresh : x.writer = net.new) (running : x.panic = none)
    (pending : x.Pending cid) :
    let y := writeReply net ctx data
      { x with writer := net.addContentType "application/json;charset=utf-8" x.writer }
    y.Shows net
        { status := statusOK
          contentType := some "application/json;charset=utf-8"
          body := data } ∧
      y.Pending cid := by
  intro y
  have written := lawful.write_new "application/json;charset=utf-8" data
  have unfolded : y = writeReply net ctx data
    { x with writer := net.addContentType "application/json;charset=utf-8" x.writer } := rfl
  rw [fresh] at unfolded
  unfold writeReply at unfolded
  simp only at written unfolded
  generalize net.write data (net.addContentType "application/json;charset=utf-8" net.new) =
    result at written unfolded
  obtain ⟨w, err⟩ := result
  obtain ⟨sent, body, _err⟩ := written
  cases err with
  | none =>
      rw [unfolded]
      exact ⟨⟨running, sent, body⟩, pending.of_log rfl⟩
  | some err =>
      have logged : ({ x with writer := w } : Exchange Writer).Pending cid := pending.of_log rfl
      have noted := logged.log correlated .error other_messages.2.2 (some err)
      obtain ⟨sameWriter, samePanic⟩ := log_writer ctx .error "error writing reply" (some err)
        { x with writer := w }
      obtain ⟨after, called, sentAfter, bodyAfter⟩ := lawful.writeHeader_sent
        statusInternalServerError w (by rw [sent]; exact Option.some_ne_none _)
      have ends : y =
          { ctx.log .error "error writing reply" (some err) { x with writer := w } with
            writer := after } := by
        rw [unfolded]
        simp only [Exchange.call, sameWriter, called]
      rw [ends]
      refine ⟨⟨?_, ?_, ?_⟩, noted.of_log rfl⟩
      · exact samePanic.trans running
      · exact sentAfter.trans sent
      · exact bodyAfter.trans body

theorem handler_ends (lawful : net.Lawful) (order : RangeOrder Namespace) (cache : AccessCache)
    (marshal : NamespaceList → Except GoString GoString) {level : Int} {cid : GoString}
    {ctx : RequestContext} {response : Option AuthenticatedUser} {x : Exchange Writer}
    (correlated : ctx.Correlated level cid) (details : ctx.userDetails = some response)
    (fresh : x.writer = net.new) (running : x.panic = none) (pending : x.Pending cid)
    (req : Request) :
    let after := addLogRequestMiddleware
      (listNamespacesHandler net (subjectNamespaceLister order cache) marshal) ctx req x
    after.Ends net level (serveListNamespaces order cache marshal response) ∧
      ∀ found ∈ after.log, found.correlationId = some cid := by
  have panics : ∀ panic : Panic,
      ((x.fail (.runtime panic)).andThen (ctx.log .info "request processed" none)).Ends net level
          (.error panic) ∧
        ∀ found ∈ ((x.fail (.runtime panic)).andThen
          (ctx.log .info "request processed" none)).log, found.correlationId = some cid := by
    intro panic
    have stays : (x.fail (.runtime panic)).andThen (ctx.log .info "request processed" none) =
        x.fail (.runtime panic) := by
      unfold Exchange.andThen
      exact if_neg nofun
    rw [stays]
    refine ⟨⟨rfl, ?_, (pending.of_log rfl).unprocessed⟩, pending.correlated⟩
    change net.sent x.writer = none
    rw [fresh]
    exact lawful.new_sent
  simp only [addLogRequestMiddleware, listNamespacesHandler, details, subjectNamespaceLister,
    serveListNamespaces]
  cases response with
  | none => exact panics .nilDereference
  | some user =>
      cases listed : listNamespaces order cache user.name user.groups with
      | error panic =>
          simp only [listed]
          exact panics panic
      | ok nn =>
          cases encoded : marshal nn with
          | error err =>
              obtain ⟨shows_, sameLog⟩ := httpError_shows lawful err fresh running
              simp only [listed, encoded]
              exact ends_of_returned correlated shows_ authorized_statuses.2
                (pending.of_log sameLog)
          | ok b =>
              obtain ⟨shows_, kept⟩ := writeReply_shows lawful correlated b fresh running pending
              simp only [listed, encoded]
              exact ends_of_returned correlated shows_ authorized_statuses.1 kept

theorem ends_of_unauthorized (lawful : net.Lawful) {level : Int} {x : Exchange Writer}
    (unprocessed : ¬x.processed) (running : x.panic = none)
    (sent : net.sent x.writer = some ((statusUnauthorized : Int), none))
    (body : net.body x.writer = []) :
    x.Ends net level (.ok { status := statusUnauthorized, contentType := none, body := [] }) := by
  refine ⟨running, sent, ?_, ?_⟩
  · rw [body]
    exact lawful.taken_nil.symm
  · constructor
    · intro processed
      exact absurd processed unprocessed
    · intro other
      exact absurd rfl other.1

/-- For every request, correlation identifier, log level and connection, the chain
of handlers sends the status, the content type and the part of the body that the
connection takes of the response that the sequential handler returns as a value, and
panics where it panics, with nothing sent.  A request is logged as processed exactly
when it was authenticated, did not panic and the level lets such lines through, and
every line carries its identifier. -/
theorem namespacesHandler_refines (net : NetHttp Writer) (lawful : net.Lawful)
    (order : RangeOrder Namespace) (cache : AccessCache)
    (marshal : NamespaceList → Except GoString GoString) (ar : Authenticator)
    (atoi : GoString → Except GoString Int) (env : GoString) (uuid : GoString) (req : Request) :
    let level := getLogLevel atoi env
    let x := namespacesHandler net (buildLogger level) ar (subjectNamespaceLister order cache)
      marshal uuid RequestContext.background req (Exchange.new net)
    x.Ends net level (serveRequest order cache marshal ar req) ∧
      ∀ found ∈ x.log, found.correlationId = some (correlationId uuid req) := by
  intro level x
  obtain ⟨w, called, sent, body⟩ :=
    lawful.writeHeader_new statusUnauthorized (by decide) (by decide)
  have pending := pending_new net (correlationId uuid req)
  have correlated : (RequestContext.logging level (correlationId uuid req)).Correlated level
    (correlationId uuid req) := rfl
  have turnedAway : (Exchange.new net).call (net.writeHeader statusUnauthorized) =
      { Exchange.new net with writer := w } := by
    simp only [Exchange.call, Exchange.new, called]
  have unfolded : x = addAuthnMiddleware net ar
      (addLogRequestMiddleware
        (listNamespacesHandler net (subjectNamespaceLister order cache) marshal))
      (RequestContext.logging level (correlationId uuid req)) req (Exchange.new net) := rfl
  rw [unfolded]
  generalize RequestContext.logging level (correlationId uuid req) = ctx at correlated
  simp only [addAuthnMiddleware, serveRequest]
  cases failed : (ar.authenticateRequest req).err with
  | some err =>
      rw [if_pos (Or.inl (Option.some_ne_none err)), turnedAway]
      have kept : ({ Exchange.new net with writer := w } : Exchange Writer).Pending
        (correlationId uuid req) := pending.of_log rfl
      have noted := kept.log correlated .error other_messages.2.1 (some err)
      obtain ⟨sameWriter, samePanic⟩ := log_writer ctx .error "error authenticating request"
        (some err) { Exchange.new net with writer := w }
      simp only [Exchange.andThen, Exchange.new, if_true]
      refine ⟨ends_of_unauthorized lawful noted.unprocessed samePanic ?_ ?_, noted.correlated⟩
      · exact (congrArg net.sent sameWriter).trans sent
      · exact (congrArg net.body sameWriter).trans body
  | none =>
      by_cases refused : (ar.authenticateRequest req).ok = false
      · rw [if_pos (Or.inr refused)]
        simp only [if_pos refused, turnedAway]
        have kept : ({ Exchange.new net with writer := w } : Exchange Writer).Pending
          (correlationId uuid req) := pending.of_log rfl
        exact ⟨ends_of_unauthorized lawful kept.unprocessed rfl sent body, kept.correlated⟩
      · have passed : ¬((none : Option GoString) ≠ none ∨
            (ar.authenticateRequest req).ok = false) := by
          rw [not_or]
          exact ⟨fun different => different rfl, refused⟩
        rw [if_neg passed]
        simp only [if_neg refused]
        obtain ⟨sameWriter, samePanic⟩ := log_writer ctx .debug "request authenticated" none
          (Exchange.new net)
        have admitted : ({ ctx with
            userDetails := some (ar.authenticateRequest req).response } :
              RequestContext).Correlated level (correlationId uuid req) := correlated
        exact handler_ends lawful order cache marshal admitted rfl sameWriter samePanic
          (pending.log correlated .debug other_messages.1 none) req

end Chain

/-! ### A writer for one connection -/

structure ResponseWriter where
  contentType : Option GoString
  sent : Option (Int × Option GoString)
  body : GoString

namespace ResponseWriter

/-- Only a first call counts, and an informational status is no first call. -/
def writeHeader (code : Int) (w : ResponseWriter) : Except HandlerPanic ResponseWriter :=
  if w.sent ≠ none then .ok w
  else if code < 100 ∨ 999 < code then .error (.invalidWriteHeaderCode code)
  else if code ≤ 199 ∧ code ≠ 101 then .ok w
  else .ok { w with sent := some (code, w.contentType) }

def write (taken : GoString → GoString × Option GoString) (data : GoString) (w : ResponseWriter) :
    ResponseWriter × Option GoString :=
  ({ w with
      sent := some (w.sent.getD (200, w.contentType))
      body := w.body ++ (taken data).1 }, (taken data).2)

def connection (taken : GoString → GoString × Option GoString) : NetHttp ResponseWriter :=
  { new := { contentType := none, sent := none, body := [] }
    addContentType := fun contentType w => { w with contentType := some contentType }
    writeHeader := writeHeader
    write := write taken
    httpError := fun message code w =>
      (writeHeader code { w with contentType := some "text/plain; charset=utf-8" }).map
        (fun w => (w.write taken (message ++ [10])).1)
    sent := ResponseWriter.sent
    body := ResponseWriter.body
    taken := taken }

theorem writeHeader_final {w : ResponseWriter} (fresh : w.sent = none) (code : Int)
    (low : 400 ≤ code) (high : code ≤ 599) :
    w.writeHeader code = .ok { w with sent := some (code, w.contentType) } := by
  unfold writeHeader
  rw [if_neg (not_not.mpr fresh), if_neg (by omega), if_neg (by omega)]

theorem connection_lawful (taken : GoString → GoString × Option GoString)
    (nothing : (taken []).1 = []) : (connection taken).Lawful := by
  constructor
  · rfl
  · exact nothing
  · intro code low high
    have sent := @writeHeader_final (connection taken).new rfl code low high
    exact ⟨_, sent, rfl, rfl⟩
  · intro message code low high
    have sent := @writeHeader_final
      { (connection taken).new with contentType := some "text/plain; charset=utf-8" }
      rfl code low high
    have called := congrArg (Except.map fun w => (w.write taken (message ++ [10])).1) sent
    exact ⟨_, called, rfl, List.nil_append _⟩
  · intro contentType data
    exact ⟨rfl, List.nil_append _, rfl⟩
  · intro code w sent
    refine ⟨w, ?_, rfl, rfl⟩
    exact if_pos sent

end ResponseWriter

/-- Of a reply to HEAD the connection takes no body. -/
private def headConnection : NetHttp ResponseWriter :=
  ResponseWriter.connection (fun _ => ([], none))

private def tokenAuthenticator : Authenticator :=
  { usernameHeader := []
    groupsHeader := []
    next := fun _ =>
      { response := some { name := "alice", groups := [] }
        ok := true
        err := none } }

/-- Without a log level the line of the processed request is dropped. -/
theorem namespacesHandler_refines_head :
    let x := namespacesHandler headConnection (buildLogger (getLogLevel (fun _ => .error []) []))
      tokenAuthenticator
      (subjectNamespaceLister (RangeOrder.asKept Namespace)
        ((AtomicListRestockCache.newAtomicListRestockCache Subject Namespace.name).restock ∅))
      (fun _ => .ok [123, 125]) "uuid" RequestContext.background ⟨∅⟩ (Exchange.new headConnection)
    x.writer.sent = some (200, some (GoString.ofLiteral "application/json;charset=utf-8")) ∧
      x.writer.body = [] ∧ ¬x.processed := by
  intro x
  have refines := namespacesHandler_refines headConnection
    (ResponseWriter.connection_lawful _ rfl) (RangeOrder.asKept Namespace)
    ((AtomicListRestockCache.newAtomicListRestockCache Subject Namespace.name).restock ∅)
    (fun _ => .ok [123, 125]) tokenAuthenticator (fun _ => .error []) [] "uuid" ⟨∅⟩
  obtain ⟨⟨_running, sent, body, processed⟩, _correlated⟩ := refines
  refine ⟨sent, body, ?_⟩
  intro logged
  exact absurd (processed.mp logged).2 (by decide)

end NamespaceLister
