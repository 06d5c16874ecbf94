import RecordBridge.Connector.Error
import RecordBridge.Store.Request

/-
  Exchanges — what an operation does, step by step, whatever the service
  answers.

  An exchange ends with a result, notes an event, or posts a request and goes on
  with the reply. `Exchange.run` plays it against a service: a function that
  answers each request and may change. The outcome holds the result, every
  request with its reply and every event, in order.
-/

namespace RecordBridge

/-- What is noted in the log. -/
inductive Event
  | settingsShown
  | ready
  | requestSent
  | objectCreated
  | filterCompiled
  | nothingToDelete
  | nothingMatched
  | editAllSent
  deriving DecidableEq, Repr

/-- The level of an event. -/
def Event.level : Event → String
  | filterCompiled => "TRACE"
  | _ => "DEBUG"

/-- The wording of an event. -/
def Event.message : Event → String
  | settingsShown => "object store connector settings"
  | ready => "object store connector ready"
  | requestSent => "object store request"
  | objectCreated => "object created"
  | filterCompiled => "compiled search filter"
  | nothingToDelete => "identity lookup found nothing; skipping delete"
  | nothingMatched => "no objects matched; skipping bulk edit"
  | editAllSent => "object store bulk edit"

/-- What the service makes of a request: a value, nothing, or a failure. -/
abbrev Reply := Except HttpFailure (Option Json)

/-- What an operation does. -/
inductive Exchange (α : Type)
  | done (result : Except ConnectorError α)
  | note (event : Event) (rest : Exchange α)
  | post (request : StoreRequest) (next : Reply → Exchange α)

namespace Exchange

variable {α β : Type}

/-- Goes on with the result of an exchange, if it has one. -/
def bind : Exchange α → (α → Exchange β) → Exchange β
  | done (.ok a), f => f a
  | done (.error e), _ => done (.error e)
  | note event rest, f => note event (rest.bind f)
  | post request next, f => post request fun reply => (next reply).bind f

instance : Monad Exchange where
  pure a := done (.ok a)
  bind := bind

/-- Goes on if a filter, a model or a record can be used. -/
def ofQuery (result : Except QueryError α) : Exchange α := done (result.mapError .query)

/-- Notes an event. -/
def log (event : Event) : Exchange Unit := note event (done (.ok ()))

/-- Posts a request; a failure becomes the error that `onFailure` makes of it. -/
def postOr (onFailure : HttpFailure → ConnectorError) (request : StoreRequest) :
    Exchange (Option Json) :=
  post request fun reply => done (reply.mapError onFailure)

/-- Notes a single request and posts it. -/
def send (request : StoreRequest) : Exchange (Option Json) :=
  note .requestSent (postOr .transport request)

/-! ### Playing an exchange -/

/-- What has come of an exchange with a service of type `σ`. -/
structure Outcome (σ α : Type) where
  result : Except ConnectorError α
  /-- The service afterwards. -/
  service : σ
  /-- Every request with its reply. -/
  dialogue : List (StoreRequest × Reply)
  events : List Event

/-- The requests that were posted. -/
def Outcome.requests {σ : Type} (outcome : Outcome σ α) : List StoreRequest :=
  outcome.dialogue.map Prod.fst

/-- Plays an exchange against a service. -/
def run {σ : Type} (answer : σ → StoreRequest → Reply × σ) : Exchange α → σ → Outcome σ α
  | done result, service => ⟨result, service, [], []⟩
  | note event rest, service =>
    let outcome := run answer rest service
    { outcome with events := event :: outcome.events }
  | post request next, service =>
    let (reply, service) := answer service request
    let outcome := run answer (next reply) service
    { outcome with dialogue := (request, reply) :: outcome.dialogue }

/-- A service that gives prepared replies, and empty ones when there are no more. -/
def prepared (replies : List Reply) (_ : StoreRequest) : Reply × List Reply :=
  match replies with
  | [] => (.ok none, [])
  | reply :: rest => (reply, rest)

end Exchange

end RecordBridge
