import RecordBridge.Connector.Exchange

/-!
# Playing an exchange that posts

What comes of an exchange that starts with a request, by the reply to it: after an answer the
exchange goes on (`run_send_bind_ok`), and a failure ends it (`run_send_bind_error`).  Where nothing
follows but reading the answer, the result is told by the reply alone (`result_send_bind_done`).
The reply to the first request is that of the service as it was (`dialogue_of_requests_cons`).
-/

namespace RecordBridge.Exchange

/-! ### Sequencing -/

instance : LawfulMonad Exchange :=
  LawfulMonad.mk' Exchange
    (fun x => by
      induction x with
      | done result => cases result <;> rfl
      | note event _ ih => exact congrArg (note event) ih
      | post request _ ih => exact congrArg (post request) (funext ih))
    (fun _ _ => rfl)
    (fun x f g => by
      induction x with
      | done result => cases result <;> rfl
      | note event _ ih => exact congrArg (note event) ih
      | post request _ ih => exact congrArg (post request) (funext ih))

theorem discard_bind {α β : Type} (x : Exchange α) (f : Unit → Exchange β) :
    (discard x >>= f) = x >>= fun _ => f () := by
  show ((x >>= fun _ => pure ()) >>= f) = _
  rw [bind_assoc]
  rfl

/-- A result that is known is mapped at once. -/
theorem done_bind_pure {α β : Type} (result : Except ConnectorError α) (f : α → β) :
    (done result >>= fun a => pure (f a)) = done (result.map f) := by
  cases result <;> rfl

/-! ### One request -/

variable {α β σ : Type} {answer : σ → StoreRequest → Reply × σ} {service service' : σ}
  {request : StoreRequest} {value : Option Json} {failure : HttpFailure}

/-- An outcome with one turn and its event before it. -/
def Outcome.afterTurn (event : Event) (turn : StoreRequest × Reply) (outcome : Outcome σ α) :
    Outcome σ α :=
  { outcome with
    dialogue := turn :: outcome.dialogue
    events := event :: outcome.events }

theorem run_post (request : StoreRequest) (next : Reply → Exchange α) (service : σ) :
    (post request next).run answer service =
      let outcome := (next (answer service request).1).run answer (answer service request).2
      { outcome with dialogue := (request, (answer service request).1) :: outcome.dialogue } := rfl

/-- An answered request is followed by what its answer leads to. -/
theorem run_send_bind_ok (h : answer service request = (.ok value, service'))
    (f : Option Json → Exchange β) :
    (send request >>= f).run answer service =
      ((f value).run answer service').afterTurn .requestSent (request, .ok value) := by
  show (note _ (post request _)).run answer service = _
  rw [run, run_post, h]
  rfl

/-- A failed request ends the exchange. -/
theorem run_send_bind_error (h : answer service request = (.error failure, service'))
    (f : Option Json → Exchange β) :
    (send request >>= f).run answer service =
      ⟨.error (.transport failure), service', [(request, .error failure)], [.requestSent]⟩ := by
  show (note _ (post request _)).run answer service = _
  rw [run, run_post, h]
  rfl

/-- A request after which nothing more is posted is the only one, whatever comes of it. -/
theorem requests_send_bind (request : StoreRequest) {f : Option Json → Exchange β} (service : σ)
    (hf : ∀ value service', ((f value).run answer service').requests = []) :
    ((send request >>= f).run answer service).requests = [request] := by
  rcases hanswer : answer service request with ⟨reply, service'⟩
  cases reply with
  | ok value =>
    rw [run_send_bind_ok hanswer]
    exact congrArg (request :: ·) (hf value service')
  | error failure =>
    rw [run_send_bind_error hanswer]
    rfl

/-- One request whose answer is read gives what the reply says. -/
theorem result_send_bind_done (request : StoreRequest)
    (f : Option Json → Except ConnectorError β) (service : σ) :
    ((send request >>= fun value => done (f value)).run answer service).result =
      (answer service request).1.mapError .transport >>= f := by
  rcases hanswer : answer service request with ⟨reply, service'⟩
  cases reply with
  | ok value =>
    rw [run_send_bind_ok hanswer]
    rfl
  | error failure =>
    rw [run_send_bind_error hanswer]
    rfl

/-- The first request is answered by the service as it was. -/
theorem dialogue_of_requests_cons {x : Exchange α} {rest : List StoreRequest}
    (h : (x.run answer service).requests = request :: rest) :
    ∃ later, (x.run answer service).dialogue = (request, (answer service request).1) :: later ∧
      later.map Prod.fst = rest := by
  induction x with
  | done result => cases h
  | note event x ih => exact ih h
  | post first next _ =>
    obtain ⟨rfl, hrest⟩ := List.cons.inj h
    exact ⟨_, rfl, hrest⟩

theorem run_done_ok_bind (a : α) (f : α → Exchange β) (service : σ) :
    (done (.ok a) >>= f).run answer service = (f a).run answer service := rfl

theorem run_log_bind (event : Event) (f : Unit → Exchange β) (service : σ) :
    (log event >>= f).run answer service =
      let outcome := (f ()).run answer service
      { outcome with events := event :: outcome.events } := rfl

/-- A request whose answer does not matter gives the value that was settled before. -/
theorem run_discard_postOr_bind_pure (onFailure : HttpFailure → ConnectorError)
    (request : StoreRequest) (b : β) (service : σ) :
    (discard (postOr onFailure request) >>= fun _ => pure b).run answer service =
      ⟨((answer service request).1.mapError onFailure).map fun _ => b, (answer service request).2,
        [(request, (answer service request).1)], []⟩ := by
  rw [discard_bind]
  show (post request _).run answer service = _
  rw [run_post]
  cases (answer service request).1 with
  | ok value => rfl
  | error failure => rfl

end RecordBridge.Exchange
