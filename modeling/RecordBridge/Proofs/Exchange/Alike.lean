import RecordBridge.Proofs.Exchange.Run

/-!
# Replies that an exchange does not tell apart

`Respects alike x` says that `x` goes on in the same way whichever of two replies it gets, if
`alike` relates them as replies to the request that was posted.  The parts of an operation are put
together by `Respects.bind`.

Two services that reply alike in every state that they can be in together (`RepliesAlike`) then play
the exchange alike: the same requests in the same order, the same events and the same result
(`Respects.run`).
-/

namespace RecordBridge.Exchange

variable {α β σ τ : Type} {alike : StoreRequest → Reply → Reply → Prop} {x : Exchange α}
  {request : StoreRequest}

/-! ### Exchanges -/

/-- After replies to one request that are alike the exchange goes on in the same way. -/
inductive Respects (alike : StoreRequest → Reply → Reply → Prop) : Exchange α → Prop
  | done (result : Except ConnectorError α) : Respects alike (.done result)
  | note (event : Event) {rest : Exchange α} :
      Respects alike rest → Respects alike (.note event rest)
  | post {request : StoreRequest} {next : Reply → Exchange α} :
      (∀ reply reply', alike request reply reply' → next reply = next reply') →
      (∀ reply, Respects alike (next reply)) → Respects alike (.post request next)

theorem Respects.bind {f : α → Exchange β} (h : Respects alike x)
    (hf : ∀ a, Respects alike (f a)) : Respects alike (x >>= f) := by
  induction h with
  | done result =>
    cases result with
    | ok a => exact hf a
    | error e => exact .done _
  | note event _ ih => exact .note event ih
  | @post request next hsame _ ih =>
    refine .post ?_ ih
    intro reply reply' halike
    show (next reply >>= f) = (next reply' >>= f)
    rw [hsame reply reply' halike]

theorem respects_postOr (onFailure : HttpFailure → ConnectorError)
    (h : ∀ reply reply', alike request reply reply' → reply = reply') :
    Respects alike (postOr onFailure request) := by
  refine .post ?_ fun reply => .done _
  intro reply reply' halike
  rw [h reply reply' halike]

/-- A request goes on alike if only equal replies to it are alike. -/
theorem respects_send (h : ∀ reply reply', alike request reply reply' → reply = reply') :
    Respects alike (send request) :=
  .note _ (respects_postOr _ h)

/-- So it does if replies that are alike are read alike. -/
theorem respects_send_bind_done {f : Option Json → Except ConnectorError β}
    (h : ∀ reply reply', alike request reply reply' →
      reply.mapError ConnectorError.transport >>= f = reply'.mapError .transport >>= f) :
    Respects alike (send request >>= fun value => done (f value)) := by
  have hnext (reply : Reply) :
      ((done (reply.mapError .transport)) >>= fun value => done (f value)) =
        done (reply.mapError ConnectorError.transport >>= f) := by
    cases reply <;> rfl
  refine .note _ (.post ?_ ?_)
  · intro reply reply' halike
    show (done (reply.mapError .transport) >>= _) = (done (reply'.mapError .transport) >>= _)
    rw [hnext, hnext, h reply reply' halike]
  · intro reply
    show Respects alike (done (reply.mapError .transport) >>= _)
    rw [hnext]
    exact .done _

/-! ### Services -/

/-- In states that belong together two services reply alike, and their next states belong
together. -/
structure RepliesAlike (alike : StoreRequest → Reply → Reply → Prop)
    (answer : σ → StoreRequest → Reply × σ) (answer' : τ → StoreRequest → Reply × τ)
    (together : σ → τ → Prop) : Prop where
  reply : ∀ service service' request, together service service' →
    alike request (answer service request).1 (answer' service' request).1
  after : ∀ service service' request, together service service' →
    together (answer service request).2 (answer' service' request).2

/-- Services that reply alike play the exchange alike. -/
theorem Respects.run {answer : σ → StoreRequest → Reply × σ}
    {answer' : τ → StoreRequest → Reply × τ}
    {together : σ → τ → Prop} (h : Respects alike x)
    (hservices : RepliesAlike alike answer answer' together) {service : σ} {service' : τ}
    (htogether : together service service') :
    (x.run answer service).result = (x.run answer' service').result ∧
      (x.run answer service).requests = (x.run answer' service').requests ∧
      (x.run answer service).events = (x.run answer' service').events := by
  induction h generalizing service service' with
  | done result => exact ⟨rfl, rfl, rfl⟩
  | note event _ ih =>
    obtain ⟨hresult, hrequests, hevents⟩ := ih htogether
    exact ⟨hresult, hrequests, congrArg (event :: ·) hevents⟩
  | @post request next hsame _ ih =>
    have hafter := hservices.after service service' request htogether
    obtain ⟨hresult, hrequests, hevents⟩ := ih (answer service request).1 hafter
    have hnext : next (answer' service' request).1 = next (answer service request).1 :=
      (hsame _ _ (hservices.reply service service' request htogether)).symm
    rw [run_post, run_post, hnext]
    exact ⟨hresult, congrArg (request :: ·) hrequests, hevents⟩

end RecordBridge.Exchange
