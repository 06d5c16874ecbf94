import RecordBridge.Connector.Exchange

/-!
# What an exchange may post and how it may fail

`Within posts fails x` bounds an exchange from outside: whatever the replies are, every request that
`x` posts satisfies `posts` and every error that it ends with satisfies `fails`.  The bound of a
sequence is the bound of its parts (`Within.bind`), and playing the exchange stays within it
(`Within.run`).

`Opens request x` says what `x` posts first, before any reply could matter (`Opens.run`).
-/

namespace RecordBridge.Exchange

variable {α β σ : Type} {posts : StoreRequest → Prop} {fails : ConnectorError → Prop}
  {request : StoreRequest} {x : Exchange α}

/-! ### Bounds -/

/-- Every request of the exchange satisfies `posts` and every error `fails`, whatever the replies
are. -/
inductive Within (posts : StoreRequest → Prop) (fails : ConnectorError → Prop) :
    Exchange α → Prop
  | ok (a : α) : Within posts fails (.done (.ok a))
  | error {e : ConnectorError} : fails e → Within posts fails (.done (.error e))
  | note (event : Event) {rest : Exchange α} :
      Within posts fails rest → Within posts fails (.note event rest)
  | post {request : StoreRequest} {next : Reply → Exchange α} :
      posts request → (∀ reply, Within posts fails (next reply)) →
      Within posts fails (.post request next)

theorem Within.bind {f : α → Exchange β} (h : Within posts fails x)
    (hf : ∀ a, Within posts fails (f a)) : Within posts fails (x >>= f) := by
  induction h with
  | ok a => exact hf a
  | error he => exact .error he
  | note event _ ih => exact .note event ih
  | post hpost _ ih => exact .post hpost ih

/-- A query that fails ends an exchange; what follows it matters only if it succeeds. -/
theorem within_ofQuery_bind {result : Except QueryError α} {f : α → Exchange β}
    (h : ∀ error, result = .error error → fails (.query error))
    (hf : ∀ a, result = .ok a → Within posts fails (f a)) :
    Within posts fails (ofQuery result >>= f) := by
  cases result with
  | ok a => exact hf a rfl
  | error error => exact .error (h error rfl)

theorem within_postOr {onFailure : HttpFailure → ConnectorError} (hpost : posts request)
    (h : ∀ failure, fails (onFailure failure)) : Within posts fails (postOr onFailure request) := by
  refine .post hpost fun reply => ?_
  cases reply with
  | ok value => exact .ok value
  | error failure => exact .error (h failure)

theorem within_send (hpost : posts request) (h : ∀ failure, fails (.transport failure)) :
    Within posts fails (send request) :=
  .note _ (within_postOr hpost h)

/-- Every request that is posted satisfies `posts`, and the error, if there is one, `fails`. -/
theorem Within.run (h : Within posts fails x) (answer : σ → StoreRequest → Reply × σ)
    (service : σ) :
    (∀ request ∈ (x.run answer service).requests, posts request) ∧
      ∀ error, (x.run answer service).result = .error error → fails error := by
  induction h generalizing service with
  | ok a => exact ⟨by simp [Outcome.requests, Exchange.run], by simp [Exchange.run]⟩
  | error he =>
    refine ⟨by simp [Outcome.requests, Exchange.run], ?_⟩
    intro error herror
    rw [← Except.error.inj herror]
    exact he
  | note event _ ih => exact ih service
  | post hpost _ ih =>
    obtain ⟨hrequests, herror⟩ := ih (answer service _).1 (answer service _).2
    exact ⟨List.forall_mem_cons.mpr ⟨hpost, hrequests⟩, herror⟩

/-! ### The first request -/

/-- The exchange posts the request before anything else. -/
inductive Opens (request : StoreRequest) : Exchange α → Prop
  | post (next : Reply → Exchange α) : Opens request (.post request next)
  | note (event : Event) {rest : Exchange α} : Opens request rest → Opens request (.note event rest)

theorem Opens.bind (h : Opens request x) (f : α → Exchange β) : Opens request (x >>= f) := by
  induction h with
  | post next => exact .post _
  | note event _ ih => exact .note event ih

theorem opens_send (request : StoreRequest) : Opens request (send request) := .note _ (.post _)

theorem Opens.run (h : Opens request x) (answer : σ → StoreRequest → Reply × σ) (service : σ) :
    ∃ reply rest, (x.run answer service).dialogue = (request, reply) :: rest := by
  induction h with
  | post next => exact ⟨_, _, rfl⟩
  | note event _ ih => exact ih

end RecordBridge.Exchange
