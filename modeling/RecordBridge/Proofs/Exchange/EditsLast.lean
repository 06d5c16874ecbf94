import RecordBridge.Connector.Exchange

/-!
# Exchanges whose edits come last

`EditsLast posts x` says, for every reply that `x` may get: a failed request ends the exchange
with the error of that request, an answered edit ends it with a value, and every request satisfies
`posts`.  The parts of an operation are put together by `AsksOnly.bind` (what goes before only
asks) and `EditsLast.bind_of_ends` (what goes after posts nothing and succeeds).

Playing such an exchange gives a `Settled` dialogue (`EditsLast.settled_run`), whatever the
service: answered questions, then at most one edit, whose reply settles the result.
-/

namespace RecordBridge

/-- The error of an operation whose request has failed: it tells the number of edits if the
request carries an array of them. -/
def StoreRequest.errorOf (request : StoreRequest) (failure : HttpFailure) : ConnectorError :=
  match request with
  | .editAll edits => .partialBatch edits.length failure
  | .edit _ | .load _ | .search .. => .transport failure

namespace Exchange

variable {α β σ : Type} {posts : StoreRequest → Prop}

/-! ### Exchanges that post nothing more -/

/-- The exchange posts nothing and ends with the result. -/
inductive Ends (result : Except ConnectorError α) : Exchange α → Prop
  | done : Ends result (.done result)
  | note (event : Event) {rest : Exchange α} : Ends result rest → Ends result (.note event rest)

theorem Ends.bind_error {x : Exchange α} {e : ConnectorError} (h : Ends (.error e) x)
    (f : α → Exchange β) : Ends (.error e) (x >>= f) := by
  induction h with
  | done => exact .done
  | note event _ ih => exact .note event ih

theorem Ends.bind_ok {x : Exchange α} {a : α} {f : α → Exchange β}
    {result : Except ConnectorError β} (h : Ends (.ok a) x) (hf : Ends result (f a)) :
    Ends result (x >>= f) := by
  induction h with
  | done => exact hf
  | note event _ ih => exact .note event ih

theorem Ends.run {x : Exchange α} {result : Except ConnectorError α} (h : Ends result x)
    (answer : σ → StoreRequest → Reply × σ) (service : σ) :
    (x.run answer service).dialogue = [] ∧ (x.run answer service).result = result := by
  induction h with
  | done => exact ⟨rfl, rfl⟩
  | note event _ ih => exact ih

/-! ### The discipline -/

/-- Every request satisfies `posts`, a failed request ends the exchange with its error, and an
answered edit ends it with a value. -/
inductive EditsLast (posts : StoreRequest → Prop) : Exchange α → Prop
  | done (result : Except ConnectorError α) : EditsLast posts (.done result)
  | note (event : Event) {rest : Exchange α} :
      EditsLast posts rest → EditsLast posts (.note event rest)
  | ask {request : StoreRequest} {next : Reply → Exchange α} :
      posts request → request.isEdit = false →
      (∀ failure, Ends (.error (request.errorOf failure)) (next (.error failure))) →
      (∀ value, EditsLast posts (next (.ok value))) →
      EditsLast posts (.post request next)
  | edit {request : StoreRequest} {next : Reply → Exchange α} :
      posts request → request.isEdit = true →
      (∀ failure, Ends (.error (request.errorOf failure)) (next (.error failure))) →
      (∀ value, ∃ a, Ends (.ok a) (next (.ok value))) →
      EditsLast posts (.post request next)

theorem Ends.editsLast {x : Exchange α} {result : Except ConnectorError α} (h : Ends result x) :
    EditsLast posts x := by
  induction h with
  | done => exact .done _
  | note event _ ih => exact .note event ih

theorem EditsLast.mono {x : Exchange α} {posts' : StoreRequest → Prop} (h : EditsLast posts x)
    (hposts : ∀ request, posts request → posts' request) : EditsLast posts' x := by
  induction h with
  | done result => exact .done result
  | note event _ ih => exact .note event ih
  | ask hpost hask hfail _ ih => exact .ask (hposts _ hpost) hask hfail ih
  | edit hpost hedit hfail hok => exact .edit (hposts _ hpost) hedit hfail hok

/-- No request of the exchange is an edit. -/
abbrev AsksOnly (x : Exchange α) : Prop := EditsLast (fun request => request.isEdit = false) x

/-- What only asks may be followed by anything that keeps the discipline. -/
theorem AsksOnly.bind {x : Exchange α} {f : α → Exchange β} (h : AsksOnly x)
    (hposts : ∀ request, request.isEdit = false → posts request)
    (hf : ∀ a, EditsLast posts (f a)) : EditsLast posts (x >>= f) := by
  induction h with
  | done result =>
    cases result with
    | ok a => exact hf a
    | error e => exact .done _
  | note event _ ih => exact .note event ih
  | ask hpost hask hfail _ ih =>
    exact .ask (hposts _ hask) hask (fun failure => (hfail failure).bind_error f) ih
  | edit hpost hedit _ _ =>
    -- What only asks posts no edit.
    rw [hpost] at hedit
    cases hedit

/-- What may edit may only be followed by what posts nothing and succeeds. -/
theorem EditsLast.bind_of_ends {x : Exchange α} {f : α → Exchange β} (h : EditsLast posts x)
    (hf : ∀ a, ∃ b, Ends (.ok b) (f a)) : EditsLast posts (x >>= f) := by
  induction h with
  | done result =>
    cases result with
    | ok a =>
      obtain ⟨b, hb⟩ := hf a
      exact hb.editsLast
    | error e => exact .done _
  | note event _ ih => exact .note event ih
  | ask hpost hask hfail _ ih =>
    exact .ask hpost hask (fun failure => (hfail failure).bind_error f) ih
  | edit hpost hedit hfail hok =>
    refine .edit hpost hedit (fun failure => (hfail failure).bind_error f) fun value => ?_
    obtain ⟨a, ha⟩ := hok value
    obtain ⟨b, hb⟩ := hf a
    exact ⟨b, ha.bind_ok hb⟩

/-- A model, filter or record that cannot be used ends an exchange before it posts anything. -/
theorem EditsLast.ofQuery_bind {result : Except QueryError α} {f : α → Exchange β}
    (hf : ∀ a, result = .ok a → EditsLast posts (f a)) :
    EditsLast posts (Exchange.ofQuery result >>= f) := by
  cases result with
  | ok a => exact hf a rfl
  | error e => exact .done _

theorem asksOnly_send {request : StoreRequest} (h : request.isEdit = false) :
    AsksOnly (send request) := by
  refine .note _ (.ask h h (fun failure => ?_) fun value => .done _)
  cases request with
  | edit e => cases h
  | editAll edits => cases h
  | load locator => exact .done
  | search search pageSize => exact .done

theorem editsLast_send_edit {e : LocatorEdit} (hpost : posts (.edit e)) :
    EditsLast posts (discard (send (.edit e))) :=
  .note _ (.edit hpost rfl (fun _ => .done) fun _ => ⟨(), .done⟩)

/-! ### What comes of such an exchange -/

/-- Dialogues of answered questions in which at most one edit stands, at the end, and results that
fit them: the error of the request that failed, and a value for an answered edit. -/
inductive Settled (posts : StoreRequest → Prop) :
    List (StoreRequest × Reply) → Except ConnectorError α → Prop
  | silent (result : Except ConnectorError α) : Settled posts [] result
  | answered {request : StoreRequest} {dialogue : List (StoreRequest × Reply)}
      {result : Except ConnectorError α} (value : Option Json) :
      posts request → request.isEdit = false → Settled posts dialogue result →
      Settled posts ((request, .ok value) :: dialogue) result
  | failed {request : StoreRequest} (failure : HttpFailure) :
      posts request → Settled posts [(request, .error failure)] (.error (request.errorOf failure))
  | edited {request : StoreRequest} (value : Option Json) (a : α) :
      posts request → request.isEdit = true → Settled posts [(request, .ok value)] (.ok a)

theorem EditsLast.settled_run {x : Exchange α} (h : EditsLast posts x)
    (answer : σ → StoreRequest → Reply × σ) (service : σ) :
    Settled posts (x.run answer service).dialogue (x.run answer service).result := by
  induction h generalizing service with
  | done result => exact .silent result
  | note event _ ih => exact ih service
  | @ask request next hpost hask hfail _ ih =>
    rw [run]
    obtain ⟨reply, service'⟩ := answer service request
    cases reply with
    | ok value => exact .answered value hpost hask (ih value service')
    | error failure =>
      -- The failure ends the exchange, so nothing follows this turn.
      obtain ⟨hdialogue, hresult⟩ := (hfail failure).run answer service'
      simp only [hdialogue, hresult]
      exact .failed failure hpost
  | @edit request next hpost hedit hfail hok =>
    rw [run]
    obtain ⟨reply, service'⟩ := answer service request
    cases reply with
    | ok value =>
      obtain ⟨a, ha⟩ := hok value
      obtain ⟨hdialogue, hresult⟩ := ha.run answer service'
      simp only [hdialogue, hresult]
      exact .edited value a hpost hedit
    | error failure =>
      obtain ⟨hdialogue, hresult⟩ := (hfail failure).run answer service'
      simp only [hdialogue, hresult]
      exact .failed failure hpost

/-- Every request of a settled dialogue satisfies what is said of the requests. -/
theorem Settled.posts_of_mem {dialogue : List (StoreRequest × Reply)}
    {result : Except ConnectorError α} (h : Settled posts dialogue result) :
    ∀ turn ∈ dialogue, posts turn.1 := by
  induction h with
  | silent result => simp
  | answered value hpost _ _ ih =>
    rw [List.forall_mem_cons]
    exact ⟨hpost, ih⟩
  | failed failure hpost => simpa using hpost
  | edited value a hpost _ => simpa using hpost

end Exchange

end RecordBridge
