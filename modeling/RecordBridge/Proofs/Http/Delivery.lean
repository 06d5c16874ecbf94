import RecordBridge.Http.Client

/-!
# What a draft delivers

A draft reflects the steps that have been taken (`Draft.Reflects`): it carries the last token and
the last body, and it has a failure to report if and only if one of the tokens cannot stand in a
header.  One step keeps that (`Reflects.step`), and so does a run of steps
(`Reflects.deliver_append`).

While there is a failure to report, further tokens leave it there and the next body reports it
(`deliver_of_failure`).  Without one, sending passes one request on if requests may go to the
address and none otherwise (`Reflects.send`).  Together this says what the service sees of a draft,
and which failure comes first (`deliver_exact`).
-/

namespace RecordBridge.Http

/-- Whether a token may stand in a header. -/
def isToken (token : String) : Bool := isHeaderValue (Utf8.encode token)

/-- Requests may go to a URI that names a host and has the scheme `https` or, if that is allowed,
`http`. -/
def TransportSecurity.Admits (security : TransportSecurity) (uri : Uri) : Prop :=
  uri.authority ≠ "" ∧
    (uri.scheme = some .https ∨ uri.scheme = some .http ∧ security = .allowInsecureHttp)

/-- A delivery after some more steps. -/
def Delivery.after (delivery : Delivery) (taken : Nat) : Delivery :=
  { delivery with taken := taken + delivery.taken }

namespace Draft

/-! ### Steps -/

namespace Step

/-- The token that a step gives. -/
def token? : Step → Option String
  | bearer token => some token
  | json _ => none

/-- The body that a step gives. -/
def body? : Step → Option Json
  | bearer _ => none
  | json body => some body

/-- The tokens that are given, in order. -/
def tokens (steps : List Step) : List String := steps.filterMap token?

/-- The bodies that are given, in order. -/
def bodies (steps : List Step) : List Json := steps.filterMap body?

/-- Whether a step gives a token. -/
def isBearer (step : Step) : Bool := step.token?.isSome

/-- Whether every token that is given may stand in a header. -/
def areSound (steps : List Step) : Bool := (tokens steps).all isToken

variable {steps steps' : List Step}

theorem areSound_iff : areSound steps = true ↔ ∀ token ∈ tokens steps, isToken token = true :=
  List.all_eq_true

theorem areSound_append : areSound (steps ++ steps') = (areSound steps && areSound steps') := by
  unfold areSound tokens
  rw [List.filterMap_append, List.all_append]

theorem areSound_cons (step : Step) :
    areSound (step :: steps) = (areSound [step] && areSound steps) :=
  @areSound_append [step] steps

/-- Where some token cannot stand in a header, there is a first one. -/
theorem exists_first_of_not_areSound (h : areSound steps = false) :
    ∃ before token after, steps = before ++ bearer token :: after ∧ isToken token = false ∧
      areSound before = true := by
  induction steps with
  | nil => cases h
  | cons step rest ih =>
    rw [areSound_cons] at h
    cases hstep : areSound [step] with
    | false =>
      cases step with
      | json body => cases hstep
      | bearer token =>
        have htoken : isToken token = false := by simpa [areSound, tokens, token?] using hstep
        exact ⟨[], token, rest, rfl, htoken, rfl⟩
    | true =>
      rw [hstep, Bool.true_and] at h
      obtain ⟨before, token, after, rfl, htoken, hbefore⟩ := ih h
      refine ⟨step :: before, token, after, rfl, htoken, ?_⟩
      rw [areSound_cons, hstep, hbefore]
      rfl

end Step

open Step (tokens bodies areSound)

/-! ### What a draft reflects -/

/-- The draft carries the last token and the last body that the steps have given; it has a failure
to report if and only if one of their tokens cannot stand in a header. -/
structure Reflects (security : TransportSecurity) (url : String) (steps : List Step)
    (draft : Draft) : Prop where
  url : draft.url = url
  security : draft.security = security
  failure : draft.failure = if areSound steps then none else some .invalidHeaderValue
  authorization : areSound steps = true →
    draft.authorization = (tokens steps).getLast?.map fun token => "Bearer " ++ token
  body : draft.body = (bodies steps).getLast?.map Json.text

section

variable {security : TransportSecurity} {url : String} {steps : List Step} {draft draft' : Draft}
  {service : Service}

theorem reflects_post (security : TransportSecurity) (url : String) :
    Reflects security url [] (post security url) := ⟨rfl, rfl, rfl, fun _ => rfl, rfl⟩

/-- Whether a token is accepted depends on the token alone. -/
theorem bearer_eq (draft : Draft) (token : String) :
    draft.bearer token =
      if isToken token then { draft with authorization := some ("Bearer " ++ token) }
      else { draft with failure := some .invalidHeaderValue } := by
  have hword : (Utf8.encode "Bearer ").all isValueByte = true := by decide
  have hvalue : isHeaderValue (Utf8.encode ("Bearer " ++ token)) = isToken token := by
    unfold isToken isHeaderValue Utf8.encode at *
    rw [String.toList_append, List.flatMap_append, List.all_append, hword, Bool.true_and]
  unfold bearer
  dsimp only
  rw [hvalue]

/-- A token is reflected: it becomes the last one, or it leaves a failure to report. -/
theorem Reflects.bearer (h : Reflects security url steps draft) (token : String) :
    Reflects security url (steps ++ [.bearer token]) (draft.bearer token) := by
  have hbodies : bodies (steps ++ [.bearer token]) = bodies steps := by
    simp [bodies, Step.body?]
  have hsound : areSound (steps ++ [.bearer token]) = (areSound steps && isToken token) := by
    rw [Step.areSound_append]
    simp [areSound, tokens, Step.token?]
  rw [bearer_eq]
  cases htoken : isToken token with
  | true =>
    rw [htoken, Bool.and_true] at hsound
    refine ⟨h.url, h.security, ?_, ?_, ?_⟩
    · rw [hsound]
      exact h.failure
    · intro _
      simp [tokens, Step.token?]
    · rw [hbodies]
      exact h.body
  | false =>
    rw [htoken, Bool.and_false] at hsound
    refine ⟨h.url, h.security, ?_, ?_, ?_⟩
    · rw [hsound]
      rfl
    · intro hcontra
      rw [hsound] at hcontra
      cases hcontra
    · rw [hbodies]
      exact h.body

/-- A body is reflected if it is taken. -/
theorem Reflects.json {body : Json} (h : Reflects security url steps draft)
    (hjson : draft.json body = .ok draft') :
    Reflects security url (steps ++ [.json body]) draft' := by
  have htokens : tokens (steps ++ [.json body]) = tokens steps := by
    simp [tokens, Step.token?]
  have hsound : areSound (steps ++ [.json body]) = areSound steps :=
    congrArg (List.all · isToken) htokens
  unfold Draft.json at hjson
  split at hjson
  case h_1 => cases hjson
  case h_2 =>
    obtain rfl := Except.ok.inj hjson
    refine ⟨h.url, h.security, ?_, ?_, ?_⟩
    · rw [hsound]
      exact h.failure
    · rw [hsound, htokens]
      exact h.authorization
    · simp [bodies, Step.body?]

/-- A step that is taken is reflected. -/
theorem Reflects.step {step : Step} (h : Reflects security url steps draft)
    (hstep : draft.step step = .ok draft') : Reflects security url (steps ++ [step]) draft' := by
  cases step with
  | bearer token =>
    obtain rfl := Except.ok.inj hstep
    exact h.bearer token
  | json body => exact h.json hstep

/-- A draft without a failure to report takes every step. -/
theorem exists_step_eq_ok (h : draft.failure = none) (step : Step) :
    ∃ draft', draft.step step = .ok draft' := by
  cases step with
  | bearer token => exact ⟨_, rfl⟩
  | json body =>
    unfold Draft.step Draft.json
    rw [h]
    exact ⟨_, rfl⟩

/-! ### Runs of steps -/

/-- Steps without a bad token are all taken, and what is left goes on with the draft that reflects
them. -/
theorem Reflects.deliver_append (h : Reflects security url steps draft) (service : Service)
    {more : List Step} (hsound : areSound (steps ++ more) = true) (rest : List Step) :
    ∃ draft', Reflects security url (steps ++ more) draft' ∧
      draft.deliver service (more ++ rest) = (draft'.deliver service rest).after more.length := by
  induction more generalizing steps draft with
  | nil => exact ⟨draft, by rwa [List.append_nil], by simp [Delivery.after]⟩
  | cons step more ih =>
    have hsteps : areSound steps = true := by
      rw [Step.areSound_append, Bool.and_eq_true] at hsound
      exact hsound.1
    have hnone : draft.failure = none := by
      rw [h.failure, hsteps]
      rfl
    obtain ⟨next, hnext⟩ := exists_step_eq_ok hnone step
    rw [List.append_cons] at hsound ⊢
    obtain ⟨draft', hreflects, hdeliver⟩ := ih (h.step hnext) hsound
    refine ⟨draft', hreflects, ?_⟩
    rw [List.cons_append, deliver, hnext]
    show Delivery.mk _ _ _ = _
    rw [hdeliver]
    simp only [Delivery.after, List.length_cons, Delivery.mk.injEq, and_true]
    omega

/-- A failure to report outlasts tokens, good or bad, and is reported by the next body, or by
sending if no body follows. -/
theorem deliver_of_failure (h : draft.failure = some .invalidHeaderValue) (service : Service)
    (rest : List Step) :
    draft.deliver service rest =
      ⟨(rest.takeWhile Step.isBearer).length, [], .error .invalidHeaderValue⟩ := by
  induction rest generalizing draft with
  | nil =>
    unfold deliver send request
    rw [h]
    rfl
  | cons step rest ih =>
    cases step with
    | bearer token =>
      have hnext : (draft.bearer token).failure = some .invalidHeaderValue := by
        rw [bearer_eq]
        split
        · exact h
        · rfl
      rw [deliver, Draft.step]
      show Delivery.mk _ _ _ = _
      rw [ih hnext]
      rfl
    | json body =>
      rw [deliver, Draft.step, Draft.json, h]
      rfl

/-! ### Sending -/

/-- A request is made for the addresses that are URIs to which requests may go. -/
theorem checkedUri_eq_ok_iff {uri : Uri} :
    checkedUri security url = .ok uri ↔ Uri.parse url = .ok uri ∧ security.Admits uri := by
  unfold checkedUri
  cases Uri.parse url with
  | error fault => simp
  | ok found =>
    have hfound : ((Except.ok found : Except UriFault Uri) = .ok uri ∧ security.Admits uri) ↔
        security.Admits found ∧ found = uri := by
      rw [Except.ok.injEq]
      constructor
      · rintro ⟨rfl, hadmits⟩
        exact ⟨hadmits, rfl⟩
      · rintro ⟨hadmits, rfl⟩
        exact ⟨rfl, hadmits⟩
    rw [hfound]
    unfold TransportSecurity.Admits
    by_cases hauthority : found.authority = ""
    · simp [hauthority]
    -- The authority is there, so the scheme decides.
    · rcases hscheme : found.scheme with _ | (_ | _ | name)
      · simp [hauthority, hscheme]
      · by_cases hinsecure : security = .allowInsecureHttp <;>
          simp [hauthority, hscheme, hinsecure]
      · simp [hauthority, hscheme]
      · simp [hauthority, hscheme]

/-- A request carries what steps have given: it is a POST to the address, with the last token as a
sensitive header if there is one, and with the last body if there is one. -/
structure Carries (url : String) (steps : List Step) (request : Request) : Prop where
  method : request.method = "POST"
  uri : Uri.parse url = .ok request.uri
  authorization : request.headers.filter (·.name = "authorization") =
    ((tokens steps).getLast?.map fun token =>
      ⟨"authorization", "Bearer " ++ token, true⟩).toList
  contentType : request.headers.filter (·.name = "content-type") =
    if (bodies steps).isEmpty then [] else [⟨"content-type", "application/json", false⟩]
  body : request.body = ((bodies steps).getLast?.map Json.text).getD ""

/-- The request of a draft carries what the steps have given. -/
theorem Reflects.carries {uri : Uri} (h : Reflects security url steps draft)
    (hsound : areSound steps = true) (hparse : Uri.parse url = .ok uri) :
    Carries url steps (draft.requestTo uri) := by
  constructor
  case method => rfl
  case uri => exact hparse
  case authorization =>
    unfold requestTo headers
    rw [h.authorization hsound]
    cases draft.body <;> cases (tokens steps).getLast? <;> rfl
  case contentType =>
    unfold requestTo headers
    rw [h.body]
    cases hbodies : bodies steps with
    | nil => cases draft.authorization <;> rfl
    | cons body rest =>
      rw [List.getLast?_cons]
      cases draft.authorization <;> rfl
  case body =>
    unfold requestTo
    rw [h.body]

/-- A draft without a failure to report is passed on to a service that is ready if requests may go
to its address. -/
theorem send_eq (h : draft.failure = none) (service : Service) :
    draft.send service =
      match checkedUri draft.security draft.url with
      | .ok uri =>
        ⟨0, if service.isReady then [draft.requestTo uri] else [], service.send⟩
      | .error failure => ⟨0, [], .error failure⟩ := by
  unfold send request
  rw [h]
  cases checkedUri draft.security draft.url <;> rfl

/-- A draft without a failure to report is sent once if requests may go to its address. -/
theorem Reflects.send (h : Reflects security url steps draft) (hsound : areSound steps = true)
    (hready : service.isReady = true) :
    draft.send service =
      match checkedUri security url with
      | .ok uri => ⟨0, [draft.requestTo uri], service.send⟩
      | .error failure => ⟨0, [], .error failure⟩ := by
  have hnone : draft.failure = none := by
    rw [h.failure, hsound]
    rfl
  rw [send_eq hnone, h.security, h.url, hready]
  rfl

/-! ### What the service sees -/

/-- Steps without a bad token are all taken, and then the address decides. -/
theorem deliver_of_areSound (hsound : areSound steps = true) (hready : service.isReady = true) :
    ∃ draft, Reflects security url steps draft ∧
      (∀ uri, checkedUri security url = .ok uri →
        (post security url).deliver service steps =
          ⟨steps.length, [draft.requestTo uri], service.send⟩) ∧
      ∀ failure, checkedUri security url = .error failure →
        (post security url).deliver service steps = ⟨steps.length, [], .error failure⟩ := by
  obtain ⟨draft, hreflects, hdeliver⟩ :=
    (reflects_post security url).deliver_append service hsound []
  rw [List.append_nil] at hdeliver
  have hsend : (post security url).deliver service steps =
      (draft.send service).after steps.length := hdeliver
  rw [hreflects.send hsound hready] at hsend
  refine ⟨draft, hreflects, ?_, ?_⟩
  · intro uri hcheck
    rw [hsend, hcheck]
    rfl
  · intro failure hcheck
    rw [hsend, hcheck]
    rfl

/-- The first bad token leaves a failure to report, and nothing is sent. -/
theorem deliver_of_not_areSound (hsound : areSound steps = false) (service : Service) :
    ∃ before token after, steps = before ++ .bearer token :: after ∧ isToken token = false ∧
      areSound before = true ∧
      (post security url).deliver service steps =
        ⟨before.length + 1 + (after.takeWhile Step.isBearer).length, [],
          .error .invalidHeaderValue⟩ := by
  obtain ⟨before, token, after, hsteps, htoken, hbefore⟩ := Step.exists_first_of_not_areSound hsound
  obtain ⟨draft, -, hdeliver⟩ :=
    (reflects_post security url).deliver_append service hbefore (.bearer token :: after)
  have hfailure : (draft.bearer token).failure = some .invalidHeaderValue := by
    rw [bearer_eq, htoken]
    rfl
  refine ⟨before, token, after, hsteps, htoken, hbefore, ?_⟩
  rw [hsteps, hdeliver, deliver, Draft.step]
  dsimp only
  rw [deliver_of_failure hfailure]
  simp only [Delivery.after, Delivery.mk.injEq, and_true]
  omega

/-- **A draft delivers exactly what it must.**  A service that is ready sees one request if every
token may stand in a header and requests may go to the address, and none otherwise; the request
carries what the steps have given.  A token that cannot stand in a header is reported before
anything else, by the first body after it or, if there is none, by sending. -/
theorem deliver_exact (security : TransportSecurity) (url : String) (steps : List Step)
    (hready : service.isReady = true) :
    let delivery := (post security url).deliver service steps
    delivery.seen.length ≤ 1 ∧
    (delivery.seen ≠ [] ↔ (∀ token ∈ tokens steps, isToken token = true) ∧
      ∃ uri, Uri.parse url = .ok uri ∧ security.Admits uri) ∧
    (∀ request ∈ delivery.seen, Carries url steps request ∧ security.Admits request.uri) ∧
    ((∃ token ∈ tokens steps, isToken token = false) →
      delivery.result = .error .invalidHeaderValue ∧
      ∃ before token after, steps = before ++ .bearer token :: after ∧ isToken token = false ∧
        (∀ earlier ∈ tokens before, isToken earlier = true) ∧
        delivery.taken = before.length + 1 + (after.takeWhile Step.isBearer).length) ∧
    (security = .tlsOnly → ∀ request ∈ delivery.seen, request.uri.scheme = some .https) := by
  intro delivery
  cases hsound : areSound steps with
  | true =>
    have htokens := Step.areSound_iff.mp hsound
    have hnoBad : ¬ ∃ token ∈ tokens steps, isToken token = false := by
      rintro ⟨token, hmem, hbad⟩
      rw [htokens token hmem] at hbad
      cases hbad
    obtain ⟨draft, hreflects, hok, herror⟩ := deliver_of_areSound hsound hready
    cases hcheck : checkedUri security url with
    | error failure =>
      have hdelivery : delivery = ⟨steps.length, [], .error failure⟩ := herror failure hcheck
      rw [hdelivery]
      refine ⟨Nat.zero_le 1, ?_, nofun, fun hbad => absurd hbad hnoBad, nofun⟩
      -- Nothing has been seen, and there is no address to which requests may go.
      refine ⟨fun h => absurd rfl h, ?_⟩
      rintro ⟨-, uri, huri⟩
      cases hcheck.symm.trans (checkedUri_eq_ok_iff.mpr huri)
    | ok uri =>
      obtain ⟨hparse, hadmits⟩ := checkedUri_eq_ok_iff.mp hcheck
      have hdelivery : delivery = ⟨steps.length, [_], service.send⟩ := hok uri hcheck
      rw [hdelivery]
      refine ⟨Nat.le_refl 1, ?_, ?_, fun hbad => absurd hbad hnoBad, ?_⟩
      · exact ⟨fun _ => ⟨htokens, uri, hparse, hadmits⟩, fun _ => List.cons_ne_nil _ _⟩
      · intro request hmem
        obtain rfl := List.mem_singleton.mp hmem
        exact ⟨hreflects.carries hsound hparse, hadmits⟩
      · rintro rfl request hmem
        obtain rfl := List.mem_singleton.mp hmem
        exact hadmits.2.resolve_right fun h => nomatch h.2
  | false =>
    obtain ⟨before, token, after, hsteps, htoken, hbefore, hdeliver⟩ :=
      deliver_of_not_areSound hsound service
    have hdelivery : delivery = _ := hdeliver
    rw [hdelivery]
    refine ⟨Nat.zero_le 1, ?_, nofun, fun _ => ⟨rfl, before, token, after, hsteps, htoken,
      Step.areSound_iff.mp hbefore, rfl⟩, nofun⟩
    refine ⟨fun h => absurd rfl h, ?_⟩
    rintro ⟨htokens, -⟩
    rw [Step.areSound_iff.mpr htokens] at hsound
    cases hsound

end

/-- A bad token is reported although a good one follows it and the address is refused; with good
tokens and over TLS the last one goes along. -/
theorem deliver_exact_tokens :
    let service := Service.answering 200 [] []
    let bad := "b\n"
    let steps (token : String) : List Step := [.bearer token, .bearer "c", .json .null]
    let sent (url : String) (token : String) := (post .tlsOnly url).deliver service (steps token)
    service.isReady = true ∧ bad ∈ tokens (steps bad) ∧ isToken bad = false ∧
    (sent "http://h/x" bad).result = .error .invalidHeaderValue ∧
    ∃ request ∈ (sent "https://h/x" "b").seen, request.uri.scheme = some .https ∧
      request.body = "null" ∧ request.headers.filter (·.name = "authorization") =
        [⟨"authorization", "Bearer c", true⟩] := by
  intro service bad steps sent
  have hready : service.isReady = true := rfl
  have hmem : bad ∈ tokens (steps bad) := List.mem_cons_self
  have hbad : isToken bad = false := by decide
  obtain ⟨-, -, -, hreports, -⟩ := deliver_exact .tlsOnly "http://h/x" (steps bad) hready
  refine ⟨hready, hmem, hbad, (hreports ⟨bad, hmem, hbad⟩).1, ?_⟩
  obtain ⟨-, hsees, hcarries, -, htls⟩ := deliver_exact .tlsOnly "https://h/x" (steps "b") hready
  have hseen : (sent "https://h/x" "b").seen ≠ [] :=
    hsees.mpr ⟨by decide, ⟨some .https, "h", "/x", none⟩, rfl, by decide, .inl rfl⟩
  obtain ⟨request, hrequest⟩ := List.exists_mem_of_ne_nil _ hseen
  obtain ⟨hcarried, -⟩ := hcarries request hrequest
  exact ⟨request, hrequest, htls rfl request hrequest, hcarried.body, hcarried.authorization⟩

end Draft

end RecordBridge.Http
