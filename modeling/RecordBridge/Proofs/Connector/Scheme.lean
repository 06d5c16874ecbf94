import RecordBridge.Connector.Http
import RecordBridge.Proofs.Connector.BulkEdit
import RecordBridge.Proofs.Http.Delivery
import RecordBridge.Proofs.Http.Reading
import RecordBridge.Proofs.Http.UriReading
import RecordBridge.Proofs.Settings
import RecordBridge.Proofs.Url.Parts

/-!
# The scheme is checked alike in settings and in requests

Settings say which scheme the address of the service may have, and every request is checked again
once its path stands behind that address.  The second check adds nothing: whatever the path, a
request may go to its URL if that is a URI at all (`Transport.checkedUri_url`).

A post fails for its target only in that check (`Transport.checkedUri_of_post`), since neither a
service nor the reading of its answer reports such failures.  So with usable settings no post is
refused for its scheme or for a missing host, and all of them go over TLS unless plain HTTP is
allowed (`Transport.post_agreesWithSettings`).
-/

namespace RecordBridge

/-- The failure is about the target of a request. -/
def HttpFailure.isOfTarget : HttpFailure → Bool
  | invalidUri .. | invalidScheme _ => true
  | _ => false

variable {failure : HttpFailure}

namespace Http

/-- A text that is no URI is reported in other words than a missing scheme or host. -/
theorem UriFault.message_ne (fault : UriFault) :
    fault.message ≠ "missing host" ∧ fault.message ≠ "missing scheme" := by
  cases fault <;> decide

/-! ### Failures of the service -/

/-- A service that sees a request and does not answer leaves nothing but a time-out or a connection
that failed. -/
def Service.FailsBelowHttp (service : Service) : Prop :=
  ∀ failure, service = .failing failure →
    (∃ after, failure = .timeout after) ∨ ∃ reason, failure = .transport reason

theorem Service.isOfTarget_of_send {service : Service} (hservice : service.FailsBelowHttp)
    (h : service.send = .error failure) : failure.isOfTarget = false := by
  cases service with
  | closed =>
    rw [← Except.error.inj h]
    rfl
  | notReady reason =>
    rw [← Except.error.inj h]
    rfl
  | failing reason =>
    obtain rfl := Except.error.inj h
    rcases hservice reason rfl with ⟨after, rfl⟩ | ⟨text, rfl⟩ <;> rfl
  | answering status headers frames =>
    unfold send Response.assemble at h
    dsimp only at h
    split_ifs at h <;> (rw [← Except.error.inj h]; rfl)

/-! ### Failures of reading -/

theorem isOfTarget_of_collect {limit : Nat} {frames : List Frame}
    (h : collect limit frames = .error failure) : failure.isOfTarget = false := by
  rcases (collect_eq_iff.mp h).exists_of_error with ⟨actual, rfl⟩ | ⟨reason, rfl⟩ <;> rfl

theorem isOfTarget_of_parseBody {body : Bytes} (h : parseBody body = .error failure) :
    failure.isOfTarget = false := by
  unfold parseBody at h
  split_ifs at h
  cases hread : Json.ofBytes body with
  | ok json =>
    rw [hread] at h
    cases h
  | error error =>
    rw [hread] at h
    rw [← Except.error.inj h]
    rfl

theorem isOfTarget_of_preview {read : Except HttpFailure Bytes}
    (hread : ∀ failure, read = .error failure → failure.isOfTarget = false)
    (h : Response.preview read = .error failure) : failure.isOfTarget = false := by
  unfold Response.preview at h
  split at h
  case h_1 => cases h
  case h_2 => cases h
  case h_3 failure' _ => exact Except.error.inj h ▸ hread failure' rfl

theorem Response.isOfTarget_of_readJson {maxBodySize : Nat} {response : Response}
    (h : response.readJson maxBodySize = .error failure) : failure.isOfTarget = false := by
  unfold readJson at h
  split_ifs at h
  · split at h
    case h_1 body _ => exact isOfTarget_of_parseBody h
    case h_2 failure' hcollect => exact Except.error.inj h ▸ isOfTarget_of_collect hcollect
  · split at h
    case h_1 text _ =>
      rw [← Except.error.inj h]
      rfl
    case h_2 failure' hpreview =>
      rw [← Except.error.inj h]
      exact isOfTarget_of_preview (fun _ => isOfTarget_of_collect) hpreview

end Http

namespace Transport

variable {transport : Transport} {settings : Settings} {service : Http.Service} {path : String}
  {body : Json} {host rest : List Char} {uri : Http.Uri}

/-! ### Posting -/

/-- The token is checked first, then the URL, and then the request is sent. -/
theorem deliver_eq (transport : Transport) (service : Http.Service) (path : String) (body : Json) :
    transport.deliver service path body =
      if Http.isToken transport.apiToken then
        match Http.checkedUri transport.client.security (transport.url path) with
        | .ok uri =>
          ⟨2, if service.isReady then [⟨"POST", uri, [⟨"user-agent", Http.userAgent, false⟩,
            ⟨"content-type", "application/json", false⟩,
            ⟨"authorization", "Bearer " ++ transport.apiToken, true⟩], body.text⟩] else [],
            service.send⟩
        | .error failure => ⟨2, [], .error failure⟩
      else ⟨1, [], .error .invalidHeaderValue⟩ := by
  unfold deliver
  rw [Http.Draft.deliver, Http.Draft.step, Http.Draft.bearer_eq]
  cases Http.isToken transport.apiToken with
  | false => rfl
  | true =>
    rw [if_pos rfl, if_pos rfl]
    dsimp only
    -- There is no failure to report, so the body is set and the draft is sent.
    rw [Http.Draft.deliver, Http.Draft.step, Http.Draft.json]
    dsimp only [Http.Draft.post]
    rw [Http.Draft.deliver, Http.Draft.send_eq rfl]
    cases Http.checkedUri transport.client.security (transport.url path) <;> rfl

/-- The token is refused, or the URL is, or the service gets to see a request to that URL. -/
theorem deliver_cases (transport : Transport) (service : Http.Service) (path : String)
    (body : Json) :
    let delivery := transport.deliver service path body
    let check := Http.checkedUri transport.client.security (transport.url path)
    (delivery.seen = [] ∧ delivery.result = .error .invalidHeaderValue) ∨
    (∃ failure, check = .error failure ∧ delivery.seen = [] ∧ delivery.result = .error failure) ∨
    ∃ uri, check = .ok uri ∧ (∀ request ∈ delivery.seen, request.uri = uri) ∧
      delivery.result = service.send := by
  intro delivery check
  have hdelivery : delivery = _ := deliver_eq transport service path body
  by_cases htoken : Http.isToken transport.apiToken = true
  · rw [if_pos htoken] at hdelivery
    cases hcheck : Http.checkedUri transport.client.security (transport.url path) with
    | error failure =>
      rw [hcheck] at hdelivery
      rw [hdelivery]
      exact .inr (.inl ⟨failure, hcheck, rfl, rfl⟩)
    | ok uri =>
      rw [hcheck] at hdelivery
      rw [hdelivery]
      refine .inr (.inr ⟨uri, hcheck, ?_, rfl⟩)
      intro request hrequest
      dsimp only at hrequest
      split at hrequest
      · rw [List.mem_singleton.mp hrequest]
      · cases hrequest
  · rw [if_neg htoken] at hdelivery
    rw [hdelivery]
    exact .inl ⟨rfl, rfl⟩

/-- What the service sees has passed the check of the URL. -/
theorem checkedUri_of_seen {request : Http.Request}
    (h : request ∈ (transport.deliver service path body).seen) :
    Http.checkedUri transport.client.security (transport.url path) = .ok request.uri := by
  rcases transport.deliver_cases service path body with
    ⟨hseen, -⟩ | ⟨failure, -, hseen, -⟩ | ⟨uri, hcheck, hseen, -⟩
  · rw [hseen] at h
    cases h
  · rw [hseen] at h
    cases h
  · rw [hcheck, hseen request h]

/-- A post fails for its target only if the check of the URL does. -/
theorem checkedUri_of_post (hservice : service.FailsBelowHttp)
    (h : transport.post service path body = .error failure) (htarget : failure.isOfTarget = true) :
    Http.checkedUri transport.client.security (transport.url path) = .error failure := by
  unfold post at h
  split at h
  -- Reading an answer never fails for the target.
  case h_2 response _ =>
    rw [Http.Response.isOfTarget_of_readJson h] at htarget
    cases htarget
  case h_1 failure' hresult =>
    obtain rfl := Except.error.inj h
    rcases transport.deliver_cases service path body with
      ⟨-, htoken⟩ | ⟨reason, hcheck, -, hrefused⟩ | ⟨uri, -, -, hsent⟩
    · obtain rfl := Except.error.inj (hresult.symm.trans htoken)
      cases htarget
    · rw [hcheck, Except.error.inj (hrefused.symm.trans hresult)]
    · -- The request went out, so the failure is one of the service.
      rw [Http.Service.isOfTarget_of_send hservice (hsent.symm.trans hresult)] at htarget
      cases htarget

/-! ### The check of the URL -/

/-- The URL behind a path starts with the scheme of the address of the service, whatever the
path. -/
theorem toList_url (hprints : settings.serviceUrl.PrintsHost host rest) (path : String) :
    ((new settings).url path).toList = settings.serviceUrl.scheme.toList ++ [':', '/', '/'] ++
      (host ++ Url.trimSlashes rest ++ path.toList) := by
  show (settings.serviceUrl.baseText ++ path).toList = _
  rw [String.toList_append, hprints.baseText_eq]
  simp only [List.append_assoc]

/-- An address that was read prints its host. -/
theorem exists_printsHost_of_parse? {source : String} (husable : settings.IsUsable)
    (hsource : Url.parse? source = some settings.serviceUrl) :
    ∃ host rest, settings.serviceUrl.PrintsHost host rest := by
  have hweb := husable.scheme.imp_right And.left
  obtain ⟨authority, hdivided⟩ := Url.isDivided_of_parse? hsource hweb
  have htext := Url.authorityText_ne_empty husable.host hdivided.authority_eq
  exact ⟨_, _, hdivided.printsHost htext⟩

/-- So a URI that is read there has this scheme and an authority, and requests may go to it. -/
theorem admits_of_parse (husable : settings.IsUsable)
    (hprints : settings.serviceUrl.PrintsHost host rest)
    (hparse : Http.Uri.parse ((new settings).url path) = .ok uri) :
    uri.scheme.map Http.Scheme.text = some settings.serviceUrl.scheme ∧
      (new settings).client.security.Admits uri := by
  obtain ⟨scheme, hname, hadmitted⟩ := husable.exists_scheme
  have hknown : scheme = .http ∨ scheme = .https := hadmitted.symm.imp_left And.left
  have hurl := toList_url hprints path
  rw [← hname] at hurl ⊢
  obtain ⟨hscheme, hauthority, -⟩ := Http.Uri.parse_eq_ok hknown hurl hparse
  rw [hscheme]
  refine ⟨rfl, hauthority, ?_⟩
  rw [hscheme]
  exact hadmitted.imp (congrArg some) (And.imp_left (congrArg some))

/-- The check of the URL refuses nothing but texts that are no URIs. -/
theorem checkedUri_url (husable : settings.IsUsable)
    (hprints : settings.serviceUrl.PrintsHost host rest) (path : String) :
    let url := (new settings).url path
    Http.checkedUri (new settings).client.security url =
      (Http.Uri.parse url).mapError fun fault => .invalidUri url fault.message := by
  intro url
  cases hparse : Http.Uri.parse url with
  | error fault =>
    unfold Http.checkedUri
    rw [hparse]
    rfl
  | ok uri =>
    obtain ⟨-, hadmits⟩ := admits_of_parse husable hprints hparse
    exact Http.Draft.checkedUri_eq_ok_iff.mpr ⟨hparse, hadmits⟩

/-- So a post fails for its target only if its URL is no URI. -/
theorem exists_fault_of_post (husable : settings.IsUsable)
    (hprints : settings.serviceUrl.PrintsHost host rest) (hservice : service.FailsBelowHttp)
    (h : (new settings).post service path body = .error failure)
    (htarget : failure.isOfTarget = true) :
    ∃ fault : Http.UriFault, failure = .invalidUri ((new settings).url path) fault.message := by
  have hcheck := checkedUri_of_post hservice h htarget
  rw [checkedUri_url husable hprints] at hcheck
  cases hparse : Http.Uri.parse ((new settings).url path) with
  | ok uri =>
    rw [hparse] at hcheck
    cases hcheck
  | error fault =>
    rw [hparse] at hcheck
    exact ⟨fault, (Except.error.inj hcheck).symm⟩

/-- **Settings and requests agree about the scheme.**  With usable settings and an address that
prints its host, no post fails for its scheme or for a missing host or scheme, whatever the path; a
request may go to every URL that is a URI, with the scheme of the address, and what the service sees
has passed that check.  Unless plain HTTP is allowed, the scheme is `https`. -/
theorem post_agreesWithSettings (hvalid : settings.validate = .ok ())
    (hprints : settings.serviceUrl.PrintsHost host rest) (hservice : service.FailsBelowHttp)
    (path : String) (body : Json) :
    let transport := new settings
    let check := Http.checkedUri transport.client.security (transport.url path)
    (∀ failure, transport.post service path body = .error failure →
      (∀ scheme, failure ≠ .invalidScheme scheme) ∧
      ∀ url reason, failure = .invalidUri url reason →
        reason ≠ "missing host" ∧ reason ≠ "missing scheme") ∧
    (∀ uri, check = .ok uri ↔ Http.Uri.parse (transport.url path) = .ok uri) ∧
    (∀ uri, check = .ok uri →
      uri.scheme.map Http.Scheme.text = some settings.serviceUrl.scheme ∧
      (settings.allowInsecureHttp = false → uri.scheme = some .https)) ∧
    ∀ request ∈ (transport.deliver service path body).seen, check = .ok request.uri := by
  intro transport check
  have husable := Settings.validate_eq_ok_iff.mp hvalid
  have hcheck : check = (Http.Uri.parse (transport.url path)).mapError _ :=
    checkedUri_url husable hprints path
  have hok (uri : Http.Uri) : check = .ok uri ↔ Http.Uri.parse (transport.url path) = .ok uri := by
    rw [hcheck, mapError_eq_ok_iff]
  refine ⟨?_, hok, ?_, fun request => checkedUri_of_seen⟩
  · intro failure hfails
    have hfault := exists_fault_of_post husable hprints hservice hfails
    constructor
    · rintro scheme rfl
      obtain ⟨fault, hfault⟩ := hfault rfl
      cases hfault
    · rintro url reason rfl
      obtain ⟨fault, hfault⟩ := hfault rfl
      obtain ⟨-, rfl⟩ := HttpFailure.invalidUri.inj hfault
      exact fault.message_ne
  · intro uri huri
    obtain ⟨hscheme, hadmits⟩ := admits_of_parse husable hprints ((hok uri).mp huri)
    refine ⟨hscheme, fun hsecure => hadmits.2.resolve_right ?_⟩
    rintro ⟨-, hinsecure⟩
    have hsecurity : settings.security = .tlsOnly := by
      unfold Settings.security
      rw [hsecure]
      rfl
    cases hsecurity.symm.trans hinsecure

/-- A path that extends the host of the service leads to another host, and still by the scheme of
the settings; a connection that fails there is reported as such. -/
theorem post_agreesWithSettings_otherHost :
    let settings := Connector.itemConnector.settings
    let transport := new settings
    let service := Http.Service.failing (.transport "connection refused")
    let path := "@other.example/load"
    settings.validate = .ok () ∧ (∃ host rest, settings.serviceUrl.PrintsHost host rest) ∧
    service.FailsBelowHttp ∧
    transport.post service path .null = .error (.transport "connection refused") ∧
    ∃ uri, Http.checkedUri transport.client.security (transport.url path) = .ok uri ∧
      uri.authority = "store.example@other.example" ∧ uri.scheme = some .https := by
  intro settings transport service path
  have hvalid : Connector.itemConnector.settings.validate = .ok () := rfl
  have hsource : Url.parse? "https://store.example" = some settings.serviceUrl := by decide +kernel
  obtain ⟨host, rest, hprints⟩ :=
    exists_printsHost_of_parse? (Settings.validate_eq_ok_iff.mp hvalid) hsource
  have hservice : service.FailsBelowHttp := by
    intro failure hfailing
    exact .inr ⟨_, (Http.Service.failing.inj hfailing).symm⟩
  have hparse : Http.Uri.parse (transport.url path) =
      .ok ⟨some .https, "store.example@other.example", "/load", none⟩ := by decide +kernel
  obtain ⟨-, hpasses, hschemes, -⟩ := post_agreesWithSettings hvalid hprints hservice path .null
  have huri := (hpasses _).mpr hparse
  refine ⟨hvalid, ⟨host, rest, hprints⟩, hservice, ?_, _, huri, rfl, (hschemes _ huri).2 rfl⟩
  have htoken : Http.isToken transport.apiToken = true := by decide
  unfold post
  rw [deliver_eq, if_pos htoken, huri]
  rfl

end Transport

end RecordBridge
