import RecordBridge.Connector.Http
import RecordBridge.Proofs.Connector.BulkEdit
import RecordBridge.Proofs.Http.UriReading
import RecordBridge.Proofs.Settings
import RecordBridge.Proofs.Url.Parts

/-!
# Where requests go

The URL of a request is the address of the service with the path of the request appended, and it is
read again by the rules of URIs.  The request stays at the service if something stands between the
authority of the service and that path, or the path itself starts with a sign that ends an authority
(`url_staysAtService`).  It then asks for the configured path if the address has no query and no
fragment and the configured path starts none.

All default paths are of that kind (`startsApart_default`); other paths are taken as they are
configured, so they can lead elsewhere (`url_leavesService`).
-/

namespace RecordBridge

/-- The paths of all endpoints. -/
def ServicePaths.endpoints (paths : ServicePaths) : List String :=
  [paths.objectLocator, paths.objectLocators, paths.loadByLocator, paths.search]

namespace StoreRequest

/-- The configured path of a request. -/
def endpoint (paths : ServicePaths) : StoreRequest → String
  | edit _ => paths.objectLocator
  | editAll _ => paths.objectLocators
  | load _ => paths.loadByLocator
  | search .. => paths.search

theorem endpoint_mem (paths : ServicePaths) (request : StoreRequest) :
    request.endpoint paths ∈ paths.endpoints := by
  cases request <;> simp [endpoint, ServicePaths.endpoints]

/-- The query of a request. -/
def pageQuery : StoreRequest → Option String
  | search _ pageSize => some ("pageSize=" ++ toString pageSize)
  | edit _ | editAll _ | load _ => none

/-- The path of a request is the configured path with the query behind it. -/
theorem toList_path (paths : ServicePaths) (request : StoreRequest) :
    (request.path paths).toList = (request.endpoint paths).toList ++
      (request.pageQuery.map String.toList).elim [] ('?' :: ·) := by
  cases request with
  | search request pageSize =>
    simp only [path, endpoint, pageQuery, Option.map_some, Option.elim_some, String.toList_append,
      List.append_assoc]
    rfl
  | _ => exact (List.append_nil _).symm

theorem hash_notMem_pageQuery (request : StoreRequest) :
    ∀ query ∈ request.pageQuery.map String.toList, '#' ∉ query := by
  cases request with
  | search request pageSize =>
    intro query hquery
    rw [← Option.some.inj hquery, String.toList_append]
    have h : Avoids ['#'] ("pageSize=".toList ++ (toString pageSize).toList) :=
      Avoids.append (by decide) (avoids_toString (by decide) pageSize)
    exact h '#' List.mem_cons_self
  | _ => exact nofun

end StoreRequest

/-- The text is empty or starts with a sign that ends an authority. -/
def StartsApart (text : List Char) : Prop :=
  ∀ c, text.head? = some c → Http.Uri.endsAuthority c = true

/-- A sign ends an authority if and only if it is one of three. -/
theorem endsAuthority_iff {c : Char} :
    Http.Uri.endsAuthority c = true ↔ c ∈ Url.authorityEnds := by
  simp [Http.Uri.endsAuthority, Url.authorityEnds, or_assoc]

theorem startsApart_iff {text : List Char} :
    StartsApart text ↔ text.takeWhile (!Http.Uri.endsAuthority ·) = [] := by
  cases text with
  | nil => simp [StartsApart]
  | cons c rest => cases h : Http.Uri.endsAuthority c <;> simp [StartsApart, h]

/-- What is appended to a URL of the web starts apart from the authority if something else stands
between them. -/
theorem startsApart_append_iff {url : Url} {authority : Authority} (h : url.IsDivided authority)
    (text : List Char) :
    StartsApart (Url.trimSlashes url.tail.toList ++ text) ↔
      (url.isBare = true → StartsApart text) := by
  by_cases hbare : url.isBare = true
  · rw [Url.trimSlashes_eq_nil_iff.mpr hbare, List.nil_append]
    exact ⟨fun htext _ => htext, fun htext => htext hbare⟩
  · refine ⟨fun _ hbare' => absurd hbare' hbare, fun _ c hc => ?_⟩
    have hne : Url.trimSlashes url.tail.toList ≠ [] := mt Url.trimSlashes_eq_nil_iff.mp hbare
    obtain ⟨rest, hpath, -⟩ := h.path_eq
    have hhead : url.tail.toList.head? = some '/' := by
      unfold Url.tail
      rw [String.toList_append, String.toList_append, hpath]
      rfl
    rw [List.head?_append, Url.head?_trimSlashes hne, hhead, Option.some_or] at hc
    rw [← Option.some.inj hc]
    rfl

/-- Every default path starts apart and starts no query and no fragment. -/
theorem startsApart_default (request : StoreRequest) :
    StartsApart (request.path .default).toList ∧
      Avoids Url.pathEnds (request.endpoint .default).toList := by
  have hdefault : ∀ endpoint ∈ ServicePaths.default.endpoints,
      endpoint.toList.head? = some '/' ∧ Avoids Url.pathEnds endpoint.toList := by decide
  obtain ⟨hhead, havoids⟩ := hdefault _ (request.endpoint_mem .default)
  refine ⟨?_, havoids⟩
  intro c hc
  rw [request.toList_path, List.head?_append, hhead, Option.some_or] at hc
  rw [← Option.some.inj hc]
  rfl

namespace Connector

variable {connector : Connector} {request : StoreRequest} {authority : Authority}
  {source : String} {uri : Http.Uri}

/-! ### The URL that is put together -/

/-- What follows the authority of the service in the URL of a request. -/
def appended (connector : Connector) (request : StoreRequest) : List Char :=
  Url.trimSlashes connector.settings.serviceUrl.tail.toList ++
    (request.path connector.settings.paths).toList

theorem toList_url (hdivided : connector.settings.serviceUrl.IsDivided authority)
    (htext : authority.text ≠ "") (request : StoreRequest) :
    (connector.url request).toList = connector.settings.serviceUrl.scheme.toList ++
      [':', '/', '/'] ++ (authority.text.toList ++ connector.appended request) := by
  unfold url transport Transport.url Transport.new Settings.baseUrl appended
  rw [String.toList_append, (hdivided.printsHost htext).baseText_eq]
  simp only [List.append_assoc]

/-! ### The URI that is read -/

/-- The URL of a request is read as the scheme and the authority of the service, as far as nothing
extends that authority, and what follows. -/
theorem parse_url_eq_ok (husable : connector.settings.IsUsable)
    (hdivided : connector.settings.serviceUrl.IsDivided authority)
    (huri : Http.Uri.parse (connector.url request) = .ok uri) :
    uri.scheme.map Http.Scheme.text = some connector.settings.serviceUrl.scheme ∧
      uri.authority.toList = authority.text.toList ++
        (connector.appended request).takeWhile (!Http.Uri.endsAuthority ·) ∧
      Http.Uri.pathAndQuery ((connector.appended request).dropWhile
        (!Http.Uri.endsAuthority ·)) = .ok (uri.path, uri.query) := by
  obtain ⟨scheme, hname, hadmitted⟩ := husable.exists_scheme
  have hscheme : scheme = .http ∨ scheme = .https := hadmitted.symm.imp_left And.left
  have htext := Url.authorityText_ne_empty husable.host hdivided.authority_eq
  have hurl := toList_url hdivided htext request
  rw [← hname] at hurl ⊢
  obtain ⟨hscheme', -, hauthority, hpath⟩ := Http.Uri.parse_eq_ok hscheme hurl huri
  -- The authority of the service ends nowhere by itself.
  have hunbroken : ∀ c ∈ authority.text.toList, (!Http.Uri.endsAuthority c) = true := by
    intro c hc
    cases hends : Http.Uri.endsAuthority c with
    | false => rfl
    | true => exact absurd hc (hdivided.avoids_text c (endsAuthority_iff.mp hends))
  rw [List.takeWhile_append_of_pos hunbroken] at hauthority
  rw [List.dropWhile_append_of_pos hunbroken] at hpath
  refine ⟨?_, ?_, hpath⟩
  · rw [hscheme']
    rfl
  · rw [hauthority, String.toList_ofList]

/-- If nothing starts a query or a fragment too early, the configured path ends the path that is
read. -/
theorem pathAndQuery_appended (hdivided : connector.settings.serviceUrl.IsDivided authority)
    (hquery : connector.settings.serviceUrl.query = none)
    (hfragment : connector.settings.serviceUrl.fragment = none)
    (hendpoint : Avoids Url.pathEnds (request.endpoint connector.settings.paths).toList)
    (h : Http.Uri.pathAndQuery (connector.appended request) = .ok (uri.path, uri.query)) :
    uri.path = Http.Uri.rooted (Url.trimSlashes connector.settings.serviceUrl.path.toList ++
        (request.endpoint connector.settings.paths).toList) ∧
      uri.query = request.pageQuery := by
  have htail : connector.settings.serviceUrl.tail = connector.settings.serviceUrl.path := by
    unfold Url.tail
    rw [hquery, hfragment]
    simp only [Url.behind, String.append_empty]
  have hservice : Avoids Url.pathEnds connector.settings.serviceUrl.path.toList := by
    obtain ⟨rest, hpath, hrest⟩ := hdivided.path_eq
    have hslash : Avoids Url.pathEnds ['/'] := by decide
    rw [hpath]
    exact hslash.append hrest
  have havoids := (Url.avoids_trimSlashes hservice).append hendpoint
  unfold appended at h
  rw [htail, request.toList_path, ← List.append_assoc] at h
  obtain ⟨hpath, hqueryRead⟩ := Http.Uri.pathAndQuery_eq_ok (havoids '?' (by decide))
    (havoids '#' (by decide)) request.hash_notMem_pageQuery h
  refine ⟨hpath, hqueryRead.trans ?_⟩
  cases request.pageQuery with
  | none => rfl
  | some query => exact congrArg some String.ofList_toList

/-- **Requests stay at the service** if something stands between its authority and the path of the
request, or the path starts with a sign that ends an authority.  They then ask for the configured
path, if nothing puts it into a query or a fragment. -/
theorem url_staysAtService (hvalid : connector.settings.validate = .ok ())
    (hsource : Url.parse? source = some connector.settings.serviceUrl)
    (huri : Http.Uri.parse (connector.url request) = .ok uri) :
    let serviceUrl := connector.settings.serviceUrl
    let endpoint := request.endpoint connector.settings.paths
    ∃ authority, serviceUrl.authority = some authority ∧
      uri.scheme.map Http.Scheme.text = some serviceUrl.scheme ∧
      (uri.authority = authority.text ↔ (serviceUrl.isBare = true →
        StartsApart (request.path connector.settings.paths).toList)) ∧
      (uri.authority = authority.text → serviceUrl.query = none → serviceUrl.fragment = none →
        Avoids Url.pathEnds endpoint.toList →
        uri.path = Http.Uri.rooted
            (Url.trimSlashes serviceUrl.path.toList ++ endpoint.toList) ∧
          uri.query = request.pageQuery) := by
  intro serviceUrl endpoint
  have husable := Settings.validate_eq_ok_iff.mp hvalid
  have hweb : serviceUrl.scheme = "https" ∨ serviceUrl.scheme = "http" :=
    husable.scheme.imp_right And.left
  obtain ⟨authority, hdivided⟩ := Url.isDivided_of_parse? hsource hweb
  obtain ⟨hscheme, hauthority, hpath⟩ := parse_url_eq_ok husable hdivided huri
  have happended : uri.authority = authority.text ↔ StartsApart (connector.appended request) := by
    rw [startsApart_iff, ← String.toList_inj, hauthority]
    exact List.append_right_eq_self
  refine ⟨authority, hdivided.authority_eq, hscheme, ?_, ?_⟩
  · exact happended.trans (startsApart_append_iff hdivided _)
  · intro hsame hquery hfragment hendpoint
    have hnil := startsApart_iff.mp (happended.mp hsame)
    have hwhole : _ ++ _ = connector.appended request :=
      @List.takeWhile_append_dropWhile _ (!Http.Uri.endsAuthority ·) _
    rw [hnil, List.nil_append] at hwhole
    rw [hwhole] at hpath
    exact pathAndQuery_appended hdivided hquery hfragment hendpoint hpath

/-! ### Requests that stay and requests that leave -/

/-- Loading an item by the default path asks the service for it. -/
theorem url_staysAtService_item :
    let locator := Locator.single "thing" "id" (.string "1")
    ∃ uri, Http.Uri.parse (itemConnector.url (.load locator)) = .ok uri ∧
      uri.authority = "store.example" ∧ uri.path = "/storage/load/objectsByLocator" := by
  intro locator
  have hvalid : itemConnector.settings.validate = .ok () := rfl
  have hsource : Url.parse? "https://store.example" = some itemConnector.settings.serviceUrl := by
    decide +kernel
  have huri : Http.Uri.parse (itemConnector.url (.load locator)) =
      .ok ⟨some .https, "store.example", "/storage/load/objectsByLocator", none⟩ := by
    decide +kernel
  obtain ⟨authority, hauthority, -, hstays, hpath⟩ := url_staysAtService hvalid hsource huri
  obtain ⟨hapart, havoids⟩ := startsApart_default (.load locator)
  have hsame := hstays.mpr fun _ => hapart
  obtain rfl := Option.some.inj hauthority
  exact ⟨_, huri, hsame, (hpath hsame rfl rfl havoids).1.trans (by decide)⟩

/-- The connector of items with an address for the service and a path for loads. -/
def itemConnectorAt (serviceUrl : Url) (loadByLocator : String) : Connector :=
  { itemConnector with settings := { itemConnector.settings with
      serviceUrl, paths := { ServicePaths.default with loadByLocator } } }

/-- The token goes to another host if the path extends the authority, and another path is asked for
if the address has a query or the path starts one. -/
theorem url_leavesService :
    let target (serviceUrl : Url) (loadByLocator : String) := Http.Uri.parse
      ((itemConnectorAt serviceUrl loadByLocator).url (.load (.single "thing" "id" (.string "1"))))
    ∃ plain queried, Url.parse? "https://store.example" = some plain ∧
      Url.parse? "https://store.example/?tenant=1" = some queried ∧
      plain.authority = some ⟨"", "", "store.example", none⟩ ∧
      (itemConnectorAt plain "@evil.example/load").settings.validate = .ok () ∧
      (itemConnectorAt queried "/load").settings.validate = .ok () ∧
      target plain "@evil.example/load" =
        .ok ⟨some .https, "store.example@evil.example", "/load", none⟩ ∧
      target plain "/load?tenant=1" = .ok ⟨some .https, "store.example", "/load", some "tenant=1"⟩ ∧
      target queried "/load" = .ok ⟨some .https, "store.example", "/", some "tenant=1/load"⟩ := by
  intro target
  refine ⟨⟨"https", some ⟨"", "", "store.example", none⟩, "/", none, none⟩,
    ⟨"https", some ⟨"", "", "store.example", none⟩, "/", some "tenant=1", none⟩, ?_, ?_, rfl, rfl,
    rfl, ?_, ?_, ?_⟩
  all_goals decide +kernel

end Connector

end RecordBridge
