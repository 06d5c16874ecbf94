import Mathlib.Data.List.TakeWhile
import RecordBridge.Http.Uri
import RecordBridge.Proofs.Success

/-!
# What a URI is read from

A text that starts with a scheme of HTTP is read from left to right: the authority is everything up
to the first sign that ends it (`authorityFrom_eq_ok`, `parse_eq_ok`), and the path is everything
after it up to a question mark (`pathAndQuery_eq_ok`).  Nothing is rewritten, so the parts of a text
that is put together come back as they were put in.
-/

namespace RecordBridge.Http.Uri

variable {scheme : Scheme} {text found left : List Char} {uri : Uri}

/-! ### Schemes -/

theorem dropPrefix?_append {start : List Char} (h : start.map Char.toLower = start)
    (rest : List Char) : dropPrefix? start (start ++ rest) = some rest := by
  unfold dropPrefix?
  rw [List.take_left, List.drop_left, if_pos h]

theorem splitScheme_known (h : scheme = .http ∨ scheme = .https) (rest : List Char) :
    splitScheme (scheme.text.toList ++ [':', '/', '/'] ++ rest) = .ok (some scheme, rest) := by
  unfold splitScheme
  rcases h with rfl | rfl
  · have hdrop : dropPrefix? ['h', 't', 't', 'p', ':', '/', '/']
        (Scheme.http.text.toList ++ [':', '/', '/'] ++ rest) = some rest :=
      dropPrefix?_append (by decide) rest
    rw [hdrop]
  · have hother : dropPrefix? ['h', 't', 't', 'p', ':', '/', '/']
        (Scheme.https.text.toList ++ [':', '/', '/'] ++ rest) = none := rfl
    have hdrop : dropPrefix? ['h', 't', 't', 'p', 's', ':', '/', '/']
        (Scheme.https.text.toList ++ [':', '/', '/'] ++ rest) = some rest :=
      dropPrefix?_append (by decide) rest
    rw [hother, hdrop]

/-! ### Authorities -/

/-- An authority ends where the first sign stands that ends it. -/
theorem authorityFrom_eq_ok {s : AuthorityScan} {seen : List Char}
    (h : authorityFrom s seen text = .ok (found, left)) :
    found = seen.reverse ++ text.takeWhile (!endsAuthority ·) ∧
      left = text.dropWhile (!endsAuthority ·) := by
  induction text generalizing s seen with
  | nil =>
    unfold authorityFrom at h
    split at h
    · obtain ⟨rfl, rfl⟩ := Prod.mk.inj (Except.ok.inj h)
      simp
    · cases h
  | cons c rest ih =>
    unfold authorityFrom at h
    split at h
    case isTrue hends =>
      split at h
      · obtain ⟨rfl, rfl⟩ := Prod.mk.inj (Except.ok.inj h)
        simp [hends]
      · cases h
    case isFalse hends =>
      split at h
      case h_1 =>
        obtain ⟨rfl, rfl⟩ := ih h
        simp [hends]
      case h_2 => cases h

theorem splitAuthority_eq_ok (h : splitAuthority text = .ok (found, left)) :
    found = text.takeWhile (!endsAuthority ·) ∧ left = text.dropWhile (!endsAuthority ·) := by
  unfold splitAuthority at h
  split at h
  · cases h
  · exact authorityFrom_eq_ok h

/-! ### Paths and queries -/

/-- An empty path is the root. -/
def rooted (path : List Char) : String := if path.isEmpty then "/" else String.ofList path

/-- A path that is put in front of a query comes back, and so does the query. -/
theorem pathAndQuery_eq_ok {path : List Char} {query : Option (List Char)} {pathRead : String}
    {queryRead : Option String} (hquestion : '?' ∉ path)
    (hhash : '#' ∉ path) (hquery : ∀ q ∈ query, '#' ∉ q)
    (h : pathAndQuery (path ++ query.elim [] ('?' :: ·)) = .ok (pathRead, queryRead)) :
    pathRead = rooted path ∧ queryRead = query.map String.ofList := by
  have hchars : ∀ c ∈ path, isPathChar c = true := by
    rw [← List.dropWhile_eq_nil_iff]
    cases hdrop : path.dropWhile isPathChar with
    | nil => rfl
    | cons c rest =>
      -- What stops the path is neither sign that may end it, so nothing is read.
      have hmem : c ∈ path := List.dropWhile_subset _ (hdrop ▸ List.mem_cons_self)
      have hne (sign : Char) (h : sign ∉ path) : c ≠ sign := fun hc => h (hc ▸ hmem)
      unfold pathAndQuery at h
      rw [List.dropWhile_append, hdrop] at h
      simp [hne '?' hquestion, hne '#' hhash] at h
  unfold pathAndQuery at h
  rw [List.takeWhile_append_of_pos hchars, List.dropWhile_append_of_pos hchars] at h
  cases query with
  | none =>
    obtain ⟨rfl, rfl⟩ := Prod.mk.inj (Except.ok.inj h)
    simp [rooted]
  | some query =>
    have hstop : isPathChar '?' = false := rfl
    have hsign : '?' ≠ '#' := by decide
    simp only [Option.elim_some, List.takeWhile_cons, List.dropWhile_cons, hstop,
      Bool.false_eq_true, if_false, hsign, if_true, List.append_nil] at h
    cases hdrop : query.dropWhile isQueryChar with
    | nil =>
      have hwhole : query.takeWhile isQueryChar = query :=
        List.takeWhile_eq_self_iff.mpr (List.dropWhile_eq_nil_iff.mp hdrop)
      rw [hdrop, hwhole] at h
      obtain ⟨rfl, rfl⟩ := Prod.mk.inj (Except.ok.inj h)
      exact ⟨rfl, rfl⟩
    | cons c rest =>
      have hmem : c ∈ query := List.dropWhile_subset _ (hdrop ▸ List.mem_cons_self)
      rw [hdrop] at h
      dsimp only at h
      split at h
      case isTrue hc => exact absurd (hc ▸ hmem) (hquery query rfl)
      case isFalse => cases h

/-! ### The whole -/

/-- A text with a scheme of HTTP is read part by part, and refused if it has no authority. -/
theorem parse_eq_ok {start : String} {rest : List Char} (hscheme : scheme = .http ∨ scheme = .https)
    (htext : start.toList = scheme.text.toList ++ [':', '/', '/'] ++ rest)
    (h : parse start = .ok uri) :
    uri.scheme = some scheme ∧ uri.authority ≠ "" ∧
      uri.authority = String.ofList (rest.takeWhile (!endsAuthority ·)) ∧
      pathAndQuery (rest.dropWhile (!endsAuthority ·)) = .ok (uri.path, uri.query) := by
  have hfull : parseFull (scheme.text.toList ++ [':', '/', '/'] ++ rest) = .ok uri := by
    unfold parse at h
    rw [htext] at h
    split at h
    · cases h
    · rcases hscheme with rfl | rfl <;> exact h
  unfold parseFull at hfull
  rw [splitScheme_known hscheme] at hfull
  obtain ⟨_, hsplit, hrest⟩ := bind_eq_ok_iff.mp hfull
  obtain rfl := Except.ok.inj hsplit
  obtain ⟨⟨authority, left⟩, hauthority, hfull⟩ := bind_eq_ok_iff.mp hrest
  obtain ⟨rfl, rfl⟩ := splitAuthority_eq_ok hauthority
  dsimp only at hfull
  split at hfull
  case isTrue => cases hfull
  case isFalse hauthority =>
    obtain ⟨⟨path, query⟩, hpath, hfull⟩ := bind_eq_ok_iff.mp hfull
    rw [← Except.ok.inj hfull]
    refine ⟨rfl, ?_, rfl, hpath⟩
    simpa [List.isEmpty_iff] using hauthority

end RecordBridge.Http.Uri
