import Mathlib.Data.List.TakeWhile
import RecordBridge.Proofs.Success
import RecordBridge.Url.Reader

/-!
# The parts of a URL do not run into one another

What is read as the authority of a URL of the web holds none of the signs that would end it, and
what is read as its path starts with a slash and holds none of the signs that would end it
(`isDivided_of_parse?`).  So the text of the URL, in which the parts are put together again, divides
at the same places.

Whatever could end a part is escaped (`avoids_encode`) or refused (`avoids_name?`) when the part is
read.
-/

namespace RecordBridge

/-- None of the signs stands in the text. -/
def Avoids (signs text : List Char) : Prop := ∀ sign ∈ signs, sign ∉ text

instance (signs text : List Char) : Decidable (Avoids signs text) :=
  List.decidableBAll (fun sign => sign ∉ text) signs

namespace Avoids

variable {signs text text' : List Char}

theorem append (h : Avoids signs text) (h' : Avoids signs text') :
    Avoids signs (text ++ text') := by
  intro sign hsign hmem
  rcases List.mem_append.mp hmem with hmem | hmem
  · exact h sign hsign hmem
  · exact h' sign hsign hmem

theorem intercalate {separator : String} (h : Avoids signs separator.toList) :
    ∀ {pieces : List String}, (∀ piece ∈ pieces, Avoids signs piece.toList) →
      Avoids signs (separator.intercalate pieces).toList
  | [], _ => by
    rw [String.intercalate_nil]
    exact fun _ _ => List.not_mem_nil
  | [piece], hpieces => by
    rw [String.intercalate_singleton]
    exact hpieces piece List.mem_cons_self
  | piece :: next :: rest, hpieces => by
    rw [String.intercalate_cons_cons, String.toList_append, String.toList_append]
    obtain ⟨hpiece, hrest⟩ := List.forall_mem_cons.mp hpieces
    exact (hpiece.append h).append (h.intercalate hrest)

end Avoids

/-! ### Digits and escapes -/

section

variable {signs : List Char}

/-- Digits in a base up to sixteen are digits and letters. -/
theorem isAlphanum_of_mem_toDigits {base n : Nat} {c : Char} (hbase : 1 < base)
    (hbase' : base ≤ 16) (h : c ∈ Nat.toDigits base n) : c.isAlphanum = true := by
  have hdigit : ∀ d < 16, d.digitChar.isAlphanum = true := by decide
  induction n using Nat.strongRecOn with
  | ind n ih =>
    by_cases hn : n < base
    · rw [Nat.toDigits_of_lt_base hn, List.mem_singleton] at h
      rw [h]
      exact hdigit n (by omega)
    · rw [Nat.toDigits_of_base_le hbase (Nat.le_of_not_lt hn), List.mem_append,
        List.mem_singleton] at h
      have hmod : n % base < base := Nat.mod_lt n (by omega)
      rcases h with h | h
      · exact ih (n / base) (Nat.div_lt_self (by omega) hbase) h
      · rw [h]
        exact hdigit (n % base) (by omega)

theorem avoids_toDigits {base : Nat} (hbase : 1 < base) (hbase' : base ≤ 16)
    (hsigns : signs.all (!·.isAlphanum) = true) (n : Nat) :
    Avoids signs (Nat.toDigits base n) := by
  intro sign hsign hmem
  have hother := List.all_eq_true.mp hsigns sign hsign
  rw [isAlphanum_of_mem_toDigits hbase hbase' hmem] at hother
  cases hother

theorem avoids_toString (hsigns : signs.all (!·.isAlphanum) = true) (n : Nat) :
    Avoids signs (toString n).toList := by
  rw [Nat.toString_eq_ofList_toDigits, String.toList_ofList]
  exact avoids_toDigits (by decide) (by decide) hsigns n

/-- An escaped text holds characters that are not escaped and what escapes consist of. -/
theorem Percent.mem_encode {escaped : Char → Bool} {text : List Char} {c : Char}
    (h : c ∈ encode escaped text) : escaped c = false ∨ c = '%' ∨ c.isAlphanum = true := by
  have hdigit : ∀ d < 16, (hexDigit d).isAlphanum = true := by decide
  obtain ⟨d, -, hc⟩ := List.mem_flatMap.mp h
  split at hc
  case isTrue =>
    obtain ⟨b, -, hc⟩ := List.mem_flatMap.mp hc
    have hb : b.toNat < 256 := b.toNat_lt_size
    simp only [escape, List.mem_cons, List.not_mem_nil, or_false] at hc
    rcases hc with rfl | rfl | rfl
    · exact .inr (.inl rfl)
    · exact .inr (.inr (hdigit _ (by omega)))
    · exact .inr (.inr (hdigit _ (by omega)))
  case isFalse hd =>
    rw [List.mem_singleton.mp hc]
    exact .inl (Bool.not_eq_true _ ▸ hd)

/-- Signs that are escaped do not stand in an escaped text. -/
theorem avoids_encode {escaped : Char → Bool}
    (hsigns : signs.all (fun sign => escaped sign && sign != '%' && !sign.isAlphanum) = true)
    (text : List Char) : Avoids signs (Percent.encode escaped text) := by
  intro sign hsign hmem
  have hother := List.all_eq_true.mp hsigns sign hsign
  rcases Percent.mem_encode hmem with h | h | h <;> simp [h] at hother

end

namespace Url

/-! ### Authorities -/

/-- The signs that end an authority. -/
def authorityEnds : List Char := ['/', '?', '#']

theorem avoids_ipv4Text (address : Nat) :
    Avoids authorityEnds (Address.ipv4Text address).toList := by
  refine Avoids.intercalate (by decide) fun piece hpiece => ?_
  obtain ⟨i, -, rfl⟩ := List.mem_map.mp hpiece
  exact avoids_toString (by decide) _

theorem avoids_groupsText (groups : List Nat) :
    Avoids authorityEnds (Address.groupsText groups).toList := by
  refine Avoids.intercalate (by decide) fun piece hpiece => ?_
  obtain ⟨g, -, rfl⟩ := List.mem_map.mp hpiece
  rw [String.toList_ofList]
  exact avoids_toDigits (by decide) (by decide) (by decide) g

theorem avoids_ipv6Text (groups : List Nat) :
    Avoids authorityEnds (Address.ipv6Text groups).toList := by
  unfold Address.ipv6Text
  dsimp only
  split
  · exact avoids_groupsText groups
  · rw [String.toList_append, String.toList_append]
    exact ((avoids_groupsText _).append (by decide)).append (avoids_groupsText _)

/-- A domain name has no forbidden character. -/
theorem avoids_name? {text name : List Char} (h : Host.name? text = some name) :
    Avoids authorityEnds name := by
  obtain ⟨chars, -, h⟩ := Option.bind_eq_some_iff.mp h
  obtain ⟨formed, -, h⟩ := Option.bind_eq_some_iff.mp h
  obtain ⟨labels, -, h⟩ := Option.bind_eq_some_iff.mp h
  dsimp only at h
  split at h
  case isTrue => cases h
  case isFalse hname =>
    obtain ⟨hallowed, -⟩ := not_or.mp hname
    rw [← Option.some.inj h]
    have hforbidden : authorityEnds.all Host.isForbiddenInName = true := by decide
    intro sign hsign hmem
    exact hallowed (List.any_eq_true.mpr ⟨sign, hmem, List.all_eq_true.mp hforbidden sign hsign⟩)

/-- The host of a URL of the web is a number or a name. -/
theorem avoids_special? {text : List Char} {host : String} (h : Host.special? text = some host) :
    Avoids authorityEnds host.toList := by
  unfold Host.special? at h
  split at h
  case isTrue =>
    unfold Host.bracketed? at h
    split at h
    · obtain ⟨groups, -, rfl⟩ := Option.map_eq_some_iff.mp h
      rw [String.toList_append, String.toList_append]
      exact (Avoids.append (by decide) (avoids_ipv6Text groups)).append (by decide)
    · cases h
  case isFalse =>
    obtain ⟨name, hname, h⟩ := Option.bind_eq_some_iff.mp h
    split at h
    · cases h
    split at h
    · obtain ⟨address, -, rfl⟩ := Option.map_eq_some_iff.mp h
      exact avoids_ipv4Text address
    · rw [← Option.some.inj h, String.toList_ofList]
      exact avoids_name? hname

/-- An authority is as safe as its parts. -/
theorem avoids_authorityText {authority : Authority}
    (husername : Avoids authorityEnds authority.username.toList)
    (hpassword : Avoids authorityEnds authority.password.toList)
    (hhost : Avoids authorityEnds authority.host.toList) :
    Avoids authorityEnds authority.text.toList := by
  unfold Authority.text
  simp only [String.toList_append]
  refine Avoids.append (Avoids.append (Avoids.append (husername.append ?_) ?_) hhost) ?_
  · split
    · decide
    · rw [String.toList_append]
      exact Avoids.append (by decide) hpassword
  · split <;> decide
  · cases authority.port with
    | none => decide
    | some port =>
      rw [String.toList_append]
      exact Avoids.append (by decide) (avoids_toString (by decide) port)

/-- The authority of a URL of the web does not end early. -/
theorem avoids_authority? {scheme : String} {text rest : List Char} {authority : Authority}
    (hspecial : isSpecial scheme = true) (h : authority? scheme text = some (authority, rest)) :
    Avoids authorityEnds authority.text.toList := by
  have hcredentials (login : List Char) :
      Avoids authorityEnds (credentials login).1.toList ∧
        Avoids authorityEnds (credentials login).2.toList := by
    simp only [credentials, String.toList_ofList]
    exact ⟨avoids_encode (by decide) _, avoids_encode (by decide) _⟩
  unfold authority? at h
  dsimp only at h
  split at h
  case isTrue => cases h
  case isFalse =>
    obtain ⟨host, hhost, h⟩ := Option.bind_eq_some_iff.mp h
    rw [host?Of, if_pos hspecial] at hhost
    have hparts (port : Option Nat) (login : List Char) : Avoids authorityEnds
        (Authority.mk (credentials login).1 (credentials login).2 host port).text.toList :=
      avoids_authorityText (hcredentials login).1 (hcredentials login).2 (avoids_special? hhost)
    split at h
    · obtain ⟨rfl, -⟩ := Prod.mk.inj (Option.some.inj h)
      exact hparts _ _
    · obtain ⟨⟨port, behind⟩, -, h⟩ := Option.bind_eq_some_iff.mp h
      obtain ⟨rfl, -⟩ := Prod.mk.inj (Option.some.inj h)
      exact hparts _ _

/-! ### Paths -/

/-- The signs that end a path. -/
def pathEnds : List Char := ['?', '#']

theorem avoids_addSegment {path : List (List Char)} (hpath : ∀ piece ∈ path, Avoids pathEnds piece)
    (segment : List Char) (last : Bool) :
    ∀ piece ∈ addSegment path segment last, Avoids pathEnds piece := by
  have hstop : ∀ piece ∈ (if last then [[]] else []), Avoids pathEnds piece := by
    cases last <;> decide
  unfold addSegment
  dsimp only
  split
  · exact List.forall_mem_append.mpr ⟨hpath, hstop⟩
  · refine List.forall_mem_append.mpr ⟨?_, hstop⟩
    unfold parent
    split
    · exact hpath
    · exact fun piece hpiece => hpath piece (List.dropLast_subset path hpiece)
  · refine List.forall_mem_append.mpr ⟨hpath, ?_⟩
    intro piece hpiece
    rw [List.mem_singleton.mp hpiece]
    exact avoids_encode (by decide) segment

theorem avoids_addSegments {segments path : List (List Char)}
    (hpath : ∀ piece ∈ path, Avoids pathEnds piece) :
    ∀ piece ∈ addSegments path segments, Avoids pathEnds piece := by
  induction path, segments using addSegments.induct with
  | case1 path => exact hpath
  | case2 path segment => exact avoids_addSegment hpath segment true
  | case3 path segment rest hrest ih =>
    rw [addSegments.eq_3 _ _ _ hrest]
    exact ih (avoids_addSegment hpath segment false)

theorem addSegments_ne_nil {segments : List (List Char)} (h : segments ≠ [])
    (path : List (List Char)) : addSegments path segments ≠ [] := by
  induction path, segments using addSegments.induct with
  | case1 path => exact absurd rfl h
  | case2 path segment =>
    -- The last segment leaves something, if only an empty segment.
    unfold addSegments addSegment
    dsimp only
    split <;> simp
  | case3 path segment rest hrest ih =>
    rw [addSegments.eq_3 _ _ _ hrest]
    exact ih hrest

theorem split_ne_nil (separator : Char) (text : List Char) : Pieces.split separator text ≠ [] := by
  cases text with
  | nil => exact List.cons_ne_nil _ _
  | cons c rest =>
    unfold Pieces.split
    split
    · exact List.cons_ne_nil _ _
    · split <;> exact List.cons_ne_nil _ _

/-- A path of segments starts with a slash and does not end early. -/
theorem pathText_eq (special : Bool) (text : List Char) :
    ∃ rest, (pathText special text).toList = '/' :: rest ∧ Avoids pathEnds rest := by
  unfold pathText
  dsimp only
  generalize htext : text.map _ = text'
  have hne := addSegments_ne_nil (split_ne_nil '/' text') []
  have havoids := @avoids_addSegments (Pieces.split '/' text') [] nofun
  cases hpieces : addSegments [] (Pieces.split '/' text') with
  | nil => exact absurd hpieces hne
  | cons piece pieces =>
    rw [hpieces] at havoids
    obtain ⟨hpiece, hrest⟩ := List.forall_mem_cons.mp havoids
    refine ⟨piece ++ pieces.flatMap ('/' :: ·), String.toList_ofList, hpiece.append ?_⟩
    intro sign hsign hmem
    obtain ⟨other, hother, hmem⟩ := List.mem_flatMap.mp hmem
    have hslash : Avoids pathEnds ['/'] := by decide
    exact (hslash.append (hrest other hother)) sign hsign hmem

/-- So does the path of a URL of the web. -/
theorem pathBehind_eq (text : List Char) :
    ∃ rest, (pathBehind true text).toList = '/' :: rest ∧ Avoids pathEnds rest := by
  unfold pathBehind
  split
  · exact ⟨[], rfl, by decide⟩
  · exact pathText_eq true _

/-! ### The whole -/

/-- The parts of a URL stand where its text divides. -/
structure IsDivided (url : Url) (authority : Authority) : Prop where
  authority_eq : url.authority = some authority
  avoids_text : Avoids authorityEnds authority.text.toList
  path_eq : ∃ rest, url.path.toList = '/' :: rest ∧ Avoids pathEnds rest

/-- What is read as a URL of the web divides into its parts. -/
theorem isDivided_of_parse? {text : String} {url : Url} (h : parse? text = some url)
    (hscheme : url.scheme = "https" ∨ url.scheme = "http") :
    ∃ authority, IsDivided url authority := by
  obtain ⟨⟨scheme, rest⟩, -, h⟩ := Option.bind_eq_some_iff.mp h
  obtain ⟨⟨authority, rest'⟩, hfront, h⟩ := Option.bind_eq_some_iff.mp h
  have hurl := Option.some.inj h
  have hspecial : isSpecial scheme = true ∧ scheme ≠ "file" := by
    rw [← hurl] at hscheme
    rcases hscheme with rfl | rfl <;> decide
  unfold front? at hfront
  rw [if_neg hspecial.2, if_pos hspecial.1] at hfront
  obtain ⟨⟨authority, rest'⟩, hauthority, heq⟩ := Option.map_eq_some_iff.mp hfront
  obtain ⟨rfl, rfl⟩ := Prod.mk.inj heq
  refine ⟨authority, ?_, avoids_authority? hspecial.1 hauthority, ?_⟩
  · rw [← hurl]
  · rw [← hurl, hspecial.1]
    exact pathBehind_eq _

/-- The authority of a URL with a host is not empty. -/
theorem authorityText_ne_empty {url : Url} {authority : Authority}
    (hhost : url.host?.isSome = true) (h : url.authority = some authority) :
    authority.text ≠ "" := by
  intro hempty
  have hnone : authority.host = "" := by
    unfold Authority.text at hempty
    simp only [String.append_eq_empty_iff] at hempty
    exact hempty.1.2
  rw [host?, h, Option.map_some, hnone] at hhost
  cases hhost

/-! ### The text without slashes at the end -/

/-- What follows the authority in the text of a URL. -/
def tail (url : Url) : String := url.path ++ behind "?" url.query ++ behind "#" url.fragment

/-- A text without slashes at the end. -/
def trimSlashes (text : List Char) : List Char := (text.reverse.dropWhile (· = '/')).reverse

/-- Nothing but slashes follows the authority. -/
def isBare (url : Url) : Bool := url.tail.toList.all (· = '/')

theorem trimSlashes_eq_nil_iff {text : List Char} :
    trimSlashes text = [] ↔ text.all (· = '/') = true := by
  unfold trimSlashes
  rw [List.reverse_eq_nil_iff, List.dropWhile_eq_nil_iff, List.all_eq_true]
  simp

/-- Slashes are taken off the end alone: a part that ends otherwise stays. -/
theorem trimSlashes_append {front part : List Char} (hpart : part ≠ []) (hslash : '/' ∉ part)
    (text : List Char) :
    trimSlashes (front ++ part ++ text) = front ++ part ++ trimSlashes text := by
  have hlast : part.getLast hpart ≠ '/' := by
    intro h
    exact hslash (h ▸ List.getLast_mem hpart)
  have hstop : (front ++ part).reverse.dropWhile (· = '/') = (front ++ part).reverse := by
    rw [← List.dropLast_concat_getLast hpart, ← List.append_assoc, List.reverse_append]
    exact List.dropWhile_cons_of_neg (by simpa using hlast)
  unfold trimSlashes
  rw [List.reverse_append, List.dropWhile_append, hstop]
  split
  case isTrue hempty =>
    rw [List.isEmpty_iff.mp hempty, List.reverse_reverse]
    exact (List.append_nil _).symm
  case isFalse => rw [List.reverse_append, List.reverse_reverse]

theorem trimSlashes_isPrefix (text : List Char) : trimSlashes text <+: text := by
  have hsuffix : text.reverse.dropWhile (· = '/') <:+ text.reverse := List.dropWhile_suffix _
  have h := List.reverse_prefix.mpr hsuffix
  rwa [List.reverse_reverse] at h

theorem avoids_trimSlashes {signs text : List Char} (h : Avoids signs text) :
    Avoids signs (trimSlashes text) :=
  fun sign hsign hmem => h sign hsign ((trimSlashes_isPrefix text).subset hmem)

/-- If something is left of a text, then its first character is. -/
theorem head?_trimSlashes {text : List Char} (h : trimSlashes text ≠ []) :
    (trimSlashes text).head? = text.head? := by
  obtain ⟨slashes, htext⟩ := trimSlashes_isPrefix text
  cases htrim : trimSlashes text with
  | nil => exact absurd htrim h
  | cons c rest =>
    rw [← htext, htrim]
    rfl

/-- The text of a URL is its scheme, `://`, a host and a rest; the host is not empty and holds no
slash. -/
structure PrintsHost (url : Url) (host rest : List Char) : Prop where
  text_eq : url.text.toList = url.scheme.toList ++ [':', '/', '/'] ++ (host ++ rest)
  host_ne_nil : host ≠ []
  slash_notMem : '/' ∉ host

/-- Paths are appended to the host and to what follows it without slashes at the end. -/
theorem PrintsHost.baseText_eq {url : Url} {host rest : List Char} (h : PrintsHost url host rest) :
    url.baseText.toList = url.scheme.toList ++ [':', '/', '/'] ++ (host ++ trimSlashes rest) := by
  show (String.ofList (trimSlashes url.text.toList)).toList = _
  rw [String.toList_ofList, h.text_eq, ← List.append_assoc,
    trimSlashes_append h.host_ne_nil h.slash_notMem, List.append_assoc]

/-- A URL whose text divides prints its authority in place of the host. -/
theorem IsDivided.printsHost {url : Url} {authority : Authority} (h : IsDivided url authority)
    (htext : authority.text ≠ "") : PrintsHost url authority.text.toList url.tail.toList where
  text_eq := by
    unfold text tail
    rw [authorityText, h.authority_eq]
    simp only [String.toList_append, List.append_assoc]
    rfl
  host_ne_nil := by simpa using htext
  slash_notMem := h.avoids_text '/' (by decide)

end Url

end RecordBridge
