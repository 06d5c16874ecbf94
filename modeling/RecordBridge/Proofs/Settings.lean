import RecordBridge.Settings

/-!
# Which settings may be used

Settings are accepted if and only if there is an object type, the service is at some host, is
reached over HTTP and only without TLS if that is allowed, and a page holds something
(`Settings.validate_eq_ok_iff`).
-/

namespace RecordBridge.Settings

variable {settings : Settings}

/-- Settings without a fault. -/
structure IsUsable (settings : Settings) : Prop where
  objectType : Blank.allBlank settings.objectType.toList = false
  scheme : settings.serviceUrl.scheme = "https" ∨
    settings.serviceUrl.scheme = "http" ∧ settings.allowInsecureHttp = true
  host : settings.serviceUrl.host?.isSome = true
  defaultPageSize : settings.defaultPageSize ≠ 0

/-- The scheme of usable settings is one of HTTP that requests may have. -/
theorem IsUsable.exists_scheme (h : settings.IsUsable) :
    ∃ scheme : Http.Scheme, scheme.text = settings.serviceUrl.scheme ∧
      (scheme = .https ∨ scheme = .http ∧ settings.security = .allowInsecureHttp) := by
  rcases h.scheme with hhttps | ⟨hhttp, hinsecure⟩
  · exact ⟨.https, hhttps.symm, .inl rfl⟩
  · refine ⟨.http, hhttp.symm, .inr ⟨rfl, ?_⟩⟩
    unfold security
    rw [if_pos hinsecure]

/-- Several checks in a row find no fault if and only if none of them does. -/
theorem ite_some_eq_none_iff {α : Type} {p : Prop} [Decidable p] {a : α} {rest : Option α} :
    (if p then some a else rest) = none ↔ ¬ p ∧ rest = none := by
  split
  case isTrue hp => simp [hp]
  case isFalse hp => simp [hp]

theorem fault?_eq_none_iff : settings.fault? = none ↔ settings.IsUsable := by
  unfold fault?
  simp only [ite_some_eq_none_iff, and_true]
  constructor
  · rintro ⟨htype, hscheme, hinsecure, hhost, hpage⟩
    refine ⟨by simpa using htype, ?_, by simpa [Option.isSome_iff_ne_none] using hhost, hpage⟩
    by_cases hhttps : settings.serviceUrl.scheme = "https"
    · exact .inl hhttps
    · have hhttp : settings.serviceUrl.scheme = "http" := by simpa [hhttps] using hscheme
      exact .inr ⟨hhttp, by simpa [hhttp] using hinsecure⟩
  · rintro ⟨htype, hscheme, hhost, hpage⟩
    refine ⟨by simp [htype], ?_, ?_, by simpa [Option.isSome_iff_ne_none] using hhost, hpage⟩
    · rcases hscheme with h | ⟨h, -⟩ <;> simp [h]
    · rcases hscheme with h | ⟨-, h⟩ <;> simp [h]

theorem validate_eq_ok_iff : settings.validate = .ok () ↔ settings.IsUsable := by
  rw [← fault?_eq_none_iff]
  unfold validate
  cases settings.fault? <;> simp

end RecordBridge.Settings
