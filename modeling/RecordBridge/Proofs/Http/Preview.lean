import RecordBridge.Proofs.Http.Reading
import RecordBridge.Proofs.Text.Utf8

/-!
# The preview of a body

The limit of a preview is a limit on the bytes that are read, and the text that is shown of them may
be longer: a byte that is no part of a character is shown as U+FFFD, which takes three.  So a
preview takes three times the limit at most, and no more than the limit if the body is a text
(`Response.preview_bounded`).  A body of bytes that begin no character takes all of the three times
(`Response.readJson_replicate`).
-/

namespace RecordBridge.Http.Response

variable {maxBodySize code n : Nat} {response : Response} {text : String}
  {contentType : Option String}

/-- What is shown of a body is the text of all its bytes, or that there are too many. -/
theorem preview_of_readJson
    (h : response.readJson maxBodySize = .error (.status code text contentType)) :
    text = "<body too large for preview>" ∨
      (bodyOf response.frames).length ≤ previewLimit ∧
        text = String.ofList (Utf8.decodeLossy (bodyOf response.frames)) := by
  unfold readJson at h
  split at h
  case isTrue hstatus =>
    -- Of a success no status is reported.
    cases hcollect : collect maxBodySize response.frames with
    | ok body =>
      rw [hcollect] at h
      change parseBody body = _ at h
      unfold parseBody at h
      split_ifs at h
      · cases hread : Json.ofBytes body with
        | ok json =>
          rw [hread] at h
          cases h
        | error error =>
          rw [hread] at h
          cases h
    | error failure =>
      rw [hcollect] at h
      obtain rfl := Except.error.inj h
      rcases (collect_eq_iff.mp hcollect).exists_of_error with ⟨_, h⟩ | ⟨_, h⟩ <;> cases h
  case isFalse hstatus =>
    cases hcollect : collect (min maxBodySize previewLimit) response.frames with
    | ok body =>
      rw [hcollect] at h
      obtain ⟨rfl, hpasses⟩ := (collect_eq_iff.mp hcollect).eq_bodyOf
      have htext := (HttpFailure.status.inj (Except.error.inj h)).2.1
      exact .inr ⟨le_trans hpasses.fits (Nat.min_le_right _ _), htext.symm⟩
    | error failure =>
      rw [hcollect] at h
      rcases (collect_eq_iff.mp hcollect).exists_of_error with ⟨actual, rfl⟩ | ⟨reason, rfl⟩
      · exact .inl (HttpFailure.status.inj (Except.error.inj h)).2.1.symm
      · cases h

/-- **A preview takes three times the limit at most**: it is longer than the limit by two bytes for
every U+FFFD in it, and not at all if the body is a text. -/
theorem preview_bounded
    (h : response.readJson maxBodySize = .error (.status code text contentType)) :
    text.utf8ByteSize ≤ 3 * previewLimit ∧
    text.utf8ByteSize ≤ previewLimit + 2 * text.toList.count Utf8.replacement ∧
    ∀ written, bodyOf response.frames = Utf8.encode written → text.utf8ByteSize ≤ previewLimit := by
  rcases preview_of_readJson h with rfl | ⟨hfits, rfl⟩
  · have hsize : "<body too large for preview>".utf8ByteSize ≤ previewLimit := by decide
    exact ⟨by omega, by omega, fun _ _ => hsize⟩
  · have hexcess := Utf8.utf8Len_decodeLossy_le (bodyOf response.frames)
    have hcount : (Utf8.decodeLossy (bodyOf response.frames)).count Utf8.replacement ≤
        (bodyOf response.frames).length :=
      le_trans List.count_le_length (Utf8.length_decodeLossy_le _)
    rw [String.utf8ByteSize_ofList, String.toList_ofList]
    refine ⟨by omega, by omega, ?_⟩
    intro written hwritten
    have hsize : (bodyOf response.frames).length = written.utf8ByteSize := by
      rw [hwritten, Utf8.length_encode]
    rw [hwritten, Utf8.decodeLossy_encode, ← String.utf8ByteSize_ofList, String.ofList_toList]
    omega

/-- A text with a letter of two bytes is shown as it is. -/
theorem preview_bounded_letter :
    let response : Response := ⟨404, [], [.data (Utf8.encode "né")]⟩
    response.readJson 16 = .error (.status 404 "né" none) ∧
      bodyOf response.frames = Utf8.encode "né" ∧ "né".utf8ByteSize ≤ 3 * previewLimit ∧
      "né".utf8ByteSize ≤ previewLimit + 2 * "né".toList.count Utf8.replacement ∧
      "né".utf8ByteSize ≤ previewLimit := by
  intro response
  have hread : response.readJson 16 = .error (.status 404 "né" none) := by decide
  have hbody : bodyOf response.frames = Utf8.encode "né" := by decide
  obtain ⟨hthree, hexcess, htext⟩ := preview_bounded hread
  exact ⟨hread, hbody, hthree, hexcess, htext _ hbody⟩

/-- A body of bytes that begin no character is shown in three times as many bytes. -/
theorem readJson_replicate (hstatus : isSuccess response.status = false)
    (hsound : ∀ frame ∈ response.frames, frame.isFailure = false)
    (hbody : bodyOf response.frames = List.replicate n 0xFF)
    (hfits : n ≤ min maxBodySize previewLimit) :
    ∃ text, response.readJson maxBodySize =
      .error (.status response.status text response.contentType) ∧ text.utf8ByteSize = 3 * n := by
  have hlimit : response.readLimit maxBodySize = min maxBodySize previewLimit := by
    rw [readLimit, hstatus]
    rfl
  have hread : Reads (response.readLimit maxBodySize) response.frames
      (.ok (bodyOf response.frames)) := by
    refine .ended ⟨hsound, ?_⟩
    rw [hbody, List.length_replicate, hlimit]
    exact hfits
  refine ⟨String.ofList (List.replicate n Utf8.replacement), ?_, ?_⟩
  · rw [readJson_of_reads_ok hread, hlimit, hbody, told, hstatus, List.length_replicate,
      Utf8.decodeLossy_replicate, if_neg (Nat.not_lt.mpr hfits), if_neg (Nat.not_lt.mpr hfits)]
    rfl
  · rw [String.utf8ByteSize_ofList, Utf8.utf8Len_replicate, Nat.mul_comm]
    rfl

/-- A body of bytes that begin no character is shown in more bytes than the limit, although there
are only a third as many of them. -/
theorem preview_exceeds_limit :
    let response : Response := ⟨500, [], [.data (List.replicate 2731 0xFF)]⟩
    ∃ text, response.readJson 10485760 = .error (.status 500 text none) ∧
      previewLimit < text.utf8ByteSize := by
  intro response
  have hsound : ∀ frame ∈ response.frames, frame.isFailure = false := by
    intro frame hframe
    obtain rfl := List.mem_singleton.mp hframe
    rfl
  have hbody : bodyOf response.frames = List.replicate 2731 0xFF := List.append_nil _
  have hfits : 2731 ≤ min 10485760 previewLimit := by decide
  have hstatus : isSuccess response.status = false := rfl
  obtain ⟨text, hread, hsize⟩ := readJson_replicate hstatus hsound hbody hfits
  refine ⟨text, hread, ?_⟩
  rw [hsize]
  decide

end RecordBridge.Http.Response
