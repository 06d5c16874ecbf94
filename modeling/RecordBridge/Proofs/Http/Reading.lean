import Mathlib.Data.List.Induction
import RecordBridge.Http.Response

/-!
# Reading a response

A body is read frame by frame until something decides: a frame that fails, a frame that takes the
bytes read so far above the limit, or the end (`Reads`, `collect_eq_iff`).  What comes after the
deciding frame does not matter.

How the bytes are divided into frames does not matter either.  Unless a failure of the body decides,
the answer is told from all its bytes at once (`Response.told`), up to the number of bytes that is
reported with a body that is too large (`Response.readJson_exact`).
-/

namespace RecordBridge

/-- A failure without the number of bytes that were read when the limit was passed. -/
def HttpFailure.withoutActual : HttpFailure → HttpFailure
  | bodyTooLarge limit _ => bodyTooLarge limit 0
  | failure => failure

namespace Http

/-! ### Frames -/

/-- The bytes of a frame. -/
def Frame.bytes : Frame → Bytes
  | data bytes => bytes
  | other | failure _ => []

/-- Whether a frame is a failure of the body. -/
def Frame.isFailure : Frame → Bool
  | failure _ => true
  | data _ | other => false

/-- The bytes of a body, however they are divided into frames. -/
def bodyOf (frames : List Frame) : Bytes := frames.flatMap Frame.bytes

/-- Nothing is decided in these frames: none fails, and they keep the limit. -/
structure Passes (limit : Nat) (frames : List Frame) : Prop where
  sound : ∀ frame ∈ frames, frame.isFailure = false
  fits : (bodyOf frames).length ≤ limit

/-- The frame decides when it comes after the frames `before`. -/
inductive Decides (limit : Nat) (before : List Frame) : Frame → HttpFailure → Prop
  | failure (reason : String) : Decides limit before (.failure reason) (.transport reason)
  | excess {bytes : Bytes} : limit < (bodyOf before ++ bytes).length →
      Decides limit before (.data bytes) (.bodyTooLarge limit (bodyOf before ++ bytes).length)

/-- What is read of a body: all of it, or what the first frame that decides makes of it. -/
inductive Reads (limit : Nat) : List Frame → Except HttpFailure Bytes → Prop
  | ended {frames : List Frame} : Passes limit frames → Reads limit frames (.ok (bodyOf frames))
  | decided {before : List Frame} {frame : Frame} {failure : HttpFailure} (after : List Frame) :
      Passes limit before → Decides limit before frame failure →
      Reads limit (before ++ frame :: after) (.error failure)

variable {limit : Nat} {frames frames' before rest : List Frame} {frame : Frame}
  {failure : HttpFailure} {read : Except HttpFailure Bytes} {bytes got : Bytes}

theorem bodyOf_append (frames rest : List Frame) :
    bodyOf (frames ++ rest) = bodyOf frames ++ bodyOf rest :=
  List.flatMap_append

theorem bodyOf_snoc (frames : List Frame) (frame : Frame) :
    bodyOf (frames ++ [frame]) = bodyOf frames ++ frame.bytes := by
  rw [bodyOf_append]
  simp [bodyOf]

/-! ### Reading frame by frame -/

/-- Frames that decide nothing leave their bytes. -/
theorem collectFrom_append (hsound : ∀ frame ∈ before, frame.isFailure = false)
    (hfits : (got ++ bodyOf before).length ≤ limit) :
    collectFrom limit got (before ++ rest) = collectFrom limit (got ++ bodyOf before) rest := by
  induction before generalizing got with
  | nil => simp [bodyOf]
  | cons frame before ih =>
    rw [List.forall_mem_cons] at hsound
    have hbody : got ++ bodyOf (frame :: before) = got ++ frame.bytes ++ bodyOf before :=
      (List.append_assoc got frame.bytes (bodyOf before)).symm
    rw [hbody] at hfits ⊢
    rw [← ih hsound.2 hfits]
    cases frame with
    | failure reason => cases hsound.1
    | other =>
      rw [Frame.bytes, List.append_nil]
      rfl
    | data bytes =>
      have hframe : ¬ limit < got.length + bytes.length := by
        rw [List.length_append, List.length_append] at hfits
        have : (Frame.data bytes).bytes.length = bytes.length := rfl
        omega
      show (if limit < got.length + bytes.length then _ else _) = _
      rw [if_neg hframe]
      rfl

/-- So does a body of such frames, and the first other frame decides. -/
theorem Passes.collect_append (h : Passes limit before) (rest : List Frame) :
    collect limit (before ++ rest) = collectFrom limit (bodyOf before) rest := by
  have hfits : ([] ++ bodyOf before).length ≤ limit := h.fits
  exact collectFrom_append h.sound hfits

theorem Decides.collectFrom_cons (h : Decides limit before frame failure) (after : List Frame) :
    collectFrom limit (bodyOf before) (frame :: after) = .error failure := by
  cases h with
  | failure reason => rfl
  | @excess bytes hexcess =>
    rw [List.length_append] at hexcess ⊢
    exact if_pos hexcess

theorem Reads.collect_eq (h : Reads limit frames read) : collect limit frames = read := by
  cases h with
  | ended hpasses =>
    rw [← List.append_nil frames, hpasses.collect_append, List.append_nil]
    rfl
  | decided after hpasses hdecides =>
    rw [hpasses.collect_append]
    exact hdecides.collectFrom_cons after

/-- One more frame: nothing changes if something has been decided before, and otherwise the frame
decides or its bytes are read. -/
theorem Reads.exists_snoc (h : Reads limit frames read) (frame : Frame) :
    ∃ read', Reads limit (frames ++ [frame]) read' := by
  cases h with
  | @decided before decisive failure after hpasses hdecides =>
    refine ⟨.error failure, ?_⟩
    rw [List.append_assoc, List.cons_append]
    exact .decided (after ++ [frame]) hpasses hdecides
  | ended hpasses =>
    by_cases hdecides : ∃ failure, Decides limit frames frame failure
    · obtain ⟨failure, hdecides⟩ := hdecides
      exact ⟨_, .decided [] hpasses hdecides⟩
    · refine ⟨_, .ended ⟨?_, ?_⟩⟩
      · intro frame' hframe'
        rcases List.mem_append.mp hframe' with hbefore | hlast
        · exact hpasses.sound frame' hbefore
        · obtain rfl := List.mem_singleton.mp hlast
          cases frame' with
          | failure reason => exact absurd ⟨_, .failure reason⟩ hdecides
          | data bytes => rfl
          | other => rfl
      · rw [bodyOf_snoc]
        by_contra hexcess
        cases frame with
        | data bytes => exact hdecides ⟨_, .excess (Nat.not_le.mp hexcess)⟩
        | failure reason => exact hdecides ⟨_, .failure reason⟩
        | other =>
          rw [Frame.bytes, List.append_nil] at hexcess
          exact hexcess hpasses.fits

theorem exists_reads (limit : Nat) (frames : List Frame) : ∃ read, Reads limit frames read := by
  -- From the front to the end, because a frame decides by the bytes that stand before it.
  induction frames using List.reverseRecOn with
  | nil => exact ⟨_, .ended ⟨by simp, Nat.zero_le limit⟩⟩
  | append_singleton frames frame ih =>
    obtain ⟨read, hread⟩ := ih
    exact hread.exists_snoc frame

/-- Reading a body gives what the first of its deciding frames makes of it, or all its bytes. -/
theorem collect_eq_iff : collect limit frames = read ↔ Reads limit frames read := by
  constructor
  · rintro rfl
    obtain ⟨read, hread⟩ := exists_reads limit frames
    rwa [hread.collect_eq]
  · exact Reads.collect_eq

/-! ### What has been read -/

/-- All that has been read is the whole body, and it keeps the limit. -/
theorem Reads.eq_bodyOf (h : Reads limit frames (.ok bytes)) :
    bytes = bodyOf frames ∧ Passes limit frames := by
  cases h with
  | ended hpasses => exact ⟨rfl, hpasses⟩

/-- A body that is too large is longer than the limit, whatever comes after the deciding frame. -/
theorem Reads.excess {limit' actual : Nat}
    (h : Reads limit frames (.error (.bodyTooLarge limit' actual))) :
    limit' = limit ∧ limit < (bodyOf frames).length := by
  cases h with
  | @decided before decisive failure after hpasses hdecides =>
    cases hdecides with
    | @excess bytes hexcess =>
      -- The frames behind add bytes and take none away.
      refine ⟨rfl, Nat.lt_of_lt_of_le hexcess ?_⟩
      rw [bodyOf_append, List.length_append, List.length_append]
      exact Nat.add_le_add_left (List.sublist_append_left bytes _).length_le _

/-- A body fails because it is too large or because one of its frames does. -/
theorem Reads.exists_of_error (h : Reads limit frames (.error failure)) :
    (∃ actual, failure = .bodyTooLarge limit actual) ∨ ∃ reason, failure = .transport reason := by
  cases h with
  | decided after hpasses hdecides =>
    cases hdecides with
    | failure reason => exact .inr ⟨reason, rfl⟩
    | excess hexcess => exact .inl ⟨_, rfl⟩

/-- Where no frame fails, no failure of the body decides. -/
theorem Reads.ne_transport (hsound : ∀ frame ∈ frames, frame.isFailure = false) (reason : String) :
    ¬ Reads limit frames (.error (.transport reason)) := by
  intro h
  cases h with
  | @decided before decisive failure after hpasses hdecides =>
    cases hdecides
    have hfailure := hsound (.failure reason) (List.mem_append_right _ List.mem_cons_self)
    cases hfailure

/-! ### Answers -/

/-- The bytes that count as blank: tab, line feed, form feed, carriage return and space. -/
def asciiBlanks : Bytes := [9, 10, 12, 13, 32]

theorem isBlankByte_eq : isBlankByte = asciiBlanks.contains := by
  funext b
  rw [Bool.eq_iff_iff]
  simp only [isBlankByte, asciiBlanks, Bool.or_eq_true, decide_eq_true_eq, List.contains_iff_mem,
    List.mem_cons, List.not_mem_nil, or_false]
  tauto

namespace Response

/-- How many bytes of a body are read: of an answer without success a preview at most. -/
def readLimit (maxBodySize : Nat) (response : Response) : Nat :=
  if isSuccess response.status then maxBodySize else min maxBodySize previewLimit

/-- What an answer says whose body is these bytes. -/
def told (limit : Nat) (response : Response) (body : Bytes) : Except HttpFailure (Option Json) :=
  if isSuccess response.status then
    if limit < body.length then .error (.bodyTooLarge limit body.length)
    else if body.all asciiBlanks.contains then .ok none
    else
      match Json.ofBytes body with
      | .ok json => .ok (some json)
      | .error error => .error (.json error)
  else
    .error (.status response.status
      (if limit < body.length then "<body too large for preview>"
        else String.ofList (Utf8.decodeLossy body))
      response.contentType)

variable {maxBodySize : Nat} {response : Response} {body : Bytes}

/-- A body that has been read says the same as all its bytes. -/
theorem readJson_of_reads_ok
    (h : Reads (response.readLimit maxBodySize) response.frames (.ok body)) :
    response.readJson maxBodySize =
      response.told (response.readLimit maxBodySize) (bodyOf response.frames) := by
  obtain ⟨rfl, hpasses⟩ := h.eq_bodyOf
  have hcollect := h.collect_eq
  have hfits : ¬ response.readLimit maxBodySize < (bodyOf response.frames).length :=
    Nat.not_lt.mpr hpasses.fits
  unfold told
  rw [if_neg hfits, if_neg hfits]
  unfold readLimit at hcollect
  unfold readJson
  split_ifs with hstatus hblank
  · rw [if_pos hstatus] at hcollect
    rw [hcollect]
    exact if_pos (isBlankByte_eq ▸ hblank)
  · rw [if_pos hstatus] at hcollect
    rw [hcollect]
    show parseBody _ = _
    unfold parseBody
    rw [isBlankByte_eq, if_neg hblank]
    cases Json.ofBytes (bodyOf response.frames) <;> rfl
  · rw [if_neg hstatus] at hcollect
    rw [hcollect]
    rfl

/-- A failure that decides is reported, unless it is the size of a body of which only the start is
shown. -/
theorem readJson_of_reads_error
    (h : Reads (response.readLimit maxBodySize) response.frames (.error failure))
    (hreported : isSuccess response.status = true ∨ ∃ reason, failure = .transport reason) :
    response.readJson maxBodySize = .error failure := by
  have hcollect := h.collect_eq
  unfold readLimit at hcollect
  unfold readJson
  split_ifs with hstatus
  · rw [if_pos hstatus] at hcollect
    rw [hcollect]
  · rw [if_neg hstatus] at hcollect
    obtain ⟨reason, rfl⟩ := hreported.resolve_left hstatus
    rw [hcollect]
    rfl

/-- A body that is too large says the same as all its bytes, but for the number of bytes that is
reported. -/
theorem readJson_of_reads_excess {actual : Nat}
    (h : Reads (response.readLimit maxBodySize) response.frames
      (.error (.bodyTooLarge (response.readLimit maxBodySize) actual))) :
    (response.readJson maxBodySize).mapError HttpFailure.withoutActual =
      (response.told (response.readLimit maxBodySize) (bodyOf response.frames)).mapError
        HttpFailure.withoutActual := by
  obtain ⟨-, hexcess⟩ := h.excess
  unfold told
  rw [if_pos hexcess, if_pos hexcess]
  by_cases hstatus : isSuccess response.status = true
  · rw [readJson_of_reads_error h (.inl hstatus), if_pos hstatus]
    rfl
  · have hcollect := h.collect_eq
    have hlimit : response.readLimit maxBodySize = min maxBodySize previewLimit := if_neg hstatus
    rw [hlimit] at hcollect
    unfold readJson
    rw [if_neg hstatus, if_neg hstatus, hcollect]
    rfl

/-- Unless a failure of the body decides, the answer is told from all its bytes. -/
theorem readJson_eq_told
    (h : ∀ reason, ¬ Reads (response.readLimit maxBodySize) response.frames
      (.error (.transport reason))) :
    (response.readJson maxBodySize).mapError HttpFailure.withoutActual =
      (response.told (response.readLimit maxBodySize) (bodyOf response.frames)).mapError
        HttpFailure.withoutActual := by
  obtain ⟨read, hread⟩ := exists_reads (response.readLimit maxBodySize) response.frames
  cases read with
  | ok body => rw [readJson_of_reads_ok hread]
  | error failure =>
    rcases hread.exists_of_error with ⟨actual, rfl⟩ | ⟨reason, rfl⟩
    · exact readJson_of_reads_excess hread
    · exact absurd hread (h reason)

/-- **Reading a response depends on its bytes and not on how they are framed.**  What is read of the
body is decided by the first frame that fails or passes the limit, and by the end otherwise; of a
success that decision is reported, and of any other answer a failing frame is.  Unless a failing
frame decides, the answer is told from all the bytes, up to the number of bytes that is reported
with a body that is too large; so bodies without failing frames and with the same bytes give the
same answer. -/
theorem readJson_exact (maxBodySize : Nat) (response : Response) :
    let limit := response.readLimit maxBodySize
    let answer := (response.readJson maxBodySize).mapError HttpFailure.withoutActual
    (∀ read, collect limit response.frames = read ↔ Reads limit response.frames read) ∧
    (∀ failure, Reads limit response.frames (.error failure) →
      (isSuccess response.status = true ∨ ∃ reason, failure = .transport reason) →
      response.readJson maxBodySize = .error failure) ∧
    ((∀ reason, ¬ Reads limit response.frames (.error (.transport reason))) →
      answer = (response.told limit (bodyOf response.frames)).mapError HttpFailure.withoutActual) ∧
    ∀ frames, (∀ frame ∈ response.frames ++ frames, frame.isFailure = false) →
      bodyOf frames = bodyOf response.frames →
      answer =
        ({ response with frames }.readJson maxBodySize).mapError HttpFailure.withoutActual := by
  intro limit answer
  refine ⟨fun read => collect_eq_iff, ?_, readJson_eq_told, ?_⟩
  · intro failure hread hreported
    exact readJson_of_reads_error hread hreported
  · intro frames hsound hbody
    rw [List.forall_mem_append] at hsound
    have hfirst : answer = _ := readJson_eq_told (Reads.ne_transport hsound.1)
    have hsecond : ({ response with frames }.readJson maxBodySize).mapError _ = _ :=
      readJson_eq_told (Reads.ne_transport hsound.2)
    rw [hfirst, hsecond, hbody]
    rfl

/-- A body of five bytes in three pieces passes a limit of three bytes with its second piece, and in
one piece it does with all its bytes. -/
theorem readJson_exact_pieces :
    let pieces : List Frame := [.data [91, 49], .other, .data [44, 50], .data [93]]
    let whole : List Frame := [.data [91, 49, 44, 50, 93]]
    let read frames := (Response.mk 200 [] frames).readJson 3
    (∀ frame ∈ pieces ++ whole, frame.isFailure = false) ∧ bodyOf whole = bodyOf pieces ∧
      read pieces = .error (.bodyTooLarge 3 4) ∧ read whole = .error (.bodyTooLarge 3 5) ∧
      (read pieces).mapError HttpFailure.withoutActual =
        (read whole).mapError HttpFailure.withoutActual := by
  intro pieces whole read
  have hsound : ∀ frame ∈ pieces ++ whole, frame.isFailure = false := by decide
  have hbody : bodyOf whole = bodyOf pieces := rfl
  obtain ⟨hreads, hreported, -, hframing⟩ := readJson_exact 3 ⟨200, [], pieces⟩
  have hread : Reads 3 pieces (.error (.bodyTooLarge 3 4)) := (hreads _).mp rfl
  exact ⟨hsound, hbody, hreported _ hread (.inl rfl), rfl, hframing whole hsound hbody⟩

end Response

end Http

end RecordBridge
