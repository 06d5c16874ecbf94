import Mathlib.Data.String.Basic
import RecordBridge.Text.Utf8

/-!
# Reading UTF-8

The lenient reader takes one front after the other (`Utf8.decodeLossy_of_char`,
`Utf8.decodeLossy_of_broken`), so what it does is shown by induction on the fronts of the bytes
(`Utf8.front_induction`).

A character takes no more bytes when it is written than were read for it, but what is put for a
broken stretch takes three, and the stretch may be a single byte (`Utf8.leaves_front`).  So the text
of some bytes is longer than these by two bytes at most for every U+FFFD in it
(`Utf8.utf8Len_decodeLossy_le`), and it is three times as long if each byte is broken by itself
(`Utf8.decodeLossy_replicate`).  What was written as UTF-8 is read as it was written
(`Utf8.decodeLossy_encode`) and is as long (`Utf8.length_encode`).
-/

namespace RecordBridge.Utf8

/-- What stands for a broken stretch. -/
def replacement : Char := Char.ofNat 0xFFFD

variable {bytes rest : Bytes} {c : Char}

/-! ### The sizes of fronts -/

theorem toNat_ofNat_le (n : Nat) : (Char.ofNat n).toNat ≤ n := by
  by_cases hvalid : n.isValidChar
  · rw [Char.ofNat, dif_pos hvalid]
    exact le_refl n
  · rw [Char.ofNat, dif_neg hvalid]
    exact Nat.zero_le n

theorem utf8Size_eq (c : Char) :
    c.utf8Size = if c.toNat ≤ 0x7F then 1 else if c.toNat ≤ 0x7FF then 2
      else if c.toNat ≤ 0xFFFF then 3 else 4 := rfl

/-- A character takes at most the bytes that a number of its size takes. -/
theorem utf8Size_ofNat_le {n size : Nat}
    (h : n ≤ 0x7F ∧ 1 ≤ size ∨ n ≤ 0x7FF ∧ 2 ≤ size ∨ n ≤ 0xFFFF ∧ 3 ≤ size ∨ 4 ≤ size) :
    (Char.ofNat n).utf8Size ≤ size := by
  have hn := toNat_ofNat_le n
  rw [utf8Size_eq]
  split_ifs <;> omega

theorem tailBits_le (b : UInt8) : tailBits b ≤ 63 := by
  unfold tailBits
  omega

/-- What a front leaves of some bytes: the character takes no more bytes than were read for it, and
a broken stretch is one byte at least. -/
def Front.Leaves (bytes : Bytes) : Front → Prop
  | ended => bytes = []
  | char c rest => c.utf8Size + rest.length ≤ bytes.length
  | broken rest => rest.length < bytes.length

theorem leaves_frontFour (first second : UInt8) (bytes : Bytes) :
    (frontFour first second bytes).Leaves (first :: second :: bytes) := by
  unfold frontFour
  split
  case h_2 => simp [Front.Leaves]
  case h_1 third tail =>
    split_ifs
    case neg => simp [Front.Leaves]
    split
    case h_2 => simp [Front.Leaves]
    case h_1 fourth tail' =>
      split_ifs
      case neg => simp [Front.Leaves]
      generalize Char.ofNat _ = c
      have hsize := c.utf8Size_le_four
      simp only [Front.Leaves, List.length_cons]
      omega

theorem leaves_front (bytes : Bytes) : (front bytes).Leaves bytes := by
  unfold front
  split
  case h_1 => rfl
  case h_2 first tail =>
    split_ifs with hone htwo hthree hfour
    · have hfirst : first.toNat ≤ 0x7F := Nat.lt_succ_iff.mp (UInt8.lt_iff_toNat_lt.mp hone)
      have hsize : (Char.ofNat first.toNat).utf8Size ≤ 1 := utf8Size_ofNat_le (by omega)
      simp only [Front.Leaves, List.length_cons]
      omega
    · split
      case h_2 => simp [Front.Leaves]
      case h_1 second tail =>
        split_ifs
        case neg => simp [Front.Leaves]
        have hsecond := tailBits_le second
        have hsize : (Char.ofNat (first.toNat % 32 * 64 + tailBits second)).utf8Size ≤ 2 :=
          utf8Size_ofNat_le (by omega)
        simp only [Front.Leaves, List.length_cons]
        omega
    · split
      case h_2 => simp [Front.Leaves]
      case h_1 second tail =>
        split_ifs
        case neg => simp [Front.Leaves]
        split
        case h_2 => simp [Front.Leaves]
        case h_1 third tail =>
          split_ifs
          case neg => simp [Front.Leaves]
          have hsecond := tailBits_le second
          have hthird := tailBits_le third
          have hsize : (Char.ofNat (first.toNat % 16 * 4096 + tailBits second * 64
              + tailBits third)).utf8Size ≤ 3 := utf8Size_ofNat_le (by omega)
          simp only [Front.Leaves, List.length_cons]
          omega
    · split
      case h_2 => simp [Front.Leaves]
      case h_1 second tail =>
        split_ifs
        case neg => simp [Front.Leaves]
        exact leaves_frontFour first second tail
    · simp [Front.Leaves]

theorem size_of_front_char (h : front bytes = .char c rest) :
    c.utf8Size + rest.length ≤ bytes.length := by
  have hleaves := leaves_front bytes
  rwa [h] at hleaves

theorem length_of_front_char (h : front bytes = .char c rest) : rest.length < bytes.length := by
  have hsize := size_of_front_char h
  have hpos := c.utf8Size_pos
  omega

theorem length_of_front_broken (h : front bytes = .broken rest) : rest.length < bytes.length := by
  have hleaves := leaves_front bytes
  rwa [h] at hleaves

/-! ### The lenient reader -/

/-- What has been read stands in front of what is read. -/
theorem lossyLoop_eq_append (fuel : Nat) (seen : List Char) (bytes : Bytes) :
    lossyLoop fuel seen bytes = seen.reverse ++ lossyLoop fuel [] bytes := by
  induction fuel generalizing seen bytes with
  | zero => simp [lossyLoop]
  | succ fuel ih =>
    rw [lossyLoop, lossyLoop]
    cases front bytes with
    | ended => simp
    | char c rest =>
      show lossyLoop fuel (c :: seen) rest = _ ++ lossyLoop fuel [c] rest
      rw [ih (c :: seen), ih [c]]
      simp
    | broken rest =>
      show lossyLoop fuel (replacement :: seen) rest = _ ++ lossyLoop fuel [replacement] rest
      rw [ih (replacement :: seen), ih [replacement]]
      simp

/-- There is a step for every byte. -/
theorem lossyLoop_eq_decodeLossy {fuel : Nat} (h : bytes.length < fuel) :
    lossyLoop fuel [] bytes = decodeLossy bytes := by
  -- Two amounts of fuel are compared; each is more than there are bytes, and stays so step by step.
  unfold decodeLossy
  generalize hfuel : bytes.length + 1 = fuel'
  have h' : bytes.length < fuel' := by omega
  clear hfuel
  induction fuel generalizing fuel' bytes with
  | zero => omega
  | succ fuel ih =>
    cases fuel' with
    | zero => omega
    | succ fuel' =>
      rw [lossyLoop, lossyLoop]
      cases hfront : front bytes with
      | ended => rfl
      | char c rest =>
        have hrest := length_of_front_char hfront
        show lossyLoop fuel [c] rest = lossyLoop fuel' [c] rest
        rw [lossyLoop_eq_append fuel, lossyLoop_eq_append fuel',
          ih (by omega) fuel' (by omega)]
      | broken rest =>
        have hrest := length_of_front_broken hfront
        show lossyLoop fuel [replacement] rest = lossyLoop fuel' [replacement] rest
        rw [lossyLoop_eq_append fuel, lossyLoop_eq_append fuel',
          ih (by omega) fuel' (by omega)]

theorem decodeLossy_of_char (h : front bytes = .char c rest) :
    decodeLossy bytes = c :: decodeLossy rest := by
  rw [← lossyLoop_eq_decodeLossy (length_of_front_char h)]
  unfold decodeLossy
  rw [lossyLoop, h]
  exact lossyLoop_eq_append _ [c] rest

theorem decodeLossy_of_broken (h : front bytes = .broken rest) :
    decodeLossy bytes = replacement :: decodeLossy rest := by
  rw [← lossyLoop_eq_decodeLossy (length_of_front_broken h)]
  unfold decodeLossy
  rw [lossyLoop, h]
  exact lossyLoop_eq_append _ [replacement] rest

/-- What holds of no bytes and goes from the bytes behind a front to those with it holds of all. -/
theorem front_induction {motive : Bytes → Prop} (ended : motive [])
    (char : ∀ bytes c rest, front bytes = .char c rest → motive rest → motive bytes)
    (broken : ∀ bytes rest, front bytes = .broken rest → motive rest → motive bytes)
    (bytes : Bytes) : motive bytes := by
  induction hlength : bytes.length using Nat.strong_induction_on generalizing bytes with
  | _ n ih =>
    subst hlength
    cases hfront : front bytes with
    | ended =>
      have hleaves := leaves_front bytes
      rw [hfront] at hleaves
      obtain rfl : bytes = [] := hleaves
      exact ended
    | char c rest => exact char bytes c rest hfront (ih _ (length_of_front_char hfront) rest rfl)
    | broken rest => exact broken bytes rest hfront (ih _ (length_of_front_broken hfront) rest rfl)

/-- The text of some bytes is longer than these by two bytes at most for every U+FFFD in it. -/
theorem utf8Len_decodeLossy_le (bytes : Bytes) :
    String.utf8Len (decodeLossy bytes) ≤
      bytes.length + 2 * (decodeLossy bytes).count replacement := by
  induction bytes using front_induction with
  | ended => exact Nat.zero_le _
  | char bytes c rest hfront ih =>
    have hsize := size_of_front_char hfront
    have hcount : (decodeLossy rest).count replacement ≤
        (c :: decodeLossy rest).count replacement := List.count_le_count_cons
    rw [decodeLossy_of_char hfront, String.utf8Len_cons]
    omega
  | broken bytes rest hfront ih =>
    have hrest := length_of_front_broken hfront
    have hsize : replacement.utf8Size = 3 := rfl
    rw [decodeLossy_of_broken hfront, String.utf8Len_cons, List.count_cons_self]
    omega

/-- There are no more characters than bytes. -/
theorem length_decodeLossy_le (bytes : Bytes) : (decodeLossy bytes).length ≤ bytes.length := by
  induction bytes using front_induction with
  | ended => exact Nat.zero_le _
  | char bytes c rest hfront ih =>
    have hrest := length_of_front_char hfront
    rw [decodeLossy_of_char hfront, List.length_cons]
    omega
  | broken bytes rest hfront ih =>
    have hrest := length_of_front_broken hfront
    rw [decodeLossy_of_broken hfront, List.length_cons]
    omega

/-- Bytes that begin no character are broken one by one. -/
theorem decodeLossy_replicate (n : Nat) :
    decodeLossy (List.replicate n 0xFF) = List.replicate n replacement := by
  induction n with
  | zero => rfl
  | succ n ih =>
    have hfront : front (List.replicate (n + 1) 0xFF) = .broken (List.replicate n 0xFF) := rfl
    rw [decodeLossy_of_broken hfront, ih]
    rfl

theorem utf8Len_replicate (n : Nat) (c : Char) :
    String.utf8Len (List.replicate n c) = n * c.utf8Size := by
  induction n with
  | zero => simp
  | succ n ih => rw [List.replicate_succ, String.utf8Len_cons, ih, Nat.succ_mul]

/-! ### Reading what was written -/

section

variable {n : Nat}

theorem isTail_tail (n : Nat) : isTail (UInt8.ofNat (n % 64 + 128)) = true := by
  have htail : (UInt8.ofNat (n % 64 + 128)).toNat = n % 64 + 128 :=
    UInt8.toNat_ofNat_of_lt' (by show _ < 256; omega)
  simp only [isTail, Bool.and_eq_true, decide_eq_true_eq, UInt8.le_iff_toNat_le, htail,
    UInt8.reduceToNat]
  omega

theorem tailBits_tail (n : Nat) : tailBits (UInt8.ofNat (n % 64 + 128)) = n % 64 := by
  unfold tailBits
  rw [UInt8.toNat_ofNat_of_lt' (by show _ < 256; omega)]
  omega

theorem front_one (h : n ≤ 0x7F) (rest : Bytes) :
    front (UInt8.ofNat n :: rest) = .char (Char.ofNat n) rest := by
  have hfirst : (UInt8.ofNat n).toNat = n := UInt8.toNat_ofNat_of_lt' (by show _ < 256; omega)
  unfold front
  simp only [UInt8.lt_iff_toNat_lt, hfirst, UInt8.reduceToNat]
  rw [if_pos (by omega)]

theorem front_two (h : 0x7F < n) (h' : n ≤ 0x7FF) (rest : Bytes) :
    front (UInt8.ofNat (n / 64 % 32 + 192) :: UInt8.ofNat (n % 64 + 128) :: rest) =
      .char (Char.ofNat n) rest := by
  have hfirst : (UInt8.ofNat (n / 64 % 32 + 192)).toNat = n / 64 % 32 + 192 :=
    UInt8.toNat_ofNat_of_lt' (by show _ < 256; omega)
  simp only [front, isTail_tail, tailBits_tail, UInt8.lt_iff_toNat_lt, UInt8.le_iff_toNat_le,
    hfirst, UInt8.reduceToNat, Bool.and_eq_true, decide_eq_true_eq]
  rw [if_neg (by omega), if_pos (by omega), if_pos trivial]
  congr 2
  omega

theorem front_three (h : 0x7FF < n) (h' : n ≤ 0xFFFF) (hvalid : n < 0xD800 ∨ 0xDFFF < n)
    (rest : Bytes) :
    front (UInt8.ofNat (n / 4096 % 16 + 224) :: UInt8.ofNat (n / 64 % 64 + 128) ::
      UInt8.ofNat (n % 64 + 128) :: rest) = .char (Char.ofNat n) rest := by
  have hfirst : (UInt8.ofNat (n / 4096 % 16 + 224)).toNat = n / 4096 % 16 + 224 :=
    UInt8.toNat_ofNat_of_lt' (by show _ < 256; omega)
  have hsecond : (UInt8.ofNat (n / 64 % 64 + 128)).toNat = n / 64 % 64 + 128 :=
    UInt8.toNat_ofNat_of_lt' (by show _ < 256; omega)
  have hfits : fitsThree (UInt8.ofNat (n / 4096 % 16 + 224)) (UInt8.ofNat (n / 64 % 64 + 128)) =
      true := by
    simp only [fitsThree, isTail_tail, UInt8.le_iff_toNat_le, ← UInt8.toNat_inj, hfirst, hsecond,
      UInt8.reduceToNat]
    -- The bounds on the second byte: two bytes would do below the lower, and surrogates are above
    -- the upper.
    split_ifs
    · rw [Bool.and_eq_true, decide_eq_true_eq, decide_eq_true_eq]
      omega
    · rw [Bool.and_eq_true, decide_eq_true_eq, decide_eq_true_eq]
      omega
    · rfl
  simp only [front, isTail_tail, tailBits_tail, hfits, UInt8.lt_iff_toNat_lt,
    UInt8.le_iff_toNat_le, hfirst, UInt8.reduceToNat, Bool.and_eq_true, decide_eq_true_eq]
  rw [if_neg (by omega), if_neg (by omega), if_pos (by omega), if_pos trivial, if_pos trivial]
  congr 2
  omega

theorem front_four (h : 0xFFFF < n) (h' : n < 0x110000) (rest : Bytes) :
    front (UInt8.ofNat (n / 262144 % 8 + 240) :: UInt8.ofNat (n / 4096 % 64 + 128) ::
      UInt8.ofNat (n / 64 % 64 + 128) :: UInt8.ofNat (n % 64 + 128) :: rest) =
      .char (Char.ofNat n) rest := by
  have hfirst : (UInt8.ofNat (n / 262144 % 8 + 240)).toNat = n / 262144 % 8 + 240 :=
    UInt8.toNat_ofNat_of_lt' (by show _ < 256; omega)
  have hsecond : (UInt8.ofNat (n / 4096 % 64 + 128)).toNat = n / 4096 % 64 + 128 :=
    UInt8.toNat_ofNat_of_lt' (by show _ < 256; omega)
  have hfits : fitsFour (UInt8.ofNat (n / 262144 % 8 + 240)) (UInt8.ofNat (n / 4096 % 64 + 128)) =
      true := by
    simp only [fitsFour, isTail_tail, UInt8.le_iff_toNat_le, ← UInt8.toNat_inj, hfirst, hsecond,
      UInt8.reduceToNat]
    split_ifs
    · rw [Bool.and_eq_true, decide_eq_true_eq, decide_eq_true_eq]
      omega
    · rw [Bool.and_eq_true, decide_eq_true_eq, decide_eq_true_eq]
      omega
    · rfl
  simp only [front, frontFour, isTail_tail, tailBits_tail, hfits, UInt8.lt_iff_toNat_lt,
    UInt8.le_iff_toNat_le, hfirst, UInt8.reduceToNat, Bool.and_eq_true, decide_eq_true_eq]
  rw [if_neg (by omega), if_neg (by omega), if_neg (by omega), if_pos (by omega), if_pos trivial,
    if_pos trivial, if_pos trivial]
  congr 2
  omega

/-- What was written for a character is read as that character. -/
theorem front_utf8EncodeChar (c : Char) (rest : Bytes) :
    front (String.utf8EncodeChar c ++ rest) = .char c rest := by
  have hvalid : c.toNat < 0xD800 ∨ 0xDFFF < c.toNat ∧ c.toNat < 0x110000 := c.valid
  have hback := c.ofNat_toNat
  have hval : c.val.toNat = c.toNat := rfl
  unfold String.utf8EncodeChar
  simp only [hval]
  -- From here on only the number counts, and the four forms are told apart by its size.
  generalize c.toNat = n at hvalid hback ⊢
  subst hback
  split_ifs with hone htwo hthree
  · exact front_one hone rest
  · exact front_two (by omega) htwo rest
  · exact front_three (by omega) hthree (by omega) rest
  · exact front_four (by omega) (by omega) rest

end

/-- What was written is read as it was written. -/
theorem decodeLossy_encode (text : String) : decodeLossy (encode text) = text.toList := by
  unfold encode
  induction text.toList with
  | nil => rfl
  | cons c chars ih =>
    rw [List.flatMap_cons, decodeLossy_of_char (front_utf8EncodeChar c _), ih]

/-- A text is as long as what is written for it. -/
theorem length_encode (text : String) : (encode text).length = text.utf8ByteSize := by
  rw [← String.ofList_toList (s := text), String.utf8ByteSize_ofList]
  unfold encode
  rw [String.toList_ofList]
  induction text.toList with
  | nil => rfl
  | cons c chars ih =>
    rw [List.flatMap_cons, List.length_append, ih, String.length_utf8EncodeChar,
      String.utf8Len_cons, Nat.add_comm]

end RecordBridge.Utf8
