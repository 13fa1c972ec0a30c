import SnippetCost.Text.Utf8

/-!
# UTF-8, written and read

* **`encodeChar_eq_utf8EncodeChar`**: the bytes of a character are those of the core library.
* **`decodeFrom_encodeChar`**: the reader takes them as that one character and stands between characters again.
* **`decodeStrict_encode`**: so no text that was written is refused, and each is read as it was.
* **`decodeStrict_eq_ok_iff`**: and no other bytes are taken: the strict reader undoes the writer and nothing more.

Of bytes that are refused it is only said that they are, not where the reader finds the mistake.
-/

namespace SnippetCost.Text

/-! ## Writing -/

/-- The numbers of characters leave out the surrogates. -/
theorem toNat_scalar (c : Char) : c.toNat < 0xD800 ∨ 0xDFFF < c.toNat ∧ c.toNat < 0x110000 :=
  c.valid

/-- The bytes of a character are those of the core library. -/
theorem encodeChar_eq_utf8EncodeChar (c : Char) : encodeChar c = String.utf8EncodeChar c := by
  have hscalar := toNat_scalar c
  have hval : c.val.toNat = c.toNat := rfl
  unfold encodeChar String.utf8EncodeChar
  simp only [hval]
  by_cases h₁ : c.toNat < 0x80
  · rw [if_pos h₁, if_pos (by omega)]
  rw [if_neg h₁, if_neg (by omega : ¬c.toNat ≤ 127)]
  by_cases h₂ : c.toNat < 0x800
  · rw [if_pos h₂, if_pos (by omega), Nat.mod_eq_of_lt (by omega : c.toNat / 64 < 32), Nat.add_comm,
      Nat.add_comm 0x80]
  rw [if_neg h₂, if_neg (by omega : ¬c.toNat ≤ 2047)]
  by_cases h₃ : c.toNat < 0x10000
  · rw [if_pos h₃, if_pos (by omega), Nat.mod_eq_of_lt (by omega : c.toNat / 4096 < 16), Nat.add_comm,
      Nat.add_comm 0x80, Nat.add_comm 0x80]
  rw [if_neg h₃, if_neg (by omega : ¬c.toNat ≤ 65535), Nat.mod_eq_of_lt (by omega : c.toNat / 262144 < 8),
    Nat.add_comm, Nat.add_comm 0x80, Nat.add_comm 0x80, Nat.add_comm 0x80]

/-- The bytes of a text are those of the core library. -/
theorem encode_eq_flatMap_utf8EncodeChar (cs : List Char) : encode cs = cs.flatMap String.utf8EncodeChar :=
  congrArg cs.flatMap (funext encodeChar_eq_utf8EncodeChar)

/-! ## Reading -/

section Reading

variable {bits owed least greatest n : Nat} {read : List UInt8} {b : UInt8}

theorem decodeFrom_cons (state : DecodeState) (b : UInt8) (bs : List UInt8) :
    decodeFrom state (b :: bs) = (decodeStep state b).1 ++ decodeFrom (decodeStep state b).2 bs := by
  rw [decodeFrom.eq_3]

/-- A byte within the bounds continues a character that more bytes are owed to. -/
theorem decodeFrom_continue (h : least ≤ b.toNat ∧ b.toNat ≤ greatest) (howed : owed ≠ 1) (bs : List UInt8) :
    decodeFrom (.within bits owed least greatest read) (b :: bs) =
      decodeFrom (.within (bits * 64 + b.toNat % 64) (owed - 1) 0x80 0xBF (b :: read)) bs := by
  rw [decodeFrom_cons, decodeStep, if_pos h, if_neg howed, List.nil_append]

/-- The last byte that is owed completes the character. -/
theorem decodeFrom_last (h : least ≤ b.toNat ∧ b.toNat ≤ greatest) (bs : List UInt8) :
    decodeFrom (.within bits 1 least greatest read) (b :: bs) =
      .char (Char.ofNat (bits * 64 + b.toNat % 64)) :: decodeFrom .between bs := by
  rw [decodeFrom_cons, decodeStep, if_pos h, if_pos rfl, List.singleton_append]

/-! ### Characters of one to four bytes -/

/-- A byte is the number it is made from. -/
theorem toNat_ofNat_byte (h : n < 256) : (UInt8.ofNat n).toNat = n :=
  UInt8.toNat_ofNat_of_lt' h

theorem decodeFrom_one (h : n < 0x80) (bs : List UInt8) :
    decodeFrom .between (UInt8.ofNat n :: bs) = .char (Char.ofNat n) :: decodeFrom .between bs := by
  have hbyte := toNat_ofNat_byte (n := n) (by omega)
  rw [decodeFrom_cons, decodeStep, leadByte, hbyte, if_pos h, List.singleton_append]

/-- A byte that continues a character carries six bits. -/
theorem continuation_bounds {l : Nat} (h : l < 64) :
    (0x80 ≤ (UInt8.ofNat (0x80 + l)).toNat ∧ (UInt8.ofNat (0x80 + l)).toNat ≤ 0xBF) ∧
      (UInt8.ofNat (0x80 + l)).toNat % 64 = l := by
  rw [toNat_ofNat_byte (by omega)]
  omega

theorem decodeFrom_two {k l : Nat} (hk : 2 ≤ k ∧ k < 32) (hl : l < 64) (bs : List UInt8) :
    decodeFrom .between (UInt8.ofNat (0xC0 + k) :: UInt8.ofNat (0x80 + l) :: bs) =
      .char (Char.ofNat (k * 64 + l)) :: decodeFrom .between bs := by
  have hlead := toNat_ofNat_byte (n := 0xC0 + k) (by omega)
  obtain ⟨hbounds, hbits⟩ := continuation_bounds hl
  rw [decodeFrom_cons, decodeStep, leadByte, hlead, if_neg (by omega), if_neg (by omega), if_pos (by omega),
    List.nil_append, decodeFrom_last hbounds, hbits, Nat.add_sub_cancel_left]

/-- The bounds of the second byte leave out overlong forms and surrogates. -/
theorem decodeFrom_three {k l m : Nat} (hk : k < 16) (hl : l < 64) (hm : m < 64) (overlong : k = 0 → 32 ≤ l)
    (surrogate : k = 13 → l < 32) (bs : List UInt8) :
    decodeFrom .between (UInt8.ofNat (0xE0 + k) :: UInt8.ofNat (0x80 + l) :: UInt8.ofNat (0x80 + m) :: bs) =
      .char (Char.ofNat ((k * 64 + l) * 64 + m)) :: decodeFrom .between bs := by
  have hlead := toNat_ofNat_byte (n := 0xE0 + k) (by omega)
  have hsecond := toNat_ofNat_byte (n := 0x80 + l) (by omega)
  obtain ⟨-, hbits⟩ := continuation_bounds hl
  obtain ⟨hbounds', hbits'⟩ := continuation_bounds hm
  have hbounds : (if 0xE0 + k = 0xE0 then 0xA0 else 0x80) ≤ (UInt8.ofNat (0x80 + l)).toNat ∧
      (UInt8.ofNat (0x80 + l)).toNat ≤ if 0xE0 + k = 0xED then 0x9F else 0xBF := by
    rw [hsecond]
    split <;> split <;> omega
  rw [decodeFrom_cons, decodeStep, leadByte, hlead, if_neg (by omega), if_neg (by omega), if_neg (by omega),
    if_pos (by omega), List.nil_append, decodeFrom_continue hbounds (by decide), hbits, decodeFrom_last hbounds',
    hbits', Nat.add_sub_cancel_left]

/-- The bounds of the second byte leave out overlong forms and what is beyond the last code point. -/
theorem decodeFrom_four {k l m n : Nat} (hk : k < 5) (hl : l < 64) (hm : m < 64) (hn : n < 64)
    (overlong : k = 0 → 16 ≤ l) (beyond : k = 4 → l < 16) (bs : List UInt8) :
    decodeFrom .between (UInt8.ofNat (0xF0 + k) :: UInt8.ofNat (0x80 + l) :: UInt8.ofNat (0x80 + m) ::
        UInt8.ofNat (0x80 + n) :: bs) =
      .char (Char.ofNat (((k * 64 + l) * 64 + m) * 64 + n)) :: decodeFrom .between bs := by
  have hlead := toNat_ofNat_byte (n := 0xF0 + k) (by omega)
  have hsecond := toNat_ofNat_byte (n := 0x80 + l) (by omega)
  obtain ⟨-, hbits⟩ := continuation_bounds hl
  obtain ⟨hbounds', hbits'⟩ := continuation_bounds hm
  obtain ⟨hbounds'', hbits''⟩ := continuation_bounds hn
  have hbounds : (if 0xF0 + k = 0xF0 then 0x90 else 0x80) ≤ (UInt8.ofNat (0x80 + l)).toNat ∧
      (UInt8.ofNat (0x80 + l)).toNat ≤ if 0xF0 + k = 0xF4 then 0x8F else 0xBF := by
    rw [hsecond]
    split <;> split <;> omega
  rw [decodeFrom_cons, decodeStep, leadByte, hlead, if_neg (by omega), if_neg (by omega), if_neg (by omega),
    if_neg (by omega), if_pos (by omega), List.nil_append, decodeFrom_continue hbounds (by decide), hbits,
    decodeFrom_continue hbounds' (by decide), hbits', decodeFrom_last hbounds'', hbits'', Nat.add_sub_cancel_left]

/-- **The bytes of a character are read as the character.** -/
theorem decodeFrom_encodeChar (c : Char) (bs : List UInt8) :
    decodeFrom .between (encodeChar c ++ bs) = .char c :: decodeFrom .between bs := by
  have hscalar := toNat_scalar c
  have number : ∀ {n}, n = c.toNat → Piece.char (Char.ofNat n) = .char c := by
    rintro _ rfl
    rw [Char.ofNat_toNat]
  unfold encodeChar
  by_cases h₁ : c.toNat < 0x80
  · rw [if_pos h₁, List.singleton_append, decodeFrom_one h₁, number rfl]
  rw [if_neg h₁]
  by_cases h₂ : c.toNat < 0x800
  · rw [if_pos h₂]
    refine (decodeFrom_two (by omega) (by omega) bs).trans ?_
    rw [number (by omega)]
  rw [if_neg h₂]
  by_cases h₃ : c.toNat < 0x10000
  · rw [if_pos h₃]
    refine (decodeFrom_three (by omega) (by omega) (by omega) (by omega) (by omega) bs).trans ?_
    rw [number (by omega)]
  · rw [if_neg h₃]
    refine (decodeFrom_four (by omega) (by omega) (by omega) (by omega) (by omega) (by omega) bs).trans ?_
    rw [number (by omega)]

/-- A text that was written is read character by character. -/
theorem decode_encode (cs : List Char) : decode (encode cs) = cs.map .char := by
  unfold decode
  induction cs with
  | nil => rfl
  | cons c cs ih =>
      have hcons : encode (c :: cs) = encodeChar c ++ encode cs := List.flatMap_cons
      rw [hcons, decodeFrom_encodeChar, ih, List.map_cons]

theorem charsOfPieces_chars (position : Nat) (cs : List Char) :
    charsOfPieces position (cs.map .char) = .ok cs := by
  induction cs generalizing position with
  | nil => rfl
  | cons c cs ih =>
      rw [List.map_cons, charsOfPieces, ih]
      rfl

/-- **A text that was written is read as it was.** -/
theorem decodeStrict_encode (cs : List Char) : decodeStrict (encode cs) = .ok cs := by
  rw [decodeStrict, decode_encode, charsOfPieces_chars]

/-- So no two texts are written alike. -/
theorem encode_injective : Function.Injective encode := by
  intro cs ds h
  have hread := congrArg decodeStrict h
  rw [decodeStrict_encode, decodeStrict_encode] at hread
  exact Except.ok.inj hread

end Reading

/-! ## What is read was written -/

section Written

variable {bits owed least greatest k l m n : Nat} {read bytes : List UInt8} {b : UInt8} {c : Char}
  {pieces : List Piece}

/-! ### One byte -/

/-- If a character comes of it, a byte within the bounds follows. -/
theorem exists_continue (howed : owed ≠ 1)
    (h : decodeFrom (.within bits owed least greatest read) bytes = .char c :: pieces) :
    ∃ b bs, bytes = b :: bs ∧ (least ≤ b.toNat ∧ b.toNat ≤ greatest) ∧
      decodeFrom (.within (bits * 64 + b.toNat % 64) (owed - 1) 0x80 0xBF (b :: read)) bs = .char c :: pieces := by
  cases bytes with
  | nil => cases h
  | cons b bs =>
      by_cases hbounds : least ≤ b.toNat ∧ b.toNat ≤ greatest
      · rw [decodeFrom_continue hbounds howed] at h
        exact ⟨b, bs, rfl, hbounds, h⟩
      · rw [decodeFrom_cons, decodeStep, if_neg hbounds] at h
        cases h

/-- If one byte is owed, it completes the character. -/
theorem exists_last (h : decodeFrom (.within bits 1 least greatest read) bytes = .char c :: pieces) :
    ∃ b bs, bytes = b :: bs ∧ (least ≤ b.toNat ∧ b.toNat ≤ greatest) ∧
      c = Char.ofNat (bits * 64 + b.toNat % 64) ∧ pieces = decodeFrom .between bs := by
  cases bytes with
  | nil => cases h
  | cons b bs =>
      by_cases hbounds : least ≤ b.toNat ∧ b.toNat ≤ greatest
      · rw [decodeFrom_last hbounds] at h
        cases h
        exact ⟨b, bs, rfl, hbounds, rfl, rfl⟩
      · rw [decodeFrom_cons, decodeStep, if_neg hbounds] at h
        cases h

theorem exists_tail (h : 0x80 ≤ b.toNat ∧ b.toNat ≤ 0xBF) :
    ∃ l < 64, b = UInt8.ofNat (0x80 + l) ∧ b.toNat % 64 = l := by
  refine ⟨b.toNat - 0x80, by omega, ?_, by omega⟩
  rw [Nat.add_sub_cancel' h.1, UInt8.ofNat_toNat]

theorem exists_offset {base : Nat} (h : base ≤ b.toNat) : ∃ k, b.toNat = base + k ∧ b = UInt8.ofNat (base + k) := by
  refine ⟨b.toNat - base, by omega, ?_⟩
  rw [Nat.add_sub_cancel' h, UInt8.ofNat_toNat]

/-- The ways to begin a character, by the number of its bytes. -/
theorem exists_lead (h : decodeFrom .between bytes = .char c :: pieces) :
    ∃ b bs, bytes = b :: bs ∧
      ((b.toNat < 0x80 ∧ c = Char.ofNat b.toNat ∧ pieces = decodeFrom .between bs) ∨
        (∃ k, (2 ≤ k ∧ k < 32) ∧ b = UInt8.ofNat (0xC0 + k) ∧
          decodeFrom (.within k 1 0x80 0xBF [b]) bs = .char c :: pieces) ∨
        (∃ k < 16, b = UInt8.ofNat (0xE0 + k) ∧
          decodeFrom (.within k 2 (if 0xE0 + k = 0xE0 then 0xA0 else 0x80) (if 0xE0 + k = 0xED then 0x9F else 0xBF)
            [b]) bs = .char c :: pieces) ∨
        ∃ k < 5, b = UInt8.ofNat (0xF0 + k) ∧
          decodeFrom (.within k 3 (if 0xF0 + k = 0xF0 then 0x90 else 0x80) (if 0xF0 + k = 0xF4 then 0x8F else 0xBF)
            [b]) bs = .char c :: pieces) := by
  cases bytes with
  | nil => cases h
  | cons b bs =>
      refine ⟨b, bs, rfl, ?_⟩
      rw [decodeFrom_cons, decodeStep, leadByte] at h
      split at h
      · cases h
        exact .inl ⟨‹_›, rfl, rfl⟩
      split at h
      · cases h
      split at h
      · obtain ⟨k, hk, hb⟩ := exists_offset (show 0xC0 ≤ b.toNat by omega)
        rw [hk, Nat.add_sub_cancel_left] at h
        exact .inr (.inl ⟨k, by omega, hb, h⟩)
      split at h
      · obtain ⟨k, hk, hb⟩ := exists_offset (show 0xE0 ≤ b.toNat by omega)
        rw [hk, Nat.add_sub_cancel_left] at h
        exact .inr (.inr (.inl ⟨k, by omega, hb, h⟩))
      split at h
      · obtain ⟨k, hk, hb⟩ := exists_offset (show 0xF0 ≤ b.toNat by omega)
        rw [hk, Nat.add_sub_cancel_left] at h
        exact .inr (.inr (.inr ⟨k, by omega, hb, h⟩))
      · cases h

/-! ### Characters of one to four bytes -/

/-- A number that is no surrogate's is the number of its character. -/
theorem toNat_charOfNat (h : n < 0xD800 ∨ 0xDFFF < n ∧ n < 0x110000) : (Char.ofNat n).toNat = n := by
  have hvalid : n.isValidChar := h
  unfold Char.ofNat
  rw [dif_pos hvalid]
  rfl

theorem encodeChar_two (hk : 2 ≤ k ∧ k < 32) (hl : l < 64) :
    encodeChar (Char.ofNat (k * 64 + l)) = [UInt8.ofNat (0xC0 + k), UInt8.ofNat (0x80 + l)] := by
  have hnumber := toNat_charOfNat (n := k * 64 + l) (by omega)
  have hhigh : (k * 64 + l) / 64 = k := by omega
  have hlow : (k * 64 + l) % 64 = l := by omega
  unfold encodeChar
  dsimp only
  rw [hnumber, if_neg (by omega), if_pos (by omega), hhigh, hlow]

theorem encodeChar_three (hk : k < 16) (hl : l < 64) (hm : m < 64) (overlong : k = 0 → 32 ≤ l)
    (surrogate : k = 13 → l < 32) : encodeChar (Char.ofNat ((k * 64 + l) * 64 + m)) =
      [UInt8.ofNat (0xE0 + k), UInt8.ofNat (0x80 + l), UInt8.ofNat (0x80 + m)] := by
  have hnumber := toNat_charOfNat (n := (k * 64 + l) * 64 + m) (by omega)
  have hhigh : ((k * 64 + l) * 64 + m) / 4096 = k := by omega
  have hmiddle : ((k * 64 + l) * 64 + m) / 64 % 64 = l := by omega
  have hlow : ((k * 64 + l) * 64 + m) % 64 = m := by omega
  unfold encodeChar
  dsimp only
  rw [hnumber, if_neg (by omega), if_neg (by omega), if_pos (by omega), hhigh, hmiddle, hlow]

theorem encodeChar_four (hk : k < 5) (hl : l < 64) (hm : m < 64) (hn : n < 64) (overlong : k = 0 → 16 ≤ l)
    (beyond : k = 4 → l < 16) : encodeChar (Char.ofNat (((k * 64 + l) * 64 + m) * 64 + n)) =
      [UInt8.ofNat (0xF0 + k), UInt8.ofNat (0x80 + l), UInt8.ofNat (0x80 + m), UInt8.ofNat (0x80 + n)] := by
  have hnumber := toNat_charOfNat (n := ((k * 64 + l) * 64 + m) * 64 + n) (by omega)
  have hhigh : (((k * 64 + l) * 64 + m) * 64 + n) / 262144 = k := by omega
  have hsecond : (((k * 64 + l) * 64 + m) * 64 + n) / 4096 % 64 = l := by omega
  have hthird : (((k * 64 + l) * 64 + m) * 64 + n) / 64 % 64 = m := by omega
  have hlow : (((k * 64 + l) * 64 + m) * 64 + n) % 64 = n := by omega
  unfold encodeChar
  dsimp only
  rw [hnumber, if_neg (by omega), if_neg (by omega), if_neg (by omega), hhigh, hsecond, hthird, hlow]

/-- **A character that is read stands there as its bytes.** -/
theorem exists_encodeChar (h : decodeFrom .between bytes = .char c :: pieces) :
    ∃ bs, bytes = encodeChar c ++ bs ∧ pieces = decodeFrom .between bs := by
  obtain ⟨b, bs, rfl, ⟨hb, rfl, hpieces⟩ | ⟨k, hk, rfl, h⟩ | ⟨k, hk, rfl, h⟩ | ⟨k, hk, rfl, h⟩⟩ := exists_lead h
  · refine ⟨bs, ?_, hpieces⟩
    have hnumber := toNat_charOfNat (n := b.toNat) (by omega)
    unfold encodeChar
    dsimp only
    rw [hnumber, if_pos hb, UInt8.ofNat_toNat]
    rfl
  · obtain ⟨b₁, bs, rfl, hb₁, rfl, hpieces⟩ := exists_last h
    obtain ⟨l, hl, rfl, hbits⟩ := exists_tail hb₁
    refine ⟨bs, ?_, hpieces⟩
    rw [hbits, encodeChar_two hk hl]
    rfl
  · obtain ⟨b₁, bs, rfl, hb₁, h⟩ := exists_continue (by decide) h
    obtain ⟨b₂, bs, rfl, hb₂, rfl, hpieces⟩ := exists_last h
    obtain ⟨l, hl, rfl, hbits⟩ := exists_tail (b := b₁) (by split at hb₁ <;> split at hb₁ <;> omega)
    obtain ⟨m, hm, rfl, hbits'⟩ := exists_tail hb₂
    rw [toNat_ofNat_byte (by omega)] at hb₁
    have overlong : k = 0 → 32 ≤ l := by
      rintro rfl
      simp at hb₁
      omega
    have surrogate : k = 13 → l < 32 := by
      rintro rfl
      simp at hb₁
      omega
    refine ⟨bs, ?_, hpieces⟩
    rw [hbits, hbits', encodeChar_three hk hl hm overlong surrogate]
    rfl
  · obtain ⟨b₁, bs, rfl, hb₁, h⟩ := exists_continue (by decide) h
    obtain ⟨b₂, bs, rfl, hb₂, h⟩ := exists_continue (by decide) h
    obtain ⟨b₃, bs, rfl, hb₃, rfl, hpieces⟩ := exists_last h
    obtain ⟨l, hl, rfl, hbits⟩ := exists_tail (b := b₁) (by split at hb₁ <;> split at hb₁ <;> omega)
    obtain ⟨m, hm, rfl, hbits'⟩ := exists_tail hb₂
    obtain ⟨n, hn, rfl, hbits''⟩ := exists_tail hb₃
    rw [toNat_ofNat_byte (by omega)] at hb₁
    have overlong : k = 0 → 16 ≤ l := by
      rintro rfl
      simp at hb₁
      omega
    have beyond : k = 4 → l < 16 := by
      rintro rfl
      simp at hb₁
      omega
    refine ⟨bs, ?_, hpieces⟩
    rw [hbits, hbits', hbits'', encodeChar_four hk hl hm hn overlong beyond]
    rfl

/-! ### Texts -/

theorem charsOfPieces_eq_ok {position : Nat} {cs : List Char} (h : charsOfPieces position pieces = .ok cs) :
    pieces = cs.map .char := by
  induction pieces generalizing position cs with
  | nil =>
      cases h
      rfl
  | cons piece pieces ih =>
      cases piece with
      | bad bytes malformation => cases h
      | char c =>
          rw [charsOfPieces] at h
          cases hrest : charsOfPieces (position + (encodeChar c).length) pieces with
          | error e =>
              rw [hrest] at h
              cases h
          | ok ds =>
              rw [hrest] at h
              cases h
              rw [ih hrest]
              rfl

/-- A character that was begun leaves a piece. -/
theorem decodeFrom_within_ne_nil : decodeFrom (.within bits owed least greatest read) bytes ≠ [] := by
  induction bytes generalizing bits owed least greatest read with
  | nil => exact List.cons_ne_nil _ _
  | cons b bs ih =>
      by_cases hbounds : least ≤ b.toNat ∧ b.toNat ≤ greatest
      · by_cases howed : owed = 1
        · subst howed
          rw [decodeFrom_last hbounds]
          exact List.cons_ne_nil _ _
        · rw [decodeFrom_continue hbounds howed]
          exact ih
      · rw [decodeFrom_cons, decodeStep, if_neg hbounds]
        exact List.cons_ne_nil _ _

/-- So no byte is read without a trace. -/
theorem decodeFrom_between_eq_nil (h : decodeFrom .between bytes = []) : bytes = [] := by
  cases bytes with
  | nil => rfl
  | cons b bs =>
      rw [decodeFrom_cons, decodeStep, leadByte, List.append_eq_nil_iff] at h
      obtain ⟨hpieces, hrest⟩ := h
      split at hpieces
      · cases hpieces
      split at hpieces
      · cases hpieces
      rename_i hone hstart
      rw [if_neg hone, if_neg hstart] at hrest
      split at hrest
      · exact absurd hrest decodeFrom_within_ne_nil
      rename_i htwo
      rw [if_neg htwo] at hpieces
      split at hrest
      · exact absurd hrest decodeFrom_within_ne_nil
      rename_i hthree
      rw [if_neg hthree] at hpieces
      split at hrest
      · exact absurd hrest decodeFrom_within_ne_nil
      · rename_i hfour
        rw [if_neg hfour] at hpieces
        cases hpieces

theorem eq_encode_of_decode {cs : List Char} (h : decodeFrom .between bytes = cs.map .char) : bytes = encode cs := by
  induction cs generalizing bytes with
  | nil => exact decodeFrom_between_eq_nil h
  | cons c cs ih =>
      obtain ⟨bs, rfl, hpieces⟩ := exists_encodeChar h
      rw [ih hpieces.symm]
      rfl

/-- **The strict reader takes the texts that were written and nothing else.** -/
theorem decodeStrict_eq_ok_iff {cs : List Char} : decodeStrict bytes = .ok cs ↔ bytes = encode cs := by
  constructor
  · exact fun h => eq_encode_of_decode (charsOfPieces_eq_ok h)
  · rintro rfl
    exact decodeStrict_encode cs

/-- It refuses all others. -/
theorem exists_decodeStrict_eq_error_iff : (∃ e, decodeStrict bytes = .error e) ↔ ¬∃ cs, bytes = encode cs := by
  cases hread : decodeStrict bytes with
  | error e =>
      refine iff_of_true ⟨e, rfl⟩ ?_
      rintro ⟨cs, hcs⟩
      cases hread.symm.trans (decodeStrict_eq_ok_iff.mpr hcs)
  | ok cs => exact iff_of_false nofun fun h => h ⟨cs, decodeStrict_eq_ok_iff.mp hread⟩

end Written

end SnippetCost.Text
