import JavaDeps.Text.Utf8

/-!
# Encoded text reads back

A character is written in one to four bytes: the first says how many, and each of the others carries
six bits. **The bytes of a character read as that character, whatever follows them**
(`step_encoded`), so the bytes of a text read as the text (`symbols_encode`). What the reader
refuses, overlong forms and surrogates, is not written for any character.

A byte below 128 stands for a character by itself (`utf8EncodeChar_eq_of_mem`), so a text can be cut
before it and behind it (`isValid_of_getElem?_encode`).
-/

namespace JavaDeps.Utf8

/-! ### The bytes of a text -/

/-- The bytes of an array, read from an index on. -/
theorem toList_loop (bytes : ByteArray) (i : Nat) (before : List UInt8) :
    ByteArray.toList.loop bytes i before = before.reverse ++ bytes.data.toList.drop i := by
  fun_induction ByteArray.toList.loop bytes i before with
  | case1 i before hlt ih =>
    have hi : i < bytes.data.toList.length := by simpa using hlt
    rw [ih, List.drop_eq_getElem_cons hi]
    simp [ByteArray.get!, hlt]
  | case2 i before hge =>
    rw [List.drop_eq_nil_of_le (by simpa using Nat.le_of_not_lt hge), List.append_nil]

/-- The bytes of a text are those of its characters. -/
theorem encode_eq (s : String) : encode s = s.toList.flatMap String.utf8EncodeChar := by
  have hbytes : s.toUTF8 = (s.toList.flatMap String.utf8EncodeChar).toByteArray :=
    String.utf8Encode_toList.symm
  rw [encode, hbytes, ByteArray.toList, toList_loop, List.data_toByteArray]
  rfl

/-- A text has as many bytes as it is long in UTF-8. -/
theorem length_encode (s : String) : (encode s).length = s.utf8ByteSize := by
  rw [encode, ByteArray.toList, toList_loop, List.reverse_nil, List.nil_append, List.drop_zero]
  exact Array.length_toList

/-! ### One character -/

/-- A continuation byte within bounds adds six bits. -/
theorem continueChar_ofNat {bits seen more n : Nat} {low high : UInt8} (hn : n < 64)
    (hbounds : inRange low high (UInt8.ofNat (n + 128)) = true) (rest : List UInt8) :
    continueChar bits seen low high (more + 1) (UInt8.ofNat (n + 128) :: rest) =
      continueChar (bits * 64 + n) (seen + 1) 0x80 0xBF more rest := by
  have hpayload : payload (UInt8.ofNat (n + 128)) = n := by
    rw [payload, UInt8.toNat_ofNat_of_lt' (show _ < 256 by omega)]
    omega
  rw [continueChar, if_pos hbounds, hpayload]

/-- Any six bits may stand in a byte that is not the second of its character. -/
theorem inRange_continuation {n : Nat} (hn : n < 64) :
    inRange 0x80 0xBF (UInt8.ofNat (n + 128)) = true := by
  revert n
  decide +kernel

/-- Reads the bytes of a longer character from the second on, when the first carries some bits. -/
def afterLead (lead : UInt8) (bits count : Nat) (rest : List UInt8) : Step :=
  continueChar bits 1 (secondBounds lead).1 (secondBounds lead).2 count rest

/-- The first byte of a character says how many follow it. -/
theorem step_eq (lead : UInt8) (rest : List UInt8) :
    step lead rest =
      if lead < 0x80 then .char (Char.ofNat lead.toNat) 0
      else if inRange 0xC2 0xDF lead then afterLead lead (lead.toNat % 32) 1 rest
      else if inRange 0xE0 0xEF lead then afterLead lead (lead.toNat % 16) 2 rest
      else if inRange 0xF0 0xF4 lead then afterLead lead (lead.toNat % 8) 3 rest
      else .invalid 1 := rfl

/-- A byte below 128 is a character. -/
theorem step_one {n : Nat} (hn : n < 128) (rest : List UInt8) :
    step (UInt8.ofNat n) rest = .char (Char.ofNat n) 0 := by
  have hascii : UInt8.ofNat n < 0x80 := by
    rw [UInt8.lt_iff_toNat_lt, UInt8.toNat_ofNat_of_lt' (show _ < 256 by omega)]
    exact hn
  rw [step_eq, if_pos hascii, UInt8.toNat_ofNat_of_lt' (show _ < 256 by omega)]

/-- A character of two bytes. -/
theorem step_two {k n : Nat} (hk : 2 ≤ k) (hk' : k < 32) (hn : n < 64) (rest : List UInt8) :
    step (UInt8.ofNat (k + 192)) (UInt8.ofNat (n + 128) :: rest) =
      .char (Char.ofNat (k * 64 + n)) 1 := by
  have hlead : ∀ k < 32, 2 ≤ k → ¬ UInt8.ofNat (k + 192) < 0x80 ∧
      inRange 0xC2 0xDF (UInt8.ofNat (k + 192)) = true ∧
      secondBounds (UInt8.ofNat (k + 192)) = (0x80, 0xBF) := by
    decide +kernel
  obtain ⟨hascii, hrange, hbounds⟩ := hlead k hk' hk
  rw [step_eq, if_neg hascii, if_pos hrange, afterLead, hbounds,
    continueChar_ofNat hn (inRange_continuation hn),
    UInt8.toNat_ofNat_of_lt' (show _ < 256 by omega)]
  have hbits : (k + 192) % 32 = k := by omega
  rw [hbits, continueChar]

/-- A character of three bytes: overlong forms and surrogates are no characters. -/
theorem step_three {k m n : Nat} (hk : k < 16) (hm : m < 64) (hn : n < 64)
    (hlong : k = 0 → 32 ≤ m) (hsurrogate : k = 13 → m < 32) (rest : List UInt8) :
    step (UInt8.ofNat (k + 224)) (UInt8.ofNat (m + 128) :: UInt8.ofNat (n + 128) :: rest) =
      .char (Char.ofNat ((k * 64 + m) * 64 + n)) 2 := by
  have hlead : ∀ k < 16, ¬ UInt8.ofNat (k + 224) < 0x80 ∧
      inRange 0xC2 0xDF (UInt8.ofNat (k + 224)) = false ∧
      inRange 0xE0 0xEF (UInt8.ofNat (k + 224)) = true := by
    decide +kernel
  have hsecond : ∀ k < 16, ∀ m < 64, (k = 0 → 32 ≤ m) → (k = 13 → m < 32) →
      inRange (secondBounds (UInt8.ofNat (k + 224))).1 (secondBounds (UInt8.ofNat (k + 224))).2
        (UInt8.ofNat (m + 128)) = true := by
    decide +kernel
  obtain ⟨hascii, htwo, hrange⟩ := hlead k hk
  rw [step_eq, if_neg hascii, htwo, if_neg Bool.false_ne_true, if_pos hrange, afterLead,
    continueChar_ofNat hm (hsecond k hk m hm hlong hsurrogate),
    continueChar_ofNat hn (inRange_continuation hn),
    UInt8.toNat_ofNat_of_lt' (show _ < 256 by omega)]
  have hbits : (k + 224) % 16 = k := by omega
  rw [hbits, continueChar]

/-- A character of four bytes: overlong forms are no characters, and there is a last one. -/
theorem step_four {k l m n : Nat} (hk : k < 5) (hl : l < 64) (hm : m < 64) (hn : n < 64)
    (hlong : k = 0 → 16 ≤ l) (hlast : k = 4 → l < 16) (rest : List UInt8) :
    step (UInt8.ofNat (k + 240)) (UInt8.ofNat (l + 128) :: UInt8.ofNat (m + 128) ::
      UInt8.ofNat (n + 128) :: rest) = .char (Char.ofNat (((k * 64 + l) * 64 + m) * 64 + n)) 3 := by
  have hlead : ∀ k < 5, ¬ UInt8.ofNat (k + 240) < 0x80 ∧
      inRange 0xC2 0xDF (UInt8.ofNat (k + 240)) = false ∧
      inRange 0xE0 0xEF (UInt8.ofNat (k + 240)) = false ∧
      inRange 0xF0 0xF4 (UInt8.ofNat (k + 240)) = true := by
    decide +kernel
  have hsecond : ∀ k < 5, ∀ l < 64, (k = 0 → 16 ≤ l) → (k = 4 → l < 16) →
      inRange (secondBounds (UInt8.ofNat (k + 240))).1 (secondBounds (UInt8.ofNat (k + 240))).2
        (UInt8.ofNat (l + 128)) = true := by
    decide +kernel
  obtain ⟨hascii, htwo, hthree, hrange⟩ := hlead k hk
  rw [step_eq, if_neg hascii, htwo, if_neg Bool.false_ne_true, hthree, if_neg Bool.false_ne_true,
    if_pos hrange, afterLead, continueChar_ofNat hl (hsecond k hk l hl hlong hlast),
    continueChar_ofNat hm (inRange_continuation hm),
    continueChar_ofNat hn (inRange_continuation hn),
    UInt8.toNat_ofNat_of_lt' (show _ < 256 by omega)]
  have hbits : (k + 240) % 8 = k := by omega
  rw [hbits, continueChar]

/-- **The bytes of a character read as that character, whatever follows them.** -/
theorem step_encoded (c : Char) (rest : List UInt8) :
    ∃ lead more, String.utf8EncodeChar c = lead :: more ∧
      step lead (more ++ rest) = .char c more.length := by
  have hvalue : c.val.toNat = c.toNat := rfl
  have hvalid : c.toNat < 0xD800 ∨ 0xDFFF < c.toNat ∧ c.toNat < 0x110000 := c.valid
  have hchar : Char.ofNat c.toNat = c := Char.ofNat_toNat c
  rw [String.utf8EncodeChar, hvalue]
  generalize c.toNat = v at hvalid hchar
  split
  · next hone =>
    refine ⟨_, [], rfl, ?_⟩
    rw [List.nil_append, step_one (by omega), hchar]
    rfl
  · next hone =>
    split
    · next htwo =>
      refine ⟨_, _, rfl, ?_⟩
      have hbits : v / 64 % 32 * 64 + v % 64 = v := by omega
      rw [List.cons_append, List.nil_append, step_two (by omega) (by omega) (by omega), hbits,
        hchar]
      rfl
    · next htwo =>
      split
      · next hthree =>
        refine ⟨_, _, rfl, ?_⟩
        have hbits : (v / 4096 % 16 * 64 + v / 64 % 64) * 64 + v % 64 = v := by omega
        rw [List.cons_append, List.cons_append, List.nil_append,
          step_three (by omega) (by omega) (by omega) (by omega) (by omega), hbits, hchar]
        rfl
      · next hthree =>
        refine ⟨_, _, rfl, ?_⟩
        have hbits :
            ((v / 262144 % 8 * 64 + v / 4096 % 64) * 64 + v / 64 % 64) * 64 + v % 64 = v := by
          omega
        rw [List.cons_append, List.cons_append, List.cons_append, List.nil_append,
          step_four (by omega) (by omega) (by omega) (by omega) (by omega) (by omega), hbits, hchar]
        rfl

/-! ### The whole text -/

theorem isUTF8FirstByte_of_lt {b : UInt8} (hb : b < 0x80) : b.IsUTF8FirstByte := by
  have hascii : ∀ n < 128, (UInt8.ofNat n).IsUTF8FirstByte := by decide +kernel
  simpa using hascii b.toNat hb

/-- **A byte below 128 in a character is all of it**: the others of a longer character are not
below. -/
theorem utf8EncodeChar_eq_of_mem {c : Char} {b : UInt8} (hb : b < 0x80)
    (h : b ∈ String.utf8EncodeChar c) :
    c = Char.ofNat b.toNat ∧ String.utf8EncodeChar c = [b] := by
  obtain ⟨i, hi, hbyte⟩ := List.getElem_of_mem h
  have hfirst : (String.utf8EncodeChar c)[i].IsUTF8FirstByte := hbyte ▸ isUTF8FirstByte_of_lt hb
  obtain rfl : i = 0 := UInt8.isUTF8FirstByte_getElem_utf8EncodeChar.1 hfirst
  obtain ⟨lead, more, hbytes, hstep⟩ := step_encoded c []
  obtain rfl : lead = b := by simpa [hbytes] using hbyte
  rw [step_eq, if_pos hb, Step.char.injEq] at hstep
  exact ⟨hstep.1.symm, by rw [hbytes, List.eq_nil_of_length_eq_zero hstep.2.symm]⟩

/-- A byte below 128 in a text is a character of it. -/
theorem exists_append_of_getElem? {b : UInt8} (hb : b < 0x80) {cs : List Char} :
    ∀ {i : Nat}, (cs.flatMap String.utf8EncodeChar)[i]? = some b →
      ∃ before c after, cs = before ++ c :: after ∧ String.utf8EncodeChar c = [b] ∧
        (before.flatMap String.utf8EncodeChar).length = i := by
  induction cs with
  | nil => simp
  | cons c cs ih =>
    intro i h
    rw [List.flatMap_cons] at h
    by_cases hi : i < (String.utf8EncodeChar c).length
    · rw [List.getElem?_append_left hi] at h
      obtain ⟨-, hbytes⟩ := utf8EncodeChar_eq_of_mem hb (List.mem_of_getElem? h)
      rw [hbytes, List.length_singleton, Nat.lt_one_iff] at hi
      exact ⟨[], c, cs, rfl, hbytes, hi.symm⟩
    · have hi := Nat.le_of_not_lt hi
      rw [List.getElem?_append_right hi] at h
      obtain ⟨before, d, after, rfl, hd, hbefore⟩ := ih h
      refine ⟨c :: before, d, after, rfl, hd, ?_⟩
      rw [List.flatMap_cons, List.length_append, hbefore, Nat.add_sub_cancel' hi]

/-- A text can be cut behind the bytes of its first characters. -/
theorem isValid_of_toList_eq {s : String} {before after : List Char}
    (h : s.toList = before ++ after) :
    String.Pos.Raw.IsValid s ⟨(before.flatMap String.utf8EncodeChar).length⟩ := by
  have hlength := length_encode (String.ofList before)
  rw [encode_eq, String.toList_ofList] at hlength
  refine String.Pos.Raw.isValid_iff_exists_append.2
    ⟨String.ofList before, String.ofList after, ?_, String.Pos.Raw.ext hlength⟩
  rw [← String.ofList_append, ← h, String.ofList_toList]

/-- **A text can be cut on both sides of a byte below 128.** -/
theorem isValid_of_getElem?_encode {s : String} {i : Nat} {b : UInt8} (hb : b < 0x80)
    (h : (encode s)[i]? = some b) :
    String.Pos.Raw.IsValid s ⟨i⟩ ∧ String.Pos.Raw.IsValid s ⟨i + 1⟩ := by
  rw [encode_eq] at h
  obtain ⟨before, c, after, hs, hc, rfl⟩ := exists_append_of_getElem? hb h
  refine ⟨isValid_of_toList_eq hs, ?_⟩
  have hnext := isValid_of_toList_eq (hs.trans (List.append_cons before c after))
  rwa [List.flatMap_append, List.flatMap_singleton, hc, List.length_append] at hnext

end JavaDeps.Utf8
