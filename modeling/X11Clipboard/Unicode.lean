import X11Clipboard.Formats

/-! UTF-8 and UTF-16 as the IPRT string functions the backend calls convert between them.
IPRT is not in this tree: its conversions are modelled from the spec as the Unicode
encodings of a list of scalar values (`Char`), which both round-trip. -/
namespace X11Clipboard.Unicode

open Formats

/-! ## Encodings of scalar values -/

theorem char_valid (c : Char) : c.toNat < 0xD800 ∨ (0xDFFF < c.toNat ∧ c.toNat < 0x110000) := c.valid

theorem toNat_charOfNat {n : Nat} (h : n < 0xD800 ∨ (0xDFFF < n ∧ n < 0x110000)) :
    (Char.ofNat n).toNat = n := by
  simp [Char.ofNat, h, Char.ofNatAux, Char.toNat, Nat.isValidChar, UInt32.toNat, BitVec.toNat_ofNatLt]

theorem toNat_byte {n : Nat} (h : n < 256) : (UInt8.ofNat n).toNat = n := UInt8.toNat_ofNat_of_lt h
theorem toNat_unit {n : Nat} (h : n < 65536) : (UInt16.ofNat n).toNat = n := UInt16.toNat_ofNat_of_lt h

theorem ofNat_unit_inj {m n : Nat} (hm : m < 65536) (hn : n < 65536) :
    UInt16.ofNat m = UInt16.ofNat n ↔ m = n :=
  ⟨fun h => by simpa [toNat_unit hm, toNat_unit hn] using congrArg UInt16.toNat h, fun h => h ▸ rfl⟩

theorem ofNat_byte_inj {m n : Nat} (hm : m < 256) (hn : n < 256) :
    UInt8.ofNat m = UInt8.ofNat n ↔ m = n :=
  ⟨fun h => by simpa [toNat_byte hm, toNat_byte hn] using congrArg UInt8.toNat h, fun h => h ▸ rfl⟩

theorem byte_eq {b : UInt8} {n : Nat} (h : n = b.toNat) : UInt8.ofNat n = b :=
  UInt8.toNat.inj (by subst h; exact toNat_byte b.toNat_lt_size)
theorem unit_eq {u : UInt16} {n : Nat} (h : n = u.toNat) : UInt16.ofNat n = u :=
  UInt16.toNat.inj (by subst h; exact toNat_unit u.toNat_lt_size)

/-- A scalar value as one code unit, or as a surrogate pair above the BMP. -/
def utf16EncodeChar (c : Char) : List UInt16 :=
  if c.toNat < 0x10000 then [UInt16.ofNat c.toNat]
  else [UInt16.ofNat (0xD800 + (c.toNat - 0x10000) / 0x400),
    UInt16.ofNat (0xDC00 + (c.toNat - 0x10000) % 0x400)]

def utf16Encode (cs : List Char) : List UInt16 := cs.flatMap utf16EncodeChar

/-- UTF-16 to scalar values; an unpaired surrogate is refused. -/
def utf16Decode : List UInt16 → Option (List Char)
  | [] => some []
  | u :: us =>
    if u.toNat < 0xD800 ∨ 0xDFFF < u.toNat then (Char.ofNat u.toNat :: ·) <$> utf16Decode us
    else if u.toNat < 0xDC00 then
      match us with
      | l :: rest =>
        if 0xDC00 ≤ l.toNat ∧ l.toNat ≤ 0xDFFF then
          (Char.ofNat (0x10000 + (u.toNat - 0xD800) * 0x400 + (l.toNat - 0xDC00)) :: ·) <$>
            utf16Decode rest
        else none
      | [] => none
    else none

@[simp] theorem utf16Encode_nil : utf16Encode [] = [] := rfl
@[simp] theorem utf16Encode_cons (c : Char) (cs : List Char) :
    utf16Encode (c :: cs) = utf16EncodeChar c ++ utf16Encode cs := rfl

@[simp] theorem utf16Encode_append (cs ds : List Char) :
    utf16Encode (cs ++ ds) = utf16Encode cs ++ utf16Encode ds := List.flatMap_append ..

theorem utf16Decode_cons_of_bmp {u : UInt16} (hu : u.toNat < 0xD800 ∨ 0xDFFF < u.toNat)
    (us : List UInt16) : utf16Decode (u :: us) = (Char.ofNat u.toNat :: ·) <$> utf16Decode us := by
  cases us <;> simp [utf16Decode, hu]

theorem utf16Decode_isSome_of_bmp {us : List UInt16}
    (h : ∀ u ∈ us, u.toNat < 0xD800 ∨ 0xDFFF < u.toNat) : (utf16Decode us).isSome := by
  induction us with
  | nil => rfl
  | cons u us ih =>
    rw [utf16Decode_cons_of_bmp (h u (List.mem_cons_self _ _)), Option.isSome_map]
    exact ih fun v hv => h v (List.mem_cons_of_mem _ hv)

theorem utf16Decode_cons_cons_of_pair {u l : UInt16} (hu : 0xD800 ≤ u.toNat ∧ u.toNat < 0xDC00)
    (hl : 0xDC00 ≤ l.toNat ∧ l.toNat ≤ 0xDFFF) (rest : List UInt16) :
    utf16Decode (u :: l :: rest) =
      (Char.ofNat (0x10000 + (u.toNat - 0xD800) * 0x400 + (l.toNat - 0xDC00)) :: ·) <$>
        utf16Decode rest := by
  rw [utf16Decode, if_neg (by omega), if_pos hu.2, if_pos hl]

theorem utf16Decode_encodeChar_append (c : Char) (rest : List UInt16) :
    utf16Decode (utf16EncodeChar c ++ rest) = (c :: ·) <$> utf16Decode rest := by
  have hc := char_valid c
  unfold utf16EncodeChar
  split_ifs with h
  · have hu := toNat_unit (show c.toNat < 65536 by omega)
    rw [List.singleton_append, utf16Decode_cons_of_bmp (by omega), hu, Char.ofNat_toNat]
  · have hu := toNat_unit (show 0xD800 + (c.toNat - 0x10000) / 0x400 < 65536 by omega)
    have hl := toNat_unit (show 0xDC00 + (c.toNat - 0x10000) % 0x400 < 65536 by omega)
    rw [List.cons_append, List.singleton_append,
      utf16Decode_cons_cons_of_pair (by omega) (by omega), hu, hl,
      show 0x10000 + (0xD800 + (c.toNat - 0x10000) / 0x400 - 0xD800) * 0x400 +
        (0xDC00 + (c.toNat - 0x10000) % 0x400 - 0xDC00) = c.toNat by omega, Char.ofNat_toNat]

@[simp] theorem utf16Decode_utf16Encode (cs : List Char) : utf16Decode (utf16Encode cs) = some cs := by
  induction cs with
  | nil => rfl
  | cons c cs ih => simp [utf16Decode_encodeChar_append, ih]

theorem utf16Encode_of_decode {us : List UInt16} {cs : List Char} (h : utf16Decode us = some cs) :
    utf16Encode cs = us := by
  induction us using utf16Decode.induct generalizing cs with
  | case1 => simp [utf16Decode] at h; subst h; rfl
  | case2 u us hu ih =>
    rw [utf16Decode_cons_of_bmp hu, Option.map_eq_map, Option.map_eq_some'] at h
    obtain ⟨cs', h1, rfl⟩ := h
    have hlt : u.toNat < 65536 := u.toNat_lt_size
    rw [utf16Encode_cons, ih h1, utf16EncodeChar, toNat_charOfNat (by omega), if_pos hlt,
      unit_eq rfl]
    rfl
  | case3 u hu hlt l rest hl ih =>
    rw [utf16Decode_cons_cons_of_pair (by omega) hl, Option.map_eq_map, Option.map_eq_some'] at h
    obtain ⟨cs', h1, rfl⟩ := h
    rw [utf16Encode_cons, ih h1, utf16EncodeChar, toNat_charOfNat (by omega), if_neg (by omega),
      unit_eq (u := u) (by omega), unit_eq (u := l) (by omega)]
    rfl
  | case4 u hu hlt l rest hl => rw [utf16Decode, if_neg hu, if_pos hlt, if_neg hl] at h; cases h
  | case5 u hu hlt => rw [utf16Decode, if_neg hu, if_pos hlt] at h; cases h
  | case6 u us hu hlt => cases us <;> rw [utf16Decode, if_neg hu, if_neg hlt] at h <;> cases h

/-- A scalar value in one to four bytes. -/
def utf8EncodeChar (c : Char) : List UInt8 :=
  if c.toNat < 0x80 then [UInt8.ofNat c.toNat]
  else if c.toNat < 0x800 then
    [UInt8.ofNat (0xC0 + c.toNat / 0x40), UInt8.ofNat (0x80 + c.toNat % 0x40)]
  else if c.toNat < 0x10000 then
    [UInt8.ofNat (0xE0 + c.toNat / 0x1000), UInt8.ofNat (0x80 + c.toNat / 0x40 % 0x40),
      UInt8.ofNat (0x80 + c.toNat % 0x40)]
  else
    [UInt8.ofNat (0xF0 + c.toNat / 0x40000), UInt8.ofNat (0x80 + c.toNat / 0x1000 % 0x40),
      UInt8.ofNat (0x80 + c.toNat / 0x40 % 0x40), UInt8.ofNat (0x80 + c.toNat % 0x40)]

def utf8Encode (cs : List Char) : List UInt8 := cs.flatMap utf8EncodeChar

@[simp] theorem utf8Encode_nil : utf8Encode [] = [] := rfl
@[simp] theorem utf8Encode_cons (c : Char) (cs : List Char) :
    utf8Encode (c :: cs) = utf8EncodeChar c ++ utf8Encode cs := rfl
@[simp] theorem utf8Encode_append (cs ds : List Char) :
    utf8Encode (cs ++ ds) = utf8Encode cs ++ utf8Encode ds := List.flatMap_append ..

theorem utf8Encode_sublist {cs ds : List Char} (h : cs.Sublist ds) :
    (utf8Encode cs).Sublist (utf8Encode ds) := by
  induction h with
  | slnil => exact .slnil
  | cons c _ ih => exact ih.trans (List.sublist_append_right _ _)
  | cons₂ c _ ih => exact ih.append_left _

def IsTail (b : UInt8) : Prop := 0x80 ≤ b.toNat ∧ b.toNat < 0xC0

instance : DecidablePred IsTail := fun _ => inferInstanceAs (Decidable (_ ∧ _))

/-- The character whose first byte is `b` and whose continuation bytes start `bs`, and how
many continuation bytes it has. -/
def utf8DecodeChar (b : UInt8) (bs : List UInt8) : Option (Char × Nat) :=
  if b.toNat < 0x80 then some (Char.ofNat b.toNat, 0)
  else if b.toNat < 0xC2 then none
  else if b.toNat < 0xE0 then
    match bs with
    | c1 :: _ =>
      if IsTail c1 then some (Char.ofNat ((b.toNat - 0xC0) * 0x40 + (c1.toNat - 0x80)), 1)
      else none
    | [] => none
  else if b.toNat < 0xF0 then
    match bs with
    | c1 :: c2 :: _ =>
      if IsTail c1 ∧ IsTail c2 ∧
          0x800 ≤ (b.toNat - 0xE0) * 0x1000 + (c1.toNat - 0x80) * 0x40 + (c2.toNat - 0x80) ∧
          ((b.toNat - 0xE0) * 0x1000 + (c1.toNat - 0x80) * 0x40 + (c2.toNat - 0x80) < 0xD800 ∨
            0xDFFF < (b.toNat - 0xE0) * 0x1000 + (c1.toNat - 0x80) * 0x40 + (c2.toNat - 0x80)) then
        some (Char.ofNat ((b.toNat - 0xE0) * 0x1000 + (c1.toNat - 0x80) * 0x40 + (c2.toNat - 0x80)),
          2)
      else none
    | _ => none
  else if b.toNat < 0xF5 then
    match bs with
    | c1 :: c2 :: c3 :: _ =>
      if IsTail c1 ∧ IsTail c2 ∧ IsTail c3 ∧
          0x10000 ≤ (b.toNat - 0xF0) * 0x40000 + (c1.toNat - 0x80) * 0x1000 +
            (c2.toNat - 0x80) * 0x40 + (c3.toNat - 0x80) ∧
          (b.toNat - 0xF0) * 0x40000 + (c1.toNat - 0x80) * 0x1000 +
            (c2.toNat - 0x80) * 0x40 + (c3.toNat - 0x80) < 0x110000 then
        some (Char.ofNat ((b.toNat - 0xF0) * 0x40000 + (c1.toNat - 0x80) * 0x1000 +
            (c2.toNat - 0x80) * 0x40 + (c3.toNat - 0x80)), 3)
      else none
    | _ => none
  else none

/-- UTF-8 to scalar values: overlong forms, surrogates and values past `0x10FFFF` are
refused, as RFC 3629 requires. -/
def utf8Decode : List UInt8 → Option (List Char)
  | [] => some []
  | b :: bs =>
    match utf8DecodeChar b bs with
    | some (c, k) => (c :: ·) <$> utf8Decode (bs.drop k)
    | none => none
termination_by bs => bs.length
decreasing_by simp only [List.length_drop, List.length_cons]; omega

theorem utf8Decode_cons_of_char {b : UInt8} {bs : List UInt8} {c : Char} {k : Nat}
    (h : utf8DecodeChar b bs = some (c, k)) :
    utf8Decode (b :: bs) = (c :: ·) <$> utf8Decode (bs.drop k) := by
  rw [utf8Decode, h]

theorem utf8Decode_encodeChar_append (c : Char) (rest : List UInt8) :
    utf8Decode (utf8EncodeChar c ++ rest) = (c :: ·) <$> utf8Decode rest := by
  have hc := char_valid c
  unfold utf8EncodeChar
  split_ifs with h1 h2 h3
  · rw [List.singleton_append, utf8Decode_cons_of_char (k := 0) (c := c), List.drop_zero]
    unfold utf8DecodeChar
    rw [toNat_byte (by omega), if_pos h1, Char.ofNat_toNat]
  · rw [List.cons_append, List.singleton_append, utf8Decode_cons_of_char (k := 1) (c := c)]
    · rfl
    unfold utf8DecodeChar
    rw [toNat_byte (by omega), if_neg (by omega), if_neg (by omega), if_pos (by omega)]
    dsimp only
    have hc1 := toNat_byte (show 0x80 + c.toNat % 0x40 < 256 by omega)
    rw [if_pos (by unfold IsTail; omega), hc1,
      show (0xC0 + c.toNat / 0x40 - 0xC0) * 0x40 + (0x80 + c.toNat % 0x40 - 0x80) = c.toNat by omega,
      Char.ofNat_toNat]
  · rw [List.cons_append, List.cons_append, List.singleton_append,
      utf8Decode_cons_of_char (k := 2) (c := c)]
    · rfl
    unfold utf8DecodeChar
    rw [toNat_byte (by omega), if_neg (by omega), if_neg (by omega), if_neg (by omega),
      if_pos (by omega)]
    dsimp only
    have hc1 := toNat_byte (show 0x80 + c.toNat / 0x40 % 0x40 < 256 by omega)
    have hc2 := toNat_byte (show 0x80 + c.toNat % 0x40 < 256 by omega)
    have hn : (0xE0 + c.toNat / 0x1000 - 0xE0) * 0x1000 + (0x80 + c.toNat / 0x40 % 0x40 - 0x80) * 0x40 +
      (0x80 + c.toNat % 0x40 - 0x80) = c.toNat := by omega
    rw [hc1, hc2, hn, if_pos (by unfold IsTail; omega), Char.ofNat_toNat]
  · rw [List.cons_append, List.cons_append, List.cons_append, List.singleton_append,
      utf8Decode_cons_of_char (k := 3) (c := c)]
    · rfl
    unfold utf8DecodeChar
    rw [toNat_byte (by omega), if_neg (by omega), if_neg (by omega), if_neg (by omega),
      if_neg (by omega), if_pos (by omega)]
    dsimp only
    have hc1 := toNat_byte (show 0x80 + c.toNat / 0x1000 % 0x40 < 256 by omega)
    have hc2 := toNat_byte (show 0x80 + c.toNat / 0x40 % 0x40 < 256 by omega)
    have hc3 := toNat_byte (show 0x80 + c.toNat % 0x40 < 256 by omega)
    have hn : (0xF0 + c.toNat / 0x40000 - 0xF0) * 0x40000 +
      (0x80 + c.toNat / 0x1000 % 0x40 - 0x80) * 0x1000 +
      (0x80 + c.toNat / 0x40 % 0x40 - 0x80) * 0x40 + (0x80 + c.toNat % 0x40 - 0x80) = c.toNat := by
      omega
    rw [hc1, hc2, hc3, hn, if_pos (by unfold IsTail; omega), Char.ofNat_toNat]

@[simp] theorem utf8Decode_utf8Encode (cs : List Char) : utf8Decode (utf8Encode cs) = some cs := by
  induction cs with
  | nil => simp [utf8Decode]
  | cons c cs ih => simp [utf8Decode_encodeChar_append, ih]

theorem utf8EncodeChar_of_decodeChar {b : UInt8} {bs : List UInt8} {c : Char} {k : Nat}
    (h : utf8DecodeChar b bs = some (c, k)) : utf8EncodeChar c ++ bs.drop k = b :: bs := by
  have hb := b.toNat_lt_size
  unfold utf8DecodeChar at h
  by_cases h1 : b.toNat < 0x80
  · rw [if_pos h1] at h
    cases h
    rw [utf8EncodeChar, toNat_charOfNat (by omega), if_pos h1, byte_eq rfl]
    rfl
  rw [if_neg h1] at h
  by_cases h2 : b.toNat < 0xC2
  · rw [if_pos h2] at h; cases h
  rw [if_neg h2] at h
  by_cases h3 : b.toNat < 0xE0
  · rw [if_pos h3] at h
    obtain _ | ⟨c1, t⟩ := bs
    · cases h
    dsimp only at h
    split_ifs at h with ht
    obtain ⟨rfl, rfl⟩ := Prod.mk.inj_iff.1 (Option.some.inj h)
    unfold IsTail at ht
    rw [utf8EncodeChar, toNat_charOfNat (by omega), if_neg (by omega), if_pos (by omega),
      byte_eq (b := b) (by omega), byte_eq (b := c1) (by omega)]
    rfl
  rw [if_neg h3] at h
  by_cases h4 : b.toNat < 0xF0
  · rw [if_pos h4] at h
    obtain _ | ⟨c1, _ | ⟨c2, t⟩⟩ := bs
    any_goals cases h
    dsimp only at h
    split_ifs at h with ht
    obtain ⟨rfl, rfl⟩ := Prod.mk.inj_iff.1 (Option.some.inj h)
    unfold IsTail at ht
    rw [utf8EncodeChar, toNat_charOfNat (by omega), if_neg (by omega), if_neg (by omega),
      if_pos (by omega), byte_eq (b := b) (by omega), byte_eq (b := c1) (by omega),
      byte_eq (b := c2) (by omega)]
    rfl
  rw [if_neg h4] at h
  by_cases h5 : b.toNat < 0xF5
  · rw [if_pos h5] at h
    obtain _ | ⟨c1, _ | ⟨c2, _ | ⟨c3, t⟩⟩⟩ := bs
    any_goals cases h
    dsimp only at h
    split_ifs at h with ht
    obtain ⟨rfl, rfl⟩ := Prod.mk.inj_iff.1 (Option.some.inj h)
    unfold IsTail at ht
    rw [utf8EncodeChar, toNat_charOfNat (by omega), if_neg (by omega), if_neg (by omega),
      if_neg (by omega), byte_eq (b := b) (by omega), byte_eq (b := c1) (by omega),
      byte_eq (b := c2) (by omega), byte_eq (b := c3) (by omega)]
    rfl
  rw [if_neg h5] at h; cases h

theorem utf8Encode_of_decode {bs : List UInt8} {cs : List Char} (h : utf8Decode bs = some cs) :
    utf8Encode cs = bs := by
  induction bs using utf8Decode.induct generalizing cs with
  | case1 => simp [utf8Decode] at h; subst h; rfl
  | case2 b bs c k hc ih =>
    rw [utf8Decode_cons_of_char hc, Option.map_eq_map, Option.map_eq_some'] at h
    obtain ⟨cs', h1, rfl⟩ := h
    rw [utf8Encode_cons, ih h1, utf8EncodeChar_of_decodeChar hc]
  | case3 b bs hc => rw [utf8Decode, hc] at h; cases h

/-! ## The IPRT conversions -/

/-- The elements of a string before its terminator: IPRT's `Ex` functions take a length and
also stop at a zero element. -/
def untilNul {α : Type} [DecidableEq α] [OfNat α 0] (xs : List α) : List α :=
  xs.takeWhile (· ≠ 0)

/-- Modelled from the spec: `RTUtf16CalcUtf8LenEx`, the UTF-8 length of the first `cwc`
units of a string up to its terminator. -/
def rtUtf16CalcUtf8LenEx (pwsz : List UInt16) (cwc : Nat) : Except Status Nat :=
  match utf16Decode (untilNul (pwsz.take cwc)) with
  | some cs => .ok (utf8Encode cs).length
  | none => .error .verrInvalidUtf16Encoding

/-- Modelled from the spec: `RTUtf16ToUtf8Ex` into a caller's buffer of `cch` bytes, which
must hold the text and its terminator. The text is returned without the terminator. -/
def rtUtf16ToUtf8Ex (pwsz : List UInt16) (cwc cch : Nat) : Except Status (List UInt8) :=
  match utf16Decode (untilNul (pwsz.take cwc)) with
  | some cs =>
    if (utf8Encode cs).length < cch then .ok (utf8Encode cs) else .error .verrBufferOverflow
  | none => .error .verrInvalidUtf16Encoding

/-- Modelled from the spec: `RTStrToUtf16Ex` with an allocated result, the UTF-16 of the
first `cch` bytes up to the terminator, returned without the terminator it appends. -/
def rtStrToUtf16Ex (psz : List UInt8) (cch : Nat) : Except Status (List UInt16) :=
  match utf8Decode (untilNul (psz.take cch)) with
  | some cs => .ok (utf16Encode cs)
  | none => .error .verrInvalidUtf8Encoding

/-- Modelled from the spec: `RTStrValidateEncodingEx` without flags. IPRT also refuses
U+FFFE and U+FFFF, which `utf8Decode` accepts: bytes refused here are refused there. -/
def rtStrValidateEncodingEx (psz : List UInt8) (cch : Nat) : Status :=
  if (utf8Decode (untilNul (psz.take cch))).isSome then .vinfSuccess
  else .verrInvalidUtf8Encoding

theorem rtUtf16CalcUtf8LenEx_of_decode {pwsz : List UInt16} {cwc : Nat} {cs : List Char}
    (h : utf16Decode (untilNul (pwsz.take cwc)) = some cs) :
    rtUtf16CalcUtf8LenEx pwsz cwc = .ok (utf8Encode cs).length := by
  simp [rtUtf16CalcUtf8LenEx, h]

theorem rtUtf16ToUtf8Ex_of_decode {pwsz : List UInt16} {cwc cch : Nat} {cs : List Char}
    (h : utf16Decode (untilNul (pwsz.take cwc)) = some cs) (hcch : (utf8Encode cs).length < cch) :
    rtUtf16ToUtf8Ex pwsz cwc cch = .ok (utf8Encode cs) := by
  simp [rtUtf16ToUtf8Ex, h, hcch]

theorem rtStrToUtf16Ex_of_decode {psz : List UInt8} {cch : Nat} {cs : List Char}
    (h : utf8Decode (untilNul (psz.take cch)) = some cs) :
    rtStrToUtf16Ex psz cch = .ok (utf16Encode cs) := by
  simp [rtStrToUtf16Ex, h]

theorem rtStrValidateEncodingEx_of_decode {psz : List UInt8} {cch : Nat} {cs : List Char}
    (h : utf8Decode (untilNul (psz.take cch)) = some cs) :
    rtStrValidateEncodingEx psz cch = .vinfSuccess := by
  simp [rtStrValidateEncodingEx, h]

/-! ## Terminators inside encodings -/

theorem untilNul_eq_self {α : Type} [DecidableEq α] [OfNat α 0] {xs : List α} (h : 0 ∉ xs) :
    untilNul xs = xs := by
  rw [untilNul, List.takeWhile_eq_self_iff]
  exact fun a ha => by simpa using fun h0 : a = 0 => h (h0 ▸ ha)

theorem untilNul_append_zero {α : Type} [DecidableEq α] [OfNat α 0] {xs ys : List α}
    (h : 0 ∉ xs) : untilNul (xs ++ 0 :: ys) = xs := by
  rw [untilNul, List.takeWhile_append_of_pos fun x hx => by
    simpa using fun h0 : x = 0 => h (h0 ▸ hx)]
  simp

theorem zero_not_mem_untilNul {α : Type} [DecidableEq α] [OfNat α 0] (xs : List α) :
    0 ∉ untilNul xs :=
  fun h => by simpa using List.mem_takeWhile_imp h

theorem untilNul_take_append_nul {α : Type} [DecidableEq α] [OfNat α 0] {xs : List α}
    (h : 0 ∉ xs) : untilNul ((xs ++ [0]).take (xs.length + 1)) = xs := by
  rw [List.take_of_length_le (by simp)]
  exact untilNul_append_zero h

theorem head?_untilNul_take {α : Type} [DecidableEq α] [OfNat α 0] {xs : List α} {n : Nat} {m : α}
    (hn : n ≠ 0) (hm : m ≠ 0) : (untilNul (xs.take n)).head? = some m ↔ xs.head? = some m := by
  obtain ⟨k, rfl⟩ := Nat.exists_eq_succ_of_ne_zero hn
  cases xs with
  | nil => simp [untilNul]
  | cons x xs => by_cases hx : x = 0 <;> simp [untilNul, List.takeWhile_cons, hx, Ne.symm hm]

theorem zero_mem_utf16EncodeChar (c : Char) : (0 : UInt16) ∈ utf16EncodeChar c ↔ c.toNat = 0 := by
  have hc := char_valid c
  have h0 : ∀ n, n < 65536 → ((0 : UInt16) = UInt16.ofNat n ↔ n = 0) := fun n hn => by
    rw [show (0 : UInt16) = UInt16.ofNat 0 from rfl, ofNat_unit_inj (by omega) hn, eq_comm]
  unfold utf16EncodeChar
  split_ifs with h
  · simp [h0 _ h]
  · simp only [List.mem_cons, List.mem_singleton, List.not_mem_nil, or_false,
      h0 _ (show 0xD800 + (c.toNat - 0x10000) / 0x400 < 65536 by omega),
      h0 _ (show 0xDC00 + (c.toNat - 0x10000) % 0x400 < 65536 by omega)]
    omega

theorem zero_mem_utf8EncodeChar (c : Char) : (0 : UInt8) ∈ utf8EncodeChar c ↔ c.toNat = 0 := by
  have hc := char_valid c
  have h0 : ∀ n, n < 256 → ((0 : UInt8) = UInt8.ofNat n ↔ n = 0) := fun n hn => by
    rw [show (0 : UInt8) = UInt8.ofNat 0 from rfl, ofNat_byte_inj (by omega) hn, eq_comm]
  unfold utf8EncodeChar
  split_ifs with h1 h2 h3
  · simp [h0 _ (by omega : c.toNat < 256)]
  · simp only [List.mem_cons, List.mem_singleton, List.not_mem_nil, or_false,
      h0 _ (show 0xC0 + c.toNat / 0x40 < 256 by omega), h0 _ (show 0x80 + c.toNat % 0x40 < 256 by omega)]
    omega
  · simp only [List.mem_cons, List.mem_singleton, List.not_mem_nil, or_false,
      h0 _ (show 0xE0 + c.toNat / 0x1000 < 256 by omega),
      h0 _ (show 0x80 + c.toNat / 0x40 % 0x40 < 256 by omega),
      h0 _ (show 0x80 + c.toNat % 0x40 < 256 by omega)]
    omega
  · simp only [List.mem_cons, List.mem_singleton, List.not_mem_nil, or_false,
      h0 _ (show 0xF0 + c.toNat / 0x40000 < 256 by omega),
      h0 _ (show 0x80 + c.toNat / 0x1000 % 0x40 < 256 by omega),
      h0 _ (show 0x80 + c.toNat / 0x40 % 0x40 < 256 by omega),
      h0 _ (show 0x80 + c.toNat % 0x40 < 256 by omega)]
    omega

theorem zero_mem_utf16Encode {cs : List Char} :
    (0 : UInt16) ∈ utf16Encode cs ↔ ∃ c ∈ cs, c.toNat = 0 := by
  simp [utf16Encode, List.mem_flatMap, zero_mem_utf16EncodeChar]

theorem zero_mem_utf8Encode {cs : List Char} :
    (0 : UInt8) ∈ utf8Encode cs ↔ ∃ c ∈ cs, c.toNat = 0 := by
  simp [utf8Encode, List.mem_flatMap, zero_mem_utf8EncodeChar]

theorem zero_not_mem_utf16Encode_of_decode {bs : List UInt8} {cs : List Char}
    (h : utf8Decode (untilNul bs) = some cs) : (0 : UInt16) ∉ utf16Encode cs := by
  rw [zero_mem_utf16Encode, ← zero_mem_utf8Encode, utf8Encode_of_decode h]
  exact zero_not_mem_untilNul bs

end X11Clipboard.Unicode
