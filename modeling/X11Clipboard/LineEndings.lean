import Mathlib.Data.List.Chain
import X11Clipboard.Unicode

/-! Line ends and byte order marks between the host's text (UTF-16 with CR LF) and Unix text
(LF). The four helpers of `clipboard-helper.cpp` that convert them are not in this tree. Their
line ends, terminators and sizes follow the spec. Their byte order marks are assumed: the Unix
text starts with the little-endian mark, which `clipWinTxtToUtf8` skips (`pwszTmp + 1`); host
text starting with U+FEFF keeps it as that mark, and text starting with U+FFFE is refused. -/
namespace X11Clipboard.LineEndings

open Formats Unicode

/-! ## Folding and expanding line ends -/

section Generic

variable {α : Type} [DecidableEq α] (cr lf : α)

/-- Every CR LF pair as a lone LF, pairs taken from the left; other CRs are kept. -/
def crlfToLf : List α → List α
  | [] => []
  | [x] => [x]
  | x :: y :: rest => if x = cr ∧ y = lf then lf :: crlfToLf rest else x :: crlfToLf (y :: rest)

/-- Every LF as CR LF. -/
def lfToCrlf (xs : List α) : List α := xs.flatMap fun x => if x = lf then [cr, lf] else [x]

theorem crlfToLf_sublist (xs : List α) : (crlfToLf cr lf xs).Sublist xs := by
  induction xs using crlfToLf.induct cr lf with
  | case1 => exact .slnil
  | case2 x => exact .refl _
  | case3 x y rest hxy ih =>
    rw [crlfToLf, if_pos hxy, hxy.2]; exact (ih.cons₂ _).cons _
  | case4 x y rest hxy ih => rw [crlfToLf, if_neg hxy]; exact ih.cons₂ _

/-- Every LF comes right after a CR, as in the host's text. -/
def CrBeforeLf (xs : List α) : Prop :=
  xs.head? ≠ some lf ∧ xs.Chain' fun x y => y = lf → x = cr

variable {cr lf}

@[simp] theorem lfToCrlf_nil : lfToCrlf cr lf [] = [] := rfl

@[simp] theorem lfToCrlf_cons (x : α) (xs : List α) :
    lfToCrlf cr lf (x :: xs) = (if x = lf then [cr, lf] else [x]) ++ lfToCrlf cr lf xs := rfl

theorem lfToCrlf_append (xs ys : List α) :
    lfToCrlf cr lf (xs ++ ys) = lfToCrlf cr lf xs ++ lfToCrlf cr lf ys := List.flatMap_append ..

theorem lfToCrlf_of_not_mem {xs : List α} (h : lf ∉ xs) : lfToCrlf cr lf xs = xs := by
  induction xs with
  | nil => rfl
  | cons x xs ih =>
    simp only [List.mem_cons, not_or] at h
    rw [lfToCrlf_cons, if_neg (Ne.symm h.1), ih h.2, List.singleton_append]

theorem length_lfToCrlf (xs : List α) : (lfToCrlf cr lf xs).length = xs.length + xs.count lf := by
  induction xs with
  | nil => rfl
  | cons x xs ih =>
    by_cases h : x = lf <;> simp [h, ih, List.count_cons] <;> omega

theorem mem_lfToCrlf {x : α} {xs : List α} (h : x ∈ lfToCrlf cr lf xs) : x = cr ∨ x ∈ xs := by
  obtain ⟨y, hy, hx⟩ := List.mem_flatMap.1 h
  split_ifs at hx with hyl
  · rcases List.mem_pair.1 hx with rfl | rfl
    · exact .inl rfl
    · exact .inr (hyl ▸ hy)
  · exact .inr (List.mem_singleton.1 hx ▸ hy)

theorem head?_lfToCrlf {x : α} {xs : List α} (h : (lfToCrlf cr lf xs).head? = some x) :
    x = cr ∨ xs.head? = some x := by
  cases xs with
  | nil => simp at h
  | cons y ys => by_cases hy : y = lf <;> simp_all

theorem head?_crlfToLf {x : α} {xs : List α} (h : (crlfToLf cr lf xs).head? = some x) :
    x = lf ∨ xs.head? = some x := by
  rcases xs with _ | ⟨y, _ | ⟨z, rest⟩⟩
  · simp [crlfToLf] at h
  · exact .inr (by simpa [crlfToLf] using h)
  · rw [crlfToLf] at h
    split_ifs at h <;> simp_all

theorem crlfToLf_cons_of_ne {x : α} (hx : x ≠ cr) (xs : List α) :
    crlfToLf cr lf (x :: xs) = x :: crlfToLf cr lf xs := by
  cases xs <;> simp [crlfToLf, hx]

theorem crlfToLf_cons_cons_of_ne {x y : α} (hy : y ≠ lf) (xs : List α) :
    crlfToLf cr lf (x :: y :: xs) = x :: crlfToLf cr lf (y :: xs) := by
  simp [crlfToLf, hy]

theorem crlfToLf_append_of_not_mem {ys : List α} (h : cr ∉ ys) (xs : List α) :
    crlfToLf cr lf (ys ++ xs) = ys ++ crlfToLf cr lf xs := by
  induction ys with
  | nil => rfl
  | cons y ys ih =>
    simp only [List.mem_cons, not_or] at h
    rw [List.cons_append, crlfToLf_cons_of_ne (Ne.symm h.1), ih h.2, List.cons_append]

theorem head?_lfToCrlf_ne (hne : cr ≠ lf) (xs : List α) : (lfToCrlf cr lf xs).head? ≠ some lf := by
  cases xs with
  | nil => simp
  | cons x xs => by_cases hx : x = lf <;> simp [hx, hne]

theorem crBeforeLf_lfToCrlf (hne : cr ≠ lf) (xs : List α) : CrBeforeLf cr lf (lfToCrlf cr lf xs) := by
  refine ⟨head?_lfToCrlf_ne hne xs, ?_⟩
  induction xs with
  | nil => exact List.chain'_nil
  | cons x xs ih =>
    rw [lfToCrlf_cons, List.chain'_append]
    refine ⟨by split_ifs <;> simp, ih, fun _ _ y hy hyl => (head?_lfToCrlf_ne hne xs (hyl ▸ hy)).elim⟩

theorem crlfToLf_lfToCrlf (hne : cr ≠ lf) (xs : List α) :
    crlfToLf cr lf (lfToCrlf cr lf xs) = xs := by
  induction xs with
  | nil => rfl
  | cons x xs ih =>
    by_cases hx : x = lf
    · simp [hx, crlfToLf, ih]
    · rw [lfToCrlf_cons, if_neg hx, List.singleton_append]
      cases hxs : lfToCrlf cr lf xs with
      | nil => rw [hxs] at ih; rw [← ih]; rfl
      | cons y ys =>
        have hy : y ≠ lf := fun h => head?_lfToCrlf_ne hne xs (by simp [hxs, h])
        rw [crlfToLf_cons_cons_of_ne hy, ← hxs, ih]

theorem lfToCrlf_crlfToLf (hne : cr ≠ lf) {xs : List α} (h : CrBeforeLf cr lf xs) :
    lfToCrlf cr lf (crlfToLf cr lf xs) = xs := by
  induction xs using crlfToLf.induct cr lf with
  | case1 => rfl
  | case2 x => simpa [crlfToLf, CrBeforeLf] using h.1
  | case3 x y rest hxy ih =>
    obtain ⟨rfl, rfl⟩ := hxy
    obtain ⟨-, hc⟩ := List.chain'_cons'.1 (List.chain'_cons.1 h.2).2
    have hrest : CrBeforeLf x y rest :=
      ⟨fun hz => hne (List.chain'_cons'.1 (List.chain'_cons.1 h.2).2 |>.1 _ hz rfl).symm, hc⟩
    simp [crlfToLf, ih hrest]
  | case4 x y rest hxy ih =>
    obtain ⟨hxy', hc⟩ := List.chain'_cons.1 h.2
    have hx : x ≠ lf := fun hx => h.1 (by simp [hx])
    have hy : y ≠ lf := fun hy => hxy ⟨hxy' hy, hy⟩
    rw [crlfToLf, if_neg hxy, lfToCrlf_cons, if_neg hx, ih ⟨by simpa using hy, hc⟩]
    rfl

end Generic

/-! ## Host text -/

/-- `CARRIAGERETURN`, `LINEFEED`, `UTF16LEMARKER` and `UTF16BEMARKER` of
`clipboard-helper.h`. -/
def carriageReturn : UInt16 := 0x0D
def linefeed : UInt16 := 0x0A
def utf16LeMarker : UInt16 := 0xFEFF
def utf16BeMarker : UInt16 := 0xFFFE

/-- The Unix text `vboxClipboardUtf16WinToLin` writes before the terminator: the first
`cwSrc` units up to a terminator, folded, behind the assumed little-endian mark unless they
start with one. -/
def linText (pwszSrc : List UInt16) (cwSrc : Nat) : List UInt16 :=
  (if pwszSrc.head? = some utf16LeMarker then [] else [utf16LeMarker]) ++
    crlfToLf carriageReturn linefeed (untilNul (pwszSrc.take cwSrc))

/-- `vboxClipboardUtf16GetLinSize`, the units the Unix text needs with its terminator; the
refusal of text starting with U+FFFE is assumed. -/
def vboxClipboardUtf16GetLinSize (pwszSrc : List UInt16) (cwSrc : Nat) : Except Status Nat :=
  if cwSrc = 0 then .ok 0
  else if pwszSrc.head? = some utf16BeMarker then .error .verrInvalidParameter
  else .ok ((linText pwszSrc cwSrc).length + 1)

/-- `vboxClipboardUtf16WinToLin` into a buffer of `cwDest` units. -/
def vboxClipboardUtf16WinToLin (pwszSrc : List UInt16) (cwSrc cwDest : Nat) :
    Except Status (List UInt16) :=
  if pwszSrc.head? = some utf16BeMarker then .error .verrInvalidParameter
  else if cwDest = 0 then .error .verrBufferOverflow
  else if cwSrc = 0 then .ok [0]
  else if (linText pwszSrc cwSrc).length < cwDest then .ok (linText pwszSrc cwSrc ++ [0])
  else .error .verrBufferOverflow

/-- The host text `vboxClipboardUtf16LinToWin` writes before the terminator: the first
`cwSrc` units up to a terminator, every LF expanded, less a leading U+FEFF, assumed to be
a mark. -/
def winText (pwszSrc : List UInt16) (cwSrc : Nat) : List UInt16 :=
  lfToCrlf carriageReturn linefeed
    ((untilNul (pwszSrc.take cwSrc)).drop (if pwszSrc.head? = some utf16LeMarker then 1 else 0))

def vboxClipboardUtf16GetWinSize (pwszSrc : List UInt16) (cwSrc : Nat) : Except Status Nat :=
  if cwSrc = 0 then .ok 0
  else if pwszSrc.head? = some utf16BeMarker then .error .verrInvalidParameter
  else .ok ((winText pwszSrc cwSrc).length + 1)

/-- `vboxClipboardUtf16LinToWin` into a buffer of `cwDest` units. -/
def vboxClipboardUtf16LinToWin (pwszSrc : List UInt16) (cwSrc cwDest : Nat) :
    Except Status (List UInt16) :=
  if cwSrc = 0 then (if cwDest = 0 then .error .verrBufferOverflow else .ok [0])
  else if pwszSrc.head? = some utf16BeMarker then .error .verrInvalidParameter
  else if (winText pwszSrc cwSrc).length < cwDest then .ok (winText pwszSrc cwSrc ++ [0])
  else .error .verrBufferOverflow

section Helpers

variable {pwszSrc : List UInt16} {cwSrc : Nat}

theorem vboxClipboardUtf16WinToLin_of_size (hbe : pwszSrc.head? ≠ some utf16BeMarker)
    (hcw : cwSrc ≠ 0) :
    vboxClipboardUtf16GetLinSize pwszSrc cwSrc = .ok ((linText pwszSrc cwSrc).length + 1) ∧
      vboxClipboardUtf16WinToLin pwszSrc cwSrc ((linText pwszSrc cwSrc).length + 1) =
        .ok (linText pwszSrc cwSrc ++ [0]) := by
  simp [vboxClipboardUtf16GetLinSize, vboxClipboardUtf16WinToLin, hbe, hcw]

theorem vboxClipboardUtf16LinToWin_of_size (hbe : pwszSrc.head? ≠ some utf16BeMarker)
    (hcw : cwSrc ≠ 0) :
    vboxClipboardUtf16GetWinSize pwszSrc cwSrc = .ok ((winText pwszSrc cwSrc).length + 1) ∧
      vboxClipboardUtf16LinToWin pwszSrc cwSrc ((winText pwszSrc cwSrc).length + 1) =
        .ok (winText pwszSrc cwSrc ++ [0]) := by
  simp [vboxClipboardUtf16GetWinSize, vboxClipboardUtf16LinToWin, hbe, hcw]

theorem head?_append_nul {s : List UInt16} {u : UInt16} (hu : u ≠ 0) :
    (s ++ [0]).head? = some u ↔ s.head? = some u := by
  cases s <;> simp [Ne.symm hu]

theorem winText_append_nul {s : List UInt16} (hnul : 0 ∉ s) (hle : s.head? ≠ some utf16LeMarker) :
    winText (s ++ [0]) (s.length + 1) = lfToCrlf carriageReturn linefeed s := by
  rw [winText, untilNul_take_append_nul hnul, if_neg (by rwa [head?_append_nul (by decide)])]
  rfl

theorem winText_append_nul_eq {s : List UInt16} (hnul : 0 ∉ s) :
    winText (s ++ [0]) (s.length + 1) =
      lfToCrlf carriageReturn linefeed (s.drop (if s.head? = some utf16LeMarker then 1 else 0)) := by
  rw [winText, untilNul_take_append_nul hnul]
  simp only [head?_append_nul (show utf16LeMarker ≠ 0 by decide)]

end Helpers

/-! ## Line ends of encoded text

CR and LF are single code units, and no unit of another character equals them, so folding
and expanding can be done on characters before encoding. -/

theorem mem_utf16EncodeChar {c : Char} {n : Nat} (hn : n < 0xD800) :
    UInt16.ofNat n ∈ utf16EncodeChar c ↔ c.toNat = n := by
  have hc := char_valid c
  unfold utf16EncodeChar
  split_ifs with h
  · simp [ofNat_unit_inj (show n < 65536 by omega) h, eq_comm]
  · simp only [List.mem_cons, List.mem_singleton, List.not_mem_nil, or_false,
      ofNat_unit_inj (show n < 65536 by omega)
        (show 0xD800 + (c.toNat - 0x10000) / 0x400 < 65536 by omega),
      ofNat_unit_inj (show n < 65536 by omega)
        (show 0xDC00 + (c.toNat - 0x10000) % 0x400 < 65536 by omega)]
    omega

theorem head?_utf16EncodeChar {c : Char} {n : Nat} (hn : n < 0xD800 ∨ (0xDBFF < n ∧ n < 0x10000)) :
    (utf16EncodeChar c).head? = some (UInt16.ofNat n) ↔ c.toNat = n := by
  have hc := char_valid c
  unfold utf16EncodeChar
  split_ifs with h
  · simp [ofNat_unit_inj h (show n < 65536 by omega)]
  · simp only [List.head?_cons, Option.some.injEq,
      ofNat_unit_inj (show 0xD800 + (c.toNat - 0x10000) / 0x400 < 65536 by omega)
        (show n < 65536 by omega)]
    omega

theorem utf16EncodeChar_ne_nil (c : Char) : utf16EncodeChar c ≠ [] := by
  unfold utf16EncodeChar; split_ifs <;> simp

def crChar : Char := Char.ofNat 0x0D
def lfChar : Char := Char.ofNat 0x0A

theorem eq_crChar_iff {c : Char} : c = crChar ↔ c.toNat = 0x0D :=
  ⟨fun h => h ▸ rfl, fun h => by rw [← Char.ofNat_toNat c, h]; rfl⟩

theorem eq_lfChar_iff {c : Char} : c = lfChar ↔ c.toNat = 0x0A :=
  ⟨fun h => h ▸ rfl, fun h => by rw [← Char.ofNat_toNat c, h]; rfl⟩

theorem carriageReturn_not_mem_utf16EncodeChar {c : Char} (hc : c ≠ crChar) :
    carriageReturn ∉ utf16EncodeChar c := by
  rwa [show carriageReturn = UInt16.ofNat 0x0D from rfl, mem_utf16EncodeChar (by omega),
    ← eq_crChar_iff]

theorem linefeed_not_mem_utf16EncodeChar {c : Char} (hc : c ≠ lfChar) :
    linefeed ∉ utf16EncodeChar c := by
  rwa [show linefeed = UInt16.ofNat 0x0A from rfl, mem_utf16EncodeChar (by omega), ← eq_lfChar_iff]

theorem utf16EncodeChar_crChar : utf16EncodeChar crChar = [carriageReturn] := rfl

theorem utf16EncodeChar_lfChar : utf16EncodeChar lfChar = [linefeed] := rfl

theorem crlfToLf_utf16Encode (cs : List Char) :
    crlfToLf carriageReturn linefeed (utf16Encode cs) = utf16Encode (crlfToLf crChar lfChar cs) := by
  induction cs using crlfToLf.induct crChar lfChar with
  | case1 => rfl
  | case2 c =>
    by_cases hc : c = crChar
    · subst hc; rfl
    · simpa [crlfToLf] using crlfToLf_append_of_not_mem (carriageReturn_not_mem_utf16EncodeChar hc) []
  | case3 c d rest hcd ih =>
    obtain ⟨rfl, rfl⟩ := hcd
    rw [utf16Encode_cons, utf16Encode_cons, utf16EncodeChar_crChar, utf16EncodeChar_lfChar]
    simp [crlfToLf, ih, utf16EncodeChar_lfChar]
  | case4 c d rest hcd ih =>
    rw [crlfToLf, if_neg hcd, utf16Encode_cons c (crlfToLf crChar lfChar (d :: rest)), ← ih,
      utf16Encode_cons c (d :: rest)]
    by_cases hc : c = crChar
    · subst hc
      have hd : d ≠ lfChar := fun hd => hcd ⟨rfl, hd⟩
      obtain ⟨v, vs, hv⟩ := List.exists_cons_of_ne_nil (utf16EncodeChar_ne_nil d)
      have hvl : v ≠ linefeed := fun h => hd (eq_lfChar_iff.2 ((head?_utf16EncodeChar
        (n := 0x0A) (by omega)).1 (by rw [hv, h]; rfl)))
      rw [utf16EncodeChar_crChar, utf16Encode_cons d rest, hv, List.singleton_append,
        List.cons_append, crlfToLf_cons_cons_of_ne hvl]
      rfl
    · rw [crlfToLf_append_of_not_mem (carriageReturn_not_mem_utf16EncodeChar hc)]

theorem utf16Encode_of_head?_leMarker {cs : List Char}
    (h : (utf16Encode cs).head? = some utf16LeMarker) :
    utf16Encode cs = utf16LeMarker :: utf16Encode (cs.drop 1) := by
  cases cs with
  | nil => simp at h
  | cons c cs =>
    obtain ⟨v, vs, hv⟩ := List.exists_cons_of_ne_nil (utf16EncodeChar_ne_nil c)
    have hc : c.toNat = 0xFEFF := (head?_utf16EncodeChar (.inr ⟨by omega, by omega⟩)).1 (by
      rw [utf16Encode_cons, hv, List.cons_append] at h; rw [hv]; exact h)
    rw [← Char.ofNat_toNat c, hc]
    rfl

/-- The characters of the Unix text made from host text `cs`: after its byte order mark, if
the buffer starts with one, with CR LF folded. -/
def linChars (pwszSrc : List UInt16) (cs : List Char) : List Char :=
  crlfToLf crChar lfChar (cs.drop (if pwszSrc.head? = some utf16LeMarker then 1 else 0))

theorem linChars_sublist (pwszSrc : List UInt16) (cs : List Char) : (linChars pwszSrc cs).Sublist cs :=
  (crlfToLf_sublist _ _ _).trans (List.drop_sublist _ _)

theorem linText_of_decode {pwszSrc : List UInt16} {cwSrc : Nat} {cs : List Char}
    (htext : utf16Decode (untilNul (pwszSrc.take cwSrc)) = some cs) (hcw : cwSrc ≠ 0) :
    linText pwszSrc cwSrc = utf16LeMarker :: utf16Encode (linChars pwszSrc cs) := by
  have henc : utf16Encode cs = untilNul (pwszSrc.take cwSrc) := utf16Encode_of_decode htext
  rw [linText, linChars, ← henc]
  split_ifs with hle
  · rw [utf16Encode_of_head?_leMarker (by rwa [henc, head?_untilNul_take hcw (by decide)]),
      crlfToLf_cons_of_ne (by decide), crlfToLf_utf16Encode]
    rfl
  · rw [crlfToLf_utf16Encode]
    rfl

theorem lfToCrlf_utf16Encode (cs : List Char) :
    lfToCrlf carriageReturn linefeed (utf16Encode cs) = utf16Encode (lfToCrlf crChar lfChar cs) := by
  induction cs with
  | nil => rfl
  | cons c cs ih =>
    rw [utf16Encode_cons, lfToCrlf_append, ih, lfToCrlf_cons, utf16Encode_append]
    by_cases hc : c = lfChar
    · subst hc; rfl
    · rw [lfToCrlf_of_not_mem (linefeed_not_mem_utf16EncodeChar hc), if_neg hc, utf16Encode_cons,
        utf16Encode_nil, List.append_nil]

theorem lfToCrlf_crlfToLf_utf16Encode {cs : List Char} {s : List UInt16} (henc : utf16Encode cs = s)
    (hcr : CrBeforeLf carriageReturn linefeed s) :
    utf16Encode (lfToCrlf crChar lfChar (crlfToLf crChar lfChar cs)) = s :=
  calc utf16Encode (lfToCrlf crChar lfChar (crlfToLf crChar lfChar cs))
      = lfToCrlf carriageReturn linefeed (crlfToLf carriageReturn linefeed (utf16Encode cs)) := by
        rw [← lfToCrlf_utf16Encode, ← crlfToLf_utf16Encode]
    _ = s := by rw [henc, lfToCrlf_crlfToLf (by decide) hcr]

end X11Clipboard.LineEndings
