import Mathlib.Data.List.Count
import X11Clipboard.LineEndings

/-! X11 text to host text: the converters `clipConvertX11CB` chooses between, and the
conversion half of that callback. A host buffer is a list of `RTUTF16` units and the byte
count the converter reports for it. -/
namespace X11Clipboard.FromX11

open Formats Unicode LineEndings

/-! ## UTF-16, UTF-8 and compound text -/

/-- `clipUtf16ToWinTxt`: `pwcSrc` holds `cwcSrc` units and the terminator after them. -/
def clipUtf16ToWinTxt (pwcSrc : List UInt16) (cwcSrc : Nat) : Except Status (List UInt16 × Nat) := do
  let cwcDest ← vboxClipboardUtf16GetWinSize pwcSrc (cwcSrc + 1)
  let pwszDest ← vboxClipboardUtf16LinToWin pwcSrc (cwcSrc + 1) cwcDest
  return (pwszDest, cwcDest * 2)

/-- `clipUtf8ToWinTxt`: `RTStrToUtf16Ex` returns a terminated buffer and its length
without the terminator. -/
def clipUtf8ToWinTxt (pcSrc : List UInt8) (cbSrc : Nat) : Except Status (List UInt16 × Nat) := do
  let pwcTmp ← rtStrToUtf16Ex pcSrc cbSrc
  clipUtf16ToWinTxt (pwcTmp ++ [0]) pwcTmp.length

/-- `clipCTextToWinTxt`. `RTStrCurrentCPToUtf8` copies the string Xlib returns up to its
terminator: the current code page is UTF-8. -/
def clipCTextToWinTxt (xlib : Xlib) (pcSrc : List UInt8) (cbSrc : Nat) :
    Except Status (List UInt16 × Nat) :=
  if cbSrc = 0 then .ok ([0], 2)
  else
    let (xrc, ppcTmp) := xlib.xmbTextPropertyToTextList (pcSrc.take cbSrc)
    if xrc < 0 then .error (xlibStatus xrc)
    else clipUtf8ToWinTxt (untilNul ppcTmp) (untilNul ppcTmp).length

theorem clipUtf16ToWinTxt_eq {pwcSrc : List UInt16} (hbe : pwcSrc.head? ≠ some utf16BeMarker)
    (cwcSrc : Nat) :
    clipUtf16ToWinTxt pwcSrc cwcSrc =
      .ok (winText pwcSrc (cwcSrc + 1) ++ [0], ((winText pwcSrc (cwcSrc + 1)).length + 1) * 2) := by
  obtain ⟨hsize, hconv⟩ := vboxClipboardUtf16LinToWin_of_size hbe (show cwcSrc + 1 ≠ 0 by omega)
  simp only [clipUtf16ToWinTxt, hsize, bind, Except.bind, hconv]
  rfl

theorem clipUtf8ToWinTxt_of_decode {pcSrc : List UInt8} {cbSrc : Nat} {cs : List Char}
    (h : utf8Decode (untilNul (pcSrc.take cbSrc)) = some cs)
    (hbe : (utf16Encode cs).head? ≠ some utf16BeMarker)
    (hle : (utf16Encode cs).head? ≠ some utf16LeMarker) :
    clipUtf8ToWinTxt pcSrc cbSrc =
      .ok (utf16Encode (lfToCrlf crChar lfChar cs) ++ [0],
        ((utf16Encode (lfToCrlf crChar lfChar cs)).length + 1) * 2) := by
  have hconv : rtStrToUtf16Ex pcSrc cbSrc = .ok (utf16Encode cs) := by simp [rtStrToUtf16Ex, h]
  have hbe' : (utf16Encode cs ++ [0]).head? ≠ some utf16BeMarker := by
    rwa [Ne, head?_append_nul (by decide)]
  rw [clipUtf8ToWinTxt, hconv]
  show clipUtf16ToWinTxt _ _ = _
  rw [clipUtf16ToWinTxt_eq hbe', winText_append_nul (zero_not_mem_utf16Encode_of_decode h) hle,
    lfToCrlf_utf16Encode]

theorem clipUtf8ToWinTxt_eq {pcSrc : List UInt8} {cbSrc : Nat} {cs : List Char}
    (h : utf8Decode (untilNul (pcSrc.take cbSrc)) = some cs) :
    clipUtf8ToWinTxt pcSrc cbSrc =
      if (utf16Encode cs).head? = some utf16BeMarker then .error .verrInvalidParameter
      else .ok (utf16Encode (lfToCrlf crChar lfChar
          (cs.drop (if (utf16Encode cs).head? = some utf16LeMarker then 1 else 0))) ++ [0],
        ((utf16Encode (lfToCrlf crChar lfChar
          (cs.drop (if (utf16Encode cs).head? = some utf16LeMarker then 1 else 0)))).length + 1) * 2) := by
  have hconv : rtStrToUtf16Ex pcSrc cbSrc = .ok (utf16Encode cs) := by simp [rtStrToUtf16Ex, h]
  rw [clipUtf8ToWinTxt, hconv]
  show clipUtf16ToWinTxt _ _ = _
  by_cases hbe : (utf16Encode cs).head? = some utf16BeMarker
  · rw [if_pos hbe]
    simp [clipUtf16ToWinTxt, vboxClipboardUtf16GetWinSize, head?_append_nul (show utf16BeMarker ≠ 0 by decide),
      hbe, bind, Except.bind]
  · have hdrop : (utf16Encode cs).drop (if (utf16Encode cs).head? = some utf16LeMarker then 1 else 0) =
        utf16Encode (cs.drop (if (utf16Encode cs).head? = some utf16LeMarker then 1 else 0)) := by
      split_ifs with hle
      · rw [utf16Encode_of_head?_leMarker hle]; rfl
      · rfl
    rw [if_neg hbe, clipUtf16ToWinTxt_eq (by rwa [Ne, head?_append_nul (by decide)]),
      winText_append_nul_eq (zero_not_mem_utf16Encode_of_decode h), hdrop, lfToCrlf_utf16Encode]

/-! ## Latin-1

`clipLatin1ToWinTxt` sizes its buffer with one loop and fills it with another. The model
records the second loop's stores, so that where they land can be compared with the size. -/

/-- `pwszDest[j] = pcSrc[i]`: `char` is signed on the x86 targets the backend is built for,
so a byte from `0x80` up is sign-extended into the unit. -/
def charToRtUtf16 (c : UInt8) : UInt16 :=
  if c.toNat < 0x80 then UInt16.ofNat c.toNat else UInt16.ofNat (0xFF00 + c.toNat)

theorem toNat_charToRtUtf16 (c : UInt8) :
    (charToRtUtf16 c).toNat = if c.toNat < 0x80 then c.toNat else 0xFF00 + c.toNat := by
  have : c.toNat < 256 := c.toNat_lt_size
  unfold charToRtUtf16
  split_ifs <;> exact toNat_unit (by omega)

theorem charToRtUtf16_injective : Function.Injective charToRtUtf16 := by
  intro a b h
  have ha : a.toNat < 256 := a.toNat_lt_size
  have hb : b.toNat < 256 := b.toNat_lt_size
  have h' := congrArg UInt16.toNat h
  rw [toNat_charToRtUtf16, toNat_charToRtUtf16] at h'
  exact UInt8.toNat.inj (by split_ifs at h' <;> omega)

theorem count_linefeed_map_charToRtUtf16 (p : List UInt8) :
    (p.map charToRtUtf16).count linefeed = p.count 0x0A :=
  List.count_map_of_injective p _ charToRtUtf16_injective 0x0A

/-- The sizing loop over the bytes it may read: it stops at the first NUL and counts an LF
as two units. -/
def latin1SizeLoop : List UInt8 → Nat
  | [] => 0
  | c :: cs => if c = 0 then 0 else (if charToRtUtf16 c = linefeed then 2 else 1) + latin1SizeLoop cs

/-- The copy loop from output index `j`: the stores it makes into `pwszDest`, in order. It
walks every byte, past a NUL too. -/
def latin1CopyLoop (j : Nat) : List UInt8 → List (Nat × UInt16)
  | [] => []
  | c :: cs =>
    if charToRtUtf16 c ≠ linefeed then (j, charToRtUtf16 c) :: latin1CopyLoop (j + 1) cs
    else (j, carriageReturn) :: (j + 1, linefeed) :: latin1CopyLoop (j + 2) cs

/-- `cwcDest`, the units `clipLatin1ToWinTxt` allocates. -/
def latin1CwcDest (pcSrc : List UInt8) (cbSrc : Nat) : Nat := latin1SizeLoop (pcSrc.take cbSrc) + 1

/-- The stores `clipLatin1ToWinTxt` makes into `pwszDest`: the copy loop, then the
terminator at `cwcDest - 1`. -/
def clipLatin1ToWinTxtStores (pcSrc : List UInt8) (cbSrc : Nat) : List (Nat × UInt16) :=
  latin1CopyLoop 0 (pcSrc.take cbSrc) ++ [(latin1CwcDest pcSrc cbSrc - 1, 0)]

/-- `clipLatin1ToWinTxt`: the `cwcDest` units the caller reads after the stores, and
`cwcDest * 2`. When a NUL comes before the last byte the copy loop stores past the allocation
(`clipLatin1ToWinTxt_stores_in_bounds_iff`), into memory the model does not have: those stores
are kept in `clipLatin1ToWinTxtStores` and dropped here, so a result about such a reply says
nothing about that overflow. -/
def clipLatin1ToWinTxt (pcSrc : List UInt8) (cbSrc : Nat) : Except Status (List UInt16 × Nat) :=
  .ok ((clipLatin1ToWinTxtStores pcSrc cbSrc).foldl (fun pwszDest st => pwszDest.set st.1 st.2)
      (List.replicate (latin1CwcDest pcSrc cbSrc) 0),
    latin1CwcDest pcSrc cbSrc * 2)

theorem latin1CopyLoop_indices (j : Nat) (cs : List UInt8) :
    (latin1CopyLoop j cs).map Prod.fst = List.range' j (latin1CopyLoop j cs).length := by
  induction cs generalizing j with
  | nil => rfl
  | cons c cs ih =>
    by_cases hc : charToRtUtf16 c = linefeed
    · simp [latin1CopyLoop, hc, ih, List.range'_succ]
    · simp [latin1CopyLoop, hc, ih, List.range'_succ]

theorem latin1CopyLoop_eq_nil {j : Nat} {cs : List UInt8} : latin1CopyLoop j cs = [] ↔ cs = [] := by
  cases cs with
  | nil => simp [latin1CopyLoop]
  | cons c cs => by_cases hc : charToRtUtf16 c = linefeed <;> simp [latin1CopyLoop, hc]

theorem length_latin1CopyLoop (j k : Nat) (cs : List UInt8) :
    (latin1CopyLoop j cs).length = (latin1CopyLoop k cs).length := by
  induction cs generalizing j k with
  | nil => rfl
  | cons c cs ih =>
    by_cases hc : charToRtUtf16 c = linefeed <;> simp [latin1CopyLoop, hc, ih (j + 1) (k + 1), ih (j + 2) (k + 2)]

theorem length_latin1CopyLoop_cons (j : Nat) (c : UInt8) (cs : List UInt8) :
    (latin1CopyLoop j (c :: cs)).length =
      (if charToRtUtf16 c = linefeed then 2 else 1) + (latin1CopyLoop j cs).length := by
  by_cases hc : charToRtUtf16 c = linefeed
  · simp [latin1CopyLoop, hc, length_latin1CopyLoop (j + 2) j]; omega
  · simp [latin1CopyLoop, hc, length_latin1CopyLoop (j + 1) j]; omega

theorem length_latin1CopyLoop_le_iff (j : Nat) (cs : List UInt8) :
    (latin1CopyLoop j cs).length ≤ latin1SizeLoop cs + 1 ↔ 0 ∉ cs.dropLast := by
  induction cs with
  | nil => simp [latin1CopyLoop]
  | cons c cs ih =>
    have hdrop : 0 ∈ (c :: cs).dropLast ↔ (cs ≠ [] ∧ c = 0) ∨ 0 ∈ cs.dropLast := by
      cases cs <;> simp [eq_comm]
    rw [length_latin1CopyLoop_cons, latin1SizeLoop, hdrop]
    by_cases hc0 : c = 0
    · subst hc0
      have h0 : charToRtUtf16 0 ≠ linefeed := by decide
      rw [if_neg h0, if_pos (by rfl)]
      cases cs with
      | nil => simp [latin1CopyLoop]
      | cons d ds => simp [List.length_pos, latin1CopyLoop_eq_nil]
    · rw [if_neg hc0]
      simp only [hc0, and_false, false_or, ← ih]
      split <;> omega

/-- Every store of `clipLatin1ToWinTxt` lands in the buffer it allocates exactly when the
bytes it walks have no NUL before the last one. -/
theorem clipLatin1ToWinTxt_stores_in_bounds_iff (pcSrc : List UInt8) (cbSrc : Nat) :
    (∀ st ∈ clipLatin1ToWinTxtStores pcSrc cbSrc, st.1 < latin1CwcDest pcSrc cbSrc) ↔
      0 ∉ (pcSrc.take cbSrc).dropLast := by
  have hidx := latin1CopyLoop_indices 0 (pcSrc.take cbSrc)
  rw [← length_latin1CopyLoop_le_iff 0, clipLatin1ToWinTxtStores, List.forall_mem_append,
    List.forall_mem_singleton, ← List.forall_mem_map (f := Prod.fst) (P := (· < _)), hidx]
  simp only [List.mem_range'_1, latin1CwcDest]
  constructor
  · rintro ⟨h, -⟩
    by_contra hlt
    have := h (latin1SizeLoop (pcSrc.take cbSrc) + 1) ⟨Nat.zero_le _, by omega⟩
    omega
  · intro h
    exact ⟨fun i hi => by omega, by omega⟩

theorem latin1CopyLoop_eq_enumFrom (j : Nat) (cs : List UInt8) :
    latin1CopyLoop j cs = (lfToCrlf carriageReturn linefeed (cs.map charToRtUtf16)).enumFrom j := by
  induction cs generalizing j with
  | nil => rfl
  | cons c cs ih =>
    by_cases hc : charToRtUtf16 c = linefeed <;> simp [latin1CopyLoop, hc, ih, List.enumFrom_cons]

theorem latin1SizeLoop_eq (cs : List UInt8) :
    latin1SizeLoop cs = (lfToCrlf carriageReturn linefeed ((untilNul cs).map charToRtUtf16)).length := by
  induction cs with
  | nil => rfl
  | cons c cs ih =>
    by_cases hc0 : c = 0
    · simp [latin1SizeLoop, hc0, untilNul]
    · have hu : untilNul (c :: cs) = c :: untilNul cs := by simp [untilNul, hc0]
      rw [latin1SizeLoop, if_neg hc0, ih, hu]
      by_cases hc : charToRtUtf16 c = linefeed <;> simp [hc] <;> omega

theorem foldl_set_enumFrom {α : Type} (l pre mid post : List α) (hmid : mid.length = l.length) :
    (l.enumFrom pre.length).foldl (fun d st => d.set st.1 st.2) (pre ++ mid ++ post) = pre ++ l ++ post := by
  induction l generalizing pre mid with
  | nil => simp_all
  | cons x l ih =>
    obtain ⟨m, mid, rfl⟩ := List.exists_cons_of_length_eq_add_one hmid
    have hset : (pre ++ m :: mid ++ post).set pre.length x = pre ++ [x] ++ mid ++ post := by
      simp [List.set_append_right]
    rw [List.enumFrom_cons, List.foldl_cons, hset, show pre.length + 1 = (pre ++ [x]).length by simp,
      ih _ _ (by simpa using hmid)]
    simp

theorem foldl_set_eq_self {α : Type} {d : List α} {sts : List (Nat × α)}
    (h : ∀ st ∈ sts, d.set st.1 st.2 = d) : sts.foldl (fun d st => d.set st.1 st.2) d = d := by
  induction sts with
  | nil => rfl
  | cons st sts ih => rw [List.foldl_cons, h st (by simp), ih fun st' hst' => h st' (by simp [hst'])]

theorem eq_untilNul_append (xs : List UInt8) :
    ∃ rest, xs = untilNul xs ++ rest ∧ (rest = [] ∨ ∃ r, rest = 0 :: r) := by
  induction xs with
  | nil => exact ⟨[], rfl, .inl rfl⟩
  | cons x xs ih =>
    by_cases hx : x = 0
    · exact ⟨x :: xs, by simp [untilNul, hx], .inr ⟨xs, by rw [hx]⟩⟩
    · obtain ⟨rest, hrest, hr⟩ := ih
      exact ⟨rest, by simp [untilNul, hx] at hrest ⊢; exact hrest, hr⟩

/-- On any bytes, `clipLatin1ToWinTxt` gives the units `char` makes of the bytes before the
first NUL, every LF expanded, and a terminator: what the copy loop writes from the NUL on
falls on the terminator or outside the buffer. -/
theorem clipLatin1ToWinTxt_eq (pcSrc : List UInt8) :
    clipLatin1ToWinTxt pcSrc pcSrc.length =
      .ok (lfToCrlf carriageReturn linefeed ((untilNul pcSrc).map charToRtUtf16) ++ [0],
        ((lfToCrlf carriageReturn linefeed ((untilNul pcSrc).map charToRtUtf16)).length + 1) * 2) := by
  obtain ⟨rest, hsplit, hrest⟩ := eq_untilNul_append pcSrc
  have hcwc : latin1CwcDest pcSrc pcSrc.length =
      (lfToCrlf carriageReturn linefeed ((untilNul pcSrc).map charToRtUtf16)).length + 1 := by
    rw [latin1CwcDest, List.take_length, latin1SizeLoop_eq]
  generalize hW : lfToCrlf carriageReturn linefeed ((untilNul pcSrc).map charToRtUtf16) = W at hcwc
  have hfill : (W.enumFrom 0).foldl (fun d st => d.set st.1 st.2) (List.replicate (W.length + 1) 0) =
      W ++ [0] := by
    simpa [List.replicate_succ'] using foldl_set_enumFrom W [] (List.replicate W.length 0) [0] (by simp)
  have hmap : pcSrc.map charToRtUtf16 = (untilNul pcSrc).map charToRtUtf16 ++ rest.map charToRtUtf16 := by
    rw [← List.map_append, ← hsplit]
  -- what follows the text stores 0 on the terminator first, then past the buffer
  have hkeep : ∀ st ∈ (lfToCrlf carriageReturn linefeed (rest.map charToRtUtf16)).enumFrom W.length ++
      [(W.length, (0 : UInt16))], (W ++ [0]).set st.1 st.2 = W ++ [0] := by
    have hterm : (W ++ [(0 : UInt16)]).set W.length 0 = W ++ [0] := by simp [List.set_append_right]
    intro st hst
    rcases List.mem_append.1 hst with hst | hst
    · rcases hrest with rfl | ⟨r, rfl⟩
      · simp at hst
      · rw [List.map_cons, lfToCrlf_cons, if_neg (by decide), List.singleton_append, List.enumFrom_cons,
          List.mem_cons] at hst
        rcases hst with rfl | hst
        · exact hterm
        · exact List.set_eq_of_length_le (by have := List.le_fst_of_mem_enumFrom hst; simp; omega)
    · rw [List.mem_singleton.1 hst]
      exact hterm
  rw [clipLatin1ToWinTxt, clipLatin1ToWinTxtStores, hcwc, List.take_length, latin1CopyLoop_eq_enumFrom,
    hmap, lfToCrlf_append, hW, List.enumFrom_append, Nat.zero_add, Nat.add_sub_cancel, List.append_assoc,
    List.foldl_append, hfill, foldl_set_eq_self hkeep]

/-! ## The conversion in `clipConvertX11CB` -/

/-- The conversion half of `clipConvertX11CB`: from the request's `mFormat` and
`mTextFormat` and the reply's type and value, the buffer and byte count it hands to
`ClipCompleteDataRequestFromX11`. An 8-bit reply is `cbSrc` bytes long. -/
def clipConvertX11CBData (xlib : Xlib) (mFormat mTextFormat : Nat) (atomType : Atom)
    (pvSrc : Option (List UInt8)) : Except Status (List UInt16 × Nat) :=
  match pvSrc with
  | none => .error .verrNoData
  | some src =>
    if atomType = .xtConvertFail then .error .verrTimeout
    else if mFormat = vboxSharedClipboardFmtUnicodeText then
      match clipRealFormatForX11Format mTextFormat with
      | .ctext => clipCTextToWinTxt xlib src src.length
      | .utf8 | .text =>
        -- broken UTF-8 is taken for Latin-1
        if (rtStrValidateEncodingEx src src.length).isSuccess then clipUtf8ToWinTxt src src.length
        else clipLatin1ToWinTxt src src.length
      | _ => .error .verrInvalidParameter
    else .error .verrNotImplemented

theorem clipConvertX11CBData_utf8_or_latin1 (xlib : Xlib) {mTextFormat : Nat} {atomType : Atom}
    (hfmt : clipRealFormatForX11Format mTextFormat = .utf8 ∨ clipRealFormatForX11Format mTextFormat = .text)
    (htype : atomType ≠ .xtConvertFail) (p : List UInt8) :
    clipConvertX11CBData xlib vboxSharedClipboardFmtUnicodeText mTextFormat atomType (some p) =
      if (rtStrValidateEncodingEx p p.length).isSuccess then clipUtf8ToWinTxt p p.length
      else clipLatin1ToWinTxt p p.length := by
  rcases hfmt with h | h <;> simp [clipConvertX11CBData, htype, h]

theorem clipConvertX11CBData_utf8 (xlib : Xlib) {u : List UInt8} {cs : List Char}
    (hu : utf8Decode u = some cs) (hnul : 0 ∉ u) (hbe : (utf16Encode cs).head? ≠ some utf16BeMarker)
    (hle : (utf16Encode cs).head? ≠ some utf16LeMarker) :
    clipConvertX11CBData xlib vboxSharedClipboardFmtUnicodeText
        (clipFindX11FormatByAtom (clipGetAtom "UTF8_STRING")) (clipGetAtom "UTF8_STRING") (some u) =
      .ok (utf16Encode (lfToCrlf crChar lfChar cs) ++ [0],
        ((utf16Encode (lfToCrlf crChar lfChar cs)).length + 1) * 2) := by
  have hu' : utf8Decode (untilNul (u.take u.length)) = some cs := by
    rwa [List.take_length, untilNul_eq_self hnul]
  rw [clipConvertX11CBData_utf8_or_latin1 xlib (.inl (by decide)) (by decide),
    rtStrValidateEncodingEx_of_decode hu', if_pos (by rfl)]
  exact clipUtf8ToWinTxt_of_decode hu' hbe hle

theorem clipCTextToWinTxt_of_decode {xlib : Xlib} {pcSrc : List UInt8} {cbSrc : Nat} {xrc : Int}
    {ppcTmp : List UInt8} {cs : List Char} (hcb : cbSrc ≠ 0)
    (hx : xlib.xmbTextPropertyToTextList (pcSrc.take cbSrc) = (xrc, ppcTmp)) (hxrc : 0 ≤ xrc)
    (h : utf8Decode (untilNul ppcTmp) = some cs) (hbe : (utf16Encode cs).head? ≠ some utf16BeMarker)
    (hle : (utf16Encode cs).head? ≠ some utf16LeMarker) :
    clipCTextToWinTxt xlib pcSrc cbSrc =
      .ok (utf16Encode (lfToCrlf crChar lfChar cs) ++ [0],
        ((utf16Encode (lfToCrlf crChar lfChar cs)).length + 1) * 2) := by
  have h' : utf8Decode (untilNul ((untilNul ppcTmp).take (untilNul ppcTmp).length)) = some cs := by
    rwa [List.take_length, untilNul_eq_self (zero_not_mem_untilNul _)]
  simp only [clipCTextToWinTxt, hcb, hx, Int.not_lt.2 hxrc, if_false]
  exact clipUtf8ToWinTxt_of_decode h' hbe hle

/-- A UTF-8 reply whose bytes before a NUL are not UTF-8 reaches the Latin-1 converter, and
the copy loop stores a unit past the two the sizing loop allocated. -/
theorem clipLatin1ToWinTxt_stores_past_cwcDest (xlib : Xlib) :
    clipConvertX11CBData xlib vboxSharedClipboardFmtUnicodeText 1 (clipGetAtom "UTF8_STRING")
        (some [0xFF, 0, 0x61]) = clipLatin1ToWinTxt [0xFF, 0, 0x61] 3 ∧
      latin1CwcDest [0xFF, 0, 0x61] 3 = 2 ∧
      (2, charToRtUtf16 0x61) ∈ clipLatin1ToWinTxtStores [0xFF, 0, 0x61] 3 := by
  have hinvalid : rtStrValidateEncodingEx [0xFF, 0, 0x61] 3 = .verrInvalidUtf8Encoding := by
    rw [rtStrValidateEncodingEx, show untilNul (List.take 3 [(0xFF : UInt8), 0, 0x61]) = [0xFF] by decide,
      utf8Decode]
    rfl
  refine ⟨?_, by decide, by decide⟩
  simp [clipConvertX11CBData, hinvalid, clipGetAtom, Status.isSuccess]
  rfl

/-- Over every 8-bit reply `p` to a UTF-8 or Latin-1 request that holds no NUL and is not
UTF-8: `p` is taken for Latin-1, each byte as the unit `char` makes of it, every LF as CR LF,
then a terminator; the byte count is two per unit, an LF counted twice. -/
theorem clipConvertX11CBData_latin1 (xlib : Xlib) {mTextFormat : Nat} {atomType : Atom}
    (hfmt : clipRealFormatForX11Format mTextFormat = .utf8 ∨ clipRealFormatForX11Format mTextFormat = .text)
    (htype : atomType ≠ .xtConvertFail) {p : List UInt8} (hnul : 0 ∉ p) (hbad : utf8Decode p = none) :
    clipConvertX11CBData xlib vboxSharedClipboardFmtUnicodeText mTextFormat atomType (some p) =
      .ok (lfToCrlf carriageReturn linefeed (p.map charToRtUtf16) ++ [0], (p.length + p.count 0x0A + 1) * 2) := by
  have hinvalid : (rtStrValidateEncodingEx p p.length).isSuccess = false := by
    simp [rtStrValidateEncodingEx, untilNul_eq_self hnul, hbad, Status.isSuccess]
  rw [clipConvertX11CBData_utf8_or_latin1 xlib hfmt htype, if_neg (by simp [hinvalid]), clipLatin1ToWinTxt_eq,
    untilNul_eq_self hnul, length_lfToCrlf, List.length_map, count_linefeed_map_charToRtUtf16]

theorem clipConvertX11CBData_latin1_on_e9_lf :
    (0 : UInt8) ∉ [0xE9, 0x0A] ∧ utf8Decode [0xE9, 0x0A] = none ∧
      clipConvertX11CBData emptyXlib vboxSharedClipboardFmtUnicodeText
          (clipFindX11FormatByAtom (clipGetAtom "UTF8_STRING")) (clipGetAtom "UTF8_STRING") (some [0xE9, 0x0A]) =
        .ok ([0xFFE9, 0x0D, 0x0A, 0], 8) := by
  have hbad : utf8Decode [(0xE9 : UInt8), 0x0A] = none := by
    rw [utf8Decode]
    rfl
  refine ⟨by decide, hbad, ?_⟩
  rw [clipConvertX11CBData_latin1 emptyXlib (.inl (by decide)) (by decide) (by decide) hbad]
  rfl

/-- Three `UTF8_STRING` replies whose host text is not the Latin-1 or UTF-8 reading of their
bytes: é (0xE9), not UTF-8, is taken for Latin-1 but arrives as U+FFE9, `char` being signed;
a UTF-8 byte order mark before `a` is dropped; and UTF-8 U+FFFE is refused. -/
theorem x11_text_not_latin1 :
    clipConvertX11CBData emptyXlib vboxSharedClipboardFmtUnicodeText
        (clipFindX11FormatByAtom (clipGetAtom "UTF8_STRING")) (clipGetAtom "UTF8_STRING") (some [0xE9]) =
        .ok ([0xFFE9, 0], 4) ∧
      clipConvertX11CBData emptyXlib vboxSharedClipboardFmtUnicodeText
        (clipFindX11FormatByAtom (clipGetAtom "UTF8_STRING")) (clipGetAtom "UTF8_STRING")
        (some [0xEF, 0xBB, 0xBF, 0x61]) = .ok ([0x61, 0], 4) ∧
      clipConvertX11CBData emptyXlib vboxSharedClipboardFmtUnicodeText
        (clipFindX11FormatByAtom (clipGetAtom "UTF8_STRING")) (clipGetAtom "UTF8_STRING")
        (some [0xEF, 0xBF, 0xBE]) = .error .verrInvalidParameter := by
  have hdispatch := clipConvertX11CBData_utf8_or_latin1 emptyXlib
    (.inl (show clipRealFormatForX11Format (clipFindX11FormatByAtom (clipGetAtom "UTF8_STRING")) = .utf8 by
      decide))
    (show clipGetAtom "UTF8_STRING" ≠ .xtConvertFail by decide)
  have hinvalid : utf8Decode (untilNul ([0xE9] : List UInt8)) = none := by
    rw [show untilNul ([0xE9] : List UInt8) = [0xE9] by decide, utf8Decode]
    rfl
  have hmark : utf8Decode (untilNul [(0xEF : UInt8), 0xBB, 0xBF, 0x61]) = some [Char.ofNat 0xFEFF, 'a'] := by
    rw [show untilNul [(0xEF : UInt8), 0xBB, 0xBF, 0x61] = utf8Encode [Char.ofNat 0xFEFF, 'a'] by decide,
      utf8Decode_utf8Encode]
  have hrev : utf8Decode (untilNul [(0xEF : UInt8), 0xBF, 0xBE]) = some [Char.ofNat 0xFFFE] := by
    rw [show untilNul [(0xEF : UInt8), 0xBF, 0xBE] = utf8Encode [Char.ofNat 0xFFFE] by decide,
      utf8Decode_utf8Encode]
  refine ⟨?_, ?_, ?_⟩
  · rw [hdispatch, if_neg (by simp [rtStrValidateEncodingEx, hinvalid, Status.isSuccess]), clipLatin1ToWinTxt_eq]
    rfl
  · rw [← List.take_length (l := [(0xEF : UInt8), 0xBB, 0xBF, 0x61])] at hmark
    rw [hdispatch, rtStrValidateEncodingEx_of_decode hmark, if_pos (by rfl), clipUtf8ToWinTxt_eq hmark,
      if_neg (by decide), if_pos (by decide)]
    rfl
  · rw [← List.take_length (l := [(0xEF : UInt8), 0xBF, 0xBE])] at hrev
    rw [hdispatch, rtStrValidateEncodingEx_of_decode hrev, if_pos (by rfl), clipUtf8ToWinTxt_eq hrev,
      if_pos (by decide)]

/-! ## What the frontend is handed -/

/-- Host text as a successful conversion hands it on before its terminator: no NUL, every LF
right after a CR, and UTF-16 that decodes. -/
structure WinText (text : List UInt16) : Prop where
  noNul : 0 ∉ text
  crBeforeLf : CrBeforeLf carriageReturn linefeed text
  decodes : (utf16Decode text).isSome

theorem winText_utf16Encode {cs : List Char} (h : ∀ c ∈ cs, c.toNat ≠ 0) :
    WinText (utf16Encode (lfToCrlf crChar lfChar cs)) where
  noNul := by
    rw [zero_mem_utf16Encode]
    rintro ⟨c, hc, h0⟩
    rcases mem_lfToCrlf hc with rfl | hc
    · exact absurd h0 (by decide)
    · exact h c hc h0
  crBeforeLf := lfToCrlf_utf16Encode cs ▸ crBeforeLf_lfToCrlf (by decide) _
  decodes := by rw [utf16Decode_utf16Encode]; rfl

theorem winText_latin1 (p : List UInt8) :
    WinText (lfToCrlf carriageReturn linefeed ((untilNul p).map charToRtUtf16)) := by
  have hunits : ∀ u ∈ lfToCrlf carriageReturn linefeed ((untilNul p).map charToRtUtf16),
      u = carriageReturn ∨ ∃ c ∈ untilNul p, charToRtUtf16 c = u := fun u hu => by
    simpa using mem_lfToCrlf hu
  refine ⟨fun h0 => ?_, crBeforeLf_lfToCrlf (by decide) _, utf16Decode_isSome_of_bmp fun u hu => ?_⟩
  · rcases hunits 0 h0 with h | ⟨c, hc, hc0⟩
    · exact absurd h (by decide)
    · have h0 := congrArg UInt16.toNat hc0
      rw [toNat_charToRtUtf16] at h0
      have hc0 : c.toNat = 0 := by split_ifs at h0 <;> simp_all
      exact zero_not_mem_untilNul p (UInt8.toNat.inj (b := 0) hc0 ▸ hc)
  · rcases hunits u hu with rfl | ⟨c, -, rfl⟩
    · decide
    · have : c.toNat < 256 := c.toNat_lt_size
      rw [toNat_charToRtUtf16]
      split_ifs <;> omega

theorem clipUtf8ToWinTxt_winText {pcSrc : List UInt8} {cbSrc : Nat} {buf : List UInt16} {cb : Nat}
    (h : clipUtf8ToWinTxt pcSrc cbSrc = .ok (buf, cb)) :
    ∃ text, WinText text ∧ buf = text ++ [0] ∧ cb = 2 * buf.length := by
  cases hd : utf8Decode (untilNul (pcSrc.take cbSrc)) with
  | none => simp [clipUtf8ToWinTxt, rtStrToUtf16Ex, hd, bind, Except.bind] at h
  | some cs =>
    rw [clipUtf8ToWinTxt_eq hd] at h
    by_cases hbe : (utf16Encode cs).head? = some utf16BeMarker
    · rw [if_pos hbe] at h
      cases h
    rw [if_neg hbe] at h
    obtain ⟨rfl, rfl⟩ := Prod.mk.inj (Except.ok.inj h)
    have hnul : ∀ c ∈ cs, c.toNat ≠ 0 := fun c hc h0 =>
      zero_not_mem_utf16Encode_of_decode hd (zero_mem_utf16Encode.2 ⟨c, hc, h0⟩)
    refine ⟨_, winText_utf16Encode fun c hc => hnul c (List.mem_of_mem_drop hc), rfl, ?_⟩
    simp only [List.length_append, List.length_singleton]
    omega

/-- Whatever X11 replies, in whatever text format, and whatever Xlib's compound-text
conversion does: every host text `clipConvertX11CB` hands the frontend with success is text
with no NUL, every LF right after a CR and UTF-16 that decodes, then one terminator, with two
bytes counted per unit. -/
theorem clipConvertX11CBData_winText (xlib : Xlib) (mFormat mTextFormat : Nat) (atomType : Atom)
    (pvSrc : Option (List UInt8)) {buf : List UInt16} {cb : Nat}
    (h : clipConvertX11CBData xlib mFormat mTextFormat atomType pvSrc = .ok (buf, cb)) :
    ∃ text, WinText text ∧ buf = text ++ [0] ∧ cb = 2 * buf.length := by
  rcases pvSrc with _ | src
  · cases h
  -- UTF-8, or Latin-1 where the bytes are not UTF-8
  have htext : (if (rtStrValidateEncodingEx src src.length).isSuccess then clipUtf8ToWinTxt src src.length
      else clipLatin1ToWinTxt src src.length) = .ok (buf, cb) →
      ∃ text, WinText text ∧ buf = text ++ [0] ∧ cb = 2 * buf.length := fun h => by
    split_ifs at h
    · exact clipUtf8ToWinTxt_winText h
    · rw [clipLatin1ToWinTxt_eq] at h
      obtain ⟨rfl, rfl⟩ := Prod.mk.inj (Except.ok.inj h)
      refine ⟨_, winText_latin1 src, rfl, ?_⟩
      simp only [List.length_append, List.length_singleton]
      omega
  simp only [clipConvertX11CBData] at h
  by_cases hfail : atomType = .xtConvertFail
  · rw [if_pos hfail] at h
    cases h
  by_cases hfmt : mFormat = vboxSharedClipboardFmtUnicodeText
  · rw [if_neg hfail, if_pos hfmt] at h
    split at h
    · -- compound text: empty, or through Xlib to UTF-8
      unfold clipCTextToWinTxt at h
      split_ifs at h
      · obtain ⟨rfl, rfl⟩ := Prod.mk.inj (Except.ok.inj h)
        exact ⟨[], ⟨List.not_mem_nil _, ⟨by simp, List.chain'_nil⟩, rfl⟩, rfl, rfl⟩
      · split at h
        split_ifs at h
        exact clipUtf8ToWinTxt_winText h
    · exact htext h
    · exact htext h
    · cases h
  · rw [if_neg hfail, if_neg hfmt] at h
    cases h

theorem clipConvertX11CBData_winText_on_latin1 :
    clipConvertX11CBData emptyXlib vboxSharedClipboardFmtUnicodeText
        (clipFindX11FormatByAtom (clipGetAtom "UTF8_STRING")) (clipGetAtom "UTF8_STRING")
        (some [0xE9, 0x0A]) = .ok ([0xFFE9, 0x0D, 0x0A, 0], 8) ∧
      ∃ text, WinText text ∧ [0xFFE9, 0x0D, 0x0A, 0] = text ++ [0] ∧ 8 = 2 * 4 := by
  have h : clipConvertX11CBData emptyXlib vboxSharedClipboardFmtUnicodeText
      (clipFindX11FormatByAtom (clipGetAtom "UTF8_STRING")) (clipGetAtom "UTF8_STRING")
      (some [0xE9, 0x0A]) = .ok ([0xFFE9, 0x0D, 0x0A, 0], 8) := by
    have hinvalid : utf8Decode (untilNul ([0xE9, 0x0A] : List UInt8)) = none := by
      rw [show untilNul ([0xE9, 0x0A] : List UInt8) = [0xE9, 0x0A] by decide, utf8Decode]
      rfl
    rw [clipConvertX11CBData_utf8_or_latin1 emptyXlib (.inl (by decide)) (by decide),
      if_neg (by simp [rtStrValidateEncodingEx, hinvalid, Status.isSuccess]), clipLatin1ToWinTxt_eq]
    rfl
  exact ⟨h, clipConvertX11CBData_winText _ _ _ _ _ h⟩

end X11Clipboard.FromX11
