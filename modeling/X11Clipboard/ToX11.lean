import X11Clipboard.LineEndings

/-! Host text to X11: the host's buffer as units, the UTF-8 and compound-text conversions
for an X11 peer, the target list, the host-data cache, and `clipXtConvertSelectionProc`
that chooses between them. -/
namespace X11Clipboard.ToX11

open Formats Unicode LineEndings

/-! ## Host buffers -/

/-- The host's buffer read as `RTUTF16` units on a little-endian host: `cb / 2` units, an
odd last byte unread. -/
def unitsOfBytes : List UInt8 → List UInt16
  | lo :: hi :: rest => UInt16.ofNat (lo.toNat + 256 * hi.toNat) :: unitsOfBytes rest
  | _ => []

def bytesOfUnits (us : List UInt16) : List UInt8 :=
  us.flatMap fun u => [UInt8.ofNat (u.toNat % 256), UInt8.ofNat (u.toNat / 256)]

@[simp] theorem unitsOfBytes_bytesOfUnits (us : List UInt16) : unitsOfBytes (bytesOfUnits us) = us := by
  induction us with
  | nil => rfl
  | cons u us ih =>
    have hu : u.toNat < 65536 := u.toNat_lt_size
    rw [bytesOfUnits, List.flatMap_cons, ← bytesOfUnits, List.cons_append, List.singleton_append,
      unitsOfBytes, ih, toNat_byte (by omega), toNat_byte (by omega), unit_eq (u := u) (by omega)]

theorem length_unitsOfBytes : ∀ bs : List UInt8, (unitsOfBytes bs).length = bs.length / 2
  | _ :: _ :: rest => by simp only [unitsOfBytes, List.length_cons, length_unitsOfBytes rest]; omega
  | [] => rfl
  | [_] => by simp [unitsOfBytes]

@[simp] theorem length_bytesOfUnits (us : List UInt16) : (bytesOfUnits us).length = 2 * us.length := by
  induction us with
  | nil => rfl
  | cons u us ih =>
    rw [bytesOfUnits, List.flatMap_cons, ← bytesOfUnits, List.length_append, ih]
    simp only [List.length_cons, List.length_nil]
    omega

/-! ## Values for X11 peers -/

/-- The data of a selection value: the atoms of a target list, or text bytes. -/
inductive SelectionData
  | atoms (l : List Atom)
  | bytes (l : List UInt8)
  deriving DecidableEq, Repr

/-- What a conversion for an X11 peer returns through `atomTypeReturn`, `pValReturn`,
`pcLenReturn` and `piFormatReturn`. -/
structure SelectionValue where
  atomType : Atom
  value : SelectionData
  cLen : Nat
  format : Nat
  deriving DecidableEq, Repr

/-- The bytes an X11 peer receives: the first `cLen` of a text value. -/
def SelectionValue.received (v : SelectionValue) : List UInt8 :=
  match v.value with
  | .bytes l => l.take v.cLen
  | .atoms _ => []

def SelectionValue.atoms (v : SelectionValue) : List Atom :=
  match v.value with
  | .atoms l => l.take v.cLen
  | .bytes _ => []

def clipWinTxtBufSizeForUtf8 (pwsz : List UInt16) (cwc : Nat) : Except Status Nat := do
  let cbRet ← rtUtf16CalcUtf8LenEx pwsz cwc
  return cbRet + 1

/-- `clipWinTxtToUtf8` into a buffer of `cbBuf` bytes: the bytes it writes, terminator
included, whose count it stores in `*pcbActual`. When `vboxClipboardUtf16GetLinSize` fails
or finds no text, no temporary buffer is allocated, and the source then returns
`VERR_NO_MEMORY` in place of that status. -/
def clipWinTxtToUtf8 (pwszSrc : List UInt16) (cbSrc cbBuf : Nat) : Except Status (List UInt8) :=
  match vboxClipboardUtf16GetLinSize pwszSrc (cbSrc / 2) with
  | .ok cwTmp =>
    if cwTmp = 0 then .error .verrNoMemory
    else do
      let pwszTmp ← vboxClipboardUtf16WinToLin pwszSrc (cbSrc / 2) cwTmp
      let pszBuf ← rtUtf16ToUtf8Ex (pwszTmp.drop 1) (cwTmp - 1) cbBuf
      return pszBuf ++ [0]
  | .error _ => .error .verrNoMemory

def clipWinTxtToUtf8ForX11CB (pwszSrc : List UInt16) (cbSrc : Nat) (atomTarget : Atom) :
    Except Status SelectionValue := do
  let cbDest ← clipWinTxtBufSizeForUtf8 pwszSrc (cbSrc / 2)
  let pszDest ← clipWinTxtToUtf8 pwszSrc cbSrc cbDest
  return ⟨atomTarget, .bytes pszDest, pszDest.length, 8⟩

/-- `clipWinTxtToCTextForX11CB`. `RTStrUtf8ToCurrentCP` copies the text up to its
terminator: the current code page is UTF-8. -/
def clipWinTxtToCTextForX11CB (xlib : Xlib) (pwszSrc : List UInt16) (cbSrc : Nat) :
    Except Status SelectionValue := do
  let cbTmp ← clipWinTxtBufSizeForUtf8 pwszSrc (cbSrc / 2)
  let pszTmp ← clipWinTxtToUtf8 pwszSrc cbSrc (cbTmp + 1)
  let (xrc, property) := xlib.xmbTextListToTextProperty (untilNul pszTmp)
  if xrc < 0 then .error (xlibStatus xrc)
  else return ⟨property.encoding, .bytes property.value, property.nitems + 1, property.format⟩

/-- `clipTrimTrailingNul`: a NUL as the last counted byte is not counted. -/
def clipTrimTrailingNul (v : SelectionValue) : SelectionValue :=
  match v.value with
  | .bytes l => if l[v.cLen - 1]? = some 0 then { v with cLen := v.cLen - 1 } else v
  | .atoms _ => v

theorem clipWinTxtBufSizeForUtf8_eq (pwsz : List UInt16) (cwc : Nat) :
    clipWinTxtBufSizeForUtf8 pwsz cwc = match utf16Decode (untilNul (pwsz.take cwc)) with
      | some cs => .ok ((utf8Encode cs).length + 1)
      | none => .error .verrInvalidUtf16Encoding := by
  unfold clipWinTxtBufSizeForUtf8 rtUtf16CalcUtf8LenEx
  cases utf16Decode (untilNul (pwsz.take cwc)) <;> rfl

theorem clipWinTxtToUtf8_of_decode {pwszSrc : List UInt16} {cbSrc : Nat} {cs : List Char}
    (htext : utf16Decode (untilNul (pwszSrc.take (cbSrc / 2))) = some cs) (cbBuf : Nat) :
    clipWinTxtToUtf8 pwszSrc cbSrc cbBuf =
      if cbSrc / 2 = 0 ∨ pwszSrc.head? = some utf16BeMarker then .error .verrNoMemory
      else if (utf8Encode (linChars pwszSrc cs)).length < cbBuf then
        .ok (utf8Encode (linChars pwszSrc cs) ++ [0])
      else .error .verrBufferOverflow := by
  split_ifs with hno hfit
  · have : vboxClipboardUtf16GetLinSize pwszSrc (cbSrc / 2) = .ok 0 ∨
        ∃ e, vboxClipboardUtf16GetLinSize pwszSrc (cbSrc / 2) = .error e := by
      unfold vboxClipboardUtf16GetLinSize; split_ifs <;> simp_all
    rcases this with h | ⟨e, h⟩ <;> simp [clipWinTxtToUtf8, h]
  all_goals
    obtain ⟨hcw, hbe⟩ := not_or.1 hno
    have hnul : (0 : UInt16) ∉ utf16Encode (linChars pwszSrc cs) := fun h => by
      obtain ⟨c, hc, hc0⟩ := zero_mem_utf16Encode.1 h
      exact zero_not_mem_untilNul _ (utf16Encode_of_decode htext ▸
        zero_mem_utf16Encode.2 ⟨c, (linChars_sublist _ _).subset hc, hc0⟩)
    obtain ⟨hsize, hconv⟩ := vboxClipboardUtf16WinToLin_of_size hbe hcw
    rw [linText_of_decode htext hcw, List.length_cons] at hsize hconv
    simp only [clipWinTxtToUtf8, hsize, hconv, Nat.add_one_ne_zero, if_false, bind, Except.bind,
      List.cons_append, List.drop_one, List.tail_cons, Nat.add_sub_cancel, rtUtf16ToUtf8Ex,
      untilNul_take_append_nul hnul, utf16Decode_utf16Encode, hfit, if_true, pure, Except.pure]

theorem clipWinTxtToUtf8ForX11CB_eq_linChars {pwszSrc : List UInt16} {cbSrc : Nat} {cs : List Char}
    (htext : utf16Decode (untilNul (pwszSrc.take (cbSrc / 2))) = some cs) (hcw : cbSrc / 2 ≠ 0)
    (hbe : pwszSrc.head? ≠ some utf16BeMarker) (atomTarget : Atom) :
    clipWinTxtToUtf8ForX11CB pwszSrc cbSrc atomTarget =
      .ok ⟨atomTarget, .bytes (utf8Encode (linChars pwszSrc cs) ++ [0]),
        (utf8Encode (linChars pwszSrc cs)).length + 1, 8⟩ := by
  have hfit : (utf8Encode (linChars pwszSrc cs)).length < (utf8Encode cs).length + 1 :=
    Nat.lt_succ_of_le (utf8Encode_sublist (linChars_sublist _ _)).length_le
  simp only [clipWinTxtToUtf8ForX11CB, clipWinTxtBufSizeForUtf8_eq, htext, clipWinTxtToUtf8_of_decode htext,
    hcw, hbe, or_self, if_false, hfit, if_true, bind, Except.bind, pure, Except.pure, List.length_append,
    List.length_singleton]

theorem clipWinTxtToUtf8ForX11CB_of_decode {pwszSrc : List UInt16} {cbSrc : Nat} {cs : List Char}
    (htext : utf16Decode (untilNul (pwszSrc.take (cbSrc / 2))) = some cs) (hcw : cbSrc / 2 ≠ 0)
    (hle : pwszSrc.head? ≠ some utf16LeMarker) (hbe : pwszSrc.head? ≠ some utf16BeMarker)
    (atomTarget : Atom) :
    clipWinTxtToUtf8ForX11CB pwszSrc cbSrc atomTarget =
      .ok ⟨atomTarget, .bytes (utf8Encode (crlfToLf crChar lfChar cs) ++ [0]),
        (utf8Encode (crlfToLf crChar lfChar cs)).length + 1, 8⟩ := by
  rw [clipWinTxtToUtf8ForX11CB_eq_linChars htext hcw hbe, linChars, if_neg hle]
  rfl

theorem clipWinTxtToCTextForX11CB_of_decode {xlib : Xlib} {pwszSrc : List UInt16} {cbSrc : Nat}
    {cs : List Char} {xrc : Int} {property : TextProperty}
    (htext : utf16Decode (untilNul (pwszSrc.take (cbSrc / 2))) = some cs) (hcw : cbSrc / 2 ≠ 0)
    (hbe : pwszSrc.head? ≠ some utf16BeMarker)
    (hx : xlib.xmbTextListToTextProperty (utf8Encode (linChars pwszSrc cs)) = (xrc, property))
    (hxrc : 0 ≤ xrc) :
    clipWinTxtToCTextForX11CB xlib pwszSrc cbSrc =
      .ok ⟨property.encoding, .bytes property.value, property.nitems + 1, property.format⟩ := by
  have hfit : (utf8Encode (linChars pwszSrc cs)).length < (utf8Encode cs).length + 1 + 1 := by
    have := (utf8Encode_sublist (linChars_sublist pwszSrc cs)).length_le
    omega
  have hnul : (0 : UInt8) ∉ utf8Encode (linChars pwszSrc cs) := fun h => by
    obtain ⟨c, hc, hc0⟩ := zero_mem_utf8Encode.1 h
    exact zero_not_mem_untilNul _ (utf16Encode_of_decode htext ▸
      zero_mem_utf16Encode.2 ⟨c, (linChars_sublist _ _).subset hc, hc0⟩)
  simp only [clipWinTxtToCTextForX11CB, clipWinTxtBufSizeForUtf8_eq, htext, clipWinTxtToUtf8_of_decode htext,
    hcw, hbe, or_self, if_false, hfit, if_true, bind, Except.bind, untilNul_append_zero hnul, hx,
    Int.not_lt.2 hxrc, pure, Except.pure]

theorem clipWinTxtToUtf8_fits {pwszSrc : List UInt16} {cbSrc n : Nat}
    (hsize : clipWinTxtBufSizeForUtf8 pwszSrc (cbSrc / 2) = .ok n) :
    (∀ cbBuf, n ≤ cbBuf → clipWinTxtToUtf8 pwszSrc cbSrc cbBuf ≠ .error .verrBufferOverflow) ∧
      ∀ cbBuf pszBuf, clipWinTxtToUtf8 pwszSrc cbSrc cbBuf = .ok pszBuf → pszBuf.length ≤ n := by
  rw [clipWinTxtBufSizeForUtf8_eq] at hsize
  cases htext : utf16Decode (untilNul (pwszSrc.take (cbSrc / 2))) with
  | none => simp [htext] at hsize
  | some cs =>
    obtain rfl : (utf8Encode cs).length + 1 = n := by simpa [htext] using hsize
    have hle := (utf8Encode_sublist (linChars_sublist pwszSrc cs)).length_le
    refine ⟨fun cbBuf hn => ?_, fun cbBuf pszBuf h => ?_⟩
    · rw [clipWinTxtToUtf8_of_decode htext]
      split_ifs <;> simp
      omega
    · rw [clipWinTxtToUtf8_of_decode htext] at h
      split_ifs at h
      cases h
      simp only [List.length_append, List.length_singleton]
      omega

/-- Over every host buffer whose size `clipWinTxtBufSizeForUtf8` gives as `n`, `clipWinTxtToUtf8`
does not overflow a buffer of `n` bytes or more, and what it writes, terminator included and
counted in `*pcbActual`, is at most `n` bytes in any buffer: also in the `n + 1` bytes that
`clipWinTxtToCTextForX11CB` passes for its `n`-byte allocation. So `clipWinTxtToUtf8ForX11CB`
never fails with `VERR_BUFFER_OVERFLOW`. -/
theorem clipWinTxtToUtf8_within_size :
    (∀ (pwszSrc : List UInt16) (cbSrc n : Nat), clipWinTxtBufSizeForUtf8 pwszSrc (cbSrc / 2) = .ok n →
      (∀ cbBuf, n ≤ cbBuf → clipWinTxtToUtf8 pwszSrc cbSrc cbBuf ≠ .error .verrBufferOverflow) ∧
      ∀ cbBuf pszBuf, clipWinTxtToUtf8 pwszSrc cbSrc cbBuf = .ok pszBuf → pszBuf.length ≤ n) ∧
    ∀ (pwszSrc : List UInt16) (cbSrc : Nat) (atomTarget : Atom),
      clipWinTxtToUtf8ForX11CB pwszSrc cbSrc atomTarget ≠ .error .verrBufferOverflow := by
  refine ⟨fun _ _ _ => clipWinTxtToUtf8_fits, fun pwszSrc cbSrc atomTarget h => ?_⟩
  simp only [clipWinTxtToUtf8ForX11CB, bind, Except.bind] at h
  cases hsize : clipWinTxtBufSizeForUtf8 pwszSrc (cbSrc / 2) with
  | error e =>
    rw [hsize] at h
    rw [clipWinTxtBufSizeForUtf8_eq] at hsize
    split at hsize <;> simp_all
  | ok n =>
    rw [hsize] at h
    cases hbuf : clipWinTxtToUtf8 pwszSrc cbSrc n with
    | error e => exact (clipWinTxtToUtf8_fits hsize).1 n le_rfl (by simp_all)
    | ok pszBuf => simp [hbuf, pure, Except.pure] at h

theorem clipWinTxtToUtf8_within_size_tight :
    clipWinTxtBufSizeForUtf8 [0xE9] (2 / 2) = .ok 3 ∧ clipWinTxtToUtf8 [0xE9] 2 3 ≠ .error .verrBufferOverflow :=
  have hsize : clipWinTxtBufSizeForUtf8 [0xE9] (2 / 2) = .ok 3 := rfl
  ⟨hsize, (clipWinTxtToUtf8_within_size.1 [0xE9] 2 3 hsize).1 3 le_rfl⟩

/-! ## Targets -/

/-- The do-while loop of `clipCreateX11Targets` after `format`: the atoms of the formats
`clipEnumX11Formats` yields. Each yield is a larger index, so `maxClipX11Formats` rounds
are enough. -/
def clipEnumTargets (u32VBoxFormats : Nat) : Nat → Nat → List Atom
  | 0, _ => []
  | fuel + 1, format =>
    let next := clipEnumX11Formats u32VBoxFormats format
    if next = nilClipX11Format then []
    else clipAtomForX11Format next :: clipEnumTargets u32VBoxFormats fuel next

/-- `clipCreateX11Targets`: the formats the host offers, then the three always offered.
`XA_ATOM` is the predefined atom `ATOM`. -/
def clipCreateX11Targets (vboxFormats : Nat) : SelectionValue :=
  let atomTargets := clipEnumTargets vboxFormats maxClipX11Formats nilClipX11Format ++
    [clipGetAtom "TARGETS", clipGetAtom "MULTIPLE", clipGetAtom "TIMESTAMP"]
  ⟨clipGetAtom "ATOM", .atoms atomTargets, atomTargets.length, 32⟩

example : clipCreateX11Targets vboxSharedClipboardFmtUnicodeText =
    ⟨clipGetAtom "ATOM", .atoms (["UTF8_STRING", "text/plain;charset=UTF-8",
      "text/plain;charset=utf-8", "STRING", "TEXT", "text/plain", "COMPOUND_TEXT", "TARGETS",
      "MULTIPLE", "TIMESTAMP"].map clipGetAtom), 10, 32⟩ := by
  decide

/-! ## The host-data cache and the selection callback -/

/-- What the frontend's `ClipRequestDataForX11` does if it is called: its status, and the
buffer it leaves in `*ppv`, whose length it writes to `*pcb` (`none` leaves NULL). -/
structure FrontendReply where
  rc : Status
  pv : Option (List UInt8)
  deriving DecidableEq, Repr

/-- `clipReadVBoxClipboard` over the cache `pvUnicodeCache`: the copy it hands back, the
cache after, and the reply of the frontend if it was asked. For Unicode text the frontend
is asked only when the cache is empty, and it writes the cache through its out parameters
whatever status it returns. A NULL cache is copied as no bytes. -/
def clipReadVBoxClipboard (pvUnicodeCache : Option (List UInt8)) (u32Format : Nat)
    (reply : FrontendReply) :
    Except Status (List UInt8) × Option (List UInt8) × Option FrontendReply :=
  if u32Format = vboxSharedClipboardFmtUnicodeText then
    let (rc, cache, asked) := match pvUnicodeCache with
      | none => (reply.rc, reply.pv, some reply)
      | some pv => (Status.vinfSuccess, some pv, none)
    (if rc.isSuccess then .ok (cache.getD []) else .error rc, cache, asked)
  else
    (if reply.rc.isSuccess then .ok (reply.pv.getD []) else .error reply.rc, pvUnicodeCache,
      some reply)

/-- `clipConvertVBoxCBForX11`: the value for a text target, the cache after, and the reply of
the frontend if it was asked. -/
def clipConvertVBoxCBForX11 (xlib : Xlib) (vboxFormats : Nat) (pvUnicodeCache : Option (List UInt8))
    (atomTarget : Atom) (reply : FrontendReply) :
    Except Status SelectionValue × Option (List UInt8) × Option FrontendReply :=
  let format := clipRealFormatForX11Format (clipFindX11FormatByAtom atomTarget)
  if (format = .utf8 ∨ format = .ctext ∨ format = .text) ∧
      vboxFormats &&& vboxSharedClipboardFmtUnicodeText ≠ 0 then
    let (read, cache, asked) :=
      clipReadVBoxClipboard pvUnicodeCache vboxSharedClipboardFmtUnicodeText reply
    (match read with
      | .error rc => .error rc
      | .ok pv =>
        if pv.length = 0 then .error .verrNoData
        else clipTrimTrailingNul <$>
          if format = .utf8 ∨ format = .text then
            clipWinTxtToUtf8ForX11CB (unitsOfBytes pv) pv.length atomTarget
          else clipWinTxtToCTextForX11CB xlib (unitsOfBytes pv) pv.length,
      cache, asked)
  else (.error .verrNotSupported, pvUnicodeCache, none)

theorem clipTrimTrailingNul_terminated (atomType : Atom) (u : List UInt8) (format : Nat) :
    clipTrimTrailingNul ⟨atomType, .bytes (u ++ [0]), u.length + 1, format⟩ =
      ⟨atomType, .bytes (u ++ [0]), u.length, format⟩ := by
  simp [clipTrimTrailingNul]

theorem clipConvertVBoxCBForX11_of_decode (xlib : Xlib) {vboxFormats : Nat}
    {pvUnicodeCache : Option (List UInt8)} {atomTarget : Atom} {reply : FrontendReply} {pv : List UInt8}
    {cs : List Char}
    (hformat : clipRealFormatForX11Format (clipFindX11FormatByAtom atomTarget) = .utf8 ∨
      clipRealFormatForX11Format (clipFindX11FormatByAtom atomTarget) = .text)
    (hfmt : vboxFormats &&& vboxSharedClipboardFmtUnicodeText ≠ 0)
    (hread : (clipReadVBoxClipboard pvUnicodeCache vboxSharedClipboardFmtUnicodeText reply).1 = .ok pv)
    (htext : utf16Decode (untilNul ((unitsOfBytes pv).take (pv.length / 2))) = some cs)
    (hcw : pv.length / 2 ≠ 0) (hbe : (unitsOfBytes pv).head? ≠ some utf16BeMarker) :
    (clipConvertVBoxCBForX11 xlib vboxFormats pvUnicodeCache atomTarget reply).1 =
      .ok ⟨atomTarget, .bytes (utf8Encode (linChars (unitsOfBytes pv) cs) ++ [0]),
        (utf8Encode (linChars (unitsOfBytes pv) cs)).length, 8⟩ := by
  have hlen : pv.length ≠ 0 := fun h => hcw (by rw [h])
  rcases hformat with h | h <;>
    simp [clipConvertVBoxCBForX11, h, hfmt, hread, hlen, clipWinTxtToUtf8ForX11CB_eq_linChars htext hcw hbe,
      clipTrimTrailingNul_terminated]

theorem clipConvertVBoxCBForX11_ctext_of_decode (xlib : Xlib) {vboxFormats : Nat}
    {pvUnicodeCache : Option (List UInt8)} {reply : FrontendReply} {pv : List UInt8} {cs : List Char}
    {xrc : Int} {property : TextProperty}
    (hfmt : vboxFormats &&& vboxSharedClipboardFmtUnicodeText ≠ 0)
    (hread : (clipReadVBoxClipboard pvUnicodeCache vboxSharedClipboardFmtUnicodeText reply).1 = .ok pv)
    (htext : utf16Decode (untilNul ((unitsOfBytes pv).take (pv.length / 2))) = some cs)
    (hcw : pv.length / 2 ≠ 0) (hbe : (unitsOfBytes pv).head? ≠ some utf16BeMarker)
    (hx : xlib.xmbTextListToTextProperty (utf8Encode (linChars (unitsOfBytes pv) cs)) = (xrc, property))
    (hxrc : 0 ≤ xrc) :
    (clipConvertVBoxCBForX11 xlib vboxFormats pvUnicodeCache (clipGetAtom "COMPOUND_TEXT") reply).1 =
      .ok (clipTrimTrailingNul ⟨property.encoding, .bytes property.value, property.nitems + 1, property.format⟩) := by
  have hct : clipRealFormatForX11Format (clipFindX11FormatByAtom (clipGetAtom "COMPOUND_TEXT")) = .ctext := by
    decide
  have hlen : pv.length ≠ 0 := fun h => hcw (by rw [h])
  simp [clipConvertVBoxCBForX11, hct, hfmt, hread, hlen, clipWinTxtToCTextForX11CB_of_decode htext hcw hbe hx hxrc]

theorem clipConvertVBoxCBForX11_utf8 (xlib : Xlib) {vboxFormats : Nat}
    {pvUnicodeCache : Option (List UInt8)} {reply : FrontendReply} {pv : List UInt8} {cs : List Char}
    (hfmt : vboxFormats &&& vboxSharedClipboardFmtUnicodeText ≠ 0)
    (hread : (clipReadVBoxClipboard pvUnicodeCache vboxSharedClipboardFmtUnicodeText reply).1 = .ok pv)
    (htext : utf16Decode (untilNul ((unitsOfBytes pv).take (pv.length / 2))) = some cs)
    (hcw : pv.length / 2 ≠ 0) (hle : (unitsOfBytes pv).head? ≠ some utf16LeMarker)
    (hbe : (unitsOfBytes pv).head? ≠ some utf16BeMarker) :
    (clipConvertVBoxCBForX11 xlib vboxFormats pvUnicodeCache (clipGetAtom "UTF8_STRING") reply).1 =
      .ok ⟨clipGetAtom "UTF8_STRING", .bytes (utf8Encode (crlfToLf crChar lfChar cs) ++ [0]),
        (utf8Encode (crlfToLf crChar lfChar cs)).length, 8⟩ := by
  rw [clipConvertVBoxCBForX11_of_decode xlib (.inl (by decide)) hfmt hread htext hcw hbe, linChars,
    if_neg hle]
  rfl

def clipIsSupportedSelectionType (selType : Atom) : Bool :=
  selType = clipGetAtom "CLIPBOARD" ∨ selType = clipGetAtom "PRIMARY"

/-- `clipXtConvertSelectionProc` for the registered context: the value, `none` for `False`,
the cache after, and the reply of the frontend if it was asked. -/
def clipXtConvertSelectionProc (xlib : Xlib) (vboxFormats : Nat)
    (pvUnicodeCache : Option (List UInt8)) (atomSelection atomTarget : Atom) (reply : FrontendReply) :
    Option SelectionValue × Option (List UInt8) × Option FrontendReply :=
  if !clipIsSupportedSelectionType atomSelection then (none, pvUnicodeCache, none)
  else if atomTarget = clipGetAtom "TARGETS" then
    (some (clipCreateX11Targets vboxFormats), pvUnicodeCache, none)
  else
    let (rc, cache, asked) := clipConvertVBoxCBForX11 xlib vboxFormats pvUnicodeCache atomTarget reply
    (rc.toOption, cache, asked)

/-- Over every host buffer of two bytes or more whose units before the first NUL are valid
UTF-16 `s` starting with neither U+FEFF nor U+FFFE, and every UTF-8 or Latin-1 target: the
conversion succeeds with the requested type, format 8, and exactly the UTF-8 of `s` with
CR LF folded, no NUL counted. -/
theorem utf8_reply_of_host_text (xlib : Xlib) {vboxFormats : Nat} {pvUnicodeCache : Option (List UInt8)}
    {reply : FrontendReply} {pv : List UInt8} {cs : List Char} {atomSelection atomTarget : Atom}
    (hcb : 2 ≤ pv.length) (htext : utf16Decode (untilNul (unitsOfBytes pv)) = some cs)
    (hle : (untilNul (unitsOfBytes pv)).head? ≠ some utf16LeMarker)
    (hbe : (untilNul (unitsOfBytes pv)).head? ≠ some utf16BeMarker)
    (htarget : atomTarget ∈ ["UTF8_STRING", "text/plain;charset=UTF-8", "text/plain;charset=utf-8",
      "STRING", "TEXT", "text/plain"].map clipGetAtom)
    (hsel : clipIsSupportedSelectionType atomSelection)
    (hfmt : vboxFormats &&& vboxSharedClipboardFmtUnicodeText ≠ 0)
    (hread : (clipReadVBoxClipboard pvUnicodeCache vboxSharedClipboardFmtUnicodeText reply).1 = .ok pv) :
    ∃ v, (clipXtConvertSelectionProc xlib vboxFormats pvUnicodeCache atomSelection atomTarget reply).1 =
        some v ∧ v.atomType = atomTarget ∧ v.format = 8 ∧
      v.cLen = (utf8Encode (crlfToLf crChar lfChar cs)).length ∧
      v.received = utf8Encode (crlfToLf crChar lfChar cs) ∧ (0 : UInt8) ∉ v.received := by
  have hcw : pv.length / 2 ≠ 0 := by omega
  have htake : (unitsOfBytes pv).take (pv.length / 2) = unitsOfBytes pv :=
    List.take_of_length_le (length_unitsOfBytes pv).le
  have hhead : ∀ m : UInt16, m ≠ 0 → (untilNul (unitsOfBytes pv)).head? ≠ some m →
      (unitsOfBytes pv).head? ≠ some m := fun m hm h h' =>
    h (by rw [← htake]; exact (head?_untilNul_take hcw hm).2 h')
  have hformat : (clipRealFormatForX11Format (clipFindX11FormatByAtom atomTarget) = .utf8 ∨
      clipRealFormatForX11Format (clipFindX11FormatByAtom atomTarget) = .text) ∧
      atomTarget ≠ clipGetAtom "TARGETS" := by
    simp only [List.map_cons, List.map_nil, List.mem_cons, List.not_mem_nil, or_false] at htarget
    rcases htarget with rfl | rfl | rfl | rfl | rfl | rfl <;> decide
  have hv := clipConvertVBoxCBForX11_of_decode xlib hformat.1 hfmt hread (by rwa [htake]) hcw
    (hhead _ (by decide) hbe)
  rw [linChars, if_neg (hhead _ (by decide) hle), List.drop_zero] at hv
  have hnul : (0 : UInt8) ∉ utf8Encode (crlfToLf crChar lfChar cs) := fun h => by
    obtain ⟨c, hc, hc0⟩ := zero_mem_utf8Encode.1 h
    exact zero_not_mem_untilNul _ (utf16Encode_of_decode htext ▸
      zero_mem_utf16Encode.2 ⟨c, (crlfToLf_sublist _ _ _).subset hc, hc0⟩)
  refine ⟨⟨atomTarget, .bytes (utf8Encode (crlfToLf crChar lfChar cs) ++ [0]),
    (utf8Encode (crlfToLf crChar lfChar cs)).length, 8⟩, ?_, rfl, rfl, rfl, ?_, ?_⟩
  · simp [clipXtConvertSelectionProc, hsel, hformat.2, hv, Except.toOption]
  · simp [SelectionValue.received]
  · simpa [SelectionValue.received] using hnul

theorem utf8_reply_of_host_text_on_string :
    ∃ v, (clipXtConvertSelectionProc emptyXlib vboxSharedClipboardFmtUnicodeText none
        (clipGetAtom "CLIPBOARD") (clipGetAtom "STRING") ⟨.vinfSuccess, some (bytesOfUnits [0x61])⟩).1 =
        some v ∧ v.atomType = clipGetAtom "STRING" ∧ v.format = 8 ∧
      v.cLen = (utf8Encode (crlfToLf crChar lfChar ['a'])).length ∧
      v.received = utf8Encode (crlfToLf crChar lfChar ['a']) ∧ (0 : UInt8) ∉ v.received :=
  utf8_reply_of_host_text emptyXlib (by decide) (by rfl) (by decide) (by decide) (by decide) rfl (by decide) rfl

theorem clipReadVBoxClipboard_cache (pvUnicodeCache : Option (List UInt8)) (reply : FrontendReply) :
    (clipReadVBoxClipboard pvUnicodeCache vboxSharedClipboardFmtUnicodeText reply).2 =
        (pvUnicodeCache, none) ∨
      pvUnicodeCache = none ∧
        (clipReadVBoxClipboard pvUnicodeCache vboxSharedClipboardFmtUnicodeText reply).2 =
          (reply.pv, some reply) := by
  cases pvUnicodeCache <;> simp [clipReadVBoxClipboard]

theorem clipXtConvertSelectionProc_cache (xlib : Xlib) (vboxFormats : Nat)
    (pvUnicodeCache : Option (List UInt8)) (atomSelection atomTarget : Atom) (reply : FrontendReply) :
    (clipXtConvertSelectionProc xlib vboxFormats pvUnicodeCache atomSelection atomTarget reply).2 =
        (pvUnicodeCache, none) ∨
      pvUnicodeCache = none ∧ (clipXtConvertSelectionProc xlib vboxFormats pvUnicodeCache
        atomSelection atomTarget reply).2 = (reply.pv, some reply) := by
  rcases clipReadVBoxClipboard_cache pvUnicodeCache reply with h | ⟨rfl, h⟩ <;>
    simp only [clipXtConvertSelectionProc, clipConvertVBoxCBForX11] <;> split_ifs <;> simp [h]

theorem clipXtConvertSelectionProc_asked {xlib : Xlib} {vboxFormats : Nat}
    {pvUnicodeCache : Option (List UInt8)} {atomSelection atomTarget : Atom} {reply r : FrontendReply}
    (h : (clipXtConvertSelectionProc xlib vboxFormats pvUnicodeCache atomSelection atomTarget reply).2.2 =
      some r) : vboxFormats &&& vboxSharedClipboardFmtUnicodeText ≠ 0 := by
  simp only [clipXtConvertSelectionProc, clipConvertVBoxCBForX11] at h
  split_ifs at h with h1 h2 h3 <;> simp_all

end X11Clipboard.ToX11
