import X11Clipboard.ToX11

/-! The out parameters of `clipXtConvertSelectionProc`: `*atomTypeReturn`, `*pValReturn`,
`*pcLenReturn` and `*piFormatReturn` as the caller passed them and as the call leaves them.
The value model of `ToX11` is what this one stores on success. On failure the UTF-8 path
leaves the outputs alone, while the compound-text path stores its local `XTextProperty`
whatever happened, also when nothing ever wrote it. -/
namespace X11Clipboard.Outputs

open Formats Unicode LineEndings ToX11

/-! ## Failure codes -/

/-- Every status a conversion fails with is a failure for `RT_SUCCESS`. -/
def ErrorsFail {α : Type} (e : Except Status α) : Prop := ∀ rc, e = .error rc → rc.isSuccess = false

/-- The status a conversion returns through its result code. -/
def statusOf {α : Type} : Except Status α → Status
  | .ok _ => .vinfSuccess
  | .error rc => rc

theorem ErrorsFail.bind {α β : Type} {x : Except Status α} {f : α → Except Status β}
    (hx : ErrorsFail x) (hf : ∀ a, ErrorsFail (f a)) : ErrorsFail (x >>= f) := by
  intro rc h
  cases x with
  | error e => injection h with h; subst h; exact hx _ rfl
  | ok a => exact hf a rc h

theorem ErrorsFail.map {α β : Type} {x : Except Status α} (f : α → β) (hx : ErrorsFail x) :
    ErrorsFail (f <$> x) := by
  intro rc h
  cases x with
  | error e => exact hx rc (by simpa [Functor.map, Except.map] using h)
  | ok a => cases h

theorem ErrorsFail.isSuccess_statusOf {α : Type} {x : Except Status α} (h : ErrorsFail x) :
    (statusOf x).isSuccess = x.toOption.isSome := by
  cases x with
  | ok a => rfl
  | error e => exact h e rfl

theorem errorsFail_rtUtf16ToUtf8Ex (pwsz : List UInt16) (cwc cch : Nat) :
    ErrorsFail (rtUtf16ToUtf8Ex pwsz cwc cch) := by
  intro rc h
  unfold rtUtf16ToUtf8Ex at h
  split at h <;> (try split_ifs at h) <;> cases h <;> rfl

theorem errorsFail_vboxClipboardUtf16WinToLin (pwszSrc : List UInt16) (cwSrc cwDest : Nat) :
    ErrorsFail (vboxClipboardUtf16WinToLin pwszSrc cwSrc cwDest) := by
  intro rc h
  unfold vboxClipboardUtf16WinToLin at h
  split_ifs at h <;> cases h <;> rfl

theorem errorsFail_clipWinTxtBufSizeForUtf8 (pwsz : List UInt16) (cwc : Nat) :
    ErrorsFail (clipWinTxtBufSizeForUtf8 pwsz cwc) := by
  intro rc h
  rw [clipWinTxtBufSizeForUtf8_eq] at h
  split at h <;> cases h
  rfl

theorem errorsFail_clipWinTxtToUtf8 (pwszSrc : List UInt16) (cbSrc cbBuf : Nat) :
    ErrorsFail (clipWinTxtToUtf8 pwszSrc cbSrc cbBuf) := by
  unfold clipWinTxtToUtf8
  split
  · split_ifs
    · intro rc h; cases h; rfl
    · exact (errorsFail_vboxClipboardUtf16WinToLin _ _ _).bind fun _ =>
        (errorsFail_rtUtf16ToUtf8Ex _ _ _).bind fun _ _ h => by cases h
  · intro rc h; cases h; rfl

theorem errorsFail_clipWinTxtToUtf8ForX11CB (pwszSrc : List UInt16) (cbSrc : Nat) (atomTarget : Atom) :
    ErrorsFail (clipWinTxtToUtf8ForX11CB pwszSrc cbSrc atomTarget) :=
  (errorsFail_clipWinTxtBufSizeForUtf8 _ _).bind fun _ =>
    (errorsFail_clipWinTxtToUtf8 _ _ _).bind fun _ _ h => by cases h

theorem errorsFail_clipWinTxtToCTextForX11CB (xlib : Xlib) (pwszSrc : List UInt16) (cbSrc : Nat) :
    ErrorsFail (clipWinTxtToCTextForX11CB xlib pwszSrc cbSrc) :=
  (errorsFail_clipWinTxtBufSizeForUtf8 _ _).bind fun _ =>
    (errorsFail_clipWinTxtToUtf8 _ _ _).bind fun pszTmp rc h => by
      generalize xlib.xmbTextListToTextProperty (untilNul pszTmp) = p at h
      obtain ⟨xrc, property⟩ := p
      dsimp only at h
      split_ifs at h
      · cases h; exact xlibStatus_not_success _
      · cases h

theorem errorsFail_clipReadVBoxClipboard (pvUnicodeCache : Option (List UInt8)) (reply : FrontendReply) :
    ErrorsFail (clipReadVBoxClipboard pvUnicodeCache vboxSharedClipboardFmtUnicodeText reply).1 := by
  intro rc h
  cases pvUnicodeCache <;> simp only [clipReadVBoxClipboard, if_true] at h <;> split_ifs at h with hs <;>
    cases h <;> simpa using hs

theorem errorsFail_clipConvertVBoxCBForX11 (xlib : Xlib) (vboxFormats : Nat)
    (pvUnicodeCache : Option (List UInt8)) (atomTarget : Atom) (reply : FrontendReply) :
    ErrorsFail (clipConvertVBoxCBForX11 xlib vboxFormats pvUnicodeCache atomTarget reply).1 := by
  have hread := errorsFail_clipReadVBoxClipboard pvUnicodeCache reply
  intro rc h
  unfold clipConvertVBoxCBForX11 at h
  dsimp only at h
  split at h
  · generalize clipReadVBoxClipboard pvUnicodeCache vboxSharedClipboardFmtUnicodeText reply = r at hread h
    obtain ⟨read, cache, asked⟩ := r
    cases read with
    | error e => injection h with h; subst h; exact hread _ rfl
    | ok pv =>
      dsimp only at h
      split_ifs at h
      · cases h; rfl
      · exact (errorsFail_clipWinTxtToUtf8ForX11CB _ _ _).map _ rc h
      · exact (errorsFail_clipWinTxtToCTextForX11CB _ _ _).map _ rc h
  · cases h; rfl

/-! ## The outputs -/

/-- The four outputs `clipWinTxtToCTextForX11CB` stores from an `XTextProperty`. -/
def propertyOutputs (property : TextProperty) : SelectionValue :=
  ⟨property.encoding, .bytes property.value, property.nitems + 1, property.format⟩

/-- The local `property` of `clipWinTxtToCTextForX11CB` when the outputs are stored: what
`XmbTextListToTextProperty` wrote, or, when the conversion stopped before calling it,
`property0`, whatever the stack held. -/
def ctextProperty (xlib : Xlib) (pwszSrc : List UInt16) (cbSrc : Nat) (property0 : TextProperty) :
    TextProperty :=
  match clipWinTxtBufSizeForUtf8 pwszSrc (cbSrc / 2) >>= fun cbTmp =>
      clipWinTxtToUtf8 pwszSrc cbSrc (cbTmp + 1) with
  | .ok pszTmp => (xlib.xmbTextListToTextProperty (untilNul pszTmp)).2
  | .error _ => property0

/-- `clipWinTxtToUtf8ForX11CB` with the caller's outputs: stored only on success. -/
def clipWinTxtToUtf8ForX11CBOut (pwszSrc : List UInt16) (cbSrc : Nat) (atomTarget : Atom)
    (out : SelectionValue) : Status × SelectionValue :=
  match clipWinTxtToUtf8ForX11CB pwszSrc cbSrc atomTarget with
  | .ok v => (.vinfSuccess, v)
  | .error rc => (rc, out)

/-- `clipWinTxtToCTextForX11CB` with its outputs, stored from `property` whatever the status. -/
def clipWinTxtToCTextForX11CBOut (xlib : Xlib) (pwszSrc : List UInt16) (cbSrc : Nat)
    (property0 : TextProperty) : Status × SelectionValue :=
  (statusOf (clipWinTxtToCTextForX11CB xlib pwszSrc cbSrc),
    propertyOutputs (ctextProperty xlib pwszSrc cbSrc property0))

/-- `clipConvertVBoxCBForX11` with the caller's outputs `out`: the status, the outputs as it
leaves them, the cache after and the frontend's reply if it was asked. The trim runs on
success only. -/
def clipConvertVBoxCBForX11Out (xlib : Xlib) (vboxFormats : Nat) (pvUnicodeCache : Option (List UInt8))
    (atomTarget : Atom) (reply : FrontendReply) (property0 : TextProperty) (out : SelectionValue) :
    Status × SelectionValue × Option (List UInt8) × Option FrontendReply :=
  let format := clipRealFormatForX11Format (clipFindX11FormatByAtom atomTarget)
  if (format = .utf8 ∨ format = .ctext ∨ format = .text) ∧
      vboxFormats &&& vboxSharedClipboardFmtUnicodeText ≠ 0 then
    let (read, cache, asked) :=
      clipReadVBoxClipboard pvUnicodeCache vboxSharedClipboardFmtUnicodeText reply
    let (rc, out) : Status × SelectionValue := match read with
      | .error rc => (rc, out)
      | .ok pv =>
        if pv.length = 0 then (.verrNoData, out)
        else if format = .utf8 ∨ format = .text then
          clipWinTxtToUtf8ForX11CBOut (unitsOfBytes pv) pv.length atomTarget out
        else clipWinTxtToCTextForX11CBOut xlib (unitsOfBytes pv) pv.length property0
    (rc, if rc.isSuccess then clipTrimTrailingNul out else out, cache, asked)
  else (.verrNotSupported, out, pvUnicodeCache, none)

/-- `clipXtConvertSelectionProc` for the registered context, with the caller's outputs: its
`Boolean`, the outputs as it leaves them, the cache after and the frontend's reply if asked. -/
def clipXtConvertSelectionProcOut (xlib : Xlib) (vboxFormats : Nat)
    (pvUnicodeCache : Option (List UInt8)) (atomSelection atomTarget : Atom) (reply : FrontendReply)
    (property0 : TextProperty) (out : SelectionValue) :
    Bool × SelectionValue × Option (List UInt8) × Option FrontendReply :=
  if !clipIsSupportedSelectionType atomSelection then (false, out, pvUnicodeCache, none)
  else if atomTarget = clipGetAtom "TARGETS" then
    (true, clipCreateX11Targets vboxFormats, pvUnicodeCache, none)
  else
    let (rc, out, cache, asked) :=
      clipConvertVBoxCBForX11Out xlib vboxFormats pvUnicodeCache atomTarget reply property0 out
    (rc.isSuccess, out, cache, asked)

/-! ## Against the value model -/

theorem propertyOutputs_ctextProperty {xlib : Xlib} {pwszSrc : List UInt16} {cbSrc : Nat}
    {v : SelectionValue} (property0 : TextProperty) (h : clipWinTxtToCTextForX11CB xlib pwszSrc cbSrc = .ok v) :
    propertyOutputs (ctextProperty xlib pwszSrc cbSrc property0) = v := by
  unfold clipWinTxtToCTextForX11CB at h
  unfold ctextProperty
  cases hs : clipWinTxtBufSizeForUtf8 pwszSrc (cbSrc / 2) with
  | error e => simp [hs, bind, Except.bind] at h
  | ok cbTmp =>
    cases hu : clipWinTxtToUtf8 pwszSrc cbSrc (cbTmp + 1) with
    | error e => simp [hs, hu, bind, Except.bind] at h
    | ok pszTmp =>
      simp only [hs, hu, bind, Except.bind] at h ⊢
      split_ifs at h
      cases h
      rfl

theorem clipConvertVBoxCBForX11Out_refines (xlib : Xlib) (vboxFormats : Nat)
    (pvUnicodeCache : Option (List UInt8)) (atomTarget : Atom) (reply : FrontendReply)
    (property0 : TextProperty) (out : SelectionValue) :
    let r := clipConvertVBoxCBForX11Out xlib vboxFormats pvUnicodeCache atomTarget reply property0 out
    let a := clipConvertVBoxCBForX11 xlib vboxFormats pvUnicodeCache atomTarget reply
    r.1 = statusOf a.1 ∧ (∀ v, a.1 = .ok v → r.2.1 = v) ∧ r.2.2 = a.2 := by
  unfold clipConvertVBoxCBForX11Out clipConvertVBoxCBForX11
  dsimp only
  split
  · generalize clipReadVBoxClipboard pvUnicodeCache vboxSharedClipboardFmtUnicodeText reply = r
    obtain ⟨read, cache, asked⟩ := r
    cases read with
    | error e => simp [statusOf]
    | ok pv =>
      by_cases h0 : pv.length = 0
      · simp [h0, statusOf]
      by_cases hfmt : clipRealFormatForX11Format (clipFindX11FormatByAtom atomTarget) = .utf8 ∨
          clipRealFormatForX11Format (clipFindX11FormatByAtom atomTarget) = .text
      · cases hv : clipWinTxtToUtf8ForX11CB (unitsOfBytes pv) pv.length atomTarget <;>
          simp [h0, hfmt, clipWinTxtToUtf8ForX11CBOut, hv, statusOf, Status.isSuccess]
      · cases hc : clipWinTxtToCTextForX11CB xlib (unitsOfBytes pv) pv.length with
        | error e => simp [h0, hfmt, clipWinTxtToCTextForX11CBOut, hc, statusOf]
        | ok v =>
          simp [h0, hfmt, clipWinTxtToCTextForX11CBOut, hc, statusOf, Status.isSuccess,
            propertyOutputs_ctextProperty property0 hc]
  · simp [statusOf]

/-- The out-parameter model refines the value model: `True` exactly when that returns a value,
then with that value in the outputs, the cache and the frontend's reply alike. -/
theorem clipXtConvertSelectionProcOut_refines (xlib : Xlib) (vboxFormats : Nat)
    (pvUnicodeCache : Option (List UInt8)) (atomSelection atomTarget : Atom) (reply : FrontendReply)
    (property0 : TextProperty) (out : SelectionValue) :
    let r := clipXtConvertSelectionProcOut xlib vboxFormats pvUnicodeCache atomSelection atomTarget reply
      property0 out
    let a := clipXtConvertSelectionProc xlib vboxFormats pvUnicodeCache atomSelection atomTarget reply
    r.1 = a.1.isSome ∧ (∀ v, a.1 = some v → r.2.1 = v) ∧ r.2.2 = a.2 := by
  unfold clipXtConvertSelectionProcOut clipXtConvertSelectionProc
  split_ifs
  · exact ⟨rfl, by simp, rfl⟩
  · exact ⟨rfl, by simp, rfl⟩
  · have href := clipConvertVBoxCBForX11Out_refines xlib vboxFormats pvUnicodeCache atomTarget reply
      property0 out
    have hfail := errorsFail_clipConvertVBoxCBForX11 xlib vboxFormats pvUnicodeCache atomTarget reply
    revert href hfail
    generalize clipConvertVBoxCBForX11Out xlib vboxFormats pvUnicodeCache atomTarget reply property0 out = r
    generalize clipConvertVBoxCBForX11 xlib vboxFormats pvUnicodeCache atomTarget reply = a
    obtain ⟨rc, out', cache, asked⟩ := r
    obtain ⟨res, cache', asked'⟩ := a
    dsimp only
    rintro ⟨rfl, hv, hrest⟩ hfail
    refine ⟨hfail.isSuccess_statusOf, fun v h => hv v ?_, hrest⟩
    cases res <;> simp_all [Except.toOption]

/-- A `COMPOUND_TEXT` request for host text holding an unpaired surrogate: the size estimate
fails, nothing writes `property`, and the callback returns `False` with the four outputs taken
from whatever the stack held, for every such content and every caller's outputs; so a caller
whose length was 0 sees it changed. -/
theorem ctext_failure_overwrites_outputs (property0 : TextProperty) (out : SelectionValue) :
    (clipXtConvertSelectionProcOut emptyXlib vboxSharedClipboardFmtUnicodeText none (clipGetAtom "CLIPBOARD")
        (clipGetAtom "COMPOUND_TEXT") ⟨.vinfSuccess, some (bytesOfUnits [0xD800])⟩ property0 out).1 = false ∧
      (clipXtConvertSelectionProcOut emptyXlib vboxSharedClipboardFmtUnicodeText none (clipGetAtom "CLIPBOARD")
        (clipGetAtom "COMPOUND_TEXT") ⟨.vinfSuccess, some (bytesOfUnits [0xD800])⟩ property0 out).2.1 =
          propertyOutputs property0 ∧
      (out.cLen = 0 → (clipXtConvertSelectionProcOut emptyXlib vboxSharedClipboardFmtUnicodeText none
        (clipGetAtom "CLIPBOARD") (clipGetAtom "COMPOUND_TEXT") ⟨.vinfSuccess, some (bytesOfUnits [0xD800])⟩
        property0 out).2.1 ≠ out) := by
  have hout : (clipXtConvertSelectionProcOut emptyXlib vboxSharedClipboardFmtUnicodeText none
      (clipGetAtom "CLIPBOARD") (clipGetAtom "COMPOUND_TEXT") ⟨.vinfSuccess, some (bytesOfUnits [0xD800])⟩
      property0 out).2.1 = propertyOutputs property0 := rfl
  refine ⟨rfl, hout, fun h0 heq => ?_⟩
  have := congrArg SelectionValue.cLen (hout.symm.trans heq)
  simp [propertyOutputs, h0] at this

end X11Clipboard.Outputs
