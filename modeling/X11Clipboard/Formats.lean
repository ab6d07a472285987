import Mathlib.Data.List.Basic

/-! The data model of the X11 shared-clipboard backend: IPRT status codes, X11 atoms,
and the table `g_aFormats` that maps X11 target names to clipboard formats. -/
namespace X11Clipboard.Formats

/-- The IPRT status codes the backend produces, and `other` for a code it only passes on
from the frontend. -/
inductive Status
  | vinfSuccess
  | verrInvalidParameter
  | verrInvalidPointer
  | verrNoMemory
  | verrNotImplemented
  | verrNotSupported
  | verrTimeout
  | verrTryAgain
  | verrNoData
  | verrBufferOverflow
  | verrWrongOrder
  | verrInternalError
  | verrOutOfResources
  | verrUnresolvedError
  | verrInvalidUtf8Encoding
  | verrInvalidUtf16Encoding
  | other (rc : Int)
  deriving DecidableEq, Repr

/-- `RT_SUCCESS`: informational codes are non-negative, errors negative. -/
def Status.isSuccess : Status → Bool
  | .vinfSuccess => true
  | .other rc => decide (0 ≤ rc)
  | _ => false

/-- An X11 atom. Interning is injective on names, so an atom is the name it was interned
from; `xtConvertFail` is the toolkit's `XT_CONVERT_FAIL`, which has no name. -/
inductive Atom
  | intern (name : String)
  | xtConvertFail
  deriving DecidableEq, Repr

/-- `clipGetAtom`: `XtConvertAndStore` from `XtRString` to `XtRAtom`. -/
def clipGetAtom (pszName : String) : Atom := .intern pszName

/-- `CLIPFORMAT`. `clipGetTextFormatFromTargets` compares these with `<` on their
enumerator values, so the declaration order is the preference order. -/
inductive ClipFormat
  | invalid
  | targets
  | text
  | ctext
  | utf8
  deriving DecidableEq, Repr

def ClipFormat.toNat : ClipFormat → Nat
  | .invalid => 0
  | .targets => 1
  | .text => 2
  | .ctext => 3
  | .utf8 => 4

theorem ClipFormat.toNat_injective : Function.Injective ClipFormat.toNat := by
  intro a b h
  cases a <;> cases b <;> first | rfl | cases h

/-- Modelled from the spec: the host's Unicode-text format bit,
`VBOX_SHARED_CLIPBOARD_FMT_UNICODETEXT`, declared in `VBoxClipboardSvc.h`, which is not in
this tree. Only its being a single non-zero bit matters here. -/
def vboxSharedClipboardFmtUnicodeText : Nat := 1

/-- An entry of `g_aFormats` (`_CLIPFORMATTABLE`). -/
structure ClipFormatTable where
  pcszAtom : String
  enmFormat : ClipFormat
  u32VBoxFormat : Nat

/-- `g_aFormats`. An index into it is a `CLIPX11FORMAT`. -/
def gAFormats : List ClipFormatTable :=
  [⟨"INVALID", .invalid, 0⟩,
   ⟨"UTF8_STRING", .utf8, vboxSharedClipboardFmtUnicodeText⟩,
   ⟨"text/plain;charset=UTF-8", .utf8, vboxSharedClipboardFmtUnicodeText⟩,
   ⟨"text/plain;charset=utf-8", .utf8, vboxSharedClipboardFmtUnicodeText⟩,
   ⟨"STRING", .text, vboxSharedClipboardFmtUnicodeText⟩,
   ⟨"TEXT", .text, vboxSharedClipboardFmtUnicodeText⟩,
   ⟨"text/plain", .text, vboxSharedClipboardFmtUnicodeText⟩,
   ⟨"COMPOUND_TEXT", .ctext, vboxSharedClipboardFmtUnicodeText⟩]

def nilClipX11Format : Nat := 0

def maxClipX11Formats : Nat := gAFormats.length

/-- `g_aFormats[format]`. Every index the backend stores comes from the loops below and is
in range; out of range this reads the `INVALID` entry. -/
def formatEntry (format : Nat) : ClipFormatTable :=
  gAFormats.getD format ⟨"INVALID", .invalid, 0⟩

def clipAtomForX11Format (format : Nat) : Atom :=
  clipGetAtom (formatEntry format).pcszAtom

def clipRealFormatForX11Format (format : Nat) : ClipFormat :=
  (formatEntry format).enmFormat

def clipVBoxFormatForX11Format (format : Nat) : Nat :=
  (formatEntry format).u32VBoxFormat

/-- The first table index whose atom is `atomFormat`, or `NIL_CLIPX11FORMAT`. -/
def clipFindX11FormatByAtom (atomFormat : Atom) : Nat :=
  ((List.range maxClipX11Formats).find? fun i =>
    clipAtomForX11Format i = atomFormat).getD nilClipX11Format

/-- The first index after `lastFormat` whose VBox format meets `u32VBoxFormats`. -/
def clipEnumX11Formats (u32VBoxFormats lastFormat : Nat) : Nat :=
  ((List.range maxClipX11Formats).find? fun i =>
    lastFormat < i ∧ u32VBoxFormats &&& clipVBoxFormatForX11Format i ≠ 0).getD nilClipX11Format

/-- One iteration of the loop of `clipGetTextFormatFromTargets`, on the pair
(`bestTextFormat`, `enmBestTextTarget`). -/
def bestTextStep (best : Nat × ClipFormat) (atom : Atom) : Nat × ClipFormat :=
  let format := clipFindX11FormatByAtom atom
  if format ≠ nilClipX11Format ∧
      clipVBoxFormatForX11Format format = vboxSharedClipboardFmtUnicodeText ∧
      best.2.toNat < (clipRealFormatForX11Format format).toNat then
    (format, clipRealFormatForX11Format format)
  else best

def clipGetTextFormatFromTargets (pTargets : List Atom) : Nat :=
  (pTargets.foldl bestTextStep (nilClipX11Format, .invalid)).1

/-! ## Xlib's compound-text conversions -/

structure TextProperty where
  value : List UInt8
  encoding : Atom
  format : Nat
  nitems : Nat

/-- The two Xlib text-property conversions the backend calls. Xlib is not in this tree: the
functions that call them take them as a parameter, and every result holds for any. -/
structure Xlib where
  /-- `XmbTextPropertyToTextList` on an 8-bit `COMPOUND_TEXT` property: its status and the
  first string of the list. -/
  xmbTextPropertyToTextList : List UInt8 → Int × List UInt8
  /-- `XmbTextListToTextProperty` on one string in `XCompoundTextStyle`: its status and the
  property it fills. -/
  xmbTextListToTextProperty : List UInt8 → Int × TextProperty

/-- `XNoMemory`, `XLocaleNotSupported` and `XConverterNotFound` of `Xlib.h`. -/
def xNoMemory : Int := -1
def xLocaleNotSupported : Int := -2
def xConverterNotFound : Int := -3

/-- The status both compound-text conversions give for a negative Xlib result. -/
def xlibStatus (xrc : Int) : Status :=
  if xrc = xNoMemory then .verrNoMemory
  else if xrc = xLocaleNotSupported then .verrNotSupported
  else if xrc = xConverterNotFound then .verrNotSupported
  else .verrUnresolvedError

theorem xlibStatus_not_success (xrc : Int) : (xlibStatus xrc).isSuccess = false := by
  unfold xlibStatus; split_ifs <;> rfl

/-- An Xlib whose compound-text conversions give nothing, for runs at fixed inputs. -/
def emptyXlib : Xlib := ⟨fun _ => (0, []), fun _ => (0, ⟨[], clipGetAtom "COMPOUND_TEXT", 8, 0⟩)⟩

example : clipGetTextFormatFromTargets
    [clipGetAtom "COMPOUND_TEXT", clipGetAtom "text/plain", clipGetAtom "TARGETS"] = 7 := by
  decide

end X11Clipboard.Formats
