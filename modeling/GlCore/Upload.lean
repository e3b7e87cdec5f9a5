import GlCore.Driver

/-!
# Pixel transfer: where `glTexSubImage2D` reads each pixel

The driver uploads three kinds of image with `glTexSubImage2D`: the core's
frame (`gl_core_update_cpu_texture`), the menu's frame
(`gl_core_set_texture_frame`) and the menu's images
(`video_texture_load_gl_core`).  Before each it sets `GL_UNPACK_ROW_LENGTH`
and `GL_UNPACK_ALIGNMENT`, and GL's unpacking rule turns those into the
address of every pixel.  A pixel is a group of `n` elements of `s` bytes (a
packed type such as `GL_UNSIGNED_SHORT_5_6_5` is one element); a row holds
`l` groups, `l` being the row length or, when that is `0`, the width; and
consecutive rows start `k` elements apart, where `k = n l` when `s ≥ a` and
`k = (a / s) ⌈s n l / a⌉` otherwise (`a` the alignment).

The images come in two layouts.  A core hands its frame as rows `pitch`
bytes apart, pixel `(x, y)` at byte `y * pitch + bpp * x`; the menu's frame
and images are packed rows, pixel `(x, y)` at `bpp * (y * width + x)`.

* `glCoreUpdateCpuTexture_reads_pitched_iff` — the core's frame is read at
  its own layout, at every pixel of every frame of two rows or more, exactly
  when `pitch` is a positive multiple of the pixel size.  Otherwise GL steps
  rows by `pitch` rounded down to a whole pixel, or by the width when that
  rounds to `0`, and every row after the first is read from the wrong place.
* `menu_uploads_read_packed` — the menu's frame and images are read as packed
  rows, at every size.
-/

namespace GlCore

/-! ## GL's unpacking rule -/

/-- The unpack parameters `glPixelStorei` sets. -/
structure PixelStore where
  /-- `GL_UNPACK_ROW_LENGTH`, in pixels; `0` means the image's width. -/
  rowLength : Nat
  /-- `GL_UNPACK_ALIGNMENT`, in bytes. -/
  alignment : Nat
  deriving DecidableEq, Repr

/-- A client pixel as `glTexSubImage2D`'s `format` and `type` describe it:
`elements` elements of `elementSize` bytes each. -/
structure PixelType where
  elements : Nat
  elementSize : Nat
  deriving DecidableEq, Repr

/-- `GL_RGBA`, `GL_UNSIGNED_BYTE`. -/
def rgbaUnsignedByte : PixelType := ⟨4, 1⟩

/-- `GL_RGB`, `GL_UNSIGNED_SHORT_5_6_5`: one packed element. -/
def rgbUnsignedShort565 : PixelType := ⟨1, 2⟩

/-- `GL_RGBA`, `GL_UNSIGNED_SHORT_4_4_4_4`: one packed element. -/
def rgbaUnsignedShort4444 : PixelType := ⟨1, 2⟩

namespace PixelStore

/-- The pixels of a row, `l`: the row length, or the width when it is `0`. -/
def rowGroups (store : PixelStore) (width : Nat) : Nat :=
  if store.rowLength = 0 then width else store.rowLength

/-- The row stride in elements, `k`: the row's elements, padded to a
multiple of the alignment when an element is smaller than it. -/
def rowElements (store : PixelStore) (t : PixelType) (width : Nat) : Nat :=
  if store.alignment ≤ t.elementSize then t.elements * store.rowGroups width
  else store.alignment / t.elementSize *
    ((t.elementSize * t.elements * store.rowGroups width + store.alignment - 1) /
      store.alignment)

/-- The byte, counted from the client pointer, at which `glTexSubImage2D`
reads the first element of pixel `(x, y)`. -/
def pixelOffset (store : PixelStore) (t : PixelType) (width x y : Nat) : Nat :=
  t.elementSize * (y * store.rowElements t width + x * t.elements)

/-- Pixel `(x, y)` sits `y` row strides and `x` pixels in. -/
theorem pixelOffset_eq (store : PixelStore) (t : PixelType) (width x y : Nat) :
    store.pixelOffset t width x y =
      y * (t.elementSize * store.rowElements t width) + t.elementSize * t.elements * x := by
  rw [pixelOffset, Nat.mul_add]
  ac_rfl

/-- An element at least as large as the alignment needs no padding. -/
theorem rowElements_of_alignment_le {store : PixelStore} {t : PixelType} (width : Nat)
    (h : store.alignment ≤ t.elementSize) :
    store.rowElements t width = t.elements * store.rowGroups width :=
  if_pos h

/-- Four one-byte elements at an alignment of four need no padding either. -/
@[simp] theorem rowElements_four_bytes (rowLength width : Nat) :
    (⟨rowLength, 4⟩ : PixelStore).rowElements ⟨4, 1⟩ width =
      4 * (⟨rowLength, 4⟩ : PixelStore).rowGroups width := by
  simp only [rowElements, Nat.reduceLeDiff, ↓reduceIte]
  omega

/-- One packed two-byte element at an alignment of two. -/
@[simp] theorem rowElements_one_short (rowLength width : Nat) :
    (⟨rowLength, 2⟩ : PixelStore).rowElements ⟨1, 2⟩ width =
      (⟨rowLength, 2⟩ : PixelStore).rowGroups width := by
  rw [rowElements_of_alignment_le width (le_refl 2), Nat.one_mul]

end PixelStore

/-- Where a core's frame holds pixel `(x, y)`: rows `pitch` bytes apart. -/
def pitchedOffset (bpp pitch x y : Nat) : Nat := y * pitch + bpp * x

/-- Where a packed image holds pixel `(x, y)`. -/
def packedOffset (bpp width x y : Nat) : Nat := bpp * (y * width + x)

/-- The bytes of a pixel of the core's frame and of the menu's frame:
`sizeof (uint32_t)` for `rgb32`, `sizeof (uint16_t)` otherwise. -/
def pixelSize (rgb32 : Bool) : Nat := if rgb32 then 4 else 2

/-! ## The three uploads -/

/-- The unpack state and pixel type `gl_core_update_cpu_texture` uploads the
core's frame with. -/
def glCoreUpdateCpuTextureUnpack (rgb32 : Bool) (pitch : Nat) : PixelStore × PixelType :=
  if rgb32 then (⟨pitch >>> 2, 4⟩, rgbaUnsignedByte) else (⟨pitch >>> 1, 2⟩, rgbUnsignedShort565)

/-- The unpack state and pixel type `gl_core_set_texture_frame` uploads the
menu's frame with: the alignment is `base_size`, the row length `0`. -/
def glCoreSetTextureFrameUnpack (rgb32 : Bool) : PixelStore × PixelType :=
  let baseSize := pixelSize rgb32
  (⟨0, baseSize⟩, if rgb32 then rgbaUnsignedByte else rgbaUnsignedShort4444)

/-- The unpack state and pixel type `video_texture_load_gl_core` uploads a
menu image with. -/
def videoTextureLoadGlCoreUnpack : PixelStore × PixelType := (⟨0, 4⟩, rgbaUnsignedByte)

/-- Where an upload made with `u` reads pixel `(x, y)` of a `width`-wide image. -/
def uploadOffset (u : PixelStore × PixelType) (width x y : Nat) : Nat :=
  u.1.pixelOffset u.2 width x y

/-- The row stride of the core's frame as GL takes it: `pitch` rounded down
to a whole pixel, or the width's pixels when that is `0`. -/
theorem glCoreUpdateCpuTextureUnpack_offset (rgb32 : Bool) (width pitch x y : Nat) :
    uploadOffset (glCoreUpdateCpuTextureUnpack rgb32 pitch) width x y =
      y * (pixelSize rgb32 *
        if pitch / pixelSize rgb32 = 0 then width else pitch / pixelSize rgb32) +
        pixelSize rgb32 * x := by
  cases rgb32 <;>
    simp [uploadOffset, glCoreUpdateCpuTextureUnpack, PixelStore.pixelOffset_eq,
      PixelStore.rowGroups, pixelSize, rgbUnsignedShort565, rgbaUnsignedByte,
      Nat.shiftRight_eq_div_pow, Nat.mul_assoc]

/-- Offsets `y * stride + c x` agree with `y * pitch + c x` over a frame of
two rows or more exactly when the strides do. -/
theorem row_offsets_agree_iff {width height stride pitch c : Nat} (hw : 1 ≤ width)
    (hh : 2 ≤ height) :
    (∀ x < width, ∀ y < height, y * stride + c * x = y * pitch + c * x) ↔ stride = pitch := by
  constructor
  · intro h
    simpa using h 0 hw 1 hh
  · rintro rfl _ _ _ _
    rfl

/-- GL's stride `bpp ⌊pitch / bpp⌋` (or `bpp * width` when that is `0`) is
`pitch` exactly when `pitch` is a positive multiple of `bpp`. -/
theorem roundedStride_eq_iff {bpp width pitch : Nat} (hb : 0 < bpp) (hw : 1 ≤ width) :
    (bpp * if pitch / bpp = 0 then width else pitch / bpp) = pitch ↔
      0 < pitch ∧ pitch % bpp = 0 := by
  have hdiv := Nat.div_add_mod pitch bpp
  split_ifs with h0
  · have hlt : pitch < bpp := (Nat.div_eq_zero_iff hb).mp h0
    have : bpp ≤ bpp * width := Nat.le_mul_of_pos_right bpp hw
    have : pitch % bpp = pitch := Nat.mod_eq_of_lt hlt
    omega
  · have : 0 < pitch := Nat.pos_of_ne_zero fun hp => h0 (by simp [hp])
    omega

/-- **The core's frame is read at its own layout exactly when its pitch is a
positive multiple of the pixel size.**  For every frame of at least one
column and two rows, `glTexSubImage2D` reads every pixel `(x, y)` at
`y * pitch + bpp * x` if and only if `0 < pitch` and `bpp` divides `pitch`;
otherwise the second row is already read from another place. -/
theorem glCoreUpdateCpuTexture_reads_pitched_iff (rgb32 : Bool) (width height pitch : Nat)
    (hw : 1 ≤ width) (hh : 2 ≤ height) :
    (∀ x < width, ∀ y < height,
        uploadOffset (glCoreUpdateCpuTextureUnpack rgb32 pitch) width x y =
          pitchedOffset (pixelSize rgb32) pitch x y) ↔
      0 < pitch ∧ pitch % pixelSize rgb32 = 0 := by
  simp only [glCoreUpdateCpuTextureUnpack_offset, pitchedOffset]
  rw [row_offsets_agree_iff hw hh, roundedStride_eq_iff (by cases rgb32 <;> decide) hw]

/-- A `320 × 240` XRGB8888 frame whose rows are `1282` bytes apart, no
multiple of four, is read with rows `1280` bytes apart. -/
theorem glCoreUpdateCpuTexture_misreads_odd_pitch :
    1 ≤ 320 ∧ 2 ≤ 240 ∧
      ¬ ∀ x < 320, ∀ y < 240,
        uploadOffset (glCoreUpdateCpuTextureUnpack true 1282) 320 x y =
          pitchedOffset (pixelSize true) 1282 x y :=
  ⟨by decide, by decide, fun h =>
    absurd ((glCoreUpdateCpuTexture_reads_pitched_iff true 320 240 1282 (by decide)
      (by decide)).mp h).2 (by decide)⟩

/-- **The menu's uploads are read as packed rows**, at every size: the menu
frame in both pixel formats, the alignment `base_size` never padding a row of
whole pixels, and the menu's images, four bytes a pixel at alignment `4`. -/
theorem menu_uploads_read_packed (rgb32 : Bool) (width x y : Nat) :
    uploadOffset (glCoreSetTextureFrameUnpack rgb32) width x y =
        packedOffset (pixelSize rgb32) width x y ∧
      uploadOffset videoTextureLoadGlCoreUnpack width x y = packedOffset 4 width x y := by
  cases rgb32 <;>
    simp [uploadOffset, glCoreSetTextureFrameUnpack, videoTextureLoadGlCoreUnpack,
      PixelStore.pixelOffset_eq, PixelStore.rowGroups, pixelSize, packedOffset,
      rgbaUnsignedShort4444, rgbaUnsignedByte, Nat.mul_add, Nat.mul_left_comm]

end GlCore
