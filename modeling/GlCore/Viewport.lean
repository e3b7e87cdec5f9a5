import Mathlib.Data.BitVec

/-!
# The viewport and its two origins

`gl_core_set_viewport` picks the rectangle of the window the core's image is
drawn into: the scaled-integer rectangle, a letterboxed or a custom rectangle
when the aspect ratio is kept, or the whole window.  GL counts `y` from the
bottom of the window, the frontend from the top: the custom rectangle is
converted on the way in, and `gl_core_viewport_info` converts back.

All coordinates are 32-bit: `int` and `unsigned` fields alike are their bit
patterns (`BitVec 32`), and C's mixed arithmetic on them is arithmetic modulo
`2 ^ 32`, which is what the conversions between `int` and `unsigned` do on
every two's complement target.  The floating-point letterbox computation and
`video_viewport_get_scaled_integer` are collaborators whose results the model
takes as given (`ViewportEnv`).

* `glCoreViewportInfo_custom` — after the custom-aspect branch the viewport
  info reports the custom rectangle unchanged, for every 32-bit rectangle,
  including those that overhang the window.
-/

namespace GlCore

/-- `struct video_viewport`: `x` and `y` are `int`, the rest `unsigned`. -/
structure VideoViewport where
  x : BitVec 32
  y : BitVec 32
  width : BitVec 32
  height : BitVec 32
  fullWidth : BitVec 32
  fullHeight : BitVec 32
  deriving DecidableEq, Repr

/-- `struct gl_core_viewport`: the rectangle the filter chain draws its last
pass into. -/
structure GlCoreViewport where
  x : BitVec 32
  y : BitVec 32
  width : BitVec 32
  height : BitVec 32
  deriving DecidableEq, Repr

/-- The fields of `video_frame_info_t` the viewport code reads;
`customAspect` is `aspect_ratio_idx == ASPECT_RATIO_CUSTOM`. -/
structure VideoFrameInfo where
  width : BitVec 32
  height : BitVec 32
  scaleInteger : Bool
  customAspect : Bool
  customVpX : BitVec 32
  customVpY : BitVec 32
  customVpWidth : BitVec 32
  customVpHeight : BitVec 32
  deriving DecidableEq, Repr

/-- The build options the viewport code depends on. -/
structure Build where
  haveMenu : Bool
  rarchMobile : Bool
  deriving DecidableEq, Repr

/-- What the collaborators of `gl_core_set_viewport` return. -/
structure ViewportEnv where
  /-- `video_viewport_get_scaled_integer`: the viewport for a window of the
  given size. -/
  scaledInteger : BitVec 32 → BitVec 32 → VideoViewport → VideoViewport
  /-- The letterbox of the non-custom aspect branch for a window of the given
  size: `x`, `y`, `width`, `height`, as the `roundf` computations give them. -/
  letterbox : BitVec 32 → BitVec 32 → BitVec 32 × BitVec 32 × BitVec 32 × BitVec 32
  /-- `device_aspect < 1.0f`. -/
  portrait : Bool

/-- The fields of `gl_core_t` the viewport code reads and writes. -/
structure ViewportState where
  keepAspect : Bool
  vp : VideoViewport
  filterChainVp : GlCoreViewport
  vpOutWidth : BitVec 32
  vpOutHeight : BitVec 32
  deriving DecidableEq, Repr

/-! ## Setting the viewport -/

/-- The custom rectangle with its `y` moved to GL's bottom-left origin:
`height - custom_vp_y - custom_vp_height`. -/
def customRect (info : VideoFrameInfo) : BitVec 32 × BitVec 32 × BitVec 32 × BitVec 32 :=
  (info.customVpX, info.height - info.customVpY - info.customVpHeight, info.customVpWidth,
    info.customVpHeight)

/-- The rectangle of the kept-aspect branch: the custom one (only in a build
with a menu) or the letterbox. -/
def keptAspectRect (build : Build) (env : ViewportEnv) (info : VideoFrameInfo)
    (viewportWidth viewportHeight : BitVec 32) : BitVec 32 × BitVec 32 × BitVec 32 × BitVec 32 :=
  if build.haveMenu ∧ info.customAspect then customRect info
  else env.letterbox viewportWidth viewportHeight

/-- `gl_core_set_viewport`. -/
def glCoreSetViewport (build : Build) (env : ViewportEnv) (gl : ViewportState)
    (info : VideoFrameInfo) (viewportWidth viewportHeight : BitVec 32) (forceFull : Bool) :
    ViewportState :=
  let (vp, outWidth, outHeight) :=
    if info.scaleInteger ∧ ¬ forceFull then
      let vp := env.scaledInteger viewportWidth viewportHeight gl.vp
      (vp, vp.width, vp.height)
    else if gl.keepAspect ∧ ¬ forceFull then
      let (x, y, width, height) := keptAspectRect build env info viewportWidth viewportHeight
      ({ gl.vp with x := x, y := y, width := width, height := height }, width, height)
    else
      ({ gl.vp with x := 0, y := 0, width := viewportWidth, height := viewportHeight },
        viewportWidth, viewportHeight)
  let vp := if build.rarchMobile ∧ env.portrait then { vp with y := vp.y * 2 } else vp
  { gl with
    vp := vp
    vpOutWidth := if forceFull then gl.vpOutWidth else outWidth
    vpOutHeight := if forceFull then gl.vpOutHeight else outHeight
    filterChainVp := ⟨vp.x, vp.y, vp.width, vp.height⟩ }

/-- `gl_core_viewport_info`, with `width × height` the window size that
`video_driver_get_size` reports: the viewport with its `y` measured from the
top of the window. -/
def glCoreViewportInfo (gl : ViewportState) (width height : BitVec 32) : VideoViewport :=
  let vp := { gl.vp with fullWidth := width, fullHeight := height }
  let topY := vp.y + vp.height
  let topDist := height - topY
  { vp with y := topDist }

/-! ## The round trip -/

/-- The two origin conversions are inverse modulo `2 ^ 32`. -/
theorem top_dist_bottom_left (height y h : BitVec 32) :
    height - ((height - y - h) + h) = y := by
  rw [BitVec.sub_add_cancel, sub_sub_cancel]

/-- In a non-mobile build, the custom-aspect branch stores the custom
rectangle with its `y` converted. -/
theorem glCoreSetViewport_custom_vp (build : Build) (env : ViewportEnv) (gl : ViewportState)
    (info : VideoFrameInfo) (viewportWidth viewportHeight : BitVec 32)
    (hscale : info.scaleInteger = false) (hkeep : gl.keepAspect = true)
    (hmenu : build.haveMenu = true) (hcustom : info.customAspect = true)
    (hmobile : build.rarchMobile = false) :
    (glCoreSetViewport build env gl info viewportWidth viewportHeight false).vp =
      { gl.vp with x := info.customVpX, y := info.height - info.customVpY - info.customVpHeight,
                   width := info.customVpWidth, height := info.customVpHeight } := by
  simp [glCoreSetViewport, keptAspectRect, customRect, hscale, hkeep, hmenu, hcustom, hmobile]

/-- **The custom viewport survives the round trip.**  Whenever
`gl_core_set_viewport` takes the custom-aspect branch of a non-mobile build,
the next `gl_core_viewport_info`, with the window height `video_info->height`
reported by `video_driver_get_size`, gives back the custom `x`, `y`, `width`
and `height`, for every 32-bit rectangle. -/
theorem glCoreViewportInfo_custom (build : Build) (env : ViewportEnv) (gl : ViewportState)
    (info : VideoFrameInfo) (viewportWidth viewportHeight windowWidth : BitVec 32)
    (hscale : info.scaleInteger = false) (hkeep : gl.keepAspect = true)
    (hmenu : build.haveMenu = true) (hcustom : info.customAspect = true)
    (hmobile : build.rarchMobile = false) :
    let vp := glCoreViewportInfo
      (glCoreSetViewport build env gl info viewportWidth viewportHeight false)
      windowWidth info.height
    vp.x = info.customVpX ∧ vp.y = info.customVpY ∧ vp.width = info.customVpWidth ∧
      vp.height = info.customVpHeight := by
  simp only [glCoreViewportInfo,
    glCoreSetViewport_custom_vp build env gl info viewportWidth viewportHeight hscale hkeep hmenu
      hcustom hmobile, top_dist_bottom_left, and_self]

/-- A desktop build with a menu. -/
def desktopMenuBuild : Build := ⟨true, false⟩

/-- Collaborators that leave the window whole. -/
def wholeWindowEnv : ViewportEnv := ⟨fun _ _ vp => vp, fun w h => (0, 0, w, h), false⟩

/-- A driver keeping the aspect ratio, before any viewport was set. -/
def keptAspectState : ViewportState := ⟨true, ⟨0, 0, 0, 0, 0, 0⟩, ⟨0, 0, 0, 0⟩, 0, 0⟩

/-- A custom `700 × 200` viewport at `(-10, 400)` in a `640 × 480` window: it
overhangs the window on three sides. -/
def overhangingInfo : VideoFrameInfo :=
  { width := 640, height := 480, scaleInteger := false, customAspect := true,
    customVpX := -10, customVpY := 400, customVpWidth := 700, customVpHeight := 200 }

/-- The overhanging viewport is reported back unchanged. -/
theorem overhanging_custom_viewport_round_trip :
    let vp := glCoreViewportInfo
      (glCoreSetViewport desktopMenuBuild wholeWindowEnv keptAspectState overhangingInfo 640 480
        false) 640 480
    vp.x = -10 ∧ vp.y = 400 ∧ vp.width = 700 ∧ vp.height = 200 :=
  glCoreViewportInfo_custom desktopMenuBuild wholeWindowEnv keptAspectState overhangingInfo 640 480
    640 rfl rfl rfl rfl rfl

end GlCore
