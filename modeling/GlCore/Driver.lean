import GlCore.Viewport
import GlCore.Formats
import GlCore.Preset

/-!
# The driver: the filter chain it holds, and the frames it streams

`gl_core_init` builds the driver and its filter chain, `gl_core_set_shader`
replaces the chain, and `gl_core_frame` uploads the core's frame into the next
of `GL_CORE_NUM_TEXTURES` streamed textures and hands that texture and the
chain to the filter-chain API.

The collaborators are the outcomes they return: whether each chain
construction succeeds (`ChainOutcomes`), the preset path and its parsed type,
and whether the context setup before the chain succeeds.  A streamed texture
records what its texels hold: the frame buffer and pitch they were copied
from, or `none` where GL leaves them undefined.  The filter-chain API is
recorded as the calls a frame makes (`DriverEffect`); menu, OSD, window title,
buffer swap and the projection matrices are left out.

* `glCoreInit_null_filter_chain` — a SLANG preset that fails to build,
  followed by a stock fallback that fails too, still yields a driver, with no
  filter chain; every frame then hands `NULL` to the filter-chain API.
  `gl_core_set_shader` leaves the same state behind.
* `glCoreInit_driverRun_filterChain` — while the stock chain builds, the
  driver always holds the chain the last request asked for, and no frame
  hands `NULL` on.
* `glCoreFrame_null_frame_not_repeated` — a `NULL` frame is uploaded into
  the next slot like any other, so the chain samples a texture that does not
  hold the frame it should repeat.
* `driverRun_uploads_rotate` — in every run, two uploads into one slot are
  separated by uploads into each of the three other slots.
* `driverRun_alive_sticky` — once `gl_core_alive` returns `false`, it never
  returns `true` again.
-/

namespace GlCore

/-- `GL_CORE_NUM_TEXTURES`. -/
def glCoreNumTextures : Nat := 4

/-- `enum rarch_shader_type`, as far as the driver tells its values apart:
`RARCH_SHADER_NONE`, `RARCH_SHADER_SLANG`, and the others (Cg, GLSL). -/
inductive RarchShaderType
  | none | slang | other
  deriving DecidableEq, Repr

/-- A filter chain the driver holds, with the filter it was built with: built
from the preset at `path`, or the stock chain. -/
inductive FilterChain
  | preset (path : Bytes) (filter : GlCoreFilterChainFilter)
  | stock (filter : GlCoreFilterChainFilter)
  deriving DecidableEq, Repr

/-- Whether the chain constructions one call attempts succeed:
`gl_core_filter_chain_create_from_preset` and
`gl_core_filter_chain_create_default`. -/
structure ChainOutcomes where
  fromPreset : Bool
  default : Bool
  deriving DecidableEq, Repr

/-- What the texels of a streamed texture were copied from: the frame buffer
at `frame`, read with row pitch `pitch`. -/
structure Texels where
  frame : Nat
  pitch : Nat
  deriving DecidableEq, Repr

/-- `struct gl_core_streamed_texture`, with what its texels hold (`none`
where GL leaves them undefined). -/
structure GlCoreStreamedTexture where
  width : Nat
  height : Nat
  content : Option Texels
  deriving DecidableEq, Repr

/-- The fields of `video_info_t` the driver keeps. -/
structure VideoInfo where
  smooth : Bool
  rgb32 : Bool
  forceAspect : Bool
  deriving DecidableEq, Repr

/-- The fields of `gl_core_t` the modelled entry points read and write. -/
structure GlCoreState where
  /-- `ctx_driver != NULL`. -/
  ctxDriver : Bool
  /-- `video_info.smooth`. -/
  smooth : Bool
  /-- `video_info.rgb32`. -/
  rgb32 : Bool
  /-- `filter_chain`; `none` is `NULL`. -/
  filterChain : Option FilterChain
  viewport : ViewportState
  textures : Fin glCoreNumTextures → GlCoreStreamedTexture
  /-- `textures_index`, kept below `GL_CORE_NUM_TEXTURES` by the masking. -/
  texturesIndex : Fin glCoreNumTextures
  /-- `quitting`. -/
  quitting : Bool
  /-- `should_resize`. -/
  shouldResize : Bool

/-- The filter every chain of the driver is built with. -/
def GlCoreState.filter (gl : GlCoreState) : GlCoreFilterChainFilter :=
  if gl.smooth then .linear else .nearest

/-! ## The filter chain -/

/-- `gl_core_init_default_filter_chain`, where `ok` is whether
`gl_core_filter_chain_create_default` returns a chain. -/
def glCoreInitDefaultFilterChain (gl : GlCoreState) (ok : Bool) : GlCoreState × Bool :=
  if gl.ctxDriver then
    ({ gl with filterChain := if ok then some (.stock gl.filter) else none }, ok)
  else (gl, false)

/-- `gl_core_init_filter_chain_preset`, where `ok` is whether
`gl_core_filter_chain_create_from_preset` returns a chain. -/
def glCoreInitFilterChainPreset (gl : GlCoreState) (shaderPath : Bytes) (ok : Bool) :
    GlCoreState × Bool :=
  ({ gl with filterChain := if ok then some (.preset shaderPath gl.filter) else none }, ok)

/-- `gl_core_init_filter_chain`, for the preset path that
`retroarch_get_shader_preset` returns and the type `video_shader_parse_type`
gives it.  A SLANG preset reports success whether or not its fallback built. -/
def glCoreInitFilterChain (gl : GlCoreState) (shaderPath : Option Bytes)
    (type : RarchShaderType) (outcomes : ChainOutcomes) : GlCoreState × Bool :=
  if type = .none then glCoreInitDefaultFilterChain gl outcomes.default
  else if type ≠ .slang then glCoreInitDefaultFilterChain gl outcomes.default
  else
    let attempt := match shaderPath with
      | none => (gl, false)
      | some path => glCoreInitFilterChainPreset gl path outcomes.fromPreset
    if attempt.2 then (attempt.1, true)
    else ((glCoreInitDefaultFilterChain attempt.1 outcomes.default).1, true)

/-- A `gl_core_t` as `calloc` leaves it. -/
def GlCoreState.calloc : GlCoreState where
  ctxDriver := false
  smooth := false
  rgb32 := false
  filterChain := none
  viewport := ⟨false, ⟨0, 0, 0, 0, 0, 0⟩, ⟨0, 0, 0, 0⟩, 0, 0⟩
  textures := fun _ => ⟨0, 0, none⟩
  texturesIndex := ⟨0, by decide⟩
  quitting := false
  shouldResize := false

/-- `gl_core_init`; `none` is `NULL`.  `ctxFound` is whether
`gl_core_get_context` finds a context, `setupOk` whether every step between it
and the filter chain succeeds (video mode, a context other than `"null"`, the
menu pipelines). -/
def glCoreInit (video : VideoInfo) (ctxFound setupOk : Bool) (shaderPath : Option Bytes)
    (type : RarchShaderType) (outcomes : ChainOutcomes) : Option GlCoreState :=
  if ctxFound ∧ setupOk then
    let gl : GlCoreState :=
      { GlCoreState.calloc with
        ctxDriver := true, smooth := video.smooth, rgb32 := video.rgb32,
        viewport := { GlCoreState.calloc.viewport with keepAspect := video.forceAspect } }
    let result := glCoreInitFilterChain gl shaderPath type outcomes
    if result.2 then some result.1 else none
  else none

/-- `gl_core_set_shader`: a path of another type than SLANG is dropped, the
old chain is freed, and the new one is built, the stock chain standing in for
a preset that fails. -/
def glCoreSetShader (gl : GlCoreState) (type : RarchShaderType) (path : Option Bytes)
    (outcomes : ChainOutcomes) : GlCoreState × Bool :=
  let path := if type ≠ .slang ∧ path.isSome then none else path
  let gl := { gl with filterChain := none }
  match path with
  | none => ((glCoreInitDefaultFilterChain gl outcomes.default).1, true)
  | some p =>
    let attempt := glCoreInitFilterChainPreset gl p outcomes.fromPreset
    if attempt.2 then (attempt.1, true)
    else ((glCoreInitDefaultFilterChain attempt.1 outcomes.default).1, false)

/-! ## Frames -/

/-- What a core hands `gl_core_frame`: the frame pointer (`none` is `NULL`),
its size and its pitch. -/
structure FrameCall where
  frame : Option Nat
  width : Nat
  height : Nat
  pitch : Nat
  deriving DecidableEq, Repr

/-- `gl_core_update_cpu_texture` on one streamed texture: a texture of another
size is re-created, with undefined texels, and the frame is copied in.
`glTexSubImage2D` from `NULL`, with no unpack buffer bound, copies nothing
defined. -/
def glCoreUpdateCpuTexture (streamed : GlCoreStreamedTexture) (frame : Option Nat)
    (width height pitch : Nat) : GlCoreStreamedTexture :=
  let streamed : GlCoreStreamedTexture :=
    if width ≠ streamed.width ∨ height ≠ streamed.height then ⟨width, height, none⟩
    else streamed
  { streamed with content := frame.map (⟨·, pitch⟩) }

/-- `struct gl_core_filter_chain_texture`: `image` is the streamed texture
whose GL name is handed over. -/
structure GlCoreFilterChainTexture where
  image : Fin glCoreNumTextures
  width : Nat
  height : Nat
  format : Nat
  deriving DecidableEq, Repr

/-- What the driver's entry points do that the properties below look at, in
order: uploads into the streamed textures, the calls into the filter-chain
API, and the value `gl_core_alive` returns. -/
inductive DriverEffect
  | upload (slot : Fin glCoreNumTextures) (frame : Option Nat)
  | setInputTexture (chain : Option FilterChain) (texture : GlCoreFilterChainTexture)
  | buildOffscreenPasses (chain : Option FilterChain) (vp : GlCoreViewport)
  | buildViewportPass (chain : Option FilterChain) (vp : GlCoreViewport)
  | endFrame (chain : Option FilterChain)
  | alive (result : Bool)
  deriving DecidableEq, Repr

/-- `(textures_index + 1) & (GL_CORE_NUM_TEXTURES - 1)`. -/
def nextTexturesIndex (i : Fin glCoreNumTextures) : Fin glCoreNumTextures :=
  ⟨(i.val + 1) &&& (glCoreNumTextures - 1), Nat.lt_of_le_of_lt Nat.and_le_right (by decide)⟩

/-- `gl_core_frame`: upload into the current streamed texture, set the
viewport, run the filter chain on that texture, and move to the next one. -/
def glCoreFrame (build : Build) (env : ViewportEnv) (gl : GlCoreState) (call : FrameCall)
    (info : VideoFrameInfo) : GlCoreState × List DriverEffect :=
  let slot := gl.texturesIndex
  let streamed := glCoreUpdateCpuTexture (gl.textures slot) call.frame call.width call.height
    call.pitch
  let viewport := glCoreSetViewport build env gl.viewport info info.width info.height false
  let texture : GlCoreFilterChainTexture :=
    ⟨slot, streamed.width, streamed.height, if gl.rgb32 then glRgba8 else glRgb565⟩
  ({ gl with
      textures := Function.update gl.textures slot streamed
      viewport := viewport
      texturesIndex := nextTexturesIndex slot },
    [.upload slot call.frame, .setInputTexture gl.filterChain texture,
      .buildOffscreenPasses gl.filterChain viewport.filterChainVp,
      .buildViewportPass gl.filterChain viewport.filterChainVp, .endFrame gl.filterChain])

/-! ## The window -/

/-- `gl_core_alive`, where `quit` and `resize` are what the context's
`check_window` reports. -/
def glCoreAlive (gl : GlCoreState) (quit resize : Bool) : GlCoreState × Bool :=
  let gl := if quit then { gl with quitting := true }
    else if resize then { gl with shouldResize := true } else gl
  (gl, !gl.quitting)

/-- `gl_core_set_aspect_ratio`: the aspect ratio is kept from now on. -/
def glCoreSetAspectRatio (gl : GlCoreState) : GlCoreState :=
  { gl with viewport := { gl.viewport with keepAspect := true }, shouldResize := true }

/-- `gl_core_apply_state_changes`. -/
def glCoreApplyStateChanges (gl : GlCoreState) : GlCoreState :=
  { gl with shouldResize := true }

/-! ## Runs of the driver -/

/-- A call into the driver once it is initialised.  `setViewport` is
`gl_core_set_viewport_wrapper`, with the frame info `video_driver_build_info`
gives it. -/
inductive DriverEvent
  | setShader (type : RarchShaderType) (path : Option Bytes) (outcomes : ChainOutcomes)
  | setViewport (info : VideoFrameInfo) (width height : BitVec 32) (forceFull : Bool)
  | frame (call : FrameCall) (info : VideoFrameInfo)
  | alive (quit resize : Bool)
  | setAspectRatio
  | applyStateChanges

/-- One call, and its effects. -/
def driverStep (build : Build) (env : ViewportEnv) (gl : GlCoreState) :
    DriverEvent → GlCoreState × List DriverEffect
  | .setShader type path outcomes => ((glCoreSetShader gl type path outcomes).1, [])
  | .setViewport info width height forceFull =>
    ({ gl with viewport := glCoreSetViewport build env gl.viewport info width height forceFull },
      [])
  | .frame call info => glCoreFrame build env gl call info
  | .alive quit resize =>
    let result := glCoreAlive gl quit resize
    (result.1, [.alive result.2])
  | .setAspectRatio => (glCoreSetAspectRatio gl, [])
  | .applyStateChanges => (glCoreApplyStateChanges gl, [])

/-- A run of calls, and all their effects in order. -/
def driverRun (build : Build) (env : ViewportEnv) :
    GlCoreState → List DriverEvent → GlCoreState × List DriverEffect
  | gl, [] => (gl, [])
  | gl, event :: events =>
    let step := driverStep build env gl event
    let run := driverRun build env step.1 events
    (run.1, step.2 ++ run.2)

/-! ## What the effects say -/

/-- The chain a filter-chain call is handed. -/
def DriverEffect.chainArg : DriverEffect → Option (Option FilterChain)
  | .upload _ _ => none
  | .setInputTexture chain _ => some chain
  | .buildOffscreenPasses chain _ => some chain
  | .buildViewportPass chain _ => some chain
  | .endFrame chain => some chain
  | .alive _ => none

/-- The slot an upload writes. -/
def DriverEffect.uploadSlot : DriverEffect → Option (Fin glCoreNumTextures)
  | .upload slot _ => some slot
  | _ => none

/-- The texture `gl_core_filter_chain_set_input_texture` is handed. -/
def DriverEffect.inputTexture : DriverEffect → Option GlCoreFilterChainTexture
  | .setInputTexture _ texture => some texture
  | _ => none

/-- The value `gl_core_alive` returns. -/
def DriverEffect.aliveResult : DriverEffect → Option Bool
  | .alive result => some result
  | _ => none

/-- The chains handed to the filter-chain API, call by call. -/
def chainArgs (effects : List DriverEffect) : List (Option FilterChain) :=
  effects.filterMap DriverEffect.chainArg

/-- The slots written, upload by upload. -/
def uploadSlots (effects : List DriverEffect) : List (Fin glCoreNumTextures) :=
  effects.filterMap DriverEffect.uploadSlot

/-- The input textures handed to the chain, frame by frame. -/
def inputTextures (effects : List DriverEffect) : List GlCoreFilterChainTexture :=
  effects.filterMap DriverEffect.inputTexture

/-- The values `gl_core_alive` returns, call by call. -/
def aliveResults (effects : List DriverEffect) : List Bool :=
  effects.filterMap DriverEffect.aliveResult

@[simp] theorem chainArgs_nil : chainArgs [] = [] := rfl
@[simp] theorem uploadSlots_nil : uploadSlots [] = [] := rfl
@[simp] theorem aliveResults_nil : aliveResults [] = [] := rfl
@[simp] theorem chainArgs_alive (result : Bool) : chainArgs [.alive result] = [] := rfl
@[simp] theorem uploadSlots_alive (result : Bool) : uploadSlots [.alive result] = [] := rfl
@[simp] theorem aliveResults_alive (result : Bool) :
    aliveResults [.alive result] = [result] := rfl

@[simp] theorem chainArgs_append (a b : List DriverEffect) :
    chainArgs (a ++ b) = chainArgs a ++ chainArgs b := List.filterMap_append _ _ _

@[simp] theorem uploadSlots_append (a b : List DriverEffect) :
    uploadSlots (a ++ b) = uploadSlots a ++ uploadSlots b := List.filterMap_append _ _ _

@[simp] theorem aliveResults_append (a b : List DriverEffect) :
    aliveResults (a ++ b) = aliveResults a ++ aliveResults b := List.filterMap_append _ _ _

/-! ## One frame -/

section Frame

variable (build : Build) (env : ViewportEnv) (gl : GlCoreState) (call : FrameCall)
  (info : VideoFrameInfo)

/-- The masked increment is the increment modulo `GL_CORE_NUM_TEXTURES`. -/
theorem nextTexturesIndex_val (i : Fin glCoreNumTextures) :
    (nextTexturesIndex i).val = (i.val + 1) % glCoreNumTextures :=
  Nat.and_pow_two_sub_one_eq_mod (i.val + 1) 2

/-- Both branches of the upload leave a texture of the frame's size holding
what the frame pointer points to. -/
theorem glCoreUpdateCpuTexture_eq (streamed : GlCoreStreamedTexture) (frame : Option Nat)
    (width height pitch : Nat) :
    glCoreUpdateCpuTexture streamed frame width height pitch =
      ⟨width, height, frame.map (⟨·, pitch⟩)⟩ := by
  unfold glCoreUpdateCpuTexture
  split_ifs with h
  · rfl
  · obtain ⟨hw, hh⟩ : width = streamed.width ∧ height = streamed.height := by
      simpa only [not_or, not_not] using h
    rw [hw, hh]

@[simp] theorem glCoreFrame_filterChain :
    (glCoreFrame build env gl call info).1.filterChain = gl.filterChain := rfl

@[simp] theorem glCoreFrame_ctxDriver :
    (glCoreFrame build env gl call info).1.ctxDriver = gl.ctxDriver := rfl

@[simp] theorem glCoreFrame_filter :
    (glCoreFrame build env gl call info).1.filter = gl.filter := rfl

@[simp] theorem glCoreFrame_texturesIndex :
    (glCoreFrame build env gl call info).1.texturesIndex = nextTexturesIndex gl.texturesIndex :=
  rfl

/-- Every frame hands the chain it holds to the four filter-chain calls. -/
@[simp] theorem chainArgs_glCoreFrame :
    chainArgs (glCoreFrame build env gl call info).2 = List.replicate 4 gl.filterChain := rfl

@[simp] theorem glCoreFrame_smooth :
    (glCoreFrame build env gl call info).1.smooth = gl.smooth := rfl

@[simp] theorem glCoreFrame_quitting :
    (glCoreFrame build env gl call info).1.quitting = gl.quitting := rfl

@[simp] theorem aliveResults_glCoreFrame :
    aliveResults (glCoreFrame build env gl call info).2 = [] := rfl

/-- Every frame uploads once, into the current slot. -/
@[simp] theorem uploadSlots_glCoreFrame :
    uploadSlots (glCoreFrame build env gl call info).2 = [gl.texturesIndex] := rfl

/-- **The input texture of a frame** is the slot the frame was just uploaded
into, with the size of the call, and its texels are what the call's frame
pointer points to: nothing defined for a `NULL` frame. -/
theorem glCoreFrame_input_texture :
    inputTextures (glCoreFrame build env gl call info).2 =
      [⟨gl.texturesIndex, call.width, call.height, if gl.rgb32 then glRgba8 else glRgb565⟩] ∧
    ((glCoreFrame build env gl call info).1.textures gl.texturesIndex).content =
      call.frame.map (⟨·, call.pitch⟩) := by
  simp [glCoreFrame, inputTextures, DriverEffect.inputTexture, glCoreUpdateCpuTexture_eq]

end Frame

/-! ## Which chain the driver holds -/

/-- The chain a request asks for: the preset's, when a SLANG preset path was
given and the preset builds; the stock chain otherwise. -/
def requestedChain (filter : GlCoreFilterChainFilter) (type : RarchShaderType)
    (path : Option Bytes) (presetBuilds : Bool) : FilterChain :=
  match type, path with
  | .slang, some p => if presetBuilds then .preset p filter else .stock filter
  | _, _ => .stock filter

/-- The chain the requests of a run ask for, last one first: `current` when
the run makes none. -/
def chainAfter (filter : GlCoreFilterChainFilter) (current : Option FilterChain) :
    List DriverEvent → Option FilterChain
  | [] => current
  | .setShader type path outcomes :: events =>
    chainAfter filter (some (requestedChain filter type path outcomes.fromPreset)) events
  | _ :: events => chainAfter filter current events

/-- The stock chain builds for every `gl_core_set_shader` of the run. -/
def DriverEvent.DefaultBuilds : DriverEvent → Prop
  | .setShader _ _ outcomes => outcomes.default = true
  | _ => True

section Chain

variable {gl : GlCoreState} {type : RarchShaderType} {path : Option Bytes}
  {outcomes : ChainOutcomes}

/-- `gl_core_set_shader` changes nothing but the chain. -/
theorem glCoreSetShader_only_chain (gl : GlCoreState) (type : RarchShaderType)
    (path : Option Bytes) (outcomes : ChainOutcomes) :
    (glCoreSetShader gl type path outcomes).1 =
      { gl with filterChain := (glCoreSetShader gl type path outcomes).1.filterChain } := by
  unfold glCoreSetShader glCoreInitDefaultFilterChain glCoreInitFilterChainPreset
  dsimp only
  split <;> split_ifs <;> rfl

@[simp] theorem glCoreSetShader_ctxDriver (gl : GlCoreState) (type : RarchShaderType)
    (path : Option Bytes) (outcomes : ChainOutcomes) :
    (glCoreSetShader gl type path outcomes).1.ctxDriver = gl.ctxDriver := by
  rw [glCoreSetShader_only_chain]

@[simp] theorem glCoreSetShader_filter (gl : GlCoreState) (type : RarchShaderType)
    (path : Option Bytes) (outcomes : ChainOutcomes) :
    (glCoreSetShader gl type path outcomes).1.filter = gl.filter := by
  rw [glCoreSetShader_only_chain]
  rfl

@[simp] theorem glCoreSetShader_texturesIndex (gl : GlCoreState) (type : RarchShaderType)
    (path : Option Bytes) (outcomes : ChainOutcomes) :
    (glCoreSetShader gl type path outcomes).1.texturesIndex = gl.texturesIndex := by
  rw [glCoreSetShader_only_chain]

@[simp] theorem glCoreSetShader_quitting (gl : GlCoreState) (type : RarchShaderType)
    (path : Option Bytes) (outcomes : ChainOutcomes) :
    (glCoreSetShader gl type path outcomes).1.quitting = gl.quitting := by
  rw [glCoreSetShader_only_chain]

/-- With a context, and a stock chain that builds, `gl_core_set_shader`
leaves the driver holding the requested chain. -/
theorem glCoreSetShader_filterChain (hctx : gl.ctxDriver = true)
    (hok : outcomes.default = true) :
    (glCoreSetShader gl type path outcomes).1.filterChain =
      some (requestedChain gl.filter type path outcomes.fromPreset) := by
  cases type <;> cases path <;> cases hp : outcomes.fromPreset <;>
    simp [glCoreSetShader, glCoreInitDefaultFilterChain, glCoreInitFilterChainPreset,
      requestedChain, GlCoreState.filter, hctx, hok, hp]

/-- With a context and a stock chain that builds, `gl_core_init_filter_chain`
succeeds and holds the requested chain. -/
theorem glCoreInitFilterChain_eq (hctx : gl.ctxDriver = true) (hok : outcomes.default = true) :
    glCoreInitFilterChain gl path type outcomes =
      ({ gl with filterChain := some (requestedChain gl.filter type path outcomes.fromPreset) },
        true) := by
  cases type <;> cases path <;> cases hp : outcomes.fromPreset <;>
    simp [glCoreInitFilterChain, glCoreInitDefaultFilterChain, glCoreInitFilterChainPreset,
      requestedChain, GlCoreState.filter, hctx, hok, hp]

/-- With a stock chain that builds, a driver that `gl_core_init` returns has
a context and holds the requested chain. -/
theorem glCoreInit_filterChain {video : VideoInfo} {ctxFound setupOk : Bool}
    (h : glCoreInit video ctxFound setupOk path type outcomes = some gl)
    (hok : outcomes.default = true) :
    gl.ctxDriver = true ∧
      gl.filterChain = some (requestedChain gl.filter type path outcomes.fromPreset) := by
  unfold glCoreInit at h
  obtain ⟨-, h⟩ := Option.ite_none_right_eq_some.mp h
  simp only [glCoreInitFilterChain_eq, hok, if_true, Option.some.injEq] at h
  subst h
  exact ⟨rfl, rfl⟩

end Chain

/-! ## What each call keeps -/

section Step

variable (build : Build) (env : ViewportEnv) (gl : GlCoreState)

/-- `gl_core_alive` raises the flags `check_window` asks for, and changes
nothing else. -/
theorem glCoreAlive_fst (quit resize : Bool) :
    (glCoreAlive gl quit resize).1 =
      { gl with quitting := gl.quitting || quit,
                shouldResize := gl.shouldResize || (!quit && resize) } := by
  cases gl
  cases quit <;> cases resize <;> simp [glCoreAlive]

/-- `gl_core_alive` returns whether the driver is still not quitting. -/
theorem glCoreAlive_snd (quit resize : Bool) :
    (glCoreAlive gl quit resize).2 = !(glCoreAlive gl quit resize).1.quitting := rfl

/-- A call other than `gl_core_set_shader` keeps the chain, and hands it to
every filter-chain call it makes. -/
theorem driverStep_keeps_chain {e : DriverEvent} (h : ∀ t p o, e ≠ .setShader t p o) :
    (driverStep build env gl e).1.filterChain = gl.filterChain ∧
      (driverStep build env gl e).1.ctxDriver = gl.ctxDriver ∧
      (driverStep build env gl e).1.filter = gl.filter ∧
      ∀ c ∈ chainArgs (driverStep build env gl e).2, c = gl.filterChain := by
  cases e <;> simp_all [driverStep, glCoreAlive_fst, glCoreSetAspectRatio,
    glCoreApplyStateChanges, GlCoreState.filter]

/-- A call other than a frame uploads nothing and keeps the slot index. -/
theorem driverStep_keeps_slots {e : DriverEvent} (h : ∀ call info, e ≠ .frame call info) :
    uploadSlots (driverStep build env gl e).2 = [] ∧
      (driverStep build env gl e).1.texturesIndex = gl.texturesIndex := by
  cases e <;> simp_all [driverStep, glCoreAlive_fst, glCoreSetAspectRatio,
    glCoreApplyStateChanges]

/-- A call other than `gl_core_alive` returns nothing and keeps `quitting`. -/
theorem driverStep_keeps_quitting {e : DriverEvent} (h : ∀ quit resize, e ≠ .alive quit resize) :
    aliveResults (driverStep build env gl e).2 = [] ∧
      (driverStep build env gl e).1.quitting = gl.quitting := by
  cases e <;> simp_all [driverStep, glCoreSetAspectRatio, glCoreApplyStateChanges]

/-- Only `gl_core_set_shader` requests a chain. -/
theorem chainAfter_cons_of_ne {filter : GlCoreFilterChainFilter} {current : Option FilterChain}
    {e : DriverEvent} {events : List DriverEvent} (h : ∀ t p o, e ≠ .setShader t p o) :
    chainAfter filter current (e :: events) = chainAfter filter current events := by
  cases e <;> simp_all [chainAfter]

end Step

/-! ## Runs -/

section Run

variable (build : Build) (env : ViewportEnv)

/-- **While the stock chain builds, the driver holds the requested chain.**
Along every run from a driver with a context, the chain held at the end is the
one the last `gl_core_set_shader` asked for (the one held at the start if
there was none), and every frame hands on the chain held, so no frame hands
`NULL` on when the run starts with a chain. -/
theorem driverRun_filterChain {gl : GlCoreState} {events : List DriverEvent}
    (hctx : gl.ctxDriver = true) (hdef : ∀ e ∈ events, e.DefaultBuilds) :
    (driverRun build env gl events).1.filterChain = chainAfter gl.filter gl.filterChain events ∧
      (gl.filterChain.isSome → ∀ c ∈ chainArgs (driverRun build env gl events).2, c.isSome) := by
  induction events generalizing gl with
  | nil => simp [driverRun, chainAfter]
  | cons e events ih =>
    have hrest := fun e' he' => hdef e' (List.mem_cons_of_mem e he')
    by_cases hs : ∃ t p o, e = .setShader t p o
    · obtain ⟨type, path, outcomes, rfl⟩ := hs
      have hchain : (glCoreSetShader gl type path outcomes).1.filterChain =
          some (requestedChain gl.filter type path outcomes.fromPreset) :=
        glCoreSetShader_filterChain hctx (hdef _ (List.mem_cons_self _ _))
      obtain ⟨h1, h2⟩ := ih
        (show (glCoreSetShader gl type path outcomes).1.ctxDriver = true by simpa using hctx) hrest
      rw [glCoreSetShader_filter, hchain] at h1
      rw [hchain] at h2
      exact ⟨h1, fun _ => by simpa [driverRun, driverStep] using h2 rfl⟩
    · push_neg at hs
      obtain ⟨hkeep, hctx', hfilter, hargs⟩ := driverStep_keeps_chain build env gl hs
      obtain ⟨h1, h2⟩ := ih (hctx'.trans hctx) hrest
      rw [hkeep, hfilter] at h1
      rw [hkeep] at h2
      refine ⟨by rw [chainAfter_cons_of_ne hs]; exact h1, fun hsome c hc => ?_⟩
      simp only [driverRun, chainArgs_append, List.mem_append] at hc
      rcases hc with hc | hc
      · rw [hargs c hc]
        exact hsome
      · exact h2 hsome c hc

/-- **A driver built with a chain keeps one.**  If every construction of the
stock chain succeeds, then after `gl_core_init` and any run of calls the
driver holds the chain of the last request, the preset's exactly when that
request named a SLANG preset that built, and no frame hands `NULL` to the
filter-chain API. -/
theorem glCoreInit_driverRun_filterChain {video : VideoInfo} {ctxFound setupOk : Bool}
    {shaderPath : Option Bytes} {type : RarchShaderType} {outcomes : ChainOutcomes}
    {gl : GlCoreState} {events : List DriverEvent}
    (hinit : glCoreInit video ctxFound setupOk shaderPath type outcomes = some gl)
    (hok : outcomes.default = true) (hdef : ∀ e ∈ events, e.DefaultBuilds) :
    (driverRun build env gl events).1.filterChain =
      chainAfter gl.filter (some (requestedChain gl.filter type shaderPath outcomes.fromPreset))
        events ∧
      ∀ c ∈ chainArgs (driverRun build env gl events).2, c.isSome := by
  obtain ⟨hctx, hchain⟩ := glCoreInit_filterChain hinit hok
  obtain ⟨h1, h2⟩ := driverRun_filterChain build env hctx hdef
  rw [hchain] at h1 h2
  exact ⟨h1, h2 rfl⟩

/-- A SLANG preset that builds, then a request for a Cg preset: the driver
ends on the stock chain. -/
theorem glCoreInit_stock_after_other_request :
    ∃ gl, glCoreInit ⟨true, true, true⟩ true true (some [97]) .slang ⟨true, true⟩ = some gl ∧
      (driverRun desktopMenuBuild wholeWindowEnv gl
        [.setShader .other (some [98]) ⟨true, true⟩,
          .frame ⟨some 1, 2, 2, 8⟩ overhangingInfo]).1.filterChain = some (.stock gl.filter) := by
  obtain ⟨gl, hinit⟩ : ∃ gl,
      glCoreInit ⟨true, true, true⟩ true true (some [97]) .slang ⟨true, true⟩ = some gl :=
    ⟨_, rfl⟩
  refine ⟨gl, hinit, ?_⟩
  rw [(glCoreInit_driverRun_filterChain desktopMenuBuild wholeWindowEnv hinit rfl
    (by simp [DriverEvent.DefaultBuilds])).1]
  rfl

/-- **A failed fallback leaves the driver without a chain.**  When the SLANG
preset `gl_core_init` loads fails to build and so does the stock chain that
replaces it, `gl_core_init_filter_chain` still reports success: the driver is
returned with `filter_chain == NULL`, and every frame hands `NULL` to the four
filter-chain calls.  `gl_core_set_shader` leaves the driver without a chain
whenever its constructions fail. -/
theorem glCoreInit_null_filter_chain (video : VideoInfo) (shaderPath : Bytes)
    (call : FrameCall) (info : VideoFrameInfo) :
    (∃ gl, glCoreInit video true true (some shaderPath) .slang ⟨false, false⟩ = some gl ∧
      gl.filterChain = none ∧
      chainArgs (glCoreFrame build env gl call info).2 = [none, none, none, none]) ∧
    ∀ gl type path, (glCoreSetShader gl type path ⟨false, false⟩).1.filterChain = none := by
  refine ⟨⟨_, rfl, rfl, rfl⟩, fun gl type path => ?_⟩
  cases hc : gl.ctxDriver <;> cases type <;> cases path <;>
    simp [glCoreSetShader, glCoreInitDefaultFilterChain, glCoreInitFilterChainPreset, hc]

/-- **A repeated frame is not shown.**  From every state, a frame with pixels
followed by a `NULL` frame of the same size: the second frame hands the chain
the next slot, whose texels are undefined, while the texels of the frame it
repeats stay in the slot before. -/
theorem glCoreFrame_null_frame_not_repeated (gl : GlCoreState) (frame width height pitch pitch' : Nat)
    (info info' : VideoFrameInfo) :
    let first := glCoreFrame build env gl ⟨some frame, width, height, pitch⟩ info
    let second := glCoreFrame build env first.1 ⟨none, width, height, pitch'⟩ info'
    nextTexturesIndex gl.texturesIndex ≠ gl.texturesIndex ∧
      inputTextures second.2 = [⟨nextTexturesIndex gl.texturesIndex, width, height,
        if gl.rgb32 then glRgba8 else glRgb565⟩] ∧
      (second.1.textures (nextTexturesIndex gl.texturesIndex)).content = none ∧
      (second.1.textures gl.texturesIndex).content = some ⟨frame, pitch⟩ := by
  intro first second
  have hne : nextTexturesIndex gl.texturesIndex ≠ gl.texturesIndex := by
    intro h
    have := congrArg Fin.val h
    rw [nextTexturesIndex_val] at this
    have := gl.texturesIndex.isLt
    simp only [glCoreNumTextures] at *
    omega
  obtain ⟨hin1, hcontent1⟩ := glCoreFrame_input_texture build env gl
    ⟨some frame, width, height, pitch⟩ info
  obtain ⟨hin2, hcontent2⟩ := glCoreFrame_input_texture build env first.1
    ⟨none, width, height, pitch'⟩ info'
  refine ⟨hne, hin2, hcontent2, ?_⟩
  show (Function.update first.1.textures (nextTexturesIndex gl.texturesIndex) _
    gl.texturesIndex).content = _
  rw [Function.update_noteq hne.symm]
  exact hcontent1

/-- The frames of a run. -/
def frameCount : List DriverEvent → Nat
  | [] => 0
  | .frame _ _ :: events => frameCount events + 1
  | _ :: events => frameCount events

/-- A call other than a frame does not count. -/
theorem frameCount_cons_of_ne {e : DriverEvent} (events : List DriverEvent)
    (hf : ∀ call info, e ≠ .frame call info) :
    frameCount (e :: events) = frameCount events := by
  cases e with
  | frame call info => exact (hf call info rfl).elim
  | _ => rfl

/-- The `k`-th upload of a run goes to slot `textures_index + k` modulo
`GL_CORE_NUM_TEXTURES`. -/
theorem driverRun_uploadSlots (gl : GlCoreState) (events : List DriverEvent) :
    (uploadSlots (driverRun build env gl events).2).map Fin.val =
      (List.range (frameCount events)).map
        fun k => (gl.texturesIndex.val + k) % glCoreNumTextures := by
  induction events generalizing gl with
  | nil => rfl
  | cons e events ih =>
    by_cases hf : ∃ call info, e = .frame call info
    · obtain ⟨call, info, rfl⟩ := hf
      have hlt := gl.texturesIndex.isLt
      simp only [driverRun, driverStep, uploadSlots_append, uploadSlots_glCoreFrame,
        List.map_append, ih, glCoreFrame_texturesIndex, nextTexturesIndex_val, frameCount,
        List.range_succ_eq_map, List.map_cons, List.map_map, List.singleton_append]
      simp only [glCoreNumTextures] at hlt ⊢
      congr 1
      · rw [Nat.add_zero, Nat.mod_eq_of_lt hlt]
      · apply List.map_congr_left
        intro k _
        simp only [Function.comp_apply, Nat.mod_add_mod, Nat.succ_eq_add_one, Nat.add_assoc,
          Nat.add_comm 1 k]
    · push_neg at hf
      obtain ⟨hnone, hidx⟩ := driverStep_keeps_slots build env gl hf
      simp only [driverRun, uploadSlots_append, hnone, List.nil_append, ih, hidx,
        frameCount_cons_of_ne events hf]

/-- Upload `c` of a run exists and writes slot `y` exactly when `c` is below
the number of frames and `y` is `textures_index + c` modulo
`GL_CORE_NUM_TEXTURES`. -/
theorem uploadSlots_getElem?_eq_some (gl : GlCoreState) (events : List DriverEvent) (c : Nat)
    (y : Fin glCoreNumTextures) :
    (uploadSlots (driverRun build env gl events).2)[c]? = some y ↔
      c < frameCount events ∧ y.val = (gl.texturesIndex.val + c) % glCoreNumTextures := by
  have hform := congrArg (·[c]?) (driverRun_uploadSlots build env gl events)
  simp only [List.getElem?_map] at hform
  by_cases hlt : c < frameCount events
  · rw [List.getElem?_range hlt, Option.map_some'] at hform
    cases hc : (uploadSlots (driverRun build env gl events).2)[c]? with
    | none => rw [hc] at hform; cases hform
    | some z =>
      rw [hc, Option.map_some', Option.some.injEq] at hform
      rw [Option.some.injEq, Fin.ext_iff, hform]
      exact ⟨fun h => ⟨hlt, h.symm⟩, fun h => h.2.symm⟩
  · have hnone : (List.range (frameCount events))[c]? = none :=
      List.getElem?_eq_none (by simpa using hlt)
    rw [hnone, Option.map_none', Option.map_eq_none'] at hform
    simp [hform, hlt]

/-- **The slots rotate.**  In every run of the driver, two uploads into the
same slot lie a multiple of `GL_CORE_NUM_TEXTURES` uploads apart, and between
them come uploads into each of the three other slots: the texture a frame
samples is not written again for three frames. -/
theorem driverRun_uploads_rotate (gl : GlCoreState) (events : List DriverEvent) {a b : Nat}
    {x : Fin glCoreNumTextures} (hab : a < b)
    (ha : (uploadSlots (driverRun build env gl events).2)[a]? = some x)
    (hb : (uploadSlots (driverRun build env gl events).2)[b]? = some x) :
    glCoreNumTextures ∣ b - a ∧
      ∀ y, y ≠ x → ∃ c, a < c ∧ c < b ∧
        (uploadSlots (driverRun build env gl events).2)[c]? = some y := by
  rw [uploadSlots_getElem?_eq_some] at ha hb
  have hi := gl.texturesIndex.isLt
  have hx := x.isLt
  simp only [glCoreNumTextures] at ha hb hi hx
  refine ⟨by simp only [glCoreNumTextures]; omega, fun y hy => ?_⟩
  have hyx : y.val ≠ x.val := fun h => hy (Fin.ext h)
  have hy4 : y.val < 4 := y.isLt
  refine ⟨a + (y.val + 4 - x.val) % 4, by omega, by omega, ?_⟩
  rw [uploadSlots_getElem?_eq_some]
  simp only [glCoreNumTextures]
  omega

/-- Once the driver is quitting, `gl_core_alive` returns only `false`. -/
theorem driverRun_alive_of_quitting {gl : GlCoreState} {events : List DriverEvent}
    (hq : gl.quitting = true) :
    ∀ r ∈ aliveResults (driverRun build env gl events).2, r = false := by
  induction events generalizing gl with
  | nil => simp [driverRun]
  | cons e events ih =>
    intro r hr
    simp only [driverRun, aliveResults_append, List.mem_append] at hr
    by_cases ha : ∃ quit resize, e = .alive quit resize
    · obtain ⟨quit, resize, rfl⟩ := ha
      have hq' : (glCoreAlive gl quit resize).1.quitting = true := by simp [glCoreAlive_fst, hq]
      rcases hr with hr | hr
      · simpa [driverStep, glCoreAlive_snd, hq'] using hr
      · exact ih hq' r hr
    · push_neg at ha
      obtain ⟨hnone, hkeep⟩ := driverStep_keeps_quitting build env gl ha
      rcases hr with hr | hr
      · simp [hnone] at hr
      · exact ih (hkeep.trans hq) r hr

/-- **Once `gl_core_alive` returns `false`, it never returns `true` again.**
In every run of the driver, the values it returns are a block of `true`
followed by a block of `false`: `quitting` is never cleared. -/
theorem driverRun_alive_sticky (gl : GlCoreState) (events : List DriverEvent) :
    ∃ n m, aliveResults (driverRun build env gl events).2 =
      List.replicate n true ++ List.replicate m false := by
  induction events generalizing gl with
  | nil => exact ⟨0, 0, rfl⟩
  | cons e events ih =>
    by_cases ha : ∃ quit resize, e = .alive quit resize
    · obtain ⟨quit, resize, rfl⟩ := ha
      simp only [driverRun, driverStep, aliveResults_append, aliveResults_alive, glCoreAlive_snd]
      cases hq : (glCoreAlive gl quit resize).1.quitting
      · obtain ⟨n, m, h⟩ := ih (glCoreAlive gl quit resize).1
        exact ⟨n + 1, m, by rw [h]; rfl⟩
      · have hall : ∀ r ∈ aliveResults (driverRun build env (glCoreAlive gl quit resize).1
            events).2, r = false := driverRun_alive_of_quitting build env hq
        refine ⟨0, (aliveResults (driverRun build env (glCoreAlive gl quit resize).1
          events).2).length + 1, ?_⟩
        rw [List.replicate_succ, List.eq_replicate_iff.mpr ⟨rfl, hall⟩]
        simp
    · push_neg at ha
      obtain ⟨hnone, -⟩ := driverStep_keeps_quitting build env gl ha
      simpa [driverRun, hnone] using ih (driverStep build env gl e).1

/-- Five frames from a fresh driver: the first and the fifth share slot `0`,
and slots `1`, `2` and `3` are written in between. -/
theorem five_frames_rotate :
    glCoreNumTextures ∣ 4 - 0 ∧
      ∀ y : Fin glCoreNumTextures, y ≠ ⟨0, by decide⟩ → ∃ c, 0 < c ∧ c < 4 ∧
        (uploadSlots (driverRun desktopMenuBuild wholeWindowEnv GlCoreState.calloc
          (List.replicate 5 (.frame ⟨some 1, 2, 2, 8⟩ overhangingInfo))).2)[c]? = some y :=
  driverRun_uploads_rotate desktopMenuBuild wholeWindowEnv GlCoreState.calloc _ (a := 0) (b := 4)
    (x := ⟨0, by decide⟩) (by decide) rfl rfl

end Run

end GlCore
