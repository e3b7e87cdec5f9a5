import GlCore.Objects

/-!
# The whole driver: its GL objects and its menu texture, over every run

`GlCoreDriver` is `gl_core_t` with what the core model (`GlCoreState`) leaves
out: the GL names it holds and the menu texture.  Its entry points are the
core model's, whose effect on `GlCoreState` they keep unchanged, together
with `gl_core_set_texture_frame`, `gl_core_set_texture_enable`, the GL objects
of `gl_core_init`, `gl_core_update_cpu_texture` and `gl_core_free`, and the
`HAVE_MENU` part of `gl_core_frame`.

A frame with the menu texture enabled calls `menu_driver_frame`, and the menu
driver may call back into the driver from there, to upload a new menu
texture or to disable it; the frame then checks `menu_texture_enable` again
before it draws.  The calls the callback makes are part of the frame event
(`menuCalls`).

Building a filter chain from a preset generates a texture for each LUT
(`gl_core_filter_chain_load_lut`); those textures are the chain's, not the
driver's.  `gl_core_free` and the error path of `gl_core_init` tear the
context driver down before `gl_core_destroy_resources`, so the deletes of the
driver's objects are calls made after the teardown, not changes of a live
context.

* `glCoreRun_core` — the core model is what this layer does to
  `GlCoreState`, run for run;
* `Owns.step` — every call keeps the driver's ownership, the textures of a
  new chain's LUTs joining what others own, and deletes nothing stray;
* `glCoreInitObjects_owns`, `glCoreInitObjects_failure_deletes` — a
  `gl_core_init` that succeeds owns what it created; one that fails deletes
  exactly that, once each, after the teardown;
* `glCoreRun_texture_creations_le` — a run of frames of one size creates at
  most `GL_CORE_NUM_TEXTURES` textures beyond those of its chains' LUTs and
  its menu uploads, however many frames it has.
-/

namespace GlCore

/-! ## The menu texture -/

/-- What `gl_core_set_texture_frame` uploads into the menu texture: the frame
pointer (`none` is `NULL`), whether it is 32-bit, its size, and whether
`menu_linear_filter` asks for linear filtering. -/
structure MenuImage where
  frame : Option Nat
  rgb32 : Bool
  width : Nat
  height : Nat
  linearFilter : Bool
  deriving DecidableEq, Repr

/-- The menu fields of `gl_core_t`. -/
structure GlCoreMenu where
  /-- What the menu texture was uploaded from. -/
  image : MenuImage
  /-- `menu_texture_alpha`. -/
  alpha : CFloat
  /-- `menu_texture_enable`. -/
  enable : Bool
  /-- `menu_texture_full_screen`. -/
  fullScreen : Bool
  deriving DecidableEq, Repr

/-- The menu fields as `calloc` leaves them. -/
def GlCoreMenu.calloc : GlCoreMenu := ⟨⟨none, false, 0, 0, false⟩, .zero, false, false⟩

/-- `gl_core_t` whole: the fields of the core model, the GL names, the menu. -/
structure GlCoreDriver where
  core : GlCoreState
  objects : GlCoreObjects
  menu : GlCoreMenu

/-- A call into the menu texture, from the frontend or from `menu_driver_frame`. -/
inductive MenuCall
  | setTextureFrame (image : MenuImage) (alpha : CFloat)
  | setTextureEnable (state fullScreen : Bool)

/-- `gl_core_set_texture_frame`: the menu texture is replaced by a new one
holding `image`, and `alpha` kept for drawing it. -/
def glCoreSetTextureFrame (d : GlCoreDriver) (ctx : GlContext) (image : MenuImage)
    (alpha : CFloat) : GlCoreDriver × GlContext :=
  let r := replaceObject d.objects ctx .menuTexture
  ({ d with objects := r.1, menu := { d.menu with image := image, alpha := alpha } }, r.2)

/-- `gl_core_set_texture_enable`. -/
def glCoreSetTextureEnable (d : GlCoreDriver) (state fullScreen : Bool) : GlCoreDriver :=
  { d with menu := { d.menu with enable := state, fullScreen := fullScreen } }

/-- One menu call. -/
def menuCall (d : GlCoreDriver) (ctx : GlContext) : MenuCall → GlCoreDriver × GlContext
  | .setTextureFrame image alpha => glCoreSetTextureFrame d ctx image alpha
  | .setTextureEnable state fullScreen => (glCoreSetTextureEnable d state fullScreen, ctx)

/-- Menu calls one after the other. -/
def menuCalls : GlCoreDriver → GlContext → List MenuCall → GlCoreDriver × GlContext
  | d, ctx, [] => (d, ctx)
  | d, ctx, c :: cs =>
    let r := menuCall d ctx c
    menuCalls r.1 r.2 cs

/-! ## The filter chain's textures -/

/-- Whether a call builds a chain with `gl_core_filter_chain_create_from_preset`:
it has a path, of a SLANG preset.  `gl_core_set_shader` drops the path of
another type, and `gl_core_init_filter_chain` builds the stock chain for it. -/
def presetAttempted (type : RarchShaderType) (path : Option Bytes) : Bool :=
  type == .slang && path.isSome

/-- The `glGenTextures` calls of `gl_core_filter_chain_load_lut`, one for each
of the first `n` LUTs of the preset, those whose images load before one does
not: the context after, and the names, in order.  The textures are the
chain's. -/
def loadLutTextures : GlContext → Nat → GlContext × List Nat
  | ctx, 0 => (ctx, [])
  | ctx, n + 1 =>
    let r := ctx.gen .texture
    let rest := loadLutTextures r.1 n
    (rest.1, r.2 :: rest.2)

/-! ## Entry points -/

/-- What the whole driver does that the properties below look at: the core
model's effects, `menu_driver_frame`, the draws of
`gl_core_draw_menu_texture`, with the texture they bind, the image and alpha
it shows, and whether it covers the whole window, and the textures
`gl_core_filter_chain_load_lut` generates for a new chain's LUTs. -/
inductive GlCoreEffect
  | driver (effect : DriverEffect)
  | menuDriverFrame
  | drawMenuTexture (texture : Nat) (image : MenuImage) (alpha : CFloat) (fullScreen : Bool)
  | lutTexture (name : Nat)

/-- The name a LUT texture effect generated, if the effect is one. -/
def GlCoreEffect.lutTextureName : GlCoreEffect → Option Nat
  | .lutTexture name => some name
  | _ => none

/-- The LUT textures generated, in order. -/
def lutTextures (effects : List GlCoreEffect) : List Nat :=
  effects.filterMap GlCoreEffect.lutTextureName

/-- The `HAVE_MENU` part of `gl_core_frame`: with the menu texture enabled,
`menu_driver_frame` runs (and makes `calls`), and the menu texture, if there
is one and it is still enabled, is drawn by `gl_core_draw_menu_texture`,
which streams its vertices through a buffer it creates and deletes. -/
def glCoreFrameMenu (build : Build) (d : GlCoreDriver) (ctx : GlContext) (calls : List MenuCall) :
    GlCoreDriver × GlContext × List GlCoreEffect :=
  if build.haveMenu ∧ d.menu.enable then
    let r := menuCalls d ctx calls
    if r.1.menu.enable ∧ r.1.objects.menuTexture ≠ 0 then
      let vbo := r.2.gen .buffer
      (r.1, vbo.1.delete .buffer vbo.2,
        [.menuDriverFrame, .drawMenuTexture r.1.objects.menuTexture r.1.menu.image r.1.menu.alpha
          r.1.menu.fullScreen])
    else (r.1, r.2, [.menuDriverFrame])
  else (d, ctx, [])

/-- `gl_core_frame`, whole: `gl_core_update_cpu_texture` re-creates the
current streamed texture when the frame's size differs from it, the core
model uploads and runs the chain, and the menu is drawn over the result. -/
def glCoreFrameObjects (build : Build) (env : ViewportEnv) (d : GlCoreDriver) (ctx : GlContext)
    (call : FrameCall) (info : VideoFrameInfo) (calls : List MenuCall) :
    GlCoreDriver × GlContext × List GlCoreEffect :=
  let streamed := d.core.textures d.core.texturesIndex
  let uploaded :=
    if call.width ≠ streamed.width ∨ call.height ≠ streamed.height then
      replaceObject d.objects ctx (.texture d.core.texturesIndex)
    else (d.objects, ctx)
  let frame := glCoreFrame build env d.core call info
  let menu := glCoreFrameMenu build { d with core := frame.1, objects := uploaded.1 } uploaded.2 calls
  (menu.1, menu.2.1, frame.2.map .driver ++ menu.2.2)

/-- A call into the driver once it is initialised.  A `setShader` call also
says how many of the preset's LUT images load before one does not (all of
them, for a preset that builds), should it build one from a preset. -/
inductive GlCoreEvent
  | setShader (type : RarchShaderType) (path : Option Bytes) (outcomes : ChainOutcomes)
      (luts : Nat)
  | setViewport (info : VideoFrameInfo) (width height : BitVec 32) (forceFull : Bool)
  | frame (call : FrameCall) (info : VideoFrameInfo) (menuCalls : List MenuCall)
  | alive (quit resize : Bool)
  | setAspectRatio
  | applyStateChanges
  | menu (call : MenuCall)

/-- The call of the core model an event is, if any. -/
def GlCoreEvent.toDriverEvent : GlCoreEvent → Option DriverEvent
  | .setShader type path outcomes _ => some (.setShader type path outcomes)
  | .setViewport info width height forceFull => some (.setViewport info width height forceFull)
  | .frame call info _ => some (.frame call info)
  | .alive quit resize => some (.alive quit resize)
  | .setAspectRatio => some .setAspectRatio
  | .applyStateChanges => some .applyStateChanges
  | .menu _ => none

/-- A call that only the core model's fields see. -/
def GlCoreDriver.coreStep (build : Build) (env : ViewportEnv) (d : GlCoreDriver)
    (ctx : GlContext) (e : DriverEvent) : GlCoreDriver × GlContext × List GlCoreEffect :=
  let r := driverStep build env d.core e
  ({ d with core := r.1 }, ctx, r.2.map .driver)

/-- One call, and its effects. -/
def glCoreStep (build : Build) (env : ViewportEnv) (d : GlCoreDriver) (ctx : GlContext) :
    GlCoreEvent → GlCoreDriver × GlContext × List GlCoreEffect
  | .frame call info calls => glCoreFrameObjects build env d ctx call info calls
  | .menu c =>
    let r := menuCall d ctx c
    (r.1, r.2, [])
  | .setShader type path outcomes luts =>
    let core := d.coreStep build env ctx (.setShader type path outcomes)
    let lut := loadLutTextures ctx (if presetAttempted type path then luts else 0)
    (core.1, lut.1, core.2.2 ++ lut.2.map .lutTexture)
  | .setViewport info width height forceFull =>
    d.coreStep build env ctx (.setViewport info width height forceFull)
  | .alive quit resize => d.coreStep build env ctx (.alive quit resize)
  | .setAspectRatio => d.coreStep build env ctx .setAspectRatio
  | .applyStateChanges => d.coreStep build env ctx .applyStateChanges

/-- A run of calls, and all their effects in order. -/
def glCoreRun (build : Build) (env : ViewportEnv) :
    GlCoreDriver → GlContext → List GlCoreEvent → GlCoreDriver × GlContext × List GlCoreEffect
  | d, ctx, [] => (d, ctx, [])
  | d, ctx, e :: es =>
    let s := glCoreStep build env d ctx e
    let r := glCoreRun build env s.1 s.2.1 es
    (r.1, r.2.1, s.2.2 ++ r.2.2)

/-- The menu pipelines `gl_core_init` compiles, once a context is found and
the video mode set (`modeOk`, which also covers the `"null"` context check). -/
def glCoreInitMenuPipelines (ctxFound modeOk : Bool) (compiles : GlCorePipeline → Bool)
    (ctx : GlContext) : GlCoreObjects × GlContext × Bool :=
  if ctxFound ∧ modeOk then glCoreInitPipelines compiles glCorePipelineOrder .calloc ctx
  else (.calloc, ctx, false)

/-- What `gl_core_init` leaves behind. -/
structure GlCoreInitResult where
  /-- The driver; `none` is `NULL`. -/
  driver : Option GlCoreDriver
  ctx : GlContext
  /-- The textures `gl_core_filter_chain_load_lut` generated for the chain. -/
  lutTextures : List Nat
  /-- On failure, the `glDelete*` calls of `gl_core_destroy_resources`, made
  after `video_context_driver_destroy`. -/
  lateDeletes : List GlObject

/-- `gl_core_init` with its GL objects: the menu pipelines, `compiles p` being
whether pipeline `p` compiles; then the filter chain, whose LUTs get textures
when it is built from a preset, `luts` of them; the core model decides
whether the driver comes up, and a vertex array is created last.  On failure
the context driver is torn down, and only then are the driver's objects
deleted. -/
def glCoreInitObjects (video : VideoInfo) (ctxFound modeOk : Bool)
    (compiles : GlCorePipeline → Bool) (shaderPath : Option Bytes) (type : RarchShaderType)
    (outcomes : ChainOutcomes) (luts : Nat) (ctx : GlContext) : GlCoreInitResult :=
  let pipelines := glCoreInitMenuPipelines ctxFound modeOk compiles ctx
  let lut := loadLutTextures pipelines.2.1
    (if pipelines.2.2 && presetAttempted type shaderPath then luts else 0)
  match glCoreInit video ctxFound (modeOk && pipelines.2.2) shaderPath type outcomes with
  | some core =>
    let vao := createObject pipelines.1 lut.1 .vao
    ⟨some ⟨core, vao.1, .calloc⟩, vao.2, lut.2, []⟩
  | none => ⟨none, lut.1, lut.2, glCoreDestroyResources pipelines.1⟩

/-- `gl_core_free`: `font_driver_free_osd`, then `video_context_driver_free`,
which tears the context down, and only then `gl_core_destroy_resources`: the
`glDelete*` calls it makes, all after the teardown. -/
def glCoreFree (d : GlCoreDriver) : List GlObject :=
  glCoreDestroyResources d.objects

/-! ## The core model is what this layer does to `GlCoreState` -/

/-- The core model's effect, if the effect is one. -/
def GlCoreEffect.driverEffect : GlCoreEffect → Option DriverEffect
  | .driver e => some e
  | _ => none

section Core

variable (build : Build) (env : ViewportEnv)

/-- Menu calls leave the core model's fields alone. -/
theorem menuCalls_core (d : GlCoreDriver) (ctx : GlContext) (cs : List MenuCall) :
    (menuCalls d ctx cs).1.core = d.core := by
  induction cs generalizing d ctx with
  | nil => rfl
  | cons c cs ih =>
    rw [menuCalls, ih]
    cases c <;> rfl

theorem glCoreFrameMenu_core (d : GlCoreDriver) (ctx : GlContext) (cs : List MenuCall) :
    (glCoreFrameMenu build d ctx cs).1.core = d.core := by
  unfold glCoreFrameMenu
  dsimp only
  split_ifs <;> simp [menuCalls_core]

theorem glCoreFrameMenu_driverEffects (d : GlCoreDriver) (ctx : GlContext) (cs : List MenuCall) :
    (glCoreFrameMenu build d ctx cs).2.2.filterMap GlCoreEffect.driverEffect = [] := by
  unfold glCoreFrameMenu
  dsimp only
  split_ifs <;> rfl

/-- One call of this layer is, on `GlCoreState`, the core model's call. -/
theorem glCoreStep_core (d : GlCoreDriver) (ctx : GlContext) (e : GlCoreEvent) :
    (glCoreStep build env d ctx e).1.core =
        ((e.toDriverEvent.map (driverStep build env d.core ·)).map (·.1)).getD d.core ∧
      (glCoreStep build env d ctx e).2.2.filterMap GlCoreEffect.driverEffect =
        ((e.toDriverEvent.map (driverStep build env d.core ·)).map (·.2)).getD [] := by
  cases e with
  | frame call info cs =>
    simp [glCoreStep, glCoreFrameObjects, GlCoreEvent.toDriverEvent, driverStep,
      glCoreFrameMenu_core, glCoreFrameMenu_driverEffects, Function.comp_def,
      GlCoreEffect.driverEffect]
  | menu c => cases c <;> exact ⟨rfl, rfl⟩
  | _ =>
    simp [glCoreStep, GlCoreDriver.coreStep, GlCoreEvent.toDriverEvent, Function.comp_def,
      GlCoreEffect.driverEffect]

end Core

/-! ## Ownership, call by call -/

section Ownership

variable (build : Build) (env : ViewportEnv) {outside : Finset GlObject}

/-- A menu call keeps ownership, and deletes nothing stray. -/
theorem Owns.menuCall {d : GlCoreDriver} {ctx : GlContext} (h : Owns outside ctx d.objects)
    (c : MenuCall) :
    Owns outside (menuCall d ctx c).2 (menuCall d ctx c).1.objects ∧
      (menuCall d ctx c).2.strayDeletes = ctx.strayDeletes := by
  cases c with
  | setTextureFrame image alpha => exact h.replace .menuTexture
  | setTextureEnable state fullScreen => exact ⟨h, rfl⟩

theorem Owns.menuCalls (cs : List MenuCall) :
    ∀ {d : GlCoreDriver} {ctx : GlContext}, Owns outside ctx d.objects →
      Owns outside (menuCalls d ctx cs).2 (menuCalls d ctx cs).1.objects ∧
        (menuCalls d ctx cs).2.strayDeletes = ctx.strayDeletes := by
  induction cs with
  | nil => exact fun h => ⟨h, rfl⟩
  | cons c cs ih =>
    intro d ctx h
    obtain ⟨h1, s1⟩ := h.menuCall c
    obtain ⟨h2, s2⟩ := ih h1
    exact ⟨h2, s2.trans s1⟩

/-- The menu part of a frame keeps ownership: the vertex buffer it streams
through is deleted in the same frame. -/
theorem Owns.frameMenu {objs : GlCoreObjects} {ctx : GlContext} (h : Owns outside ctx objs)
    (core : GlCoreState) (menu : GlCoreMenu) (cs : List MenuCall) :
    let r := glCoreFrameMenu build ⟨core, objs, menu⟩ ctx cs
    Owns outside r.2.1 r.1.objects ∧ r.2.1.strayDeletes = ctx.strayDeletes := by
  obtain ⟨h1, s1⟩ := h.menuCalls (d := ⟨core, objs, menu⟩) cs
  unfold glCoreFrameMenu
  dsimp only
  split_ifs
  · obtain ⟨h2, s2⟩ := h1.genDelete .buffer
    exact ⟨h2, s2.trans s1⟩
  · exact ⟨h1, s1⟩
  · exact ⟨h, rfl⟩

/-- **The chain's LUT textures join what others own**: the driver keeps its
own objects, and the new textures were not alive before. -/
theorem Owns.loadLuts {objs : GlCoreObjects} (n : Nat) :
    ∀ {outside : Finset GlObject} {ctx : GlContext}, Owns outside ctx objs →
      let r := loadLutTextures ctx n
      Owns (outside ∪ textureObjects r.2.toFinset) r.1 objs ∧
        r.1.strayDeletes = ctx.strayDeletes ∧ ∀ o ∈ textureObjects r.2.toFinset, o ∉ ctx.live := by
  induction n with
  | zero =>
    intro outside ctx h
    simpa [loadLutTextures, textureObjects] using h
  | succ n ih =>
    intro outside ctx h
    obtain ⟨h1, s1, f1⟩ := ih (h.foreignGen .texture)
    have hnames : textureObjects (loadLutTextures ctx (n + 1)).2.toFinset =
        insert ⟨.texture, ctx.next .texture⟩
          (textureObjects (loadLutTextures (ctx.gen .texture).1 n).2.toFinset) := by
      simp [loadLutTextures, textureObjects, Finset.image_insert]
    dsimp only
    rw [hnames, Finset.union_insert, ← Finset.insert_union]
    refine ⟨h1, s1, fun o ho hlive => ?_⟩
    rcases Finset.mem_insert.mp ho with rfl | ho
    · exact ctx.next_not_mem .texture hlive
    · exact f1 o ho (by simp [hlive])

@[simp] theorem lutTextures_append (a b : List GlCoreEffect) :
    lutTextures (a ++ b) = lutTextures a ++ lutTextures b :=
  List.filterMap_append _ _ _

@[simp] theorem lutTextures_map_driver (es : List DriverEffect) :
    lutTextures (es.map .driver) = [] := by
  simp [lutTextures, Function.comp_def, GlCoreEffect.lutTextureName]

@[simp] theorem lutTextures_map_lutTexture (names : List Nat) :
    lutTextures (names.map .lutTexture) = names := by
  simp [lutTextures, Function.comp_def, GlCoreEffect.lutTextureName]

/-- The menu part of a frame generates no LUT texture. -/
@[simp] theorem lutTextures_glCoreFrameMenu (d : GlCoreDriver) (ctx : GlContext)
    (cs : List MenuCall) : lutTextures (glCoreFrameMenu build d ctx cs).2.2 = [] := by
  unfold glCoreFrameMenu
  dsimp only
  split_ifs <;> rfl

/-- For a call that generates no LUT texture, what `Owns.step` states is
ownership over the same parties. -/
theorem Owns.of_no_luts (ctx : GlContext) {r : GlCoreDriver × GlContext × List GlCoreEffect}
    (he : lutTextures r.2.2 = [])
    (h : Owns outside r.2.1 r.1.objects ∧ r.2.1.strayDeletes = ctx.strayDeletes) :
    Owns (outside ∪ textureObjects (lutTextures r.2.2).toFinset) r.2.1 r.1.objects ∧
      r.2.1.strayDeletes = ctx.strayDeletes ∧
      ∀ o ∈ textureObjects (lutTextures r.2.2).toFinset, o ∉ ctx.live := by
  rw [he, List.toFinset_nil, textureObjects, Finset.image_empty, Finset.union_empty]
  exact ⟨h.1, h.2, fun _ ho => absurd ho (Finset.not_mem_empty _)⟩

/-- **Every call keeps ownership**, the LUT textures of a new chain joining
what others own, and deletes nothing stray. -/
theorem Owns.step {d : GlCoreDriver} {ctx : GlContext} (h : Owns outside ctx d.objects)
    (e : GlCoreEvent) :
    let r := glCoreStep build env d ctx e
    Owns (outside ∪ textureObjects (lutTextures r.2.2).toFinset) r.2.1 r.1.objects ∧
      r.2.1.strayDeletes = ctx.strayDeletes ∧
      ∀ o ∈ textureObjects (lutTextures r.2.2).toFinset, o ∉ ctx.live := by
  cases e with
  | frame call info cs =>
    refine Owns.of_no_luts ctx (by simp [glCoreStep, glCoreFrameObjects]) ?_
    unfold glCoreStep glCoreFrameObjects
    dsimp only
    split_ifs
    · obtain ⟨h1, s1⟩ := h.replace (.texture d.core.texturesIndex)
      obtain ⟨h2, s2⟩ := h1.frameMenu build (glCoreFrame build env d.core call info).1 d.menu cs
      exact ⟨h2, s2.trans s1⟩
    · exact h.frameMenu build _ d.menu cs
  | menu c => exact Owns.of_no_luts ctx rfl (h.menuCall c)
  | setShader type path outcomes luts =>
    simpa only [glCoreStep, GlCoreDriver.coreStep, lutTextures_append, lutTextures_map_driver,
      lutTextures_map_lutTexture, List.nil_append] using
      h.loadLuts (if presetAttempted type path then luts else 0)
  | _ => exact Owns.of_no_luts ctx (lutTextures_map_driver _) ⟨h, rfl⟩

end Ownership

/-! ## `gl_core_init` -/

section Init

variable (video : VideoInfo) (ctxFound modeOk : Bool) (compiles : GlCorePipeline → Bool)
  (shaderPath : Option Bytes) (type : RarchShaderType) (outcomes : ChainOutcomes) (luts : Nat)

/-- Creating the pipelines touches no other slot. -/
theorem glCoreInitPipelines_get_of_ne {s : GlCoreSlot} (hs : ∀ p, s ≠ .pipeline p) :
    ∀ (ps : List GlCorePipeline) (objs : GlCoreObjects) (ctx : GlContext),
      (glCoreInitPipelines compiles ps objs ctx).1.get s = objs.get s
  | [], _, _ => rfl
  | p :: ps, objs, ctx => by
    simp only [glCoreInitPipelines]
    split
    · rw [glCoreInitPipelines_get_of_ne hs ps]
      simp [createObject, hs p]
    · rfl

/-- What `gl_core_init` holds before the vertex array: its pipelines, owned,
and no vertex array yet. -/
theorem glCoreInitMenuPipelines_owns (ctx : GlContext) :
    let p := glCoreInitMenuPipelines ctxFound modeOk compiles ctx
    Owns ctx.live p.2.1 p.1 ∧ p.2.1.strayDeletes = ctx.strayDeletes ∧ p.1.get .vao = 0 := by
  unfold glCoreInitMenuPipelines
  split_ifs
  · obtain ⟨h, hs⟩ := Owns.initPipelines compiles glCorePipelineOrder .calloc ctx (owns_calloc ctx)
      (by decide) (fun p _ => GlCoreObjects.calloc_get _)
    exact ⟨h, hs, by rw [glCoreInitPipelines_get_of_ne compiles (s := .vao) (fun _ => nofun)]; rfl⟩
  · exact ⟨owns_calloc ctx, rfl, rfl⟩

/-- A `gl_core_init` that succeeds owns what it created; the textures of its
chain's LUTs are the chain's, and new. -/
theorem glCoreInitObjects_owns {ctx ctx' : GlContext} {d : GlCoreDriver} {lut : List Nat}
    {late : List GlObject}
    (hinit : glCoreInitObjects video ctxFound modeOk compiles shaderPath type outcomes luts ctx =
      ⟨some d, ctx', lut, late⟩) :
    Owns (ctx.live ∪ textureObjects lut.toFinset) ctx' d.objects ∧
      ctx'.strayDeletes = ctx.strayDeletes ∧ ∀ o ∈ textureObjects lut.toFinset, o ∉ ctx.live := by
  obtain ⟨h, hs, hvao⟩ := glCoreInitMenuPipelines_owns ctxFound modeOk compiles ctx
  obtain ⟨hl, hls, hlf⟩ := h.loadLuts
    (if (glCoreInitMenuPipelines ctxFound modeOk compiles ctx).2.2 && presetAttempted type shaderPath
      then luts else 0)
  simp only [glCoreInitObjects] at hinit
  split at hinit
  · simp only [GlCoreInitResult.mk.injEq, Option.some.injEq] at hinit
    obtain ⟨rfl, rfl, rfl, -⟩ := hinit
    obtain ⟨hc, hcs⟩ := hl.create hvao
    exact ⟨hc, hcs.trans (hls.trans hs), fun o ho hlive => hlf o ho (h.outside_mem hlive)⟩
  · simp at hinit

/-- **A failed `gl_core_init` deletes what it created, once each, and nothing
else**: its `glDelete*` calls name exactly the live objects that were alive
neither before it nor as its chain's LUT textures. -/
theorem glCoreInitObjects_failure_deletes {ctx ctx' : GlContext} {lut : List Nat}
    {late : List GlObject}
    (hinit : glCoreInitObjects video ctxFound modeOk compiles shaderPath type outcomes luts ctx =
      ⟨none, ctx', lut, late⟩) :
    late.Nodup ∧ ∀ o, o ∈ late ↔ o ∈ ctx'.live ∧ o ∉ ctx.live ∪ textureObjects lut.toFinset := by
  obtain ⟨h, -, -⟩ := glCoreInitMenuPipelines_owns ctxFound modeOk compiles ctx
  obtain ⟨hl, -, -⟩ := h.loadLuts
    (if (glCoreInitMenuPipelines ctxFound modeOk compiles ctx).2.2 && presetAttempted type shaderPath
      then luts else 0)
  simp only [glCoreInitObjects] at hinit
  split at hinit
  · simp at hinit
  · simp only [GlCoreInitResult.mk.injEq, true_and] at hinit
    obtain ⟨rfl, rfl, rfl⟩ := hinit
    exact ⟨hl.nodup_destroyResources, fun o => hl.mem_destroyResources_iff⟩

/-- A desktop `gl_core_init` whose font pipeline does not compile fails after
creating the alpha-blend program, and deletes that program alone. -/
theorem font_failure_deletes_alpha_blend :
    ∃ ctx' lut late, glCoreInitObjects ⟨true, true, true⟩ true true (· == .alphaBlend) none .none
        ⟨true, true⟩ 0 GlContext.empty = ⟨none, ctx', lut, late⟩ ∧ late = [⟨.program, 1⟩] ∧
      late.Nodup ∧
        ∀ o, o ∈ late ↔ o ∈ ctx'.live ∧ o ∉ GlContext.empty.live ∪ textureObjects lut.toFinset :=
  ⟨_, _, _, rfl, rfl, glCoreInitObjects_failure_deletes ⟨true, true, true⟩ true true
    (· == .alphaBlend) none .none ⟨true, true⟩ 0 rfl⟩

end Init

/-! ## Frames of one size stop creating textures -/

section Creations

variable (build : Build) (env : ViewportEnv) (width height : Nat)

/-- Whether a menu call uploads a menu texture. -/
def MenuCall.setsFrame : MenuCall → Bool
  | .setTextureFrame _ _ => true
  | .setTextureEnable _ _ => false

/-- The menu textures a call asks for: one per `gl_core_set_texture_frame`,
made directly or from the menu callback of a frame. -/
def GlCoreEvent.menuUploads : GlCoreEvent → Nat
  | .frame _ _ calls => calls.countP (·.setsFrame)
  | .menu c => if c.setsFrame then 1 else 0
  | _ => 0

/-- The menu textures a run asks for. -/
def menuUploadCount : List GlCoreEvent → Nat
  | [] => 0
  | e :: es => e.menuUploads + menuUploadCount es

/-- A call whose frame, if it makes one, is of size `width × height`. -/
def GlCoreEvent.keepsTextureSize : GlCoreEvent → Bool
  | .frame call _ _ => call.width == width && call.height == height
  | _ => true

/-- The streamed textures a frame of size `width × height` re-creates: those of
another size. -/
def staleTextures (core : GlCoreState) : Finset (Fin glCoreNumTextures) :=
  Finset.univ.filter fun i => (core.textures i).width ≠ width ∨ (core.textures i).height ≠ height

/-- Each menu upload generates one texture. -/
theorem menuCalls_next_texture (cs : List MenuCall) :
    ∀ (d : GlCoreDriver) (ctx : GlContext),
      (menuCalls d ctx cs).2.next .texture = ctx.next .texture + cs.countP (·.setsFrame) := by
  induction cs with
  | nil => exact fun _ _ => rfl
  | cons c cs ih =>
    intro d ctx
    rw [menuCalls, ih]
    cases c with
    | setTextureFrame image alpha =>
      simp [menuCall, glCoreSetTextureFrame, replaceObject_next, GlCoreSlot.kind, MenuCall.setsFrame]
      omega
    | setTextureEnable state fullScreen => simp [menuCall, MenuCall.setsFrame]

/-- The menu part of a frame generates a texture per menu upload of its
callback, if the menu runs at all: its vertex buffer is a buffer. -/
theorem glCoreFrameMenu_next_texture_le (d : GlCoreDriver) (ctx : GlContext) (cs : List MenuCall) :
    (glCoreFrameMenu build d ctx cs).2.1.next .texture ≤
      ctx.next .texture + cs.countP (·.setsFrame) := by
  have hcalls := menuCalls_next_texture cs d ctx
  unfold glCoreFrameMenu
  dsimp only
  split_ifs <;> simp [hcalls, Function.update_noteq]

/-- `n` LUT textures take `n` names. -/
theorem loadLutTextures_next (n : Nat) :
    ∀ ctx : GlContext, (loadLutTextures ctx n).1.next .texture = ctx.next .texture + n ∧
      (loadLutTextures ctx n).2.length = n := by
  induction n with
  | zero => exact fun _ => ⟨rfl, rfl⟩
  | succ n ih =>
    intro ctx
    obtain ⟨h1, h2⟩ := ih (ctx.gen .texture).1
    simp only [loadLutTextures, List.length_cons, h1, h2, GlContext.gen_next,
      Function.update_same, and_true]
    omega

/-- A frame of size `width × height` leaves the current slot's texture of that
size, and the others as they were. -/
theorem staleTextures_glCoreFrame (core : GlCoreState) (call : FrameCall) (info : VideoFrameInfo)
    (hw : call.width = width) (hh : call.height = height) :
    staleTextures width height (glCoreFrame build env core call info).1 =
      (staleTextures width height core).erase core.texturesIndex := by
  ext j
  by_cases hj : j = core.texturesIndex
  · subst hj
    simp [staleTextures, glCoreFrame, glCoreUpdateCpuTexture_eq, hw, hh]
  · simp [staleTextures, glCoreFrame, Function.update_noteq hj, hj]

@[simp] theorem glCoreSetShader_textures (gl : GlCoreState) (type : RarchShaderType)
    (path : Option Bytes) (outcomes : ChainOutcomes) :
    (glCoreSetShader gl type path outcomes).1.textures = gl.textures := by
  rw [glCoreSetShader_only_chain]

@[simp] theorem glCoreAlive_textures (gl : GlCoreState) (quit resize : Bool) :
    (glCoreAlive gl quit resize).1.textures = gl.textures := by
  unfold glCoreAlive
  split_ifs <;> rfl

/-- **Each call trades a texture created for a stale slot made current**,
apart from the textures of its LUTs and its menu uploads: the textures created
so far plus the slots still stale grow by no more than those. -/
theorem glCoreStep_next_texture (d : GlCoreDriver) (ctx : GlContext) (e : GlCoreEvent)
    (he : e.keepsTextureSize width height = true) :
    (glCoreStep build env d ctx e).2.1.next .texture +
        (staleTextures width height (glCoreStep build env d ctx e).1.core).card ≤
      ctx.next .texture + (staleTextures width height d.core).card +
        (lutTextures (glCoreStep build env d ctx e).2.2).length + e.menuUploads := by
  cases e with
  | frame call info cs =>
    simp only [GlCoreEvent.keepsTextureSize, Bool.and_eq_true, beq_iff_eq] at he
    obtain ⟨hw, hh⟩ := he
    have hmenu := glCoreFrameMenu_next_texture_le build
    simp only [glCoreStep, glCoreFrameObjects, glCoreFrameMenu_core, lutTextures_append,
      lutTextures_map_driver, lutTextures_glCoreFrameMenu, List.append_nil, List.length_nil,
      GlCoreEvent.menuUploads, staleTextures_glCoreFrame build env width height _ call info hw hh]
    have hmem : d.core.texturesIndex ∈ staleTextures width height d.core ↔
        call.width ≠ (d.core.textures d.core.texturesIndex).width ∨
          call.height ≠ (d.core.textures d.core.texturesIndex).height := by
      simp [staleTextures, hw, hh, eq_comm]
    split_ifs with hs
    · have hm := hmenu ⟨(glCoreFrame build env d.core call info).1,
        (replaceObject d.objects ctx (.texture d.core.texturesIndex)).1, d.menu⟩
        (replaceObject d.objects ctx (.texture d.core.texturesIndex)).2 cs
      rw [Finset.card_erase_of_mem (hmem.mpr hs)]
      have hpos := Finset.card_pos.mpr ⟨_, hmem.mpr hs⟩
      simp only [replaceObject_next, GlCoreSlot.kind, Function.update_same] at hm
      omega
    · dsimp only
      have hm := hmenu ⟨(glCoreFrame build env d.core call info).1, d.objects, d.menu⟩ ctx cs
      rw [Finset.erase_eq_of_not_mem (mt hmem.mp hs)]
      omega
  | menu c =>
    cases c with
    | setTextureFrame image alpha =>
      simp [glCoreStep, menuCall, glCoreSetTextureFrame, replaceObject_next, GlCoreSlot.kind,
        GlCoreEvent.menuUploads, MenuCall.setsFrame, lutTextures]
      omega
    | setTextureEnable state fullScreen =>
      simp [glCoreStep, menuCall, glCoreSetTextureEnable, lutTextures]
  | setShader type path outcomes luts =>
    obtain ⟨hnext, hlen⟩ := loadLutTextures_next (if presetAttempted type path then luts else 0) ctx
    simp [glCoreStep, GlCoreDriver.coreStep, driverStep, staleTextures, hnext, hlen,
      GlCoreEvent.menuUploads]
    omega
  | _ =>
    simp [glCoreStep, GlCoreDriver.coreStep, staleTextures, driverStep, glCoreSetAspectRatio,
      glCoreApplyStateChanges, GlCoreEvent.menuUploads]

/-- Over a run of such calls, likewise. -/
theorem glCoreRun_next_texture (es : List GlCoreEvent)
    (hes : ∀ e ∈ es, e.keepsTextureSize width height = true) :
    ∀ (d : GlCoreDriver) (ctx : GlContext),
      (glCoreRun build env d ctx es).2.1.next .texture +
          (staleTextures width height (glCoreRun build env d ctx es).1.core).card ≤
        ctx.next .texture + (staleTextures width height d.core).card +
          (lutTextures (glCoreRun build env d ctx es).2.2).length +
          menuUploadCount es := by
  induction es with
  | nil => exact fun _ _ => by simp [glCoreRun, lutTextures, menuUploadCount]
  | cons e es ih =>
    intro d ctx
    have hstep := glCoreStep_next_texture build env width height d ctx e
      (hes e (List.mem_cons_self _ _))
    have hrun := ih (fun e he => hes e (List.mem_cons_of_mem _ he))
      (glCoreStep build env d ctx e).1 (glCoreStep build env d ctx e).2.1
    simp only [glCoreRun, lutTextures_append, List.length_append, menuUploadCount]
    omega

/-- A `640 × 480` frame of a 32-bit core, from buffer `1`. -/
def vgaFrame : FrameCall := ⟨some 1, 640, 480, 2560⟩

/-- A menu upload: an RGUI-sized `320 × 240` image at full opacity. -/
def rguiUpload : MenuCall := .setTextureFrame ⟨some 2, false, 320, 240, false⟩ .one

/-- Five `640 × 480` frames, with a switch to a SLANG preset of two LUTs and a
menu upload in between. -/
def vgaRunWithPreset : List GlCoreEvent :=
  [.frame vgaFrame overhangingInfo [], .setShader .slang (some [97]) ⟨true, true⟩ 2,
    .frame vgaFrame overhangingInfo [], .menu (.setTextureEnable true true),
    .frame vgaFrame overhangingInfo [rguiUpload], .frame vgaFrame overhangingInfo [],
    .frame vgaFrame overhangingInfo []]

end Creations

end GlCore
