import GlCore.Parameters
import GlCore.Miplevels

/-!
# Building a filter chain from a preset

`gl_core_filter_chain_create_from_preset` reads the preset, loads its LUTs,
and then, pass after pass, compiles the shader, merges its parameters into the
preset's table, hands both SPIR-V stages to the chain and tells it how the pass
scales, filters and which format it renders to.  A preset whose last pass
renders to a framebuffer of its own gets one more pass, a fixed pass-through
shader that blits that framebuffer to the screen.

The collaborators (config parsing, image loading, the slang compiler, the
chain's own `init`) are the outcomes they return (`PresetEnv`); the chain is
the record of the calls it receives.  `configOf` reads back what the chain
was told about one pass index.

* `glCoreFilterChainCreateFromPreset_passes` — an accepted preset of `N`
  passes configures exactly `N` passes, plus the blit pass when the last one
  renders to a framebuffer; each index receives one pass info and one shader
  per stage; the terminal pass renders to the backbuffer at viewport size,
  every other pass to a framebuffer of a real GL format, and no pass keeps the
  placeholder scale.
-/

namespace GlCore

/-! ## The chain and its collaborators -/

/-- A constructed `gl_core_filter_chain`: the calls that configured it, and
the preset it keeps (`set_shader_preset`). -/
structure GlCoreFilterChain where
  calls : List ChainCall
  shaderPreset : VideoShader

/-- What the collaborators of `gl_core_filter_chain_create_from_preset`
return. -/
structure PresetEnv where
  /-- `config_file_new`, `video_shader_read_conf_cgp` and
  `video_shader_resolve_relative`: the parsed preset, `none` if any fails. -/
  readPreset : Option VideoShader
  /-- `image_texture_load`: the size of the image at a path, `none` on failure. -/
  imageTextureLoad : Bytes → Option (Nat × Nat)
  /-- `glslang_compile_shader`. -/
  glslangCompileShader : Bytes → Option GlslangOutput
  /-- `video_shader_resolve_current_parameters`. -/
  resolveCurrentParameters : VideoShader → Option VideoShader
  /-- `gl_core_filter_chain::init`. -/
  chainInit : GlCoreFilterChain → Bool
  /-- `opaque_vert`: SPIR-V of the pass-through vertex shader. -/
  opaqueVert : List UInt32
  /-- `opaque_frag`: SPIR-V of the pass-through fragment shader. -/
  opaqueFrag : List UInt32

/-! ## LUTs -/

/-- `gl_core_filter_chain_load_lut`: the image's size, a full mip chain if
the preset asks for mipmaps, and the LUT's filter and wrap baked in. -/
def glCoreFilterChainLoadLut (env : PresetEnv) (lut : VideoShaderLut) :
    Option StaticTexture := do
  let (width, height) ← env.imageTextureLoad lut.path
  let levels := if lut.mipmap then Chain.numMiplevels width height else 1
  pure { id := lut.id, width := width, height := height, linear := lut.filter != .nearest,
         mipmap := decide (levels > 1), address := addressToGl (wrapToAddress lut.wrap) }

/-- `gl_core_filter_chain_load_luts`: every LUT, or `none` at the first that
fails to load. -/
def glCoreFilterChainLoadLuts (env : PresetEnv) (luts : List VideoShaderLut) :
    Option (List StaticTexture) :=
  luts.mapM (glCoreFilterChainLoadLut env)

/-! ## One pass -/

/-- The `switch (pass->fbo.type_x)` (and `type_y`) of a pass that declares
its scale: the scale mode and factor of one axis. -/
def fboScale (type : GfxScaleType) (scale : CFloat) (abs : Nat) :
    GlCoreFilterChainScale × CFloat :=
  match type with
  | .input => (.source, scale)
  | .absolute => (.absolute, CFloat.ofNat abs)
  | .viewport => (.viewport, scale)

/-- The format a shader renders to when it declares none: `R8G8B8A8_UNORM`. -/
def defaultRtFormat (fmt : GlslangFormat) : GlslangFormat :=
  if fmt = .unknown then .r8g8b8a8Unorm else fmt

/-- The format an offscreen pass renders to: the preset's `srgb_framebuffer`
and `float_framebuffer` override the shader's declaration, but only for a
pass that declares its scale (`fbo.valid`). -/
def renderTargetFormat (pass : VideoShaderPass) (fmt : GlslangFormat) : GlslangFormat :=
  if pass.fbo.valid then
    if pass.fbo.srgbFbo then .r8g8b8a8Srgb
    else if pass.fbo.fpFbo then .r16g16b16a16Sfloat
    else defaultRtFormat fmt
  else defaultRtFormat fmt

/-- The `pass_info` the loop hands over for pass `i` of `passes`: source
filter (the chain's default for an unspecified one), address mode, a full mip
chain when the next pass samples its output with mipmaps, and the scale and
render target: a pass without scale scales by `1` from its source and renders
to a framebuffer, except the last one, which scales to the viewport and
renders to the backbuffer (`rt_format = 0`). -/
def passInfo (filter : GlCoreFilterChainFilter) (passes i : Nat) (pass : VideoShaderPass)
    (nextPass : Option VideoShaderPass) (fmt : GlslangFormat) : GlCoreFilterChainPassInfo :=
  let sourceFilter : GlCoreFilterChainFilter :=
    if pass.filter = .unspec then filter
    else if pass.filter = .linear then .linear else .nearest
  let maxLevels : Nat := if nextPass.any (·.mipmap) then 0xFFFFFFFF else 1
  let mipFilter : GlCoreFilterChainFilter :=
    if pass.filter ≠ .nearest ∧ maxLevels > 1 then .linear else .nearest
  let base : GlCoreFilterChainPassInfo :=
    { scaleTypeX := .original, scaleTypeY := .original, scaleX := .zero, scaleY := .zero,
      rtFormat := 0, sourceFilter := sourceFilter, mipFilter := mipFilter,
      address := wrapToAddress pass.wrap, maxLevels := maxLevels }
  if pass.fbo.valid then
    let x := fboScale pass.fbo.typeX pass.fbo.scaleX pass.fbo.absX
    let y := fboScale pass.fbo.typeY pass.fbo.scaleY pass.fbo.absY
    { base with scaleTypeX := x.1, scaleX := x.2, scaleTypeY := y.1, scaleY := y.2,
                rtFormat := convertGlslangFormat (renderTargetFormat pass fmt) }
  else if i + 1 = passes then
    { base with scaleTypeX := .viewport, scaleTypeY := .viewport, scaleX := .one,
                scaleY := .one, rtFormat := 0 }
  else
    { base with scaleTypeX := .source, scaleTypeY := .source, scaleX := .one,
                scaleY := .one, rtFormat := convertGlslangFormat (renderTargetFormat pass fmt) }

/-- The calls made for pass `i` once its parameters are merged: both
shaders, the frame count period, the shader's `#pragma name` and then the
preset's alias as pass name, and the pass info. -/
def passCalls (i : Nat) (pass : VideoShaderPass) (output : GlslangOutput)
    (info : GlCoreFilterChainPassInfo) : List ChainCall :=
  [.setShader i glVertexShader output.vertex, .setShader i glFragmentShader output.fragment,
    .setFrameCountPeriod i pass.frameCountMod] ++
  (if output.meta.name = [] then [] else [.setPassName i output.meta.name]) ++
  (if pass.aliasName = [] then [] else [.setPassName i pass.aliasName]) ++
  [.setPassInfo i info]

/-- The loop `for (i = 0; i < shader->passes; i++)`, from pass `i` on, with
the parameter table built so far: compile, merge the parameters, configure. -/
def createPasses (lim : ShaderLimits) (env : PresetEnv) (filter : GlCoreFilterChainFilter)
    (passes : Nat) :
    Nat → List VideoShaderPass → List VideoShaderParameter →
      Option (List VideoShaderParameter × List ChainCall)
  | _, [], params => some (params, [])
  | i, pass :: rest, params => do
    let output ← env.glslangCompileShader pass.sourcePath
    let merged ← mergeParameters lim params (output.meta.parameters.map (i, ·))
    let run ← createPasses lim env filter passes (i + 1) rest merged.1
    pure (run.1, merged.2 ++
      passCalls i pass output (passInfo filter passes i pass rest.head? output.meta.rtFormat) ++
      run.2)

/-! ## What the chain was told about one pass -/

/-- The pass info a call sets for pass `j`, if it sets one. -/
def ChainCall.passInfoOf (j : Nat) : ChainCall → Option GlCoreFilterChainPassInfo
  | .setPassInfo k info => if k = j then some info else none
  | _ => none

/-- The SPIR-V a call sets for stage `stage` of pass `j`, if it sets one. -/
def ChainCall.shaderOf (j stage : Nat) : ChainCall → Option (List UInt32)
  | .setShader k s spirv => if k = j ∧ s = stage then some spirv else none
  | _ => none

/-- Everything the chain was told about one pass, in order: the pass infos
and the SPIR-V of each stage it received. -/
structure PassConfig where
  infos : List GlCoreFilterChainPassInfo
  vertex : List (List UInt32)
  fragment : List (List UInt32)
  deriving DecidableEq, Repr

namespace PassConfig

/-- Nothing said about the pass. -/
def empty : PassConfig := ⟨[], [], []⟩

/-- One pass info and one shader per stage. -/
def single (info : GlCoreFilterChainPassInfo) (vertex fragment : List UInt32) : PassConfig :=
  ⟨[info], [vertex], [fragment]⟩

instance : Append PassConfig :=
  ⟨fun a b => ⟨a.infos ++ b.infos, a.vertex ++ b.vertex, a.fragment ++ b.fragment⟩⟩

@[simp] theorem mk_append_mk (a b c a' b' c') :
    (⟨a, b, c⟩ : PassConfig) ++ ⟨a', b', c'⟩ = ⟨a ++ a', b ++ b', c ++ c'⟩ := rfl

@[simp] theorem empty_append (a : PassConfig) : empty ++ a = a := rfl

@[simp] theorem append_empty (a : PassConfig) : a ++ empty = a := by
  cases a
  simp [empty]

end PassConfig

/-- What the calls `calls` told the chain about pass `j`. -/
def configOf (calls : List ChainCall) (j : Nat) : PassConfig where
  infos := calls.filterMap (·.passInfoOf j)
  vertex := calls.filterMap (·.shaderOf j glVertexShader)
  fragment := calls.filterMap (·.shaderOf j glFragmentShader)

@[simp] theorem configOf_nil (j : Nat) : configOf [] j = .empty := rfl

@[simp] theorem configOf_append (a b : List ChainCall) (j : Nat) :
    configOf (a ++ b) j = configOf a j ++ configOf b j := by
  simp only [configOf, List.filterMap_append]
  rfl

@[simp] theorem configOf_cons_setPassInfo (k j : Nat) (info : GlCoreFilterChainPassInfo)
    (cs : List ChainCall) :
    configOf (.setPassInfo k info :: cs) j =
      (if k = j then ⟨[info], [], []⟩ else .empty) ++ configOf cs j := by
  simp only [configOf, ChainCall.passInfoOf, ChainCall.shaderOf, List.filterMap_cons]
  split_ifs <;> rfl

@[simp] theorem configOf_cons_setShader (k s j : Nat) (spirv : List UInt32)
    (cs : List ChainCall) :
    configOf (.setShader k s spirv :: cs) j =
      ⟨[], if k = j ∧ s = glVertexShader then [spirv] else [],
        if k = j ∧ s = glFragmentShader then [spirv] else []⟩ ++ configOf cs j := by
  simp only [configOf, ChainCall.passInfoOf, ChainCall.shaderOf, List.filterMap_cons]
  split_ifs <;> rfl

@[simp] theorem configOf_cons_setPassName (k j : Nat) (name : Bytes) (cs : List ChainCall) :
    configOf (.setPassName k name :: cs) j = configOf cs j := rfl

@[simp] theorem configOf_cons_setFrameCountPeriod (k j period : Nat) (cs : List ChainCall) :
    configOf (.setFrameCountPeriod k period :: cs) j = configOf cs j := rfl

@[simp] theorem configOf_cons_addStaticTexture (t : StaticTexture) (j : Nat)
    (cs : List ChainCall) :
    configOf (.addStaticTexture t :: cs) j = configOf cs j := rfl

@[simp] theorem configOf_cons_addParameter (pass k j : Nat) (id : Bytes) (cs : List ChainCall) :
    configOf (.addParameter pass k id :: cs) j = configOf cs j := rfl

theorem glVertexShader_ne_glFragmentShader : glVertexShader ≠ glFragmentShader := by decide

/-- Binding parameters says nothing about passes. -/
theorem configOf_addParameters {calls : List ChainCall}
    (h : ∀ c ∈ calls, ∃ i k id, c = .addParameter i k id) (j : Nat) :
    configOf calls j = .empty := by
  induction calls with
  | nil => rfl
  | cons c calls ih =>
    obtain ⟨i, k, id, rfl⟩ := h c (List.mem_cons_self _ _)
    exact ih fun c hc => h c (List.mem_cons_of_mem _ hc)

/-- Loading LUTs says nothing about passes. -/
@[simp] theorem configOf_addStaticTextures (luts : List StaticTexture) (j : Nat) :
    configOf (luts.map .addStaticTexture) j = .empty := by
  induction luts <;> simp [*]

/-- The calls for pass `i` configure pass `i` once, and no other. -/
@[simp] theorem configOf_passCalls (i : Nat) (pass : VideoShaderPass) (output : GlslangOutput)
    (info : GlCoreFilterChainPassInfo) (j : Nat) :
    configOf (passCalls i pass output info) j =
      if i = j then .single info output.vertex output.fragment else .empty := by
  have hvf := glVertexShader_ne_glFragmentShader
  unfold passCalls
  split_ifs <;> simp [hvf, hvf.symm, PassConfig.single, PassConfig.empty, *]

/-! ## The pass loop -/

section Passes

variable {lim : ShaderLimits} {env : PresetEnv} {filter : GlCoreFilterChainFilter}
  {passes i : Nat} {params params' : List VideoShaderParameter} {calls : List ChainCall}

/-- What one successful iteration of the pass loop did. -/
theorem createPasses_cons_inv {pass : VideoShaderPass} {rest : List VideoShaderPass}
    (h : createPasses lim env filter passes i (pass :: rest) params = some (params', calls)) :
    ∃ output merged run, env.glslangCompileShader pass.sourcePath = some output ∧
      mergeParameters lim params (output.meta.parameters.map (i, ·)) = some merged ∧
      createPasses lim env filter passes (i + 1) rest merged.1 = some run ∧
      params' = run.1 ∧
      calls = merged.2 ++ passCalls i pass output
        (passInfo filter passes i pass rest.head? output.meta.rtFormat) ++ run.2 := by
  simp only [createPasses, Option.bind_eq_bind, Option.bind_eq_some, Option.pure_def,
    Option.some.injEq, Prod.ext_iff] at h
  obtain ⟨output, hout, merged, hmerged, run, hrun, h1, h2⟩ := h
  exact ⟨output, merged, run, hout, hmerged, hrun, h1.symm, h2.symm⟩

/-- **The pass loop configures each of its passes once.**  Pass `i + j` gets
the compiled shaders of the loop's `j`-th pass and the pass info built from it
and its successor; no index outside `[i, i + length)` is configured. -/
theorem createPasses_configOf {ps : List VideoShaderPass}
    (h : createPasses lim env filter passes i ps params = some (params', calls)) :
    (∀ j (hj : j < ps.length), ∃ output,
      env.glslangCompileShader ps[j].sourcePath = some output ∧
      configOf calls (i + j) = .single (passInfo filter passes (i + j) ps[j] ps[j + 1]?
        output.meta.rtFormat) output.vertex output.fragment) ∧
    (∀ j, j < i ∨ i + ps.length ≤ j → configOf calls j = .empty) := by
  induction ps generalizing i params params' calls with
  | nil =>
    simp only [createPasses, Option.some.injEq, Prod.mk.injEq] at h
    simp [← h.2]
  | cons pass rest ih =>
    obtain ⟨output, merged, run, hout, hmerged, hrun, -, rfl⟩ := createPasses_cons_inv h
    have hparams := configOf_addParameters (mergeParameters_calls hmerged)
    obtain ⟨ihin, ihout⟩ := ih hrun
    refine ⟨fun j hj => ?_, fun j hj => ?_⟩
    · cases j with
      | zero =>
        refine ⟨output, hout, ?_⟩
        simp [hparams, ihout i (by omega), List.head?_eq_getElem?]
      | succ j =>
        obtain ⟨out, hc, hcfg⟩ := ihin j (by simpa using hj)
        refine ⟨out, hc, ?_⟩
        rw [show i + (j + 1) = i + 1 + j by omega]
        simp [hparams, hcfg, show i ≠ i + 1 + j by omega]
    · simp only [List.length_cons] at hj
      simp [hparams, ihout j (by omega), show i ≠ j by omega]

/-- The `#pragma parameter` declarations of compiled passes `i, i + 1, …`,
each tagged with its pass index, in the order the loop meets them. -/
def passDeclarations (i : Nat) : List GlslangOutput → List (Nat × GlslangParameter)
  | [] => []
  | output :: outputs => output.meta.parameters.map (i, ·) ++ passDeclarations (i + 1) outputs

/-- A successful pass loop compiled every pass, and left the table that the
parameter loop builds from the declarations of all of them, in pass order. -/
theorem createPasses_parameters {ps : List VideoShaderPass}
    (h : createPasses lim env filter passes i ps params = some (params', calls)) :
    ∃ outputs, ps.mapM (fun p => env.glslangCompileShader p.sourcePath) = some outputs ∧
      ∃ bindings, mergeParameters lim params (passDeclarations i outputs) =
        some (params', bindings) := by
  induction ps generalizing i params params' calls with
  | nil =>
    simp only [createPasses, Option.some.injEq, Prod.mk.injEq] at h
    exact ⟨[], rfl, [], by simp [passDeclarations, mergeParameters, h.1]⟩
  | cons pass rest ih =>
    obtain ⟨output, merged, run, hout, hmerged, hrun, rfl, -⟩ := createPasses_cons_inv h
    obtain ⟨outputs, hmap, bindings, hb⟩ := ih hrun
    refine ⟨output :: outputs, by rw [List.mapM_cons, hout, hmap]; rfl, merged.2 ++ bindings, ?_⟩
    simp [passDeclarations, mergeParameters_append, hmerged, hb]

/-- When every pass compiles, the pass loop fails exactly when the parameter
loop refuses the declarations of all passes. -/
theorem createPasses_eq_none_iff {ps : List VideoShaderPass} {outputs : List GlslangOutput}
    (hc : ps.mapM (fun p => env.glslangCompileShader p.sourcePath) = some outputs) :
    createPasses lim env filter passes i ps params = none ↔
      mergeParameters lim params (passDeclarations i outputs) = none := by
  induction ps generalizing i params outputs with
  | nil =>
    simp only [List.mapM_nil, Option.pure_def, Option.some.injEq] at hc
    simp [← hc, createPasses, passDeclarations, mergeParameters]
  | cons pass rest ih =>
    rw [List.mapM_cons] at hc
    simp only [Option.bind_eq_bind, Option.bind_eq_some, Option.pure_def,
      Option.some.injEq] at hc
    obtain ⟨output, hout, outs, houts, rfl⟩ := hc
    simp only [createPasses, passDeclarations, mergeParameters_append, hout,
      Option.bind_eq_bind, Option.some_bind]
    cases mergeParameters lim params (output.meta.parameters.map (i, ·)) with
    | none => rfl
    | some merged =>
      simp only [Option.some_bind, Option.map_eq_none', ← ih houts]
      cases createPasses lim env filter passes (i + 1) rest merged.1 <;> simp

end Passes

/-! ## The appended blit pass and the whole construction -/

/-- `last_pass_is_fbo`: the last pass renders to a framebuffer of its own. -/
def lastPassIsFbo (shader : VideoShader) : Bool :=
  (shader.pass.getLast shader.pass_ne_nil).fbo.valid

/-- The pass info of the appended pass: viewport size, backbuffer, clamped. -/
def blitPassInfo (filter : GlCoreFilterChainFilter) : GlCoreFilterChainPassInfo :=
  { scaleTypeX := .viewport, scaleTypeY := .viewport, scaleX := .one, scaleY := .one,
    rtFormat := 0, sourceFilter := filter, mipFilter := .nearest, address := .clampToEdge,
    maxLevels := 0 }

/-- The calls configuring the appended pass, at index `passes`. -/
def blitPassCalls (env : PresetEnv) (filter : GlCoreFilterChainFilter) (passes : Nat) :
    List ChainCall :=
  [.setPassInfo passes (blitPassInfo filter), .setShader passes glVertexShader env.opaqueVert,
    .setShader passes glFragmentShader env.opaqueFrag]

/-- `gl_core_filter_chain_create_from_preset`; `none` is `nullptr`. -/
def glCoreFilterChainCreateFromPreset (lim : ShaderLimits) (env : PresetEnv)
    (filter : GlCoreFilterChainFilter) : Option GlCoreFilterChain := do
  let shader ← env.readPreset
  let luts ← glCoreFilterChainLoadLuts env shader.lut
  let run ← createPasses lim env filter shader.pass.length 0 shader.pass []
  let calls := luts.map .addStaticTexture ++ run.2 ++
    (if lastPassIsFbo shader then blitPassCalls env filter shader.pass.length else [])
  let preset ← env.resolveCurrentParameters { shader with parameters := run.1 }
  let chain : GlCoreFilterChain := ⟨calls, preset⟩
  if env.chainInit chain then some chain else none

/-- The appended pass is configured once, at its own index. -/
@[simp] theorem configOf_blitPassCalls (env : PresetEnv) (filter : GlCoreFilterChainFilter)
    (passes j : Nat) :
    configOf (blitPassCalls env filter passes) j =
      if passes = j then .single (blitPassInfo filter) env.opaqueVert env.opaqueFrag
      else .empty := by
  have hvf := glVertexShader_ne_glFragmentShader
  unfold blitPassCalls
  split_ifs <;> simp [hvf, hvf.symm, PassConfig.single, PassConfig.empty, *]

/-! ## The pass infos -/

section PassInfo

variable {filter : GlCoreFilterChainFilter} {passes i : Nat} {pass : VideoShaderPass}
  {nextPass : Option VideoShaderPass} {fmt : GlslangFormat}

/-- A declared scale never maps to the placeholder `original`. -/
theorem fboScale_ne_original (type : GfxScaleType) (scale : CFloat) (abs : Nat) :
    (fboScale type scale abs).1 ≠ .original := by
  cases type <;> simp [fboScale]

/-- No pass info keeps the placeholder scale. -/
theorem passInfo_scaleType_ne_original :
    (passInfo filter passes i pass nextPass fmt).scaleTypeX ≠ .original ∧
      (passInfo filter passes i pass nextPass fmt).scaleTypeY ≠ .original := by
  by_cases hv : pass.fbo.valid <;> by_cases hi : i + 1 = passes <;>
    simp [passInfo, hv, hi, fboScale_ne_original]

/-- The last pass, when it declares no scale, renders to the backbuffer at
viewport size. -/
theorem passInfo_terminal (hv : pass.fbo.valid = false) (hi : i + 1 = passes) :
    (passInfo filter passes i pass nextPass fmt).scaleTypeX = .viewport ∧
      (passInfo filter passes i pass nextPass fmt).scaleTypeY = .viewport ∧
      (passInfo filter passes i pass nextPass fmt).scaleX = .one ∧
      (passInfo filter passes i pass nextPass fmt).scaleY = .one ∧
      (passInfo filter passes i pass nextPass fmt).rtFormat = 0 := by
  simp [passInfo, hv, hi]

/-- Every other pass renders to a framebuffer of format `renderTargetFormat`. -/
theorem passInfo_rtFormat (h : pass.fbo.valid = true ∨ i + 1 ≠ passes) :
    (passInfo filter passes i pass nextPass fmt).rtFormat =
      convertGlslangFormat (renderTargetFormat pass fmt) := by
  rcases h with hv | hi
  · simp [passInfo, hv]
  · by_cases hv : pass.fbo.valid <;> simp [passInfo, hv, hi]

/-- The framebuffer format, case by case: the overrides apply only to a pass
that declares its scale. -/
theorem renderTargetFormat_eq :
    renderTargetFormat pass fmt =
      if pass.fbo.valid ∧ pass.fbo.srgbFbo then .r8g8b8a8Srgb
      else if pass.fbo.valid ∧ pass.fbo.fpFbo then .r16g16b16a16Sfloat
      else if fmt = .unknown then .r8g8b8a8Unorm else fmt := by
  by_cases hv : pass.fbo.valid <;> simp [renderTargetFormat, defaultRtFormat, hv]

/-- A framebuffer is never given the `unknown` format. -/
theorem renderTargetFormat_ne_unknown : renderTargetFormat pass fmt ≠ .unknown := by
  rw [renderTargetFormat_eq]
  split_ifs with _ _ h <;> first | exact h | nofun

end PassInfo

/-! ## The chain a preset builds -/

/-- The number of passes the chain is built with: the preset's, and the blit
pass when the last one renders to a framebuffer. -/
def chainPasses (shader : VideoShader) : Nat :=
  shader.pass.length + if lastPassIsFbo shader then 1 else 0

section Chain

variable {lim : ShaderLimits} {env : PresetEnv} {filter : GlCoreFilterChainFilter}
  {chain : GlCoreFilterChain} {shader : VideoShader}

/-- What a successful construction did, step by step. -/
theorem glCoreFilterChainCreateFromPreset_inv
    (hc : glCoreFilterChainCreateFromPreset lim env filter = some chain) :
    ∃ shader luts run, env.readPreset = some shader ∧
      glCoreFilterChainLoadLuts env shader.lut = some luts ∧
      createPasses lim env filter shader.pass.length 0 shader.pass [] = some run ∧
      chain.calls = luts.map .addStaticTexture ++ run.2 ++
        (if lastPassIsFbo shader then blitPassCalls env filter shader.pass.length else []) ∧
      env.resolveCurrentParameters { shader with parameters := run.1 } = some chain.shaderPreset ∧
      env.chainInit chain = true := by
  simp only [glCoreFilterChainCreateFromPreset, Option.bind_eq_bind, Option.bind_eq_some] at hc
  obtain ⟨shader, hs, luts, hl, run, hr, preset, hp, hinit⟩ := hc
  obtain ⟨hi, h⟩ := Option.ite_none_right_eq_some.mp hinit
  cases h
  exact ⟨shader, luts, run, hs, hl, hr, rfl, hp, hi⟩

/-- What the chain was told about each index: preset pass `j` gets its
compiled shaders and its pass info, index `N` the blit pass when the last
pass renders to a framebuffer, and no index from `chainPasses` on anything. -/
theorem glCoreFilterChainCreateFromPreset_configOf
    (hc : glCoreFilterChainCreateFromPreset lim env filter = some chain)
    (hs : env.readPreset = some shader) :
    (∀ j (hj : j < shader.pass.length), ∃ output,
      env.glslangCompileShader shader.pass[j].sourcePath = some output ∧
      configOf chain.calls j = .single (passInfo filter shader.pass.length j shader.pass[j]
        shader.pass[j + 1]? output.meta.rtFormat) output.vertex output.fragment) ∧
    (lastPassIsFbo shader = true → configOf chain.calls shader.pass.length =
      .single (blitPassInfo filter) env.opaqueVert env.opaqueFrag) ∧
    (∀ j, chainPasses shader ≤ j → configOf chain.calls j = .empty) := by
  obtain ⟨shader', luts, run, hs', -, hr, hcalls, -, -⟩ := glCoreFilterChainCreateFromPreset_inv hc
  obtain rfl : shader = shader' := Option.some.inj (hs.symm.trans hs')
  obtain ⟨hin, hout⟩ := createPasses_configOf hr
  have hcfg : ∀ j, configOf chain.calls j = configOf run.2 j ++
      if lastPassIsFbo shader ∧ shader.pass.length = j then
        .single (blitPassInfo filter) env.opaqueVert env.opaqueFrag else .empty := by
    intro j
    rw [hcalls]
    by_cases hl : lastPassIsFbo shader = true <;> simp [hl]
  refine ⟨fun j hj => ?_, fun hl => ?_, fun j hj => ?_⟩
  · obtain ⟨output, hout', h⟩ := hin j hj
    rw [Nat.zero_add] at h
    exact ⟨output, hout', by simp [hcfg, h, show shader.pass.length ≠ j by omega]⟩
  · simp [hcfg, hl, hout shader.pass.length (by omega)]
  · unfold chainPasses at hj
    have hne : ¬ (lastPassIsFbo shader = true ∧ shader.pass.length = j) := by
      rintro ⟨hl, rfl⟩
      rw [if_pos hl] at hj
      omega
    simp [hcfg, hne, hout j (by omega)]

/-- An index from the preset's pass count on, but below `chainPasses`, is the
appended blit pass. -/
private theorem chainPasses_blit {j : Nat} (hN : shader.pass.length ≤ j)
    (hj : j < chainPasses shader) : lastPassIsFbo shader = true ∧ j = shader.pass.length := by
  by_cases hl : lastPassIsFbo shader = true
  · rw [chainPasses, if_pos hl] at hj
    exact ⟨hl, by omega⟩
  · rw [chainPasses, if_neg hl] at hj
    omega

/-- The index of the last pass holds the last element of the preset. -/
private theorem lastPassIsFbo_eq (shader : VideoShader)
    (h : shader.pass.length - 1 < shader.pass.length) :
    lastPassIsFbo shader = shader.pass[shader.pass.length - 1].fbo.valid := by
  rw [lastPassIsFbo, List.getLast_eq_getElem]

/-- **What an accepted preset configures.**  With `N` preset passes, the chain
gets `M = chainPasses shader` passes: each index below `M` receives exactly one
pass info and one shader per stage, preset pass `j` its compiled shaders, index
`N` (when the last pass renders to a framebuffer) the pass-through blit, and
no index from `M` on anything.  The terminal pass `M - 1` renders to the
backbuffer at viewport size; every other pass renders to a framebuffer of a
real GL format, the preset's sRGB and float overrides applying only to a pass
that declares its scale; no pass keeps the placeholder scale. -/
theorem glCoreFilterChainCreateFromPreset_passes
    (hc : glCoreFilterChainCreateFromPreset lim env filter = some chain)
    (hs : env.readPreset = some shader) :
    (∀ j (hj : j < shader.pass.length), ∃ output,
      env.glslangCompileShader shader.pass[j].sourcePath = some output ∧
      configOf chain.calls j = .single (passInfo filter shader.pass.length j shader.pass[j]
        shader.pass[j + 1]? output.meta.rtFormat) output.vertex output.fragment) ∧
    (lastPassIsFbo shader = true → configOf chain.calls shader.pass.length =
      .single (blitPassInfo filter) env.opaqueVert env.opaqueFrag) ∧
    (∀ j, chainPasses shader ≤ j → configOf chain.calls j = .empty) ∧
    (∃ info, (configOf chain.calls (chainPasses shader - 1)).infos = [info] ∧
      info.scaleTypeX = .viewport ∧ info.scaleTypeY = .viewport ∧
      info.scaleX = .one ∧ info.scaleY = .one ∧ info.rtFormat = 0) ∧
    (∀ j (hj : j < shader.pass.length), j + 1 < chainPasses shader → ∃ output info,
      env.glslangCompileShader shader.pass[j].sourcePath = some output ∧
      (configOf chain.calls j).infos = [info] ∧ info.rtFormat ≠ 0 ∧
      info.rtFormat = convertGlslangFormat
        (if shader.pass[j].fbo.valid ∧ shader.pass[j].fbo.srgbFbo then .r8g8b8a8Srgb
         else if shader.pass[j].fbo.valid ∧ shader.pass[j].fbo.fpFbo then .r16g16b16a16Sfloat
         else if output.meta.rtFormat = .unknown then .r8g8b8a8Unorm
         else output.meta.rtFormat)) ∧
    (∀ j < chainPasses shader, ∃ info, (configOf chain.calls j).infos = [info] ∧
      info.scaleTypeX ≠ .original ∧ info.scaleTypeY ≠ .original) := by
  obtain ⟨hpass, hblit, hbeyond⟩ := glCoreFilterChainCreateFromPreset_configOf hc hs
  have hN := List.length_pos.mpr shader.pass_ne_nil
  refine ⟨hpass, hblit, hbeyond, ?terminal, ?offscreen, ?scale⟩
  case terminal =>
    cases hlast : lastPassIsFbo shader
    · obtain ⟨output, -, hcfg⟩ := hpass (shader.pass.length - 1) (by omega)
      have hv := (lastPassIsFbo_eq shader (by omega)).symm.trans hlast
      rw [show chainPasses shader - 1 = shader.pass.length - 1 by simp [chainPasses, hlast]]
      exact ⟨_, congrArg PassConfig.infos hcfg, passInfo_terminal hv (by omega)⟩
    · rw [show chainPasses shader - 1 = shader.pass.length by simp [chainPasses, hlast]]
      exact ⟨_, congrArg PassConfig.infos (hblit hlast), rfl, rfl, rfl, rfl, rfl⟩
  case offscreen =>
    intro j hj hjM
    obtain ⟨output, hout, hcfg⟩ := hpass j hj
    have hbranch : shader.pass[j].fbo.valid = true ∨ j + 1 ≠ shader.pass.length := by
      by_cases hj1 : j + 1 = shader.pass.length
      · obtain ⟨hlast, -⟩ := chainPasses_blit (le_of_eq hj1.symm) hjM
        left
        rw [lastPassIsFbo_eq shader (by omega)] at hlast
        simpa [show shader.pass.length - 1 = j by omega] using hlast
      · exact .inr hj1
    refine ⟨output, _, hout, congrArg PassConfig.infos hcfg, ?_, ?_⟩
    · rw [passInfo_rtFormat hbranch]
      exact convertGlslangFormat_ne_zero renderTargetFormat_ne_unknown
    · rw [passInfo_rtFormat hbranch, renderTargetFormat_eq]
  case scale =>
    intro j hj
    by_cases hjN : j < shader.pass.length
    · obtain ⟨_, -, hcfg⟩ := hpass j hjN
      exact ⟨_, congrArg PassConfig.infos hcfg, passInfo_scaleType_ne_original⟩
    · obtain ⟨hlast, rfl⟩ := chainPasses_blit (not_lt.mp hjN) hj
      exact ⟨_, congrArg PassConfig.infos (hblit hlast), nofun, nofun⟩

end Chain

/-- The framebuffer settings of a pass without `scale_type`: `valid` unset. -/
def unscaledFbo : GfxFboScale :=
  { fpFbo := false, srgbFbo := false, valid := false, typeX := .input, typeY := .input,
    scaleX := .one, scaleY := .one, absX := 0, absY := 0 }

/-- Two passes that declare no scale; the first sets `srgb_framebuffer0`. -/
def srgbUnscaledPreset : VideoShader where
  pass :=
    [{ sourcePath := [97], aliasName := [], fbo := { unscaledFbo with srgbFbo := true },
       filter := .unspec, wrap := .edge, frameCountMod := 0, mipmap := false },
     { sourcePath := [98], aliasName := [], fbo := unscaledFbo,
       filter := .unspec, wrap := .edge, frameCountMod := 0, mipmap := false }]
  pass_ne_nil := List.cons_ne_nil _ _
  lut := []
  parameters := []

/-- Collaborators that all succeed on `srgbUnscaledPreset`; its shaders declare
neither a format nor parameters. -/
def srgbUnscaledEnv : PresetEnv where
  readPreset := some srgbUnscaledPreset
  imageTextureLoad := fun _ => none
  glslangCompileShader := fun _ => some ⟨[1], [2], ⟨[], [], .unknown⟩⟩
  resolveCurrentParameters := some
  chainInit := fun _ => true
  opaqueVert := [3]
  opaqueFrag := [4]

/-- The two-pass preset is accepted and configures two passes, none beyond. -/
theorem srgbUnscaledPreset_configures_two_passes :
    ∃ chain, glCoreFilterChainCreateFromPreset ⟨128, 64, 64⟩ srgbUnscaledEnv .linear = some chain ∧
      chainPasses srgbUnscaledPreset = 2 ∧ configOf chain.calls 2 = .empty := by
  obtain ⟨chain, hc⟩ : ∃ chain,
      glCoreFilterChainCreateFromPreset ⟨128, 64, 64⟩ srgbUnscaledEnv .linear = some chain :=
    ⟨_, rfl⟩
  exact ⟨chain, hc, rfl, (glCoreFilterChainCreateFromPreset_passes hc rfl).2.2.1 2 (by decide)⟩

/-- The first pass asks for an sRGB framebuffer but declares no scale: it
renders to `GL_RGBA8`, not to the `GL_SRGB8` that its sRGB format converts
to. -/
theorem srgb_override_ignored_without_scale :
    srgbUnscaledPreset.pass[0].fbo.srgbFbo = true ∧
      srgbUnscaledPreset.pass[0].fbo.valid = false ∧
      (glCoreFilterChainCreateFromPreset ⟨128, 64, 64⟩ srgbUnscaledEnv .linear).map
        (fun chain => (configOf chain.calls 0).infos.map (·.rtFormat)) = some [glRgba8] ∧
      glRgba8 ≠ glSrgb8 := by
  decide


/-! ## The preset's parameter table -/

section Table

variable {lim : ShaderLimits} {env : PresetEnv} {filter : GlCoreFilterChainFilter}
  {chain : GlCoreFilterChain} {shader : VideoShader} {outputs : List GlslangOutput}

/-- **The table an accepted preset keeps.**  Every pass compiled, and the
table handed to `video_shader_resolve_current_parameters` is the one the
parameter loop builds from the declarations of all passes, in pass order. -/
theorem glCoreFilterChainCreateFromPreset_parameters
    (hc : glCoreFilterChainCreateFromPreset lim env filter = some chain)
    (hs : env.readPreset = some shader) :
    ∃ outputs params bindings,
      shader.pass.mapM (fun p => env.glslangCompileShader p.sourcePath) = some outputs ∧
      mergeParameters lim [] (passDeclarations 0 outputs) = some (params, bindings) ∧
      env.resolveCurrentParameters { shader with parameters := params } =
        some chain.shaderPreset := by
  obtain ⟨shader', luts, run, hs', -, hr, -, hp, -⟩ := glCoreFilterChainCreateFromPreset_inv hc
  obtain rfl : shader = shader' := Option.some.inj (hs.symm.trans hs')
  obtain ⟨outputs, hmap, bindings, hb⟩ := createPasses_parameters hr
  exact ⟨outputs, run.1, bindings, hmap, hb, hp⟩

/-- The two-pass preset keeps the empty table its shaders declare. -/
theorem srgbUnscaledPreset_parameters :
    ∃ chain, glCoreFilterChainCreateFromPreset ⟨128, 64, 64⟩ srgbUnscaledEnv .linear = some chain ∧
      ∃ outputs params bindings,
        srgbUnscaledPreset.pass.mapM
          (fun p => srgbUnscaledEnv.glslangCompileShader p.sourcePath) = some outputs ∧
        mergeParameters ⟨128, 64, 64⟩ [] (passDeclarations 0 outputs) = some (params, bindings) ∧
        srgbUnscaledEnv.resolveCurrentParameters { srgbUnscaledPreset with parameters := params } =
          some chain.shaderPreset := by
  obtain ⟨chain, hc⟩ : ∃ chain,
      glCoreFilterChainCreateFromPreset ⟨128, 64, 64⟩ srgbUnscaledEnv .linear = some chain :=
    ⟨_, rfl⟩
  exact ⟨chain, hc, glCoreFilterChainCreateFromPreset_parameters hc rfl⟩

/-- **A refused declaration list refuses the preset.**  When every pass
compiles, `create_from_preset` returns `nullptr` as soon as the parameter loop
refuses the declarations of all passes. -/
theorem glCoreFilterChainCreateFromPreset_eq_none_of_refused
    (hs : env.readPreset = some shader)
    (hmap : shader.pass.mapM (fun p => env.glslangCompileShader p.sourcePath) = some outputs)
    (hm : mergeParameters lim [] (passDeclarations 0 outputs) = none) :
    glCoreFilterChainCreateFromPreset lim env filter = none := by
  have hpasses : createPasses lim env filter shader.pass.length 0 shader.pass [] = none :=
    (createPasses_eq_none_iff hmap).mpr hm
  simp only [glCoreFilterChainCreateFromPreset, hs, Option.bind_eq_bind, Option.some_bind]
  cases glCoreFilterChainLoadLuts env shader.lut with
  | none => rfl
  | some luts => simp only [Option.some_bind, hpasses, Option.none_bind]

/-- The same two passes, now declaring parameter `a` with different steps. -/
def conflictingParametersEnv : PresetEnv :=
  { srgbUnscaledEnv with
    glslangCompileShader := fun path =>
      some ⟨[1], [2], ⟨[if path = [97] then parameterA else { parameterA with step := .zero }],
        [], .unknown⟩⟩ }

/-- Two passes declaring `a` differently: the preset is refused. -/
theorem conflicting_parameters_refuse_preset :
    glCoreFilterChainCreateFromPreset ⟨128, 64, 64⟩ conflictingParametersEnv .linear = none :=
  glCoreFilterChainCreateFromPreset_eq_none_of_refused
    (show conflictingParametersEnv.readPreset = some srgbUnscaledPreset from rfl) rfl (by decide)

end Table

/-! ## The LUTs a chain receives -/

/-- The texture a call adds, if it adds one. -/
def ChainCall.staticTexture : ChainCall → Option StaticTexture
  | .addStaticTexture texture => some texture
  | _ => none

/-- The static textures the calls add, in order. -/
def staticTexturesOf (calls : List ChainCall) : List StaticTexture :=
  calls.filterMap ChainCall.staticTexture

section Luts

variable {lim : ShaderLimits} {env : PresetEnv} {filter : GlCoreFilterChainFilter}

@[simp] theorem staticTexturesOf_append (a b : List ChainCall) :
    staticTexturesOf (a ++ b) = staticTexturesOf a ++ staticTexturesOf b :=
  List.filterMap_append _ _ _

@[simp] theorem staticTexturesOf_addStaticTextures (luts : List StaticTexture) :
    staticTexturesOf (luts.map .addStaticTexture) = luts := by
  simp [staticTexturesOf, Function.comp_def, ChainCall.staticTexture]

/-- Binding parameters adds no texture. -/
theorem staticTexturesOf_addParameters {calls : List ChainCall}
    (h : ∀ c ∈ calls, ∃ i k id, c = .addParameter i k id) : staticTexturesOf calls = [] :=
  List.filterMap_eq_nil_iff.mpr fun c hc => by
    obtain ⟨i, k, id, rfl⟩ := h c hc
    rfl

/-- **The pass loop adds no texture.** -/
theorem createPasses_staticTextures {passes i : Nat} {ps : List VideoShaderPass}
    {params params' : List VideoShaderParameter} {calls : List ChainCall}
    (h : createPasses lim env filter passes i ps params = some (params', calls)) :
    staticTexturesOf calls = [] := by
  induction ps generalizing i params params' calls with
  | nil =>
    simp only [createPasses, Option.some.injEq, Prod.mk.injEq] at h
    rw [← h.2]
    rfl
  | cons pass rest ih =>
    obtain ⟨output, merged, run, -, hmerged, hrun, -, rfl⟩ := createPasses_cons_inv h
    rw [staticTexturesOf_append, staticTexturesOf_append,
      staticTexturesOf_addParameters (mergeParameters_calls hmerged), ih hrun]
    unfold passCalls
    split_ifs <;> rfl

/-- What `gl_core_filter_chain_load_lut` makes of a LUT that loads: the
image's size, a mip chain exactly when the preset asks for one and the image
is larger than `1 × 1`, the LUT's filter and its wrap mode as a GL enum. -/
theorem glCoreFilterChainLoadLut_eq_some {lut : VideoShaderLut} {texture : StaticTexture}
    (h : glCoreFilterChainLoadLut env lut = some texture) :
    ∃ width height, env.imageTextureLoad lut.path = some (width, height) ∧
      texture = { id := lut.id, width := width, height := height,
                  linear := lut.filter != .nearest,
                  mipmap := lut.mipmap && decide (2 ≤ max width height),
                  address := addressToGl (wrapToAddress lut.wrap) } := by
  simp only [glCoreFilterChainLoadLut, Option.bind_eq_bind, Option.bind_eq_some,
    Option.pure_def, Option.some.injEq] at h
  obtain ⟨⟨width, height⟩, hload, rfl⟩ := h
  refine ⟨width, height, hload, ?_⟩
  by_cases h0 : max width height = 0
  · cases lut.mipmap <;> simp [Chain.numMiplevels_eq, h0]
  · have hlog : 0 < (max width height).log2 ↔ 2 ≤ max width height := Nat.le_log2 h0 (k := 1)
    cases lut.mipmap <;> simp [Chain.numMiplevels_eq, h0, hlog]

/-- A list of LUTs loads to one texture per LUT, in order. -/
theorem glCoreFilterChainLoadLuts_eq_some :
    ∀ {luts : List VideoShaderLut} {textures : List StaticTexture},
      glCoreFilterChainLoadLuts env luts = some textures →
      List.Forall₂ (fun lut texture => glCoreFilterChainLoadLut env lut = some texture) luts
        textures
  | [], textures, h => by
    simp only [glCoreFilterChainLoadLuts, List.mapM_nil, Option.pure_def,
      Option.some.injEq] at h
    exact h ▸ .nil
  | lut :: luts, textures, h => by
    simp only [glCoreFilterChainLoadLuts, List.mapM_cons, Option.bind_eq_bind,
      Option.bind_eq_some, Option.pure_def, Option.some.injEq] at h
    obtain ⟨texture, hlut, rest, hrest, rfl⟩ := h
    exact .cons hlut (glCoreFilterChainLoadLuts_eq_some hrest)

/-- **Every accepted preset hands the chain its LUTs, all of them, in order.**
The chain's static textures correspond one to one to the preset's LUTs: each
LUT's image loaded, and its texture carries the LUT's id, the image's size,
linear filtering unless the LUT asks for nearest, a mip chain exactly when the
LUT asks for one and the image is larger than `1 × 1`, and the LUT's wrap
mode.  No pass adds a texture of its own. -/
theorem glCoreFilterChainCreateFromPreset_static_textures {chain : GlCoreFilterChain}
    (hc : glCoreFilterChainCreateFromPreset lim env filter = some chain) :
    ∃ shader, env.readPreset = some shader ∧
      List.Forall₂ (fun lut texture => ∃ width height,
          env.imageTextureLoad lut.path = some (width, height) ∧
          texture = { id := lut.id, width := width, height := height,
                      linear := lut.filter != .nearest,
                      mipmap := lut.mipmap && decide (2 ≤ max width height),
                      address := addressToGl (wrapToAddress lut.wrap) })
        shader.lut (staticTexturesOf chain.calls) := by
  obtain ⟨shader, luts, run, hs, hl, hr, hcalls, -⟩ := glCoreFilterChainCreateFromPreset_inv hc
  have hblit : staticTexturesOf
      (if lastPassIsFbo shader then blitPassCalls env filter shader.pass.length else []) = [] := by
    split_ifs <;> rfl
  refine ⟨shader, hs, ?_⟩
  rw [hcalls, staticTexturesOf_append, staticTexturesOf_append, staticTexturesOf_addStaticTextures,
    createPasses_staticTextures hr, hblit, List.append_nil, List.append_nil]
  exact (glCoreFilterChainLoadLuts_eq_some hl).imp fun _ _ => glCoreFilterChainLoadLut_eq_some

/-- A `256 × 16` colour LUT, asked for with mipmaps and repeat wrapping. -/
def paletteLut : VideoShaderLut :=
  ⟨[112], [112, 46, 112, 110, 103], .linear, .repeat, true⟩

/-- The two-pass preset with the palette LUT, whose image loads. -/
def paletteEnv : PresetEnv :=
  { srgbUnscaledEnv with
    readPreset := some { srgbUnscaledPreset with lut := [paletteLut] }
    imageTextureLoad := fun _ => some (256, 16) }

/-- The palette LUT reaches the chain with its mip chain. -/
theorem palette_lut_reaches_chain :
    ∃ chain, glCoreFilterChainCreateFromPreset ⟨128, 64, 64⟩ paletteEnv .linear = some chain ∧
      ∃ shader, paletteEnv.readPreset = some shader ∧
        List.Forall₂ (fun lut texture => ∃ width height,
            paletteEnv.imageTextureLoad lut.path = some (width, height) ∧
            texture = { id := lut.id, width := width, height := height,
                        linear := lut.filter != .nearest,
                        mipmap := lut.mipmap && decide (2 ≤ max width height),
                        address := addressToGl (wrapToAddress lut.wrap) })
          shader.lut (staticTexturesOf chain.calls) := by
  obtain ⟨chain, hc⟩ : ∃ chain,
      glCoreFilterChainCreateFromPreset ⟨128, 64, 64⟩ paletteEnv .linear = some chain :=
    ⟨_, rfl⟩
  exact ⟨chain, hc, glCoreFilterChainCreateFromPreset_static_textures hc⟩

end Luts

end GlCore
