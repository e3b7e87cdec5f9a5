import GlCore.Formats

/-!
# Presets, compiled shaders and the calls a filter chain receives

The data `gl_core_filter_chain_create_from_preset` reads and writes: the
parsed preset (`struct video_shader` and its passes and LUTs), what the slang
compiler returns for one pass (`glslang_output`), and the fixed-size table of
tunable parameters the preset ends up with.  Strings are the bytes of a C or
C++ string; the table's `id` and `desc` are C buffers filled by `strlcpy`, so
their sizes, like `GFX_MAX_PARAMETERS`, are constants of the model
(`ShaderLimits`).

The chain object's own methods are not part of the driver sources; the chain
is modelled by the sequence of calls it receives (`ChainCall`), which is all
that `create_from_preset` decides.
-/

namespace GlCore

/-- The bytes of a C or C++ string. -/
abbrev Bytes := List UInt8

/-- `strlcpy (dst, src.c_str (), size)`: the C string a buffer of `size` bytes
holds afterwards.  `c_str ()` ends the source at its first NUL byte, and at
most `size - 1` bytes are copied before the terminator. -/
def strlcpy (src : Bytes) (size : Nat) : Bytes :=
  (src.takeWhile (· != 0)).take (size - 1)

/-- A string that `strlcpy` stores unchanged in a buffer of `size` bytes: no
NUL byte, and room left for the terminator. -/
def Fits (s : Bytes) (size : Nat) : Prop :=
  0 ∉ s ∧ s.length < size

instance (s : Bytes) (size : Nat) : Decidable (Fits s size) :=
  inferInstanceAs (Decidable (_ ∧ _))

/-- A string that fits is copied unchanged. -/
theorem strlcpy_of_fits {s : Bytes} {size : Nat} (h : Fits s size) :
    strlcpy s size = s := by
  have hall : ∀ b ∈ s, (b != 0) = true := fun b hb => by
    have : b ≠ 0 := fun hb0 => h.1 (hb0 ▸ hb)
    simpa using this
  rw [strlcpy, List.takeWhile_eq_self_iff.mpr hall]
  exact List.take_of_length_le (by have := h.2; omega)

/-- With a buffer of at least one byte, `strlcpy` copies a string unchanged
exactly when it fits. -/
theorem strlcpy_eq_self_iff {s : Bytes} {size : Nat} (hsize : 0 < size) :
    strlcpy s size = s ↔ Fits s size := by
  refine ⟨fun h => ⟨fun h0 => ?_, ?_⟩, strlcpy_of_fits⟩
  · have hall := List.all_eq_true.mp (List.all_takeWhile (p := (· != (0 : UInt8))) (l := s))
    have h0' : (0 : UInt8) ∈ (s.takeWhile (· != 0)).take (size - 1) := by
      rw [← strlcpy, h]; exact h0
    simpa using hall 0 (List.mem_of_mem_take h0')
  · have := List.length_take_le (size - 1) (s.takeWhile (· != 0))
    rw [← strlcpy, h] at this
    omega

/-- The constants of the shader headers that the parameter loop reads:
`GFX_MAX_PARAMETERS`, and `sizeof` of the `id` and `desc` buffers of
`struct video_shader_parameter`. -/
structure ShaderLimits where
  gfxMaxParameters : Nat
  idSize : Nat
  descSize : Nat

/-! ## What the slang compiler returns -/

/-- `glslang_parameter`: one `#pragma parameter` declaration of a shader. -/
structure GlslangParameter where
  id : Bytes
  desc : Bytes
  initial : CFloat
  minimum : CFloat
  maximum : CFloat
  step : CFloat
  deriving DecidableEq, Repr

/-- `glslang_meta`: the declared parameters, the `#pragma name` and the
`#pragma format` of a shader. -/
structure GlslangMeta where
  parameters : List GlslangParameter
  name : Bytes
  rtFormat : GlslangFormat
  deriving DecidableEq, Repr

/-- `glslang_output`: SPIR-V of both stages and the reflected metadata. -/
structure GlslangOutput where
  vertex : List UInt32
  fragment : List UInt32
  meta : GlslangMeta
  deriving DecidableEq, Repr

/-! ## The parsed preset -/

/-- `struct video_shader_parameter`: one row of the preset's table. -/
structure VideoShaderParameter where
  id : Bytes
  desc : Bytes
  current : CFloat
  initial : CFloat
  minimum : CFloat
  maximum : CFloat
  step : CFloat
  deriving DecidableEq, Repr

/-- `struct gfx_fbo_scale`: the framebuffer settings of a preset pass;
`valid` is set when the pass declares a scale type. -/
structure GfxFboScale where
  fpFbo : Bool
  srgbFbo : Bool
  valid : Bool
  typeX : GfxScaleType
  typeY : GfxScaleType
  scaleX : CFloat
  scaleY : CFloat
  absX : Nat
  absY : Nat
  deriving DecidableEq, Repr

/-- `struct video_shader_pass`, with the fields the chain construction reads
(`aliasName` is the field `alias`). -/
structure VideoShaderPass where
  sourcePath : Bytes
  aliasName : Bytes
  fbo : GfxFboScale
  filter : GfxFilterType
  wrap : GfxWrapType
  frameCountMod : Nat
  mipmap : Bool
  deriving DecidableEq, Repr

/-- `struct video_shader_lut`: a lookup texture named by the preset. -/
structure VideoShaderLut where
  id : Bytes
  path : Bytes
  filter : GfxFilterType
  wrap : GfxWrapType
  mipmap : Bool
  deriving DecidableEq, Repr

/-- `struct video_shader` as `video_shader_read_conf_cgp` leaves it: a preset
has at least one pass (the source reads `pass[passes - 1]`), and `parameters`
is the table `parameters[0 .. num_parameters)`. -/
structure VideoShader where
  pass : List VideoShaderPass
  pass_ne_nil : pass ≠ []
  lut : List VideoShaderLut
  parameters : List VideoShaderParameter

/-! ## The chain, as the calls it receives -/

/-- `gl_core::StaticTexture`: a loaded LUT with its sampling state baked in. -/
structure StaticTexture where
  id : Bytes
  width : Nat
  height : Nat
  linear : Bool
  mipmap : Bool
  address : Nat
  deriving DecidableEq, Repr

/-- A call made on the `gl_core_filter_chain` under construction. -/
inductive ChainCall
  | addStaticTexture (texture : StaticTexture)
  | addParameter (pass parameterIndex : Nat) (id : Bytes)
  | setShader (pass stage : Nat) (spirv : List UInt32)
  | setFrameCountPeriod (pass period : Nat)
  | setPassName (pass : Nat) (name : Bytes)
  | setPassInfo (pass : Nat) (info : GlCoreFilterChainPassInfo)
  deriving DecidableEq, Repr

end GlCore
