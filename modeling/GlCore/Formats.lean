import Mathlib.Data.BitVec

/-!
# Formats, filters and scale modes of the glcore filter chain

The enumerations that `shader_gl_core.cpp` translates between: the render
target formats a slang shader may declare (`glslang_format`), the OpenGL
enums they become, and the filter, address and scale modes of one pass.  The
enumerations themselves are declared in headers outside the driver sources;
each is modelled with exactly the values the driver's `switch` statements
name.  GL enums are plain numbers, with the values of the OpenGL registry.

A C `float` is modelled by its IEEE 754 binary32 encoding, so that `!=`
between parameter values compares as the hardware does (`NaN` is unequal to
itself, the two zeros are equal) and `float (abs_x)` rounds as C does.

* `convertGlslangFormat_ne_zero` — every declarable format becomes a real GL
  internal format, never the backbuffer marker `0`.
-/

namespace GlCore

/-! ## C floats -/

/-- A C `float`, given by its IEEE 754 binary32 encoding. -/
structure CFloat where
  bits : BitVec 32
  deriving DecidableEq, Repr

namespace CFloat

/-- `0.0f`. -/
def zero : CFloat := ⟨0⟩

/-- `1.0f`. -/
def one : CFloat := ⟨0x3F800000⟩

/-- All exponent bits set and a nonzero fraction. -/
def isNaN (x : CFloat) : Bool :=
  (x.bits >>> 23) &&& 0xFF == 0xFF && x.bits &&& 0x7FFFFF != 0

/-- `+0.0f` or `-0.0f`. -/
def isZero (x : CFloat) : Bool :=
  x.bits &&& 0x7FFFFFFF == 0

/-- C's `x == y` on floats: a `NaN` equals nothing, the two zeros are equal,
and otherwise the encodings must agree. -/
def feq (x y : CFloat) : Bool :=
  !x.isNaN && !y.isNaN && (x.bits == y.bits || x.isZero && y.isZero)

/-- `(float) n` for an `unsigned n`: the binary32 value nearest `n`, ties to
even.  `sig` is the significand with its leading one, rounded to 24 bits; a
carry out of the rounding lands in the exponent through the addition. -/
def ofNat (n : Nat) : CFloat :=
  if n = 0 then zero else
  let e := n.log2
  let sig :=
    if e ≤ 23 then n <<< (23 - e)
    else
      let s := e - 23
      let q := n >>> s
      let r := n % 2 ^ s
      if 2 ^ (s - 1) < r ∨ (r = 2 ^ (s - 1) ∧ q % 2 = 1) then q + 1 else q
  ⟨BitVec.ofNat 32 ((e + 127) * 2 ^ 23 + sig - 2 ^ 23)⟩

end CFloat

/-! ## OpenGL enums -/

def glR8 : Nat := 0x8229
def glR8i : Nat := 0x8231
def glR8ui : Nat := 0x8232
def glRg8 : Nat := 0x822B
def glRg8i : Nat := 0x8237
def glRg8ui : Nat := 0x8238
def glRgba8 : Nat := 0x8058
def glRgba8i : Nat := 0x8D8E
def glRgba8ui : Nat := 0x8D7C
def glSrgb8 : Nat := 0x8C41
def glRgb10A2 : Nat := 0x8059
def glRgb10A2ui : Nat := 0x906F
def glR16ui : Nat := 0x8234
def glR16i : Nat := 0x8233
def glR16f : Nat := 0x822D
def glRg16ui : Nat := 0x823A
def glRg16i : Nat := 0x8239
def glRg16f : Nat := 0x822F
def glRgba16ui : Nat := 0x8D76
def glRgba16i : Nat := 0x8D88
def glRgba16f : Nat := 0x881A
def glR32ui : Nat := 0x8236
def glR32i : Nat := 0x8235
def glR32f : Nat := 0x822E
def glRg32ui : Nat := 0x823C
def glRg32i : Nat := 0x823B
def glRg32f : Nat := 0x8230
def glRgba32ui : Nat := 0x8D70
def glRgba32i : Nat := 0x8D82
def glRgba32f : Nat := 0x8814
def glRgb565 : Nat := 0x8D62

def glClampToEdge : Nat := 0x812F
def glClampToBorder : Nat := 0x812D
def glRepeat : Nat := 0x2901
def glMirroredRepeat : Nat := 0x8370

def glVertexShader : Nat := 0x8B31
def glFragmentShader : Nat := 0x8B30

/-! ## Render target formats -/

/-- `enum glslang_format`: `unknown` when a shader declares no `#pragma format`. -/
inductive GlslangFormat
  | unknown
  | r8Unorm | r8Sint | r8Uint
  | r8g8Unorm | r8g8Sint | r8g8Uint
  | r8g8b8a8Unorm | r8g8b8a8Sint | r8g8b8a8Uint | r8g8b8a8Srgb
  | a2b10g10r10UnormPack32 | a2b10g10r10UintPack32
  | r16Uint | r16Sint | r16Sfloat
  | r16g16Uint | r16g16Sint | r16g16Sfloat
  | r16g16b16a16Uint | r16g16b16a16Sint | r16g16b16a16Sfloat
  | r32Uint | r32Sint | r32Sfloat
  | r32g32Uint | r32g32Sint | r32g32Sfloat
  | r32g32b32a32Uint | r32g32b32a32Sint | r32g32b32a32Sfloat
  deriving DecidableEq, Repr

/-- `convert_glslang_format`: the GL internal format of a slang format, `0`
for one the table does not list. -/
def convertGlslangFormat : GlslangFormat → Nat
  | .r8Unorm => glR8
  | .r8Sint => glR8i
  | .r8Uint => glR8ui
  | .r8g8Unorm => glRg8
  | .r8g8Sint => glRg8i
  | .r8g8Uint => glRg8ui
  | .r8g8b8a8Unorm => glRgba8
  | .r8g8b8a8Sint => glRgba8i
  | .r8g8b8a8Uint => glRgba8ui
  | .r8g8b8a8Srgb => glSrgb8
  | .a2b10g10r10UnormPack32 => glRgb10A2
  | .a2b10g10r10UintPack32 => glRgb10A2ui
  | .r16Uint => glR16ui
  | .r16Sint => glR16i
  | .r16Sfloat => glR16f
  | .r16g16Uint => glRg16ui
  | .r16g16Sint => glRg16i
  | .r16g16Sfloat => glRg16f
  | .r16g16b16a16Uint => glRgba16ui
  | .r16g16b16a16Sint => glRgba16i
  | .r16g16b16a16Sfloat => glRgba16f
  | .r32Uint => glR32ui
  | .r32Sint => glR32i
  | .r32Sfloat => glR32f
  | .r32g32Uint => glRg32ui
  | .r32g32Sint => glRg32i
  | .r32g32Sfloat => glRg32f
  | .r32g32b32a32Uint => glRgba32ui
  | .r32g32b32a32Sint => glRgba32i
  | .r32g32b32a32Sfloat => glRgba32f
  | .unknown => 0

/-- Every format a shader can declare has a GL counterpart: the conversion
yields `0`, the marker for "render to the backbuffer", only for `unknown`. -/
theorem convertGlslangFormat_ne_zero {f : GlslangFormat} (hf : f ≠ .unknown) :
    convertGlslangFormat f ≠ 0 := by
  cases f <;> first | exact absurd rfl hf | decide

/-! ## Filters, address modes and scale modes -/

/-- `enum gfx_filter_type`: a preset pass's `filter_linear` setting. -/
inductive GfxFilterType
  | unspec | linear | nearest
  deriving DecidableEq, Repr

/-- `enum gfx_wrap_type`: a preset pass's `wrap_mode`. -/
inductive GfxWrapType
  | border | edge | repeat | mirroredRepeat
  deriving DecidableEq, Repr

/-- `enum gfx_scale_type`: a preset pass's `scale_type`. -/
inductive GfxScaleType
  | input | absolute | viewport
  deriving DecidableEq, Repr

/-- `enum gl_core_filter_chain_filter`. -/
inductive GlCoreFilterChainFilter
  | linear | nearest
  deriving DecidableEq, Repr

/-- `enum gl_core_filter_chain_address`. -/
inductive GlCoreFilterChainAddress
  | repeat | mirroredRepeat | clampToEdge | clampToBorder
  deriving DecidableEq, Repr

/-- `enum gl_core_filter_chain_scale`: `original` is the placeholder every
pass starts from before the preset is read. -/
inductive GlCoreFilterChainScale
  | original | source | viewport | absolute
  deriving DecidableEq, Repr

/-- `wrap_to_address`. -/
def wrapToAddress : GfxWrapType → GlCoreFilterChainAddress
  | .edge => .clampToEdge
  | .border => .clampToBorder
  | .repeat => .repeat
  | .mirroredRepeat => .mirroredRepeat

/-- `address_to_gl`. -/
def addressToGl : GlCoreFilterChainAddress → Nat
  | .clampToEdge => glClampToEdge
  | .clampToBorder => glClampToBorder
  | .repeat => glRepeat
  | .mirroredRepeat => glMirroredRepeat

/-- `struct gl_core_filter_chain_pass_info`: what the chain is told about one
pass.  `rtFormat = 0` makes the pass render to the backbuffer. -/
structure GlCoreFilterChainPassInfo where
  scaleTypeX : GlCoreFilterChainScale
  scaleTypeY : GlCoreFilterChainScale
  scaleX : CFloat
  scaleY : CFloat
  rtFormat : Nat
  sourceFilter : GlCoreFilterChainFilter
  mipFilter : GlCoreFilterChainFilter
  address : GlCoreFilterChainAddress
  maxLevels : Nat
  deriving DecidableEq, Repr

end GlCore
