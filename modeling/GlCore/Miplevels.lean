import GlCore.Formats
import Mathlib.Data.Nat.Log

/-!
# Mip chain lengths

The driver has two `num_miplevels`: the one of `shader_gl_core.cpp` counts
the bits of `max (width, height)` and sizes the preset's LUT textures, the
one of `gl_core.c` halves `max (width, height)` down to one and sizes the
menu's textures.  Both feed `glTexStorage2D`, which accepts at most
`floor (log2 (max (width, height))) + 1` levels, the length of the full
chain down to `1 × 1`.

* `numMiplevels_agree` — on every non-empty size the two loops agree, and
  their value is that full chain length: the largest number of levels
  `glTexStorage2D` accepts.  The formula `ceil (log2 (max (w, h))) + 1`
  exceeds it exactly on the sizes that are not powers of two.
-/

namespace GlCore

/-! ## The two loops -/

/-- `while (size) { levels++; size >>= 1; }` -/
def countLevels (size levels : Nat) : Nat :=
  if size = 0 then levels else countLevels (size >>> 1) (levels + 1)
termination_by size
decreasing_by
  rw [Nat.shiftRight_one]
  omega

/-- `while (width > 1) { levels++; width >>= 1; }` -/
def halveLevels (width levels : Nat) : Nat :=
  if width > 1 then halveLevels (width >>> 1) (levels + 1) else levels
termination_by width
decreasing_by
  rw [Nat.shiftRight_one]
  omega

namespace Chain

/-- `gl_core::num_miplevels` of `shader_gl_core.cpp`: the number of bits of
`MAX (width, height)`. -/
def numMiplevels (width height : Nat) : Nat :=
  countLevels (max width height) 0

end Chain

/-- `num_miplevels` of `gl_core.c`: one level, plus one per halving of the
larger side down to one. -/
def numMiplevels (width height : Nat) : Nat :=
  halveLevels (max width height) 1

/-- `log2 n` drops the last bit of `n ≥ 2` and counts it. -/
theorem log2_of_two_le {n : Nat} (hn : 2 ≤ n) : n.log2 = (n / 2).log2 + 1 := by
  rw [Nat.log2]
  simp [hn]

/-- `log2` of `0` and `1`. -/
theorem log2_of_lt_two {n : Nat} (hn : n < 2) : n.log2 = 0 := by
  rw [Nat.log2]
  simp [show ¬ n ≥ 2 by omega]

/-- `log2 n = k` on `2 ^ k ≤ n < 2 ^ (k + 1)`. -/
theorem log2_eq_of_bounds {n k : Nat} (hlo : 2 ^ k ≤ n) (hhi : n < 2 ^ (k + 1)) :
    n.log2 = k := by
  have hn : n ≠ 0 := by have := Nat.one_le_two_pow (n := k); omega
  have := (Nat.le_log2 hn).mpr hlo
  have := (Nat.log2_lt hn).mpr hhi
  omega

/-- The bit count is `floor (log2 size) + 1`, and `0` for an empty size. -/
theorem countLevels_eq (size levels : Nat) :
    countLevels size levels = levels + if size = 0 then 0 else size.log2 + 1 := by
  induction size using Nat.strong_induction_on generalizing levels with
  | _ size ih =>
    rw [countLevels]
    by_cases h0 : size = 0
    · simp [h0]
    · rw [if_neg h0, if_neg h0, Nat.shiftRight_one, ih _ (by omega)]
      by_cases h1 : size = 1
      · subst h1
        simp [log2_of_lt_two]
      · have hhalf : size / 2 ≠ 0 := by omega
        rw [if_neg hhalf, log2_of_two_le (n := size) (by omega)]
        omega

/-- The halving loop adds `floor (log2 width)` levels. -/
theorem halveLevels_eq (width levels : Nat) :
    halveLevels width levels = levels + width.log2 := by
  induction width using Nat.strong_induction_on generalizing levels with
  | _ width ih =>
    rw [halveLevels]
    by_cases h : width > 1
    · rw [if_pos h, Nat.shiftRight_one, ih _ (by omega), log2_of_two_le h]
      omega
    · rw [if_neg h, log2_of_lt_two (by omega)]
      rfl

@[simp] theorem Chain.numMiplevels_eq (width height : Nat) :
    Chain.numMiplevels width height =
      if max width height = 0 then 0 else (max width height).log2 + 1 := by
  simp [Chain.numMiplevels, countLevels_eq]

@[simp] theorem numMiplevels_eq (width height : Nat) :
    numMiplevels width height = (max width height).log2 + 1 := by
  simp [numMiplevels, halveLevels_eq, Nat.add_comm]

/-- On the empty size the loops part: the bit count gives no level at all. -/
example : Chain.numMiplevels 0 0 = 0 ∧ numMiplevels 0 0 = 1 := by simp

/-! ## Against the limit of `glTexStorage2D` -/

/-- The most levels `glTexStorage2D` accepts for a `width × height` image:
`floor (log2 (max (width, height))) + 1`, the full chain down to `1 × 1`. -/
def texStorageMaxLevels (width height : Nat) : Nat :=
  (max width height).log2 + 1

/-- The formula `ceil (log2 (max (w, h))) + 1` for a full mip chain. -/
def ceilLog2Levels (width height : Nat) : Nat :=
  Nat.clog 2 (max width height) + 1

/-- `ceil (log2 m)` passes `floor (log2 m)` exactly off the powers of two. -/
theorem log2_lt_clog_iff {m : Nat} (hm : 1 ≤ m) :
    m.log2 < Nat.clog 2 m ↔ ¬ ∃ k, m = 2 ^ k := by
  have hlo : 2 ^ m.log2 ≤ m := Nat.log2_self_le (by omega)
  constructor
  · rintro hlt ⟨k, rfl⟩
    rw [Nat.log2_two_pow, Nat.clog_pow 2 k (by decide)] at hlt
    exact lt_irrefl _ hlt
  · intro hpow
    have hstrict : 2 ^ m.log2 < m := lt_of_le_of_ne hlo fun h => hpow ⟨_, h.symm⟩
    by_contra hle
    have := (Nat.le_pow_iff_clog_le (by decide)).mpr (not_lt.mp hle)
    omega

/-- **The two `num_miplevels` agree on every non-empty size.**  Their common
value `L` is `floor (log2 (max (w, h))) + 1`, that is
`2 ^ (L - 1) ≤ max (w, h) < 2 ^ L`; it is the largest level count
`glTexStorage2D` accepts, and `ceil (log2 (max (w, h))) + 1` exceeds it exactly
when `max (w, h)` is not a power of two. -/
theorem numMiplevels_agree (width height : Nat) (h : 1 ≤ max width height) :
    Chain.numMiplevels width height = numMiplevels width height ∧
    numMiplevels width height = (max width height).log2 + 1 ∧
    2 ^ (numMiplevels width height - 1) ≤ max width height ∧
    max width height < 2 ^ numMiplevels width height ∧
    numMiplevels width height = texStorageMaxLevels width height ∧
    (texStorageMaxLevels width height < ceilLog2Levels width height ↔
      ¬ ∃ k, max width height = 2 ^ k) := by
  have hne : max width height ≠ 0 := by omega
  refine ⟨by simp [hne], numMiplevels_eq _ _, ?_, ?_, numMiplevels_eq _ _, ?_⟩
  · rw [numMiplevels_eq, Nat.add_sub_cancel]
    exact Nat.log2_self_le hne
  · rw [numMiplevels_eq]
    exact Nat.lt_log2_self
  · simp only [texStorageMaxLevels, ceilLog2Levels, Nat.add_lt_add_iff_right]
    exact log2_lt_clog_iff h

/-- A `640 × 480` texture: ten levels, `640` being no power of two. -/
theorem numMiplevels_agree_640x480 :
    1 ≤ max 640 480 ∧ Chain.numMiplevels 640 480 = numMiplevels 640 480 ∧
      numMiplevels 640 480 = 10 :=
  ⟨by decide, (numMiplevels_agree 640 480 (by decide)).1,
    by rw [numMiplevels_eq, log2_eq_of_bounds (k := 9) (by decide) (by decide)]⟩

/-! ## The menu's texture loader -/

def glNearest : Nat := 0x2600
def glLinear : Nat := 0x2601
def glLinearMipmapNearest : Nat := 0x2701
def glLinearMipmapLinear : Nat := 0x2703

/-- `enum texture_filter_type`: how the menu asks a texture to be sampled. -/
inductive TextureFilterType
  | linear | nearest | mipmapLinear | mipmapNearest
  deriving DecidableEq, Repr

/-- The storage and sampling state `video_texture_load_gl_core` gives a
texture: its level count, wrap mode, filters, and whether it calls
`glGenerateMipmap`. -/
structure TextureStorage where
  levels : Nat
  wrap : Nat
  magFilter : Nat
  minFilter : Nat
  generateMipmap : Bool
  deriving DecidableEq, Repr

/-- `video_texture_load_gl_core` for a `width × height` image. -/
def videoTextureLoadGlCore (width height : Nat) (filterType : TextureFilterType) :
    TextureStorage :=
  let levels :=
    if filterType = .mipmapLinear ∨ filterType = .mipmapNearest then numMiplevels width height
    else 1
  let filters : Nat × Nat :=
    match filterType with
    | .linear => (glLinear, glLinear)
    | .nearest => (glNearest, glNearest)
    | .mipmapNearest => (glLinear, glLinearMipmapNearest)
    | .mipmapLinear => (glLinear, glLinearMipmapLinear)
  { levels := levels, wrap := glClampToEdge, magFilter := filters.1, minFilter := filters.2,
    generateMipmap := decide (levels > 1) }

/-- **Menu textures get valid storage.**  For every non-empty image the
loader allocates between one level and the most `glTexStorage2D` accepts: the
full chain when a mipmapped filter is asked for, one level otherwise; it
generates mipmaps exactly when that chain has more than one level. -/
theorem videoTextureLoadGlCore_levels (width height : Nat) (filterType : TextureFilterType)
    (h : 1 ≤ max width height) :
    let t := videoTextureLoadGlCore width height filterType
    1 ≤ t.levels ∧ t.levels ≤ texStorageMaxLevels width height ∧
      (t.levels = if filterType = .mipmapLinear ∨ filterType = .mipmapNearest
        then texStorageMaxLevels width height else 1) ∧
      (t.generateMipmap = true ↔
        (filterType = .mipmapLinear ∨ filterType = .mipmapNearest) ∧ 2 ≤ max width height) := by
  have hpos : 0 < (max width height).log2 ↔ 2 ≤ max width height := by
    rw [show (0 < (max width height).log2) = (1 ≤ (max width height).log2) from rfl,
      Nat.le_log2 (by omega)]
  cases filterType <;> simp [videoTextureLoadGlCore, texStorageMaxLevels, hpos]

/-- A `256 × 256` menu icon asked for with trilinear filtering gets its mipmaps
generated. -/
theorem videoTextureLoadGlCore_mipmapped_icon :
    1 ≤ max 256 256 ∧ (videoTextureLoadGlCore 256 256 .mipmapLinear).generateMipmap = true :=
  ⟨by decide, (videoTextureLoadGlCore_levels 256 256 .mipmapLinear (by decide)).2.2.2.mpr
    ⟨.inl rfl, by decide⟩⟩

end GlCore
