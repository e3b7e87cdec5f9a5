import GlCore.Driver
import Mathlib.Data.Finset.Basic

/-!
# GL objects: what the driver creates, holds and deletes

The driver owns GL objects of four kinds: a texture per streamed slot
(`textures[i].tex`), the menu texture, a program per menu pipeline
(`gl_core_init_pipelines`), and a vertex array.  Every place of `gl_core_t`
that holds such a name is a `GlCoreSlot`; `0` in it means no object.

The GL context is modelled by the objects alive in it and the names `glGen*`
hands out: fresh ones, never `0`.  `glDelete*` of `0` or of a name that names
no live object is ignored by GL; the model counts the second kind
(`strayDeletes`), since a driver that makes one has lost track of what it
owns.

The driver changes its objects in two ways only, each a two-line idiom of
the source: `if (name != 0) glDelete*(1, &name);` (`releaseObject`) and
`glGen*(1, &name);` (`createObject`).  `Owns` says that the live objects are
exactly those others own (alive before the driver, or created since by
another party) and the nonzero names the driver holds, each a distinct object
and none of them one of the others'.

* `Owns.set` — setting a slot keeps ownership when the context swaps the
  slot's old object for a new one; from it, `Owns.release`, `Owns.create` and
  `Owns.genDelete`: each primitive keeps ownership and makes no stray delete;
* `Owns.foreignGen`, `Owns.foreignDelete` — so does another party creating
  an object, or deleting one it owns;
* `Owns.initPipelines` — so does `gl_core_init_pipelines`, which creates a
  program per pipeline until one fails to compile;
* `Owns.mem_destroyResources_iff`, `Owns.nodup_destroyResources` —
  `gl_core_destroy_resources` deletes each object the driver owns once, and
  no other.  Its callers make those calls only after the
  context driver is torn down, so they are kept as a list of calls.
-/

namespace GlCore

/-! ## The GL context -/

/-- The kinds of GL object the driver creates; each kind has names of its own. -/
inductive GlObjectKind
  | texture | program | vertexArray | buffer
  deriving DecidableEq, Repr

/-- A GL object: its kind and its name. -/
structure GlObject where
  kind : GlObjectKind
  name : Nat
  deriving DecidableEq, Repr

/-- The objects of a GL context: those alive, the name the next `glGen*` of
each kind hands out, and how many deletions named no live object.  No live
object is named `0` or a name not handed out yet. -/
structure GlContext where
  live : Finset GlObject
  next : GlObjectKind → Nat
  strayDeletes : Nat
  fresh : ∀ o ∈ live, 0 < o.name ∧ o.name < next o.kind
  next_pos : ∀ k, 0 < next k

namespace GlContext

/-- Handing out a name of kind `k` moves only that kind's next name on. -/
theorem le_update_next (next : GlObjectKind → Nat) (k k' : GlObjectKind) :
    next k' ≤ Function.update next k (next k + 1) k' := by
  by_cases h : k' = k
  · subst h
    simp
  · simp [Function.update_noteq h]

private theorem gen_fresh (ctx : GlContext) (k : GlObjectKind) :
    ∀ o ∈ insert ⟨k, ctx.next k⟩ ctx.live,
      0 < o.name ∧ o.name < Function.update ctx.next k (ctx.next k + 1) o.kind := by
  intro o ho
  rcases Finset.mem_insert.mp ho with rfl | ho
  · exact ⟨ctx.next_pos k, by simp⟩
  · obtain ⟨hpos, hlt⟩ := ctx.fresh o ho
    exact ⟨hpos, Nat.lt_of_lt_of_le hlt (le_update_next ctx.next k o.kind)⟩

/-- `glGen*` of one object of kind `k`: a fresh name, now alive. -/
def gen (ctx : GlContext) (k : GlObjectKind) : GlContext × Nat :=
  (⟨insert ⟨k, ctx.next k⟩ ctx.live, Function.update ctx.next k (ctx.next k + 1),
    ctx.strayDeletes, gen_fresh ctx k,
    fun k' => Nat.lt_of_lt_of_le (ctx.next_pos k') (le_update_next ctx.next k k')⟩, ctx.next k)

/-- `glDelete*` of name `n` of kind `k`: GL ignores `0` and a name of no live
object; the second is a stray delete. -/
def delete (ctx : GlContext) (k : GlObjectKind) (n : Nat) : GlContext :=
  if n = 0 then ctx
  else if (⟨k, n⟩ : GlObject) ∈ ctx.live then
    { ctx with
      live := ctx.live.erase ⟨k, n⟩
      fresh := fun o ho => ctx.fresh o (Finset.mem_of_mem_erase ho) }
  else { ctx with strayDeletes := ctx.strayDeletes + 1 }

variable (ctx : GlContext) (k : GlObjectKind)

@[simp] theorem gen_live : (ctx.gen k).1.live = insert ⟨k, ctx.next k⟩ ctx.live := rfl
@[simp] theorem gen_name : (ctx.gen k).2 = ctx.next k := rfl
@[simp] theorem gen_strayDeletes : (ctx.gen k).1.strayDeletes = ctx.strayDeletes := rfl

@[simp] theorem gen_next :
    (ctx.gen k).1.next = Function.update ctx.next k (ctx.next k + 1) := rfl

/-- The name `glGen*` hands out names no live object. -/
theorem next_not_mem : (⟨k, ctx.next k⟩ : GlObject) ∉ ctx.live :=
  fun h => Nat.lt_irrefl _ (ctx.fresh _ h).2

@[simp] theorem delete_next (n : Nat) : (ctx.delete k n).next = ctx.next := by
  unfold delete
  split_ifs <;> rfl

/-- Deleting a live object erases it, and is no stray delete. -/
theorem delete_of_mem {n : Nat} (h : (⟨k, n⟩ : GlObject) ∈ ctx.live) :
    (ctx.delete k n).live = ctx.live.erase ⟨k, n⟩ ∧
      (ctx.delete k n).next = ctx.next ∧ (ctx.delete k n).strayDeletes = ctx.strayDeletes := by
  have hn : n ≠ 0 := Nat.pos_iff_ne_zero.mp (ctx.fresh _ h).1
  simp only [delete, hn, h, ↓reduceIte, and_self]

/-- A context in which no object was created yet. -/
def empty : GlContext := ⟨∅, fun _ => 1, 0, fun _ h => absurd h (Finset.not_mem_empty _),
  fun _ => Nat.one_pos⟩

end GlContext

/-- The texture objects the names `ids` denote. -/
def textureObjects (ids : Finset Nat) : Finset GlObject :=
  ids.image (⟨.texture, ·⟩)

theorem textureObjects_injective : Function.Injective (⟨.texture, ·⟩ : Nat → GlObject) :=
  fun _ _ h => congrArg GlObject.name h

@[simp] theorem mem_textureObjects {ids : Finset Nat} {n : Nat} :
    (⟨.texture, n⟩ : GlObject) ∈ textureObjects ids ↔ n ∈ ids :=
  textureObjects_injective.mem_finset_image

/-! ## The names the driver holds -/

/-- The menu pipelines, in the order `gl_core_init_pipelines` compiles them. -/
inductive GlCorePipeline
  | alphaBlend | font | ribbonSimple | ribbon | bokeh | snowSimple | snow
  deriving DecidableEq, Repr

/-- The GL names `gl_core_t` holds; `0` is no object. -/
structure GlCoreObjects where
  /-- `textures[i].tex`. -/
  textures : Fin glCoreNumTextures → Nat
  /-- `menu_texture`. -/
  menuTexture : Nat
  /-- The programs of `pipelines`. -/
  pipelines : GlCorePipeline → Nat
  /-- `vao`. -/
  vao : Nat

/-- The names of a `gl_core_t` as `calloc` leaves it. -/
def GlCoreObjects.calloc : GlCoreObjects := ⟨fun _ => 0, 0, fun _ => 0, 0⟩

/-- A place of `gl_core_t` that holds a GL name. -/
inductive GlCoreSlot
  | texture (i : Fin glCoreNumTextures)
  | menuTexture
  | pipeline (p : GlCorePipeline)
  | vao
  deriving DecidableEq, Repr

/-- The kind of object a slot holds. -/
def GlCoreSlot.kind : GlCoreSlot → GlObjectKind
  | .texture _ => .texture
  | .menuTexture => .texture
  | .pipeline _ => .program
  | .vao => .vertexArray

namespace GlCoreObjects

/-- The name in slot `s`. -/
def get (objs : GlCoreObjects) : GlCoreSlot → Nat
  | .texture i => objs.textures i
  | .menuTexture => objs.menuTexture
  | .pipeline p => objs.pipelines p
  | .vao => objs.vao

/-- Slot `s` set to name `n`. -/
def set (objs : GlCoreObjects) : GlCoreSlot → Nat → GlCoreObjects
  | .texture i, n => { objs with textures := Function.update objs.textures i n }
  | .menuTexture, n => { objs with menuTexture := n }
  | .pipeline p, n => { objs with pipelines := Function.update objs.pipelines p n }
  | .vao, n => { objs with vao := n }

@[simp] theorem get_set (objs : GlCoreObjects) (s t : GlCoreSlot) (n : Nat) :
    (objs.set s n).get t = if t = s then n else objs.get t := by
  cases s <;> cases t <;> simp [get, set, Function.update_apply]

@[simp] theorem calloc_get (s : GlCoreSlot) : calloc.get s = 0 := by
  cases s <;> rfl

end GlCoreObjects

/-- `if (name != 0) glDelete*(1, &name);`, the slot left empty. -/
def releaseObject (objs : GlCoreObjects) (ctx : GlContext) (s : GlCoreSlot) :
    GlCoreObjects × GlContext :=
  (objs.set s 0, if objs.get s ≠ 0 then ctx.delete s.kind (objs.get s) else ctx)

/-- `glGen*(1, &name);` into slot `s`. -/
def createObject (objs : GlCoreObjects) (ctx : GlContext) (s : GlCoreSlot) :
    GlCoreObjects × GlContext :=
  let r := ctx.gen s.kind
  (objs.set s r.2, r.1)

/-- Both lines: the object in slot `s` is replaced by a new one. -/
def replaceObject (objs : GlCoreObjects) (ctx : GlContext) (s : GlCoreSlot) :
    GlCoreObjects × GlContext :=
  let r := releaseObject objs ctx s
  createObject r.1 r.2 s

/-- Replacing an object hands out one name of its kind. -/
theorem replaceObject_next (objs : GlCoreObjects) (ctx : GlContext) (s : GlCoreSlot) :
    (replaceObject objs ctx s).2.next = Function.update ctx.next s.kind (ctx.next s.kind + 1) := by
  unfold replaceObject releaseObject createObject
  split_ifs <;> simp

/-! ## Ownership -/

/-- The driver owns its objects.  The live objects are exactly those in
`outside`, which others own, and the nonzero names the driver holds, each
its own object, and none of them one of the others'. -/
structure Owns (outside : Finset GlObject) (ctx : GlContext) (objs : GlCoreObjects) : Prop where
  live_iff : ∀ o, o ∈ ctx.live ↔ o ∈ outside ∨ ∃ s, objs.get s ≠ 0 ∧ o = ⟨s.kind, objs.get s⟩
  held_not_outside : ∀ s, objs.get s ≠ 0 → (⟨s.kind, objs.get s⟩ : GlObject) ∉ outside
  distinct : ∀ s t, objs.get s ≠ 0 → s.kind = t.kind → objs.get s = objs.get t → s = t

section Owns

variable {outside : Finset GlObject} {ctx : GlContext} {objs : GlCoreObjects}

/-- Before the driver creates anything, it owns nothing. -/
theorem owns_calloc (ctx : GlContext) : Owns ctx.live ctx GlCoreObjects.calloc where
  live_iff o := by simp
  held_not_outside s h := absurd (GlCoreObjects.calloc_get s) h
  distinct s _ h := absurd (GlCoreObjects.calloc_get s) h

/-- An object others own is live. -/
theorem Owns.outside_mem (h : Owns outside ctx objs) {o : GlObject} (ho : o ∈ outside) :
    o ∈ ctx.live :=
  (h.live_iff o).mpr (.inl ho)

/-- A name the driver holds is a live object. -/
theorem Owns.held_mem (h : Owns outside ctx objs) {s : GlCoreSlot} (hs : objs.get s ≠ 0) :
    (⟨s.kind, objs.get s⟩ : GlObject) ∈ ctx.live :=
  (h.live_iff _).mpr (.inr ⟨s, hs, rfl⟩)

/-- **Setting a slot keeps ownership** when the context swaps the slot's old
object, if any, for its new one, and the new one was not alive before. -/
theorem Owns.set (h : Owns outside ctx objs) {ctx' : GlContext} {s : GlCoreSlot} {n : Nat}
    (hlive : ∀ o, o ∈ ctx'.live ↔
      (o ∈ ctx.live ∧ (objs.get s ≠ 0 → o ≠ ⟨s.kind, objs.get s⟩)) ∨ (n ≠ 0 ∧ o = ⟨s.kind, n⟩))
    (hnew : n ≠ 0 → (⟨s.kind, n⟩ : GlObject) ∉ ctx.live) :
    Owns outside ctx' (objs.set s n) := by
  have hget t (ht : t ≠ s) : (objs.set s n).get t = objs.get t := by simp [ht]
  refine ⟨fun o => ?_, fun t ht => ?_, fun t u ht hk he => ?_⟩
  · rw [hlive, h.live_iff]
    constructor
    · rintro (⟨ho | ⟨t, ht, rfl⟩, hne⟩ | ⟨hn, rfl⟩)
      · exact .inl ho
      · have hts : t ≠ s := by rintro rfl; exact hne ht rfl
        exact .inr ⟨t, hget t hts ▸ ht, by rw [hget t hts]⟩
      · exact .inr ⟨s, by simpa using hn, by simp⟩
    · rintro (ho | ⟨t, ht, rfl⟩)
      · exact .inl ⟨.inl ho, fun hs he => h.held_not_outside s hs (he ▸ ho)⟩
      · by_cases hts : t = s
        · subst hts
          exact .inr ⟨by simpa using ht, by simp⟩
        · rw [hget t hts] at ht ⊢
          exact .inl ⟨.inr ⟨t, ht, rfl⟩, fun _ he =>
            hts (h.distinct t s ht (congrArg GlObject.kind he) (congrArg GlObject.name he))⟩
  · by_cases hts : t = s
    · subst hts
      simp only [GlCoreObjects.get_set, ↓reduceIte] at ht ⊢
      exact fun ho => hnew ht (h.outside_mem ho)
    · rw [hget t hts] at ht ⊢
      exact h.held_not_outside t ht
  · by_cases hts : t = s <;> by_cases hus : u = s
    · exact hts.trans hus.symm
    · -- the new name is no name the driver still holds, being no live object
      subst hts
      simp only [GlCoreObjects.get_set, ↓reduceIte, hget u hus] at ht he
      exact absurd (hk ▸ he ▸ h.held_mem (he ▸ ht)) (hnew ht)
    · subst hus
      simp only [GlCoreObjects.get_set, ↓reduceIte, hget t hts] at ht he
      exact absurd (hk ▸ he ▸ h.held_mem ht) (hnew (he ▸ ht))
    · rw [hget t hts, hget u hus] at he
      exact h.distinct t u (hget t hts ▸ ht) hk he

/-- **Releasing a slot keeps ownership**, and deletes nothing stray. -/
theorem Owns.release (h : Owns outside ctx objs) (s : GlCoreSlot) :
    Owns outside (releaseObject objs ctx s).2 (releaseObject objs ctx s).1 ∧
      (releaseObject objs ctx s).2.strayDeletes = ctx.strayDeletes := by
  by_cases hs : objs.get s = 0
  · simp only [releaseObject, hs, ne_eq, not_true_eq_false, ↓reduceIte, and_true]
    exact h.set (fun o => by simp [hs]) (absurd rfl)
  · obtain ⟨hlive, -, hstray⟩ := ctx.delete_of_mem s.kind (h.held_mem hs)
    simp only [releaseObject, hs, ne_eq, not_false_eq_true, ↓reduceIte, hstray, and_true]
    exact h.set (fun o => by simp [hlive, hs, and_comm]) (absurd rfl)

/-- **Creating into an empty slot keeps ownership**, and deletes nothing. -/
theorem Owns.create (h : Owns outside ctx objs) {s : GlCoreSlot} (hs : objs.get s = 0) :
    Owns outside (createObject objs ctx s).2 (createObject objs ctx s).1 ∧
      (createObject objs ctx s).2.strayDeletes = ctx.strayDeletes :=
  ⟨h.set (fun o => by simp [createObject, hs, (ctx.next_pos s.kind).ne', or_comm])
    (fun _ => ctx.next_not_mem s.kind), rfl⟩

/-- **Replacing the object in a slot keeps ownership**, and deletes nothing
stray. -/
theorem Owns.replace (h : Owns outside ctx objs) (s : GlCoreSlot) :
    Owns outside (replaceObject objs ctx s).2 (replaceObject objs ctx s).1 ∧
      (replaceObject objs ctx s).2.strayDeletes = ctx.strayDeletes := by
  obtain ⟨hr, hrs⟩ := h.release s
  obtain ⟨hc, hcs⟩ := hr.create (s := s) (by simp [releaseObject])
  exact ⟨hc, hcs.trans hrs⟩

/-- **An object created and deleted at once** (`glGenBuffers`, then
`glDeleteBuffers` of that buffer) leaves ownership as it was. -/
theorem Owns.genDelete (h : Owns outside ctx objs) (k : GlObjectKind) :
    Owns outside (((ctx.gen k).1).delete k (ctx.gen k).2) objs ∧
      (((ctx.gen k).1).delete k (ctx.gen k).2).strayDeletes = ctx.strayDeletes := by
  obtain ⟨hlive, -, hstray⟩ :=
    GlContext.delete_of_mem (ctx.gen k).1 k (n := ctx.next k) (by simp)
  have hback : (((ctx.gen k).1).delete k (ctx.gen k).2).live = ctx.live := by
    rw [GlContext.gen_name, hlive, GlContext.gen_live,
      Finset.erase_insert (ctx.next_not_mem k)]
  exact ⟨⟨fun o => hback ▸ h.live_iff o, h.held_not_outside, h.distinct⟩, hstray⟩

/-- **An object another party creates** joins what others own, and the driver
keeps its own: the fresh name is none of the driver's. -/
theorem Owns.foreignGen (h : Owns outside ctx objs) (k : GlObjectKind) :
    Owns (insert ⟨k, ctx.next k⟩ outside) (ctx.gen k).1 objs where
  live_iff o := by
    rw [GlContext.gen_live, Finset.mem_insert, Finset.mem_insert, h.live_iff, or_assoc]
  held_not_outside s hs := by
    rw [Finset.mem_insert, not_or]
    exact ⟨fun he => ctx.next_not_mem k (he ▸ h.held_mem hs), h.held_not_outside s hs⟩
  distinct := h.distinct

/-- **An object others own, deleted by its owner**, leaves the driver's
objects alone, and is no stray delete. -/
theorem Owns.foreignDelete (h : Owns outside ctx objs) {k : GlObjectKind} {n : Nat}
    (ho : ⟨k, n⟩ ∈ outside) :
    Owns (outside.erase ⟨k, n⟩) (ctx.delete k n) objs ∧
      (ctx.delete k n).strayDeletes = ctx.strayDeletes := by
  obtain ⟨hlive, -, hstray⟩ := ctx.delete_of_mem k (h.outside_mem ho)
  refine ⟨⟨fun p => ?_, fun s hs hmem => h.held_not_outside s hs (Finset.mem_of_mem_erase hmem),
    h.distinct⟩, hstray⟩
  rw [hlive, Finset.mem_erase, Finset.mem_erase, h.live_iff]
  constructor
  · rintro ⟨hne, hp | hp⟩
    · exact .inl ⟨hne, hp⟩
    · exact .inr hp
  · rintro (⟨hne, hp⟩ | ⟨s, hs, rfl⟩)
    · exact ⟨hne, .inl hp⟩
    · exact ⟨fun he => h.held_not_outside s hs (he ▸ ho), .inr ⟨s, hs, rfl⟩⟩

end Owns

/-! ## Creating the pipelines -/

/-- The order in which `gl_core_init_pipelines` compiles the pipelines. -/
def glCorePipelineOrder : List GlCorePipeline :=
  [.alphaBlend, .font, .ribbonSimple, .ribbon, .bokeh, .snowSimple, .snow]

/-- `gl_core_init_pipelines` over the pipelines `ps`, where `compiles p` is
whether `gl_core_cross_compile_program` builds pipeline `p` (and so creates
its program): a program per pipeline, until the first that fails. -/
def glCoreInitPipelines (compiles : GlCorePipeline → Bool) :
    List GlCorePipeline → GlCoreObjects → GlContext → GlCoreObjects × GlContext × Bool
  | [], objs, ctx => (objs, ctx, true)
  | p :: ps, objs, ctx =>
    if compiles p then
      let r := createObject objs ctx (.pipeline p)
      glCoreInitPipelines compiles ps r.1 r.2
    else (objs, ctx, false)

/-- **Creating the pipelines keeps ownership** when their slots start empty:
each program created is held in its own slot. -/
theorem Owns.initPipelines {outside : Finset GlObject} (compiles : GlCorePipeline → Bool) :
    ∀ (ps : List GlCorePipeline) (objs : GlCoreObjects) (ctx : GlContext),
      Owns outside ctx objs → ps.Nodup → (∀ p ∈ ps, objs.get (.pipeline p) = 0) →
      let r := glCoreInitPipelines compiles ps objs ctx
      Owns outside r.2.1 r.1 ∧ r.2.1.strayDeletes = ctx.strayDeletes
  | [], _, _, h, _, _ => ⟨h, rfl⟩
  | p :: ps, objs, ctx, h, hnd, hzero => by
    simp only [glCoreInitPipelines]
    split
    · obtain ⟨hc, hcs⟩ := h.create (hzero p (List.mem_cons_self _ _))
      have hnd' := List.nodup_cons.mp hnd
      obtain ⟨hr, hrs⟩ := Owns.initPipelines compiles ps _ _ hc hnd'.2 fun q hq => by
        have hqp : q ≠ p := fun he => hnd'.1 (he ▸ hq)
        simpa [createObject, hqp] using hzero q (List.mem_cons_of_mem _ hq)
      exact ⟨hr, hrs.trans hcs⟩
    · exact ⟨h, rfl⟩

/-! ## Releasing everything -/

/-- The slots `gl_core_destroy_resources` releases, in its order: the vertex
array, the streamed textures, the menu texture and the programs. -/
def glCoreDestroyOrder : List GlCoreSlot :=
  [.vao] ++ (List.finRange glCoreNumTextures).map .texture ++ [.menuTexture] ++
    [.alphaBlend, .font, .ribbon, .ribbonSimple, .snowSimple, .snow, .bokeh].map .pipeline

/-- `gl_core_destroy_resources`: its `glDelete*` calls, in order, one for each
nonzero name (the filter chain is freed, and `gl` itself).  Both its callers
make it after the context driver is torn down, `gl_core_free` after
`video_context_driver_free` and `gl_core_init`'s error path after
`video_context_driver_destroy`, so the calls are kept as calls and applied to
no GL context. -/
def glCoreDestroyResources (objs : GlCoreObjects) : List GlObject :=
  glCoreDestroyOrder.filterMap fun s => if objs.get s ≠ 0 then some ⟨s.kind, objs.get s⟩ else none

/-- `gl_core_destroy_resources` releases every slot. -/
theorem mem_glCoreDestroyOrder (s : GlCoreSlot) : s ∈ glCoreDestroyOrder := by
  cases s with
  | texture i => revert i; decide
  | pipeline p => cases p <;> decide
  | _ => decide

/-- The calls name exactly the objects the driver holds. -/
theorem mem_glCoreDestroyResources {objs : GlCoreObjects} {o : GlObject} :
    o ∈ glCoreDestroyResources objs ↔ ∃ s, objs.get s ≠ 0 ∧ o = ⟨s.kind, objs.get s⟩ := by
  simp [glCoreDestroyResources, mem_glCoreDestroyOrder, eq_comm]

/-- **The calls name exactly the live objects no other party owns.** -/
theorem Owns.mem_destroyResources_iff {outside : Finset GlObject} {ctx : GlContext}
    {objs : GlCoreObjects} (h : Owns outside ctx objs) {o : GlObject} :
    o ∈ glCoreDestroyResources objs ↔ o ∈ ctx.live ∧ o ∉ outside := by
  rw [mem_glCoreDestroyResources, h.live_iff]
  constructor
  · rintro ⟨s, hs, rfl⟩
    exact ⟨.inr ⟨s, hs, rfl⟩, h.held_not_outside s hs⟩
  · rintro ⟨ho | hheld, hno⟩
    · exact absurd ho hno
    · exact hheld

/-- **Each object the driver owns is deleted once**: the slots are released
once each, and the names they hold are distinct. -/
theorem Owns.nodup_destroyResources {outside : Finset GlObject} {ctx : GlContext}
    {objs : GlCoreObjects} (h : Owns outside ctx objs) : (glCoreDestroyResources objs).Nodup := by
  refine List.Nodup.filterMap (fun s t o hs ht => ?_) (by decide)
  simp only [ne_eq, ite_not, Option.mem_def, Option.ite_none_left_eq_some,
    Option.some.injEq] at hs ht
  obtain ⟨hs0, rfl⟩ := hs
  obtain ⟨-, he⟩ := ht
  exact h.distinct s t hs0 (congrArg GlObject.kind he).symm (congrArg GlObject.name he).symm

end GlCore
