import GlCore.Preset
import Mathlib.Data.List.Nodup

/-!
# The parameter table of a preset

`gl_core_filter_chain_create_from_preset` merges the `#pragma parameter`
declarations of all passes into the preset's table: a declaration whose id is
already in the table must repeat it exactly, a new id is appended (its id and
description cut to their C buffers by `strlcpy`), and every declaration binds
the pass to the row of its id through `add_parameter`.

The loop checks the capacity `GFX_MAX_PARAMETERS` before it looks the id up,
and it looks the id up by comparing the full declared id with the stored,
possibly truncated, copy.  The results below describe exactly what follows:

* `mergeParameters_table` — for declarations whose ids fit their buffer, an
  accepted run leaves the distinct ids in order of first declaration, each row
  stored from its first declaration, and one `add_parameter` per declaration
  pointing at the row of its id;
* `mergeParameters_none_iff_refused` — such a run is refused exactly when some
  declaration arrives at a full table or contradicts the row of its id.
-/

namespace GlCore

/-! ## First occurrences -/

section EraseDups

/-- The loop moving a fresh head `a` from the input to the seen list keeps
what either holds. -/
private theorem mem_or_mem_cons_swap {α : Type} {x a : α} {l bs : List α} :
    (x ∈ l ∨ x ∈ a :: bs) ↔ (x ∈ a :: l ∨ x ∈ bs) := by
  rw [List.mem_cons, List.mem_cons, or_left_comm, or_assoc]

/-- Dropping a head `a` already seen keeps what either list holds. -/
private theorem mem_or_mem_of_seen {α : Type} {x a : α} {l bs : List α} (ha : a ∈ bs) :
    (x ∈ l ∨ x ∈ bs) ↔ (x ∈ a :: l ∨ x ∈ bs) := by
  by_cases hx : x = a <;> simp only [List.mem_cons, hx, ha, or_true, false_or]

variable {α : Type} [BEq α] [LawfulBEq α]

private theorem mem_eraseDups_loop (x : α) :
    ∀ (l bs : List α), x ∈ List.eraseDups.loop l bs ↔ x ∈ l ∨ x ∈ bs
  | [], bs => by simp [List.eraseDups.loop]
  | a :: l, bs => by
    unfold List.eraseDups.loop
    split
    · next h => rw [mem_eraseDups_loop x l bs, mem_or_mem_of_seen (List.elem_iff.mp h)]
    · rw [mem_eraseDups_loop x l (a :: bs), mem_or_mem_cons_swap]

private theorem eraseDups_loop_append_singleton (x : α) :
    ∀ (l bs : List α), List.eraseDups.loop (l ++ [x]) bs =
      if x ∈ l ∨ x ∈ bs then List.eraseDups.loop l bs
      else List.eraseDups.loop l bs ++ [x]
  | [], bs => by
    by_cases h : x ∈ bs <;> simp [List.eraseDups.loop, h]
  | a :: l, bs => by
    simp only [List.cons_append, List.eraseDups.loop, List.append_eq]
    split
    · next h =>
      rw [eraseDups_loop_append_singleton x l bs]
      simp only [← mem_or_mem_of_seen (List.elem_iff.mp h)]
    · rw [eraseDups_loop_append_singleton x l (a :: bs)]
      simp only [mem_or_mem_cons_swap]

private theorem nodup_eraseDups_loop :
    ∀ (l bs : List α), bs.Nodup → (List.eraseDups.loop l bs).Nodup
  | [], bs, h => by simpa [List.eraseDups.loop, List.nodup_reverse] using h
  | a :: l, bs, h => by
    unfold List.eraseDups.loop
    split
    · exact nodup_eraseDups_loop l bs h
    · next hne =>
      exact nodup_eraseDups_loop l (a :: bs) (List.nodup_cons.mpr ⟨by simpa using hne, h⟩)

/-- `eraseDups` keeps each element once. -/
theorem nodup_eraseDups (l : List α) : l.eraseDups.Nodup :=
  nodup_eraseDups_loop l [] List.nodup_nil

/-- `eraseDups` keeps exactly the elements of the list. -/
theorem mem_eraseDups {x : α} {l : List α} : x ∈ l.eraseDups ↔ x ∈ l := by
  simp [List.eraseDups, mem_eraseDups_loop]

/-- Appending an element to the list appends it to the first occurrences
unless it already occurred. -/
theorem eraseDups_append_singleton (l : List α) (x : α) :
    (l ++ [x]).eraseDups = if x ∈ l then l.eraseDups else l.eraseDups ++ [x] := by
  simp [List.eraseDups, eraseDups_loop_append_singleton]

end EraseDups

/-! ## The loop -/

section Loop

variable (lim : ShaderLimits)

/-- The row the loop writes for a new id: `strlcpy` of id and description
into their buffers, and `current` starting at `initial`. -/
def storeParameter (mp : GlslangParameter) : VideoShaderParameter where
  id := strlcpy mp.id lim.idSize
  desc := strlcpy mp.desc lim.descSize
  current := mp.initial
  initial := mp.initial
  minimum := mp.minimum
  maximum := mp.maximum
  step := mp.step

/-- The duplicate test `meta_param.desc != itr->desc || meta_param.initial !=
itr->initial || ...`, with the C comparisons of strings and floats. -/
def parameterMismatch (mp : GlslangParameter) (itr : VideoShaderParameter) : Bool :=
  mp.desc != itr.desc || !mp.initial.feq itr.initial || !mp.minimum.feq itr.minimum ||
    !mp.maximum.feq itr.maximum || !mp.step.feq itr.step

/-- One turn of `for (auto &meta_param : output.meta.parameters)` in pass `i`:
the capacity check, then `find_if` over the table (`k` is
`itr - shader->parameters`, and `params[k]?` is `none` exactly when `itr` is
the end), then either the duplicate check or the append.  Returns the new
table and the `add_parameter` call made. -/
def mergeParameter (params : List VideoShaderParameter) (i : Nat) (mp : GlslangParameter) :
    Option (List VideoShaderParameter × ChainCall) :=
  if lim.gfxMaxParameters ≤ params.length then none
  else
    let k := params.findIdx (fun param => mp.id == param.id)
    match params[k]? with
    | some itr =>
      if parameterMismatch mp itr then none
      else some (params, .addParameter i k mp.id)
    | none => some (params ++ [storeParameter lim mp], .addParameter i params.length mp.id)

/-- The loop over the declarations of successive passes, each declaration
tagged with the index of its pass; `none` is `return nullptr`. -/
def mergeParameters : List VideoShaderParameter → List (Nat × GlslangParameter) →
    Option (List VideoShaderParameter × List ChainCall)
  | params, [] => some (params, [])
  | params, (i, mp) :: rest =>
    (mergeParameter lim params i mp).bind fun step =>
      (mergeParameters step.1 rest).map fun run => (run.1, step.2 :: run.2)

variable {lim} {params params' : List VideoShaderParameter} {i : Nat} {d : GlslangParameter}
  {rest : List (Nat × GlslangParameter)} {calls : List ChainCall}

/-- A run of the loop that gets past `d` made its step and then the rest. -/
theorem mergeParameters_cons_eq_some :
    mergeParameters lim params ((i, d) :: rest) = some (params', calls) ↔
      ∃ p c cs, mergeParameter lim params i d = some (p, c) ∧
        mergeParameters lim p rest = some (params', cs) ∧ calls = c :: cs := by
  simp only [mergeParameters, Option.bind_eq_some, Option.map_eq_some', Prod.mk.injEq,
    Prod.exists]
  constructor
  · rintro ⟨p, c, hstep, p', cs, hrun, rfl, rfl⟩
    exact ⟨p, c, cs, hstep, hrun, rfl⟩
  · rintro ⟨p, c, cs, hstep, hrun, rfl⟩
    exact ⟨p, c, hstep, params', cs, hrun, rfl, rfl⟩

/-- A run of the loop fails at `d` or after it. -/
theorem mergeParameters_cons_eq_none :
    mergeParameters lim params ((i, d) :: rest) = none ↔
      mergeParameter lim params i d = none ∨
        ∃ p c, mergeParameter lim params i d = some (p, c) ∧ mergeParameters lim p rest = none := by
  cases h : mergeParameter lim params i d with
  | none => simp [mergeParameters, h]
  | some pc => obtain ⟨p, c⟩ := pc; simp [mergeParameters, h]

end Loop

/-! ## The table a run of declarations describes -/

section Table

variable (lim : ShaderLimits)

/-- The ids of a run of declarations, in order. -/
def declaredIds (decls : List (Nat × GlslangParameter)) : List Bytes :=
  decls.map (·.2.id)

/-- `params` is the table the declarations `decls` describe: one row per
distinct id, in order of first declaration, each row stored from the first
declaration of its id. -/
structure TableOf (decls : List (Nat × GlslangParameter))
    (params : List VideoShaderParameter) : Prop where
  ids : params.map (·.id) = (declaredIds decls).eraseDups
  rows : ∀ p ∈ params, ∃ f, decls.find? (·.2.id == p.id) = some f ∧ p = storeParameter lim f.2

/-- Declaration `d`, arriving after `pre`, is refused: the table is already
full, or `d` repeats an id whose stored row it does not match. -/
def Refused (pre : List (Nat × GlslangParameter)) (d : GlslangParameter) : Prop :=
  lim.gfxMaxParameters ≤ (declaredIds pre).eraseDups.length ∨
    ∃ f, pre.find? (·.2.id == d.id) = some f ∧ parameterMismatch d (storeParameter lim f.2)

theorem tableOf_nil : TableOf lim [] [] :=
  ⟨rfl, fun _ hp => absurd hp (List.not_mem_nil _)⟩

variable {lim} {pre : List (Nat × GlslangParameter)} {params : List VideoShaderParameter}
  {i : Nat} {d : GlslangParameter}

@[simp] theorem declaredIds_append (l₁ l₂ : List (Nat × GlslangParameter)) :
    declaredIds (l₁ ++ l₂) = declaredIds l₁ ++ declaredIds l₂ :=
  List.map_append _ _ _

@[simp] theorem declaredIds_singleton :
    declaredIds [(i, d)] = [d.id] := rfl

theorem mem_declaredIds {x : Bytes} :
    x ∈ declaredIds pre ↔ ∃ e ∈ pre, e.2.id = x :=
  List.mem_map

theorem TableOf.length_eq (h : TableOf lim pre params) :
    params.length = (declaredIds pre).eraseDups.length := by
  rw [← h.ids, List.length_map]

/-- A declared id has a row. -/
theorem TableOf.findIdx_lt_length (h : TableOf lim pre params) (hmem : d.id ∈ declaredIds pre) :
    params.findIdx (fun p => d.id == p.id) < params.length := by
  have hin : d.id ∈ params.map (·.id) := by rw [h.ids]; exact mem_eraseDups.mpr hmem
  obtain ⟨p, hp, hpid⟩ := List.mem_map.mp hin
  exact List.findIdx_lt_length_of_exists ⟨p, hp, beq_iff_eq.mpr hpid.symm⟩

/-- A declared id is found in the table, at a row carrying that id. -/
theorem TableOf.lookup_id (h : TableOf lim pre params) (hmem : d.id ∈ declaredIds pre) :
    ∃ p, params[params.findIdx (fun p => d.id == p.id)]? = some p ∧ p.id = d.id := by
  have hk := h.findIdx_lt_length hmem
  exact ⟨_, List.getElem?_eq_getElem hk, (by simpa using (List.findIdx_getElem (w := hk)) : d.id = _).symm⟩

/-- A declared id is found in the table, at the row stored from its first
declaration. -/
theorem TableOf.lookup_of_mem (h : TableOf lim pre params) (hmem : d.id ∈ declaredIds pre) :
    ∃ f, pre.find? (·.2.id == d.id) = some f ∧
      params[params.findIdx (fun p => d.id == p.id)]? = some (storeParameter lim f.2) := by
  have hk := h.findIdx_lt_length hmem
  have hid : d.id = params[params.findIdx (fun p => d.id == p.id)].id := by
    simpa using List.findIdx_getElem (w := hk)
  obtain ⟨f, hf, hrow⟩ := h.rows _ (List.getElem_mem hk)
  exact ⟨f, hid ▸ hf, by rw [List.getElem?_eq_getElem hk, hrow]⟩

/-- An undeclared id is not found. -/
theorem TableOf.lookup_of_not_mem (h : TableOf lim pre params)
    (hmem : d.id ∉ declaredIds pre) :
    params[params.findIdx (fun p => d.id == p.id)]? = none := by
  have hnot : d.id ∉ params.map (·.id) := by rw [h.ids]; exact mt mem_eraseDups.mp hmem
  rw [List.findIdx_eq_length_of_false fun p hp =>
    beq_eq_false_iff_ne.mpr fun hid => hnot (List.mem_map.mpr ⟨p, hp, hid.symm⟩)]
  simp

/-- No declaration of `pre` carries an id outside `declaredIds pre`. -/
theorem find?_eq_none_of_not_mem (hmem : d.id ∉ declaredIds pre) :
    pre.find? (·.2.id == d.id) = none :=
  List.find?_eq_none.mpr fun e he hid =>
    hmem (mem_declaredIds.mpr ⟨e, he, beq_iff_eq.mp hid⟩)

/-- A repeated id leaves the table as it is. -/
theorem TableOf.append_of_mem (h : TableOf lim pre params) (hmem : d.id ∈ declaredIds pre) :
    TableOf lim (pre ++ [(i, d)]) params where
  ids := by rw [h.ids, declaredIds_append, declaredIds_singleton,
    eraseDups_append_singleton, if_pos hmem]
  rows p hp := by
    obtain ⟨f, hf, rfl⟩ := h.rows p hp
    exact ⟨f, by rw [List.find?_append, hf]; rfl, rfl⟩

/-- A new id that fits its buffer is appended as the row stored from it. -/
theorem TableOf.append_of_not_mem (h : TableOf lim pre params) (hfit : Fits d.id lim.idSize)
    (hmem : d.id ∉ declaredIds pre) :
    TableOf lim (pre ++ [(i, d)]) (params ++ [storeParameter lim d]) where
  ids := by
    rw [List.map_append, h.ids, declaredIds_append, declaredIds_singleton,
      eraseDups_append_singleton, if_neg hmem]
    simp [storeParameter, strlcpy_of_fits hfit]
  rows p hp := by
    rcases List.mem_append.mp hp with hp | hp
    · obtain ⟨f, hf, rfl⟩ := h.rows p hp
      exact ⟨f, by rw [List.find?_append, hf]; rfl, rfl⟩
    · obtain rfl := List.mem_singleton.mp hp
      refine ⟨(i, d), ?_, rfl⟩
      simp [storeParameter, strlcpy_of_fits hfit, find?_eq_none_of_not_mem hmem]

/-- **The loop refuses a declaration exactly when `Refused`.**  On a table
describing `pre`, the capacity check fires when `pre` already has
`GFX_MAX_PARAMETERS` distinct ids, and the duplicate check fires when `d`
does not match the stored row of its id. -/
theorem TableOf.mergeParameter_eq_none_iff (h : TableOf lim pre params) :
    mergeParameter lim params i d = none ↔ Refused lim pre d := by
  unfold mergeParameter Refused
  rw [← h.length_eq]
  by_cases hfull : lim.gfxMaxParameters ≤ params.length
  · simp only [hfull, ↓reduceIte, true_or]
  · simp only [hfull, ↓reduceIte, false_or]
    by_cases hmem : d.id ∈ declaredIds pre
    · obtain ⟨f, hf, hk⟩ := h.lookup_of_mem hmem
      simp only [hk, hf, Option.some.injEq, exists_eq_left', ite_eq_left_iff, reduceCtorEq,
        imp_false, not_not]
    · simp only [h.lookup_of_not_mem hmem, find?_eq_none_of_not_mem hmem, reduceCtorEq,
        false_and, exists_false]

/-- **An accepted declaration extends the table it describes**, appends to it
at most, and binds pass `i` to the row of its id. -/
theorem TableOf.mergeParameter_some (h : TableOf lim pre params) (hfit : Fits d.id lim.idSize)
    {params' : List VideoShaderParameter} {call : ChainCall}
    (hstep : mergeParameter lim params i d = some (params', call)) :
    TableOf lim (pre ++ [(i, d)]) params' ∧ (∃ t, params' = params ++ t) ∧
      call = .addParameter i (params'.findIdx (fun p => d.id == p.id)) d.id := by
  unfold mergeParameter at hstep
  split_ifs at hstep with hfull
  by_cases hmem : d.id ∈ declaredIds pre
  · obtain ⟨f, -, hk⟩ := h.lookup_of_mem hmem
    simp only [hk] at hstep
    split_ifs at hstep
    cases hstep
    exact ⟨h.append_of_mem hmem, ⟨[], by simp⟩, rfl⟩
  · simp only [h.lookup_of_not_mem hmem, Option.some.injEq, Prod.mk.injEq] at hstep
    obtain ⟨rfl, rfl⟩ := hstep
    refine ⟨h.append_of_not_mem hfit hmem, ⟨_, rfl⟩, ?_⟩
    have hnone : ¬ params.findIdx (fun p => d.id == p.id) < params.length :=
      Nat.not_lt.mpr (by simpa using h.lookup_of_not_mem hmem)
    simp [List.findIdx_append, hnone, List.findIdx_cons, storeParameter, strlcpy_of_fits hfit]

/-- A successful step keeps the table within `GFX_MAX_PARAMETERS` rows and
makes one `add_parameter` call for its declaration. -/
theorem mergeParameter_spec {params' : List VideoShaderParameter} {call : ChainCall}
    (hstep : mergeParameter lim params i d = some (params', call)) :
    params'.length ≤ lim.gfxMaxParameters ∧ ∃ k, call = .addParameter i k d.id := by
  unfold mergeParameter at hstep
  split_ifs at hstep with hfull
  dsimp only at hstep
  split at hstep
  · split_ifs at hstep
    cases hstep
    exact ⟨by omega, _, rfl⟩
  · cases hstep
    simp only [List.length_append, List.length_singleton]
    exact ⟨by omega, _, rfl⟩

variable {rest : List (Nat × GlslangParameter)} {params' : List VideoShaderParameter}
  {calls : List ChainCall}

/-- Every table the loop builds stays within `GFX_MAX_PARAMETERS` rows. -/
theorem mergeParameters_length_le (hrun : mergeParameters lim params rest = some (params', calls))
    (hle : params.length ≤ lim.gfxMaxParameters) :
    params'.length ≤ lim.gfxMaxParameters := by
  induction rest generalizing params calls with
  | nil =>
    simp only [mergeParameters, Option.some.injEq, Prod.mk.injEq] at hrun
    exact hrun.1 ▸ hle
  | cons e rest ih =>
    obtain ⟨p, c, cs, hstep, hrest, -⟩ := mergeParameters_cons_eq_some.mp hrun
    exact ih hrest (mergeParameter_spec hstep).1

/-- The loop makes no call but `add_parameter`. -/
theorem mergeParameters_calls (hrun : mergeParameters lim params rest = some (params', calls)) :
    ∀ c ∈ calls, ∃ i k id, c = .addParameter i k id := by
  induction rest generalizing params calls with
  | nil =>
    simp only [mergeParameters, Option.some.injEq, Prod.mk.injEq] at hrun
    simp [← hrun.2]
  | cons e rest ih =>
    obtain ⟨p, c, cs, hstep, hrest, rfl⟩ := mergeParameters_cons_eq_some.mp hrun
    obtain ⟨-, k, rfl⟩ := mergeParameter_spec hstep
    rintro c (_ | ⟨_, hc⟩)
    · exact ⟨_, _, _, rfl⟩
    · exact ih hrest c hc

/-- The loop over `a ++ b` is the loop over `a`, continued over `b` from the
table it left. -/
theorem mergeParameters_append (a b : List (Nat × GlslangParameter)) :
    mergeParameters lim params (a ++ b) =
      (mergeParameters lim params a).bind fun r =>
        (mergeParameters lim r.1 b).map fun s => (s.1, r.2 ++ s.2) := by
  induction a generalizing params with
  | nil => simp [mergeParameters]
  | cons e a ih =>
    simp only [List.cons_append, mergeParameters]
    cases mergeParameter lim params e.1 e.2 with
    | none => rfl
    | some r =>
      rw [Option.some_bind, Option.some_bind, List.append_eq, ih]
      cases mergeParameters lim r.1 a <;> simp [Function.comp_def]

/-- **The loop, run from a table describing `pre`**: for declarations whose
ids fit, the final table describes all of them, extends the initial one, and
each declaration made one `add_parameter` naming its pass, the row of its id
in the final table, and its id. -/
theorem TableOf.mergeParameters_some (h : TableOf lim pre params)
    (hfit : ∀ e ∈ rest, Fits e.2.id lim.idSize)
    (hrun : mergeParameters lim params rest = some (params', calls)) :
    TableOf lim (pre ++ rest) params' ∧ (∃ t, params' = params ++ t) ∧
      calls = rest.map fun e =>
        .addParameter e.1 (params'.findIdx fun p => e.2.id == p.id) e.2.id := by
  induction rest generalizing pre params calls with
  | nil =>
    simp only [mergeParameters, Option.some.injEq, Prod.mk.injEq] at hrun
    obtain ⟨rfl, rfl⟩ := hrun
    exact ⟨by simpa using h, ⟨[], by simp⟩, rfl⟩
  | cons e rest ih =>
    obtain ⟨i, d⟩ := e
    obtain ⟨p, c, cs, hstep, hrest, rfl⟩ := mergeParameters_cons_eq_some.mp hrun
    obtain ⟨hp, ⟨t, rfl⟩, rfl⟩ := h.mergeParameter_some (hfit _ (List.mem_cons_self _ _)) hstep
    obtain ⟨hfin, ⟨u, rfl⟩, rfl⟩ :=
      ih hp (fun e he => hfit e (List.mem_cons_of_mem _ he)) hrest
    have hlt := hp.findIdx_lt_length (d := d) (by simp)
    refine ⟨by simpa using hfin, ⟨t ++ u, by simp⟩, ?_⟩
    rw [List.map_cons, List.findIdx_append _ (params ++ t) u, if_pos hlt]

/-- **Where the loop fails, run from a table describing `pre`**: exactly at a
declaration refused by the table its predecessors built. -/
theorem TableOf.mergeParameters_eq_none_iff (h : TableOf lim pre params)
    (hfit : ∀ e ∈ rest, Fits e.2.id lim.idSize) :
    mergeParameters lim params rest = none ↔
      ∃ l e r, rest = l ++ e :: r ∧ Refused lim (pre ++ l) e.2 := by
  induction rest generalizing pre params with
  | nil =>
    exact ⟨nofun, fun ⟨l, e, r, h, _⟩ =>
      (List.append_ne_nil_of_right_ne_nil l (List.cons_ne_nil e r) h.symm).elim⟩
  | cons e rest ih =>
    obtain ⟨i, d⟩ := e
    have hd := hfit _ (List.mem_cons_self _ _)
    have hrest : ∀ e ∈ rest, Fits e.2.id lim.idSize := fun e he => hfit e (List.mem_cons_of_mem _ he)
    rw [mergeParameters_cons_eq_none, h.mergeParameter_eq_none_iff]
    constructor
    · rintro (hr | ⟨p, c, hstep, hnone⟩)
      · exact ⟨[], (i, d), rest, rfl, by rwa [List.append_nil]⟩
      · obtain ⟨hp, -, -⟩ := h.mergeParameter_some hd hstep
        obtain ⟨l, e, r, rfl, hr⟩ := ((ih hp hrest).mp hnone)
        exact ⟨(i, d) :: l, e, r, rfl, by rwa [List.append_cons]⟩
    · rintro ⟨l, e, r, heq, hr⟩
      rcases List.cons_eq_append_iff.mp heq with ⟨rfl, heq⟩ | ⟨l, rfl, rfl⟩
      · cases heq
        exact Or.inl (by rwa [List.append_nil] at hr)
      · cases hstep : mergeParameter lim params i d with
        | none => exact Or.inl (h.mergeParameter_eq_none_iff.mp hstep)
        | some pc =>
          obtain ⟨hp, -, -⟩ := h.mergeParameter_some hd hstep
          exact Or.inr ⟨pc.1, pc.2, rfl, (ih hp hrest).mpr ⟨l, e, r, rfl, by rwa [List.append_cons] at hr⟩⟩

end Table

/-! ## The loop over a whole preset -/

/-- A parameter `a` described as `A`, starting at `0` in `0 .. 1`, step `1`. -/
def parameterA : GlslangParameter :=
  ⟨[97], [65], .zero, .zero, .one, .one⟩

/-- A parameter `b` whose description fills a 64-byte buffer with no room for
its terminator. -/
def parameterLongDesc : GlslangParameter :=
  ⟨[98], List.replicate 64 66, .zero, .zero, .one, .one⟩

/-- A parameter whose id and description both fill 64-byte buffers. -/
def parameterLong : GlslangParameter :=
  ⟨List.replicate 64 99, List.replicate 64 67, .zero, .zero, .one, .one⟩

section Preset

variable {lim : ShaderLimits} {decls : List (Nat × GlslangParameter)}
  {params : List VideoShaderParameter} {calls : List ChainCall}

/-- **The table an accepted preset ends with.**  It never exceeds
`GFX_MAX_PARAMETERS` rows.  When every declared id fits its buffer, the row
ids are pairwise distinct and are the declared ids in order of first
declaration, each row is stored (through `strlcpy`) from the first
declaration of its id, and the declarations made one `add_parameter` each,
in order, naming the row that holds their id. -/
theorem mergeParameters_table (hrun : mergeParameters lim [] decls = some (params, calls)) :
    params.length ≤ lim.gfxMaxParameters ∧
      ((∀ e ∈ decls, Fits e.2.id lim.idSize) →
        (params.map (·.id)).Nodup ∧
        params.map (·.id) = (declaredIds decls).eraseDups ∧
        (∀ p ∈ params, ∃ f, decls.find? (·.2.id == p.id) = some f ∧ p = storeParameter lim f.2) ∧
        calls = decls.map (fun e =>
          .addParameter e.1 (params.findIdx fun p => e.2.id == p.id) e.2.id) ∧
        ∀ e ∈ decls, ∃ p, params[params.findIdx fun p => e.2.id == p.id]? = some p ∧
          p.id = e.2.id) := by
  refine ⟨mergeParameters_length_le hrun (Nat.zero_le _), fun hfit => ?_⟩
  obtain ⟨htab, -, hcalls⟩ := (tableOf_nil lim).mergeParameters_some hfit hrun
  rw [List.nil_append] at htab
  refine ⟨htab.ids ▸ nodup_eraseDups _, htab.ids, htab.rows, hcalls, fun e he => ?_⟩
  exact htab.lookup_id (mem_declaredIds.mpr ⟨e, he, rfl⟩)

/-- Two passes declaring `a` alike share one row. -/
theorem mergeParameters_table_shared :
    mergeParameters ⟨128, 64, 64⟩ [] [(0, parameterA), (1, parameterA)] =
      some ([storeParameter ⟨128, 64, 64⟩ parameterA],
        [.addParameter 0 0 parameterA.id, .addParameter 1 0 parameterA.id]) ∧
    [storeParameter ⟨128, 64, 64⟩ parameterA].length ≤ 128 ∧
    ([storeParameter ⟨128, 64, 64⟩ parameterA].map (·.id)).Nodup := by
  have hrun : mergeParameters ⟨128, 64, 64⟩ [] [(0, parameterA), (1, parameterA)] =
      some ([storeParameter ⟨128, 64, 64⟩ parameterA],
        [.addParameter 0 0 parameterA.id, .addParameter 1 0 parameterA.id]) := by decide
  obtain ⟨hlen, htab⟩ := mergeParameters_table hrun
  exact ⟨hrun, hlen, (htab (by decide)).1⟩

/-- The same id declared twice with an id that does not fit its buffer: the
lookup compares the full id with its cut copy, never matches, and the
preset is accepted with two rows of one (cut) id, neither equal to the
declared id, and with a cut description. -/
theorem long_id_redeclaration_duplicates_row :
    mergeParameters ⟨128, 64, 64⟩ [] [(0, parameterLong), (1, parameterLong)] =
      some ([storeParameter ⟨128, 64, 64⟩ parameterLong,
          storeParameter ⟨128, 64, 64⟩ parameterLong],
        [.addParameter 0 0 parameterLong.id, .addParameter 1 1 parameterLong.id]) ∧
    ¬ ([storeParameter ⟨128, 64, 64⟩ parameterLong,
        storeParameter ⟨128, 64, 64⟩ parameterLong].map (·.id)).Nodup ∧
    (storeParameter ⟨128, 64, 64⟩ parameterLong).id ≠ parameterLong.id ∧
    (storeParameter ⟨128, 64, 64⟩ parameterLong).desc ≠ parameterLong.desc := by
  decide

/-- **Refusal, exactly.**  For declarations whose ids fit their buffer, the
loop returns `nullptr` exactly when some declaration is refused by the table
its predecessors built: that table already holds `GFX_MAX_PARAMETERS` rows,
or the declaration differs from the stored row of its id. -/
theorem mergeParameters_none_iff_refused (hfit : ∀ e ∈ decls, Fits e.2.id lim.idSize) :
    mergeParameters lim [] decls = none ↔
      ∃ l e r, decls = l ++ e :: r ∧ Refused lim l e.2 := by
  simpa only [List.nil_append] using (tableOf_nil lim).mergeParameters_eq_none_iff hfit

/-- With room for one row, re-declaring `a` is refused at the full table: the
merge fails, and so a declaration is refused. -/
theorem mergeParameters_refused_at_capacity_one :
    (∀ e ∈ [(0, parameterA), (1, parameterA)], Fits e.2.id 64) ∧
    mergeParameters ⟨1, 64, 64⟩ [] [(0, parameterA), (1, parameterA)] = none ∧
      ∃ l e r, [(0, parameterA), (1, parameterA)] = l ++ e :: r ∧
        Refused ⟨1, 64, 64⟩ l e.2 :=
  have hnone : mergeParameters ⟨1, 64, 64⟩ [] [(0, parameterA), (1, parameterA)] = none := by
    decide
  ⟨by decide, hnone, (mergeParameters_none_iff_refused (by decide)).mp hnone⟩

/-- **Exact re-declarations are refused** in two cases.  Once the earlier
declarations name `GFX_MAX_PARAMETERS` distinct ids, the capacity check,
made before the lookup, refuses every further declaration, an exact repeat
included.  And a description that does not fit its buffer is stored cut, so
that its own exact repeat no longer matches the stored row. -/
theorem mergeParameters_refuses_exact_redeclaration :
    (∀ decls d, (∀ e ∈ decls ++ [d], Fits e.2.id lim.idSize) →
        lim.gfxMaxParameters ≤ (declaredIds decls).eraseDups.length →
        mergeParameters lim [] (decls ++ [d]) = none) ∧
    (∀ i j d, Fits d.id lim.idSize → ¬ Fits d.desc lim.descSize → 0 < lim.descSize →
        mergeParameters lim [] [(i, d), (j, d)] = none) := by
  refine ⟨fun decls d hfit hfull => ?_, fun i j d hid hdesc hsize => ?_⟩
  · exact ((tableOf_nil lim).mergeParameters_eq_none_iff hfit).mpr
      ⟨decls, d, [], rfl, Or.inl (by simpa using hfull)⟩
  · have hfit : ∀ e ∈ [(i, d), (j, d)], Fits e.2.id lim.idSize := by simp [hid]
    refine ((tableOf_nil lim).mergeParameters_eq_none_iff hfit).mpr
      ⟨[(i, d)], (j, d), [], rfl, Or.inr ⟨(i, d), by simp, ?_⟩⟩
    have hcut : d.desc ≠ strlcpy d.desc lim.descSize :=
      fun h => hdesc ((strlcpy_eq_self_iff hsize).mp h.symm)
    simp [parameterMismatch, storeParameter, hcut]

/-- Both refusals, on `a` with room for one row and on `b` and its over-long
description. -/
theorem exact_redeclaration_refused :
    mergeParameters ⟨1, 64, 64⟩ [] [(0, parameterA), (1, parameterA)] = none ∧
    mergeParameters ⟨128, 64, 64⟩ [] [(0, parameterLongDesc), (1, parameterLongDesc)] = none :=
  ⟨mergeParameters_refuses_exact_redeclaration.1 [(0, parameterA)] (1, parameterA)
      (by decide) (by decide),
    mergeParameters_refuses_exact_redeclaration.2 0 1 parameterLongDesc
      (by decide) (by decide) (by decide)⟩

end Preset

end GlCore
