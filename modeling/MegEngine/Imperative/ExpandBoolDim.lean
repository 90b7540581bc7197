import MegEngine.Imperative.Index

/-!
`_expand_bool_dim`: every boolean mask of rank two or more in an index tuple
is checked, dimension by dimension, against `cur_shape` from position
`tdim - offset`, and the tensor is reshaped so that the axes the mask covers
become one axis of their product. The loop keeps `tdim` (advanced by one for a
non-boolean entry and by the rank of a collapsed mask, not at all for a mask of
rank at most one) and `offset` (the masks collapsed so far), and builds the new
shape from the first `i` dimensions, `i` being the mask's position in the
tuple. Under the symbolic-shape mode it reads those dimensions from the
tensor's shape, otherwise from `cur_shape`; the two are the same at every
step, so both branches compute the same shape.

The reshapes are modelled by their element-count check.
-/

namespace MegEngine.Imperative

/-- The number of elements of a shape. -/
def numel : List Nat → Nat
  | [] => 1
  | d :: ds => d * numel ds

/-- The loop state of `_expand_bool_dim`. -/
structure BoolDimState where
  /-- The shape of `tensor`. -/
  tensorShape : List Nat
  curShape : List Nat
  offset : Nat
  tdim : Nat
  deriving DecidableEq, Repr

/-- `cur_shape[k]` on a tuple. -/
def tupleGet (l : List Nat) (k : Nat) : Except PyError Nat :=
  match l[k]? with
  | some d => .ok d
  | none => .error (.indexError "tuple index out of range")

/-- The `IndexError` of a mask dimension `b` that differs from the tensor
dimension `d` at axis `dim`. -/
def maskMismatch (dim d b : Nat) : PyError :=
  .indexError ("boolean index did not match tensor along dimension " ++ toString dim ++
    "; dimension is " ++ toString d ++ " but corresponding boolean dimension is " ++ toString b)

/-- The check of a mask's dimensions against `cur_shape`, from its `j`-th
dimension on. -/
def checkMask (st : BoolDimState) : Nat → List Nat → Except PyError Unit
  | _, [] => .ok ()
  | j, b :: bs => do
    let d ← tupleGet st.curShape (st.tdim + j - st.offset)
    if d ≠ b then .error (maskMismatch (st.tdim + j) d b) else checkMask st (j + 1) bs

/-- The first `i` dimensions of `src`, read one by one. -/
def readPrefix (src : List Nat) (i : Nat) (err : PyError) : Except PyError (List Nat) :=
  if i ≤ src.length then .ok (src.take i) else .error err

/-- `tensor.reshape(new_shape)`: refused unless the element count is kept. -/
def reshapeTo (shape newShape : List Nat) : Except PyError (List Nat) :=
  if numel newShape = numel shape then .ok newShape else .error .opError

/-- The handling of a mask of shape `ishape`, of rank two or more, at position
`i` of the tuple; `sym` is `use_symbolic_shape()`. -/
def collapseMask (sym : Bool) (i : Nat) (st : BoolDimState) (ishape : List Nat) :
    Except PyError BoolDimState := do
  checkMask st 0 ishape
  let pre ← if sym then readPrefix st.tensorShape i .opError
    else readPrefix st.curShape i (.indexError "tuple index out of range")
  let newShape := pre ++ [numel ishape] ++ st.curShape.drop (st.tdim + ishape.length - st.offset)
  let shape ← reshapeTo st.tensorShape newShape
  .ok ⟨shape, newShape, st.offset + 1, st.tdim + ishape.length⟩

/-- One pass of the loop of `_expand_bool_dim`, over the entry at position `i`. -/
def boolDimStep (sym : Bool) (i : Nat) (st : BoolDimState) : IndexEntry →
    Except PyError BoolDimState
  | .array a =>
    if a.isBool then
      if 1 < a.shape.length then collapseMask sym i st a.shape else .ok st
    else .ok { st with tdim := st.tdim + 1 }
  | .none | .ellipsis | .int _ | .slice _ _ _ => .ok { st with tdim := st.tdim + 1 }

/-- The loop of `_expand_bool_dim` from position `i` on. -/
def boolDimLoop (sym : Bool) : Nat → BoolDimState → List IndexEntry →
    Except PyError BoolDimState
  | _, st, [] => .ok st
  | i, st, e :: es => do
    let st ← boolDimStep sym i st e
    boolDimLoop sym (i + 1) st es

/-- `_expand_bool_dim` on a tensor of shape `s`: the shape of the tensor it
returns (the index tuple is returned unchanged). -/
def expandBoolDim (sym : Bool) (s : List Nat) (t : List IndexEntry) :
    Except PyError (List Nat) :=
  (·.tensorShape) <$> boolDimLoop sym 0 ⟨s, s, 0, 0⟩ t

/-! ## The two branches agree -/

/-- A state whose tensor has the shape `cur_shape` records. -/
def BoolDimState.Synced (st : BoolDimState) : Prop := st.tensorShape = st.curShape

theorem readPrefix_toOption (src : List Nat) (i : Nat) (e e' : PyError) :
    (readPrefix src i e).toOption = (readPrefix src i e').toOption := by
  unfold readPrefix; split <;> rfl

theorem reshapeTo_eq_ok {shape newShape r : List Nat} (h : reshapeTo shape newShape = .ok r) :
    r = newShape := by
  unfold reshapeTo at h; split at h <;> cases h; rfl

theorem collapseMask_agree {i : Nat} {st : BoolDimState} (h : st.Synced) (ishape : List Nat) :
    (collapseMask true i st ishape).toOption = (collapseMask false i st ishape).toOption ∧
      ∀ st', collapseMask false i st ishape = .ok st' → st'.Synced := by
  obtain ⟨ts, cs, off, td⟩ := st
  obtain rfl : ts = cs := h
  refine ⟨toOption_bind rfl fun _ _ =>
    toOption_bind (readPrefix_toOption _ _ _ _) fun _ _ => rfl, fun st' hst => ?_⟩
  obtain ⟨_, -, hst⟩ := bind_eq_ok.mp hst
  obtain ⟨_, -, hst⟩ := bind_eq_ok.mp hst
  obtain ⟨shape, hshape, hst⟩ := bind_eq_ok.mp hst
  cases hst
  exact reshapeTo_eq_ok hshape

theorem boolDimStep_agree (i : Nat) {st : BoolDimState} (h : st.Synced) (e : IndexEntry) :
    (boolDimStep true i st e).toOption = (boolDimStep false i st e).toOption ∧
      ∀ st', boolDimStep false i st e = .ok st' → st'.Synced := by
  cases e with
  | array a =>
    simp only [boolDimStep]
    split_ifs
    · exact collapseMask_agree h a.shape
    · exact ⟨rfl, fun st' hst => by cases hst; exact h⟩
    · exact ⟨rfl, fun st' hst => by cases hst; exact h⟩
  | none | ellipsis | int _ | slice _ _ _ => exact ⟨rfl, fun st' hst => by cases hst; exact h⟩

theorem boolDimLoop_agree : ∀ (i : Nat) (st : BoolDimState) (t : List IndexEntry), st.Synced →
    (boolDimLoop true i st t).toOption = (boolDimLoop false i st t).toOption
  | _, _, [], _ => rfl
  | i, _, e :: es, h =>
    have step := boolDimStep_agree i h e
    toOption_bind step.1 fun st' hst => boolDimLoop_agree (i + 1) st' es (step.2 st' hst)

/-- Under the symbolic-shape mode and without it, `_expand_bool_dim` either
raises in both or returns the same shape. -/
theorem expandBoolDim_branches_agree (s : List Nat) (t : List IndexEntry) :
    (expandBoolDim true s t).toOption = (expandBoolDim false s t).toOption :=
  toOption_map _ (boolDimLoop_agree 0 ⟨s, s, 0, 0⟩ t rfl)

/-! ## Masks of rank two -/

/-- The shape a tensor of shape `s` should take once indexed by a tuple of
non-boolean entries and boolean masks: `s` with the run of axes each mask of
rank two or more consumes replaced by their product, or `none` when such a
mask differs from the axes it consumes. -/
def maskCollapse : List Nat → List IndexEntry → Option (List Nat)
  | s, [] => some s
  | s, e :: es =>
    match e with
    | .array a =>
      if a.isBool ∧ 1 < a.shape.length then
        if s.take a.shape.length = a.shape then
          (numel a.shape :: ·) <$> maskCollapse (s.drop a.shape.length) es
        else none
      else (s.take e.consumed ++ ·) <$> maskCollapse (s.drop e.consumed) es
    | _ => (s.take e.consumed ++ ·) <$> maskCollapse (s.drop e.consumed) es

/-- A run of `_expand_bool_dim` that raises an `IndexError` where the expected
shape is `none`, and returns the expected shape otherwise. -/
def AgreesWith (x : Except PyError (List Nat)) : Option (List Nat) → Prop
  | some out => x = .ok out
  | none => ∃ msg, x = .error (.indexError msg)

theorem numel_append (l₁ l₂ : List Nat) : numel (l₁ ++ l₂) = numel l₁ * numel l₂ := by
  induction l₁ with
  | nil => simp [numel]
  | cons d ds ih => simp [numel, ih, Nat.mul_assoc]

theorem numel_take_mul_drop (k : Nat) (r : List Nat) :
    numel (r.take k) * numel (r.drop k) = numel r := by
  rw [← numel_append, List.take_append_drop]

theorem maskCollapse_cons_mask (s : List Nat) {a : IndexArray} (es : List IndexEntry)
    (h : a.isBool ∧ 1 < a.shape.length) :
    maskCollapse s (.array a :: es) = if s.take a.shape.length = a.shape then
      (numel a.shape :: ·) <$> maskCollapse (s.drop a.shape.length) es else none := by
  rw [maskCollapse]; exact if_pos h

theorem maskCollapse_cons_single (s : List Nat) {e : IndexEntry} (es : List IndexEntry)
    (h : e.isMultiMask = false) :
    maskCollapse s (e :: es) = (s.take e.consumed ++ ·) <$> maskCollapse (s.drop e.consumed) es := by
  cases e with
  | array a =>
    rw [maskCollapse]
    exact if_neg fun h' => by simp [IndexEntry.isMultiMask, h'.1, h'.2] at h
  | none | ellipsis | int _ | slice _ _ _ => rfl

theorem maskCollapse_numel : ∀ (r : List Nat) (es : List IndexEntry) (out : List Nat),
    maskCollapse r es = some out → numel out = numel r
  | _, [], _, h => by cases h; rfl
  | r, e :: es, out, h => by
    by_cases hm : e.isMultiMask
    · cases e with
      | array a =>
        have hab : a.isBool ∧ 1 < a.shape.length := by
          simpa [IndexEntry.isMultiMask] using hm
        rw [maskCollapse_cons_mask r es hab] at h
        split_ifs at h with ht
        obtain ⟨out', h', rfl⟩ := Option.map_eq_some'.mp h
        rw [numel, maskCollapse_numel _ es out' h', ← numel_take_mul_drop a.shape.length r, ht]
      | none | ellipsis | int _ | slice _ _ _ => cases hm
    · rw [maskCollapse_cons_single r es (by simpa using hm)] at h
      obtain ⟨out', h', rfl⟩ := Option.map_eq_some'.mp h
      rw [numel_append, maskCollapse_numel _ es out' h', numel_take_mul_drop]

theorem boolDimStep_single (sym : Bool) (i : Nat) (st : BoolDimState) {e : IndexEntry}
    (hb : ∀ a, e = .array a → a.isBool = false) (hne : e ≠ .ellipsis) :
    boolDimStep sym i st e = .ok { st with tdim := st.tdim + 1 } ∧ e.consumed = 1 ∧
      e.isMultiMask = false := by
  cases e with
  | array a =>
    have := hb a rfl
    simp [boolDimStep, IndexEntry.consumed, IndexEntry.isMultiMask, this]
  | ellipsis => exact absurd rfl hne
  | none | int _ | slice _ _ _ => exact ⟨rfl, rfl, rfl⟩

theorem boolDimStep_pair (sym : Bool) (c r : List Nat) (off x₀ x₁ b₀ b₁ : Nat) {a : IndexArray}
    (hab : a.isBool) (hshape : a.shape = [b₀, b₁]) :
    let st : BoolDimState := ⟨c ++ x₀ :: x₁ :: r, c ++ x₀ :: x₁ :: r, off, c.length + off⟩
    (x₀ = b₀ ∧ x₁ = b₁ → boolDimStep sym c.length st (.array a) =
        .ok ⟨(c ++ [numel [b₀, b₁]]) ++ r, (c ++ [numel [b₀, b₁]]) ++ r, off + 1,
          (c ++ [numel [b₀, b₁]]).length + (off + 1)⟩) ∧
      (¬ (x₀ = b₀ ∧ x₁ = b₁) → ∃ msg, boolDimStep sym c.length st (.array a) =
        .error (.indexError msg)) := by
  simp only [boolDimStep, hab, hshape, if_true, List.length_cons, List.length_nil,
    Nat.one_lt_ofNat]
  have hget : ∀ j, c.length + off + j - off = c.length + j := fun j => by omega
  simp only [collapseMask, checkMask, tupleGet, hget, List.getElem?_append_right
    (Nat.le_add_right _ _), Nat.add_sub_cancel_left, List.getElem?_cons_zero,
    List.getElem?_cons_succ, ok_bind, List.length_cons, List.length_nil, List.drop_append]
  have hpre : ∀ e, readPrefix (c ++ x₀ :: x₁ :: r) c.length e = .ok c := fun e => by
    simp [readPrefix]
  refine ⟨?_, fun hne => ?_⟩
  · rintro ⟨rfl, rfl⟩
    have hre : reshapeTo (c ++ x₀ :: x₁ :: r) (c ++ numel [x₀, x₁] :: r) =
        .ok (c ++ numel [x₀, x₁] :: r) :=
      if_pos (by simp only [numel_append, numel, Nat.mul_one, Nat.mul_assoc])
    cases sym <;> simp [hpre, hre] <;> omega
  · by_cases h0 : x₀ = b₀
    · have h1 : x₁ ≠ b₁ := fun h1 => hne ⟨h0, h1⟩
      simp [h0, h1, maskMismatch]
    · simp [h0, maskMismatch]

theorem map_append_map_append (c p : List Nat) (o : Option (List Nat)) :
    (c ++ ·) <$> ((p ++ ·) <$> o) = ((c ++ p) ++ ·) <$> o := by
  cases o <;> simp

theorem boolDimLoop_rank_two (sym : Bool) : ∀ (es : List IndexEntry) (c r : List Nat) (off : Nat),
    IndexEntry.ellipsis ∉ es → (∀ a, IndexEntry.array a ∈ es → a.isBool → a.shape.length = 2) →
    consumedAxes es ≤ r.length →
    AgreesWith ((·.tensorShape) <$> boolDimLoop sym c.length ⟨c ++ r, c ++ r, off, c.length + off⟩ es)
      ((c ++ ·) <$> maskCollapse r es)
  | [], _, _, _, _, _, _ => rfl
  | e :: es, c, r, off, hell, hmask, hlen => by
    rw [List.mem_cons, not_or] at hell
    have hmask' a (ha : IndexEntry.array a ∈ es) := hmask a (List.mem_cons_of_mem _ ha)
    rw [consumedAxes_cons] at hlen
    by_cases hb : ∃ a, e = .array a ∧ a.isBool
    · obtain ⟨a, rfl, hab⟩ := hb
      obtain ⟨b₀, b₁, hshape⟩ := List.length_eq_two.mp (hmask a (List.mem_cons_self _ _) hab)
      have hc : (IndexEntry.array a).consumed = 2 := by
        simp [IndexEntry.consumed, hab, hshape]
      rcases r with _ | ⟨x₀, _ | ⟨x₁, r⟩⟩ <;> simp only [hc, List.length_cons,
        List.length_nil] at hlen
      · omega
      · omega
      rw [maskCollapse_cons_mask _ es ⟨hab, by simp [hshape]⟩, hshape]
      obtain ⟨hok, herr⟩ := boolDimStep_pair sym c r off x₀ x₁ b₀ b₁ hab hshape
      by_cases hx : x₀ = b₀ ∧ x₁ = b₁
      · obtain ⟨rfl, rfl⟩ := hx
        have ih := boolDimLoop_rank_two sym es (c ++ [numel [x₀, x₁]]) r (off + 1) hell.2
          hmask' (by omega)
        rw [List.length_append, List.length_singleton] at ih
        simp only [boolDimLoop, hok ⟨rfl, rfl⟩, ok_bind, List.length_append,
          List.length_singleton]
        rwa [if_pos (show (x₀ :: x₁ :: r).take [x₀, x₁].length = [x₀, x₁] from rfl),
          show (x₀ :: x₁ :: r).drop [x₀, x₁].length = r from rfl,
          show (numel [x₀, x₁] :: ·) = (([numel [x₀, x₁]] : List Nat) ++ ·) from rfl,
          map_append_map_append]
      · obtain ⟨msg, hmsg⟩ := herr hx
        simp only [boolDimLoop, hmsg, error_bind]
        rw [if_neg fun h => hx (by simpa using h)]
        exact ⟨msg, rfl⟩
    · have hb' a (ha : e = .array a) : a.isBool = false := by simpa using fun h => hb ⟨a, ha, h⟩
      obtain ⟨hstep, hc, hm⟩ := boolDimStep_single sym c.length
        ⟨c ++ r, c ++ r, off, c.length + off⟩ hb' (Ne.symm hell.1)
      rcases r with _ | ⟨x, r⟩
      · simp only [hc, List.length_nil] at hlen; omega
      have ih := boolDimLoop_rank_two sym es (c ++ [x]) r off hell.2 hmask'
        (by simp only [hc, List.length_cons] at hlen; omega)
      rw [List.length_append, List.length_singleton] at ih
      simp only [boolDimLoop, hstep, ok_bind, maskCollapse_cons_single _ es hm, hc]
      rw [show (x :: r).take 1 = [x] from rfl, show (x :: r).drop 1 = r from rfl,
        map_append_map_append]
      convert ih using 4
      · simp
      · simp
      · omega

/-- On a tuple without an ellipsis whose boolean masks all have rank two and
which consumes at most the tensor's axes, `_expand_bool_dim` raises an
`IndexError` exactly when a mask differs from the axes it covers, and
otherwise returns the shape with each mask's two axes replaced by their
product, which keeps the element count. (`offset` grows by one for every mask
and `tdim` by its rank, so the two stay in step only for masks of rank two.) -/
theorem expandBoolDim_rank_two_masks (sym : Bool) (s : List Nat) (t : List IndexEntry)
    (hell : IndexEntry.ellipsis ∉ t)
    (hmask : ∀ a, IndexEntry.array a ∈ t → a.isBool → a.shape.length = 2)
    (hlen : consumedAxes t ≤ s.length) :
    AgreesWith (expandBoolDim sym s t) (maskCollapse s t) ∧
      ∀ out, maskCollapse s t = some out → numel out = numel s := by
  refine ⟨?_, maskCollapse_numel s t⟩
  have h := boolDimLoop_rank_two sym t [] s 0 hell hmask hlen
  cases hm : maskCollapse s t <;> simpa [hm] using h

theorem expandBoolDim_rank_two_masks_after_int :
    IndexEntry.ellipsis ∉ [.int 0, .array ⟨true, [4, 5]⟩] ∧
      (∀ a, IndexEntry.array a ∈ [.int 0, .array ⟨true, [4, 5]⟩] → a.isBool → a.shape.length = 2) ∧
      consumedAxes [.int 0, .array ⟨true, [4, 5]⟩] ≤ [3, 4, 5].length ∧
      (AgreesWith (expandBoolDim true [3, 4, 5] [.int 0, .array ⟨true, [4, 5]⟩])
          (maskCollapse [3, 4, 5] [.int 0, .array ⟨true, [4, 5]⟩]) ∧
        ∀ out, maskCollapse [3, 4, 5] [.int 0, .array ⟨true, [4, 5]⟩] = some out →
          numel out = numel [3, 4, 5]) :=
  ⟨by simp, by simp, by decide,
    expandBoolDim_rank_two_masks true [3, 4, 5] _ (by simp) (by simp) (by decide)⟩

/-- A mask of rank one does not advance `tdim`, so a later mask of rank two is
checked against the axes before its own: on a tensor of shape `(3, 4, 5)`, the
index `(m3, m45)` with masks of shapes `(3,)` and `(4, 5)` matches the tensor,
yet both branches raise. -/
theorem expandBoolDim_flat_mask_shifts_check :
    maskCollapse [3, 4, 5] [.array ⟨true, [3]⟩, .array ⟨true, [4, 5]⟩] = some [3, 20] ∧
      ∀ sym, expandBoolDim sym [3, 4, 5] [.array ⟨true, [3]⟩, .array ⟨true, [4, 5]⟩] =
        .error (.indexError ("boolean index did not match tensor along dimension 0; " ++
          "dimension is 3 but corresponding boolean dimension is 4")) :=
  ⟨rfl, fun sym => by cases sym <;> rfl⟩

end MegEngine.Imperative
