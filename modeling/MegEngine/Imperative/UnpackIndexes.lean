import MegEngine.Imperative.ExpandBoolDim

/-!
`_unpack_indexes`: the first scan of the index tuple, the rank check (skipped
when the tensor's `ndim` cannot be read), `_remove_ellipsis`,
`_expand_bool_dim` on a tensor of known shape, and the item loop. The item
loop numbers the entries of the tuple by position (`cur_axis`), skips full
slices, and gives every other entry an item `[axis, start, stop, step, idx]`
whose flags say which operands follow it; each operand is what `_get_index`
makes of a Python int (an `int32` constant) or of an array-like index (itself,
or the indices `CondTake` selects from a boolean mask).

The tuple is the one `_unpack_indexes` makes of its argument: the argument
itself when it is a tuple, else a tuple of one entry.
-/

namespace MegEngine.Imperative

/-- A tensor `_unpack_indexes` passes on after the indexed tensor, by what
`_get_index` made it from. -/
inductive IndexOperand
  | const (v : Int)
  | array (a : IndexArray)
  | condTake (a : IndexArray)
  deriving DecidableEq, Repr

/-- `_get_index` of an index value: a Python int becomes an `int32` constant, a
boolean array the indices `CondTake` selects, any other array itself. -/
def getIndex : IndexEntry → Except PyError IndexOperand
  | .int v => .ok (.const v)
  | .array a => .ok (if a.isBool then .condTake a else .array a)
  | .none | .ellipsis | .slice _ _ _ => .error .opError

/-- An item `[axis, start, stop, step, idx]` of the indexing operator. -/
structure IndexItem where
  axis : Nat
  start : Bool
  stop : Bool
  step : Bool
  idx : Bool
  deriving DecidableEq, Repr

/-- The operands and item one entry adds at axis `k`; nothing for a full slice. -/
def entryItem (k : Nat) : IndexEntry → Except PyError (List IndexOperand × List IndexItem)
  | .slice start stop step =>
    if start.isNone && stop.isNone && step.isNone then .ok ([], [])
    else .ok ((start.toList ++ stop.toList ++ step.toList).map .const,
      [⟨k, start.isSome, stop.isSome, step.isSome, false⟩])
  | .none => .ok ([], [⟨k, false, false, false, false⟩])
  | e@(.int _) | e@(.array _) | e@.ellipsis => do
    let op ← getIndex e
    .ok ([op], [⟨k, false, false, false, true⟩])

/-- The item loop of `_unpack_indexes` from axis `k` on. -/
def itemsLoop : Nat → List IndexEntry → Except PyError (List IndexOperand × List IndexItem)
  | _, [] => .ok ([], [])
  | k, e :: es => do
    let r ← entryItem k e
    let rs ← itemsLoop (k + 1) es
    .ok (r.1 ++ rs.1, r.2 ++ rs.2)

/-- `is_scalar(handle) || PySlice_Check(handle)`. -/
def IndexEntry.basic : IndexEntry → Bool
  | .int _ | .slice _ _ _ => true
  | .array a => a.shape.isEmpty
  | .none | .ellipsis => false

/-- What `_unpack_indexes` returns: the indexed tensor (by its shape, when
known), the operands, the items, `use_subtensor`, and whether masks were
collapsed. -/
structure UnpackResult where
  shape : Option (List Nat)
  operands : List IndexOperand
  items : List IndexItem
  useSubtensor : Bool
  expanded : Bool
  deriving DecidableEq, Repr

/-- `getattr(inp, "ndim").cast<size_t>()`, when it succeeds. -/
def ndimOf (shape : Option (List Nat)) : Option Nat :=
  shape.bind fun s => if s.length < 2 ^ 64 then some s.length else none

/-- The `IndexError` of an index that consumes more axes than the tensor has. -/
def tooManyIndices (n c : Nat) : PyError :=
  .indexError ("too many indices for tensor: tensor is " ++ toString n ++ "-dimensional, but " ++
    toString c ++ " were indexed")

/-- The rank check of `_unpack_indexes`. -/
def checkRank (ndim : Option Nat) (idxNdim : Nat) : Except PyError Unit :=
  match ndim with
  | some n => if n < idxNdim then .error (tooManyIndices n idxNdim) else .ok ()
  | none => .ok ()

/-- The shape of the tensor `_unpack_indexes` indexes: masks are collapsed
when `expand` is set. Without `use_symbolic_shape()` the `shape` of a tensor
of unknown shape is `None` and the collapse is skipped; with it, `shape` is a
shape tensor and `_expand_bool_dim` reads it through `numpy()`, which lies
outside src/ and is modelled as failing when the shape is not known. -/
def unpackShape (sym : Bool) (shape : Option (List Nat)) (expand : Bool) (t : List IndexEntry) :
    Except PyError (Option (List Nat)) :=
  match shape, expand with
  | some s, true => some <$> expandBoolDim sym s t
  | none, true => if sym then .error .opError else .ok none
  | shape, false => .ok shape

/-- `_unpack_indexes` once the `Ellipsis` is removed: the mask collapse, then
the item loop. -/
def unpackItems (sym : Bool) (shape : Option (List Nat)) (expand : Bool)
    (t : List IndexEntry) : Except PyError UnpackResult := do
  let shape ← unpackShape sym shape expand t
  let r ← itemsLoop 0 t
  .ok ⟨shape, r.1, r.2, t.all IndexEntry.basic, expand⟩

/-- `_unpack_indexes` on a tensor of shape `shape` (`none` when unknown) and an
index tuple; `sym` is `use_symbolic_shape()`. A tuple allocated with another
length than the entries written into it is an error. -/
def unpackIndexes (sym : Bool) (shape : Option (List Nat)) (t : List IndexEntry) :
    Except PyError UnpackResult := do
  let scan ← scanIndexes t
  checkRank (ndimOf shape) scan.idxNdim
  let t ← if scan.needRemoveEllipsis then do
      let r ← removeEllipsis (ndimOf shape) t
      if r.1 = r.2.length then .ok r.2 else .error .opError
    else .ok t
  unpackItems sym shape scan.needExpandBoolDim t

/-! ## Items and operands -/

theorem unpackItems_eq_ok {sym : Bool} {shape : Option (List Nat)} {expand : Bool}
    {t : List IndexEntry} {r : UnpackResult} (h : unpackItems sym shape expand t = .ok r) :
    ∃ rs, itemsLoop 0 t = .ok rs ∧ r.operands = rs.1 ∧ r.items = rs.2 ∧
      r.useSubtensor = t.all IndexEntry.basic ∧ r.expanded = expand := by
  unfold unpackItems at h
  obtain ⟨_, -, h⟩ := bind_eq_ok.mp h
  obtain ⟨rs, hrs, h⟩ := bind_eq_ok.mp h
  cases h
  exact ⟨rs, hrs, rfl, rfl, rfl, rfl⟩

theorem none_not_mem_of_unpackIndexes {sym : Bool} {shape : Option (List Nat)}
    {t : List IndexEntry} {r : UnpackResult} (h : unpackIndexes sym shape t = .ok r) :
    IndexEntry.none ∉ t := fun hn => by
  simp only [unpackIndexes, scanIndexes_eq_error hn, error_bind] at h
  cases h

theorem unpackIndexes_eq_ok {sym : Bool} {shape : Option (List Nat)} {t : List IndexEntry}
    {r : UnpackResult} (h : unpackIndexes sym shape t = .ok r) :
    ∃ t', unpackItems sym shape (t.any (·.isMultiMask)) t' = .ok r ∧
      (IndexEntry.ellipsis ∉ t ∧ t' = t ∨ IndexEntry.ellipsis ∈ t ∧
        removeEllipsis (ndimOf shape) t = .ok (t'.length, t')) := by
  simp only [unpackIndexes, scanIndexes_eq_ok (none_not_mem_of_unpackIndexes h), ok_bind] at h
  obtain ⟨_, -, h⟩ := bind_eq_ok.mp h
  split at h
  next hell =>
    obtain ⟨r', hr', h⟩ := bind_eq_ok.mp h
    split at h
    next hlen => exact ⟨_, h, .inr ⟨by simpa using hell, by rw [hr', ← hlen]⟩⟩
    next => cases h
  next hell => exact ⟨t, h, .inl ⟨by simpa using hell, rfl⟩⟩

theorem unpackIndexes_expanded {sym : Bool} {shape : Option (List Nat)}
    {t : List IndexEntry} {r : UnpackResult} (h : unpackIndexes sym shape t = .ok r) :
    r.expanded = t.any (·.isMultiMask) :=
  (unpackItems_eq_ok (unpackIndexes_eq_ok h).choose_spec.1).choose_spec.2.2.2.2

theorem unpackItems_toOption (s : List Nat) (expand : Bool) (t : List IndexEntry) :
    (unpackItems true (some s) expand t).toOption =
      (unpackItems false (some s) expand t).toOption := by
  refine toOption_bind ?_ fun _ _ => rfl
  cases expand with
  | true => exact toOption_map some (toOption_map _ (boolDimLoop_agree 0 ⟨s, s, 0, 0⟩ t rfl))
  | false => rfl

theorem unpackIndexes_toOption (s : List Nat) (t : List IndexEntry) :
    (unpackIndexes true (some s) t).toOption = (unpackIndexes false (some s) t).toOption := by
  unfold unpackIndexes
  refine toOption_bind rfl fun _ _ => toOption_bind rfl fun _ _ => ?_
  dsimp only
  split
  · refine toOption_bind rfl fun _ _ => ?_
    split
    · exact unpackItems_toOption s _ _
    · rfl
  · exact unpackItems_toOption s _ _

/-- A mask of rank zero consumes no axis in the rank check, but the item loop
numbers entries by position: on a tensor of shape `(2,)`, the index
`(np.True_, 0)` passes the rank check and yields an item on axis `1`. -/
theorem unpackIndexes_zero_dim_mask_item_overruns :
    consumedAxes [.array ⟨true, []⟩, .int 0] ≤ [2].length ∧
      ∀ sym, ∃ r, unpackIndexes sym (some [2]) [.array ⟨true, []⟩, .int 0] = .ok r ∧
        r.shape = some [2] ∧ r.items.map (·.axis) = [0, 1] :=
  ⟨by decide, fun sym => by cases sym <;> exact ⟨_, rfl, rfl, rfl⟩⟩

/-! ## Removing the `Ellipsis` -/

theorem ndimOf_some {s : List Nat} (hs : s.length < 2 ^ 64) : ndimOf (some s) = some s.length :=
  if_pos hs

theorem unpackIndexes_eq_of_too_many (sym : Bool) {s : List Nat} (hs : s.length < 2 ^ 64)
    {t : List IndexEntry} (hnone : IndexEntry.none ∉ t) (hc : s.length < consumedAxes t) :
    unpackIndexes sym (some s) t = .error (tooManyIndices s.length (consumedAxes t)) := by
  simp only [unpackIndexes, scanIndexes_eq_ok hnone, ok_bind, ndimOf_some hs, checkRank, if_pos hc,
    error_bind]

theorem unpackIndexes_eq_of_no_ellipsis (sym : Bool) {s : List Nat} (hs : s.length < 2 ^ 64)
    {t : List IndexEntry} (hnone : IndexEntry.none ∉ t) (hell : IndexEntry.ellipsis ∉ t)
    (hc : consumedAxes t ≤ s.length) :
    unpackIndexes sym (some s) t = unpackItems sym (some s) (t.any (·.isMultiMask)) t := by
  simp only [unpackIndexes, scanIndexes_eq_ok hnone, ok_bind, ndimOf_some hs, checkRank,
    if_neg (show ¬ s.length < consumedAxes t by omega), decide_eq_false hell, Bool.false_eq_true,
    if_false]

theorem unpackIndexes_eq_of_ellipsis (sym : Bool) {s : List Nat} (hs : s.length < 2 ^ 64)
    {t : List IndexEntry} (hnone : IndexEntry.none ∉ t) (hell : IndexEntry.ellipsis ∈ t)
    (hc : consumedAxes t ≤ s.length) :
    unpackIndexes sym (some s) t = removeEllipsis (some s.length) t >>= fun r =>
      if r.1 = r.2.length then unpackItems sym (some s) (t.any (·.isMultiMask)) r.2
      else .error .opError := by
  simp only [unpackIndexes, scanIndexes_eq_ok hnone, ok_bind, ndimOf_some hs, checkRank,
    if_neg (show ¬ s.length < consumedAxes t by omega), decide_eq_true hell, if_true]
  rfl

theorem any_isMultiMask_replicate_fullSlice (k : Nat) :
    (List.replicate k fullSlice).any (·.isMultiMask) = false := by
  induction k with
  | zero => rfl
  | succ k ih => rw [List.replicate_succ, List.any_cons, ih]; rfl

/-- On a tensor of known rank `n < 2 ^ 63` and a tuple of at most `2 ^ 31`
entries without `None`: two or more `Ellipsis` entries raise an `IndexError`.
With exactly one, the tuple raises an `IndexError` when its other entries
consume `c > n` axes; otherwise `_remove_ellipsis` allocates
`n - c + tuple_size - 1` entries, with no wrap-around, and fills exactly them
with the tuple in which the `Ellipsis` became `n - c` full slices, a tuple
that consumes `n` axes and that `_unpack_indexes` goes on with. -/
theorem unpackIndexes_single_ellipsis (sym : Bool) (s : List Nat) (hs : s.length < 2 ^ 63)
    (t : List IndexEntry) (hnone : IndexEntry.none ∉ t) (hlen : t.length ≤ 2 ^ 31) :
    (2 ≤ t.count .ellipsis → ∃ msg, unpackIndexes sym (some s) t = .error (.indexError msg)) ∧
    (t.count .ellipsis = 1 →
      (s.length < consumedAxes t →
        unpackIndexes sym (some s) t = .error (tooManyIndices s.length (consumedAxes t))) ∧
      (consumedAxes t ≤ s.length → ∃ pre post, t = pre ++ .ellipsis :: post ∧
        removeEllipsis (some s.length) t = .ok (s.length - consumedAxes t + t.length - 1,
          pre ++ List.replicate (s.length - consumedAxes t) fullSlice ++ post) ∧
        (pre ++ List.replicate (s.length - consumedAxes t) fullSlice ++ post).length =
          s.length - consumedAxes t + t.length - 1 ∧
        consumedAxes (pre ++ List.replicate (s.length - consumedAxes t) fullSlice ++ post) =
          s.length ∧
        unpackIndexes sym (some s) t =
          unpackIndexes sym (some s) (pre ++ List.replicate (s.length - consumedAxes t) fullSlice ++
            post))) := by
  have hs64 : s.length < 2 ^ 64 := by omega
  refine ⟨fun h2 => ?_, fun h1 => ⟨unpackIndexes_eq_of_too_many sym hs64 hnone, fun hc => ?_⟩⟩
  · by_cases hc : s.length < consumedAxes t
    · exact ⟨_, unpackIndexes_eq_of_too_many sym hs64 hnone hc⟩
    · refine ⟨"only one ellipsis is allowed.", ?_⟩
      rw [unpackIndexes_eq_of_ellipsis sym hs64 hnone
        (List.count_pos_iff.mp (show 0 < t.count .ellipsis by omega)) (by omega),
        removeEllipsis_two _ h2, error_bind]
  · obtain ⟨pre, post, rfl⟩ :=
      List.append_of_mem (List.count_pos_iff.mp (show 0 < t.count .ellipsis by omega))
    simp only [List.count_append, List.count_cons_self] at h1
    have hpre : IndexEntry.ellipsis ∉ pre := List.count_eq_zero.mp (by omega)
    have hpost : IndexEntry.ellipsis ∉ post := List.count_eq_zero.mp (by omega)
    have hct : consumedAxes (pre ++ .ellipsis :: post) = consumedAxes pre + consumedAxes post := by
      simp; rfl
    rw [hct] at hc ⊢
    have hrem := removeEllipsis_single s.length hs pre post hpre hpost hlen hc
    have hlen' : (pre ++ List.replicate (s.length - (consumedAxes pre + consumedAxes post)) fullSlice
        ++ post).length = s.length - (consumedAxes pre + consumedAxes post) +
          (pre ++ .ellipsis :: post).length - 1 := by
      simp only [List.length_append, List.length_replicate, List.length_cons]; omega
    have hcons : consumedAxes (pre ++ List.replicate (s.length - (consumedAxes pre +
        consumedAxes post)) fullSlice ++ post) = s.length := by
      rw [consumedAxes_append, consumedAxes_append, consumedAxes_replicate_fullSlice]; omega
    refine ⟨pre, post, rfl, hlen' ▸ hrem, hlen', hcons, ?_⟩
    have hnone' : IndexEntry.none ∉ pre ++ List.replicate (s.length - (consumedAxes pre +
        consumedAxes post)) fullSlice ++ post := by
      simp only [List.mem_append, List.mem_cons, List.mem_replicate, not_or] at hnone ⊢
      exact ⟨⟨hnone.1, fun h => by cases h.2⟩, hnone.2.2⟩
    have hell' : IndexEntry.ellipsis ∉ pre ++ List.replicate (s.length - (consumedAxes pre +
        consumedAxes post)) fullSlice ++ post := by
      simp only [List.mem_append, List.mem_replicate, not_or]
      exact ⟨⟨hpre, fun h => by cases h.2⟩, hpost⟩
    rw [unpackIndexes_eq_of_no_ellipsis sym hs64 hnone' hell' (by omega),
      unpackIndexes_eq_of_ellipsis sym hs64 hnone (List.mem_append_right pre
        (List.mem_cons_self _ _)) (by rw [hct]; omega), hrem, ok_bind, if_pos rfl]
    simp only [List.any_append, List.any_cons, any_isMultiMask_replicate_fullSlice,
      show IndexEntry.ellipsis.isMultiMask = false from rfl, Bool.false_or, Bool.or_false]

theorem unpackIndexes_single_ellipsis_leading_int :
    [2, 3, 4].length < 2 ^ 63 ∧ IndexEntry.none ∉ [.int 0, .ellipsis] ∧
      [IndexEntry.int 0, .ellipsis].length ≤ 2 ^ 31 ∧
      ((2 ≤ [IndexEntry.int 0, .ellipsis].count .ellipsis →
          ∃ msg, unpackIndexes false (some [2, 3, 4]) [.int 0, .ellipsis] =
            .error (.indexError msg)) ∧
        ([IndexEntry.int 0, .ellipsis].count .ellipsis = 1 →
          ([2, 3, 4].length < consumedAxes [.int 0, .ellipsis] →
            unpackIndexes false (some [2, 3, 4]) [.int 0, .ellipsis] =
              .error (tooManyIndices [2, 3, 4].length (consumedAxes [.int 0, .ellipsis]))) ∧
          (consumedAxes [.int 0, .ellipsis] ≤ [2, 3, 4].length → ∃ pre post,
            [IndexEntry.int 0, .ellipsis] = pre ++ .ellipsis :: post ∧
            removeEllipsis (some [2, 3, 4].length) [.int 0, .ellipsis] =
              .ok ([2, 3, 4].length - consumedAxes [.int 0, .ellipsis] +
                  [IndexEntry.int 0, .ellipsis].length - 1,
                pre ++ List.replicate ([2, 3, 4].length - consumedAxes [.int 0, .ellipsis])
                  fullSlice ++ post) ∧
            (pre ++ List.replicate ([2, 3, 4].length - consumedAxes [.int 0, .ellipsis])
                fullSlice ++ post).length =
              [2, 3, 4].length - consumedAxes [.int 0, .ellipsis] +
                [IndexEntry.int 0, .ellipsis].length - 1 ∧
            consumedAxes (pre ++ List.replicate ([2, 3, 4].length -
                consumedAxes [.int 0, .ellipsis]) fullSlice ++ post) = [2, 3, 4].length ∧
            unpackIndexes false (some [2, 3, 4]) [.int 0, .ellipsis] =
              unpackIndexes false (some [2, 3, 4]) (pre ++ List.replicate ([2, 3, 4].length -
                consumedAxes [.int 0, .ellipsis]) fullSlice ++ post)))) :=
  ⟨by decide, by decide, by decide,
    unpackIndexes_single_ellipsis false [2, 3, 4] (by decide) [.int 0, .ellipsis] (by decide)
      (by decide)⟩

/-- A `None` entry is refused before the `Ellipsis` is looked at, even when
the other entries leave room for it. -/
theorem unpackIndexes_newaxis_beside_ellipsis :
    [IndexEntry.ellipsis, .none].count .ellipsis = 1 ∧
      consumedAxes [.ellipsis, .none] ≤ [2].length ∧
      ∀ sym, unpackIndexes sym (some [2]) [.ellipsis, .none] =
        .error (.indexError "newaxis is not allowed here") :=
  ⟨by decide, by decide, fun sym => by cases sym <;> rfl⟩

end MegEngine.Imperative
