import MegEngine.Imperative.Object

/-!
Index tuples as `_unpack_indexes` reads them, the first scan it makes of a
tuple, and `_remove_ellipsis`. An entry is `None`, an `Ellipsis`, a Python
int, a slice of Python ints, or an array-like index (a numpy array, `Tensor`
or `SymbolVar`) known by whether its dtype is boolean and by its shape. The
scan refuses `None`, sums the axes the other entries consume (the rank of a
boolean mask, one for anything else) and notes whether an `Ellipsis` or a
multi-axis mask occurs. `_remove_ellipsis` scans the tuple again, refuses a
second `Ellipsis`, allocates a tuple of `ndim - cur_sum + tuple_size - 1`
entries in `size_t` arithmetic, and writes the tuple into it with the
`Ellipsis` replaced by full slices.

Python lists of bools as indices, masks whose `ndim` is not a Python int, and
slices whose bounds are tensors are not modelled.
-/

namespace MegEngine.Imperative

/-- An array-like index: whether its dtype is boolean (`is_bool_dtype`), and
its shape. -/
structure IndexArray where
  isBool : Bool
  shape : List Nat
  deriving DecidableEq, Repr

/-- An entry of an index tuple. -/
inductive IndexEntry
  | none
  | ellipsis
  | int (v : Int)
  | slice (start stop step : Option Int)
  | array (a : IndexArray)
  deriving DecidableEq, Repr

/-- `PySlice_New(NULL, NULL, NULL)`: the full slice `:`. -/
def fullSlice : IndexEntry := .slice none none none

/-- The axes an entry consumes: the rank of a boolean mask, none for an
`Ellipsis`, one for anything else. -/
def IndexEntry.consumed : IndexEntry → Nat
  | .ellipsis => 0
  | .array a => if a.isBool then a.shape.length else 1
  | .none | .int _ | .slice _ _ _ => 1

/-- A boolean mask of rank two or more: what `_expand_bool_dim` collapses. -/
def IndexEntry.isMultiMask : IndexEntry → Bool
  | .array a => a.isBool && decide (1 < a.shape.length)
  | _ => false

/-- The axes a tuple consumes. -/
def consumedAxes (t : List IndexEntry) : Nat := (t.map IndexEntry.consumed).sum

@[simp] theorem consumedAxes_nil : consumedAxes [] = 0 := rfl

@[simp] theorem consumedAxes_cons (e : IndexEntry) (t : List IndexEntry) :
    consumedAxes (e :: t) = e.consumed + consumedAxes t := List.sum_cons

@[simp] theorem consumedAxes_append (t u : List IndexEntry) :
    consumedAxes (t ++ u) = consumedAxes t + consumedAxes u := by
  rw [consumedAxes, List.map_append, List.sum_append]; rfl

theorem consumedAxes_replicate_fullSlice (k : Nat) :
    consumedAxes (List.replicate k fullSlice) = k := by
  induction k with
  | zero => rfl
  | succ k ih => rw [List.replicate_succ, consumedAxes_cons, ih]; exact Nat.add_comm 1 k

/-! ## The first scan of `_unpack_indexes` -/

/-- What the first loop of `_unpack_indexes` gathers. -/
structure IndexScan where
  idxNdim : Nat
  needRemoveEllipsis : Bool
  needExpandBoolDim : Bool
  deriving DecidableEq, Repr

/-- One pass of the first loop of `_unpack_indexes`. -/
def scanStep (acc : IndexScan) : IndexEntry → Except PyError IndexScan
  | .none => .error (.indexError "newaxis is not allowed here")
  | .ellipsis => .ok { acc with needRemoveEllipsis := true }
  | .array a =>
    if a.isBool then
      .ok { acc with idxNdim := acc.idxNdim + a.shape.length,
                     needExpandBoolDim := acc.needExpandBoolDim || decide (1 < a.shape.length) }
    else .ok { acc with idxNdim := acc.idxNdim + 1 }
  | .int _ | .slice _ _ _ => .ok { acc with idxNdim := acc.idxNdim + 1 }

/-- The first loop of `_unpack_indexes`. -/
def scanIndexes (t : List IndexEntry) : Except PyError IndexScan :=
  t.foldlM scanStep ⟨0, false, false⟩

theorem scanStep_eq_ok {e : IndexEntry} (he : e ≠ .none) (acc : IndexScan) :
    scanStep acc e = .ok ⟨acc.idxNdim + e.consumed,
      acc.needRemoveEllipsis || decide (IndexEntry.ellipsis = e),
      acc.needExpandBoolDim || e.isMultiMask⟩ := by
  cases e with
  | none => exact absurd rfl he
  | ellipsis => simp [scanStep, IndexEntry.consumed, IndexEntry.isMultiMask]
  | int _ | slice _ _ _ => simp [scanStep, IndexEntry.consumed, IndexEntry.isMultiMask]
  | array a =>
    cases hb : a.isBool <;>
      simp [scanStep, IndexEntry.consumed, IndexEntry.isMultiMask, hb]

theorem foldlM_scanStep_eq_ok : ∀ (t : List IndexEntry) (acc : IndexScan), IndexEntry.none ∉ t →
    t.foldlM scanStep acc = .ok ⟨acc.idxNdim + consumedAxes t,
      acc.needRemoveEllipsis || decide (IndexEntry.ellipsis ∈ t),
      acc.needExpandBoolDim || t.any (·.isMultiMask)⟩
  | [], acc, _ => by cases acc; simp; rfl
  | e :: t, acc, h => by
    rw [List.mem_cons, not_or] at h
    rw [List.foldlM_cons, scanStep_eq_ok (Ne.symm h.1), ok_bind, foldlM_scanStep_eq_ok t _ h.2]
    simp [Nat.add_assoc, Bool.or_assoc]

theorem foldlM_scanStep_eq_error : ∀ (t : List IndexEntry) (acc : IndexScan), IndexEntry.none ∈ t →
    t.foldlM scanStep acc = .error (.indexError "newaxis is not allowed here")
  | [], _, h => absurd h (List.not_mem_nil _)
  | e :: t, acc, h => by
    rw [List.foldlM_cons]
    by_cases he : e = .none
    · subst he; rfl
    · rw [scanStep_eq_ok he, ok_bind,
        foldlM_scanStep_eq_error t _ ((List.mem_cons.mp h).resolve_left (Ne.symm he))]

theorem scanIndexes_eq_ok {t : List IndexEntry} (h : IndexEntry.none ∉ t) :
    scanIndexes t = .ok ⟨consumedAxes t, decide (IndexEntry.ellipsis ∈ t), t.any (·.isMultiMask)⟩ := by
  rw [scanIndexes, foldlM_scanStep_eq_ok t _ h]
  simp

theorem scanIndexes_eq_error {t : List IndexEntry} (h : IndexEntry.none ∈ t) :
    scanIndexes t = .error (.indexError "newaxis is not allowed here") :=
  foldlM_scanStep_eq_error t _ h

/-! ## `_remove_ellipsis` -/

/-- The loop of `_remove_ellipsis` over the entries after `before`: the
`int pos` of the `Ellipsis` and `cur_sum`. -/
def ellipsisLoop (before : List IndexEntry) (pos : Int) (curSum : Nat) :
    List IndexEntry → Except PyError (Int × Nat)
  | [] => .ok (pos, curSum)
  | e :: es =>
    if e = .ellipsis then
      if IndexEntry.ellipsis ∈ before then .error (.indexError "only one ellipsis is allowed.")
      else ellipsisLoop (before ++ [e]) (toInt32 before.length) curSum es
    else ellipsisLoop (before ++ [e]) pos (curSum + e.consumed) es

/-- The filling loop of `_remove_ellipsis` from position `i` on: the entry at
`pos` (compared as a `size_t`) becomes `fill` full slices. -/
def ellipsisFill (pos : Int) (fill : Nat) : Nat → List IndexEntry → List IndexEntry
  | _, [] => []
  | i, e :: es =>
    if (i : Int) = pos % 2 ^ 64 then List.replicate fill fullSlice ++ ellipsisFill pos fill (i + 1) es
    else e :: ellipsisFill pos fill (i + 1) es

/-- `_remove_ellipsis` on a tensor of rank `ndim` (`none` when unknown): the
length the new tuple is allocated with, and the entries written into it. -/
def removeEllipsis (ndim : Option Nat) (t : List IndexEntry) :
    Except PyError (Nat × List IndexEntry) := do
  let r ← ellipsisLoop [] (-1) 0 t
  if r.1 = -1 then .ok (t.length, t)
  else match ndim with
    | none => .error (.indexError "does not support Ellipsis when tensor's ndim is unknown.")
    | some ndimSum =>
      .ok (sizeT (ndimSum - r.2 + t.length - 1), ellipsisFill r.1 (ndimSum - r.2) 0 t)

theorem ellipsisLoop_of_not_mem : ∀ (before : List IndexEntry) (pos : Int) (curSum : Nat)
    (es : List IndexEntry), IndexEntry.ellipsis ∉ es →
    ellipsisLoop before pos curSum es = .ok (pos, curSum + consumedAxes es)
  | _, _, _, [], _ => rfl
  | before, pos, curSum, e :: es, h => by
    rw [List.mem_cons, not_or] at h
    rw [ellipsisLoop, if_neg (Ne.symm h.1), ellipsisLoop_of_not_mem _ pos _ es h.2,
      consumedAxes_cons, Nat.add_assoc]

theorem ellipsisLoop_append (before : List IndexEntry) (pos : Int) (curSum : Nat) :
    ∀ xs ys : List IndexEntry, ellipsisLoop before pos curSum (xs ++ ys) =
      (ellipsisLoop before pos curSum xs) >>= fun r => ellipsisLoop (before ++ xs) r.1 r.2 ys := by
  intro xs
  induction xs generalizing before pos curSum with
  | nil => intro ys; simp [ellipsisLoop]
  | cons e xs ih =>
    intro ys
    simp only [List.cons_append, ellipsisLoop]
    split_ifs <;> simp [ih, List.append_assoc]

theorem ellipsisLoop_two : ∀ (before : List IndexEntry) (pos : Int) (curSum : Nat)
    (es : List IndexEntry), 2 ≤ es.count .ellipsis + (if IndexEntry.ellipsis ∈ before then 1 else 0) →
    ellipsisLoop before pos curSum es = .error (.indexError "only one ellipsis is allowed.")
  | before, _, _, [], h => by split_ifs at h <;> simp at h
  | before, pos, curSum, e :: es, h => by
    rw [ellipsisLoop]
    by_cases he : e = .ellipsis
    · subst he
      by_cases hb : IndexEntry.ellipsis ∈ before
      · rw [if_pos rfl, if_pos hb]
      · rw [if_pos rfl, if_neg hb]
        refine ellipsisLoop_two _ _ _ es ?_
        simp only [List.count_cons_self, if_neg hb, List.mem_append, List.mem_singleton, or_true,
          if_true] at h ⊢
        omega
    · rw [if_neg he]
      refine ellipsisLoop_two _ _ _ es ?_
      simp only [List.count_cons_of_ne (Ne.symm he), List.mem_append, List.mem_singleton,
        Ne.symm he, or_false] at h ⊢
      exact h

theorem removeEllipsis_two (ndim : Option Nat) {t : List IndexEntry}
    (h : 2 ≤ t.count .ellipsis) :
    removeEllipsis ndim t = .error (.indexError "only one ellipsis is allowed.") := by
  rw [removeEllipsis, ellipsisLoop_two [] (-1) 0 t (by simpa using h)]
  rfl

theorem ellipsisFill_append_of_lt (pos : Int) (fill : Nat) : ∀ (i : Nat) (xs ys : List IndexEntry),
    i + xs.length ≤ pos % 2 ^ 64 →
      ellipsisFill pos fill i (xs ++ ys) = xs ++ ellipsisFill pos fill (i + xs.length) ys
  | i, [], ys, _ => rfl
  | i, x :: xs, ys, h => by
    simp only [List.length_cons] at h
    rw [List.cons_append, ellipsisFill, if_neg (by omega),
      ellipsisFill_append_of_lt pos fill (i + 1) xs ys (by omega)]
    rw [show i + (x :: xs).length = i + 1 + xs.length by simp; omega]
    rfl

theorem ellipsisFill_of_gt (pos : Int) (fill : Nat) : ∀ (i : Nat) (ys : List IndexEntry),
    pos % 2 ^ 64 < i → ellipsisFill pos fill i ys = ys
  | _, [], _ => rfl
  | i, y :: ys, h => by
    rw [ellipsisFill, if_neg (by omega), ellipsisFill_of_gt pos fill (i + 1) ys (by omega)]

theorem ellipsisFill_single (pre post : List IndexEntry) (fill : Nat)
    (hpos : pre.length < 2 ^ 31) :
    ellipsisFill pre.length fill 0 (pre ++ .ellipsis :: post) =
      pre ++ List.replicate fill fullSlice ++ post := by
  have hmod : ((pre.length : Int) % 2 ^ 64) = pre.length := Int.emod_eq_of_lt (by omega) (by omega)
  rw [ellipsisFill_append_of_lt _ fill 0 pre _ (by omega), ellipsisFill, if_pos (by omega),
    ellipsisFill_of_gt _ fill _ post (by omega), List.append_assoc]

/-- With exactly one `Ellipsis`, in a tuple of at most `2 ^ 31` entries on a
tensor of known rank `n < 2 ^ 63` that the other entries do not overrun,
`_remove_ellipsis` allocates exactly as many entries as it writes, and writes
the tuple with the `Ellipsis` replaced by `n - c` full slices. -/
theorem removeEllipsis_single (n : Nat) (hn : n < 2 ^ 63) (pre post : List IndexEntry)
    (hpre : IndexEntry.ellipsis ∉ pre) (hpost : IndexEntry.ellipsis ∉ post)
    (hlen : (pre ++ .ellipsis :: post).length ≤ 2 ^ 31)
    (hc : consumedAxes pre + consumedAxes post ≤ n) :
    removeEllipsis (some n) (pre ++ .ellipsis :: post) =
      .ok ((pre ++ List.replicate (n - (consumedAxes pre + consumedAxes post)) fullSlice ++
        post).length, pre ++ List.replicate (n - (consumedAxes pre + consumedAxes post)) fullSlice ++
        post) := by
  simp only [List.length_append, List.length_cons] at hlen
  have hloop : ellipsisLoop [] (-1) 0 (pre ++ .ellipsis :: post) =
      .ok (pre.length, consumedAxes pre + consumedAxes post) := by
    rw [ellipsisLoop_append, ellipsisLoop_of_not_mem _ _ _ _ hpre, ok_bind, ellipsisLoop,
      if_pos rfl, if_neg (by simpa using hpre), ellipsisLoop_of_not_mem _ _ _ _ hpost]
    simp [toInt32_of_range (show Int32Range pre.length by unfold Int32Range; omega)]
  rw [removeEllipsis, hloop, ok_bind]
  dsimp only
  rw [if_neg (by omega), ellipsisFill_single _ _ _ (by omega)]
  simp only [List.length_append, List.length_cons, List.length_replicate]
  rw [sizeT_of_range (by omega) (by omega)]
  congr 2
  omega

end MegEngine.Imperative
