import MegEngine.Imperative.UnpackIndexes

/-!
`_getitem_cpp` and `_setitem_cpp`. The getter first tries `_try_cond_take` (a
boolean array of the tensor's own shape selects by `CondTake`), and otherwise
builds `Subtensor` (when `use_subtensor`) or `IndexingMultiAxisVec` from the
items `_unpack_indexes` returns, with each item's axis cast to `int8_t`. The
setter builds the same items, applies the getter to read the subtensor's
shape, checks the value's shape against it from the last axis backwards,
broadcasts the value to it, applies `SetSubtensor` or
`IndexingSetMultiAxisVec`, and reshapes the result back to the original shape
when masks were collapsed.

The operators lie outside src/: a call is described by the operator and what
it is applied to, and the shape of the subtensor the getter returns is a
parameter of the setter (`none` when `_tuple_shape` cannot be read, as for the
value). Values and tensors are described by their shapes.
-/

namespace MegEngine.Imperative

/-- The index argument of `__getitem__` / `__setitem__`: a tuple, or one entry. -/
inductive IndexArg
  | tuple (t : List IndexEntry)
  | single (e : IndexEntry)
  deriving DecidableEq, Repr

/-- The tuple `_unpack_indexes` makes of its argument. -/
def IndexArg.entries : IndexArg → List IndexEntry
  | .tuple t => t
  | .single e => [e]

/-- `_try_cond_take`: the mask, when the argument is a boolean array of the
tensor's shape (`none` stands for the empty tuple it returns otherwise). -/
def tryCondTake (shape : Option (List Nat)) : IndexArg → Option IndexArray
  | .single (.array a) => if a.isBool ∧ shape = some a.shape then some a else none
  | _ => none

/-- `item[0].cast<int8_t>()` on an item. -/
def castItem (it : IndexItem) : Except PyError IndexItem :=
  if it.axis < 2 ^ 7 then .ok it else .error .castError

/-- The `cpp_items` of both `_getitem_cpp` and `_setitem_cpp`. -/
def cppItems (items : List IndexItem) : Except PyError (List IndexItem) :=
  items.mapM castItem

/-- The getter operators. -/
inductive IndexOp
  | subtensor (items : List IndexItem)
  | indexingMultiAxisVec (items : List IndexItem)
  deriving DecidableEq, Repr

/-- The setter operators. -/
inductive SetOp
  | setSubtensor (items : List IndexItem)
  | indexingSetMultiAxisVec (items : List IndexItem)
  deriving DecidableEq, Repr

def IndexOp.items : IndexOp → List IndexItem
  | .subtensor items | .indexingMultiAxisVec items => items

/-- The setter of a getter, on the same items. -/
def IndexOp.setter : IndexOp → SetOp
  | .subtensor items => .setSubtensor items
  | .indexingMultiAxisVec items => .indexingSetMultiAxisVec items

/-- `Subtensor::make` when `use_subtensor`, else `IndexingMultiAxisVec::make`. -/
def makeIndexOp (useSubtensor : Bool) (items : List IndexItem) : IndexOp :=
  if useSubtensor then .subtensor items else .indexingMultiAxisVec items

/-- `SetSubtensor::make` when `use_subtensor`, else `IndexingSetMultiAxisVec::make`. -/
def makeSetOp (useSubtensor : Bool) (items : List IndexItem) : SetOp :=
  if useSubtensor then .setSubtensor items else .indexingSetMultiAxisVec items

/-- The operator call `_getitem_cpp` returns the result of. -/
inductive GetitemCall
  | condTake (mask : IndexArray)
  | index (op : IndexOp) (tensor : Option (List Nat)) (operands : List IndexOperand)
  deriving DecidableEq, Repr

/-- `_getitem_cpp` on a tensor of shape `shape` (`none` when unknown); `sym` is
`use_symbolic_shape()`. -/
def getitemCpp (sym : Bool) (shape : Option (List Nat)) (arg : IndexArg) :
    Except PyError GetitemCall :=
  match tryCondTake shape arg with
  | some a => .ok (.condTake a)
  | none => do
    let up ← unpackIndexes sym shape arg.entries
    let items ← cppItems up.items
    .ok (.index (makeIndexOp up.useSubtensor items) up.shape up.operands)

/-- The text of a shape in the copy error, from the `j`-th dimension on: each
dimension, followed by a comma from the second dimension on. -/
def shapeTextFrom : Nat → List Nat → String
  | _, [] => ""
  | j, d :: ds => toString d ++ (if j = 0 then "" else ",") ++ shapeTextFrom (j + 1) ds

def shapeText (s : List Nat) : String := shapeTextFrom 0 s

example : shapeText [2, 3, 4] = "23,4," := rfl

/-- The `ValueError` of a value of shape `vs` copied into a subtensor of shape `ts`. -/
def copyError (vs ts : List Nat) : PyError :=
  .valueError ("cannot copy tensor with shape (" ++ shapeText vs ++
    ") to subtensor with shape (" ++ shapeText ts ++ ")")

/-- The loop of the shape check, over the two shapes read from their last axis. -/
def copyCheck (err : PyError) : List Nat → List Nat → Except PyError Unit
  | v :: vr, t :: tr => if v ≠ 1 ∧ v ≠ t then .error err else copyCheck err vr tr
  | _, _ => .ok ()

/-- The shape check of `_setitem_cpp`, skipped when a `_tuple_shape` cannot be read. -/
def setitemShapeCheck : Option (List Nat) → Option (List Nat) → Except PyError Unit
  | some vs, some ts => copyCheck (copyError vs ts) vs.reverse ts.reverse
  | _, _ => .ok ()

/-- The calls `_setitem_cpp` makes after its check: the setter, applied to the
tensor, to the value broadcast to `valueTarget` and to the operands, and
whether the result is reshaped back to the original shape. -/
structure SetitemCall where
  setOp : SetOp
  tensor : Option (List Nat)
  valueTarget : Option (List Nat)
  operands : List IndexOperand
  reshapeBack : Bool
  deriving DecidableEq, Repr

/-- `_setitem_cpp` on a tensor of shape `shape`, a value of shape `valShape`,
the getter's subtensor being of shape `subShape`. -/
def setitemCpp (sym : Bool) (shape : Option (List Nat)) (arg : IndexArg)
    (valShape subShape : Option (List Nat)) : Except PyError SetitemCall := do
  let up ← unpackIndexes sym shape arg.entries
  let items ← cppItems up.items
  setitemShapeCheck valShape subShape
  .ok ⟨makeSetOp up.useSubtensor items, up.shape, subShape, up.operands, up.expanded⟩

/-! ## The item casts -/

theorem cppItems_eq_ok {items items' : List IndexItem} (h : cppItems items = .ok items') :
    items' = items := by
  induction items generalizing items' with
  | nil => cases h; rfl
  | cons it its ih =>
    unfold cppItems at h
    rw [List.mapM_cons] at h
    obtain ⟨it', hit, h⟩ := bind_eq_ok.mp h
    obtain ⟨its', hits, h⟩ := bind_eq_ok.mp h
    cases h
    unfold castItem at hit
    split at hit <;> cases hit
    rw [ih hits]

@[simp] theorem makeIndexOp_setter (u : Bool) (items : List IndexItem) :
    (makeIndexOp u items).setter = makeSetOp u items := by
  cases u <;> rfl

/-! ## The getter -/

theorem getitemCpp_eq_ok {sym : Bool} {shape : Option (List Nat)} {arg : IndexArg}
    {op : IndexOp} {s : Option (List Nat)} {ops : List IndexOperand}
    (h : getitemCpp sym shape arg = .ok (.index op s ops)) :
    ∃ up, unpackIndexes sym shape arg.entries = .ok up ∧ cppItems up.items = .ok up.items ∧
      op = makeIndexOp up.useSubtensor up.items ∧ s = up.shape ∧ ops = up.operands := by
  unfold getitemCpp at h
  split at h
  · cases h
  · obtain ⟨up, hup, h⟩ := bind_eq_ok.mp h
    obtain ⟨items, hitems, h⟩ := bind_eq_ok.mp h
    cases h
    obtain rfl := cppItems_eq_ok hitems
    exact ⟨up, hup, hitems, rfl, rfl, rfl⟩

/-- A value of shape `vs` passes the copy check against a subtensor of shape
`ts`: on the axes the two have, counted from the last, each value dimension
is `1` or the subtensor's. -/
def CopyCompatible (vs ts : List Nat) : Prop :=
  ∀ p ∈ vs.reverse.zip ts.reverse, p.1 = 1 ∨ p.1 = p.2

instance (vs ts : List Nat) : Decidable (CopyCompatible vs ts) :=
  inferInstanceAs (Decidable (∀ p ∈ _, _))

theorem copyCheck_eq (err : PyError) : ∀ vr tr : List Nat,
    copyCheck err vr tr =
      if ∀ p ∈ vr.zip tr, p.1 = 1 ∨ p.1 = p.2 then .ok () else .error err
  | v :: vr, t :: tr => by
    simp only [copyCheck, copyCheck_eq err vr tr, List.zip_cons_cons, List.forall_mem_cons]
    by_cases hv : v = 1 ∨ v = t
    · rw [if_neg (by omega)]
      simp only [hv, true_and]
    · rw [if_pos (by omega), if_neg fun h => hv h.1]
  | [], _ => by simp [copyCheck]
  | _ :: _, [] => by simp [copyCheck]

theorem setitemShapeCheck_some (vs ts : List Nat) :
    setitemShapeCheck (some vs) (some ts) =
      if CopyCompatible vs ts then .ok () else .error (copyError vs ts) :=
  copyCheck_eq _ _ _

/-- Wherever `_getitem_cpp` makes an indexing call, `_setitem_cpp` on the same
tensor and index, with a value and a subtensor of known shapes, raises the
copy `ValueError` exactly when the value fails the check, and otherwise
applies the getter's setter, on the same items, tensor and operands, to the
value broadcast to the subtensor's shape, and reshapes the result back to the
original shape exactly when the index holds a mask of rank two or more. -/
theorem setitemCpp_spec (sym : Bool) (shape : Option (List Nat)) (arg : IndexArg)
    (op : IndexOp) (s : Option (List Nat)) (ops : List IndexOperand)
    (hget : getitemCpp sym shape arg = .ok (.index op s ops)) (vs ts : List Nat) :
    setitemCpp sym shape arg (some vs) (some ts) =
      if CopyCompatible vs ts then
        .ok ⟨op.setter, s, some ts, ops, arg.entries.any (·.isMultiMask)⟩
      else .error (copyError vs ts) := by
  obtain ⟨up, hup, hitems, rfl, rfl, rfl⟩ := getitemCpp_eq_ok hget
  simp only [setitemCpp, hup, hitems, ok_bind, setitemShapeCheck_some, makeIndexOp_setter,
    unpackIndexes_expanded hup]
  split <;> rfl

theorem setitemCpp_spec_row :
    getitemCpp false (some [2, 3]) (.tuple [.int 1]) =
        .ok (.index (.subtensor [⟨0, false, false, false, true⟩]) (some [2, 3]) [.const 1]) ∧
      setitemCpp false (some [2, 3]) (.tuple [.int 1]) (some [1]) (some [3]) =
        if CopyCompatible [1] [3] then
          .ok ⟨(IndexOp.subtensor [⟨0, false, false, false, true⟩]).setter, some [2, 3], some [3],
            [.const 1], (IndexArg.tuple [.int 1]).entries.any (·.isMultiMask)⟩
        else .error (copyError [1] [3]) :=
  ⟨rfl, setitemCpp_spec false (some [2, 3]) (.tuple [.int 1]) _ _ _ rfl [1] [3]⟩

/-! ## Both modes -/

/-- `use_symbolic_shape()` never changes what indexing builds on a tensor of
known shape: for every index and, for an assignment, every value and
subtensor shape, `_getitem_cpp` and `_setitem_cpp` raise in both modes or
build the same operator call in both. -/
theorem indexing_shape_modes_agree (s : List Nat) (arg : IndexArg)
    (valShape subShape : Option (List Nat)) :
    (getitemCpp true (some s) arg).toOption = (getitemCpp false (some s) arg).toOption ∧
      (setitemCpp true (some s) arg valShape subShape).toOption =
        (setitemCpp false (some s) arg valShape subShape).toOption := by
  refine ⟨?_, toOption_bind (unpackIndexes_toOption s _) fun _ _ => rfl⟩
  unfold getitemCpp
  split
  · rfl
  · exact toOption_bind (unpackIndexes_toOption s _) fun _ _ => rfl

end MegEngine.Imperative
