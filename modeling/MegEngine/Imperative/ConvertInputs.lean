import MegEngine.Imperative.Device

/-!
`_convert_inputs_cpp` and its entry `convert_inputs_cpp`: the operands of an
arithmetic operation brought to the promoted dtype and one device. The first
loop finds the graph of the first graph variable (every other one must belong
to it). When there is one, the second loop converts every argument to a host
value (`npy::np2tensor`) and replaces each argument that is a graph variable
by a constant node of the graph holding that value. Last, every argument but
`None` goes through `_convert_single_value_cpp`: a tensor or graph variable is
cast to the dtype unless it is quantized, anything else becomes an eager
tensor by `_Const`.

The result is described by how each of its objects was made (`Made`); the
operators, `np2tensor` and the dtype category lie outside src/ and are
parameters. When `dtype_promotion` or `get_device` fails inside the entry,
the binding goes on with a null object and the Python error set; this is
modelled as that error.
-/

namespace MegEngine.Imperative

/-- An operand as `_dtype_promotion` reads it. -/
def Operand.toPyObj : Operand → PyObj
  | .none => .none
  | .tensor d _ => .tensor d
  | .symbolVar d _ _ _ => .symbolVar d
  | .ndarray d => .ndarray d
  | .pyBool => .pyBool
  | .pyInt => .pyInt
  | .pyFloat => .pyFloat
  | .other => .other

/-- An argument as `_dtype_promotion` reads it. -/
def Arg.toPyObj : Arg → PyObj
  | .op o => o.toPyObj
  | .seq items => .tuple (items.map Operand.toPyObj)

/-- An object of the tuple `_convert_inputs_cpp` returns, by how it was made. -/
inductive Made
  /-- An argument, returned as it is. -/
  | arg (a : Arg)
  /-- `typeobj(ImmutableTensor::make(*graph, hv, config).node())`: a constant
  node of `graph` on `cn`, typed like the first graph variable, holding
  `hv = np2tensor(src)` in `dtype`. -/
  | immutable (graph : Nat) (src : Arg) (dtype : Descr) (cn : CompNode)
  /-- `TypeCvt` to `dtype` applied to `m`. -/
  | typeCvt (m : Made) (dtype : Descr)
  /-- `_Const(src, dtype, device, None)`: an eager tensor on `cn`. -/
  | const (src : Made) (dtype : Descr) (cn : CompNode)
  deriving DecidableEq, Repr

/-- `is_tensor_or_symbolvar` of an object, with its dtype when it holds. -/
def Made.tensorDtype? : Made → Option Descr
  | .arg (.op (.tensor d _)) | .arg (.op (.symbolVar d _ _ _)) => some d
  | .arg _ => none
  | .immutable _ _ d _ | .typeCvt _ d | .const _ d _ => some d

/-- `_astype_cpp` on an object of dtype `cur`: `TypeCvt` unless it already
has the dtype. -/
def astypeCpp (m : Made) (cur dtype : Descr) : Made :=
  if cur ≠ dtype then .typeCvt m dtype else m

/-- `_convert_single_value_cpp(value, dtype, device)`; `quantized` tells the
dtypes of category `QUANTIZED`. -/
def convertSingleValueCpp (quantized : Descr → Bool) (m : Made) (dtype : Descr)
    (device : CompNode) : Made :=
  match m.tensorDtype? with
  | some cur => if !quantized cur then astypeCpp m cur dtype else m
  | none => .const m dtype device

/-- One pass of the first loop: the graph of the first graph variable, which
every later one must share (`mgb_assert(graph == g)`). -/
def graphStep (graph : Option Nat) : Arg → Except PyError (Option Nat)
  | .op (.symbolVar _ _ g _) =>
    match graph with
    | none => .ok (some g)
    | some g₀ => if g₀ = g then .ok graph else .error (.assertionError "graph == g")
  | _ => .ok graph

/-- The argument the second loop leaves at a position: a graph variable
becomes a constant node of `graph` holding its own host value. -/
def graphEntry (graph : Nat) (dtype : Descr) (cn : CompNode) (a : Arg) : Made :=
  match a with
  | .op (.symbolVar _ _ _ _) => .immutable graph a dtype cn
  | a => .arg a

/-- The second loop, once a graph was found: `np2tensor` of every argument
(`false` where it fails), then the replacement of graph variables. -/
def graphLoop (np2tensor : Arg → Bool) (graph : Nat) (dtype : Descr) (cn : CompNode) :
    List Arg → Except PyError (List Made)
  | [] => .ok []
  | a :: as =>
    if np2tensor a then (graphEntry graph dtype cn a :: ·) <$> graphLoop np2tensor graph dtype cn as
    else .error .opError

/-- `convert` of the last loop: `None` stays, everything else goes through
`_convert_single_value_cpp`. -/
def convertValue (quantized : Descr → Bool) (dtype : Descr) (device : CompNode) (m : Made) : Made :=
  if m = .arg (.op .none) then m else convertSingleValueCpp quantized m dtype device

/-- `_convert_inputs_cpp(args, nargs, dtype, device)`. -/
def convertInputsCpp (quantized : Descr → Bool) (np2tensor : Arg → Bool) (args : List Arg)
    (dtype : Descr) (device : CompNode) : Except PyError (List Made) := do
  let graph ← args.foldlM graphStep none
  let lis ← match graph with
    | none => .ok (args.map .arg)
    | some g => graphLoop np2tensor g dtype device args
  .ok (lis.map (convertValue quantized dtype device))

/-- `convert_inputs_cpp(*args, device)`: the dtype is `dtype_promotion` of the
arguments, the device the one given or, when it is `None`, `get_device` of the
arguments; `promote` is numpy's `PyArray_PromoteTypes` and `default` the
default device. -/
def convertInputs (promote : Descr → Descr → Descr) (quantized : Descr → Bool)
    (np2tensor : Arg → Bool) (default : CompNode) (args : List Arg)
    (device : Option CompNode) : Except PyError (List Made) := do
  let dtype ← dtypePromotion promote (args.map Arg.toPyObj)
  let device ← match device with
    | some cn => .ok cn
    | none => getDevice default args
  convertInputsCpp quantized np2tensor args dtype device

/-! ## The two loops in closed form -/

/-- The graph the first loop reads of an argument: a graph variable's. -/
def Arg.graph? : Arg → Option Nat
  | .op (.symbolVar _ _ g _) => some g
  | _ => none

/-- What becomes of an argument, read off the source: `None` stays; a tensor
is cast to `dtype` unless it has it or is quantized; a graph variable becomes
a constant node of the graph `g` holding its value in `dtype`; any other value
becomes an eager tensor by `_Const`. -/
def convertedArg (quantized : Descr → Bool) (dtype : Descr) (device : CompNode) (g : Nat) :
    Arg → Made
  | .op .none => .arg (.op .none)
  | .op (.tensor d cn) =>
    if quantized d || decide (d = dtype) then .arg (.op (.tensor d cn))
    else .typeCvt (.arg (.op (.tensor d cn))) dtype
  | .op (.symbolVar d cn g' v) => .immutable g (.op (.symbolVar d cn g' v)) dtype device
  | a => .const (.arg a) dtype device

theorem graphStep_eq (graph : Option Nat) (a : Arg) :
    graphStep graph a =
      match a.graph?, graph with
      | none, _ => .ok graph
      | some g, none => .ok (some g)
      | some g, some g₀ =>
        if g₀ = g then .ok graph else .error (.assertionError "graph == g") := by
  rcases a with (_ | _ | _ | _ | _ | _ | _ | _) | _ <;> cases graph <;> rfl

theorem foldlM_graphStep_some (g : Nat) : ∀ args : List Arg,
    args.foldlM graphStep (some g) =
      if ∃ g' ∈ args.filterMap Arg.graph?, g' ≠ g then .error (.assertionError "graph == g")
      else .ok (some g)
  | [] => rfl
  | a :: args => by
    rw [List.foldlM_cons, graphStep_eq, List.filterMap_cons]
    cases a.graph? with
    | none => simp only [ok_bind, foldlM_graphStep_some g args]
    | some g' =>
      by_cases hg : g = g'
      · subst hg
        simp only [↓reduceIte, ok_bind, foldlM_graphStep_some g args, List.mem_cons, or_and_right,
          exists_or, exists_eq_left, ne_eq, not_true_eq_false, false_or]
      · simp [hg, Ne.symm hg]

theorem foldlM_graphStep_none : ∀ args : List Arg,
    args.foldlM graphStep none =
      match args.filterMap Arg.graph? with
      | [] => .ok none
      | g :: gs =>
        if ∃ g' ∈ gs, g' ≠ g then .error (.assertionError "graph == g") else .ok (some g)
  | [] => rfl
  | a :: args => by
    rw [List.foldlM_cons, graphStep_eq, List.filterMap_cons]
    cases a.graph? with
    | none => simp only [ok_bind, foldlM_graphStep_none args]
    | some g => simp only [ok_bind, foldlM_graphStep_some g args]

theorem graphLoop_eq (np2tensor : Arg → Bool) (graph : Nat) (dtype : Descr) (cn : CompNode) :
    ∀ args : List Arg, graphLoop np2tensor graph dtype cn args =
      if args.all np2tensor then .ok (args.map (graphEntry graph dtype cn)) else .error .opError
  | [] => rfl
  | a :: as => by
    cases h : np2tensor a
    · simp [graphLoop, h]
    · by_cases has : as.all np2tensor <;>
        simp [graphLoop, h, has, graphLoop_eq np2tensor graph dtype cn as]

theorem convertInputsCpp_eq (quantized : Descr → Bool) (np2tensor : Arg → Bool)
    (args : List Arg) (dtype : Descr) (device : CompNode) :
    convertInputsCpp quantized np2tensor args dtype device =
      match args.filterMap Arg.graph? with
      | [] => .ok (args.map fun a => convertValue quantized dtype device (.arg a))
      | g :: gs =>
        if ∃ g' ∈ gs, g' ≠ g then .error (.assertionError "graph == g")
        else if args.all np2tensor then
          .ok (args.map fun a => convertValue quantized dtype device (graphEntry g dtype device a))
        else .error .opError := by
  rw [convertInputsCpp, foldlM_graphStep_none]
  cases args.filterMap Arg.graph? with
  | nil => simp only [ok_bind, List.map_map]; rfl
  | cons g gs =>
    by_cases hd : ∃ g' ∈ gs, g' ≠ g
    · simp only [if_pos hd, error_bind]
    · by_cases hnp : args.all np2tensor
      · simp only [if_neg hd, if_pos hnp, ok_bind, graphLoop_eq, List.map_map]; rfl
      · simp only [if_neg hd, if_neg hnp, ok_bind, graphLoop_eq, error_bind]

theorem convertValue_graphEntry (quantized : Descr → Bool) (dtype : Descr) (device : CompNode)
    (g : Nat) (a : Arg) :
    convertValue quantized dtype device (graphEntry g dtype device a) =
      convertedArg quantized dtype device g a := by
  rcases a with (_ | ⟨d, cn⟩ | _ | _ | _ | _ | _ | _) | _ <;>
    simp [graphEntry, convertValue, convertSingleValueCpp, Made.tensorDtype?, astypeCpp,
      convertedArg]
  cases quantized d <;> simp

theorem graphEntry_of_graph_none {a : Arg} (h : a.graph? = none) (g : Nat) (dtype : Descr)
    (cn : CompNode) : graphEntry g dtype cn a = .arg a := by
  rcases a with (_ | _ | _ | _ | _ | _ | _ | _) | _ <;> first | rfl | cases h

/-- For every argument list, `_convert_inputs_cpp` returns one object per
argument or raises. Without graph variables, `None` stays, a tensor is cast to
the dtype unless it has it or is quantized, and every other value becomes an
eager tensor. With `g` the graph of the first graph variable, the assertion
`graph == g` fails when a later graph variable belongs to another graph; else
the call raises when `np2tensor` refuses an argument, and otherwise every graph
variable becomes a constant node of `g` holding its own value in the dtype,
and the other arguments are converted as without graph variables. -/
theorem convertInputsCpp_spec (quantized : Descr → Bool) (np2tensor : Arg → Bool)
    (args : List Arg) (dtype : Descr) (device : CompNode) :
    ((∀ a ∈ args, a.graph? = none) → ∀ g,
      convertInputsCpp quantized np2tensor args dtype device =
        .ok (args.map (convertedArg quantized dtype device g))) ∧
    ∀ g gs, args.filterMap Arg.graph? = g :: gs →
      ((∃ g' ∈ gs, g' ≠ g) →
        convertInputsCpp quantized np2tensor args dtype device =
          .error (.assertionError "graph == g")) ∧
      ((∀ g' ∈ gs, g' = g) →
        convertInputsCpp quantized np2tensor args dtype device =
          if args.all np2tensor then .ok (args.map (convertedArg quantized dtype device g))
          else .error .opError) := by
  refine ⟨fun hnone g => ?_, fun g gs hgs => ⟨fun hd => ?_, fun hsame => ?_⟩⟩
  · rw [convertInputsCpp_eq, List.filterMap_eq_nil_iff.mpr hnone]
    refine congrArg _ (List.map_congr_left fun a ha => ?_)
    rw [← graphEntry_of_graph_none (hnone a ha) g dtype device, convertValue_graphEntry]
  · rw [convertInputsCpp_eq, hgs]
    exact if_pos hd
  · rw [convertInputsCpp_eq, hgs]
    dsimp only
    rw [if_neg (show ¬ ∃ g' ∈ gs, g' ≠ g by simpa using hsame)]
    simp only [convertValue_graphEntry]

/-- A graph variable `x` and a Python int, as in `x + 1` under tracing: the
graph variable is not kept but replaced by a constant node built from its own
value, and the int becomes an eager tensor, not a constant node of the graph;
or the call raises, where `np2tensor` refuses an argument. -/
theorem convertInputsCpp_rebuilds_symbolVar (quantized : Descr → Bool) (np2tensor : Arg → Bool)
    (dtype : Descr) (device : CompNode) (d : Descr) (cn : CompNode) (g v : Nat) :
    convertInputsCpp quantized np2tensor [.op (.symbolVar d cn g v), .op .pyInt] dtype device =
      if np2tensor (.op (.symbolVar d cn g v)) && np2tensor (.op .pyInt) then
        .ok [.immutable g (.op (.symbolVar d cn g v)) dtype device,
          .const (.arg (.op .pyInt)) dtype device]
      else .error .opError := by
  cases h₁ : np2tensor (.op (.symbolVar d cn g v)) <;> cases h₂ : np2tensor (.op .pyInt) <;>
    simp [convertInputsCpp, graphStep, graphLoop, h₁, h₂, convertValue, convertSingleValueCpp,
      Made.tensorDtype?, astypeCpp, graphEntry]

end MegEngine.Imperative
