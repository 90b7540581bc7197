import MegEngine.Imperative.DtypePromotion

/-!
`_get_device`: the comp node an operation on the operands runs on. After the
unrolling of a single tuple or list argument, the first tensor or graph
variable fixes the comp node, and every later one must be on the same comp
node, else a `ValueError` names both; with no tensor or graph variable the
default device is loaded. Comparing each operand with the first is enough:
the call raises exactly when two operands disagree and otherwise returns the
one comp node they share, so neither the result nor whether it raises depends
on the order of the operands.

The operands are shared with `_convert_inputs_cpp`, which also reads the graph
a graph variable belongs to. A tuple or list argument is read one level down:
a sequence among its items is an `other` object.
-/

namespace MegEngine.Imperative

/-- A comp node, by the two texts `_get_device` prints of it (`to_string()`
and `to_string_logical()`). -/
structure CompNode where
  name : String
  logicalName : String
  deriving DecidableEq, Repr

/-- A Python operand other than a tuple or a list. Tensors and graph variables
carry their dtype as `npy::dtype_mgb2np_descr` maps it and their comp node; a
graph variable also its owner graph and which variable of it it is. -/
inductive Operand
  | none
  | tensor (dtype : Descr) (cn : CompNode)
  | symbolVar (dtype : Descr) (cn : CompNode) (graph : Nat) (var : Nat)
  | ndarray (dtype : Descr)
  | pyBool
  | pyInt
  | pyFloat
  | other
  deriving DecidableEq, Repr

/-- A positional argument: an operand, or a tuple or list of operands. -/
inductive Arg
  | op (o : Operand)
  | seq (items : List Operand)
  deriving DecidableEq, Repr

/-- The comp node `_get_device` reads of an argument: a tensor's or a graph
variable's. -/
def Arg.compNode? : Arg → Option CompNode
  | .op (.tensor _ cn) | .op (.symbolVar _ cn _ _) => some cn
  | _ => none

/-- The unrolling at the head of `_get_device`: a single tuple or list
argument stands for its items. -/
def unrollOperands : List Arg → List Arg
  | [.seq items] => items.map .op
  | args => args

/-- The `ValueError` of two comp nodes `cn` (the first) and `cn1`. -/
def ambiguousDevice (cn cn1 : CompNode) : PyError :=
  .valueError ("ambiguous device: " ++ cn.name ++ " (from " ++ cn.logicalName ++ ") vs " ++
    cn1.name ++ " (from " ++ cn1.logicalName ++ ")")

/-- One pass of the loop of `_get_device`: the state is `cn` once `valid` is set. -/
def deviceStep (cn : Option CompNode) (a : Arg) : Except PyError (Option CompNode) :=
  match a.compNode?, cn with
  | none, _ => .ok cn
  | some c, none => .ok (some c)
  | some c1, some c => if c1 ≠ c then .error (ambiguousDevice c c1) else .ok (some c)

/-- `_get_device`; `default` is `CompNode::load(get_default_device())`. -/
def getDevice (default : CompNode) (args : List Arg) : Except PyError CompNode := do
  let cn ← (unrollOperands args).foldlM deviceStep none
  .ok (cn.getD default)

/-! ## The scan -/

/-- What the scan gives once the comp nodes seen, the first one included, are
`cns`: the first, unless a later one differs from it. -/
def scanResult : List CompNode → Except PyError (Option CompNode)
  | [] => .ok none
  | c :: rest =>
    match rest.find? (· ≠ c) with
    | none => .ok (some c)
    | some c1 => .error (ambiguousDevice c c1)

theorem foldlM_deviceStep : ∀ (st : Option CompNode) (ops : List Arg),
    ops.foldlM deviceStep st = scanResult (st.toList ++ ops.filterMap Arg.compNode?)
  | none, [] => rfl
  | some _, [] => rfl
  | st, a :: ops => by
    rw [List.foldlM_cons, List.filterMap_cons]
    cases ha : a.compNode? with
    | none => simp only [deviceStep, ha, ok_bind, foldlM_deviceStep st ops]
    | some c1 =>
      cases st with
      | none => simp [deviceStep, ha, foldlM_deviceStep (some c1) ops]
      | some c =>
        by_cases hc : c1 = c
        · subst hc
          simp [deviceStep, ha, foldlM_deviceStep (some c1) ops, scanResult]
        · simp [deviceStep, ha, hc, scanResult]

/-- An operand that is a tensor or a graph variable on comp node `c`. -/
def Operand.OnDevice : Operand → CompNode → Prop
  | .tensor _ cn, c | .symbolVar _ cn _ _, c => cn = c
  | _, _ => False

/-- Two tensor or graph-variable operands on different comp nodes. -/
def AmbiguousDevice (ops : List Operand) : Prop :=
  ∃ o₁ ∈ ops, ∃ o₂ ∈ ops, ∃ c₁ c₂, o₁.OnDevice c₁ ∧ o₂.OnDevice c₂ ∧ c₁ ≠ c₂

/-- The argument lists that pass the operands `ops`: one tuple or list of
them, or the operands themselves. -/
def PassesDeviceOperands (ops : List Operand) (args : List Arg) : Prop :=
  args = [.seq ops] ∨ args = ops.map .op

theorem scanResult_eq_error_iff (cns : List CompNode) :
    (∃ msg, scanResult cns = .error (.valueError msg)) ↔ ∃ c₁ ∈ cns, ∃ c₂ ∈ cns, c₁ ≠ c₂ := by
  cases cns with
  | nil => simp [scanResult]
  | cons c rest =>
    simp only [scanResult]
    cases h : rest.find? (· ≠ c) with
    | none =>
      have hall : ∀ c' ∈ c :: rest, c' = c := fun c' hc' =>
        (List.mem_cons.mp hc').elim id fun hr => by simpa using List.find?_eq_none.mp h c' hr
      exact iff_of_false (by simp) fun ⟨c₁, h₁, c₂, h₂, hne⟩ =>
        hne (by rw [hall c₁ h₁, hall c₂ h₂])
    | some c1 =>
      have hne : c1 ≠ c := by simpa using List.find?_some h
      exact iff_of_true ⟨_, rfl⟩
        ⟨c, List.mem_cons_self _ _, c1, List.mem_cons_of_mem _ (List.mem_of_find?_eq_some h),
          hne.symm⟩

theorem scanResult_eq_ok (cns : List CompNode) (h : ¬ ∃ c₁ ∈ cns, ∃ c₂ ∈ cns, c₁ ≠ c₂) :
    scanResult cns = .ok cns.head? := by
  cases cns with
  | nil => rfl
  | cons c rest =>
    have hfind : rest.find? (· ≠ c) = none := List.find?_eq_none.mpr fun c' hc' => by
      simpa using fun hne => h ⟨c, List.mem_cons_self _ _, c', List.mem_cons_of_mem _ hc',
        Ne.symm hne⟩
    simp only [scanResult, hfind, List.head?_cons]

theorem head?_eq_of_mem {cns : List CompNode} {c : CompNode} (hc : c ∈ cns)
    (h : ¬ ∃ c₁ ∈ cns, ∃ c₂ ∈ cns, c₁ ≠ c₂) : cns.head? = some c := by
  cases cns with
  | nil => cases hc
  | cons c₀ rest =>
    exact congrArg some (by_contra fun hne => h ⟨c₀, List.mem_cons_self _ _, c, hc, hne⟩)

theorem head?_eq_of_perm {cns cns' : List CompNode} (hp : cns'.Perm cns)
    (h : ¬ ∃ c₁ ∈ cns, ∃ c₂ ∈ cns, c₁ ≠ c₂) : cns'.head? = cns.head? := by
  cases cns with
  | nil => rw [hp.eq_nil]
  | cons c rest =>
    have h' : ¬ ∃ c₁ ∈ cns', ∃ c₂ ∈ cns', c₁ ≠ c₂ := fun ⟨c₁, h₁, c₂, h₂, hne⟩ =>
      h ⟨c₁, hp.subset h₁, c₂, hp.subset h₂, hne⟩
    rw [head?_eq_of_mem (hp.symm.subset (List.mem_cons_self _ _)) h', List.head?_cons]

theorem getDevice_eq (default : CompNode) (args : List Arg) :
    getDevice default args =
      (·.getD default) <$> scanResult ((unrollOperands args).filterMap Arg.compNode?) := by
  rw [getDevice, foldlM_deviceStep, Option.toList_none, List.nil_append]
  cases scanResult ((unrollOperands args).filterMap Arg.compNode?) <;> rfl

/-! ## The comp nodes read off the operands -/

theorem unrollOperands_eq {ops : List Operand} {args : List Arg}
    (h : PassesDeviceOperands ops args) : unrollOperands args = ops.map .op := by
  rcases h with rfl | rfl
  · rfl
  · match ops with
    | [] | [_] | _ :: _ :: _ => rfl

theorem mem_compNodes {ops : List Operand} {c : CompNode} :
    c ∈ (ops.map Arg.op).filterMap Arg.compNode? ↔ ∃ o ∈ ops, o.OnDevice c := by
  simp only [List.filterMap_map, List.mem_filterMap, Function.comp]
  refine exists_congr fun o => and_congr_right fun _ => ?_
  cases o <;> simp [Arg.compNode?, Operand.OnDevice]

theorem ambiguousDevice_iff (ops : List Operand) :
    AmbiguousDevice ops ↔ ∃ c₁ ∈ (ops.map Arg.op).filterMap Arg.compNode?,
      ∃ c₂ ∈ (ops.map Arg.op).filterMap Arg.compNode?, c₁ ≠ c₂ := by
  simp only [mem_compNodes]
  constructor
  · rintro ⟨o₁, h₁, o₂, h₂, c₁, c₂, hc₁, hc₂, hne⟩
    exact ⟨c₁, ⟨o₁, h₁, hc₁⟩, c₂, ⟨o₂, h₂, hc₂⟩, hne⟩
  · rintro ⟨c₁, ⟨o₁, h₁, hc₁⟩, c₂, ⟨o₂, h₂, hc₂⟩, hne⟩
    exact ⟨o₁, h₁, o₂, h₂, c₁, c₂, hc₁, hc₂, hne⟩

theorem getDevice_eq_error_iff {default : CompNode} {ops : List Operand} {args : List Arg}
    (hargs : PassesDeviceOperands ops args) :
    (∃ msg, getDevice default args = .error (.valueError msg)) ↔ AmbiguousDevice ops := by
  rw [ambiguousDevice_iff, ← unrollOperands_eq hargs, ← scanResult_eq_error_iff, getDevice_eq]
  cases scanResult ((unrollOperands args).filterMap Arg.compNode?) <;> simp

theorem getDevice_eq_head {default : CompNode} {ops : List Operand} {args : List Arg}
    (hargs : PassesDeviceOperands ops args) (h : ¬ AmbiguousDevice ops) :
    getDevice default args = .ok (((ops.map .op).filterMap Arg.compNode?).head?.getD default) := by
  rw [ambiguousDevice_iff, ← unrollOperands_eq hargs] at h
  rw [getDevice_eq, scanResult_eq_ok _ h, unrollOperands_eq hargs]
  rfl

/-- For every operand list, passed bare or as one tuple or list, `_get_device`
raises a `ValueError` exactly when two tensor or graph-variable operands are on
different comp nodes. Otherwise it returns the comp node every such operand is
on, the default device when there is none. Neither the result nor whether it
raises changes when the operands are reordered or passed the other way. -/
theorem getDevice_spec (default : CompNode) (ops : List Operand) (args : List Arg)
    (hargs : PassesDeviceOperands ops args) :
    ((∃ msg, getDevice default args = .error (.valueError msg)) ↔ AmbiguousDevice ops) ∧
      (¬ AmbiguousDevice ops → ∃ cn, getDevice default args = .ok cn ∧
        (∀ o ∈ ops, ∀ c, o.OnDevice c → c = cn) ∧
        ((∀ o ∈ ops, ∀ c, ¬ o.OnDevice c) → cn = default)) ∧
      (∀ ops' args', PassesDeviceOperands ops' args' → ops'.Perm ops →
        (getDevice default args').toOption = (getDevice default args).toOption) := by
  refine ⟨getDevice_eq_error_iff hargs, fun h => ?_, fun ops' args' h' hp => ?_⟩
  · rw [getDevice_eq_head hargs h]
    rw [ambiguousDevice_iff] at h
    refine ⟨_, rfl, fun o ho c hc => ?_, fun hnone => ?_⟩
    · rw [head?_eq_of_mem (mem_compNodes.mpr ⟨o, ho, hc⟩) h]; rfl
    · rw [List.eq_nil_iff_forall_not_mem.mpr fun c hc =>
        (mem_compNodes.mp hc).elim fun o ⟨ho, hoc⟩ => hnone o ho c hoc]
      rfl
  · have hamb : AmbiguousDevice ops' ↔ AmbiguousDevice ops := by
      simp only [AmbiguousDevice, hp.mem_iff]
    by_cases h : AmbiguousDevice ops
    · obtain ⟨_, he⟩ := (getDevice_eq_error_iff hargs).mpr h
      obtain ⟨_, he'⟩ := (getDevice_eq_error_iff h').mpr (hamb.mpr h)
      rw [he, he']
      rfl
    · rw [getDevice_eq_head hargs h, getDevice_eq_head h' (mt hamb.mp h),
        head?_eq_of_perm ((hp.map Arg.op).filterMap Arg.compNode?)
          (mt (ambiguousDevice_iff ops).mpr h)]

theorem getDevice_spec_tuple :
    PassesDeviceOperands [.tensor ⟨'f', 4⟩ ⟨"gpu0:0", "gpu0"⟩, .pyInt,
      .tensor ⟨'i', 4⟩ ⟨"gpu0:0", "gpu0"⟩]
      [.seq [.tensor ⟨'f', 4⟩ ⟨"gpu0:0", "gpu0"⟩, .pyInt, .tensor ⟨'i', 4⟩ ⟨"gpu0:0", "gpu0"⟩]] ∧
    (((∃ msg, getDevice ⟨"cpu0:0", "cpu0"⟩ [.seq [.tensor ⟨'f', 4⟩ ⟨"gpu0:0", "gpu0"⟩, .pyInt,
        .tensor ⟨'i', 4⟩ ⟨"gpu0:0", "gpu0"⟩]] = .error (.valueError msg)) ↔
        AmbiguousDevice [.tensor ⟨'f', 4⟩ ⟨"gpu0:0", "gpu0"⟩, .pyInt,
          .tensor ⟨'i', 4⟩ ⟨"gpu0:0", "gpu0"⟩]) ∧
      (¬ AmbiguousDevice [.tensor ⟨'f', 4⟩ ⟨"gpu0:0", "gpu0"⟩, .pyInt,
          .tensor ⟨'i', 4⟩ ⟨"gpu0:0", "gpu0"⟩] → ∃ cn,
        getDevice ⟨"cpu0:0", "cpu0"⟩ [.seq [.tensor ⟨'f', 4⟩ ⟨"gpu0:0", "gpu0"⟩, .pyInt,
          .tensor ⟨'i', 4⟩ ⟨"gpu0:0", "gpu0"⟩]] = .ok cn ∧
        (∀ o ∈ [Operand.tensor ⟨'f', 4⟩ ⟨"gpu0:0", "gpu0"⟩, .pyInt,
          .tensor ⟨'i', 4⟩ ⟨"gpu0:0", "gpu0"⟩], ∀ c, o.OnDevice c → c = cn) ∧
        ((∀ o ∈ [Operand.tensor ⟨'f', 4⟩ ⟨"gpu0:0", "gpu0"⟩, .pyInt,
          .tensor ⟨'i', 4⟩ ⟨"gpu0:0", "gpu0"⟩], ∀ c, ¬ o.OnDevice c) →
          cn = ⟨"cpu0:0", "cpu0"⟩)) ∧
      (∀ ops' args', PassesDeviceOperands ops' args' →
        ops'.Perm [.tensor ⟨'f', 4⟩ ⟨"gpu0:0", "gpu0"⟩, .pyInt,
          .tensor ⟨'i', 4⟩ ⟨"gpu0:0", "gpu0"⟩] →
        (getDevice ⟨"cpu0:0", "cpu0"⟩ args').toOption =
          (getDevice ⟨"cpu0:0", "cpu0"⟩ [.seq [.tensor ⟨'f', 4⟩ ⟨"gpu0:0", "gpu0"⟩, .pyInt,
            .tensor ⟨'i', 4⟩ ⟨"gpu0:0", "gpu0"⟩]]).toOption)) :=
  ⟨.inl rfl, getDevice_spec _ _ _ (.inl rfl)⟩

end MegEngine.Imperative
