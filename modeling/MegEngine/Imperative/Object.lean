import Mathlib

/-!
The Python values and C++ integer conversions that the tensor binding of the
imperative runtime (`imperative/python/src/tensor.cpp`) reads. Operands are
modelled by what the binding inspects of them: whether they are an eager
`TensorWrapper` or a graph `PySymbolVar`, and their shape when it is known.
Fixed-width C++ arithmetic is explicit: `toInt32` is a conversion to `int32_t`
and pybind11's checked `cast<int32_t>()` is `castInt32`.
-/

namespace MegEngine.Imperative

/-- The exceptions the binding raises to Python. `castError` is pybind11's
`cast_error`; `opError` is a failure inside an operator or tensor method that
the binding calls but that lies outside this file. -/
inductive PyError
  | indexError (msg : String)
  | valueError (msg : String)
  | castError
  | opError
  | assertionError (msg : String)
  deriving DecidableEq, Repr

@[simp] theorem ok_bind {α β : Type} (a : α) (f : α → Except PyError β) :
    (Except.ok a >>= f) = f a := rfl

@[simp] theorem error_bind {α β : Type} (e : PyError) (f : α → Except PyError β) :
    (Except.error e >>= f) = .error e := rfl

@[simp] theorem ok_map {α β : Type} (a : α) (f : α → β) :
    (f <$> (Except.ok a : Except PyError α)) = .ok (f a) := rfl

@[simp] theorem error_map {α β : Type} (e : PyError) (f : α → β) :
    (f <$> (Except.error e : Except PyError α)) = .error e := rfl

theorem bind_eq_ok {α β : Type} {x : Except PyError α} {f : α → Except PyError β} {r : β} :
    x >>= f = .ok r ↔ ∃ a, x = .ok a ∧ f a = .ok r := by
  cases x <;> simp

theorem toOption_bind {α β : Type} {x y : Except PyError α} {f g : α → Except PyError β}
    (h : x.toOption = y.toOption) (hfg : ∀ a, y = .ok a → (f a).toOption = (g a).toOption) :
    (x >>= f).toOption = (y >>= g).toOption := by
  cases x <;> cases y <;> cases h <;> first | rfl | exact hfg _ rfl

theorem toOption_map {α β : Type} {x y : Except PyError α} (f : α → β)
    (h : x.toOption = y.toOption) : (f <$> x).toOption = (f <$> y).toOption := by
  cases x <;> cases y <;> cases h <;> rfl

theorem mapM_eq_ok {α β : Type} {f : α → Except PyError β} (g : α → β) {l : List α}
    (h : ∀ a ∈ l, f a = .ok (g a)) : l.mapM f = .ok (l.map g) := by
  induction l with
  | nil => rfl
  | cons x xs ih =>
    rw [List.mapM_cons, h x (List.mem_cons_self _ _),
      ih fun a ha => h a (List.mem_cons_of_mem _ ha)]
    rfl

theorem mapM_eq_error {α β : Type} {f : α → Except PyError β} {e : PyError} {l : List α}
    (h : ∀ a ∈ l, (∃ b, f a = .ok b) ∨ f a = .error e) (hex : ∃ a ∈ l, f a = .error e) :
    l.mapM f = .error e := by
  induction l with
  | nil => simp at hex
  | cons x xs ih =>
    rw [List.mapM_cons]
    rcases h x (List.mem_cons_self _ _) with ⟨b, hb⟩ | hb
    · obtain ⟨a, ha, hae⟩ := hex
      have hxs : ∃ a ∈ xs, f a = .error e := by
        rcases List.mem_cons.mp ha with rfl | ha
        · rw [hb] at hae; cases hae
        · exact ⟨a, ha, hae⟩
      rw [hb, ok_bind, ih (fun a ha => h a (List.mem_cons_of_mem _ ha)) hxs]
      rfl
    · rw [hb]; rfl

/-- A value converted to `int32_t`, or `int32_t` arithmetic: two's complement
wrap-around. -/
def toInt32 (x : Int) : Int := (x + 2 ^ 31) % 2 ^ 32 - 2 ^ 31

/-- A value converted to `size_t`: wrap-around modulo `2 ^ 64`. -/
def sizeT (x : Int) : Nat := (x % 2 ^ 64).toNat

theorem sizeT_of_range {x : Int} (h0 : 0 ≤ x) (h : x < 2 ^ 64) : sizeT x = x.toNat := by
  unfold sizeT; rw [Int.emod_eq_of_lt h0 h]

/-- The Python ints that fit in an `int32_t`. -/
def Int32Range (x : Int) : Prop := -2 ^ 31 ≤ x ∧ x < 2 ^ 31

instance (x : Int) : Decidable (Int32Range x) := inferInstanceAs (Decidable (_ ∧ _))

/-- pybind11's `cast<int32_t>()` (and `cast<int>()`) of a Python int: a value
outside the range is refused. -/
def castInt32 (x : Int) : Except PyError Int :=
  if Int32Range x then .ok x else .error .castError

@[simp] theorem toInt32_of_range {x : Int} (h : Int32Range x) : toInt32 x = x := by
  unfold toInt32 Int32Range at *; omega

@[simp] theorem toInt32_toInt32 (x : Int) : toInt32 (toInt32 x) = toInt32 x := by
  unfold toInt32; omega

theorem castInt32_eq_ok {x : Int} (h : Int32Range x) : castInt32 x = .ok x := if_pos h

theorem castInt32_eq_error {x : Int} (h : ¬ Int32Range x) :
    castInt32 x = .error .castError := if_neg h

/-- `tuple2vector` of a tuple of Python ints: each entry through
`cast<int32_t>()`. -/
def tuple2vector (tup : List Int) : Except PyError (List Int) := tup.mapM castInt32

/-- Modelled from the spec: `astensor1d(..., dtype=int32)` materialises a list
of Python ints as a 1-d `int32` tensor; a value outside `int32_t` is refused
by the conversion. -/
def astensor1d (vals : List Int) : Except PyError (List Int) :=
  if vals.all fun v => decide (Int32Range v) then .ok vals else .error .opError

theorem tuple2vector_eq {tup : List Int} (h : ∀ v ∈ tup, Int32Range v) :
    tuple2vector tup = .ok tup := by
  rw [tuple2vector, @mapM_eq_ok _ _ castInt32 id _ fun v hv => castInt32_eq_ok (h v hv),
    List.map_id]

theorem tuple2vector_eq_error {tup : List Int} (h : ∃ v ∈ tup, ¬ Int32Range v) :
    tuple2vector tup = .error .castError := by
  obtain ⟨v, hv, hout⟩ := h
  refine mapM_eq_error (fun w _ => ?_) ⟨v, hv, castInt32_eq_error hout⟩
  by_cases hw : Int32Range w
  · exact Or.inl ⟨w, castInt32_eq_ok hw⟩
  · exact Or.inr (castInt32_eq_error hw)

theorem astensor1d_eq {vals : List Int} (h : ∀ v ∈ vals, Int32Range v) :
    astensor1d vals = .ok vals :=
  if_pos (List.all_eq_true.mpr fun v hv => decide_eq_true (h v hv))

/-- A tensor-like operand: an eager `TensorWrapper` or a graph `PySymbolVar`,
with its shape when the binding can read it (`shape()`, `_tuple_shape`,
`infer_shape_fallible`). The rank is not bounded here; a `TensorShape` holds
at most `MAX_NDIM = 7` axes, within every rank bound the theorems assume. -/
inductive Handle
  | tensor (shape : Option (List Nat))
  | symbolVar (shape : Option (List Nat))
  deriving DecidableEq, Repr

/-- The shape of an operand, when known. -/
def Handle.shape : Handle → Option (List Nat)
  | .tensor s | .symbolVar s => s

/-- `enable_fastpath`: only an eager tensor, and only while no `Trace` or
`ModuleTrace` transformation is installed. -/
def enableFastpath (tracing : Bool) : Handle → Bool
  | .tensor _ => !tracing
  | .symbolVar _ => false

end MegEngine.Imperative
