import MegEngine.Imperative.Object

/-!
`_broadcast_cpp` with a target shape given as a list of Python ints and `None`s.
Each `None` at position `i` of a list of length `len` is filled from the
operand's `_tuple_shape`, `right = len - i` axes from its end; each int goes
through `cast<int32_t>()` and must not be negative. The fast path (an eager
tensor while nothing traces) writes the filled value back into `lis` and
hands `Broadcast` the literal shape through `tuple2vector`; the dynamic path
collects `new_shape`, materialises it with `astensor1d`, and hands
`Broadcast` a shape tensor. Both paths see the same dimension list.

`_expand_args` is not modelled: the target list is the sequence it returns.
-/

namespace MegEngine.Imperative

/-- The `Broadcast` operator `_broadcast_cpp` applies: a literal shape on the
fast path, or no shape and a shape tensor as a third input. -/
inductive BroadcastCall
  | literal (shape : List Int)
  | tensor (shape : List Int)
  deriving DecidableEq, Repr

/-- The dimensions a `Broadcast` call broadcasts to. -/
def BroadcastCall.dims : BroadcastCall → List Int
  | .literal d | .tensor d => d

/-- The object `shape_hdl` holds when `_make_shape_tuple` reads it: the
sequence `lis`, or the `int32` tensor `astensor1d` built from `new_shape`. -/
inductive ShapeHandle
  | seq (entries : List (Option Int))
  | tensor (vals : List Int)

/-- `_make_shape_tuple`: `PyLong_AsLong` of each entry (a `None` would read
as `-1`; none is left when it is called). -/
def makeShapeTuple : ShapeHandle → List Int
  | .seq entries => entries.map (·.getD (-1))
  | .tensor vals => vals

@[simp] theorem makeShapeTuple_seq_some (l : List Int) : makeShapeTuple (.seq (l.map some)) = l := by
  induction l with
  | nil => rfl
  | cons v l ih => simpa [makeShapeTuple] using ih

@[simp] theorem makeShapeTuple_tensor (vals : List Int) : makeShapeTuple (.tensor vals) = vals :=
  rfl

/-- One pass of the loop of `_broadcast_cpp`, over entry `i` of a list of
length `len`: the entry left in `lis` and the one appended to `new_shape`. -/
def broadcastEntry (fast : Bool) (tshp : Option (List Nat)) (len i : Nat) :
    Option Int → Except PyError (Option Int × Int)
  | none =>
    match tshp with
    | none => .error (.indexError "does not support `None` with unknown shape")
    | some inpShape =>
      if len - i ≤ inpShape.length then
        let d : Int := inpShape.getD (inpShape.length - (len - i)) 0
        .ok (if fast then some d else none, d)
      else .error (.valueError "invalid broadcast shape")
  | some v => do
    let s ← castInt32 v
    if s < 0 then
      .error (.valueError ("expect shape[" ++ toString i ++
        "] >= 0 or use `None` to auto infer, got " ++ toString s))
    else .ok (some v, v)

/-- The loop of `_broadcast_cpp` from position `i` on: `lis` and `new_shape`. -/
def broadcastLoop (fast : Bool) (tshp : Option (List Nat)) (len : Nat) :
    Nat → List (Option Int) → Except PyError (List (Option Int) × List Int)
  | _, [] => .ok ([], [])
  | i, e :: es => do
    let r ← broadcastEntry fast tshp len i e
    let rs ← broadcastLoop fast tshp len (i + 1) es
    .ok (r.1 :: rs.1, r.2 :: rs.2)

/-- `_broadcast_cpp` on an operand and a target list `lis`, under a tracing
state. -/
def broadcastCpp (tracing : Bool) (inp : Handle) (lis : List (Option Int)) :
    Except PyError BroadcastCall := do
  let fast := enableFastpath tracing inp
  let r ← broadcastLoop fast inp.shape lis.length 0 lis
  let shapeHdl ← if lis.any Option.isNone then
      if fast then .ok (ShapeHandle.seq r.1) else ShapeHandle.tensor <$> astensor1d r.2
    else .ok (ShapeHandle.seq lis)
  let shape ← tuple2vector (makeShapeTuple shapeHdl)
  if fast then .ok (.literal shape)
  else .tensor <$> astensor1d (makeShapeTuple shapeHdl)

/-! ## What a target list asks for -/

/-- The dimension entry `e` at position `i` of a list of length `len` asks
for against an operand shape `s`: `e` itself, or `s[m - len + i]` for `None`. -/
def fillEntry (s : List Nat) (len i : Nat) (e : Option Int) : Int :=
  e.getD (s.getD (s.length + i - len) 0)

/-- The target list with each `None` at position `i` replaced by
`s[m - len + i]`. -/
def fillNone (s : List Nat) (L : List (Option Int)) : List Int :=
  L.enum.map fun p => fillEntry s L.length p.1 p.2

example : fillNone [3, 1] [none, some 4] = [3, 4] := by decide

/-- An entry `_broadcast_cpp` refuses: an int that is negative or does not
fit `int32_t`, or a `None` with fewer than `len - i` operand axes to its
right. -/
def EntryRejected (m len i : Nat) : Option Int → Prop
  | none => m < len - i
  | some v => v < 0 ∨ 2 ^ 31 ≤ v

instance (m len i : Nat) (e : Option Int) : Decidable (EntryRejected m len i e) := by
  cases e <;> unfold EntryRejected <;> infer_instance

/-- Some entry of the target list is refused against an operand of rank `m`. -/
def BroadcastRejects (m : Nat) (L : List (Option Int)) : Prop :=
  ∃ p ∈ L.enum, EntryRejected m L.length p.1 p.2

instance (m : Nat) (L : List (Option Int)) : Decidable (BroadcastRejects m L) :=
  inferInstanceAs (Decidable (∃ p ∈ L.enum, _))

/-! ## The loop -/

section KnownShape

variable (fast : Bool) (s : List Nat) (len : Nat)

theorem broadcastEntry_eq_ok {i : Nat} {e : Option Int} (hi : i < len)
    (h : ¬ EntryRejected s.length len i e) :
    broadcastEntry fast (some s) len i e =
      .ok (if fast then some (fillEntry s len i e) else e, fillEntry s len i e) := by
  cases e with
  | none =>
    simp only [EntryRejected, not_lt] at h
    simp only [broadcastEntry, if_pos h, fillEntry, Option.getD_none,
      show s.length - (len - i) = s.length + i - len by omega]
  | some v =>
    simp only [EntryRejected, not_or, not_lt] at h
    simp only [broadcastEntry, castInt32_eq_ok (show Int32Range v by
      unfold Int32Range; omega), ok_bind, if_neg (show ¬ v < 0 by omega), fillEntry,
      Option.getD_some]
    cases fast <;> rfl

theorem broadcastEntry_eq_error {i : Nat} {e : Option Int}
    (h : EntryRejected s.length len i e) :
    ∃ err, broadcastEntry fast (some s) len i e = .error err := by
  cases e with
  | none =>
    exact ⟨_, if_neg (by simp only [EntryRejected] at h; omega)⟩
  | some v =>
    simp only [broadcastEntry]
    by_cases hv : Int32Range v
    · have hneg : v < 0 := by unfold Int32Range at hv; simp only [EntryRejected] at h; omega
      rw [castInt32_eq_ok hv, ok_bind, if_pos hneg]
      exact ⟨_, rfl⟩
    · rw [castInt32_eq_error hv]
      exact ⟨_, rfl⟩

theorem broadcastLoop_eq_ok : ∀ (i : Nat) (es : List (Option Int)), i + es.length = len →
    (∀ p ∈ es.enumFrom i, ¬ EntryRejected s.length len p.1 p.2) →
    broadcastLoop fast (some s) len i es =
      .ok (if fast then ((es.enumFrom i).map fun p => fillEntry s len p.1 p.2).map some else es,
        (es.enumFrom i).map fun p => fillEntry s len p.1 p.2)
  | _, [], _, _ => by cases fast <;> rfl
  | i, e :: es, hlen, h => by
    simp only [List.enumFrom_cons, List.forall_mem_cons] at h
    simp only [List.length_cons] at hlen
    rw [broadcastLoop, broadcastEntry_eq_ok fast s len (by omega) h.1, ok_bind,
      broadcastLoop_eq_ok (i + 1) es (by omega) h.2, ok_bind]
    cases fast <;> rfl

theorem broadcastLoop_eq_error : ∀ (i : Nat) (es : List (Option Int)), i + es.length = len →
    (∃ p ∈ es.enumFrom i, EntryRejected s.length len p.1 p.2) →
    ∃ err, broadcastLoop fast (some s) len i es = .error err
  | _, [], _, h => by simp at h
  | i, e :: es, hlen, h => by
    simp only [List.length_cons] at hlen
    rw [broadcastLoop]
    by_cases he : EntryRejected s.length len i e
    · obtain ⟨err, herr⟩ := broadcastEntry_eq_error fast s len he
      exact ⟨err, by rw [herr]; rfl⟩
    · have htail : ∃ p ∈ es.enumFrom (i + 1), EntryRejected s.length len p.1 p.2 := by
        simpa [List.enumFrom_cons, he] using h
      obtain ⟨err, herr⟩ := broadcastLoop_eq_error (i + 1) es (by omega) htail
      exact ⟨err, by rw [broadcastEntry_eq_ok fast s len (by omega) he, ok_bind, herr]; rfl⟩

theorem fill_of_all_some : ∀ (i : Nat) (es : List (Option Int)), es.any Option.isNone = false →
    (es.enumFrom i).map (fun p => fillEntry s len p.1 p.2) = es.map (·.getD (-1))
  | _, [], _ => rfl
  | i, e :: es, h => by
    simp only [List.any_cons, Bool.or_eq_false_iff] at h
    obtain ⟨v, rfl⟩ := Option.isSome_iff_exists.mp (by simpa using h.1)
    rw [List.enumFrom_cons, List.map_cons, fill_of_all_some (i + 1) es h.2]
    rfl

end KnownShape

/-! ## The whole call -/

theorem fillNone_int32 {s : List Nat} (hdims : ∀ d ∈ s, d < 2 ^ 31) {L : List (Option Int)}
    (h : ¬ BroadcastRejects s.length L) : ∀ d ∈ fillNone s L, Int32Range d := by
  simp only [fillNone, List.mem_map]
  rintro d ⟨⟨i, e⟩, hp, rfl⟩
  have hr : ¬ EntryRejected s.length L.length i e := fun hre => h ⟨_, hp, hre⟩
  unfold fillEntry Int32Range
  cases e with
  | none =>
    simp only [Option.getD_none, List.getD_eq_getElem?_getD]
    cases hget : s[s.length + i - L.length]? with
    | none => simp only [Option.getD_none]; omega
    | some d => have := hdims d (List.getElem?_mem hget); simp only [Option.getD_some]; omega
  | some v => simp only [EntryRejected, not_or, not_lt] at hr; simp only [Option.getD_some]; omega

/-- For an operand of known shape whose dimensions fit `int32_t`,
`_broadcast_cpp` raises exactly when the target list has a refused entry;
otherwise both paths broadcast to the target list with its `None`s filled
from the operand's shape. -/
theorem broadcastCpp_spec (tracing : Bool) (inp : Handle) (s : List Nat)
    (hs : inp.shape = some s) (hdims : ∀ d ∈ s, d < 2 ^ 31) (L : List (Option Int)) :
    ((∃ err, broadcastCpp tracing inp L = .error err) ↔ BroadcastRejects s.length L) ∧
      (¬ BroadcastRejects s.length L → broadcastCpp tracing inp L =
        .ok (if enableFastpath tracing inp then .literal (fillNone s L)
          else .tensor (fillNone s L))) := by
  have hok : ¬ BroadcastRejects s.length L → broadcastCpp tracing inp L =
      .ok (if enableFastpath tracing inp then .literal (fillNone s L)
        else .tensor (fillNone s L)) := fun h => by
    have h32 := fillNone_int32 hdims h
    have hloop : broadcastLoop (enableFastpath tracing inp) (some s) L.length 0 L =
        .ok (if enableFastpath tracing inp then (fillNone s L).map some else L, fillNone s L) :=
      broadcastLoop_eq_ok _ s _ 0 L (by simp) fun p hp hre => h ⟨p, hp, hre⟩
    have hL : L.any Option.isNone = false → makeShapeTuple (.seq L) = fillNone s L :=
      fun hany => (fill_of_all_some s L.length 0 L hany).symm
    cases hany : L.any Option.isNone <;> cases hf : enableFastpath tracing inp <;>
      simp only [hf, if_true, if_false, Bool.false_eq_true] at hloop <;>
      simp only [broadcastCpp, hs, hloop, hany, hf, hL, ok_bind, ok_map, if_true, if_false,
        Bool.false_eq_true, makeShapeTuple_seq_some, makeShapeTuple_tensor, tuple2vector_eq h32,
        astensor1d_eq h32]
  refine ⟨⟨fun ⟨err, herr⟩ => by_contra fun h => (by rw [hok h] at herr; cases herr),
    fun h => ?_⟩, hok⟩
  obtain ⟨err, herr⟩ := broadcastLoop_eq_error (enableFastpath tracing inp) s L.length 0 L
    (by simp) h
  exact ⟨err, by simp only [broadcastCpp, hs, herr, error_bind]⟩

theorem broadcastCpp_spec_fill_leading :
    (Handle.tensor (some [3, 1])).shape = some [3, 1] ∧ (∀ d ∈ [3, 1], d < 2 ^ 31) ∧
      (((∃ err, broadcastCpp false (.tensor (some [3, 1])) [none, some 4] = .error err) ↔
          BroadcastRejects [3, 1].length [none, some 4]) ∧
        (¬ BroadcastRejects [3, 1].length [none, some 4] →
          broadcastCpp false (.tensor (some [3, 1])) [none, some 4] =
            .ok (if enableFastpath false (.tensor (some [3, 1]))
              then .literal (fillNone [3, 1] [none, some 4])
              else .tensor (fillNone [3, 1] [none, some 4])))) :=
  ⟨rfl, by decide, broadcastCpp_spec false (.tensor (some [3, 1])) [3, 1] rfl (by decide)
    [none, some 4]⟩

/-- A non-negative int entry that does not fit `int32_t` is refused by
`cast<int32_t>()`. -/
theorem broadcastCpp_entry_beyond_int32 :
    (∀ v, some v ∈ [some (2 ^ 31 : Int)] → 0 ≤ v) ∧ none ∉ [some (2 ^ 31 : Int)] ∧
      broadcastCpp false (.tensor (some [1])) [some (2 ^ 31)] = .error .castError :=
  ⟨by simp, by simp, rfl⟩

end MegEngine.Imperative
