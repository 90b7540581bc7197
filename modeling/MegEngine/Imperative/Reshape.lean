import MegEngine.Imperative.Object

/-!
`_reshape_cpp` on a target shape that `_make_shape_tuple` has turned into a
tuple of Python ints. One scan of the tuple refuses an entry below `-1` and a
second `-1`, and records the position of the `-1` in the `int32_t`
`unspec_axis`; `tuple2vector` then casts every entry to `int32_t`. The fast
path hands `Reshape` the literal shape; the dynamic path hands it an empty
shape and a shape tensor built by `astensor1d`. Within tuples of at most
`2 ^ 31` entries the recorded position is exact, and the operator carries the
unique position of `-1` on both paths.

`_expand_args` and `_make_shape_tuple` are not modelled: the tuple is what
they return.
-/

namespace MegEngine.Imperative

/-- The `Reshape` operator `_reshape_cpp` applies. -/
structure ReshapeCall where
  /-- The unspecified axis; `none` is `INVALID_AXIS`. -/
  axis : Option Int
  /-- The literal target shape; empty on the dynamic path. -/
  shape : List Int
  /-- The shape tensor passed as a third input on the dynamic path. -/
  shapeTensor : Option (List Int)
  deriving DecidableEq, Repr

/-- The scan of `_reshape_cpp` from position `i` on, with `unspec_axis = u`. -/
def reshapeLoop : Nat → Int → List Int → Except PyError Int
  | _, u, [] => .ok u
  | i, u, v :: vs =>
    if v < 0 then
      if v ≠ -1 then
        .error (.valueError ("expect shape [" ++ toString i ++ "] >= -1, got " ++ toString v))
      else if 0 ≤ u then
        .error (.valueError ("multiple -1 in shape: " ++ toString u ++ " & " ++ toString i))
      else reshapeLoop (i + 1) (toInt32 i) vs
    else reshapeLoop (i + 1) u vs

/-- `_reshape_cpp` on an operand and a target tuple, under a tracing state. -/
def reshapeCpp (tracing : Bool) (inp : Handle) (tup : List Int) :
    Except PyError ReshapeCall := do
  let unspecAxis ← reshapeLoop 0 (-1) tup
  let shape ← tuple2vector tup
  let axis := if 0 ≤ unspecAxis then some unspecAxis else none
  if enableFastpath tracing inp then .ok ⟨axis, shape, none⟩
  else do
    let shapeTensor ← astensor1d tup
    .ok ⟨axis, [], some shapeTensor⟩

/-- A target tuple `_reshape_cpp` refuses with a `ValueError`: an entry below
`-1`, or `-1` at two or more positions. -/
def ReshapeRejects (tup : List Int) : Prop :=
  (∃ v ∈ tup, v < -1) ∨ 2 ≤ tup.count (-1)

instance (tup : List Int) : Decidable (ReshapeRejects tup) :=
  inferInstanceAs (Decidable (_ ∨ _))

/-! ## The scan -/

/-- How many `-1`s the scan has seen when it holds `u`. -/
def seen (u : Int) : Nat := if 0 ≤ u then 1 else 0

theorem findIdx?_eq_none_of_not_mem : ∀ (vs : List Int) (j : Nat), -1 ∉ vs →
    vs.findIdx? (· == -1) j = none
  | [], _, _ => rfl
  | v :: vs, j, h => by
    rw [List.mem_cons, not_or] at h
    rw [List.findIdx?_cons, if_neg (by rw [beq_iff_eq]; exact fun h' => h.1 h'.symm),
      findIdx?_eq_none_of_not_mem vs (j + 1) h.2]

theorem reshapeLoop_eq_ok : ∀ (i : Nat) (u : Int) (vs : List Int), i + vs.length ≤ 2 ^ 31 →
    (∀ v ∈ vs, -1 ≤ v) → vs.count (-1) + seen u ≤ 1 →
    reshapeLoop i u vs = .ok ((vs.findIdx? (· == -1) i).elim u fun j => (j : Int))
  | _, _, [], _, _, _ => rfl
  | i, u, v :: vs, hlen, hge, hcount => by
    simp only [List.length_cons] at hlen
    simp only [List.forall_mem_cons] at hge
    rw [reshapeLoop, List.findIdx?_cons]
    by_cases hv : v < 0
    · obtain rfl : v = -1 := by omega
      have hu : ¬ 0 ≤ u := fun hu => by simp [List.count_cons, seen, hu] at hcount
      have hnone : -1 ∉ vs := fun hm => by
        have := List.count_pos_iff.mpr hm
        simp [List.count_cons, seen, hu] at hcount
        omega
      simp only [if_pos hv, ne_eq, not_true_eq_false, if_false, if_neg hu, beq_self_eq_true,
        if_true, toInt32_of_range (show Int32Range i by unfold Int32Range; omega)]
      rw [reshapeLoop_eq_ok (i + 1) _ vs (by omega) hge.2
        (by simp only [List.count_eq_zero.mpr hnone, seen]; split <;> omega),
        findIdx?_eq_none_of_not_mem vs _ hnone]
      rfl
    · have hne : (v == -1) = false := by simp only [beq_eq_false_iff_ne]; omega
      simp only [if_neg hv, hne, Bool.false_eq_true, if_false]
      exact reshapeLoop_eq_ok (i + 1) u vs (by omega) hge.2
        (by simp [List.count_cons, hne] at hcount; omega)

theorem reshapeLoop_eq_error : ∀ (i : Nat) (u : Int) (vs : List Int), i + vs.length ≤ 2 ^ 31 →
    (∃ v ∈ vs, v < -1) ∨ 2 ≤ vs.count (-1) + seen u →
    ∃ msg, reshapeLoop i u vs = .error (.valueError msg)
  | _, u, [], _, h => by
    simp only [List.not_mem_nil, false_and, exists_false, List.count_nil, seen, false_or] at h
    split_ifs at h <;> omega
  | i, u, v :: vs, hlen, h => by
    simp only [List.length_cons] at hlen
    rw [reshapeLoop]
    by_cases hv : v < 0
    · rw [if_pos hv]
      by_cases hv1 : v = -1
      · subst hv1
        rw [if_neg (by simp)]
        by_cases hu : 0 ≤ u
        · exact ⟨_, if_pos hu⟩
        · rw [if_neg hu, toInt32_of_range (show Int32Range i by unfold Int32Range; omega)]
          refine reshapeLoop_eq_error (i + 1) _ vs (by omega) ?_
          simp [List.count_cons, seen, hu] at h
          simp only [seen, show (0 : Int) ≤ (i : Int) by omega, if_true]
          rcases h with h | h
          · exact Or.inl h
          · have := List.count_pos_iff.mpr h
            right; omega
      · exact ⟨_, if_pos hv1⟩
    · rw [if_neg hv]
      refine reshapeLoop_eq_error (i + 1) u vs (by omega) ?_
      have hne : (v == -1) = false := by simp only [beq_eq_false_iff_ne]; omega
      simpa [List.count_cons, hne, show ¬ v < -1 by omega] using h

/-! ## The whole call -/

theorem unspecAxis_eq (o : Option Nat) :
    (if 0 ≤ o.elim (-1) (fun j => (j : Int)) then some (o.elim (-1) fun j => (j : Int))
      else none) = o.map (↑) := by
  cases o with
  | none => rfl
  | some j => exact if_pos (show (0 : Int) ≤ j by omega)

/-- Within tuples of at most `2 ^ 31` entries, `_reshape_cpp` raises a
`ValueError` exactly on a refused tuple. Otherwise it raises exactly when
`tuple2vector` meets an entry beyond `int32_t`, and else builds a `Reshape`
carrying the position of the unique `-1` (or `INVALID_AXIS`): with the tuple as
its literal shape on the fast path, and with the tuple as its shape tensor on
the dynamic path. -/
theorem reshapeCpp_spec (tracing : Bool) (inp : Handle) (tup : List Int)
    (hlen : tup.length ≤ 2 ^ 31) :
    ((∃ msg, reshapeCpp tracing inp tup = .error (.valueError msg)) ↔ ReshapeRejects tup) ∧
      (¬ ReshapeRejects tup →
        (reshapeCpp tracing inp tup = .error .castError ↔ ∃ v ∈ tup, 2 ^ 31 ≤ v) ∧
        ((∀ v ∈ tup, v < 2 ^ 31) → reshapeCpp tracing inp tup =
          .ok (if enableFastpath tracing inp
            then ⟨(tup.indexOf? (-1)).map (↑), tup, none⟩
            else ⟨(tup.indexOf? (-1)).map (↑), [], some tup⟩))) := by
  have hscan : ¬ ReshapeRejects tup →
      reshapeLoop 0 (-1) tup = .ok ((tup.indexOf? (-1)).elim (-1) fun j => (j : Int)) := by
    intro h
    simp only [ReshapeRejects, not_or, not_exists, not_and, Int.not_lt, Nat.not_le] at h
    exact reshapeLoop_eq_ok 0 (-1) tup (by omega) h.1
      (by rw [show seen (-1) = 0 from rfl]; omega)
  have hok : ¬ ReshapeRejects tup → (∀ v ∈ tup, v < 2 ^ 31) → reshapeCpp tracing inp tup =
      .ok (if enableFastpath tracing inp then ⟨(tup.indexOf? (-1)).map (↑), tup, none⟩
        else ⟨(tup.indexOf? (-1)).map (↑), [], some tup⟩) := fun h hlt => by
    have h32 : ∀ v ∈ tup, Int32Range v := fun v hv => by
      have := hlt v hv
      simp only [ReshapeRejects, not_or, not_exists, not_and, Int.not_lt] at h
      have := h.1 v hv
      unfold Int32Range; omega
    simp only [reshapeCpp, hscan h, ok_bind, tuple2vector_eq h32, astensor1d_eq h32,
      unspecAxis_eq]
    cases enableFastpath tracing inp <;> rfl
  have hcast : ¬ ReshapeRejects tup → (∃ v ∈ tup, 2 ^ 31 ≤ v) →
      reshapeCpp tracing inp tup = .error .castError := fun h ⟨v, hv, hbig⟩ => by
    simp only [reshapeCpp, hscan h, ok_bind, error_bind,
      tuple2vector_eq_error ⟨v, hv, fun h32 => by unfold Int32Range at h32; omega⟩]
  refine ⟨⟨fun ⟨msg, hmsg⟩ => by_contra fun h => ?_, fun h => ?_⟩,
    fun h => ⟨⟨fun he => by_contra fun hne => ?_, hcast h⟩, hok h⟩⟩
  · by_cases hbig : ∃ v ∈ tup, 2 ^ 31 ≤ v
    · rw [hcast h hbig] at hmsg; cases hmsg
    · simp only [not_exists, not_and, Int.not_le] at hbig
      rw [hok h hbig] at hmsg; cases hmsg
  · obtain ⟨msg, hmsg⟩ := reshapeLoop_eq_error 0 (-1) tup (by omega) (by simpa [seen] using h)
    exact ⟨msg, by simp only [reshapeCpp, hmsg, error_bind]⟩
  · simp only [not_exists, not_and, Int.not_le] at hne
    rw [hok h hne] at he; cases he

theorem reshapeCpp_spec_unspecified_middle :
    [2, -1, 3].length ≤ 2 ^ 31 ∧
      (((∃ msg, reshapeCpp false (.tensor (some [6])) [2, -1, 3] = .error (.valueError msg)) ↔
          ReshapeRejects [2, -1, 3]) ∧
        (¬ ReshapeRejects [2, -1, 3] →
          (reshapeCpp false (.tensor (some [6])) [2, -1, 3] = .error .castError ↔
            ∃ v ∈ [2, -1, 3], 2 ^ 31 ≤ v) ∧
          ((∀ v ∈ [2, -1, 3], v < 2 ^ 31) → reshapeCpp false (.tensor (some [6])) [2, -1, 3] =
            .ok (if enableFastpath false (.tensor (some [6]))
              then ⟨([2, -1, 3].indexOf? (-1)).map (↑), [2, -1, 3], none⟩
              else ⟨([2, -1, 3].indexOf? (-1)).map (↑), [], some [2, -1, 3]⟩)))) :=
  ⟨by decide, reshapeCpp_spec false (.tensor (some [6])) [2, -1, 3] (by decide)⟩

/-- An entry that passes the scan but does not fit `int32_t` is refused by
`tuple2vector`, and no `Reshape` is built. -/
theorem reshapeCpp_entry_beyond_int32 :
    ¬ ReshapeRejects [2 ^ 31] ∧
      reshapeCpp false (.tensor (some [1])) [2 ^ 31] = .error .castError :=
  ⟨by decide, rfl⟩

end MegEngine.Imperative
