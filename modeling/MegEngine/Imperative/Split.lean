import MegEngine.Imperative.Object

/-!
`_split_cpp`: the length `n_total` of the split axis is read from the
operand's shape tuple, the rank and the axis go through `cast<int>()`, and
then either a list of split points is turned into partition lengths between
consecutive points of `[0] + points + [n_total]`, refused at the first
decreasing pair, or a section count goes through `cast<int>()` and is checked
against `n_total`. The partition lengths are the Python ints handed to
`_Const`, which makes an `Int32` tensor of each.

Split points and section counts are Python ints here; tensors among the
split points are not modelled.
-/

namespace MegEngine.Imperative

/-- `nsplits_or_sections`: a Python list of split points, or a section count. -/
inductive SplitArg
  | points (ps : List Int)
  | sections (c : Int)
  deriving DecidableEq, Repr

/-- The `Split` operator `_split_cpp` applies, with the partition lengths
passed after the operand. -/
structure SplitCall where
  axis : Int
  nsections : Int
  partitions : List Int
  deriving DecidableEq, Repr

/-- Python's `repr` of a list of ints. -/
def reprIntList (ps : List Int) : String :=
  "[" ++ ", ".intercalate (ps.map toString) ++ "]"

/-- Python's `shape[axis]` on a shape tuple. -/
def pyTupleIndex (s : List Nat) (a : Int) : Except PyError Nat :=
  if 0 ≤ a ∧ a < s.length then .ok (s.getD a.toNat 0)
  else if -(s.length : Int) ≤ a ∧ a < 0 then .ok (s.getD (s.length + a).toNat 0)
  else .error (.indexError "tuple index out of range")

/-- `_Const(pos, Int32, ...)` of a partition length. The conversion by
`npy::np2tensor` lies outside src/; as `astensor1d`, it is modelled as refusing
a value outside `int32_t`. The theorems bound the axis and the points so that
no length reaches that case. -/
def constInt32 (v : Int) : Except PyError Int :=
  if Int32Range v then .ok v else .error .opError

/-- The loop over consecutive entries of `div_points`: the partition lengths,
or the `ValueError` of the first decreasing pair. -/
def splitPartitions (msg : String) : List Int → Except PyError (List Int)
  | a :: b :: rest =>
    if b < a then .error (.valueError ("Invalid nsplits_or_secions: " ++ msg))
    else do
      let q ← constInt32 (b - a)
      (q :: ·) <$> splitPartitions msg (b :: rest)
  | _ => .ok []

/-- `_split_cpp` after the axis check, on an axis of length `nTotal`. -/
def splitByArg (nTotal : Nat) (axis : Int) : SplitArg → Except PyError SplitCall
  | .points ps => do
    let partitions ← splitPartitions (reprIntList ps) (0 :: ps ++ [(nTotal : Int)])
    .ok ⟨axis, 0, partitions⟩
  | .sections c => do
    let n ← castInt32 c
    if n ≤ 0 then .error (.valueError "Number sections must be larger than 0")
    else if (nTotal : Int) < n then
      .error (.valueError ("The size " ++ toString nTotal ++ " at dim " ++ toString axis ++
        " cannot be split into " ++ toString n ++ " sections"))
    else .ok ⟨axis, n, []⟩

/-- `_split_cpp` on an operand of shape `shape`. -/
def splitCpp (shape : List Nat) (arg : SplitArg) (axisHdl : Int) :
    Except PyError SplitCall := do
  let nTotal ← pyTupleIndex shape axisHdl
  let ndim ← castInt32 shape.length
  let axis ← castInt32 axisHdl
  if ndim ≤ axis then .error (.valueError ("Invalid axis " ++ toString axis))
  else splitByArg nTotal axis arg

/-- Split points `_split_cpp` accepts on an axis of length `n`:
`0 ≤ p_1 ≤ ... ≤ p_k ≤ n`. -/
def PointsOrdered (n : Nat) (ps : List Int) : Prop := List.Chain (· ≤ ·) 0 (ps ++ [(n : Int)])

instance (n : Nat) (ps : List Int) : Decidable (PointsOrdered n ps) :=
  inferInstanceAs (Decidable (List.Chain _ _ _))

/-! ## The axis -/

theorem pyTupleIndex_range {s : List Nat} {a : Int} {n : Nat} (h : pyTupleIndex s a = .ok n) :
    -(s.length : Int) ≤ a ∧ a < s.length := by
  unfold pyTupleIndex at h
  split_ifs at h with h1 h2
  · omega
  · omega

theorem splitCpp_eq {s : List Nat} {a : Int} {n : Nat} (hn : pyTupleIndex s a = .ok n)
    (hs : s.length < 2 ^ 31) (arg : SplitArg) : splitCpp s arg a = splitByArg n a arg := by
  have ha := pyTupleIndex_range hn
  simp only [splitCpp, hn, ok_bind, castInt32_eq_ok (show Int32Range s.length by
    unfold Int32Range; omega), castInt32_eq_ok (show Int32Range a by unfold Int32Range; omega),
    if_neg (show ¬ (s.length : Int) ≤ a by omega)]

/-! ## Split points -/

theorem constInt32_of_le {a b : Int} (ha : 0 ≤ a) (hab : a ≤ b) (hb : b < 2 ^ 31) :
    constInt32 (b - a) = .ok (b - a) :=
  if_pos (by unfold Int32Range; omega)

theorem splitPartitions_eq_ok (msg : String) : ∀ (a : Int) (rest : List Int), 0 ≤ a →
    (∀ x ∈ rest, x < 2 ^ 31) → List.Chain (· ≤ ·) a rest →
    ∃ qs, splitPartitions msg (a :: rest) = .ok qs ∧
      qs.length = rest.length ∧ (∀ q ∈ qs, 0 ≤ q) ∧
      ∀ i p, rest[i]? = some p → (qs.take (i + 1)).sum = p - a
  | a, [], _, _, _ => ⟨[], rfl, rfl, by simp, by simp⟩
  | a, b :: rest, ha, hlt, h => by
    rw [List.chain_cons] at h
    rw [List.forall_mem_cons] at hlt
    obtain ⟨qs, hqs, hlen, hpos, hsum⟩ :=
      splitPartitions_eq_ok msg b rest (by omega) hlt.2 h.2
    refine ⟨(b - a) :: qs, ?_, by simp [hlen], ?_, ?_⟩
    · rw [splitPartitions, if_neg (by omega), constInt32_of_le ha h.1 hlt.1, ok_bind, hqs]; rfl
    · simp only [List.mem_cons, forall_eq_or_imp]
      exact ⟨by omega, hpos⟩
    · rintro (_ | i) p hp
      · simp only [List.getElem?_cons_zero, Option.some.injEq] at hp
        subst hp; simp
      · simp only [List.getElem?_cons_succ] at hp
        simp only [List.take_succ_cons, List.sum_cons, hsum i p hp]
        omega

theorem splitPartitions_eq_error (msg : String) : ∀ (a : Int) (rest : List Int), 0 ≤ a →
    (∀ x ∈ rest, x < 2 ^ 31) → ¬ List.Chain (· ≤ ·) a rest →
      splitPartitions msg (a :: rest) = .error (.valueError ("Invalid nsplits_or_secions: " ++ msg))
  | a, [], _, _, h => absurd List.Chain.nil h
  | a, b :: rest, ha, hlt, h => by
    rw [List.chain_cons, not_and_or] at h
    rw [List.forall_mem_cons] at hlt
    rw [splitPartitions]
    by_cases hba : b < a
    · exact if_pos hba
    · rw [if_neg hba, constInt32_of_le ha (by omega) hlt.1, ok_bind,
        splitPartitions_eq_error msg b rest (by omega) hlt.2 (h.resolve_left (by omega))]
      rfl

/-! ## The whole call -/

theorem lt_of_mem_points {n : Nat} {ps : List Int} (hn : n < 2 ^ 31)
    (hps : ∀ p ∈ ps, p < 2 ^ 31) : ∀ x ∈ ps ++ [(n : Int)], x < 2 ^ 31 :=
  List.forall_mem_append.mpr ⟨hps, List.forall_mem_singleton.mpr (by omega)⟩

theorem splitByArg_points_ok {n : Nat} {ps : List Int} (a : Int) (hn : n < 2 ^ 31)
    (hps : ∀ p ∈ ps, p < 2 ^ 31) (h : PointsOrdered n ps) :
    ∃ qs, splitByArg n a (.points ps) = .ok ⟨a, 0, qs⟩ ∧
      qs.length = ps.length + 1 ∧ (∀ q ∈ qs, 0 ≤ q) ∧
      (∀ i p, ps[i]? = some p → (qs.take (i + 1)).sum = p) ∧ qs.sum = n := by
  obtain ⟨qs, hqs, hlen, hpos, hsum⟩ :=
    splitPartitions_eq_ok (reprIntList ps) 0 _ le_rfl (lt_of_mem_points hn hps) h
  refine ⟨qs, by rw [splitByArg, List.cons_append, hqs]; rfl, by simpa using hlen, hpos,
    fun i p hp => ?_, ?_⟩
  · have hi : i < ps.length := (List.getElem?_eq_some_iff.mp hp).1
    simpa using hsum i p (by rw [List.getElem?_append_left hi, hp])
  · have := hsum ps.length n (by simp)
    rwa [List.take_of_length_le (by simp [hlen]), Int.sub_zero] at this

theorem splitByArg_points_error {n : Nat} {ps : List Int} (a : Int) (hn : n < 2 ^ 31)
    (hps : ∀ p ∈ ps, p < 2 ^ 31) (h : ¬ PointsOrdered n ps) :
    splitByArg n a (.points ps) =
      .error (.valueError ("Invalid nsplits_or_secions: " ++ reprIntList ps)) := by
  rw [splitByArg, List.cons_append,
    splitPartitions_eq_error _ 0 _ le_rfl (lt_of_mem_points hn hps) h]
  rfl

theorem splitByArg_sections {n : Nat} {c : Int} (a : Int) (hc : Int32Range c) :
    ((∃ msg, splitByArg n a (.sections c) = .error (.valueError msg)) ↔ c ≤ 0 ∨ (n : Int) < c) ∧
      (¬ (c ≤ 0 ∨ (n : Int) < c) → splitByArg n a (.sections c) = .ok ⟨a, c, []⟩) := by
  simp only [splitByArg, castInt32_eq_ok hc, ok_bind]
  by_cases h0 : c ≤ 0
  · simp [h0]
  · by_cases hn : (n : Int) < c
    · simp [h0, hn]
    · simp [h0, hn]

/-- On an axis of length `n < 2 ^ 31` of an operand of rank below `2 ^ 31`,
`_split_cpp` raises a `ValueError` on split points below `2 ^ 31` exactly when
they are not `0 ≤ p_1 ≤ ... ≤ p_k ≤ n`, and otherwise builds `Split(axis, 0)`
with `k + 1` non-negative partition lengths, each within the `Int32` tensor
`_Const` makes of it, whose prefix sums are the points and whose total is `n`.
On a section count `c` that fits `int`, it raises a `ValueError` exactly when
`c ≤ 0` or `c > n`, and otherwise builds `Split(axis, c)`. -/
theorem splitCpp_spec (s : List Nat) (hs : s.length < 2 ^ 31) (a : Int) (n : Nat)
    (hn : pyTupleIndex s a = .ok n) (hn32 : n < 2 ^ 31) :
    (∀ ps : List Int, (∀ p ∈ ps, p < 2 ^ 31) →
      ((∃ msg, splitCpp s (.points ps) a = .error (.valueError msg)) ↔ ¬ PointsOrdered n ps) ∧
      (PointsOrdered n ps → ∃ qs, splitCpp s (.points ps) a = .ok ⟨a, 0, qs⟩ ∧
        qs.length = ps.length + 1 ∧ (∀ q ∈ qs, 0 ≤ q) ∧
        (∀ i p, ps[i]? = some p → (qs.take (i + 1)).sum = p) ∧ qs.sum = n)) ∧
    ∀ c : Int, Int32Range c →
      ((∃ msg, splitCpp s (.sections c) a = .error (.valueError msg)) ↔ c ≤ 0 ∨ (n : Int) < c) ∧
      (¬ (c ≤ 0 ∨ (n : Int) < c) → splitCpp s (.sections c) a = .ok ⟨a, c, []⟩) := by
  simp only [splitCpp_eq hn hs]
  refine ⟨fun ps hps => ⟨⟨fun ⟨msg, hmsg⟩ hord => ?_,
    fun h => ⟨_, splitByArg_points_error a hn32 hps h⟩⟩, splitByArg_points_ok a hn32 hps⟩,
    fun c hc => splitByArg_sections a hc⟩
  obtain ⟨qs, hqs, -⟩ := splitByArg_points_ok a hn32 hps hord
  rw [hqs] at hmsg
  cases hmsg

theorem splitCpp_spec_axis_of_ten :
    [10].length < 2 ^ 31 ∧ pyTupleIndex [10] 0 = .ok 10 ∧ 10 < 2 ^ 31 ∧
      (∀ ps : List Int, (∀ p ∈ ps, p < 2 ^ 31) →
        ((∃ msg, splitCpp [10] (.points ps) 0 = .error (.valueError msg)) ↔
          ¬ PointsOrdered 10 ps) ∧
        (PointsOrdered 10 ps → ∃ qs, splitCpp [10] (.points ps) 0 = .ok ⟨0, 0, qs⟩ ∧
          qs.length = ps.length + 1 ∧ (∀ q ∈ qs, 0 ≤ q) ∧
          (∀ i p, ps[i]? = some p → (qs.take (i + 1)).sum = p) ∧ qs.sum = (10 : Nat))) ∧
      ∀ c : Int, Int32Range c →
        ((∃ msg, splitCpp [10] (.sections c) 0 = .error (.valueError msg)) ↔
          c ≤ 0 ∨ ((10 : Nat) : Int) < c) ∧
        (¬ (c ≤ 0 ∨ ((10 : Nat) : Int) < c) → splitCpp [10] (.sections c) 0 = .ok ⟨0, c, []⟩) :=
  ⟨by decide, rfl, by decide, splitCpp_spec [10] (by decide) 0 10 rfl (by decide)⟩

/-- A non-positive section count that does not fit `int` is refused by
`cast<int>()` with a cast error, not a `ValueError`. -/
theorem splitCpp_sections_beyond_int32 :
    (-2 ^ 31 - 1 : Int) ≤ 0 ∧
      splitCpp [10] (.sections (-2 ^ 31 - 1)) 0 = .error .castError :=
  ⟨by decide, rfl⟩

end MegEngine.Imperative
