import MegEngine.Imperative.AxisList

/-!
`_expand_dims_cpp` and `_squeeze_cpp`: an axis argument is read by
`list2vector` into `int32_t`s, negative entries are resolved against the rank,
the list is sorted, and `_squeeze_cpp` shifts each entry down by its position
before the list reaches `RemoveAxis`. `_squeeze_cpp` keeps the rank in a local
`size_t ndim` that it does not initialise when the operand's shape is unknown;
that slot is the parameter `ndimSlot` here. Within the ranks where the `int32_t`
arithmetic is exact, both operators act on exactly the designated axes.
-/

namespace MegEngine.Imperative

/-- An axis argument: a Python int or a sequence of ints. -/
inductive AxisArg
  | int (v : Int)
  | seq (vs : List Int)
  deriving DecidableEq, Repr

/-- The ints of an axis argument, in order. -/
def AxisArg.entries : AxisArg → List Int
  | .int v => [v]
  | .seq vs => vs

/-- `list2vector`: every entry through `__int__` and `cast<int32_t>()`. -/
def list2vector : AxisArg → Except PyError (List Int)
  | .seq vs => vs.mapM castInt32
  | .int v => (fun a => [a]) <$> castInt32 v

/-- `_expand_dims_cpp`: the axis list of the `AddAxis` operator it applies. -/
def expandDimsCpp (inp : Handle) (axisArg : AxisArg) : Except PyError (List Int) := do
  let axis ← list2vector axisArg
  let ndim := axis.length + (inp.shape.map List.length).getD 0
  let axis ← axis.mapM fun a =>
    if a < 0 then
      if inp.shape.isNone then
        .error (.indexError "Does not support negative index when tensor's ndim is unknown")
      else .ok (toInt32 (a + toInt32 ndim))
    else .ok a
  if axis.isEmpty then .error (.indexError "axis could not be empty")
  else .ok (sortAxes axis)

/-- The positions of the size-1 axes, pushed into an `int32_t` list. -/
def onesAxes (s : List Nat) : List Int :=
  ((List.range s.length).filter fun i => s[i]? == some 1).map fun i : Nat => toInt32 (i : Int)

/-- `_squeeze_cpp`: the axis list of the `RemoveAxis` operator it applies.
`ndimSlot` is what the uninitialised `ndim` holds when the shape is unknown. -/
def squeezeCpp (ndimSlot : Nat) (inp : Handle) (axisArg : Option AxisArg) :
    Except PyError (List Int) := do
  let axis ← match axisArg with
    | some a => list2vector a
    | none => .ok []
  let (ndim, axis) := match inp.shape with
    | some s => (s.length, if axisArg.isNone then axis ++ onesAxes s else axis)
    | none => (ndimSlot, axis)
  let axis := axis.map fun a => if a < 0 then toInt32 (a + toInt32 ndim) else a
  .ok (subIndex 0 (sortAxes axis))

/-! ## The axes an argument designates -/

/-- An axis entry resolved against rank `r`: a negative entry counts from the end. -/
def normAxis (r : Nat) (e : Int) : Int := if e < 0 then e + r else e

/-- The axes `squeeze` designates: the listed ones, or every axis of size 1. -/
def squeezeDesignated (s : List Nat) : Option AxisArg → Nat → Bool
  | none => fun n => s[n]? == some 1
  | some a => designates (a.entries.map (normAxis s.length))

/-- An axis argument of entries in `[-r, r)` that are distinct once resolved. -/
def AxesValid (r : Nat) (a : AxisArg) : Prop :=
  (∀ e ∈ a.entries, -(r : Int) ≤ e ∧ e < r) ∧ (a.entries.map (normAxis r)).Nodup

instance (r : Nat) (a : AxisArg) : Decidable (AxesValid r a) :=
  inferInstanceAs (Decidable (_ ∧ _))

theorem list2vector_eq {a : AxisArg} (h : ∀ e ∈ a.entries, Int32Range e) :
    list2vector a = .ok a.entries := by
  cases a with
  | int v => simp [list2vector, AxisArg.entries, castInt32_eq_ok (h v (by simp [AxisArg.entries]))]
  | seq vs => exact tuple2vector_eq h

theorem toInt32_resolve {e : Int} {n : Nat} (he : -(n : Int) ≤ e) (hneg : e < 0)
    (hn : n ≤ 2 ^ 31) : toInt32 (e + toInt32 n) = e + n := by
  unfold toInt32; omega

theorem resolve_eq_normAxis {r : Nat} (hr : r ≤ 2 ^ 31) (l : List Int)
    (hl : ∀ e ∈ l, -(r : Int) ≤ e ∧ e < r) :
    l.map (fun a => if a < 0 then toInt32 (a + toInt32 r) else a) = l.map (normAxis r) :=
  List.map_congr_left fun e he => by
    unfold normAxis
    split_ifs with h
    · exact toInt32_resolve (hl e he).1 h hr
    · rfl

theorem mem_normAxis {r : Nat} {l : List Int} (hl : ∀ e ∈ l, -(r : Int) ≤ e ∧ e < r) :
    ∀ a ∈ l.map (normAxis r), 0 ≤ a ∧ a < r := by
  intro a ha
  obtain ⟨e, he, rfl⟩ := List.mem_map.mp ha
  have := hl e he
  unfold normAxis; split_ifs <;> omega

theorem mem_onesAxes {s : List Nat} (hr : s.length ≤ 2 ^ 31) (a : Int) :
    a ∈ onesAxes s ↔ ∃ i < s.length, s[i]? = some 1 ∧ (i : Int) = a := by
  unfold onesAxes
  rw [List.mem_map]
  constructor
  · rintro ⟨i, hi, rfl⟩
    rw [List.mem_filter, List.mem_range, beq_iff_eq] at hi
    exact ⟨i, hi.1, hi.2, (toInt32_of_range (by unfold Int32Range; omega)).symm⟩
  · rintro ⟨i, hi, h1, rfl⟩
    exact ⟨i, List.mem_filter.mpr ⟨List.mem_range.mpr hi, by simpa using h1⟩,
      toInt32_of_range (by unfold Int32Range; omega)⟩

theorem onesAxes_nodup (s : List Nat) (hr : s.length ≤ 2 ^ 31) : (onesAxes s).Nodup := by
  refine List.Nodup.map_on (fun i hi j hj h => ?_) ((List.nodup_range _).filter _)
  simp only [List.mem_filter, List.mem_range] at hi hj
  rw [toInt32_of_range (by unfold Int32Range; omega),
    toInt32_of_range (by unfold Int32Range; omega)] at h
  exact_mod_cast h

/-! ## Operands of unknown shape -/

theorem expandDimsCpp_unknown_negative {inp : Handle} (hs : inp.shape = none) (a : AxisArg)
    (h32 : ∀ e ∈ a.entries, Int32Range e) (hneg : ∃ e ∈ a.entries, e < 0) :
    expandDimsCpp inp a =
      .error (.indexError "Does not support negative index when tensor's ndim is unknown") := by
  simp only [expandDimsCpp, list2vector_eq h32, ok_bind, hs, Option.isNone_none, if_true]
  obtain ⟨e, he, hlt⟩ := hneg
  rw [mapM_eq_error (fun b _ => by split_ifs <;> simp) ⟨e, he, if_pos hlt⟩]
  rfl

theorem squeezeCpp_unknown_shape (ndimSlot : Nat) {inp : Handle} (hs : inp.shape = none)
    (a : AxisArg) (h32 : ∀ e ∈ a.entries, Int32Range e) :
    squeezeCpp ndimSlot inp (some a) = .ok (subIndex 0 (sortAxes
      (a.entries.map fun e => if e < 0 then toInt32 (e + toInt32 ndimSlot) else e))) := by
  simp only [squeezeCpp, list2vector_eq h32, ok_bind, hs]

/-- On a graph variable of unknown shape, `expand_dims(x, -1)` raises while
`squeeze(x, -1)` builds a `RemoveAxis` whose axis depends on the uninitialised
`ndim`. -/
theorem squeezeCpp_negative_axis_unknown_rank :
    expandDimsCpp (.symbolVar none) (.int (-1)) =
        .error (.indexError "Does not support negative index when tensor's ndim is unknown") ∧
      ∀ ndimSlot, squeezeCpp ndimSlot (.symbolVar none) (some (.int (-1))) =
        .ok [toInt32 (-1 + toInt32 ndimSlot)] := by
  have h32 : ∀ e ∈ (AxisArg.int (-1)).entries, Int32Range e := by decide
  refine ⟨@expandDimsCpp_unknown_negative (.symbolVar none) rfl _ h32 ⟨-1, by decide, by decide⟩,
    fun n => ?_⟩
  rw [@squeezeCpp_unknown_shape n (.symbolVar none) rfl _ h32]
  simp [AxisArg.entries, sortAxes, subIndex, show toInt32 0 = 0 by decide]

/-! ## `_squeeze_cpp` -/

theorem squeezeCpp_eq (ndimSlot : Nat) {inp : Handle} {s : List Nat} (hs : inp.shape = some s)
    (hr : s.length ≤ 2 ^ 31) (axisArg : Option AxisArg)
    (hvalid : ∀ a, axisArg = some a → AxesValid s.length a) :
    squeezeCpp ndimSlot inp axisArg = .ok (subIndex 0 (sortAxes (match axisArg with
      | some a => a.entries.map (normAxis s.length)
      | none => onesAxes s))) := by
  cases axisArg with
  | none =>
    have hpos : ∀ a ∈ onesAxes s, ¬ a < 0 := fun a ha => by
      obtain ⟨i, -, -, rfl⟩ := (mem_onesAxes hr a).mp ha; omega
    simp only [squeezeCpp, hs, Option.isNone_none, if_true, List.nil_append, ok_bind]
    rw [List.map_congr_left fun a ha => if_neg (hpos a ha), List.map_id']
  | some a =>
    obtain ⟨hrange, -⟩ := hvalid a rfl
    have hl : list2vector a = .ok a.entries :=
      list2vector_eq fun e he => by have := hrange e he; unfold Int32Range; omega
    simp only [squeezeCpp, hl, hs, Option.isNone_some, ok_bind, Bool.false_eq_true, if_false]
    rw [resolve_eq_normAxis hr _ hrange]

/-- The `RemoveAxis` list of `_squeeze_cpp`, removed entry by entry, deletes
exactly the designated axes and keeps every other axis in order. The rank
bound holds of every `TensorShape` (at most `MAX_NDIM = 7` axes). -/
theorem squeezeCpp_removes_designated (ndimSlot : Nat) (inp : Handle) (s : List Nat)
    (hs : inp.shape = some s) (hr : s.length ≤ 2 ^ 31) (axisArg : Option AxisArg)
    (hvalid : ∀ a, axisArg = some a → AxesValid s.length a) :
    ∃ axes, squeezeCpp ndimSlot inp axisArg = .ok axes ∧
      removeAxes s axes = some (keepAxes (squeezeDesignated s axisArg) s) := by
  refine ⟨_, squeezeCpp_eq ndimSlot hs hr axisArg hvalid, ?_⟩
  cases axisArg with
  | none =>
    rw [removeAxes_squeezeList s _ (onesAxes_nodup s hr) (fun a ha => by
      obtain ⟨i, hi, -, rfl⟩ := (mem_onesAxes hr a).mp ha; omega) hr]
    refine congrArg some (keepAxes_congr _ fun n => ?_)
    simp only [designates, squeezeDesignated, mem_onesAxes hr]
    rw [Bool.eq_iff_iff, decide_eq_true_iff, beq_iff_eq]
    constructor
    · rintro ⟨i, -, h1, hi⟩
      rwa [show i = n by exact_mod_cast hi] at h1
    · intro h1
      exact ⟨n, (List.getElem?_eq_some_iff.mp h1).1, h1, rfl⟩
  | some a =>
    obtain ⟨hrange, hnodup⟩ := hvalid a rfl
    exact removeAxes_squeezeList s _ hnodup (mem_normAxis hrange) hr

theorem squeezeCpp_removes_designated_middle :
    AxesValid 3 (.seq [-2]) ∧ ∃ axes, squeezeCpp 0 (.tensor (some [2, 1, 3])) (some (.seq [-2])) =
      .ok axes ∧ removeAxes [2, 1, 3] axes =
        some (keepAxes (squeezeDesignated [2, 1, 3] (some (.seq [-2]))) [2, 1, 3]) :=
  ⟨by decide, squeezeCpp_removes_designated 0 (.tensor (some [2, 1, 3])) [2, 1, 3] rfl (by decide)
    (some (.seq [-2])) (by rintro a ⟨⟩; decide)⟩

/-! ## `_expand_dims_cpp` -/

theorem expandDimsCpp_eq {inp : Handle} {s : List Nat} (hs : inp.shape = some s) (a : AxisArg)
    (hne : a.entries ≠ []) (hr : s.length + a.entries.length ≤ 2 ^ 31)
    (hrange : ∀ e ∈ a.entries, -((s.length + a.entries.length : Nat) : Int) ≤ e ∧
      e < (s.length + a.entries.length : Nat)) :
    expandDimsCpp inp a = .ok (sortAxes (a.entries.map (normAxis (s.length + a.entries.length)))) := by
  have h32 : ∀ e ∈ a.entries, Int32Range e := fun e he => by
    have := hrange e he; unfold Int32Range; omega
  have hne' : (a.entries.map (normAxis (s.length + a.entries.length))).isEmpty = false := by
    cases h : a.entries
    · exact absurd h hne
    · rfl
  simp only [expandDimsCpp, list2vector_eq h32, ok_bind, hs, Option.isNone_some, Option.map_some',
    Option.getD_some, Bool.false_eq_true, if_false]
  rw [mapM_eq_ok (normAxis (s.length + a.entries.length)) fun e he => ?_, ok_bind, hne']
  · rfl
  · have := hrange e he
    unfold normAxis
    split_ifs with h
    · rw [Nat.add_comm, toInt32_resolve this.1 h (by omega)]
    · rfl

/-- `squeeze` undoes `expand_dims` with the same axis argument: for every
operand of known shape `s` and every axis argument that `expand_dims` accepts
within ranks up to `2 ^ 31`, squeezing any operand of the resulting shape at
the same axis argument gives back `s`. -/
theorem squeezeCpp_after_expandDimsCpp (ndimSlot : Nat) (inp : Handle) (s : List Nat)
    (hs : inp.shape = some s) (a : AxisArg) (hne : a.entries ≠ [])
    (hr : s.length + a.entries.length ≤ 2 ^ 31)
    (hvalid : AxesValid (s.length + a.entries.length) a) :
    ∃ axes t, expandDimsCpp inp a = .ok axes ∧ addAxes s axes = some t ∧
      ∀ out : Handle, out.shape = some t →
        ∃ axes', squeezeCpp ndimSlot out (some a) = .ok axes' ∧ removeAxes t axes' = some s := by
  obtain ⟨hrange, hnodup⟩ := hvalid
  have hbound := mem_normAxis hrange
  obtain ⟨t, ht, hlen, -, hkeep⟩ := addAxes_sortAxes s _ hnodup (by simpa using hbound)
  rw [List.length_map] at hlen
  refine ⟨_, t, expandDimsCpp_eq hs a hne hr hrange, ht, fun out hout => ?_⟩
  refine ⟨_, squeezeCpp_eq ndimSlot hout (by omega) (some a)
    (fun b hb => by cases hb; rw [hlen]; exact ⟨hrange, hnodup⟩), ?_⟩
  simp only [hlen]
  rw [removeAxes_squeezeList t _ hnodup (by rwa [hlen]) (by omega), hkeep]

theorem squeezeCpp_after_expandDimsCpp_front :
    (.tensor (some [5, 6]) : Handle).shape = some [5, 6] ∧ (AxisArg.seq [0, -1]).entries ≠ [] ∧
      [5, 6].length + (AxisArg.seq [0, -1]).entries.length ≤ 2 ^ 31 ∧
      AxesValid ([5, 6].length + (AxisArg.seq [0, -1]).entries.length) (.seq [0, -1]) ∧
      ∃ axes t, expandDimsCpp (.tensor (some [5, 6])) (.seq [0, -1]) = .ok axes ∧
        addAxes [5, 6] axes = some t ∧ ∀ out : Handle, out.shape = some t →
          ∃ axes', squeezeCpp 0 out (some (.seq [0, -1])) = .ok axes' ∧
            removeAxes t axes' = some [5, 6] :=
  ⟨rfl, by decide, by decide, by decide, squeezeCpp_after_expandDimsCpp 0 (.tensor (some [5, 6]))
    [5, 6] rfl (.seq [0, -1]) (by decide) (by decide) (by decide)⟩

/-- `expand_dims` undoes `squeeze` with the same axis argument: for every
operand of known shape `s` and every axis argument `squeeze` accepts, when the
squeezed axes have size 1 (which `RemoveAxis` asks), expanding any operand of
the squeezed shape at the same non-empty axis argument gives back `s`. With an
empty axis list `squeeze` keeps the shape and `expand_dims` raises. -/
theorem expandDimsCpp_after_squeezeCpp (ndimSlot : Nat) (inp : Handle) (s : List Nat)
    (hs : inp.shape = some s) (hr : s.length ≤ 2 ^ 31) (a : AxisArg)
    (hvalid : AxesValid s.length a)
    (hones : ∀ n, squeezeDesignated s (some a) n = true → s[n]? = some 1) :
    ∃ axes r, squeezeCpp ndimSlot inp (some a) = .ok axes ∧ removeAxes s axes = some r ∧
      ∀ out : Handle, out.shape = some r →
        (a.entries ≠ [] → ∃ axes', expandDimsCpp out a = .ok axes' ∧ addAxes r axes' = some s) ∧
        (a.entries = [] → r = s ∧
          expandDimsCpp out a = .error (.indexError "axis could not be empty")) := by
  obtain ⟨hrange, hnodup⟩ := hvalid
  have hbound := mem_normAxis hrange
  have hrem := removeAxes_squeezeList s _ hnodup hbound hr
  refine ⟨_, _, squeezeCpp_eq ndimSlot hs hr (some a)
    (fun b hb => by cases hb; exact ⟨hrange, hnodup⟩), hrem, fun out hout => ⟨fun hne => ?_, ?_⟩⟩
  · have hrlen := removeAxes_length hrem
    simp only [length_subIndex, length_sortAxes, List.length_map] at hrlen
    obtain ⟨t, ht, -, hones', hkeep⟩ :=
      addAxes_sortAxes (keepAxes (designates (a.entries.map (normAxis s.length))) s) _ hnodup
        fun x hx => by have := hbound x hx; rw [List.length_map]; omega
    refine ⟨_, expandDimsCpp_eq hout a hne (by omega) (by rwa [hrlen]), ?_⟩
    rw [hrlen, ht, keepAxes_ext hkeep fun n hn => ?_]
    have hn' : (n : Int) ∈ a.entries.map (normAxis s.length) := by simpa [designates] using hn
    rw [hones n hn, ← hones' _ hn', Int.toNat_natCast]
  · cases a with
    | int v => intro h; cases h
    | seq vs =>
      rintro (rfl : vs = [])
      exact ⟨by rw [AxisArg.entries, List.map_nil, designates_nil, keepAxes_none], rfl⟩

theorem expandDimsCpp_after_squeezeCpp_middle :
    (.tensor (some [2, 1, 3]) : Handle).shape = some [2, 1, 3] ∧ [2, 1, 3].length ≤ 2 ^ 31 ∧
      AxesValid [2, 1, 3].length (.seq [-2]) ∧
      (∀ n, squeezeDesignated [2, 1, 3] (some (.seq [-2])) n = true → [2, 1, 3][n]? = some 1) ∧
      ∃ axes r, squeezeCpp 0 (.tensor (some [2, 1, 3])) (some (.seq [-2])) = .ok axes ∧
        removeAxes [2, 1, 3] axes = some r ∧ ∀ out : Handle, out.shape = some r →
          ((AxisArg.seq [-2]).entries ≠ [] → ∃ axes', expandDimsCpp out (.seq [-2]) = .ok axes' ∧
            addAxes r axes' = some [2, 1, 3]) ∧
          ((AxisArg.seq [-2]).entries = [] → r = [2, 1, 3] ∧
            expandDimsCpp out (.seq [-2]) = .error (.indexError "axis could not be empty")) := by
  have hones : ∀ n, squeezeDesignated [2, 1, 3] (some (.seq [-2])) n = true →
      [2, 1, 3][n]? = some 1 := fun n hn => by
    obtain rfl : n = 1 := by simpa [squeezeDesignated, designates, AxisArg.entries, normAxis] using hn
    rfl
  exact ⟨rfl, by decide, by decide, hones, expandDimsCpp_after_squeezeCpp 0
    (.tensor (some [2, 1, 3])) [2, 1, 3] rfl (by decide) (.seq [-2]) (by decide) hones⟩

end MegEngine.Imperative
