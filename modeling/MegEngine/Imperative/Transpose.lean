import MegEngine.Imperative.UnpackIndexes

/-!
`_transpose_cpp`, with `_expand_args` and `fast_ndim`: the pattern of the
`Dimshuffle` operator `transpose` applies. The positional arguments go
through `_expand_args` (a lone sequence or tensor stands for its items, and
several arguments for themselves); the list read from them is the items of a
sequence, the characters of a string, or a tensor's `numpy().tolist()` when
that is a list. A scalar operand accepts no pattern and is copied. Otherwise
an empty list means the reversed axes, and a non-empty one is read entry by
entry: an int through `cast<int32_t>()`, `-1` (a new axis) for the string
`"x"`, nothing for any other string, and a cast error for anything else.

`Dimshuffle` lies outside src/; `dimshuffleShape` is the shape it gives for a
pattern that names axes of the operand and new axes.
-/

namespace MegEngine.Imperative

/-- A Python object as `_transpose_cpp` reads it, as a positional argument or
as an entry of the list it reads the pattern from. A list, a tuple or a numpy
array is a `seq` of its items; a tensor or graph variable carries its
`numpy().tolist()`, which is not a list (`none`) for a 0-d value. -/
inductive PatternItem
  /-- An object that passes `PyLong_Check`: a Python int or bool. -/
  | int (v : Int)
  | str (s : String)
  | seq (items : List PatternItem)
  | tensor (tolist : Option (List PatternItem))
  /-- Anything else: a float or a numpy scalar. -/
  | other
  deriving Repr

/-- A positional argument of `transpose`. -/
abbrev TransposeArg := PatternItem

/-- `PySequence_Check(arg) || is_tensor_or_symbolvar(arg)`. -/
def PatternItem.isSeqOrTensor : PatternItem → Bool
  | .str _ | .seq _ | .tensor _ => true
  | .int _ | .other => false

/-- `_expand_args` on the tuple of positional arguments: the only argument
when it is a sequence (strings included) or a tensor, else the list of the
arguments. -/
def expandArgs : List TransposeArg → TransposeArg
  | [a] => if a.isSeqOrTensor then a else .seq [a]
  | args => .seq args

/-- The list `lis` of `_transpose_cpp`: `list(obj)` of a sequence that is not a
tensor, else `numpy().tolist()` when that is a list and nothing otherwise. An
int or another object has no `numpy`. -/
def transposeList : TransposeArg → Except PyError (List PatternItem)
  | .seq items => .ok items
  | .str s => .ok (s.toList.map fun c => .str (String.singleton c))
  | .tensor (some items) => .ok items
  | .tensor none => .ok []
  | .int _ | .other => .error .opError

/-- `fast_ndim`: the rank of an eager tensor's shape, else `ndim` through
`cast<size_t>()`. An eager tensor whose shape cannot be read is not modelled
beyond its failure. -/
def fastNdim : Handle → Except PyError Nat
  | .tensor (some s) => .ok s.length
  | .tensor none => .error .opError
  | .symbolVar shape => match ndimOf shape with
    | some n => .ok n
    | none => .error .castError

/-- The pattern entries of one item: an int through `cast<int32_t>()`, `-1` for
the string `"x"`, none for any other string; anything else fails
`cast<std::string>()`. -/
def patternEntry : PatternItem → Except PyError (List Int)
  | .int v => (fun p => [p]) <$> castInt32 v
  | .str s => .ok (if s = "x" then [-1] else [])
  | .seq _ | .tensor _ | .other => .error .castError

/-- The loop over `lis` that builds the pattern. -/
def patternLoop : List PatternItem → Except PyError (List Int)
  | [] => .ok []
  | i :: is => do
    let p ← patternEntry i
    let ps ← patternLoop is
    .ok (p ++ ps)

/-- The pattern of an empty list: `ndim - i - 1` for `i < ndim`, computed in
`size_t` and pushed into an `int32_t` vector. -/
def reversedAxes (ndim : Nat) : List Int :=
  (List.range ndim).map fun i => toInt32 (ndim - i - 1 : Nat)

/-- What `_transpose_cpp` returns the result of: `to(device)` of a scalar, or
`Dimshuffle` with a pattern. -/
inductive TransposeCall
  | copy
  | dimshuffle (pattern : List Int)
  deriving DecidableEq, Repr

/-- `_transpose_cpp(inp, args)`. -/
def transposeCpp (inp : Handle) (args : List TransposeArg) : Except PyError TransposeCall := do
  let lis ← transposeList (expandArgs args)
  let n ← fastNdim inp
  if n = 0 then
    if lis.length ≠ 0 then .error (.indexError "transpose for scalar does not accept additional args")
    else .ok .copy
  else if lis.isEmpty then
    match ndimOf inp.shape with
    | some ndim => .ok (.dimshuffle (reversedAxes ndim))
    | none => .error .castError
  else .dimshuffle <$> patternLoop lis

/-- The shape `Dimshuffle` gives for a pattern whose entries name axes of `s`
or are `-1` for a new axis of size 1; `none` when an entry names no axis. -/
def dimshuffleShape (s : List Nat) (pattern : List Int) : Option (List Nat) :=
  pattern.mapM fun p => if p = -1 then some 1 else if 0 ≤ p then s[p.toNat]? else none

/-- The pattern that undoes a permutation `p` of the axes: for each axis, its
position in `p`. -/
def inversePattern (p : List Nat) : List Nat := (List.range p.length).map p.indexOf

/-! ## The pattern loop -/

theorem patternLoop_drop_str {s : String} (hs : s ≠ "x") :
    ∀ pre post : List PatternItem, patternLoop (pre ++ .str s :: post) = patternLoop (pre ++ post)
  | [], post => by
    simp only [List.nil_append, patternLoop, patternEntry, if_neg hs, ok_bind, List.nil_append]
    cases patternLoop post <;> rfl
  | i :: pre, post => by rw [List.cons_append, List.cons_append, patternLoop, patternLoop,
      patternLoop_drop_str hs pre post]

theorem patternLoop_ints {l : List Int} (h : ∀ v ∈ l, Int32Range v) :
    patternLoop (l.map .int) = .ok l := by
  induction l with
  | nil => rfl
  | cons v l ih =>
    simp only [List.map_cons, patternLoop, patternEntry,
      castInt32_eq_ok (h v (List.mem_cons_self _ _)), ok_map, ok_bind,
      ih fun w hw => h w (List.mem_cons_of_mem _ hw)]
    rfl

/-! ## `Dimshuffle` on the shape -/

theorem dimshuffleShape_axes (s : List Nat) : ∀ p : List Nat, (∀ i ∈ p, i < s.length) →
    dimshuffleShape s (p.map (↑)) = some (p.map fun i => s.getD i 0)
  | [], _ => rfl
  | i :: p, h => by
    have hi := h i (List.mem_cons_self _ _)
    have hrest := dimshuffleShape_axes s p fun j hj => h j (List.mem_cons_of_mem _ hj)
    simp only [dimshuffleShape, List.map_cons, List.mapM_cons] at hrest ⊢
    rw [hrest, if_neg (by omega), if_pos (by omega), Int.toNat_natCast,
      List.getElem?_eq_getElem hi, List.getD_eq_getElem _ _ hi]
    rfl

theorem range_map_getD (s : List Nat) : (List.range s.length).map (fun i => s.getD i 0) = s :=
  List.ext_getElem (by simp) fun i _ h => by simp [List.getElem?_eq_getElem h]

theorem dimshuffleShape_perm {s p : List Nat} (hp : p.Perm (List.range s.length)) :
    dimshuffleShape s (p.map (↑)) = some (p.map fun i => s.getD i 0) ∧
      (p.map fun i => s.getD i 0).Perm s := by
  refine ⟨dimshuffleShape_axes s p fun i hi => List.mem_range.mp (hp.subset hi), ?_⟩
  simpa only [range_map_getD] using hp.map fun i => s.getD i 0

theorem dimshuffleShape_reversed (s : List Nat) :
    dimshuffleShape s ((List.range s.length).reverse.map (↑)) = some s.reverse := by
  rw [(dimshuffleShape_perm (List.reverse_perm _)).1, List.map_reverse, range_map_getD]

theorem length_inversePattern (p : List Nat) : (inversePattern p).length = p.length := by
  simp [inversePattern]

theorem mem_inversePattern {s p : List Nat} (hp : p.Perm (List.range s.length)) {j : Nat}
    (hj : j ∈ inversePattern p) : j < s.length := by
  obtain ⟨i, hi, rfl⟩ := List.mem_map.mp hj
  rw [← List.length_range s.length, ← hp.length_eq]
  exact List.indexOf_lt_length.mpr (hp.symm.subset (by simpa [hp.length_eq] using hi))

theorem dimshuffleShape_inversePattern {s p : List Nat} (hp : p.Perm (List.range s.length)) :
    dimshuffleShape (p.map fun i => s.getD i 0) ((inversePattern p).map (↑)) = some s := by
  have hlen : p.length = s.length := by simpa using hp.length_eq
  rw [dimshuffleShape_axes _ _ fun j hj => by simpa [hlen] using mem_inversePattern hp hj]
  refine congrArg some (List.ext_getElem (by simp [length_inversePattern, hlen]) fun i h₁ h₂ => ?_)
  have hi : p.indexOf i < p.length := hlen ▸ mem_inversePattern hp (List.mem_map_of_mem _
    (List.mem_range.mpr (by simpa [length_inversePattern] using h₁)))
  simp only [inversePattern, List.getElem_map, List.getElem_range]
  rw [List.getD_eq_getElem _ _ (by simpa using hi), List.getElem_map, List.getElem_indexOf,
    List.getD_eq_getElem _ _ h₂]

/-! ## The reversed axes -/

theorem range_map_sub_eq_reverse (n : Nat) :
    ((List.range n).map fun i => n - i - 1) = (List.range n).reverse := by
  rw [List.range_eq_range', List.reverse_range', ← List.range_eq_range']
  exact List.map_congr_left fun i _ => by omega

theorem reversedAxes_eq {n : Nat} (hn : n ≤ 2 ^ 31) :
    reversedAxes n = (List.range n).reverse.map (↑) := by
  rw [reversedAxes, ← range_map_sub_eq_reverse, List.map_map]
  exact List.map_congr_left fun i hi => by
    have := List.mem_range.mp hi
    exact toInt32_of_range (by unfold Int32Range; omega)

/-! ## `transpose` -/

theorem fastNdim_eq {inp : Handle} {s : List Nat} (hs : inp.shape = some s)
    (hr : s.length < 2 ^ 64) : fastNdim inp = .ok s.length := by
  cases inp with
  | tensor shape => cases hs; rfl
  | symbolVar shape => cases hs; simp only [fastNdim, ndimOf_some hr]

theorem transposeCpp_of_expandArgs {inp : Handle} {args : List TransposeArg}
    {items : List PatternItem} (h : expandArgs args = .seq items) :
    transposeCpp inp args = transposeCpp inp [.seq items] := by
  rw [transposeCpp, transposeCpp, h]
  rfl

theorem expandArgs_eq_seq {items : List PatternItem}
    (h : ∀ x, items = [x] → (∃ v, x = .int v) ∨ x = .other) : expandArgs items = .seq items :=
  match items, h with
  | [], _ => rfl
  | [_], h => by rcases h _ rfl with ⟨v, rfl⟩ | rfl <;> rfl
  | _ :: _ :: _, _ => rfl

@[simp] theorem expandArgs_seq (items : List PatternItem) : expandArgs [.seq items] = .seq items :=
  rfl

theorem transposeCpp_seq_axes {inp : Handle} {s : List Nat} (hs : inp.shape = some s)
    (hr : s.length ≤ 2 ^ 31) {p : List Nat} (hp : ∀ i ∈ p, i < s.length) (hne : p ≠ []) :
    transposeCpp inp [.seq (p.map fun i : Nat => .int i)] = .ok (.dimshuffle (p.map (↑))) := by
  obtain ⟨i, hi⟩ := List.exists_mem_of_ne_nil p hne
  have hn0 : s.length ≠ 0 := by have := hp i hi; omega
  have hitems : (p.map fun i : Nat => PatternItem.int i) = (p.map (↑)).map .int := by
    rw [List.map_map]; rfl
  simp only [transposeCpp, expandArgs_seq, transposeList, ok_bind, fastNdim_eq hs (by omega),
    if_neg hn0, hitems]
  rw [if_neg (by simpa using hne), patternLoop_ints fun v hv => ?_]
  · rfl
  obtain ⟨j, hj, rfl⟩ := List.mem_map.mp hv
  have := hp j hj
  unfold Int32Range; omega

/-- On an operand of known rank `n`, `1 ≤ n ≤ 2 ^ 31`, `transpose` without a
pattern (no argument, one empty sequence, or one 0-d tensor, whose `tolist()`
is not a list) builds the same `Dimshuffle` as with the explicit axes
`n - 1, ..., 0`. That pattern is a permutation of the axes and reverses the
shape, so a second `transpose` without a pattern gives the shape back. -/
theorem transposeCpp_reverses (inp : Handle) (s : List Nat) (hs : inp.shape = some s)
    (hn : 0 < s.length) (hr : s.length ≤ 2 ^ 31) (args : List TransposeArg)
    (hargs : transposeList (expandArgs args) = .ok []) :
    transposeCpp inp args =
        .ok (.dimshuffle ((List.range s.length).map fun i => ((s.length - i - 1 : Nat) : Int))) ∧
      transposeCpp inp ((List.range s.length).map fun i => .int (s.length - i - 1 : Nat)) =
        .ok (.dimshuffle ((List.range s.length).map fun i => ((s.length - i - 1 : Nat) : Int))) ∧
      ((List.range s.length).map fun i => ((s.length - i - 1 : Nat) : Int)).Perm
        ((List.range s.length).map (↑)) ∧
      dimshuffleShape s ((List.range s.length).map fun i => ((s.length - i - 1 : Nat) : Int)) =
        some s.reverse ∧
      dimshuffleShape s.reverse
        ((List.range s.length).map fun i => ((s.length - i - 1 : Nat) : Int)) = some s := by
  have hn0 : s.length ≠ 0 := by omega
  have hrev := range_map_sub_eq_reverse s.length
  have hpat : ((List.range s.length).map fun i => ((s.length - i - 1 : Nat) : Int)) =
      (List.range s.length).reverse.map (↑) := by
    rw [← hrev, List.map_map]; rfl
  have hitems : ((List.range s.length).map fun i => PatternItem.int (s.length - i - 1 : Nat)) =
      (List.range s.length).reverse.map fun i : Nat => PatternItem.int i := by
    rw [← hrev, List.map_map]; rfl
  rw [hpat, hitems]
  refine ⟨?_, ?_, (List.reverse_perm _).map _, dimshuffleShape_reversed s, ?_⟩
  · simp only [transposeCpp, hargs, fastNdim_eq hs (by omega), ok_bind, if_neg hn0,
      List.isEmpty_nil, if_true, hs, ndimOf_some (show s.length < 2 ^ 64 by omega),
      reversedAxes_eq hr]
  · rw [transposeCpp_of_expandArgs (expandArgs_eq_seq fun x h => .inl ?_)]
    · exact transposeCpp_seq_axes hs hr (fun i hi => List.mem_range.mp (List.mem_reverse.mp hi))
        (by simpa using hn0)
    have := List.mem_singleton_self x
    rw [← h] at this
    obtain ⟨i, -, rfl⟩ := List.mem_map.mp this
    exact ⟨_, rfl⟩
  · simpa using dimshuffleShape_reversed s.reverse

theorem transposeCpp_reverses_two_by_three :
    (.tensor (some [2, 3]) : Handle).shape = some [2, 3] ∧ 0 < [2, 3].length ∧
      [2, 3].length ≤ 2 ^ 31 ∧ transposeList (expandArgs []) = .ok [] ∧
      (transposeCpp (.tensor (some [2, 3])) [] =
          .ok (.dimshuffle ((List.range [2, 3].length).map fun i => (([2, 3].length - i - 1 : Nat) : Int))) ∧
        transposeCpp (.tensor (some [2, 3])) ((List.range [2, 3].length).map fun i =>
            .int ([2, 3].length - i - 1 : Nat)) =
          .ok (.dimshuffle ((List.range [2, 3].length).map fun i => (([2, 3].length - i - 1 : Nat) : Int))) ∧
        ((List.range [2, 3].length).map fun i => (([2, 3].length - i - 1 : Nat) : Int)).Perm
          ((List.range [2, 3].length).map (↑)) ∧
        dimshuffleShape [2, 3] ((List.range [2, 3].length).map fun i =>
          (([2, 3].length - i - 1 : Nat) : Int)) = some [2, 3].reverse ∧
        dimshuffleShape [2, 3].reverse ((List.range [2, 3].length).map fun i =>
          (([2, 3].length - i - 1 : Nat) : Int)) = some [2, 3]) :=
  ⟨rfl, by decide, by decide, rfl, transposeCpp_reverses (.tensor (some [2, 3])) [2, 3] rfl
    (by decide) (by decide) [] rfl⟩

/-- `transpose` never reports a string other than `"x"` in a non-empty pattern
list: it drops it and builds what it builds without it. -/
theorem transposeCpp_drops_unknown_str (inp : Handle) (pre post : List PatternItem) (s : String)
    (hs : s ≠ "x") (hne : pre ++ post ≠ []) :
    transposeCpp inp [.seq (pre ++ .str s :: post)] = transposeCpp inp [.seq (pre ++ post)] := by
  have hlen : pre.length + post.length ≠ 0 := by simpa using hne
  have hempty : (pre ++ post).isEmpty = false := by simpa using hne
  simp only [transposeCpp, expandArgs_seq, transposeList, ok_bind, patternLoop_drop_str hs,
    List.length_append, List.length_cons, List.isEmpty_iff, List.append_eq_nil, List.cons_ne_nil,
    and_false, if_false, hempty, Bool.false_eq_true, ne_eq, hlen, not_false_eq_true, if_true,
    Nat.add_eq_zero, one_ne_zero]

theorem transposeCpp_drops_unknown_str_y :
    "y" ≠ "x" ∧ [PatternItem.int 1] ++ [.int 0] ≠ [] ∧
      transposeCpp (.tensor (some [2, 3])) [.seq ([.int 1] ++ .str "y" :: [.int 0])] =
        transposeCpp (.tensor (some [2, 3])) [.seq ([.int 1] ++ [.int 0])] :=
  ⟨by decide, by simp, transposeCpp_drops_unknown_str _ _ _ _ (by decide) (by simp)⟩

/-- On an operand of known rank `n`, `1 ≤ n ≤ 2 ^ 31`, `transpose` with an
explicit permutation `p` of the axes builds `Dimshuffle` with `p` itself,
which only reorders the sizes; `transpose` of any operand of the new shape
with the inverse permutation builds its `Dimshuffle` as well and gives the
shape back. -/
theorem transposeCpp_inversePattern (inp : Handle) (s : List Nat) (hs : inp.shape = some s)
    (hn : 0 < s.length) (hr : s.length ≤ 2 ^ 31) (p : List Nat)
    (hp : p.Perm (List.range s.length)) :
    ∃ t, transposeCpp inp [.seq (p.map fun i : Nat => .int i)] = .ok (.dimshuffle (p.map (↑))) ∧
      dimshuffleShape s (p.map (↑)) = some t ∧ t.Perm s ∧
      ∀ out : Handle, out.shape = some t →
        transposeCpp out [.seq ((inversePattern p).map fun i : Nat => .int i)] =
          .ok (.dimshuffle ((inversePattern p).map (↑))) ∧
        dimshuffleShape t ((inversePattern p).map (↑)) = some s := by
  obtain ⟨hshape, hperm⟩ := dimshuffleShape_perm hp
  have hlen : p.length = s.length := by simpa using hp.length_eq
  have hne : ∀ l : List Nat, l.length = s.length → l ≠ [] := fun l hl h => by
    rw [h] at hl; simp at hl; omega
  refine ⟨_, transposeCpp_seq_axes hs hr (fun i hi => List.mem_range.mp (hp.subset hi))
    (hne p hlen), hshape, hperm, fun out hout => ⟨?_, dimshuffleShape_inversePattern hp⟩⟩
  have ht : (p.map fun i => s.getD i 0).length = s.length := by simp [hlen]
  exact transposeCpp_seq_axes hout (by omega) (fun j hj => ht ▸ mem_inversePattern hp hj)
    (hne _ (by rw [length_inversePattern, hlen]))

theorem transposeCpp_inversePattern_rotate :
    (.tensor (some [2, 3, 4]) : Handle).shape = some [2, 3, 4] ∧ 0 < [2, 3, 4].length ∧
      [2, 3, 4].length ≤ 2 ^ 31 ∧ [2, 0, 1].Perm (List.range [2, 3, 4].length) ∧
      ∃ t, transposeCpp (.tensor (some [2, 3, 4])) [.seq ([2, 0, 1].map fun i : Nat => .int i)] =
          .ok (.dimshuffle ([2, 0, 1].map (↑))) ∧
        dimshuffleShape [2, 3, 4] ([2, 0, 1].map (↑)) = some t ∧ t.Perm [2, 3, 4] ∧
        ∀ out : Handle, out.shape = some t →
          transposeCpp out [.seq ((inversePattern [2, 0, 1]).map fun i : Nat => .int i)] =
            .ok (.dimshuffle ((inversePattern [2, 0, 1]).map (↑))) ∧
          dimshuffleShape t ((inversePattern [2, 0, 1]).map (↑)) = some [2, 3, 4] :=
  ⟨rfl, by decide, by decide, by decide, transposeCpp_inversePattern (.tensor (some [2, 3, 4]))
    [2, 3, 4] rfl (by decide) (by decide) [2, 0, 1] (by decide)⟩

end MegEngine.Imperative
