import MegEngine.Imperative.Object

/-!
Axis lists as `AddAxis` and `RemoveAxis` consume them: the operator inserts
(removes) one axis per entry, one after another, each index taken in the shape
the previous steps left. `keepAxes` reads a shape without the axes a predicate
designates. The two sequences of single steps are related to a set of
designated axes: removing a strictly increasing list shifted down by each
entry's position (`_squeeze_cpp`'s `axis[i] -= i`) deletes exactly those axes,
and inserting a strictly increasing list places a size-1 axis at exactly each
of its positions.
-/

namespace MegEngine.Imperative

/-- `std::sort` of an `int32_t` axis list. -/
def sortAxes (axis : List Int) : List Int := axis.mergeSort (fun a b => decide (a ≤ b))

/-- The loop `axis[i] -= static_cast<int32_t>(i)` of `_squeeze_cpp`, from
position `k` on. -/
def subIndex (k : Nat) : List Int → List Int
  | [] => []
  | a :: as => toInt32 (a - toInt32 k) :: subIndex (k + 1) as

/-- `RemoveAxis`: the axes removed one after another. -/
def removeAxes (s : List Nat) : List Int → Option (List Nat)
  | [] => some s
  | a :: as => if 0 ≤ a ∧ a < s.length then removeAxes (s.eraseIdx a.toNat) as else none

/-- `AddAxis`: size-1 axes inserted one after another. -/
def addAxes (s : List Nat) : List Int → Option (List Nat)
  | [] => some s
  | a :: as => if 0 ≤ a ∧ a ≤ s.length then addAxes (s.insertIdx a.toNat 1) as else none

/-- The entries of a shape at the positions `p` does not designate, in order. -/
def keepAxes (p : Nat → Bool) : List Nat → List Nat
  | [] => []
  | x :: xs => if p 0 then keepAxes (fun n => p (n + 1)) xs
    else x :: keepAxes (fun n => p (n + 1)) xs

/-- The positions an axis list designates. -/
def designates (A : List Int) (n : Nat) : Bool := decide ((n : Int) ∈ A)

/-! ## Reading a shape without designated axes -/

theorem keepAxes_congr {p q : Nat → Bool} (s : List Nat) (h : ∀ n, p n = q n) :
    keepAxes p s = keepAxes q s := by
  rw [funext h]

theorem keepAxes_cons_of_pos {p : Nat → Bool} (x : Nat) (xs : List Nat) (h : p 0 = true) :
    keepAxes p (x :: xs) = keepAxes (fun n => p (n + 1)) xs := if_pos h

theorem keepAxes_cons_of_neg {p : Nat → Bool} (x : Nat) (xs : List Nat) (h : p 0 = false) :
    keepAxes p (x :: xs) = x :: keepAxes (fun n => p (n + 1)) xs := if_neg (by simp [h])

theorem keepAxes_none (s : List Nat) : keepAxes (fun _ => false) s = s := by
  induction s with
  | nil => rfl
  | cons x xs ih => simp [keepAxes, ih]

theorem keepAxes_insertIdx (x : Nat) (l : List Nat) (a : Nat) (p q : Nat → Bool)
    (ha : a ≤ l.length) (hpa : p a = true) (hlt : ∀ n < a, p n = q n)
    (hge : ∀ n, a ≤ n → p (n + 1) = q n) :
    keepAxes p (l.insertIdx a x) = keepAxes q l := by
  induction l generalizing a p q with
  | nil =>
    obtain rfl : a = 0 := by simpa using ha
    rw [List.insertIdx_zero, keepAxes_cons_of_pos _ _ hpa]
    rfl
  | cons y ys ih =>
    cases a with
    | zero =>
      rw [List.insertIdx_zero, keepAxes_cons_of_pos _ _ hpa]
      exact keepAxes_congr _ fun n => hge n (Nat.zero_le n)
    | succ a =>
      have ih' := ih a (fun n => p (n + 1)) (fun n => q (n + 1)) (by simpa using ha) hpa
        (fun n hn => hlt (n + 1) (by omega)) (fun n hn => hge (n + 1) (by omega))
      rw [List.insertIdx_succ_cons]
      cases hq : q 0
      · rw [keepAxes_cons_of_neg _ _ (by rw [hlt 0 (by omega), hq]),
          keepAxes_cons_of_neg _ _ hq, ih']
      · rw [keepAxes_cons_of_pos _ _ (by rw [hlt 0 (by omega), hq]),
          keepAxes_cons_of_pos _ _ hq, ih']

theorem keepAxes_ext {p : Nat → Bool} {t s : List Nat} (hkeep : keepAxes p t = keepAxes p s)
    (hdes : ∀ n, p n = true → t[n]? = s[n]?) : t = s := by
  induction t generalizing p s with
  | nil =>
    cases s with
    | nil => rfl
    | cons y ys =>
      cases hp : p 0
      · rw [keepAxes_cons_of_neg _ _ hp] at hkeep; cases hkeep
      · simpa only [List.getElem?_nil, List.getElem?_cons_zero, reduceCtorEq] using hdes 0 hp
  | cons x xs ih =>
    cases s with
    | nil =>
      cases hp : p 0
      · rw [keepAxes_cons_of_neg _ _ hp] at hkeep; cases hkeep
      · simpa only [List.getElem?_nil, List.getElem?_cons_zero, reduceCtorEq] using hdes 0 hp
    | cons y ys =>
      have hshift : ∀ n, p (n + 1) = true → xs[n]? = ys[n]? := fun n hn => by
        simpa only [List.getElem?_cons_succ] using hdes (n + 1) hn
      cases hp : p 0
      · rw [keepAxes_cons_of_neg _ _ hp, keepAxes_cons_of_neg _ _ hp] at hkeep
        obtain ⟨rfl, hk⟩ := List.cons.inj hkeep
        rw [ih hk hshift]
      · rw [keepAxes_cons_of_pos _ _ hp, keepAxes_cons_of_pos _ _ hp] at hkeep
        obtain rfl : x = y := by
          simpa only [List.getElem?_cons_zero, Option.some.injEq] using hdes 0 hp
        rw [ih hkeep hshift]

/-! ## The `RemoveAxis` list of `_squeeze_cpp` -/

/-- `subIndex` without the `int32_t` wrap. -/
def subFrom (k : Int) : List Int → List Int
  | [] => []
  | a :: as => (a - k) :: subFrom (k + 1) as

theorem subFrom_succ (k : Int) (A : List Int) :
    subFrom (k + 1) A = subFrom k (A.map (· - 1)) := by
  induction A generalizing k with
  | nil => rfl
  | cons a A ih => simp only [subFrom, List.map_cons, ih]; congr 1; omega

theorem subFrom_ge {A : List Int} (hA : A.Pairwise (· < ·)) (k m : Int)
    (hm : ∀ a ∈ A, m ≤ a) : ∀ b ∈ subFrom k A, m - k ≤ b := by
  induction A generalizing k m with
  | nil => simp [subFrom]
  | cons a A ih =>
    rw [List.pairwise_cons] at hA
    intro b hb
    rcases List.mem_cons.mp hb with rfl | hb
    · have := hm a (List.mem_cons_self _ _); omega
    · have := ih hA.2 (k + 1) (m + 1)
        (fun c hc => by have := hA.1 c hc; have := hm a (List.mem_cons_self _ _); omega) b hb
      omega

theorem subFrom_map_sub (k : Int) (A : List Int) :
    (subFrom k A).map (· - 1) = subFrom (k + 1) A := by
  induction A generalizing k with
  | nil => rfl
  | cons a A ih => simp only [subFrom, List.map_cons, ih]; congr 1; omega

theorem removeAxes_cons_of_pos (x : Nat) (xs : List Nat) (B : List Int)
    (hB : ∀ b ∈ B, 1 ≤ b) :
    removeAxes (x :: xs) B = (removeAxes xs (B.map (· - 1))).map (x :: ·) := by
  induction B generalizing xs with
  | nil => rfl
  | cons b B ih =>
    have hb := hB b (List.mem_cons_self _ _)
    have htn : b.toNat = (b - 1).toNat + 1 := by omega
    simp only [removeAxes, List.map_cons, List.length_cons]
    by_cases hc : 0 ≤ b - 1 ∧ b - 1 < xs.length
    · rw [if_pos (by push_cast; omega), if_pos hc, htn, List.eraseIdx_cons_succ]
      exact ih _ fun b h => hB b (List.mem_cons_of_mem _ h)
    · rw [if_neg (by push_cast; omega), if_neg hc]
      rfl

theorem removeAxes_length : ∀ {s r : List Nat} {A : List Int}, removeAxes s A = some r →
    r.length + A.length = s.length
  | _, _, [], h => by cases h; rfl
  | s, r, a :: as, h => by
    rw [removeAxes] at h
    split_ifs at h with ha
    have := removeAxes_length h
    rw [List.length_eraseIdx_of_lt (by omega)] at this
    simp only [List.length_cons]
    omega

@[simp] theorem length_subIndex (k : Nat) (A : List Int) : (subIndex k A).length = A.length := by
  induction A generalizing k with
  | nil => rfl
  | cons a A ih => simp [subIndex, ih]

theorem designates_nil : designates [] = fun _ => false := by
  funext n; simp [designates]

theorem designates_succ (A : List Int) (n : Nat) :
    designates A (n + 1) = designates (A.map (· - 1)) n := by
  simp only [designates, List.mem_map, decide_eq_decide]
  constructor
  · intro h; exact ⟨_, h, by push_cast; omega⟩
  · rintro ⟨a, ha, h⟩; rw [show ((n + 1 : Nat) : Int) = a by omega]; exact ha

theorem removeAxes_cons_zero (x : Nat) (xs : List Nat) (B : List Int) :
    removeAxes (x :: xs) (0 :: B) = removeAxes xs B := by
  simp [removeAxes]

theorem removeAxes_subFrom (s : List Nat) (A : List Int) (hA : A.Pairwise (· < ·))
    (hbound : ∀ a ∈ A, 0 ≤ a ∧ a < s.length) :
    removeAxes s (subFrom 0 A) = some (keepAxes (designates A) s) := by
  induction s generalizing A with
  | nil =>
    cases A with
    | nil => rfl
    | cons a A => have := hbound a (List.mem_cons_self _ _); simp at this; omega
  | cons x xs ih =>
    have hrec : ∀ B : List Int, B.Pairwise (· < ·) → (∀ b ∈ B, 1 ≤ b ∧ b ≤ xs.length) →
        removeAxes xs (subFrom 0 (B.map (· - 1))) =
          some (keepAxes (fun n => designates B (n + 1)) xs) := by
      intro B hB hb
      rw [ih _ (List.pairwise_map.mpr (hB.imp (by omega))) (fun c hc => by
        obtain ⟨b, hb', rfl⟩ := List.mem_map.mp hc; have := hb b hb'; omega)]
      exact congrArg some (keepAxes_congr _ fun n => (designates_succ B n).symm)
    cases A with
    | nil => simp [subFrom, removeAxes, designates_nil, keepAxes_none]
    | cons a A =>
      have hbound' : ∀ b ∈ A, 0 ≤ b ∧ b < xs.length + 1 := fun b hb => by
        simpa using hbound b (List.mem_cons_of_mem _ hb)
      rw [List.pairwise_cons] at hA
      by_cases h0 : a = 0
      · subst h0
        have hsub : subFrom 0 (0 :: A) = 0 :: subFrom 0 (A.map (· - 1)) := by
          show (0 - 0 : Int) :: subFrom (0 + 1) A = _
          rw [subFrom_succ]; rfl
        rw [hsub, removeAxes_cons_zero, keepAxes_cons_of_pos _ _ (by simp [designates]),
          hrec A hA.2 (fun b hb => by have := hA.1 b hb; have := hbound' b hb; omega)]
        exact congrArg some (keepAxes_congr _ fun n => by simp [designates]; omega)
      · have hge : ∀ b ∈ a :: A, 1 ≤ b := fun b hb => by
          rcases List.mem_cons.mp hb with rfl | hb
          · have := hbound b (List.mem_cons_self _ _); omega
          · have := hA.1 b hb; have := hbound a (List.mem_cons_self _ _); omega
        have hd0 : designates (a :: A) 0 = false := by
          have : (0 : Int) ∉ a :: A := fun h => by have := hge 0 h; omega
          simpa [designates] using this
        have hsub := subFrom_ge (List.pairwise_cons.mpr hA) 0 1 hge
        rw [removeAxes_cons_of_pos x xs _ (fun b hb => by simpa using hsub b hb),
          subFrom_map_sub, subFrom_succ, hrec _ (List.pairwise_cons.mpr hA) (fun b hb => by
            have := hge b hb
            rcases List.mem_cons.mp hb with rfl | hb
            · have := hbound b (List.mem_cons_self _ _); simp at this; omega
            · have := hbound' b hb; omega),
          keepAxes_cons_of_neg _ _ hd0]
        rfl

/-! ## The `AddAxis` list of `_expand_dims_cpp` -/

theorem getElem?_insertIdx_of_lt (x : Nat) :
    ∀ (l : List Nat) (n k : Nat), k < n → (l.insertIdx n x)[k]? = l[k]?
  | _, 0, k, h => absurd h (Nat.not_lt_zero k)
  | [], _ + 1, _, _ => rfl
  | _ :: _, _ + 1, 0, _ => by rw [List.insertIdx_succ_cons]; simp
  | _ :: ys, n + 1, k + 1, h => by
    rw [List.insertIdx_succ_cons]
    simpa using getElem?_insertIdx_of_lt x ys n k (by omega)

theorem getElem?_insertIdx_self (x : Nat) :
    ∀ (l : List Nat) (n : Nat), n ≤ l.length → (l.insertIdx n x)[n]? = some x
  | _, 0, _ => by rw [List.insertIdx_zero]; simp
  | [], _ + 1, h => absurd h (by simp)
  | _ :: ys, n + 1, h => by
    rw [List.insertIdx_succ_cons]
    simpa using getElem?_insertIdx_self x ys n (by simpa using h)

theorem addAxes_append (s : List Nat) (A B : List Int) :
    addAxes s (A ++ B) = (addAxes s A).bind (addAxes · B) := by
  induction A generalizing s with
  | nil => rfl
  | cons a A ih => simp only [List.cons_append, addAxes]; split_ifs <;> simp [ih]

theorem addAxes_spec (s : List Nat) (A : List Int) (hA : A.Pairwise (· < ·))
    (hbound : ∀ a ∈ A, 0 ≤ a ∧ a < s.length + A.length) :
    ∃ t, addAxes s A = some t ∧ t.length = s.length + A.length ∧
      (∀ a ∈ A, t[a.toNat]? = some 1) ∧ keepAxes (designates A) t = s := by
  induction A using List.reverseRecOn with
  | nil => exact ⟨s, rfl, rfl, by simp, by rw [designates_nil, keepAxes_none]⟩
  | append_singleton A a ih =>
    rw [List.pairwise_append] at hA
    have hlt : ∀ b ∈ A, b < a := fun b hb => hA.2.2 b hb a (List.mem_singleton_self a)
    have ha := hbound a (by simp)
    simp only [List.length_append, List.length_singleton] at ha hbound
    obtain ⟨t, ht, hlen, hones, hkeep⟩ := ih hA.1 (fun b hb => by
      have := hbound b (List.mem_append_left _ hb); have := hlt b hb; omega)
    have hat : a.toNat ≤ t.length := by omega
    refine ⟨t.insertIdx a.toNat 1, ?_, ?_, ?_, ?_⟩
    · rw [addAxes_append, ht]
      simp only [Option.some_bind, addAxes]
      rw [if_pos (by omega)]
    · rw [List.length_insertIdx _ _ hat, hlen, List.length_append, List.length_singleton]
      omega
    · intro b hb
      rcases List.mem_append.mp hb with hb | hb
      · rw [getElem?_insertIdx_of_lt _ _ _ _
          (by have := hlt b hb; have := hbound b (List.mem_append_left _ hb); omega)]
        exact hones b hb
      · rw [List.mem_singleton.mp hb]
        exact getElem?_insertIdx_self _ _ _ hat
    · rw [keepAxes_insertIdx 1 t a.toNat (designates (A ++ [a])) (designates A) hat
        (by simp [designates]; omega)
        (fun n hn => by
          have : (n : Int) ≠ a := by omega
          simp [designates, this])
        (fun n hn => by
          have h1 : (n : Int) + 1 ∉ A := fun h => by have := hlt _ h; omega
          have h2 : (n : Int) ∉ A := fun h => by have := hlt _ h; omega
          have h3 : (n : Int) + 1 ≠ a := by omega
          simp [designates, h1, h2, h3])]
      exact hkeep

/-! ## Sorted axis lists -/

theorem sortAxes_pairwise_lt {l : List Int} (h : l.Nodup) : (sortAxes l).Pairwise (· < ·) := by
  have hle := @List.sorted_mergeSort _ (fun a b => decide (a ≤ b))
    (fun a b c => by simp only [decide_eq_true_eq]; omega)
    (fun a b => by simp only [decide_eq_true_eq, Bool.or_eq_true]; omega) l
  have hnd : (sortAxes l).Nodup := (List.mergeSort_perm l _).nodup_iff.mpr h
  exact (hle.and hnd).imp fun ⟨h1, h2⟩ => by simp only [decide_eq_true_eq] at h1; omega

@[simp] theorem mem_sortAxes {a : Int} {l : List Int} : a ∈ sortAxes l ↔ a ∈ l :=
  List.mem_mergeSort

@[simp] theorem length_sortAxes (l : List Int) : (sortAxes l).length = l.length :=
  List.length_mergeSort l

theorem designates_sortAxes (l : List Int) : designates (sortAxes l) = designates l := by
  funext n; simp [designates]

theorem subIndex_eq_subFrom (k : Nat) (A : List Int) (hA : A.Pairwise (· < ·))
    (hlo : ∀ a ∈ A, k ≤ a) (hhi : ∀ a ∈ A, a < 2 ^ 31) : subIndex k A = subFrom k A := by
  induction A generalizing k with
  | nil => rfl
  | cons a A ih =>
    rw [List.pairwise_cons] at hA
    have hl := hlo a (List.mem_cons_self _ _)
    have hh := hhi a (List.mem_cons_self _ _)
    have hk : Int32Range k := by unfold Int32Range; omega
    have hak : Int32Range (a - k) := by unfold Int32Range; omega
    simp only [subIndex, subFrom, toInt32_of_range hk, toInt32_of_range hak]
    rw [ih (k + 1) hA.2 (fun b hb => by have := hA.1 b hb; push_cast; omega)
      (fun b hb => hhi b (List.mem_cons_of_mem _ hb))]
    push_cast; rfl

/-- The `RemoveAxis` list `_squeeze_cpp` builds from distinct resolved axes
deletes exactly those axes. -/
theorem removeAxes_squeezeList (s : List Nat) (N : List Int) (hN : N.Nodup)
    (hbound : ∀ a ∈ N, 0 ≤ a ∧ a < s.length) (hr : s.length ≤ 2 ^ 31) :
    removeAxes s (subIndex 0 (sortAxes N)) = some (keepAxes (designates N) s) := by
  have hsorted := sortAxes_pairwise_lt hN
  rw [subIndex_eq_subFrom 0 _ hsorted (fun a ha => (hbound a (mem_sortAxes.mp ha)).1)
      (fun a ha => by have := hbound a (mem_sortAxes.mp ha); omega)]
  show removeAxes s (subFrom 0 (sortAxes N)) = _
  rw [removeAxes_subFrom s _ hsorted (fun a ha => hbound a (mem_sortAxes.mp ha)),
    designates_sortAxes]

/-- The `AddAxis` list `_expand_dims_cpp` builds from distinct resolved axes
places a size-1 axis at exactly those positions. -/
theorem addAxes_sortAxes (s : List Nat) (N : List Int) (hN : N.Nodup)
    (hbound : ∀ a ∈ N, 0 ≤ a ∧ a < s.length + N.length) :
    ∃ t, addAxes s (sortAxes N) = some t ∧ t.length = s.length + N.length ∧
      (∀ a ∈ N, t[a.toNat]? = some 1) ∧ keepAxes (designates N) t = s := by
  obtain ⟨t, ht, hlen, hones, hkeep⟩ := addAxes_spec s (sortAxes N) (sortAxes_pairwise_lt hN)
    (fun a ha => by simpa using hbound a (mem_sortAxes.mp ha))
  exact ⟨t, ht, by simpa using hlen, fun a ha => hones a (mem_sortAxes.mpr ha),
    by rwa [designates_sortAxes] at hkeep⟩

end MegEngine.Imperative
