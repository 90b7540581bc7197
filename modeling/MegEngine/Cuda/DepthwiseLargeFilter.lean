import MegEngine.Imperative.Object

/-!
The availability check of the CUDA depthwise large-filter convolution
(`dnn/src/cuda/conv_bias/depthwise_large_filter.cpp`). The guard estimates the
registers and the shared memory one block needs from the filter and output
widths and the filter height, refuses the algorithm when the device has fewer,
and then asks for unit strides and equal input and output sizes.

The fields of `chanwise::Param` are `uint32_t`, the estimates `int`: the
filter width and height are first summed as `uint32_t`, the estimates then
computed in `int`, which wraps (`toInt32`; one wrap over a sum or a product is
the same as a wrap after each operation, and `/` on `int` truncates), and the
shared-memory estimate is converted to `size_t`. Against the demand computed
in unbounded integers (`demand`), the guard is exact as long as that demand
fits in `int`, and admits a configuration with a far larger demand once the
`int` product wraps.
-/

namespace MegEngine.Cuda

open MegEngine.Imperative (toInt32 sizeT Int32Range toInt32_of_range sizeT_of_range)

/-- The fields of `chanwise::Param` the guard reads. -/
structure Param where
  srcH : UInt32
  srcW : UInt32
  fltH : UInt32
  fltW : UInt32
  outH : UInt32
  outW : UInt32
  strideH : UInt32
  strideW : UInt32
  deriving DecidableEq, Repr

/-- The fields of `cudaDeviceProp` the guard reads: `int regsPerBlock` and
`size_t sharedMemPerBlock`. -/
structure DeviceProp where
  regsPerBlock : Int
  sharedMemPerBlock : UInt64
  regsPerBlock_int32 : Int32Range regsPerBlock

/-- A block's register and shared-memory needs, in registers and bytes. -/
structure Demand where
  regs : Int
  smem : Int
  deriving DecidableEq, Repr

/-- The two estimates of `is_available_depthwise_large_filter` as its `int`
arithmetic computes them: the registers
`4 * 32 * (flt_reg_per_thread + src_reg_per_thread + out_reg_per_thread)` and
the shared memory `flt_smem_w * flt_smem_h + src_smem_w * src_smem_h`.
`flt_smem_h + param.flt_h - 1` is `uint32_t` arithmetic. -/
def estimate (param : Param) : Demand :=
  let fltSmemW : Int := toInt32 ((param.fltW + 3) / 4 * 4).toNat
  let fltSmemH : Int := 3
  let fltRegPerThread : Int :=
    if fltSmemW > 32 then (toInt32 (fltSmemW + 31)).tdiv 32 else toInt32 (1 + fltSmemW.tdiv 4)
  let ow : Int := (if param.outW > 64 then 64 else param.outW).toNat
  let srcSmemW : Int := toInt32 (ow + fltSmemW - 1)
  let srcSmemH : Int := toInt32 ((3 : UInt32) + param.fltH - 1).toNat
  let srcRegPerThread : Int :=
    if srcSmemW > 128 then (toInt32 (fltSmemW + 127)).tdiv 128
    else toInt32 (1 + (ow + 3).tdiv 4 + fltSmemW.tdiv 4 - 1)
  let outRegPerThread : Int := (ow + 3).tdiv 4 * 4
  ⟨toInt32 (4 * 32 * (fltRegPerThread + srcRegPerThread + outRegPerThread)),
    toInt32 (fltSmemW * fltSmemH + srcSmemW * srcSmemH)⟩

/-- `is_available_depthwise_large_filter(param)` on a device with properties
`prop`: the shared-memory estimate is compared as a `size_t`. -/
def isAvailableDepthwiseLargeFilter (prop : DeviceProp) (param : Param) : Bool :=
  if prop.regsPerBlock < (estimate param).regs ∨
      prop.sharedMemPerBlock.toNat < sizeT (estimate param).smem then false
  else param.strideH == 1 && param.strideW == 1 && param.srcH == param.outH &&
    param.srcW == param.outW

/-- The dtypes `AlgoDepthwiseLargeFilter::is_available` tells apart. -/
inductive DType
  | float32
  | float16
  | other (id : Nat)
  deriving DecidableEq, Repr

/-- What `AlgoDepthwiseLargeFilter::is_available` reads of its `SizeArgs`:
`srcFloat` is `src_layout->dtype.category() == FLOAT`, and `param` is
`chanwise::Param::from_fwd_args(args)`, computed outside src/. -/
structure SizeArgs where
  srcContiguous : Bool
  dstContiguous : Bool
  srcDtype : DType
  filterDtype : DType
  zNdim : Nat
  group : Nat
  formatNCHW : Bool
  srcFloat : Bool
  computeModeDefault : Bool
  spatialNdim : Nat
  icpg : Nat
  dilation : Nat × Nat
  shouldFlip : Bool
  param : Param
  deriving DecidableEq, Repr

/-- `AlgoDepthwiseLargeFilter::is_available`, built with `CUDA_VERSION`
`cudaVersion` (the `Float16` comparison is compiled from `9000` on). -/
def isAvailable (cudaVersion : Nat) (prop : DeviceProp) (args : SizeArgs) : Bool :=
  if !args.srcContiguous || !args.dstContiguous then false
  else if args.srcDtype ≠ args.filterDtype ∧
      (args.srcDtype ≠ .float32 ∨ (9000 ≤ cudaVersion ∧ args.srcDtype ≠ .float16)) then false
  else if args.zNdim > 0 then false
  else args.group > 1 && args.formatNCHW && args.srcFloat && args.computeModeDefault &&
    args.spatialNdim == 2 && args.icpg == 1 && args.dilation.1 == 1 && args.dilation.2 == 1 &&
    !args.shouldFlip && isAvailableDepthwiseLargeFilter prop args.param

/-- `get_workspace_in_bytes`: the bytes of the convolution's output, with the
dtype `check_or_deduce_dtype_fwd` deduces (`convDstBytes`), when `dst` and
the bias differ in dtype, and nothing otherwise. -/
def getWorkspaceInBytes (dstDtype biasDtype : DType) (convDstBytes : Nat) : Nat :=
  if dstDtype ≠ biasDtype then convDstBytes else 0

/-- What `exec` does after `is_available`: `run_fwd_depthwise_large_filter` on
the pointers of a dtype, writing the convolution into the workspace or into
`dst`, or `megdnn_assert_internal(0)`. -/
inductive ExecCall
  | run (dtype : DType) (toWorkspace : Bool)
  | internalAssert
  deriving DecidableEq, Repr

/-- `AlgoDepthwiseLargeFilter::exec`, built with `CUDA_VERSION` `cudaVersion`:
the convolution goes to the workspace when `dst` and the bias differ in dtype,
and the kernel is chosen by the src dtype (the `Float16` case is compiled from
`9000` on). -/
def exec (cudaVersion : Nat) (srcDtype dstDtype biasDtype : DType) : ExecCall :=
  let toWorkspace := decide (dstDtype ≠ biasDtype)
  match srcDtype with
  | .float32 => .run .float32 toWorkspace
  | .float16 => if 9000 ≤ cudaVersion then .run .float16 toWorkspace else .internalAssert
  | .other _ => .internalAssert

/-! ## The demand in unbounded integers -/

/-- The registers and the shared memory a block needs, by the guard's formulas
computed in unbounded integers: `flt_smem_w = ceil(flt_w / 4) * 4`,
`src_smem_w = min(out_w, 64) + flt_smem_w - 1`, `src_smem_h = flt_h + 2`. -/
def demand (param : Param) : Demand :=
  let fltSmemW : Int := (param.fltW.toNat + 3) / 4 * 4
  let fltRegPerThread : Int := if fltSmemW > 32 then (fltSmemW + 31) / 32 else 1 + fltSmemW / 4
  let ow : Int := min param.outW.toNat 64
  let srcSmemW : Int := ow + fltSmemW - 1
  let srcSmemH : Int := param.fltH.toNat + 2
  let srcRegPerThread : Int :=
    if srcSmemW > 128 then (fltSmemW + 127) / 128 else 1 + (ow + 3) / 4 + fltSmemW / 4 - 1
  let outRegPerThread : Int := (ow + 3) / 4 * 4
  ⟨128 * (fltRegPerThread + srcRegPerThread + outRegPerThread), 3 * fltSmemW + srcSmemW * srcSmemH⟩

theorem toNat_fltSmemW (w : UInt32) :
    ((w + 3) / 4 * 4).toNat = (w.toNat + 3) % 2 ^ 32 / 4 * 4 := by
  rw [UInt32.toNat_mul, UInt32.toNat_div, UInt32.toNat_add]
  simp only [UInt32.size, UInt32.reduceToNat]
  omega

theorem toNat_srcSmemH (h : UInt32) : ((3 : UInt32) + h - 1).toNat = (h.toNat + 2) % 2 ^ 32 := by
  rw [UInt32.toNat_sub, UInt32.toNat_add]
  simp only [UInt32.size, UInt32.reduceToNat]
  omega

theorem toNat_ow (w : UInt32) : (if w > 64 then (64 : UInt32) else w).toNat = min w.toNat 64 := by
  split_ifs with h
  · have : 64 < w.toNat := h
    show 64 = _
    omega
  · have : ¬ 64 < w.toNat := h
    omega

theorem fltRegPerThread_eq {F : Int} (hF : 0 ≤ F) (h : F + 31 < 2 ^ 31) :
    (if F > 32 then (toInt32 (F + 31)).tdiv 32 else toInt32 (1 + F.tdiv 4)) =
      if F > 32 then (F + 31) / 32 else 1 + F / 4 := by
  have hq : F.tdiv 4 = F / 4 := Int.tdiv_eq_ediv hF (by norm_num)
  split_ifs
  · rw [@toInt32_of_range (F + 31) ⟨by omega, h⟩]
    exact Int.tdiv_eq_ediv (by omega) (by norm_num)
  · rw [hq]
    exact toInt32_of_range ⟨by omega, by omega⟩

theorem srcRegPerThread_eq {F ow : Int} (hF : 0 ≤ F) (how : 0 ≤ ow) (how' : ow ≤ 64)
    (h : F + 127 < 2 ^ 31) :
    (if ow + F - 1 > 128 then (toInt32 (F + 127)).tdiv 128
      else toInt32 (1 + (ow + 3).tdiv 4 + F.tdiv 4 - 1)) =
      if ow + F - 1 > 128 then (F + 127) / 128 else 1 + (ow + 3) / 4 + F / 4 - 1 := by
  have hq : F.tdiv 4 = F / 4 := Int.tdiv_eq_ediv hF (by norm_num)
  have hw : (ow + 3).tdiv 4 = (ow + 3) / 4 := Int.tdiv_eq_ediv (by omega) (by norm_num)
  split_ifs
  · rw [@toInt32_of_range (F + 127) ⟨by omega, h⟩]
    exact Int.tdiv_eq_ediv (by omega) (by norm_num)
  · rw [hq, hw]
    exact toInt32_of_range ⟨by omega, by omega⟩

/-- While the demand fits in `int`, the guard's estimates are the demand: no
`int` sum or product wraps, and the `uint32_t` source height can wrap only
where the source width it is multiplied by is zero. -/
theorem estimate_eq_demand (param : Param) (hregs : (demand param).regs < 2 ^ 31)
    (hsmem : 0 ≤ (demand param).smem) (hsmem' : (demand param).smem < 2 ^ 31) :
    estimate param = demand param := by
  have hW := param.fltW.toNat_lt
  simp only [demand] at hregs hsmem hsmem'
  simp only [estimate, demand, toNat_fltSmemW, toNat_srcSmemH, toNat_ow, Nat.cast_min,
    Nat.cast_ofNat]
  set W := param.fltW.toNat
  set H := param.fltH.toNat
  set F : Int := ((W : Int) + 3) / 4 * 4 with hF
  set ow : Int := min (param.outW.toNat : Int) 64 with how
  have hF0 : 0 ≤ F := by omega
  have how0 : 0 ≤ ow ∧ ow ≤ 64 := by omega
  -- the source width is not negative, else the shared-memory demand would be negative
  have hS : 0 ≤ ow + F - 1 := by
    by_contra hneg
    have hz : ow + F - 1 = -1 := by omega
    rw [hz] at hsmem
    omega
  have hF3 : 3 * F < 2 ^ 31 := by
    have := mul_nonneg hS (by omega : (0 : Int) ≤ H + 2)
    omega
  have hFc : toInt32 ((W + 3) % 2 ^ 32 / 4 * 4 : Nat) = F := by
    unfold toInt32; omega
  have hSc : toInt32 (ow + F - 1) = ow + F - 1 := toInt32_of_range ⟨by omega, by omega⟩
  -- the source height wraps only where the source width is zero
  have hHc : (ow + F - 1) * toInt32 ((H + 2) % 2 ^ 32 : Nat) = (ow + F - 1) * (H + 2) := by
    rcases hS.lt_or_eq with hS1 | hS0
    · have : (H : Int) + 2 ≤ (ow + F - 1) * (H + 2) :=
        le_mul_of_one_le_left (by omega) (by omega)
      have hH2 : toInt32 ((H + 2) % 2 ^ 32 : Nat) = H + 2 := by
        unfold toInt32; omega
      rw [hH2]
    · rw [← hS0, zero_mul, zero_mul]
  have hsm : toInt32 (F * 3 + (ow + F - 1) * (H + 2)) = 3 * F + (ow + F - 1) * (H + 2) := by
    unfold toInt32; omega
  have hw : (ow + 3).tdiv 4 = (ow + 3) / 4 := Int.tdiv_eq_ediv (by omega) (by norm_num)
  rw [hFc, hSc, hHc, hsm, fltRegPerThread_eq hF0 (by omega),
    srcRegPerThread_eq hF0 how0.1 how0.2 (by omega), hw, show (4 : Int) * 32 = 128 from rfl]
  have hr : 0 ≤ (if F > 32 then (F + 31) / 32 else 1 + F / 4) +
      (if ow + F - 1 > 128 then (F + 127) / 128 else 1 + (ow + 3) / 4 + F / 4 - 1) := by
    split_ifs <;> omega
  rw [toInt32_of_range ⟨by omega, hregs⟩]

/-- While the demand fits in `int`, the guard is exact: it holds exactly when
the device has the registers and the shared memory a block needs, the strides
are one and the input and output sizes agree. -/
theorem isAvailableDepthwiseLargeFilter_exact (prop : DeviceProp) (param : Param)
    (hregs : (demand param).regs < 2 ^ 31) (hsmem : 0 ≤ (demand param).smem)
    (hsmem' : (demand param).smem < 2 ^ 31) :
    isAvailableDepthwiseLargeFilter prop param = true ↔
      (demand param).regs ≤ prop.regsPerBlock ∧
        (demand param).smem ≤ prop.sharedMemPerBlock.toNat ∧
        param.strideH = 1 ∧ param.strideW = 1 ∧ param.srcH = param.outH ∧
        param.srcW = param.outW := by
  have hsize : sizeT (demand param).smem = (demand param).smem.toNat :=
    sizeT_of_range hsmem (by omega)
  have hfit : ¬ (prop.regsPerBlock < (demand param).regs ∨
      prop.sharedMemPerBlock.toNat < (demand param).smem.toNat) ↔
      (demand param).regs ≤ prop.regsPerBlock ∧
        (demand param).smem ≤ prop.sharedMemPerBlock.toNat := by
    omega
  rw [isAvailableDepthwiseLargeFilter, estimate_eq_demand param hregs hsmem hsmem', hsize,
    ← and_assoc, ← hfit]
  split_ifs with h
  · exact iff_of_false not_false fun hd => hd.1 h
  · simp only [h, not_false_eq_true, true_and, Bool.and_eq_true, beq_iff_eq, and_assoc]

/-- A filter of height and width `3` on a `64`-wide output with unit strides:
its demand, `1024` registers and `1096` bytes, fits in `int`. -/
theorem isAvailableDepthwiseLargeFilter_exact_three :
    (demand ⟨64, 64, 3, 3, 64, 64, 1, 1⟩).regs < 2 ^ 31 ∧
      0 ≤ (demand ⟨64, 64, 3, 3, 64, 64, 1, 1⟩).smem ∧
      (demand ⟨64, 64, 3, 3, 64, 64, 1, 1⟩).smem < 2 ^ 31 ∧
      (isAvailableDepthwiseLargeFilter ⟨65536, 49152, by decide⟩ ⟨64, 64, 3, 3, 64, 64, 1, 1⟩ =
          true ↔
        (demand ⟨64, 64, 3, 3, 64, 64, 1, 1⟩).regs ≤ 65536 ∧
          (demand ⟨64, 64, 3, 3, 64, 64, 1, 1⟩).smem ≤ (49152 : UInt64).toNat ∧
          (1 : UInt32) = 1 ∧ (1 : UInt32) = 1 ∧ (64 : UInt32) = 64 ∧ (64 : UInt32) = 64) :=
  ⟨by decide, by decide, by decide,
    isAvailableDepthwiseLargeFilter_exact ⟨65536, 49152, by decide⟩ ⟨64, 64, 3, 3, 64, 64, 1, 1⟩
      (by decide) (by decide) (by decide)⟩

/-- A filter of height `64103989` and width `4` on a `64`-wide output, with
unit strides and input and output of one size, on a device with `65536`
registers and `48` KiB of shared memory per block: the shared-memory estimate
`3 * 4 + 67 * 64103991` wraps in `int` to `113`, so the guard, and with it the
algorithm, is available, while the block needs over `4 * 10 ^ 9` bytes. -/
theorem isAvailableDepthwiseLargeFilter_admits_wrapped_smem :
    isAvailableDepthwiseLargeFilter ⟨65536, 49152, by decide⟩
        ⟨64, 64, 64103989, 4, 64, 64, 1, 1⟩ = true ∧
      isAvailable 11000 ⟨65536, 49152, by decide⟩
        ⟨true, true, .float32, .float32, 0, 64, true, true, true, 2, 1, (1, 1), false,
          ⟨64, 64, 64103989, 4, 64, 64, 1, 1⟩⟩ = true ∧
      (demand ⟨64, 64, 64103989, 4, 64, 64, 1, 1⟩).regs ≤ 65536 ∧
      49152 < (demand ⟨64, 64, 64103989, 4, 64, 64, 1, 1⟩).smem :=
  ⟨by decide, by decide, by decide, by decide⟩

end MegEngine.Cuda
