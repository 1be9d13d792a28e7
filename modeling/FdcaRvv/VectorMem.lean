import FdcaRvv.Instr

/-!
# Vector memory operations

`fdca_vector_mem.c` describes one vector load or store by a descriptor,
`struct fdca_vector_mem_op`, which `fdca_vector_mem_create_op` allocates and
`fdca_vector_mem_set_stride` and `fdca_vector_mem_set_indices` adjust.
`fdca_vector_mem_execute` runs it: it stages a coherent DMA buffer sized for the
transfer (`fdca_vector_mem_prepare_dma`), programs the vector unit's registers for the
addressing mode and starts it, polls the status register until the operation completes or
a deadline of one second passes (`fdca_vector_mem_wait_completion`), and releases the
buffer (`fdca_vector_mem_cleanup_dma`).

The descriptor keeps its fields at their C widths. The index array it points to is an
`IndexArray`: its slab address and the entries it was allocated for. Register writes are
`MmioWrite`s at offsets from the unit's base. The unit's answers are an input
(`VecPoll`): `jiffies` when the poll starts, `msecs_to_jiffies(1000)`, which depends on the
kernel's tick rate, and per round of the poll the status value read and `jiffies` at the
deadline check. A finite list of rounds may run out before the poll returns; the run then
ends `polling`.

Two facts about the sizes are established here. The staging buffer is sized by a `u32`
product, so it is the transfer's size modulo `2 ^ 32` (`fdcaVectorMemPrepareDma_size`): it is
the transfer's size below `2 ^ 32`, and no op is refused for having no element
(`fdcaVectorMemExecute_staging`). And the index array an op points to always has
`num_elements` entries, but a failed `fdca_vector_mem_set_indices` leaves the op with no
array at all, as does never calling it, so the index copy of an indexed execute can read
through `NULL` (`opReachable_indices`).

The descriptors and their index arrays are the slab blocks of this part of the runtime.
Over any run of the builder calls against one allocator, with every outcome of each
allocation, the live blocks are exactly the live descriptors and their arrays and nothing
is freed twice (`vecOpReachable_ownership`).
-/

namespace FdcaRvv

/-! ## The descriptor -/

/-- `enum fdca_vmem_type` as the number the control register carries. -/
def FdcaVmemType.val : FdcaVmemType → U32
  | .unitStride => 0
  | .strided => 1
  | .indexed => 2
  | .segment => 3
  | .wholeReg => 4

/-- The array `op->indices` points to: its slab address and its entries. -/
structure IndexArray where
  addr : Nat
  entries : List U32
  deriving DecidableEq, Repr

/-- `struct fdca_vector_mem_op`; the defaults are the fields `kzalloc` zeroes and
`fdca_vector_mem_create_op` does not set. -/
structure FdcaVectorMemOp where
  type : FdcaVmemType
  baseAddr : U64
  stride : U32 := 0
  indices : Option IndexArray := none
  numElements : U32
  elementSize : U32
  isLoad : Bool
  dmaAddr : Nat := 0
  cpuAddr : Option Nat := none
  totalSize : U64 := 0
  deriving DecidableEq, Repr

/-- One `iowrite32` or `iowrite64` to the vector unit, at `offset` from its base. -/
structure MmioWrite where
  offset : Nat
  value : Nat
  deriving DecidableEq, Repr

/-! ## Building a descriptor -/

/-- `fdca_vector_mem_create_op`: the descriptor's address and contents, or `NULL`. -/
def fdcaVectorMemCreateOp (type : FdcaVmemType) (baseAddr : U64) (numElements elementSize : U32)
    (isLoad : Bool) (heap : Slab) : Option (Nat × FdcaVectorMemOp) × Slab :=
  match kzalloc .vectorMemOp heap with
  | (none, heap) => (none, heap)
  | (some addr, heap) => (some (addr, { type, baseAddr, numElements, elementSize, isLoad }), heap)

/-- `fdca_vector_mem_destroy_op`: free the index array, then the descriptor. -/
def fdcaVectorMemDestroyOp (opAddr : Nat) (op : FdcaVectorMemOp) (heap : Slab) : Slab :=
  kfree (some opAddr) (kfree (op.indices.map (·.addr)) heap)

/-- `fdca_vector_mem_set_stride`. -/
def fdcaVectorMemSetStride (op : FdcaVectorMemOp) (stride : U32) : FdcaVectorMemOp :=
  { op with stride }

/-- `fdca_vector_mem_set_indices`: free the old array, allocate one of `count` entries and
copy the caller's first `count` indices into it (`none` is a `NULL` argument). When the
allocation fails the descriptor keeps the `NULL` that `kmalloc` returned. -/
def fdcaVectorMemSetIndices (op : FdcaVectorMemOp) (indices : Option (Nat → U32)) (count : U32)
    (heap : Slab) : FdcaVectorMemOp × Slab × Int :=
  match indices with
  | none => (op, heap, -EINVAL)
  | some src =>
    let heap := kfree (op.indices.map (·.addr)) heap
    match kmalloc .indices heap with
    | (none, heap) => ({ op with indices := none }, heap, -ENOMEM)
    | (some addr, heap) =>
      ({ op with
          indices := some ⟨addr, (List.range count.toNat).map src⟩
          numElements := count }, heap, 0)

/-! ## Executing a descriptor -/

/-- `fdca_vector_mem_prepare_dma`: size the transfer (a `u32` product, widened to
`size_t`) and allocate the staging buffer. Whole-register ops are refused. -/
def fdcaVectorMemPrepareDma (op : FdcaVectorMemOp) (pool : Slab) : FdcaVectorMemOp × Slab × Int :=
  let totalSize : Option U32 :=
    match op.type with
    | .unitStride => some (op.numElements * op.elementSize)
    | .strided => some (op.numElements * op.stride)
    | .indexed => some (op.numElements * op.elementSize)
    | .segment => some (op.numElements * op.elementSize)
    | .wholeReg => none
  match totalSize with
  | none => (op, pool, -EINVAL)
  | some totalSize =>
    let op := { op with totalSize := totalSize.setWidth 64 }
    match dmaAllocCoherent op.totalSize.toNat pool with
    | (none, pool) => ({ op with cpuAddr := none }, pool, -ENOMEM)
    | (some addr, pool) => ({ op with cpuAddr := some addr, dmaAddr := addr }, pool, 0)

/-- `fdca_vector_mem_cleanup_dma`. -/
def fdcaVectorMemCleanupDma (op : FdcaVectorMemOp) (pool : Slab) : FdcaVectorMemOp × Slab :=
  match op.cpuAddr with
  | none => (op, pool)
  | some addr => ({ op with cpuAddr := none }, dmaFreeCoherent op.totalSize.toNat addr pool)

/-- The last two writes of every mode: the control word (bit 0 for a load, the mode from
bit 4) at `ctrlOffset`, and the start bit in the next register. -/
def vmemKick (isLoad : Bool) (type : FdcaVmemType) (ctrlOffset : Nat) : List MmioWrite :=
  [⟨ctrlOffset, ((if isLoad then 1 else 0) ||| type.val <<< 4 : U32).toNat⟩,
    ⟨ctrlOffset + 4, 1⟩]

/-- `fdca_vector_mem_unit_stride`. -/
def fdcaVectorMemUnitStride (op : FdcaVectorMemOp) : List MmioWrite :=
  [⟨0x100, op.baseAddr.toNat⟩, ⟨0x108, op.numElements.toNat⟩,
    ⟨0x10C, op.elementSize.toNat⟩, ⟨0x110, op.dmaAddr⟩] ++
    vmemKick op.isLoad .unitStride 0x118

/-- `fdca_vector_mem_strided`. -/
def fdcaVectorMemStrided (op : FdcaVectorMemOp) : List MmioWrite :=
  [⟨0x120, op.baseAddr.toNat⟩, ⟨0x128, op.stride.toNat⟩, ⟨0x12C, op.numElements.toNat⟩,
    ⟨0x130, op.elementSize.toNat⟩, ⟨0x134, op.dmaAddr⟩] ++ vmemKick op.isLoad .strided 0x138

/-- `fdca_vector_mem_segment`: the stride field holds the number of fields. -/
def fdcaVectorMemSegment (op : FdcaVectorMemOp) : List MmioWrite :=
  [⟨0x180, op.baseAddr.toNat⟩, ⟨0x188, op.stride.toNat⟩, ⟨0x18C, op.numElements.toNat⟩,
    ⟨0x190, op.elementSize.toNat⟩, ⟨0x194, op.dmaAddr⟩] ++ vmemKick op.isLoad .segment 0x198

/-- What `memcpy(dst, op->indices, count * sizeof(u32))` reads: the array's first `count`
entries, or `none` when the copy reads through `NULL` or past the array. -/
def readIndices (indices : Option IndexArray) (count : Nat) : Option (List U32) :=
  if count = 0 then some [] else
  match indices with
  | some arr => if count ≤ arr.entries.length then some (arr.entries.take count) else none
  | none => none

/-- `fdca_vector_mem_indexed`: stage the index array in a DMA buffer of its own, program and
start the unit, and free the index buffer. The result's `none` is a copy of the index
array that reads through `NULL` or past it. -/
def fdcaVectorMemIndexed (op : FdcaVectorMemOp) (pool : Slab) :
    Slab × List MmioWrite × Option Int :=
  let indicesSize := op.numElements.toNat * 4
  match dmaAllocCoherent indicesSize pool with
  | (none, pool) => (pool, [], some (-ENOMEM))
  | (some indicesDma, pool) =>
    match readIndices op.indices op.numElements.toNat with
    | none => (pool, [], none)
    | some _ =>
      (dmaFreeCoherent indicesSize indicesDma pool,
        [⟨0x140, op.baseAddr.toNat⟩, ⟨0x148, indicesDma⟩, ⟨0x150, op.numElements.toNat⟩,
          ⟨0x154, op.elementSize.toNat⟩, ⟨0x158, op.dmaAddr⟩] ++
          vmemKick op.isLoad .indexed 0x160,
        some 0)

/-- `time_after(a, b)`, `(long)((b) - (a)) < 0`: on the wrapping `jiffies` clock, an
`unsigned long` of `w` = `BITS_PER_LONG` bits, `a` is after `b`. -/
def timeAfter {w : Nat} (a b : BitVec w) : Bool := (b - a).slt 0

/-- `fdca_vector_mem_wait_completion`, from the deadline on: each round reads the status
(bit 0 done, bit 1 error) and then checks the deadline against `jiffies`. `none` is a poll
still running when the supplied rounds end. -/
def fdcaVectorMemWaitCompletion {w : Nat} (timeout : BitVec w) :
    List (U32 × BitVec w) → Option Int
  | [] => none
  | (status, now) :: rounds =>
    if status &&& 1 ≠ 0 then some (if status &&& 2 ≠ 0 then - EIO else 0)
    else if timeAfter now timeout then some (-ETIMEDOUT)
    else fdcaVectorMemWaitCompletion timeout rounds

/-- The vector unit's side of one execute: `jiffies` when the poll starts,
`msecs_to_jiffies(1000)`, and per round of the poll the status value and `jiffies`. -/
structure VecPoll where
  start : U64
  timeoutJiffies : U64
  rounds : List (U32 × U64)
  deriving DecidableEq, Repr

/-- How a run of `fdca_vector_mem_execute` ends: it returns, or the index copy reads
through `NULL` or past the array, or it is still polling when the supplied rounds end. -/
inductive VecExecEnd
  | returned (ret : Int)
  | fault
  | polling
  deriving DecidableEq, Repr

/-- `fdca_vector_mem_execute`: the descriptor, the DMA pool and the register writes when
the run ends, and how it ends. -/
def fdcaVectorMemExecute (fdev : FdcaDevice) (op : FdcaVectorMemOp) (pool : Slab)
    (poll : VecPoll) : FdcaVectorMemOp × Slab × List MmioWrite × VecExecEnd :=
  if !fdev.vpu.present then (op, pool, [], .returned (-ENODEV)) else
  let prepared := fdcaVectorMemPrepareDma op pool
  let op := prepared.1
  if prepared.2.2 ≠ 0 then (op, prepared.2.1, [], .returned prepared.2.2) else
  let issued : Slab × List MmioWrite × Option Int :=
    match op.type with
    | .unitStride => (prepared.2.1, fdcaVectorMemUnitStride op, some 0)
    | .strided => (prepared.2.1, fdcaVectorMemStrided op, some 0)
    | .indexed => fdcaVectorMemIndexed op prepared.2.1
    | .segment => (prepared.2.1, fdcaVectorMemSegment op, some 0)
    | .wholeReg => (prepared.2.1, [], some (-EINVAL))
  match issued.2.2 with
  | none => (op, issued.1, issued.2.1, .fault)
  | some ret =>
    let ret : Option Int :=
      if ret ≠ 0 then some ret
      else fdcaVectorMemWaitCompletion (poll.start + poll.timeoutJiffies) poll.rounds
    match ret with
    | none => (op, issued.1, issued.2.1, .polling)
    | some ret =>
      let cleaned := fdcaVectorMemCleanupDma op issued.1
      (cleaned.1, cleaned.2, issued.2.1, .returned ret)

/-! ## The staging buffer -/

/-- Whole-register ops are refused before any allocation. -/
theorem fdcaVectorMemPrepareDma_wholeReg {op : FdcaVectorMemOp} (whole : op.type = .wholeReg)
    (pool : Slab) : fdcaVectorMemPrepareDma op pool = (op, pool, -EINVAL) := by
  simp [fdcaVectorMemPrepareDma, whole]

/-- The staging buffer of a supported op: `fdca_vector_mem_prepare_dma` asks
`dma_alloc_coherent` for `num_elements * element_size` bytes (`num_elements * stride`
for a strided op) reduced modulo `2 ^ 32`, whether or not the op has an element, and the
op holds what the allocation returns. -/
theorem fdcaVectorMemPrepareDma_size {op : FdcaVectorMemOp} (supported : op.type ≠ .wholeReg)
    (pool : Slab) :
    (fdcaVectorMemPrepareDma op pool).1.totalSize.toNat =
        op.numElements.toNat * (if op.type = .strided then op.stride else op.elementSize).toNat %
          2 ^ 32 ∧
      (fdcaVectorMemPrepareDma op pool).1.cpuAddr =
        (dmaAllocCoherent (op.numElements.toNat *
          (if op.type = .strided then op.stride else op.elementSize).toNat % 2 ^ 32) pool).1 ∧
      (fdcaVectorMemPrepareDma op pool).2.1 =
        (dmaAllocCoherent (op.numElements.toNat *
          (if op.type = .strided then op.stride else op.elementSize).toNat % 2 ^ 32) pool).2 := by
  have size : ∀ a b : U32, ((a * b).setWidth 64).toNat = a.toNat * b.toNat % 2 ^ 32 := by
    intro a b
    rw [BitVec.toNat_setWidth, BitVec.toNat_mul]
    exact Nat.mod_eq_of_lt (Nat.lt_of_lt_of_le (Nat.mod_lt _ (by decide)) (by decide))
  unfold fdcaVectorMemPrepareDma
  cases type : op.type
  case wholeReg => exact absurd type supported
  all_goals
    simp only [type, reduceCtorEq, if_false, if_true, size]
    rcases dmaAllocCoherent _ pool with ⟨_ | addr, pool'⟩ <;> exact ⟨size _ _, rfl, rfl⟩

/-- The unit-stride op `fdca_vector_mem_create_op` builds for 65536 elements of 65536 bytes:
the unit is programmed for a 4 GiB transfer. -/
def wrapOp : FdcaVectorMemOp :=
  { type := .unitStride, baseAddr := 0, numElements := 65536, elementSize := 65536, isLoad := true }

/-- The `u32` product wraps: `wrapOp`'s staging buffer is of 0 bytes. -/
example : (fdcaVectorMemPrepareDma wrapOp (Slab.init fun _ => true)).1.totalSize = 0 := by decide

/-- The cleanup keeps the recorded transfer size. -/
theorem fdcaVectorMemCleanupDma_totalSize (op : FdcaVectorMemOp) (pool : Slab) :
    (fdcaVectorMemCleanupDma op pool).1.totalSize = op.totalSize := by
  unfold fdcaVectorMemCleanupDma
  split <;> rfl

/-- With the vector unit present, the descriptor `fdca_vector_mem_execute` leaves holds the
size its staging step computed, on every path. -/
theorem fdcaVectorMemExecute_totalSize {fdev : FdcaDevice} (present : fdev.vpu.present = true)
    (op : FdcaVectorMemOp) (pool : Slab) (poll : VecPoll) :
    (fdcaVectorMemExecute fdev op pool poll).1.totalSize =
      (fdcaVectorMemPrepareDma op pool).1.totalSize := by
  simp only [fdcaVectorMemExecute, present, Bool.not_true, Bool.false_eq_true, if_false]
  generalize fdcaVectorMemPrepareDma op pool = prepared
  split_ifs
  · rfl
  repeat' split
  all_goals first | rfl | exact fdcaVectorMemCleanupDma_totalSize _ _

/-- What `fdca_vector_mem_execute` does before its first DMA allocation, and the size of
that allocation. Without the vector unit, and for a whole-register op, it returns with the
DMA pool untouched. Any other op has its staging buffer sized `num_elements * element_size`
(`num_elements * stride` when strided) whenever that product is below `2 ^ 32`, an op with
no element included, and the descriptor `execute` leaves records that size. -/
theorem fdcaVectorMemExecute_staging (fdev : FdcaDevice) (op : FdcaVectorMemOp) (pool : Slab)
    (poll : VecPoll) :
    (fdev.vpu.present = false →
      fdcaVectorMemExecute fdev op pool poll = (op, pool, [], .returned (-ENODEV))) ∧
    (fdev.vpu.present = true → op.type = .wholeReg →
      fdcaVectorMemExecute fdev op pool poll = (op, pool, [], .returned (-EINVAL))) ∧
    (fdev.vpu.present = true → op.type ≠ .wholeReg →
      op.numElements.toNat * (if op.type = .strided then op.stride else op.elementSize).toNat <
        2 ^ 32 →
      (fdcaVectorMemPrepareDma op pool).2.1 =
          (dmaAllocCoherent (op.numElements.toNat *
            (if op.type = .strided then op.stride else op.elementSize).toNat) pool).2 ∧
        (fdcaVectorMemExecute fdev op pool poll).1.totalSize.toNat =
          op.numElements.toNat *
            (if op.type = .strided then op.stride else op.elementSize).toNat) := by
  refine ⟨fun absent => by simp [fdcaVectorMemExecute, absent], fun present whole => ?_,
    fun present supported fits => ?_⟩
  · simp [fdcaVectorMemExecute, present, fdcaVectorMemPrepareDma_wholeReg whole, EINVAL]
  · obtain ⟨size, -, pool'⟩ := fdcaVectorMemPrepareDma_size supported pool
    rw [Nat.mod_eq_of_lt fits] at size pool'
    exact ⟨pool',
      (congrArg BitVec.toNat (fdcaVectorMemExecute_totalSize present op pool poll)).trans size⟩

/-- A strided op of eight 4-byte elements, 16 bytes apart. -/
def stridedOp : FdcaVectorMemOp :=
  { type := .strided, baseAddr := 0, stride := 16, numElements := 8, elementSize := 4
    isLoad := true }

/-- The staging buffer of `stridedOp` is `8 * 16` bytes; a whole-register op and a device
without its vector unit are refused before any allocation. -/
theorem fdcaVectorMemExecute_staging_strided :
    (fdcaVectorMemExecute { sampleDevice with vpu := { present := false, mmioBase := 0 } }
        stridedOp (Slab.init fun _ => true) ⟨0, 250, []⟩ =
      (stridedOp, Slab.init fun _ => true, [], .returned (-ENODEV))) ∧
    (fdcaVectorMemExecute sampleDevice { stridedOp with type := .wholeReg }
        (Slab.init fun _ => true) ⟨0, 250, []⟩ =
      ({ stridedOp with type := .wholeReg }, Slab.init fun _ => true, [], .returned (-EINVAL))) ∧
    (fdcaVectorMemExecute sampleDevice stridedOp (Slab.init fun _ => true)
        ⟨0, 250, [(1, 0)]⟩).1.totalSize.toNat = 128 :=
  ⟨(fdcaVectorMemExecute_staging _ stridedOp _ ⟨0, 250, []⟩).1 rfl,
    (fdcaVectorMemExecute_staging sampleDevice { stridedOp with type := .wholeReg } _
      ⟨0, 250, []⟩).2.1 rfl rfl,
    ((fdcaVectorMemExecute_staging sampleDevice stridedOp _ ⟨0, 250, [(1, 0)]⟩).2.2 rfl
      (by decide) (by decide)).2⟩

/-- The descriptor `fdca_vector_mem_create_op` builds for a unit-stride op with no element. -/
def emptyOp : FdcaVectorMemOp :=
  { type := .unitStride, baseAddr := 0, numElements := 0, elementSize := 4, isLoad := true }

/-- An op with no element is not refused: executing `emptyOp` allocates a staging buffer of
0 bytes, then completes and returns 0. -/
theorem fdcaVectorMemExecute_zeroElements :
    (fdcaVectorMemCreateOp .unitStride 0 0 4 true (Slab.init fun _ => true)).1 =
        some (0, emptyOp) ∧
      (fdcaVectorMemPrepareDma emptyOp (Slab.init fun _ => true)).2.1.live =
        [⟨0, .dmaCoherent 0⟩] ∧
      (fdcaVectorMemExecute sampleDevice emptyOp (Slab.init fun _ => true)
        ⟨0, 250, [(1, 0)]⟩).2.1.attempts = 1 ∧
      (fdcaVectorMemExecute sampleDevice emptyOp (Slab.init fun _ => true)
        ⟨0, 250, [(1, 0)]⟩).2.2.2 = .returned 0 :=
  ⟨rfl, rfl, rfl, rfl⟩

/-! ## The index array -/

/-- Preparing the staging buffer changes only the DMA fields of the descriptor. -/
theorem fdcaVectorMemPrepareDma_fields (op : FdcaVectorMemOp) (pool : Slab) :
    (fdcaVectorMemPrepareDma op pool).1.type = op.type ∧
      (fdcaVectorMemPrepareDma op pool).1.indices = op.indices ∧
      (fdcaVectorMemPrepareDma op pool).1.numElements = op.numElements := by
  unfold fdcaVectorMemPrepareDma
  cases t : op.type
  case wholeReg => exact ⟨t, rfl, rfl⟩
  all_goals
    dsimp only
    split <;> exact ⟨rfl, rfl, rfl⟩

/-- The one failure of `fdca_vector_mem_indexed` that is not a return value is its copy of
the index array. -/
theorem fdcaVectorMemIndexed_fault {op : FdcaVectorMemOp} {pool : Slab}
    (fault : (fdcaVectorMemIndexed op pool).2.2 = none) :
    readIndices op.indices op.numElements.toNat = none := by
  unfold fdcaVectorMemIndexed at fault
  split at fault
  · assumption
  · dsimp only at fault
    split at fault <;> simp at fault

/-- An execute that faults is an indexed one whose index copy reads through `NULL` or past
the array: every other path of `fdca_vector_mem_execute` returns or polls. -/
theorem fdcaVectorMemExecute_fault {fdev : FdcaDevice} {op : FdcaVectorMemOp} {pool : Slab}
    {poll : VecPoll} (fault : (fdcaVectorMemExecute fdev op pool poll).2.2.2 = .fault) :
    op.type = .indexed ∧ readIndices op.indices op.numElements.toNat = none := by
  obtain ⟨type, indices, numElements⟩ := fdcaVectorMemPrepareDma_fields op pool
  revert fault
  unfold fdcaVectorMemExecute
  cases fdev.vpu.present
  · exact fun returned => VecExecEnd.noConfusion returned
  generalize fdcaVectorMemPrepareDma op pool = prepared at type indices numElements ⊢
  simp only [Bool.not_true, Bool.false_eq_true, ↓reduceIte]
  by_cases refused : prepared.2.2 ≠ 0
  · rw [if_pos refused]
    exact fun returned => VecExecEnd.noConfusion returned
  rw [if_neg refused]
  by_cases indexed : prepared.1.type = .indexed
  · simp only [indexed]
    split
    next fault =>
      rw [← type, ← indices, ← numElements]
      exact fun _ => ⟨indexed, fdcaVectorMemIndexed_fault fault⟩
    next => split <;> exact fun ended => VecExecEnd.noConfusion ended
  · cases t : prepared.1.type
    all_goals first
      | exact absurd t indexed
      | simp only [t]
        split <;> exact fun ended => VecExecEnd.noConfusion ended

/-- The descriptors reachable from `fdca_vector_mem_create_op` by stride and index-array
updates, each succeeding or failing, whatever the allocator's state at each call. -/
inductive OpReachable : FdcaVectorMemOp → Prop
  | create {type : FdcaVmemType} {baseAddr : U64} {numElements elementSize : U32} {isLoad : Bool}
      {heap heap' : Slab} {opAddr : Nat} {op : FdcaVectorMemOp} :
      fdcaVectorMemCreateOp type baseAddr numElements elementSize isLoad heap =
        (some (opAddr, op), heap') → OpReachable op
  | setStride {op : FdcaVectorMemOp} (stride : U32) :
      OpReachable op → OpReachable (fdcaVectorMemSetStride op stride)
  | setIndices {op : FdcaVectorMemOp} (indices : Option (Nat → U32)) (count : U32) (heap : Slab) :
      OpReachable op → OpReachable (fdcaVectorMemSetIndices op indices count heap).1

/-- What `fdca_vector_mem_set_indices` leaves: with a `NULL` argument the descriptor as it
was, after a failed allocation the descriptor without an index array, and after a
successful one an array of `count` entries, `count` being the new element count. -/
theorem fdcaVectorMemSetIndices_cases (op : FdcaVectorMemOp) (indices : Option (Nat → U32))
    (count : U32) (heap : Slab) :
    (indices = none ∧ (fdcaVectorMemSetIndices op indices count heap).1 = op ∧
        (fdcaVectorMemSetIndices op indices count heap).2.2 = -EINVAL) ∨
      ((fdcaVectorMemSetIndices op indices count heap).1 = { op with indices := none } ∧
        (fdcaVectorMemSetIndices op indices count heap).2.2 = -ENOMEM) ∨
      ∃ arr : IndexArray, arr.entries.length = count.toNat ∧
        (fdcaVectorMemSetIndices op indices count heap).1 =
          { op with indices := some arr, numElements := count } ∧
        (fdcaVectorMemSetIndices op indices count heap).2.2 = 0 := by
  unfold fdcaVectorMemSetIndices
  rcases indices with _ | src
  · exact .inl ⟨rfl, rfl, rfl⟩
  · dsimp only
    split
    · exact .inr (.inl ⟨rfl, rfl⟩)
    · exact .inr (.inr ⟨_, by simp, rfl, rfl⟩)

/-- A `fdca_vector_mem_set_indices` with an array whose allocation fails leaves the
descriptor without an array: the old one is freed and the `NULL` from `kmalloc` is kept. -/
theorem fdcaVectorMemSetIndices_of_ne_zero {op : FdcaVectorMemOp} {src : Nat → U32} {count : U32}
    {heap : Slab} (failed : (fdcaVectorMemSetIndices op (some src) count heap).2.2 ≠ 0) :
    (fdcaVectorMemSetIndices op (some src) count heap).1 = { op with indices := none } := by
  rcases fdcaVectorMemSetIndices_cases op (some src) count heap with
    ⟨⟨⟩, -⟩ | ⟨eq, -⟩ | ⟨arr, -, -, ret⟩
  · exact eq
  · exact absurd ret failed

/-- The index array of a reachable descriptor, when there is one, has `num_elements`
entries: `fdca_vector_mem_create_op` sets none, and each `fdca_vector_mem_set_indices` keeps
the array, drops it, or installs one of `count` entries with `count` elements. -/
theorem OpReachable.indices_length {op : FdcaVectorMemOp} (reach : OpReachable op) :
    ∀ arr, op.indices = some arr → arr.entries.length = op.numElements.toNat := by
  induction reach with
  | create created =>
    unfold fdcaVectorMemCreateOp at created
    split at created <;> cases created
    exact fun _ absent => nomatch absent
  | setStride stride _ ih => exact ih
  | setIndices indices count heap _ ih =>
    rcases fdcaVectorMemSetIndices_cases _ indices count heap with
      ⟨-, eq, -⟩ | ⟨eq, -⟩ | ⟨arr, length, eq, -⟩ <;> rw [eq]
    · exact ih
    · exact fun _ absent => nomatch absent
    · rintro _ ⟨⟩
      exact length

/-- When the array covers the elements, the index copy fails exactly when there is no array
and there are elements to copy. -/
theorem readIndices_eq_none_iff {op : FdcaVectorMemOp}
    (cover : ∀ arr, op.indices = some arr → arr.entries.length = op.numElements.toNat) :
    readIndices op.indices op.numElements.toNat = none ↔
      op.indices = none ∧ op.numElements ≠ 0 := by
  unfold readIndices
  rcases indices : op.indices with _ | arr
  · by_cases zero : op.numElements.toNat = 0 <;> simp [zero] <;> bv_omega
  · by_cases zero : op.numElements.toNat = 0 <;> simp [zero, cover arr indices]

/-- The index array of every reachable descriptor has exactly `num_elements` entries, so
the index copy fails exactly when there is no array and there are elements, and an execute
faults only then; and a `fdca_vector_mem_set_indices` whose allocation fails leaves the
descriptor without an array, its element count unchanged. -/
theorem opReachable_indices {op : FdcaVectorMemOp} (reach : OpReachable op) :
    (∀ arr, op.indices = some arr → arr.entries.length = op.numElements.toNat) ∧
      (readIndices op.indices op.numElements.toNat = none ↔
        op.indices = none ∧ op.numElements ≠ 0) ∧
      (∀ fdev pool poll, (fdcaVectorMemExecute fdev op pool poll).2.2.2 = .fault →
        op.type = .indexed ∧ op.indices = none ∧ op.numElements ≠ 0) ∧
      (∀ src count heap, (fdcaVectorMemSetIndices op (some src) count heap).2.2 ≠ 0 →
        (fdcaVectorMemSetIndices op (some src) count heap).1 = { op with indices := none }) := by
  have copy := readIndices_eq_none_iff reach.indices_length
  refine ⟨reach.indices_length, copy, fun _ _ _ fault => ?_,
    fun _ _ _ failed => fdcaVectorMemSetIndices_of_ne_zero failed⟩
  obtain ⟨indexed, none⟩ := fdcaVectorMemExecute_fault fault
  exact ⟨indexed, copy.1 none⟩

/-- The indexed descriptor `fdca_vector_mem_create_op` builds for four 4-byte elements. -/
def unindexedOp : FdcaVectorMemOp :=
  { type := .indexed, baseAddr := 0, numElements := 4, elementSize := 4, isLoad := true }

/-- A caller's index array holding `0, 1, 2, ...`. -/
def rampIndices (i : Nat) : U32 := BitVec.ofNat 32 i

/-- An allocator whose first two attempts succeed and whose later ones fail. -/
def twoAllocs : Slab := Slab.init fun n => decide (n < 2)

/-- Two runs whose index copy reads through `NULL`: `unindexedOp` executed before any index
array is set, and the same descriptor after a first `fdca_vector_mem_set_indices`
succeeds and a second one fails to allocate, which drops the array but keeps the four
elements. -/
theorem opReachable_indices_unset :
    OpReachable unindexedOp ∧ unindexedOp.indices = none ∧
      (fdcaVectorMemExecute sampleDevice unindexedOp (Slab.init fun _ => true)
        ⟨0, 250, []⟩).2.2.2 = .fault ∧
      (fdcaVectorMemCreateOp .indexed 0 4 4 true twoAllocs).1 = some (0, unindexedOp) ∧
      let set := fdcaVectorMemSetIndices unindexedOp (some rampIndices) 4
        (fdcaVectorMemCreateOp .indexed 0 4 4 true twoAllocs).2
      let reset := fdcaVectorMemSetIndices set.1 (some rampIndices) 4 set.2.1
      set.2.2 = 0 ∧ set.1.indices.isSome ∧ reset.2.2 = -ENOMEM ∧
        reset.1 = { set.1 with indices := none } ∧ reset.1.numElements = 4 ∧
        (fdcaVectorMemExecute sampleDevice reset.1 (Slab.init fun _ => true)
          ⟨0, 250, []⟩).2.2.2 = .fault :=
  have reach : OpReachable unindexedOp :=
    .create (rfl : fdcaVectorMemCreateOp .indexed 0 4 4 true twoAllocs = (some (0, unindexedOp), _))
  have set :=
    reach.setIndices (some rampIndices) 4 (fdcaVectorMemCreateOp .indexed 0 4 4 true twoAllocs).2
  ⟨reach, rfl, rfl, rfl, rfl, rfl, rfl,
    (opReachable_indices set).2.2.2 _ _ _ (by decide), rfl, rfl⟩

/-! ## Ownership of descriptors -/

/-- The slab blocks a live descriptor owns: its index array, when it has one, and the
descriptor itself. -/
def opBlocks (entry : Nat × FdcaVectorMemOp) : List Block :=
  (entry.2.indices.map (·.addr)).toList.map (⟨·, .indices⟩) ++ [⟨entry.1, .vectorMemOp⟩]

/-- `fdca_vector_mem_create_op` adds the blocks of the descriptor it returns to the live
blocks, and nothing when it fails. -/
theorem fdcaVectorMemCreateOp_live (type : FdcaVmemType) (baseAddr : U64)
    (numElements elementSize : U32) (isLoad : Bool) (heap : Slab) :
    (fdcaVectorMemCreateOp type baseAddr numElements elementSize isLoad heap).2.badFrees =
        heap.badFrees ∧
      (fdcaVectorMemCreateOp type baseAddr numElements elementSize isLoad heap).2.live =
        (fdcaVectorMemCreateOp type baseAddr numElements elementSize isLoad heap).1.toList.flatMap
          opBlocks ++ heap.live := by
  unfold fdcaVectorMemCreateOp
  rw [kzalloc_eq]
  split
  next heap' alloc =>
    obtain ⟨bad, live⟩ := kmalloc_live alloc
    simp [bad, live]
  next addr heap' alloc =>
    obtain ⟨bad, live⟩ := kmalloc_live alloc
    simp [bad, live, opBlocks]

/-- `fdca_vector_mem_set_indices` on a live descriptor releases its old array and adds the
new one, if any, wherever the descriptor's blocks sit among the live blocks. -/
theorem fdcaVectorMemSetIndices_live {opAddr : Nat} {op : FdcaVectorMemOp} {heap : Slab}
    {front back : List Block} (indices : Option (Nat → U32)) (count : U32)
    (perm : heap.live.Perm (front ++ opBlocks (opAddr, op) ++ back)) :
    (fdcaVectorMemSetIndices op indices count heap).2.1.live.Perm
        (front ++ opBlocks (opAddr, (fdcaVectorMemSetIndices op indices count heap).1) ++ back) ∧
      (fdcaVectorMemSetIndices op indices count heap).2.1.badFrees = heap.badFrees := by
  cases indices with
  | none => exact ⟨perm, rfl⟩
  | some src =>
    obtain ⟨freed, bad₁⟩ := @kfree_of_perm .indices heap (op.indices.map (·.addr)) front
      ([⟨opAddr, .vectorMemOp⟩] ++ back) (by simpa [opBlocks] using perm)
    dsimp only [fdcaVectorMemSetIndices]
    split
    next heap' alloc =>
      obtain ⟨bad₂, live⟩ := kmalloc_live alloc
      exact ⟨by simpa [opBlocks, live] using freed, bad₂.trans bad₁⟩
    next addr heap' alloc =>
      obtain ⟨bad₂, live⟩ := kmalloc_live alloc
      refine ⟨?_, bad₂.trans bad₁⟩
      rw [live]
      simpa [opBlocks] using (freed.cons _).trans List.perm_middle.symm

/-- `fdca_vector_mem_destroy_op` of a live descriptor releases exactly its blocks. -/
theorem fdcaVectorMemDestroyOp_live {opAddr : Nat} {op : FdcaVectorMemOp} {heap : Slab}
    {front back : List Block} (perm : heap.live.Perm (front ++ opBlocks (opAddr, op) ++ back)) :
    (fdcaVectorMemDestroyOp opAddr op heap).live.Perm (front ++ back) ∧
      (fdcaVectorMemDestroyOp opAddr op heap).badFrees = heap.badFrees := by
  obtain ⟨array, bad₁⟩ := @kfree_of_perm .indices heap (op.indices.map (·.addr)) front
    ([⟨opAddr, .vectorMemOp⟩] ++ back) (by simpa [opBlocks] using perm)
  obtain ⟨desc, bad₂⟩ := @kfree_of_perm .vectorMemOp _ (some opAddr) front back
    (by simpa using array)
  exact ⟨desc, bad₂.trans bad₁⟩

/-- The allocator and the table of live descriptors, each at its address. -/
structure VecOpSystem where
  heap : Slab
  ops : List (Nat × FdcaVectorMemOp)

/-- No descriptor yet, and an allocator whose attempts succeed as `succeeds` says. -/
def VecOpSystem.init (succeeds : Nat → Bool) : VecOpSystem := ⟨Slab.init succeeds, []⟩

/-- One call of the descriptor API. Stride and index updates and destroy act on a live
descriptor; destroy takes it out of the table, so no descriptor is destroyed twice. -/
inductive VecOpStep : VecOpSystem → VecOpSystem → Prop
  | create {s : VecOpSystem} (type : FdcaVmemType) (baseAddr : U64) (numElements elementSize : U32)
      (isLoad : Bool) :
      VecOpStep s
        ⟨(fdcaVectorMemCreateOp type baseAddr numElements elementSize isLoad s.heap).2,
          (fdcaVectorMemCreateOp type baseAddr numElements elementSize isLoad s.heap).1.toList ++
            s.ops⟩
  | setStride {heap : Slab} {front back : List (Nat × FdcaVectorMemOp)} {opAddr : Nat}
      {op : FdcaVectorMemOp} (stride : U32) :
      VecOpStep ⟨heap, front ++ (opAddr, op) :: back⟩
        ⟨heap, front ++ (opAddr, fdcaVectorMemSetStride op stride) :: back⟩
  | setIndices {heap : Slab} {front back : List (Nat × FdcaVectorMemOp)} {opAddr : Nat}
      {op : FdcaVectorMemOp} (indices : Option (Nat → U32)) (count : U32) :
      VecOpStep ⟨heap, front ++ (opAddr, op) :: back⟩
        ⟨(fdcaVectorMemSetIndices op indices count heap).2.1,
          front ++ (opAddr, (fdcaVectorMemSetIndices op indices count heap).1) :: back⟩
  | destroy {heap : Slab} {front back : List (Nat × FdcaVectorMemOp)} {opAddr : Nat}
      {op : FdcaVectorMemOp} :
      VecOpStep ⟨heap, front ++ (opAddr, op) :: back⟩
        ⟨fdcaVectorMemDestroyOp opAddr op heap, front ++ back⟩

/-- The ownership invariant of descriptors: no bad free has happened, the live blocks are
exactly the blocks of the live descriptors, and every live descriptor is one
`OpReachable` describes. -/
structure VecOpInv (s : VecOpSystem) : Prop where
  noBadFree : s.heap.badFrees = 0
  live : s.heap.live.Perm (s.ops.flatMap opBlocks)
  reachable : ∀ entry ∈ s.ops, OpReachable entry.2

section VecOps

variable {s s' : VecOpSystem}

theorem VecOpInv.init (succeeds : Nat → Bool) : VecOpInv (.init succeeds) where
  noBadFree := rfl
  live := .refl _
  reachable _ mem := nomatch mem

/-- Updating one descriptor of the table in place, by a step `OpReachable` allows, keeps
the invariant once the live blocks follow. -/
theorem VecOpInv.update {heap heap' : Slab} {front back : List (Nat × FdcaVectorMemOp)}
    {opAddr : Nat} {op op' : FdcaVectorMemOp}
    (inv : VecOpInv ⟨heap, front ++ (opAddr, op) :: back⟩)
    (bad : heap'.badFrees = heap.badFrees)
    (live : heap'.live.Perm (front.flatMap opBlocks ++ opBlocks (opAddr, op') ++
      back.flatMap opBlocks))
    (reach : OpReachable op → OpReachable op') :
    VecOpInv ⟨heap', front ++ (opAddr, op') :: back⟩ := by
  refine ⟨bad.trans inv.noBadFree, by simpa using live, ?_⟩
  simp only [List.mem_append, List.mem_cons]
  rintro entry (mem | rfl | mem)
  · exact inv.reachable entry (by simp [mem])
  · exact reach (inv.reachable (opAddr, op) (by simp))
  · exact inv.reachable entry (by simp [mem])

/-- Every call of the descriptor API keeps the invariant. -/
theorem VecOpInv.step (inv : VecOpInv s) (step : VecOpStep s s') : VecOpInv s' := by
  have split : ∀ {heap : Slab} {front back : List (Nat × FdcaVectorMemOp)} {entry},
      VecOpInv ⟨heap, front ++ entry :: back⟩ →
        heap.live.Perm (front.flatMap opBlocks ++ opBlocks entry ++ back.flatMap opBlocks) :=
    fun inv => by simpa using inv.live
  cases step with
  | create type baseAddr numElements elementSize isLoad =>
    obtain ⟨bad, live⟩ :=
      fdcaVectorMemCreateOp_live type baseAddr numElements elementSize isLoad s.heap
    refine ⟨bad.trans inv.noBadFree, ?_, ?_⟩
    · rw [live, List.flatMap_append]
      exact inv.live.append_left _
    · intro entry mem
      rcases List.mem_append.1 mem with created | old
      · exact .create (Prod.ext (Option.mem_toList.1 created) rfl)
      · exact inv.reachable entry old
  | setStride stride =>
    exact inv.update rfl (by simpa [opBlocks, fdcaVectorMemSetStride] using split inv)
      (.setStride stride)
  | setIndices indices count =>
    obtain ⟨live, bad⟩ := fdcaVectorMemSetIndices_live indices count (split inv)
    exact inv.update bad live (.setIndices indices count _)
  | destroy =>
    obtain ⟨live, bad⟩ := fdcaVectorMemDestroyOp_live (split inv)
    refine ⟨bad.trans inv.noBadFree, by simpa using live,
      fun entry mem => inv.reachable entry ?_⟩
    simp only [List.mem_append, List.mem_cons] at mem ⊢
    tauto

/-- No leak and no double free of descriptors: every system reachable from the empty one,
by creates, stride and index-array updates and destroys with every outcome of each
allocation, satisfies the invariant. -/
theorem VecOpInv.of_reachable {succeeds : Nat → Bool}
    (reach : Relation.ReflTransGen VecOpStep (.init succeeds) s) : VecOpInv s := by
  induction reach with
  | refl => exact .init succeeds
  | tail _ step inv => exact inv.step step

end VecOps

/-- In every system of descriptors reachable from the empty one nothing leaks and nothing is
freed twice, and each live descriptor's index array, when it has one, holds exactly
`num_elements` entries. -/
theorem vecOpReachable_ownership {succeeds : Nat → Bool} {s : VecOpSystem}
    (reach : Relation.ReflTransGen VecOpStep (.init succeeds) s) :
    VecOpInv s ∧ ∀ entry ∈ s.ops, ∀ arr, entry.2.indices = some arr →
      arr.entries.length = entry.2.numElements.toNat :=
  have inv := VecOpInv.of_reachable reach
  ⟨inv, fun entry mem => (inv.reachable entry mem).indices_length⟩

/-- An indexed descriptor of four elements created at address 0 from a fresh allocator, then
given the ramp indices: the table holds it with its index array. -/
def sampleVecOps : VecOpSystem :=
  let created := fdcaVectorMemCreateOp .indexed 0 4 4 true (Slab.init fun _ => true)
  let set := fdcaVectorMemSetIndices unindexedOp (some rampIndices) 4 created.2
  ⟨set.2.1, [(0, set.1)]⟩

/-- The ownership theorem after a create and an index update. -/
theorem vecOpReachable_ownership_sample :
    Relation.ReflTransGen VecOpStep (.init fun _ => true) sampleVecOps ∧
      VecOpInv sampleVecOps ∧
      ∀ entry ∈ sampleVecOps.ops, ∀ arr, entry.2.indices = some arr → arr.entries.length = 4 :=
  have reach : Relation.ReflTransGen VecOpStep (.init fun _ => true) sampleVecOps :=
    .tail (.single (.create .indexed 0 4 4 true))
      (@VecOpStep.setIndices _ [] [] 0 unindexedOp (some rampIndices) 4)
  have owned := vecOpReachable_ownership reach
  ⟨reach, owned.1, fun entry mem arr indices => by
    obtain rfl := List.mem_singleton.1 mem
    exact owned.2 _ mem arr indices⟩

end FdcaRvv
