import FdcaRvv.VectorMem

/-!
# Running a descriptor

What one `fdca_vector_mem_execute` does with the two resources it touches besides the
registers: the deadline of its completion poll, and the coherent DMA buffers it allocates.

The poll (`fdca_vector_mem_wait_completion`) reads the status register, returns on bit 0
(with `-EIO` when bit 1 is also set), and otherwise gives up once `time_after(jiffies,
deadline)` holds, the deadline being `msecs_to_jiffies(1000)` ticks after `jiffies` at the
start. `jiffies` is an `unsigned long` and wraps; `time_after` compares through a signed
difference, so it decides by the ticks actually elapsed as long as fewer than half the
clock's range have passed and the timeout itself is below that half
(`fdcaVectorMemWaitCompletion_wrap`). `msecs_to_jiffies(1000)` is `HZ`, a few hundred or
thousand ticks, far below `2 ^ (BITS_PER_LONG - 1)`.

A run of `fdca_vector_mem_execute` returns once its poll decides, unless it is the index copy
of an indexed descriptor that has elements and no index array, which the API builds: that
copy reads through `NULL`. The model's only other end is a poll still running when the
supplied rounds end. Every run that returns leaves the DMA pool's live blocks as it found
them and counts no bad free: each buffer it allocated, the staging buffer and the indexed
mode's index buffer, was freed once with the size it was allocated with. The run that
faults frees nothing, and its two buffers stay allocated (`fdcaVectorMemExecute_buffers`).
The proofs follow the pool through the phases of one run with `DmaOver`: an allocation
pushes a buffer, its free pops it.
-/

namespace FdcaRvv

/-! ## The completion poll -/

/-- A clock difference is negative as a `long` exactly when its top bit is set. -/
theorem slt_zero_eq_decide {w : Nat} (x : BitVec w) :
    x.slt 0 = decide (2 ^ w ≤ 2 * x.toNat) := by
  have := x.isLt
  have zero : (0 : BitVec w).toNat = 0 := by simp
  simp only [BitVec.slt, BitVec.toInt_eq_toNat_cond, zero, decide_eq_decide]
  split_ifs <;> omega

/-- `time_after` of a reading `e` ticks after `j0` against the deadline `T` ticks after
`j0` holds exactly when more than `T` ticks have passed, wherever `j0` sits on the clock,
as long as `T` and `e` are below half the clock's range. -/
theorem timeAfter_add {w : Nat} (j0 T : BitVec w) {e : Nat} (short : T.toNat < 2 ^ (w - 1))
    (near : e < 2 ^ (w - 1)) :
    timeAfter (j0 + BitVec.ofNat w e) (j0 + T) = decide (T.toNat < e) := by
  rw [timeAfter, add_sub_add_left_eq_sub, slt_zero_eq_decide, BitVec.toNat_sub,
    BitVec.toNat_ofNat]
  cases w with
  | zero => simp at near; simp [near, Nat.mod_one]
  | succ w =>
    rw [Nat.add_sub_cancel] at short near
    have range : 2 ^ (w + 1) = 2 * 2 ^ w := by rw [Nat.pow_succ, Nat.mul_comm]
    rw [Nat.mod_eq_of_lt (show e < 2 ^ (w + 1) by omega), range, decide_eq_decide]
    by_cases late : T.toNat < e
    · rw [Nat.mod_eq_of_lt (show 2 * 2 ^ w - e + T.toNat < 2 * 2 ^ w by omega)]
      omega
    · rw [show 2 * 2 ^ w - e + T.toNat = (T.toNat - e) + 2 * 2 ^ w by omega, Nat.add_mod_right,
        Nat.mod_eq_of_lt (show T.toNat - e < 2 * 2 ^ w by omega)]
      omega

/-- The poll returns at its first decisive round, one whose status has bit 0 set or whose
`jiffies` is after the deadline, with that round's verdict; the rounds after it are never
read. -/
theorem fdcaVectorMemWaitCompletion_first {w : Nat} {timeout : BitVec w}
    (pre : List (U32 × BitVec w)) {status : U32} {now : BitVec w} (post : List (U32 × BitVec w))
    (pending : ∀ r ∈ pre, r.1 &&& 1 = 0 ∧ timeAfter r.2 timeout = false)
    (decisive : status &&& 1 ≠ 0 ∨ timeAfter now timeout = true) :
    fdcaVectorMemWaitCompletion timeout (pre ++ (status, now) :: post) =
      some (if status &&& 1 ≠ 0 then if status &&& 2 ≠ 0 then - EIO else 0 else -ETIMEDOUT) := by
  induction pre with
  | nil =>
    rw [List.nil_append, fdcaVectorMemWaitCompletion]
    by_cases done : status &&& 1 ≠ 0
    · rw [if_pos done, if_pos done]
    · rw [if_neg done, if_neg done, decisive.resolve_left done, if_pos rfl]
  | cons r pre ih =>
    obtain ⟨clear, early⟩ := pending r (.head _)
    rw [List.cons_append, fdcaVectorMemWaitCompletion, if_neg (not_not.2 clear), early]
    exact ih fun r' mem => pending r' (.tail _ mem)

/-- The completion poll across the wrap of `jiffies`. The deadline is `T` ticks after the
first reading `j0`, with `T` below half the clock's range; each reading is `j0` plus the
ticks elapsed, unwrapped. Then `time_after` against the deadline holds exactly when more than
`T` ticks have elapsed, and the poll returns at its first round whose status has bit 0 set
or whose elapsed ticks exceed `T`: `0` when the status has bit 0 set and bit 1 clear, `-EIO`
when both are set, and `-ETIMEDOUT` when bit 0 is clear. -/
theorem fdcaVectorMemWaitCompletion_wrap {w : Nat} (j0 T : BitVec w)
    (short : T.toNat < 2 ^ (w - 1)) :
    (∀ e < 2 ^ (w - 1), timeAfter (j0 + BitVec.ofNat w e) (j0 + T) = decide (T.toNat < e)) ∧
    ∀ (pre : List (U32 × Nat)) (status : U32) (e : Nat) (post : List (U32 × BitVec w)),
      (∀ r ∈ pre, r.1 &&& 1 = 0 ∧ r.2 ≤ T.toNat) → e < 2 ^ (w - 1) →
      (status &&& 1 ≠ 0 ∨ T.toNat < e) →
      fdcaVectorMemWaitCompletion (j0 + T)
        (pre.map (fun r => (r.1, j0 + BitVec.ofNat w r.2)) ++
          (status, j0 + BitVec.ofNat w e) :: post) =
        some (if status &&& 1 ≠ 0 then if status &&& 2 ≠ 0 then - EIO else 0
          else -ETIMEDOUT) := by
  have after : ∀ e < 2 ^ (w - 1),
      timeAfter (j0 + BitVec.ofNat w e) (j0 + T) = decide (T.toNat < e) :=
    fun _ near => timeAfter_add j0 T short near
  refine ⟨after, fun pre status e post pending near decisive => ?_⟩
  refine fdcaVectorMemWaitCompletion_first _ post (fun r mem => ?_) ?_
  · obtain ⟨r, memPre, rfl⟩ := List.mem_map.1 mem
    obtain ⟨clear, early⟩ := pending r memPre
    exact ⟨clear, by rw [after r.2 (by omega), decide_eq_false (by omega)]⟩
  · rw [after e near, decide_eq_true_iff]
    exact decisive

/-- A deadline that wraps: `jiffies` starts 100 ticks before the wrap and the timeout is
250 ticks, so the deadline reads 150. A reading 90 ticks in, `2 ^ 64 - 10`, is far above the
deadline as an unsigned number and still not after it; a poll that sees bit 0 clear at
ticks 10, 250 and 251 times out at tick 251. -/
theorem fdcaVectorMemWaitCompletion_wrap_late :
    (250 : U64).toNat < 2 ^ (64 - 1) ∧
      timeAfter ((-100 : U64) + BitVec.ofNat 64 90) (-100 + 250) = false ∧
      fdcaVectorMemWaitCompletion ((-100 : U64) + 250)
        [(0, -100 + BitVec.ofNat 64 10), (0, -100 + BitVec.ofNat 64 250),
          (0, -100 + BitVec.ofNat 64 251)] = some (-ETIMEDOUT) :=
  have wrap := fdcaVectorMemWaitCompletion_wrap (-100 : U64) 250 (by decide)
  ⟨by decide, (wrap.1 90 (by decide)).trans (by decide),
    (wrap.2 [(0, 10), (0, 250)] 0 251 [] (by decide) (by decide) (by decide)).trans (by decide)⟩

/-! ## The DMA buffers of one execute -/

/-- The pool `pool'` is `pool` with the coherent buffers `stack` allocated on top of it,
newest first, and no bad free counted since. -/
structure DmaOver (pool pool' : Slab) (stack : List Block) : Prop where
  live : pool'.live = stack ++ pool.live
  badFrees : pool'.badFrees = pool.badFrees

namespace DmaOver

variable {pool p p' : Slab} {stack : List Block}

theorem refl (pool : Slab) : DmaOver pool pool [] := ⟨rfl, rfl⟩

theorem trans {stack' : List Block} (over : DmaOver pool p stack)
    (over' : DmaOver p p' stack') : DmaOver pool p' (stack' ++ stack) :=
  ⟨by rw [over'.live, over.live, List.append_assoc], over'.badFrees.trans over.badFrees⟩

/-- `dma_alloc_coherent` pushes the buffer it returns, if any. -/
theorem alloc {size : Nat} {r : Option Nat} (over : DmaOver pool p stack)
    (h : dmaAllocCoherent size p = (r, p')) :
    DmaOver pool p' (r.toList.map (⟨·, .dmaCoherent size⟩) ++ stack) :=
  have ⟨bad, live⟩ := kmalloc_live h
  ⟨by rw [live, over.live, List.append_assoc], bad.trans over.badFrees⟩

/-- `dma_free_coherent` of the newest buffer, with the size it was allocated with, pops it. -/
theorem free {a size : Nat} (over : DmaOver pool p (⟨a, .dmaCoherent size⟩ :: stack)) :
    DmaOver pool (dmaFreeCoherent size a p) stack := by
  have head : p.live = ⟨a, .dmaCoherent size⟩ :: (stack ++ pool.live) := over.live
  obtain ⟨live, bad⟩ := kfree_of_head head
  rw [dmaFreeCoherent, if_pos (head ▸ List.mem_cons_self _ _)]
  exact ⟨live, bad.trans over.badFrees⟩

end DmaOver

/-- `fdca_vector_mem_prepare_dma` either succeeds, and the descriptor records the staging
buffer it pushed on the pool with that buffer's size, or fails with the pool's blocks as they
were and no new buffer in the descriptor. -/
theorem fdcaVectorMemPrepareDma_over (op : FdcaVectorMemOp) (pool : Slab) :
    ((fdcaVectorMemPrepareDma op pool).2.2 = 0 → ∃ a,
      (fdcaVectorMemPrepareDma op pool).1.cpuAddr = some a ∧
        DmaOver pool (fdcaVectorMemPrepareDma op pool).2.1
          [⟨a, .dmaCoherent (fdcaVectorMemPrepareDma op pool).1.totalSize.toNat⟩]) ∧
    ((fdcaVectorMemPrepareDma op pool).2.2 ≠ 0 →
      DmaOver pool (fdcaVectorMemPrepareDma op pool).2.1 [] ∧
        (op.cpuAddr = none → (fdcaVectorMemPrepareDma op pool).1.cpuAddr = none)) := by
  cases t : op.type
  case wholeReg =>
    rw [fdcaVectorMemPrepareDma_wholeReg t]
    exact ⟨fun refused => absurd refused (by decide : (-EINVAL : Int) ≠ 0),
      fun _ => ⟨.refl pool, id⟩⟩
  all_goals
    unfold fdcaVectorMemPrepareDma
    simp only [t]
    split
    next pool' alloc =>
      exact ⟨fun failed => absurd failed (by decide : (-ENOMEM : Int) ≠ 0),
        fun _ => ⟨(DmaOver.refl pool).alloc alloc, fun _ => rfl⟩⟩
    next a pool' alloc =>
      exact ⟨fun _ => ⟨a, rfl, (DmaOver.refl pool).alloc alloc⟩, fun failed => absurd rfl failed⟩

/-- `fdca_vector_mem_indexed`, when it returns, has freed the index buffer it allocated:
the pool's blocks are as it found them. -/
theorem fdcaVectorMemIndexed_over {op : FdcaVectorMemOp} {pool : Slab} {ret : Int}
    (returned : (fdcaVectorMemIndexed op pool).2.2 = some ret) :
    DmaOver pool (fdcaVectorMemIndexed op pool).1 [] := by
  unfold fdcaVectorMemIndexed at returned ⊢
  dsimp only
  split
  next pool' alloc => exact (DmaOver.refl pool).alloc alloc
  next a pool' alloc =>
    simp only [alloc] at returned
    split
    next copy => simp [copy] at returned
    next => exact ((DmaOver.refl pool).alloc alloc).free

/-- An index copy of `fdca_vector_mem_indexed` that faults comes after the index buffer's
allocation, which nothing frees. -/
theorem fdcaVectorMemIndexed_fault_over {op : FdcaVectorMemOp} {pool : Slab}
    (fault : (fdcaVectorMemIndexed op pool).2.2 = none) :
    ∃ b, DmaOver pool (fdcaVectorMemIndexed op pool).1
      [⟨b, .dmaCoherent (op.numElements.toNat * 4)⟩] := by
  unfold fdcaVectorMemIndexed at fault ⊢
  dsimp only at fault ⊢
  split
  next pool' alloc => simp [alloc] at fault
  next b pool' alloc =>
    simp only [alloc] at fault
    split
    next => exact ⟨b, (DmaOver.refl pool).alloc alloc⟩
    next copy => simp [copy] at fault

/-- `fdca_vector_mem_cleanup_dma` frees the staging buffer the descriptor records, with the
size it records, and clears the record. -/
theorem fdcaVectorMemCleanupDma_over {op : FdcaVectorMemOp} {pool p : Slab} {stack : List Block}
    {a : Nat} (cpu : op.cpuAddr = some a)
    (over : DmaOver pool p (⟨a, .dmaCoherent op.totalSize.toNat⟩ :: stack)) :
    DmaOver pool (fdcaVectorMemCleanupDma op p).2 stack ∧
      (fdcaVectorMemCleanupDma op p).1.cpuAddr = none := by
  unfold fdcaVectorMemCleanupDma
  rw [cpu]
  exact ⟨over.free, rfl⟩

/-- What a run of `fdca_vector_mem_execute` says by the way it ends. A run that returns
leaves the pool's blocks as it found them, with no bad free, and a descriptor that held no
staging buffer holds none; a run whose index copy faults leaves the index buffer on top of
the staging buffer, which the descriptor records; a run still polling has a poll that has not
decided. -/
theorem fdcaVectorMemExecute_end (fdev : FdcaDevice) (op : FdcaVectorMemOp) (pool : Slab)
    (poll : VecPoll) :
    (∀ ret, (fdcaVectorMemExecute fdev op pool poll).2.2.2 = .returned ret →
      DmaOver pool (fdcaVectorMemExecute fdev op pool poll).2.1 [] ∧
        (op.cpuAddr = none → (fdcaVectorMemExecute fdev op pool poll).1.cpuAddr = none)) ∧
    ((fdcaVectorMemExecute fdev op pool poll).2.2.2 = .fault → ∃ a b,
      (fdcaVectorMemExecute fdev op pool poll).1.cpuAddr = some a ∧
        DmaOver pool (fdcaVectorMemExecute fdev op pool poll).2.1
          [⟨b, .dmaCoherent (op.numElements.toNat * 4)⟩,
            ⟨a, .dmaCoherent (fdcaVectorMemExecute fdev op pool poll).1.totalSize.toNat⟩]) ∧
    ((fdcaVectorMemExecute fdev op pool poll).2.2.2 = .polling →
      fdcaVectorMemWaitCompletion (poll.start + poll.timeoutJiffies) poll.rounds = none) := by
  obtain ⟨staged, failed⟩ := fdcaVectorMemPrepareDma_over op pool
  obtain ⟨-, -, elements⟩ := fdcaVectorMemPrepareDma_fields op pool
  have waiting : ∀ {c : Prop} [Decidable c] {r : Int} {wait : Option Int},
      (if c then some r else wait) = none → wait = none := by
    intro c _ r wait polling
    split at polling
    · cases polling
    · exact polling
  unfold fdcaVectorMemExecute
  cases fdev.vpu.present
  · exact ⟨fun _ _ => ⟨.refl pool, id⟩, fun ended => VecExecEnd.noConfusion ended,
      fun ended => VecExecEnd.noConfusion ended⟩
  generalize fdcaVectorMemPrepareDma op pool = prepared at staged failed elements ⊢
  simp only [Bool.not_true, Bool.false_eq_true, ↓reduceIte]
  by_cases refused : prepared.2.2 ≠ 0
  · rw [if_pos refused]
    exact ⟨fun _ _ => failed refused, fun ended => VecExecEnd.noConfusion ended,
      fun ended => VecExecEnd.noConfusion ended⟩
  obtain ⟨a, cpu, over⟩ := staged (not_not.1 refused)
  have finish : ∀ p, DmaOver prepared.2.1 p [] →
      DmaOver pool (fdcaVectorMemCleanupDma prepared.1 p).2 [] ∧
        (op.cpuAddr = none → (fdcaVectorMemCleanupDma prepared.1 p).1.cpuAddr = none) :=
    fun p restored => (fdcaVectorMemCleanupDma_over cpu (over.trans restored)).imp_right fun h _ => h
  rw [if_neg refused]
  by_cases indexed : prepared.1.type = .indexed
  · simp only [indexed]
    split
    next fault =>
      obtain ⟨b, indexBuffer⟩ := fdcaVectorMemIndexed_fault_over fault
      refine ⟨fun _ ended => VecExecEnd.noConfusion ended, fun _ => ⟨a, b, cpu, ?_⟩,
        fun ended => VecExecEnd.noConfusion ended⟩
      rw [← elements]
      exact over.trans indexBuffer
    next r issued =>
      split
      next polling => exact ⟨fun _ ended => VecExecEnd.noConfusion ended,
        fun ended => VecExecEnd.noConfusion ended, fun _ => waiting polling⟩
      next => exact ⟨fun _ _ => finish _ (fdcaVectorMemIndexed_over issued),
        fun ended => VecExecEnd.noConfusion ended, fun ended => VecExecEnd.noConfusion ended⟩
  · -- every other type issues its transfer without touching the pool
    cases t : prepared.1.type
    all_goals first
      | exact absurd t indexed
      | simp only [t]
        split
        next polling => exact ⟨fun _ ended => VecExecEnd.noConfusion ended,
          fun ended => VecExecEnd.noConfusion ended, fun _ => waiting polling⟩
        next => exact ⟨fun _ _ => finish _ (.refl _), fun ended => VecExecEnd.noConfusion ended,
          fun ended => VecExecEnd.noConfusion ended⟩

/-- The run that faults: an indexed descriptor with elements and no index array, on a device
with the vector unit, once the staging buffer and the index buffer are both allocated. -/
theorem fdcaVectorMemExecute_fault_of {fdev : FdcaDevice} {op : FdcaVectorMemOp} {pool : Slab}
    (poll : VecPoll) (present : fdev.vpu.present = true) (indexed : op.type = .indexed)
    (noArray : op.indices = none) (elements : op.numElements ≠ 0)
    (staging : pool.succeeds pool.attempts = true)
    (indexBuffer : pool.succeeds (pool.attempts + 1) = true) :
    (fdcaVectorMemExecute fdev op pool poll).2.2.2 = .fault := by
  have copy : readIndices op.indices op.numElements.toNat = none := by
    have : op.numElements.toNat ≠ 0 := fun zero => elements (BitVec.eq_of_toNat_eq zero)
    simp [readIndices, noArray, this]
  simp [fdcaVectorMemExecute, present, fdcaVectorMemPrepareDma, indexed, dmaAllocCoherent,
    kmalloc, staging, fdcaVectorMemIndexed, indexBuffer, copy]

/-- Every descriptor the API builds holds no staging buffer: `fdca_vector_mem_create_op`
zeroes `cpu_addr`, and the setters leave it. -/
theorem OpReachable.cpuAddr_eq_none {op : FdcaVectorMemOp} (reach : OpReachable op) :
    op.cpuAddr = none := by
  induction reach with
  | create created =>
    unfold fdcaVectorMemCreateOp at created
    split at created <;> cases created
    rfl
  | setStride stride _ ih => exact ih
  | setIndices indices count heap _ ih =>
    rcases fdcaVectorMemSetIndices_cases _ indices count heap with
      ⟨-, eq, -⟩ | ⟨eq, -⟩ | ⟨arr, -, eq, -⟩ <;> rw [eq] <;> exact ih

/-- What `fdca_vector_mem_execute` does with its coherent buffers, on every descriptor the API
builds, whatever each allocation gives and whatever the status register reads. Without the
vector unit it allocates nothing. A run that returns has freed each buffer it allocated,
once and with the size it was allocated with, and leaves no staging buffer in the descriptor,
which held none (`OpReachable.cpuAddr_eq_none`). A run whose index copy faults frees
nothing: the index buffer and the staging buffer stay allocated, and the descriptor still
records the staging buffer. Such a run is that of an indexed descriptor with elements and no
index array, once both buffers are allocated. -/
theorem fdcaVectorMemExecute_buffers {op : FdcaVectorMemOp} (reach : OpReachable op)
    (fdev : FdcaDevice) (pool : Slab) (poll : VecPoll) :
    (fdev.vpu.present = false → (fdcaVectorMemExecute fdev op pool poll).2.1 = pool) ∧
    (∀ ret, (fdcaVectorMemExecute fdev op pool poll).2.2.2 = .returned ret →
      (fdcaVectorMemExecute fdev op pool poll).2.1.live = pool.live ∧
        (fdcaVectorMemExecute fdev op pool poll).2.1.badFrees = pool.badFrees ∧
        (fdcaVectorMemExecute fdev op pool poll).1.cpuAddr = none) ∧
    ((fdcaVectorMemExecute fdev op pool poll).2.2.2 = .fault → ∃ a b,
      (fdcaVectorMemExecute fdev op pool poll).1.cpuAddr = some a ∧
        (fdcaVectorMemExecute fdev op pool poll).2.1.live =
          [⟨b, .dmaCoherent (op.numElements.toNat * 4)⟩,
            ⟨a, .dmaCoherent (fdcaVectorMemExecute fdev op pool poll).1.totalSize.toNat⟩] ++
            pool.live ∧
        (fdcaVectorMemExecute fdev op pool poll).2.1.badFrees = pool.badFrees) ∧
    (fdev.vpu.present = true → op.type = .indexed → op.indices = none → op.numElements ≠ 0 →
      pool.succeeds pool.attempts = true → pool.succeeds (pool.attempts + 1) = true →
      (fdcaVectorMemExecute fdev op pool poll).2.2.2 = .fault) := by
  obtain ⟨returned, fault, -⟩ := fdcaVectorMemExecute_end fdev op pool poll
  refine ⟨fun absent => ?_, fun ret ended => ?_, fun ended => ?_,
    fdcaVectorMemExecute_fault_of poll⟩
  · simp only [fdcaVectorMemExecute, absent, Bool.not_false, if_true]
  · obtain ⟨⟨live, bad⟩, cpu⟩ := returned ret ended
    exact ⟨live, bad, cpu reach.cpuAddr_eq_none⟩
  · obtain ⟨a, b, cpu, live, bad⟩ := fault ended
    exact ⟨a, b, cpu, live, bad⟩

/-- `fdca_vector_mem_create_op(FDCA_VMEM_INDEXED, 0, 4, 4, true)` executed before any index
array is set: the copy of 16 bytes from `NULL` faults with the 16-byte index buffer and the
16-byte staging buffer allocated. -/
theorem fdcaVectorMemExecute_buffers_unindexed :
    OpReachable unindexedOp ∧
      (fdcaVectorMemExecute sampleDevice unindexedOp (Slab.init fun _ => true)
        ⟨0, 250, []⟩).2.2.2 = .fault ∧
      (fdcaVectorMemExecute sampleDevice unindexedOp (Slab.init fun _ => true)
        ⟨0, 250, []⟩).2.1.live = [⟨1, .dmaCoherent 16⟩, ⟨0, .dmaCoherent 16⟩] :=
  have reach : OpReachable unindexedOp :=
    .create (rfl : fdcaVectorMemCreateOp .indexed 0 4 4 true twoAllocs = (some (0, unindexedOp), _))
  have buffers := fdcaVectorMemExecute_buffers reach sampleDevice (Slab.init fun _ => true)
    ⟨0, 250, []⟩
  ⟨reach, buffers.2.2.2 rfl rfl rfl (by decide) rfl rfl, rfl⟩

end FdcaRvv
