import FdcaRvv.Gtt

/-!
# VRAM: device memory in a buddy allocator

`fdca_vram.c` hands out the device's local memory. `fdca_vram_manager_init` sizes it from
the `VRAM_SIZE` register and sets up a `drm_buddy` allocator over it; `fdca_vram_alloc`
takes a block of at least the page-aligned request and books it in the manager's `used`
and `available`; `fdca_vram_free` undoes the CPU mapping `fdca_vram_map` may have made,
gives the block back, and then measures the fragmentation to decide whether to schedule
the defragmentation work.

The kernel services are modelled by what the driver relies on. `drm_buddy` hands out the
block its search picks, an oracle here, and only a block of free memory inside the range
asked for and at least as large as the request; its bookkeeping is the list of blocks
handed out. `ioremap_wc` maps where an oracle says or fails, and the live mappings are a
list. The slab allocation of an object succeeds as an oracle says and is counted. The
mutex and the work queue are not modelled: every operation runs to completion, and the
scheduled defragmentation work is an operation of its own.
-/

namespace FdcaRvv

/-! ## Constants -/

/-- `FDCA_VRAM_SIZE_MAX`, `16ULL << 30`: the largest VRAM the driver manages. -/
def FDCA_VRAM_SIZE_MAX : U64 := 16 <<< 30

/-- `FDCA_VRAM_MIN_BLOCK_SIZE`, `PAGE_SIZE`: the buddy allocator's chunk. -/
def FDCA_VRAM_MIN_BLOCK_SIZE : U64 := BitVec.ofNat 64 PAGE_SIZE

/-- `FDCA_VRAM_LARGE_BLOCK_SIZE`, `2 << 20`. -/
def FDCA_VRAM_LARGE_BLOCK_SIZE : U64 := 2 <<< 20

/-- `FDCA_VRAM_ALLOC_CONTIGUOUS`, `BIT(0)`. -/
def FDCA_VRAM_ALLOC_CONTIGUOUS : U32 := 0x1

/-- `FDCA_VRAM_ALLOC_LARGE_PAGE`, `BIT(1)`. -/
def FDCA_VRAM_ALLOC_LARGE_PAGE : U32 := 0x2

/-- `FDCA_VRAM_FRAG_THRESHOLD`: defragment above 25 percent. -/
def FDCA_VRAM_FRAG_THRESHOLD : U32 := 25

/-- `PAGE_ALIGN(x)`, `(x + PAGE_SIZE - 1) & PAGE_MASK` in 64 bits. -/
def PAGE_ALIGN (x : U64) : U64 :=
  (x + BitVec.ofNat 64 (PAGE_SIZE - 1)) &&& ~~~BitVec.ofNat 64 (PAGE_SIZE - 1)

/-- `fdca_vram_get_size`: the `VRAM_SIZE` register at `0x100` counts MiB; below 64 MiB the
driver assumes 256 MiB, and it caps the size at `FDCA_VRAM_SIZE_MAX`. -/
def fdcaVramGetSize (sizeReg : U32) : U64 :=
  let vramSize : U64 := sizeReg.setWidth 64 <<< 20
  let vramSize : U64 := if vramSize < 64 <<< 20 then 256 <<< 20 else vramSize
  if vramSize > FDCA_VRAM_SIZE_MAX then FDCA_VRAM_SIZE_MAX else vramSize

/-! ## The buddy allocator -/

/-- A `struct drm_buddy_block` as the driver reads it, through `drm_buddy_block_offset` and
`drm_buddy_block_size`: the range `[offset, offset + size)`. -/
structure DrmBuddyBlock where
  offset : Nat
  size : Nat
  deriving DecidableEq, Repr

/-- Two blocks do not overlap. -/
def DrmBuddyBlock.Apart (a b : DrmBuddyBlock) : Prop :=
  a.offset + a.size ≤ b.offset ∨ b.offset + b.size ≤ a.offset

instance (a b : DrmBuddyBlock) : Decidable (a.Apart b) :=
  inferInstanceAs (Decidable (_ ∨ _))

/-- The bytes a list of blocks takes. -/
def drmBuddyBlocksSize (blocks : List DrmBuddyBlock) : Nat := (blocks.map (·.size)).sum

@[simp] theorem drmBuddyBlocksSize_nil : drmBuddyBlocksSize [] = 0 := rfl

@[simp] theorem drmBuddyBlocksSize_cons (b : DrmBuddyBlock) (blocks : List DrmBuddyBlock) :
    drmBuddyBlocksSize (b :: blocks) = b.size + drmBuddyBlocksSize blocks := by
  simp [drmBuddyBlocksSize]

/-- Giving a block back takes its bytes off the total, or nothing if it was not handed out. -/
theorem drmBuddyBlocksSize_erase (blocks : List DrmBuddyBlock) (b : DrmBuddyBlock) :
    drmBuddyBlocksSize (blocks.erase b) + (if b ∈ blocks then b.size else 0) =
      drmBuddyBlocksSize blocks := by
  induction blocks with
  | nil => simp
  | cons c blocks ih =>
    by_cases same : c = b
    · subst same; simp [Nat.add_comm]
    · simp only [List.erase_cons, beq_iff_eq, same, if_false, drmBuddyBlocksSize_cons,
        List.mem_cons, Ne.symm same, false_or]
      omega

/-- A `struct drm_buddy` over `[0, size)` in chunks of `chunkSize`: the blocks handed out lie
inside, do not overlap, and take at most `size` bytes. The `n`-th `drm_buddy_alloc_blocks`
of `size` bytes, in blocks of at least `min_block_size`, contiguous or not, gets the block
`place n size min_block_size contiguous` picks, or none. -/
structure DrmBuddy where
  size : Nat
  chunkSize : Nat
  place : Nat → Nat → Nat → Bool → Option DrmBuddyBlock
  allocs : Nat
  blocks : List DrmBuddyBlock
  inside : ∀ b ∈ blocks, b.offset + b.size ≤ size
  apart : blocks.Pairwise DrmBuddyBlock.Apart
  bounded : drmBuddyBlocksSize blocks ≤ size

/-- `mm->avail`: the bytes not handed out. -/
def DrmBuddy.avail (mm : DrmBuddy) : Nat := mm.size - drmBuddyBlocksSize mm.blocks

/-- `drm_buddy_init(mm, size, chunk_size)`: an allocator with nothing handed out when its
own allocations succeed, `memOk`, and `-ENOMEM` otherwise. Its argument checks pass, and
its rounding of the size down to whole chunks changes nothing, for every size the driver
asks: a whole number of MiB in 4 KiB chunks. -/
def drmBuddyInit (place : Nat → Nat → Nat → Bool → Option DrmBuddyBlock) (memOk : Bool)
    (size chunkSize : Nat) : Except Int DrmBuddy :=
  if memOk then .ok ⟨size, chunkSize, place, 0, [], fun _ mem => (nomatch mem), .nil, Nat.zero_le _⟩
  else .error (-ENOMEM)

/-- Where `drm_buddy_alloc_blocks(mm, start, end, size, ...)` may put a block: inside
`[start, end)`, which lies in the managed range, at least `size` bytes and no more than are
free, clear of every block handed out. -/
def DrmBuddy.Fits (mm : DrmBuddy) (start endOffset size : Nat) (block : DrmBuddyBlock) : Prop :=
  (start ≤ block.offset ∧ block.offset + block.size ≤ endOffset ∧ endOffset ≤ mm.size) ∧
    (size ≤ block.size ∧ block.size ≤ mm.avail) ∧ ∀ b ∈ mm.blocks, block.Apart b

instance (mm : DrmBuddy) (start endOffset size : Nat) (block : DrmBuddyBlock) :
    Decidable (mm.Fits start endOffset size block) :=
  inferInstanceAs (Decidable (_ ∧ _ ∧ ∀ b ∈ mm.blocks, block.Apart b))

/-- `drm_buddy_alloc_blocks(mm, start, end, size, min_block_size, &blocks, flags)`: the
block the search picks, if it fits, and `-ENOSPC` otherwise. The `-ENOMEM` of a split that
cannot allocate is not modelled. -/
def drmBuddyAllocBlocks (mm : DrmBuddy) (start endOffset size minBlockSize : Nat)
    (contiguous : Bool) : Except Int DrmBuddyBlock × DrmBuddy :=
  match mm.place mm.allocs size minBlockSize contiguous with
  | some block =>
    if fits : mm.Fits start endOffset size block then
      (.ok block,
        { mm with
          allocs := mm.allocs + 1
          blocks := block :: mm.blocks
          inside := by
            simp only [List.mem_cons, forall_eq_or_imp]
            exact ⟨Nat.le_trans fits.1.2.1 fits.1.2.2, mm.inside⟩
          apart := .cons fits.2.2 mm.apart
          bounded := by
            have room := fits.2.1.2
            simp only [DrmBuddy.avail] at room
            simp only [drmBuddyBlocksSize_cons]
            have := mm.bounded
            omega })
    else (.error (-ENOSPC), { mm with allocs := mm.allocs + 1 })
  | none => (.error (-ENOSPC), { mm with allocs := mm.allocs + 1 })

/-- `drm_buddy_free_block(mm, block)`. -/
def drmBuddyFreeBlock (mm : DrmBuddy) (block : DrmBuddyBlock) : DrmBuddy :=
  { mm with
    blocks := mm.blocks.erase block
    inside := fun b mem => mm.inside b (List.erase_subset _ _ mem)
    apart := mm.apart.sublist (List.erase_sublist _ _)
    bounded := by
      have := drmBuddyBlocksSize_erase mm.blocks block
      have := mm.bounded
      omega }

/-- What `drm_buddy_avail_size(mm)` returns. The kernel's `drm_buddy` interface has no such
function; its one call, in `fdca_vram_get_fragmentation`, takes the result for the largest
free block. The model takes any function of the allocator that stays within its free
bytes, and no result here depends on which. -/
structure DrmBuddyAvailSize where
  largestFree : DrmBuddy → U64
  le_avail : ∀ mm, (largestFree mm).toNat ≤ mm.avail

/-! ## The manager and its objects -/

/-- `struct fdca_vram_manager`. -/
structure FdcaVramManager where
  buddy : DrmBuddy
  base : U64
  size : U64
  available : U64
  used : U64
  allocCount : U64
  freeCount : U64
  largePageCount : U64
  defragInProgress : Bool

/-- `struct fdca_vram_object`, with the fields the driver reads back. `cpuAddr` is `none`
for `NULL`. -/
structure FdcaVramObject where
  block : DrmBuddyBlock
  offset : U64
  size : U64
  flags : U32
  cpuAddr : Option Nat
  dmaAddr : U64
  mapped : Bool
  deriving DecidableEq, Repr

/-- `struct fdca_vram_stats`. -/
structure FdcaVramStats where
  totalSize : U64
  usedSize : U64
  availableSize : U64
  fragmentation : U32
  allocCount : U64
  freeCount : U64
  largePageCount : U64
  deriving DecidableEq, Repr

/-- `fdca_vram_manager_init`: a buddy allocator over the whole VRAM in page chunks, all of
it available. `buddyOk` says whether `drm_buddy_init` gets its memory. -/
def fdcaVramManagerInit (place : Nat → Nat → Nat → Bool → Option DrmBuddyBlock)
    (buddyOk : Bool) (sizeReg : U32) : Except Int FdcaVramManager :=
  let vramSize := fdcaVramGetSize sizeReg
  match drmBuddyInit place buddyOk vramSize.toNat FDCA_VRAM_MIN_BLOCK_SIZE.toNat with
  | .error ret => .error ret
  | .ok buddy =>
    .ok { buddy, base := 0, size := vramSize, available := vramSize, used := 0,
          allocCount := 0, freeCount := 0, largePageCount := 0, defragInProgress := false }

/-- `fdca_vram_manager_fini`, which only reports: whether it warns of leaked VRAM. -/
def fdcaVramManagerFini (vram : FdcaVramManager) : Bool := vram.used > 0

/-- `fdca_vram_get_fragmentation`: `100 - largest_free * 100 / available` in 64 bits, stored
in a `u32`, and 0 when nothing is available. -/
def fdcaVramGetFragmentation (availSize : DrmBuddyAvailSize) (vram : FdcaVramManager) : U32 :=
  if vram.available = 0 then 0
  else
    let largestFree := availSize.largestFree vram.buddy
    (100 - largestFree * 100 / vram.available).setWidth 32

/-- `fdca_vram_check_fragmentation`: above the threshold, and with no defragmentation under
way, mark one in progress and schedule its work. -/
def fdcaVramCheckFragmentation (availSize : DrmBuddyAvailSize) (vram : FdcaVramManager) :
    FdcaVramManager :=
  if vram.defragInProgress then vram
  else if fdcaVramGetFragmentation availSize vram > FDCA_VRAM_FRAG_THRESHOLD then
    { vram with defragInProgress := true }
  else vram

/-- `fdca_vram_defrag_work`: a placeholder that sleeps under the lock, then clears the flag. -/
def fdcaVramDefragWork (vram : FdcaVramManager) : FdcaVramManager :=
  { vram with defragInProgress := false }

/-- `fdca_vram_get_stats`. -/
def fdcaVramGetStats (availSize : DrmBuddyAvailSize) (vram : FdcaVramManager) : FdcaVramStats :=
  ⟨vram.size, vram.used, vram.available, fdcaVramGetFragmentation availSize vram,
    vram.allocCount, vram.freeCount, vram.largePageCount⟩

/-- `fdca_vram_alloc(fdev, size, flags, debug_name)`. -/
def fdcaVramAlloc (vram : FdcaVramManager) (slab : CountingSlab) (size : U64) (flags : U32) :
    Except Int FdcaVramObject × FdcaVramManager × CountingSlab :=
  if size = 0 ∨ size > vram.size then (.error (-EINVAL), vram, slab)
  else
    let size := PAGE_ALIGN size
    let minBlockSize :=
      if flags &&& FDCA_VRAM_ALLOC_LARGE_PAGE ≠ 0 ∧ size ≥ FDCA_VRAM_LARGE_BLOCK_SIZE then
        FDCA_VRAM_LARGE_BLOCK_SIZE
      else FDCA_VRAM_MIN_BLOCK_SIZE
    match slab.alloc with
    | (false, slab) => (.error (-ENOMEM), vram, slab)
    | (true, slab) =>
      if vram.available < size then (.error (-ENOMEM), vram, slab.free)
      else
        match drmBuddyAllocBlocks vram.buddy 0 vram.size.toNat size.toNat minBlockSize.toNat
            (flags &&& FDCA_VRAM_ALLOC_CONTIGUOUS ≠ 0) with
        | (.error ret, buddy) => (.error ret, { vram with buddy }, slab.free)
        | (.ok block, buddy) =>
          let obj : FdcaVramObject :=
            { block, offset := BitVec.ofNat 64 block.offset, size := BitVec.ofNat 64 block.size,
              flags, cpuAddr := none, dmaAddr := 0, mapped := false }
          (.ok obj,
            { vram with
              buddy
              used := vram.used + obj.size
              available := vram.available - obj.size
              allocCount := vram.allocCount + 1
              largePageCount :=
                if flags &&& FDCA_VRAM_ALLOC_LARGE_PAGE ≠ 0 then vram.largePageCount + 1
                else vram.largePageCount },
            slab)

/-! ## CPU mappings -/

/-- The `ioremap_wc` mappings of the VRAM aperture. The `n`-th call, for `size` bytes at
physical address `phys`, gives `remap n phys size`: a CPU address, or `NULL`. `live` holds
one address per mapping not yet undone; an `iounmap` of an address with none is counted in
`badUnmaps`. -/
structure IoMapper where
  remap : Nat → Nat → Nat → Option Nat
  calls : Nat
  live : List Nat
  badUnmaps : Nat

/-- `ioremap_wc(phys, size)`. -/
def ioremapWc (phys size : Nat) (io : IoMapper) : Option Nat × IoMapper :=
  match io.remap io.calls phys size with
  | some addr => (some addr, { io with calls := io.calls + 1, live := addr :: io.live })
  | none => (none, { io with calls := io.calls + 1 })

/-- `iounmap(addr)`, which ignores `NULL`. -/
def iounmap (addr : Option Nat) (io : IoMapper) : IoMapper :=
  match addr with
  | none => io
  | some a =>
    if a ∈ io.live then { io with live := io.live.erase a }
    else { io with badUnmaps := io.badUnmaps + 1 }

/-- `fdca_vram_map(fdev, obj)`; `vramBase` is `fdev->vram_base`. -/
def fdcaVramMap (vramBase : U64) (io : IoMapper) (obj : FdcaVramObject) :
    Int × FdcaVramObject × IoMapper :=
  if obj.mapped then (0, obj, io)
  else
    match ioremapWc (vramBase + obj.offset).toNat obj.size.toNat io with
    | (none, io) => (-ENOMEM, { obj with cpuAddr := none }, io)
    | (some cpuAddr, io) =>
      (0, { obj with cpuAddr := some cpuAddr, dmaAddr := vramBase + obj.offset, mapped := true },
        io)

/-- `fdca_vram_unmap(fdev, obj)`. -/
def fdcaVramUnmap (io : IoMapper) (obj : FdcaVramObject) : FdcaVramObject × IoMapper :=
  if obj.mapped then ({ obj with cpuAddr := none, dmaAddr := 0, mapped := false }, iounmap obj.cpuAddr io)
  else (obj, io)

/-- `fdca_vram_free(fdev, obj)` of an object: undo its CPU mapping, give its block back,
free it, and look at the fragmentation. -/
def fdcaVramFree (availSize : DrmBuddyAvailSize) (vram : FdcaVramManager) (slab : CountingSlab)
    (io : IoMapper) (obj : FdcaVramObject) : FdcaVramManager × CountingSlab × IoMapper :=
  let io := if obj.mapped then (fdcaVramUnmap io obj).2 else io
  let vram :=
    { vram with
      buddy := drmBuddyFreeBlock vram.buddy obj.block
      used := vram.used - obj.size
      available := vram.available + obj.size
      freeCount := vram.freeCount + 1 }
  (fdcaVramCheckFragmentation availSize vram, slab.free, io)

/-! ## Lemmas -/

/-- `PAGE_ALIGN` clears the low twelve bits of the rounded-up value. -/
theorem PAGE_ALIGN_eq (x : U64) : PAGE_ALIGN x = (x + 4095) >>> 12 <<< 12 := by
  rw [BitVec.shiftLeft_ushiftRight, PAGE_ALIGN]
  congr 1

/-- Where the addition does not wrap, `PAGE_ALIGN` rounds up to a multiple of the page. -/
theorem PAGE_ALIGN_toNat {x : U64} (small : x.toNat + 4095 < 2 ^ 64) :
    (PAGE_ALIGN x).toNat = (x.toNat + 4095) / 4096 * 4096 := by
  rw [PAGE_ALIGN_eq]
  have mask : (4095 : U64).toNat = 4095 := rfl
  simp only [BitVec.toNat_shiftLeft, BitVec.toNat_ushiftRight, BitVec.toNat_add,
    BitVec.toNat_ofNat, Nat.shiftLeft_eq, Nat.shiftRight_eq_div_pow, mask]
  omega

/-- The size `fdca_vram_get_size` reads is at most `FDCA_VRAM_SIZE_MAX`. -/
theorem fdcaVramGetSize_le (sizeReg : U32) : fdcaVramGetSize sizeReg ≤ FDCA_VRAM_SIZE_MAX := by
  have clamp (v : U64) : (if v > FDCA_VRAM_SIZE_MAX then FDCA_VRAM_SIZE_MAX else v) ≤
      FDCA_VRAM_SIZE_MAX := by
    split
    · exact BitVec.le_refl _
    · exact BitVec.not_lt.1 ‹_›
  unfold fdcaVramGetSize
  exact clamp _

/-- `fdca_vram_manager_init` fails only as `drm_buddy_init` does, with `-ENOMEM`. -/
theorem fdcaVramManagerInit_error {place : Nat → Nat → Nat → Bool → Option DrmBuddyBlock}
    {buddyOk : Bool} {sizeReg : U32} {ret : Int}
    (h : fdcaVramManagerInit place buddyOk sizeReg = .error ret) : ret = -ENOMEM := by
  cases buddyOk <;> simp [fdcaVramManagerInit, drmBuddyInit] at h
  exact h.symm

/-- What one `drm_buddy_alloc_blocks` can do: fail with `-ENOSPC` and hand out nothing, or
hand out a block that fits. -/
theorem drmBuddyAllocBlocks_cases (mm : DrmBuddy) (start endOffset size minBlockSize : Nat)
    (contiguous : Bool) :
    let r := drmBuddyAllocBlocks mm start endOffset size minBlockSize contiguous
    r.2.size = mm.size ∧
      (r.1 = .error (-ENOSPC) ∧ r.2.blocks = mm.blocks ∨
        ∃ block, r.1 = .ok block ∧ mm.Fits start endOffset size block ∧
          r.2.blocks = block :: mm.blocks) := by
  unfold drmBuddyAllocBlocks
  split
  · split
    · exact ⟨rfl, .inr ⟨_, rfl, ‹_›, rfl⟩⟩
    · exact ⟨rfl, .inl ⟨rfl, rfl⟩⟩
  · exact ⟨rfl, .inl ⟨rfl, rfl⟩⟩

/-- What one `fdca_vram_alloc` can do. It fails with the allocator's blocks and the live
slab objects as they were, or it hands out an object for a block that fits the page-aligned
request, books the block's bytes, and keeps the object's slab block. -/
theorem fdcaVramAlloc_cases (vram : FdcaVramManager) (slab : CountingSlab) (size : U64)
    (flags : U32) :
    let r := fdcaVramAlloc vram slab size flags
    ∃ buddy : DrmBuddy, buddy.size = vram.buddy.size ∧
      ((∃ ret, r.1 = .error ret) ∧ r.2.1 = { vram with buddy } ∧
          buddy.blocks = vram.buddy.blocks ∧ r.2.2.live = slab.live ∨
        ∃ block, vram.buddy.Fits 0 vram.size.toNat (PAGE_ALIGN size).toNat block ∧
          0 < size.toNat ∧ size ≤ vram.size ∧
          r.1 = .ok ⟨block, BitVec.ofNat 64 block.offset, BitVec.ofNat 64 block.size, flags,
            none, 0, false⟩ ∧
          r.2.1 = { vram with
            buddy
            used := vram.used + BitVec.ofNat 64 block.size
            available := vram.available - BitVec.ofNat 64 block.size
            allocCount := vram.allocCount + 1
            largePageCount :=
              if flags &&& FDCA_VRAM_ALLOC_LARGE_PAGE ≠ 0 then vram.largePageCount + 1
              else vram.largePageCount } ∧
          buddy.blocks = block :: vram.buddy.blocks ∧ r.2.2.live = slab.live + 1) := by
  unfold fdcaVramAlloc
  by_cases rejected : size = 0 ∨ size > vram.size
  · rw [if_pos rejected]
    exact ⟨vram.buddy, rfl, .inl ⟨⟨_, rfl⟩, rfl, rfl, rfl⟩⟩
  rw [if_neg rejected]
  dsimp only
  cases ok : slab.succeeds slab.attempts <;>
    simp only [CountingSlab.alloc, ok, Bool.false_eq_true, ↓reduceIte]
  · exact ⟨vram.buddy, rfl, .inl ⟨⟨_, rfl⟩, rfl, rfl, trivial⟩⟩
  by_cases short : vram.available < PAGE_ALIGN size
  · rw [if_pos short]
    exact ⟨vram.buddy, rfl, .inl ⟨⟨_, rfl⟩, rfl, rfl, rfl⟩⟩
  rw [if_neg short]
  have buddy := drmBuddyAllocBlocks_cases vram.buddy 0 vram.size.toNat
    (PAGE_ALIGN size).toNat
    (if flags &&& FDCA_VRAM_ALLOC_LARGE_PAGE ≠ 0 ∧ PAGE_ALIGN size ≥ FDCA_VRAM_LARGE_BLOCK_SIZE then
      FDCA_VRAM_LARGE_BLOCK_SIZE else FDCA_VRAM_MIN_BLOCK_SIZE).toNat
    (flags &&& FDCA_VRAM_ALLOC_CONTIGUOUS ≠ 0)
  generalize drmBuddyAllocBlocks vram.buddy _ _ _ _ _ = r at buddy ⊢
  obtain ⟨result, buddy'⟩ := r
  obtain ⟨sameSize, ⟨rfl, blocks⟩ | ⟨block, rfl, fits, blocks⟩⟩ := buddy
  · exact ⟨buddy', sameSize, .inl ⟨⟨_, rfl⟩, rfl, blocks, rfl⟩⟩
  · simp only [not_or, gt_iff_lt, BitVec.not_lt] at rejected
    exact ⟨buddy', sameSize, .inr ⟨block, fits,
      Nat.pos_of_ne_zero fun zero => rejected.1 (BitVec.eq_of_toNat_eq zero), rejected.2,
      rfl, rfl, blocks, rfl⟩⟩

/-- `fdca_vram_check_fragmentation` changes nothing but the in-progress flag, whatever
fragmentation it measures. -/
theorem fdcaVramCheckFragmentation_eq (availSize : DrmBuddyAvailSize) (vram : FdcaVramManager) :
    fdcaVramCheckFragmentation availSize vram =
      { vram with
        defragInProgress := (fdcaVramCheckFragmentation availSize vram).defragInProgress } := by
  unfold fdcaVramCheckFragmentation
  split_ifs <;> rfl

/-- Undoing a mapping whose address is live, wherever it sits in the live list, takes off
exactly it; undoing `NULL` takes off nothing. Either way no miss is counted. -/
theorem iounmap_of_perm {io : IoMapper} {addr : Option Nat} {rest : List Nat}
    (live : io.live.Perm (addr.toList ++ rest)) :
    (iounmap addr io).live.Perm rest ∧ (iounmap addr io).badUnmaps = io.badUnmaps := by
  cases addr with
  | none => exact ⟨by simpa using live, rfl⟩
  | some a =>
    have mem : a ∈ io.live := live.mem_iff.2 (by simp)
    simp only [iounmap, mem, if_true]
    exact ⟨by simpa using live.erase a, trivial⟩

end FdcaRvv
