import FdcaRvv.Vram

/-!
# VRAM over whole runs

A run starts with `fdca_vram_manager_init` and goes on with any sequence of
`fdca_vram_alloc`, `fdca_vram_map`, `fdca_vram_unmap` and `fdca_vram_free` calls, the last
three each on an object an allocation returned and no one freed yet, and runs of the
defragmentation work. `VramSystem.objs` holds the live objects as their holders see them;
it is ghost state, read by no operation. Each `fdca_vram_free` measures the fragmentation
through `drm_buddy_avail_size`, which is no `drm_buddy` function and stands for any oracle
(`DrmBuddyAvailSize`) at each call; the measure sets only the in-progress flag, which the
invariant does not read, so every result holds whatever it returns.

`VramInv` is the invariant of every reachable state: the live objects' blocks are the
allocator's blocks, the manager's `used` is their total and its `available` the
allocator's free bytes, the CPU mappings are those of the mapped objects, and the slab
objects and the statistics count the live objects. From it:

* `vramAccounting_of_reachable`: `used` is the total size of the live objects, and `used`
  and `available` add up to the VRAM size, with no wrap-around.
* `vramIoMappings_of_reachable`: the live `ioremap_wc` mappings are exactly those of the
  mapped live objects, and no `iounmap` ever misses.
* `fdcaVramManagerFini_warns_iff`: `fdca_vram_manager_fini` warns of a leak exactly when
  some object is still live.
* `fdcaVramFree_after_alloc`: freeing the object an allocation just returned gives back
  what the allocation took.
-/

namespace FdcaRvv

/-! ## Runs -/

/-- The VRAM manager with the kernel state its operations touch, and the live objects. -/
structure VramSystem where
  vram : FdcaVramManager
  slab : CountingSlab
  io : IoMapper
  objs : List FdcaVramObject

/-- A caller allocates; a returned object becomes live. -/
def VramSystem.alloc (s : VramSystem) (size : U64) (flags : U32) : VramSystem :=
  let r := fdcaVramAlloc s.vram s.slab size flags
  { s with
    vram := r.2.1
    slab := r.2.2
    objs := match r.1 with
      | .ok obj => obj :: s.objs
      | .error _ => s.objs }

/-- A caller maps a live object for the CPU. -/
def VramSystem.map (s : VramSystem) (vramBase : U64) (obj : FdcaVramObject) : VramSystem :=
  let r := fdcaVramMap vramBase s.io obj
  { s with io := r.2.2, objs := r.2.1 :: s.objs.erase obj }

/-- A caller unmaps a live object. -/
def VramSystem.unmap (s : VramSystem) (obj : FdcaVramObject) : VramSystem :=
  let r := fdcaVramUnmap s.io obj
  { s with io := r.2, objs := r.1 :: s.objs.erase obj }

/-- A caller frees a live object, with `drm_buddy_avail_size` answering `availSize`. -/
def VramSystem.free (s : VramSystem) (availSize : DrmBuddyAvailSize) (obj : FdcaVramObject) :
    VramSystem :=
  let r := fdcaVramFree availSize s.vram s.slab s.io obj
  { s with vram := r.1, slab := r.2.1, io := r.2.2, objs := s.objs.erase obj }

/-- The scheduled defragmentation work runs. -/
def VramSystem.defrag (s : VramSystem) : VramSystem :=
  { s with vram := fdcaVramDefragWork s.vram }

/-- The states reachable from a successful `fdca_vram_manager_init`, on a device whose VRAM
aperture starts at `vramBase`, with fresh slab and mapping state whose outcomes are any
oracles. -/
inductive VramReachable (vramBase : U64) : VramSystem → Prop
  | init (place : Nat → Nat → Nat → Bool → Option DrmBuddyBlock) (buddyOk : Bool)
      (sizeReg : U32) (slabOk : Nat → Bool) (remap : Nat → Nat → Nat → Option Nat)
      {vram : FdcaVramManager} (ok : fdcaVramManagerInit place buddyOk sizeReg = .ok vram) :
      VramReachable vramBase ⟨vram, ⟨slabOk, 0, 0⟩, ⟨remap, 0, [], 0⟩, []⟩
  | alloc {s : VramSystem} (size : U64) (flags : U32) :
      VramReachable vramBase s → VramReachable vramBase (s.alloc size flags)
  | map {s : VramSystem} {obj : FdcaVramObject} :
      VramReachable vramBase s → obj ∈ s.objs → VramReachable vramBase (s.map vramBase obj)
  | unmap {s : VramSystem} {obj : FdcaVramObject} :
      VramReachable vramBase s → obj ∈ s.objs → VramReachable vramBase (s.unmap obj)
  | free {s : VramSystem} {obj : FdcaVramObject} (availSize : DrmBuddyAvailSize) :
      VramReachable vramBase s → obj ∈ s.objs → VramReachable vramBase (s.free availSize obj)
  | defrag {s : VramSystem} : VramReachable vramBase s → VramReachable vramBase s.defrag

/-! ## The invariant -/

/-- The CPU addresses of the mapped objects among `objs`. -/
def vramCpuAddrs (objs : List FdcaVramObject) : List Nat := objs.filterMap (·.cpuAddr)

@[simp] theorem vramCpuAddrs_nil : vramCpuAddrs [] = [] := rfl

@[simp] theorem vramCpuAddrs_cons (obj : FdcaVramObject) (objs : List FdcaVramObject) :
    vramCpuAddrs (obj :: objs) = obj.cpuAddr.toList ++ vramCpuAddrs objs := by
  cases h : obj.cpuAddr <;> simp [vramCpuAddrs, List.filterMap_cons, h]

/-- The CPU addresses of the live objects, with one object's taken out in front. -/
theorem vramCpuAddrs_perm_erase {objs : List FdcaVramObject} {obj : FdcaVramObject}
    (mem : obj ∈ objs) :
    (vramCpuAddrs objs).Perm (obj.cpuAddr.toList ++ vramCpuAddrs (objs.erase obj)) := by
  rw [← vramCpuAddrs_cons]
  exact (List.perm_cons_erase mem).filterMap _

/-- What `fdca_vram_alloc` leaves in an object it returns, and mapping and unmapping keep:
its offset and size are its block's, the block is not empty, the object has a CPU address
exactly when it is mapped, and its DMA address is then the aperture's address of its
offset. -/
structure VramObjectShape (vramBase : U64) (obj : FdcaVramObject) : Prop where
  offset : obj.offset.toNat = obj.block.offset
  size : obj.size.toNat = obj.block.size
  pos : 0 < obj.block.size
  mapped : obj.mapped = obj.cpuAddr.isSome
  dmaAddr : obj.dmaAddr = if obj.mapped then vramBase + obj.offset else 0

/-- The invariant of a run on a device whose VRAM aperture starts at `vramBase`. -/
structure VramInv (vramBase : U64) (s : VramSystem) : Prop where
  size : s.vram.buddy.size = s.vram.size.toNat
  sizeMax : s.vram.size.toNat ≤ FDCA_VRAM_SIZE_MAX.toNat
  blocks : s.vram.buddy.blocks.Perm (s.objs.map (·.block))
  shape : ∀ obj ∈ s.objs, VramObjectShape vramBase obj
  used : s.vram.used.toNat = drmBuddyBlocksSize s.vram.buddy.blocks
  available : s.vram.available.toNat = s.vram.buddy.avail
  io : s.io.live.Perm (vramCpuAddrs s.objs)
  badUnmaps : s.io.badUnmaps = 0
  slab : s.slab.live = s.objs.length
  counts : s.vram.allocCount - s.vram.freeCount = BitVec.ofNat 64 s.objs.length

/-! ## Preservation -/

section Preservation

variable {vramBase : U64} {s : VramSystem}

/-- `FDCA_VRAM_SIZE_MAX` as a number. -/
theorem vramSizeMax_toNat : FDCA_VRAM_SIZE_MAX.toNat = 2 ^ 34 := rfl

/-- The available bytes are at most the VRAM size. -/
theorem VramInv.available_le (inv : VramInv vramBase s) :
    s.vram.available.toNat ≤ FDCA_VRAM_SIZE_MAX.toNat := by
  have := inv.sizeMax
  rw [inv.available, DrmBuddy.avail, inv.size]
  omega

/-- The in-progress flag of the defragmentation is no part of the invariant. -/
theorem VramInv.withDefrag (inv : VramInv vramBase s) (inProgress : Bool) :
    VramInv vramBase { s with vram := { s.vram with defragInProgress := inProgress } } :=
  ⟨inv.size, inv.sizeMax, inv.blocks, inv.shape, inv.used, inv.available, inv.io,
    inv.badUnmaps, inv.slab, inv.counts⟩

/-- A successful `fdca_vram_manager_init` establishes the invariant. -/
theorem VramInv.init {place : Nat → Nat → Nat → Bool → Option DrmBuddyBlock}
    {buddyOk : Bool} {sizeReg : U32} {vram : FdcaVramManager} (slabOk : Nat → Bool)
    (remap : Nat → Nat → Nat → Option Nat)
    (ok : fdcaVramManagerInit place buddyOk sizeReg = .ok vram) :
    VramInv vramBase ⟨vram, ⟨slabOk, 0, 0⟩, ⟨remap, 0, [], 0⟩, []⟩ := by
  cases buddyOk with
  | false => simp [fdcaVramManagerInit, drmBuddyInit] at ok
  | true =>
    simp only [fdcaVramManagerInit, drmBuddyInit, if_true, Except.ok.injEq] at ok
    subst ok
    have bound := BitVec.le_def.1 (fdcaVramGetSize_le sizeReg)
    generalize fdcaVramGetSize sizeReg = size at bound ⊢
    refine ⟨rfl, bound, .nil, nofun, rfl, ?_, .nil, rfl, rfl, ?_⟩
    · simp [DrmBuddy.avail]
    · simp

/-- An allocation keeps the invariant, whatever its outcome. -/
theorem VramInv.alloc (inv : VramInv vramBase s) (size : U64) (flags : U32) :
    VramInv vramBase (s.alloc size flags) := by
  have cases := fdcaVramAlloc_cases s.vram s.slab size flags
  unfold VramSystem.alloc
  generalize fdcaVramAlloc s.vram s.slab size flags = r at cases ⊢
  obtain ⟨result, vram', slab'⟩ := r
  obtain ⟨buddy, sameSize, ⟨⟨ret, rfl⟩, rfl, blocks, slab⟩ |
    ⟨block, fits, pos, fitsVram, rfl, rfl, blocks, slab⟩⟩ := cases <;> dsimp only at slab ⊢
  · exact ⟨sameSize.trans inv.size, inv.sizeMax, blocks ▸ inv.blocks, inv.shape, blocks ▸ inv.used,
      by rw [DrmBuddy.avail, sameSize, blocks]; exact inv.available, inv.io, inv.badUnmaps,
      slab.trans inv.slab, inv.counts⟩
  obtain ⟨⟨-, inside, -⟩, ⟨request, room⟩, -⟩ := fits
  have sizeMax := inv.sizeMax
  have bounded := s.vram.buddy.bounded
  have used := inv.used
  have available := inv.available
  rw [DrmBuddy.avail, inv.size] at room available
  rw [inv.size] at bounded
  rw [vramSizeMax_toNat] at sizeMax
  have aligned : 0 < (PAGE_ALIGN size).toNat := by
    rw [PAGE_ALIGN_toNat (by have := BitVec.le_def.1 fitsVram; omega)]
    omega
  have ofNat_toNat {n : Nat} (small : n ≤ 2 ^ 34) : (BitVec.ofNat 64 n).toNat = n := by
    rw [BitVec.toNat_ofNat]; exact Nat.mod_eq_of_lt (by omega)
  have blockSize : (BitVec.ofNat 64 block.size).toNat = block.size := ofNat_toNat (by omega)
  refine ⟨sameSize.trans inv.size, inv.sizeMax, ?_, ?_, ?_, ?_, inv.io, inv.badUnmaps, ?_,
    counterGap_succ inv.counts⟩
  · rw [blocks]
    exact inv.blocks.cons block
  · simp only [List.mem_cons, forall_eq_or_imp]
    exact ⟨⟨ofNat_toNat (by omega), blockSize, show 0 < block.size by omega, rfl, rfl⟩, inv.shape⟩
  · rw [BitVec.toNat_add_of_lt (by omega), used, blockSize, blocks, drmBuddyBlocksSize_cons]
    omega
  · have booked : BitVec.ofNat 64 block.size ≤ s.vram.available := BitVec.le_def.2 (by omega)
    rw [DrmBuddy.avail, BitVec.toNat_sub_of_le booked, available, blockSize, blocks,
      drmBuddyBlocksSize_cons, sameSize, inv.size]
    omega
  · simp [slab, inv.slab]

/-- A step that replaces one live object by another on the same block, with the mappings
following, keeps the invariant. -/
theorem VramInv.replace (inv : VramInv vramBase s) {obj obj' : FdcaVramObject} {io : IoMapper}
    (mem : obj ∈ s.objs) (block : obj'.block = obj.block) (shape : VramObjectShape vramBase obj')
    (live : io.live.Perm (vramCpuAddrs (obj' :: s.objs.erase obj))) (bad : io.badUnmaps = 0) :
    VramInv vramBase { s with io, objs := obj' :: s.objs.erase obj } := by
  have split := List.perm_cons_erase mem
  have len : (obj' :: s.objs.erase obj).length = s.objs.length := by
    simpa using split.length_eq.symm
  refine ⟨inv.size, inv.sizeMax, ?_, ?_, inv.used, inv.available, live, bad,
    len ▸ inv.slab, len ▸ inv.counts⟩
  · simpa [block] using inv.blocks.trans (split.map _)
  · simp only [List.mem_cons, forall_eq_or_imp]
    exact ⟨shape, fun o mem' => inv.shape o (List.mem_of_mem_erase mem')⟩

/-- Mapping a live object keeps the invariant: a new mapping comes with a CPU address, and
a failed or repeated one changes nothing. -/
theorem VramInv.map (inv : VramInv vramBase s) {obj : FdcaVramObject} (mem : obj ∈ s.objs) :
    VramInv vramBase (s.map vramBase obj) := by
  have shape := inv.shape obj mem
  have live := inv.io.trans (vramCpuAddrs_perm_erase mem)
  unfold VramSystem.map fdcaVramMap
  by_cases mapped : obj.mapped
  · simp only [mapped, if_true]
    exact inv.replace mem rfl shape (by simpa using live) inv.badUnmaps
  have noAddr : obj.cpuAddr = none := by simpa [mapped] using shape.mapped.symm
  rw [noAddr] at live
  rw [if_neg mapped]
  unfold ioremapWc
  cases remap : s.io.remap s.io.calls (vramBase + obj.offset).toNat obj.size.toNat with
  | none =>
    have same : ({ obj with cpuAddr := none } : FdcaVramObject) = obj := by rw [← noAddr]
    simp only [remap, same]
    exact inv.replace mem rfl shape (by simpa [noAddr] using live) inv.badUnmaps
  | some addr =>
    simp only [remap]
    exact inv.replace mem rfl ⟨shape.offset, shape.size, shape.pos, rfl, by simp⟩
      (by simpa using live.cons addr) inv.badUnmaps

/-- Unmapping a live object keeps the invariant: its mapping, if any, is the one undone. -/
theorem VramInv.unmap (inv : VramInv vramBase s) {obj : FdcaVramObject} (mem : obj ∈ s.objs) :
    VramInv vramBase (s.unmap obj) := by
  have shape := inv.shape obj mem
  have live := inv.io.trans (vramCpuAddrs_perm_erase mem)
  unfold VramSystem.unmap fdcaVramUnmap
  by_cases mapped : obj.mapped
  · simp only [mapped, if_true]
    have undone := iounmap_of_perm live
    exact inv.replace mem rfl ⟨shape.offset, shape.size, shape.pos, rfl, rfl⟩
      (by simpa using undone.1) (undone.2.trans inv.badUnmaps)
  · have noAddr : obj.cpuAddr = none := by simpa [mapped] using shape.mapped.symm
    simp only [mapped, Bool.false_eq_true, if_false]
    exact inv.replace mem rfl shape (by simpa [noAddr] using live) inv.badUnmaps

/-- Freeing a live object keeps the invariant, whatever `drm_buddy_avail_size` answers: its
block and bytes go back, and the fragmentation it then measures sets only the in-progress
flag. -/
theorem VramInv.free (inv : VramInv vramBase s) (availSize : DrmBuddyAvailSize)
    {obj : FdcaVramObject} (mem : obj ∈ s.objs) : VramInv vramBase (s.free availSize obj) := by
  have shape := inv.shape obj mem
  have live := inv.io.trans (vramCpuAddrs_perm_erase mem)
  have blockMem : obj.block ∈ s.vram.buddy.blocks :=
    inv.blocks.mem_iff.2 (List.mem_map_of_mem _ mem)
  have erased := drmBuddyBlocksSize_erase s.vram.buddy.blocks obj.block
  rw [if_pos blockMem] at erased
  have io : (if obj.mapped then (fdcaVramUnmap s.io obj).2 else s.io) = iounmap obj.cpuAddr s.io := by
    unfold fdcaVramUnmap
    split
    · rfl
    · have noAddr : obj.cpuAddr = none := by simpa [‹_›] using shape.mapped.symm
      rw [noAddr]; rfl
  have undone := iounmap_of_perm live
  have sizeMax := inv.sizeMax
  have bounded := s.vram.buddy.bounded
  have used := inv.used
  have available := inv.available
  have objSize := shape.size
  simp only [DrmBuddy.avail] at available
  rw [inv.size] at available bounded
  rw [vramSizeMax_toNat] at sizeMax
  let vram : FdcaVramManager :=
    { s.vram with
      buddy := drmBuddyFreeBlock s.vram.buddy obj.block
      used := s.vram.used - obj.size
      available := s.vram.available + obj.size
      freeCount := s.vram.freeCount + 1 }
  have inv' : VramInv vramBase ⟨vram, s.slab.free, iounmap obj.cpuAddr s.io, s.objs.erase obj⟩ := by
    refine ⟨inv.size, inv.sizeMax, ?_, fun o mem' => inv.shape o (List.mem_of_mem_erase mem'),
      ?_, ?_, undone.1, undone.2.trans inv.badUnmaps, ?_, ?_⟩
    · have split := (List.perm_cons_erase mem).map (·.block)
      simpa using (inv.blocks.erase obj.block).trans (split.erase obj.block)
    · have released : obj.size ≤ s.vram.used := BitVec.le_def.2 (by omega)
      simp only [vram, drmBuddyFreeBlock, BitVec.toNat_sub_of_le released]
      omega
    · simp only [vram, drmBuddyFreeBlock, DrmBuddy.avail, inv.size]
      rw [BitVec.toNat_add_of_lt (by omega)]
      omega
    · simp [inv.slab, List.length_erase_of_mem mem]
    · rw [List.length_erase_of_mem mem]
      exact counterGap_pred inv.counts (List.length_pos_of_mem mem)
  unfold VramSystem.free fdcaVramFree
  dsimp only
  rw [io, fdcaVramCheckFragmentation_eq]
  exact inv'.withDefrag _

/-- The defragmentation work keeps the invariant. -/
theorem VramInv.defragWork (inv : VramInv vramBase s) : VramInv vramBase s.defrag :=
  inv.withDefrag false

/-- Every reachable state satisfies the invariant. -/
theorem VramInv.of_reachable (reach : VramReachable vramBase s) : VramInv vramBase s := by
  induction reach with
  | init place buddyOk sizeReg slabOk remap ok => exact VramInv.init slabOk remap ok
  | alloc size flags _ ih => exact ih.alloc size flags
  | map _ mem ih => exact ih.map mem
  | unmap _ mem ih => exact ih.unmap mem
  | free availSize _ mem ih => exact ih.free availSize mem
  | defrag _ ih => exact ih.defragWork

/-- The manager's `used` is the total size of the live objects. -/
theorem VramInv.used_sum (inv : VramInv vramBase s) :
    s.vram.used.toNat = (s.objs.map (·.size.toNat)).sum := by
  rw [inv.used, drmBuddyBlocksSize, (inv.blocks.map _).sum_eq, List.map_map]
  congr 1
  exact List.map_congr_left fun o mem => ((inv.shape o mem).size).symm

/-- The manager's `used` and `available` add up to the VRAM size. -/
theorem VramInv.used_add_available (inv : VramInv vramBase s) :
    s.vram.used.toNat + s.vram.available.toNat = s.vram.size.toNat := by
  have bounded := s.vram.buddy.bounded
  rw [inv.used, inv.available, DrmBuddy.avail, ← inv.size]
  omega

end Preservation

/-! ## A sample run -/

/-- A buddy search that puts the `n`-th block at `n` times 2 MiB. -/
def sampleVramPlace : Nat → Nat → Nat → Bool → Option DrmBuddyBlock :=
  fun n size _ _ => some ⟨n * 0x200000, size⟩

/-- An `ioremap_wc` that maps the `n`-th request at CPU address `(n + 1) * 4096`. -/
def sampleVramRemap : Nat → Nat → Nat → Option Nat := fun n _ _ => some ((n + 1) * 4096)

/-- The manager `fdca_vram_manager_init` sets up when the register reads 256 MiB. -/
def sampleVram : FdcaVramManager :=
  { buddy := ⟨0x10000000, 4096, sampleVramPlace, 0, [], fun _ mem => (nomatch mem), .nil,
      Nat.zero_le _⟩
    base := 0, size := 0x10000000, available := 0x10000000, used := 0, allocCount := 0,
    freeCount := 0, largePageCount := 0, defragInProgress := false }

/-- The state after that `fdca_vram_manager_init`, with slab allocations that all succeed. -/
def sampleVramStart : VramSystem :=
  ⟨sampleVram, ⟨fun _ => true, 0, 0⟩, ⟨sampleVramRemap, 0, [], 0⟩, []⟩

theorem sampleVramStart_reachable : VramReachable 0x80000000 sampleVramStart :=
  .init sampleVramPlace true 256 _ _ rfl

/-- The object a 12 KiB allocation with no flags gets first. -/
def sampleVramObj : FdcaVramObject := ⟨⟨0, 0x3000⟩, 0, 0x3000, 0, none, 0, false⟩

/-- The state after that allocation. -/
def sampleVramOne : VramSystem := sampleVramStart.alloc 0x3000 0

theorem sampleVramOne_reachable : VramReachable 0x80000000 sampleVramOne :=
  sampleVramStart_reachable.alloc 0x3000 0

/-! ## What every run keeps -/

section Runs

variable {vramBase : U64} {s : VramSystem}

/-- In every reachable state the manager's `used` is the total size of the live objects,
and `used` and `available` add up to the VRAM size: no allocation or free makes either
wrap around. -/
theorem vramAccounting_of_reachable (reach : VramReachable vramBase s) :
    s.vram.used.toNat = (s.objs.map (·.size.toNat)).sum ∧
      s.vram.used.toNat + s.vram.available.toNat = s.vram.size.toNat := by
  have inv := VramInv.of_reachable reach
  exact ⟨inv.used_sum, inv.used_add_available⟩

theorem vramAccounting_one :
    VramReachable 0x80000000 sampleVramOne ∧ sampleVramOne.vram.used.toNat = 0x3000 ∧
      sampleVramOne.vram.used.toNat + sampleVramOne.vram.available.toNat = 0x10000000 :=
  have accounting := vramAccounting_of_reachable sampleVramOne_reachable
  ⟨sampleVramOne_reachable, accounting.1.trans (by decide), accounting.2.trans (by decide)⟩

/-- In every reachable state the live `ioremap_wc` mappings are exactly the CPU addresses
of the mapped live objects, every object has a CPU address exactly when it is mapped, and
no `iounmap` has missed: once every object is freed, no mapping is left. -/
theorem vramIoMappings_of_reachable (reach : VramReachable vramBase s) :
    s.io.live.Perm (s.objs.filterMap (·.cpuAddr)) ∧
      (∀ obj ∈ s.objs, obj.mapped = obj.cpuAddr.isSome) ∧ s.io.badUnmaps = 0 := by
  have inv := VramInv.of_reachable reach
  exact ⟨inv.io, fun obj mem => (inv.shape obj mem).mapped, inv.badUnmaps⟩

theorem vramIoMappings_mapped :
    VramReachable 0x80000000 (sampleVramOne.map 0x80000000 sampleVramObj) ∧
      (sampleVramOne.map 0x80000000 sampleVramObj).io.live = [4096] ∧
      (sampleVramOne.map 0x80000000 sampleVramObj).io.live.Perm
        ((sampleVramOne.map 0x80000000 sampleVramObj).objs.filterMap (·.cpuAddr)) :=
  have reach := sampleVramOne_reachable.map (by decide)
  ⟨reach, by decide, (vramIoMappings_of_reachable reach).1⟩

/-- In every reachable state `fdca_vram_manager_fini` warns of leaked VRAM exactly when some
object is still live: every live object holds at least one byte. -/
theorem fdcaVramManagerFini_warns_iff (reach : VramReachable vramBase s) :
    fdcaVramManagerFini s.vram = true ↔ s.objs ≠ [] := by
  have inv := VramInv.of_reachable reach
  have zero : (0 : U64).toNat = 0 := rfl
  simp only [fdcaVramManagerFini, decide_eq_true_eq, gt_iff_lt, BitVec.lt_def, inv.used_sum, zero]
  cases objs : s.objs with
  | nil => simp
  | cons obj rest =>
    have shape := inv.shape obj (by simp [objs])
    simp only [List.map_cons, List.sum_cons, ne_eq, reduceCtorEq, not_false_eq_true, iff_true,
      shape.size]
    have := shape.pos
    omega

theorem fdcaVramManagerFini_warns_one :
    VramReachable 0x80000000 sampleVramOne ∧ fdcaVramManagerFini sampleVramOne.vram = true :=
  ⟨sampleVramOne_reachable,
    (fdcaVramManagerFini_warns_iff sampleVramOne_reachable).2 (by decide)⟩

/-- From a reachable state, freeing the object an allocation just returned gives back what
the allocation took: the manager's `used` and `available`, the allocator's blocks, the gap
between the allocation and free counts, the live slab objects and the CPU mappings are as
before the allocation. -/
theorem fdcaVramFree_after_alloc (reach : VramReachable vramBase s) {size : U64} {flags : U32}
    {obj : FdcaVramObject} (ok : (fdcaVramAlloc s.vram s.slab size flags).1 = .ok obj)
    (availSize : DrmBuddyAvailSize) :
    let a := s.alloc size flags
    let r := fdcaVramFree availSize a.vram a.slab a.io obj
    r.1.used = s.vram.used ∧ r.1.available = s.vram.available ∧
      r.1.buddy.blocks = s.vram.buddy.blocks ∧
      r.1.allocCount - r.1.freeCount = s.vram.allocCount - s.vram.freeCount ∧
      r.2.1.live = s.slab.live ∧ r.2.2.live = s.io.live := by
  have inv := VramInv.of_reachable reach
  have cases := fdcaVramAlloc_cases s.vram s.slab size flags
  unfold VramSystem.alloc
  generalize fdcaVramAlloc s.vram s.slab size flags = r at cases ok ⊢
  obtain ⟨result, vram', slab'⟩ := r
  obtain ⟨buddy, sameSize, ⟨⟨ret, rfl⟩, -⟩ | ⟨block, -, -, -, rfl, rfl, blocks, slab⟩⟩ := cases
  · cases ok
  cases ok
  dsimp only at slab ⊢
  unfold fdcaVramFree
  simp only [Bool.false_eq_true, if_false, BitVec.add_sub_cancel, BitVec.sub_add_cancel]
  rw [fdcaVramCheckFragmentation_eq]
  refine ⟨rfl, rfl, by simp [drmBuddyFreeBlock, blocks], by bv_omega, ?_, trivial⟩
  simp [slab]

/-- A `drm_buddy_avail_size` that finds no free block: every free measures a fragmentation of
100 percent and schedules the defragmentation. -/
def noFreeBlock : DrmBuddyAvailSize := ⟨fun _ => 0, fun _ => Nat.zero_le _⟩

/-- Freeing the first object gives its bytes back, though the free schedules the
defragmentation. -/
theorem fdcaVramFree_after_alloc_one :
    (fdcaVramAlloc sampleVramStart.vram sampleVramStart.slab 0x3000 0).1 = .ok sampleVramObj ∧
      (fdcaVramFree noFreeBlock sampleVramOne.vram sampleVramOne.slab sampleVramOne.io
        sampleVramObj).1.used = sampleVramStart.vram.used ∧
      (fdcaVramFree noFreeBlock sampleVramOne.vram sampleVramOne.slab sampleVramOne.io
        sampleVramObj).1.defragInProgress = true :=
  have ok : (fdcaVramAlloc sampleVramStart.vram sampleVramStart.slab 0x3000 0).1 =
      .ok sampleVramObj := rfl
  ⟨ok, (fdcaVramFree_after_alloc sampleVramStart_reachable ok noFreeBlock).1, rfl⟩

end Runs

end FdcaRvv
