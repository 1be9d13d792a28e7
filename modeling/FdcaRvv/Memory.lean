import FdcaRvv.GttSystem
import FdcaRvv.VramSystem

/-!
# The memory manager: VRAM, GTT and pools together

`fdca_memory.c` sets the device's memory up in one manager. `fdca_memory_manager_init`
allocates the manager, brings up the VRAM manager, then the GTT manager, then two
`gen_pool` pools, and queues the cache cleanup work; a step that fails sends it down a
ladder of labels that undoes the steps before it, last first. `fdca_memory_manager_fini`
undoes all of them. `fdca_gem_object_create` backs a GEM object with VRAM, and
`fdca_gem_object_free` gives it back.

The kernel resources the memory code holds are counted: slab blocks (the manager, the pool
headers `gen_pool_create` allocates, GEM and VRAM objects), coherent DMA blocks (the GTT
page table), `drm_buddy` allocators set up and not yet finished, shmem files behind GEM
objects, and whether the cleanup work is queued. No function of the driver adds to the
cached-object list, so the cleanup work and the teardown find it empty.

The model follows this file as written. As it stands it builds only once two things are
reconciled: `fdca_drm.c` defines stubs under the names `fdca_memory_manager_init` and
`fdca_memory_manager_fini`, and `fdca_drv.h` declares `cache_cleanup` a `work_struct` where
this file uses it as a `delayed_work`.
-/

namespace FdcaRvv

/-! ## The manager -/

/-- `struct fdca_memory_manager`: the VRAM and GTT managers, and whether each pool pointer
is set. -/
structure FdcaMemoryManager where
  vram : FdcaVramManager
  gtt : FdcaGttManager
  smallPool : Bool
  largePool : Bool

/-- What the memory code of one device holds: `fdev->mem_mgr`, the GTT registers, and the
kernel resources. `buddies` counts the `drm_buddy` allocators set up and not finished. -/
structure MemDevice where
  memMgr : Option FdcaMemoryManager
  slab : CountingSlab
  pool : Slab
  mmio : GttMmio
  buddies : Nat
  cleanupQueued : Bool

/-- `fdca_memory_create_pools`: two `gen_pool_create` calls, each a slab allocation. When
the second fails the first pool is destroyed; its pointer is left as it was. -/
def fdcaMemoryCreatePools (slab : CountingSlab) : Int × Bool × Bool × CountingSlab :=
  match slab.alloc with
  | (false, slab) => (-ENOMEM, false, false, slab)
  | (true, slab) =>
    match slab.alloc with
    | (false, slab) => (-ENOMEM, true, false, slab.free)
    | (true, slab) => (0, true, true, slab)

/-- `fdca_memory_destroy_pools`: destroy each pool that is set, and clear its pointer. -/
def fdcaMemoryDestroyPools (mgr : FdcaMemoryManager) (slab : CountingSlab) :
    FdcaMemoryManager × CountingSlab :=
  let slab := if mgr.largePool then slab.free else slab
  let slab := if mgr.smallPool then slab.free else slab
  ({ mgr with smallPool := false, largePool := false }, slab)

/-- `fdca_memory_manager_init`. `buddyPlace` and `buddyOk` are the `drm_buddy` oracles
and `vramSizeReg` the size register of `fdca_vram_manager_init`; `place` is the GTT's hole
search. `fdca_vram_manager_init` sets up one `drm_buddy` allocator, and the
`fdca_vram_manager_fini` of the unwinding finishes it. -/
def fdcaMemoryManagerInit (dev : MemDevice)
    (buddyPlace : Nat → Nat → Nat → Bool → Option DrmBuddyBlock) (buddyOk : Bool)
    (vramSizeReg : U32) (place : Nat → Option Nat) : Int × MemDevice :=
  match dev.slab.alloc with
  | (false, slab) => (-ENOMEM, { dev with slab })
  | (true, slab) =>
    match fdcaVramManagerInit buddyPlace buddyOk vramSizeReg with
    | .error ret => (ret, { dev with memMgr := none, slab := slab.free })
    | .ok vram =>
      let buddies := dev.buddies + 1
      let gtt := fdcaGttManagerInit place dev.mmio dev.pool
      if gtt.1 ≠ 0 then
        (gtt.1,
          { dev with
            memMgr := none
            slab := slab.free
            pool := gtt.2.2.2
            mmio := gtt.2.2.1
            buddies := buddies - 1 })
      else
        match fdcaMemoryCreatePools slab with
        | (0, smallPool, largePool, slab) =>
          (0,
            { memMgr := some ⟨vram, gtt.2.1, smallPool, largePool⟩
              slab
              pool := gtt.2.2.2
              mmio := gtt.2.2.1
              buddies
              cleanupQueued := true })
        | (ret, _, _, slab) =>
          let gttFini := fdcaGttManagerFini gtt.2.1 gtt.2.2.2
          (ret,
            { dev with
              memMgr := none
              slab := slab.free
              pool := gttFini.2
              mmio := gtt.2.2.1
              buddies := buddies - 1 })

/-- `fdca_memory_manager_fini`: cancel the cleanup work, destroy the pools, finish the GTT
and VRAM managers and free the manager. -/
def fdcaMemoryManagerFini (dev : MemDevice) : MemDevice :=
  match dev.memMgr with
  | none => dev
  | some mgr =>
    let pools := fdcaMemoryDestroyPools mgr dev.slab
    let gttFini := fdcaGttManagerFini mgr.gtt dev.pool
    { dev with
      memMgr := none
      slab := pools.2.free
      pool := gttFini.2
      buddies := dev.buddies - 1
      cleanupQueued := false }

/-! ## GEM objects -/

/-- `struct fdca_gem_object`, with the fields the driver reads back: the size and flags it
was created with and its VRAM object. `gtt_entry`, `pages` and `sg_table` stay `NULL` from
`kzalloc`: nothing sets them. -/
structure FdcaGemObject where
  size : U64
  flags : U32
  vramObj : FdcaVramObject
  deriving DecidableEq, Repr

/-- `fdca_gem_object_create(fdev, size, flags)`. `shmem` holds the shmem files
`drm_gem_object_init` sets up and `drm_gem_object_release` gives back. -/
def fdcaGemObjectCreate (vram : FdcaVramManager) (slab shmem : CountingSlab) (size : U64)
    (flags : U32) : Except Int FdcaGemObject × FdcaVramManager × CountingSlab × CountingSlab :=
  match slab.alloc with
  | (false, slab) => (.error (-ENOMEM), vram, slab, shmem)
  | (true, slab) =>
    match shmem.alloc with
    | (false, shmem) => (.error (-ENOMEM), vram, slab.free, shmem)
    | (true, shmem) =>
      match fdcaVramAlloc vram slab size flags with
      | (.error ret, vram, slab) => (.error ret, vram, slab.free, shmem.free)
      | (.ok vramObj, vram, slab) => (.ok ⟨size, flags, vramObj⟩, vram, slab, shmem)

/-- `fdca_gem_object_free` of an object: free its VRAM, release the GEM object and free it. -/
def fdcaGemObjectFree (availSize : DrmBuddyAvailSize) (vram : FdcaVramManager)
    (slab shmem : CountingSlab) (io : IoMapper) (obj : FdcaGemObject) :
    FdcaVramManager × CountingSlab × CountingSlab × IoMapper :=
  let freed := fdcaVramFree availSize vram slab io obj.vramObj
  (freed.1, freed.2.1.free, shmem.free, freed.2.2)

/-- A failed `fdca_gem_object_create` gives back what it took on the way: the object's slab
block, the shmem file of `drm_gem_object_init` and, when `fdca_vram_alloc` failed, the slab
block and VRAM bytes of that call. The VRAM manager is as it was but for its allocator's
state, which holds the same blocks. -/
theorem fdcaGemObjectCreate_failure_restores {vram : FdcaVramManager} {slab shmem : CountingSlab}
    {size : U64} {flags : U32} {ret : Int}
    (failed : (fdcaGemObjectCreate vram slab shmem size flags).1 = .error ret) :
    let r := fdcaGemObjectCreate vram slab shmem size flags
    (∃ buddy : DrmBuddy, buddy.size = vram.buddy.size ∧ buddy.blocks = vram.buddy.blocks ∧
        r.2.1 = { vram with buddy }) ∧
      r.2.2.1.live = slab.live ∧ r.2.2.2.live = shmem.live := by
  unfold fdcaGemObjectCreate at failed ⊢
  obtain ⟨slab', ⟨alloc, slabLive⟩ | ⟨alloc, slabLive⟩⟩ := slab.alloc_cases <;>
    rw [alloc] at failed ⊢ <;> dsimp only at failed ⊢
  -- the object's `kzalloc` fails
  · exact ⟨⟨vram.buddy, rfl, rfl, rfl⟩, slabLive, rfl⟩
  obtain ⟨shmem', ⟨init, shmemLive⟩ | ⟨init, shmemLive⟩⟩ := shmem.alloc_cases <;>
    rw [init] at failed ⊢ <;> dsimp only at failed ⊢
  -- `drm_gem_object_init` fails: `kfree(obj)`
  · exact ⟨⟨vram.buddy, rfl, rfl, rfl⟩, by simp [slabLive], shmemLive⟩
  -- `fdca_vram_alloc` fails: `err_gem_free`
  have vramAlloc := fdcaVramAlloc_cases vram slab' size flags
  revert failed
  generalize fdcaVramAlloc vram slab' size flags = v at vramAlloc ⊢
  obtain ⟨result, vram', slab''⟩ := v
  obtain ⟨buddy, sameSize, ⟨⟨_, rfl⟩, rfl, blocks, live⟩ | ⟨-, -, -, -, rfl, -⟩⟩ := vramAlloc
  · rintro -
    dsimp only at live ⊢
    exact ⟨⟨buddy, sameSize, blocks, rfl⟩, by simp [live, slabLive], by simp [shmemLive]⟩
  · rintro ⟨⟩

/-- A request larger than the VRAM gets past the object's `kzalloc` and `drm_gem_object_init`
and is rejected by `fdca_vram_alloc`: the create unwinds through `err_gem_free`. -/
theorem fdcaGemObjectCreate_failure_too_large :
    (fdcaGemObjectCreate sampleVram ⟨fun _ => true, 0, 0⟩ ⟨fun _ => true, 0, 0⟩ 0x20000000 0).1 =
        .error (-EINVAL) ∧
      let r := fdcaGemObjectCreate sampleVram ⟨fun _ => true, 0, 0⟩ ⟨fun _ => true, 0, 0⟩
        0x20000000 0
      (∃ buddy : DrmBuddy, buddy.size = sampleVram.buddy.size ∧
          buddy.blocks = sampleVram.buddy.blocks ∧ r.2.1 = { sampleVram with buddy }) ∧
        r.2.2.1.live = 0 ∧ r.2.2.2.live = 0 :=
  have failed : (fdcaGemObjectCreate sampleVram ⟨fun _ => true, 0, 0⟩ ⟨fun _ => true, 0, 0⟩
      0x20000000 0).1 = .error (-EINVAL) := rfl
  ⟨failed, fdcaGemObjectCreate_failure_restores failed⟩

/-! ## Set-up and teardown -/

/-- What the memory code of a device holds of the kernel: live slab blocks, the coherent
pool's live blocks and bad frees, `drm_buddy` allocators, and the queued cleanup work. -/
structure MemFootprint where
  slabLive : Nat
  coherent : List Block
  badFrees : Nat
  buddies : Nat
  cleanupQueued : Bool
  deriving DecidableEq

/-- The footprint of a device. -/
def MemDevice.footprint (dev : MemDevice) : MemFootprint :=
  ⟨dev.slab.live, dev.pool.live, dev.pool.badFrees, dev.buddies, dev.cleanupQueued⟩

/-- `fdca_memory_create_pools` fails with `-ENOMEM` and no pool header left live, or sets both
pools, each a new slab block. -/
theorem fdcaMemoryCreatePools_cases (slab : CountingSlab) :
    let r := fdcaMemoryCreatePools slab
    (r.1 = -ENOMEM ∧ r.2.2.2.live = slab.live) ∨
      (r.1 = 0 ∧ r.2.1 = true ∧ r.2.2.1 = true ∧ r.2.2.2.live = slab.live + 2) := by
  unfold fdcaMemoryCreatePools CountingSlab.alloc
  cases small : slab.succeeds slab.attempts
  · simp [small]
  cases large : slab.succeeds (slab.attempts + 1) <;> simp [small, large]

section Init

variable (dev : MemDevice) (buddyPlace : Nat → Nat → Nat → Bool → Option DrmBuddyBlock)
  (buddyOk : Bool) (vramSizeReg : U32) (place : Nat → Option Nat)

/-- What one `fdca_memory_manager_init` can do, on a device with no manager. It fails, and
the labels it falls through give back everything the steps before took; or it succeeds with
a manager whose two pools are set and whose GTT page table is a new coherent block, and it
holds three slab blocks more (the manager and two pool headers), one `drm_buddy` allocator
more, and the queued cleanup work. -/
theorem fdcaMemoryManagerInit_cases (noMgr : dev.memMgr = none) :
    let r := fdcaMemoryManagerInit dev buddyPlace buddyOk vramSizeReg place
    (r.1 ≠ 0 ∧ r.2.memMgr = none ∧ r.2.footprint = dev.footprint) ∨
      (r.1 = 0 ∧ ∃ vram gtt addr, gtt.pageTableAddr = some addr ∧
        r.2.memMgr = some ⟨vram, gtt, true, true⟩ ∧
        r.2.footprint = ⟨dev.slab.live + 3,
          ⟨addr, .dmaCoherent (gtt.numEntries.setWidth 64 * 8).toNat⟩ :: dev.pool.live,
          dev.pool.badFrees, dev.buddies + 1, true⟩) := by
  unfold fdcaMemoryManagerInit
  obtain ⟨slab, ⟨alloc, slabLive⟩ | ⟨alloc, slabLive⟩⟩ := dev.slab.alloc_cases <;>
    rw [alloc] <;> dsimp only
  -- the manager's `kzalloc` fails: nothing to undo
  · left
    simp [MemDevice.footprint, ENOMEM, noMgr, slabLive]
  cases vramInit : fdcaVramManagerInit buddyPlace buddyOk vramSizeReg with
  | error ret =>
    -- `fdca_vram_manager_init` fails: `err_free_mem_mgr`
    rw [fdcaVramManagerInit_error vramInit]
    left
    simp [MemDevice.footprint, ENOMEM, slabLive]
  | ok vram =>
    dsimp only
    have gtt := fdcaGttManagerInit_cases place dev.mmio dev.pool
    generalize fdcaGttManagerInit place dev.mmio dev.pool = g at gtt ⊢
    obtain ⟨ret, gtt, mmio, pool⟩ := g
    obtain ⟨rfl, -, live, bad⟩ | ⟨rfl, addr, made, live, bad, -⟩ := gtt
    -- `fdca_gtt_manager_init` fails: `err_fini_vram`
    · dsimp only at live bad ⊢
      left
      simp [MemDevice.footprint, ENOMEM, live, bad, slabLive]
    dsimp only at made live bad ⊢
    have table : gtt.pageTableAddr = some addr := by rw [made]
    have head : pool.live =
        ⟨addr, .dmaCoherent (gtt.numEntries.setWidth 64 * 8).toNat⟩ :: dev.pool.live := by
      rw [live, made]
    clear made live
    simp only [ne_eq, not_true_eq_false, if_false]
    have pools := fdcaMemoryCreatePools_cases slab
    generalize fdcaMemoryCreatePools slab = p at pools ⊢
    obtain ⟨ret, small, large, slab⟩ := p
    obtain ⟨rfl, pooled⟩ | ⟨rfl, rfl, rfl, pooled⟩ := pools <;> dsimp only at pooled ⊢
    -- `fdca_memory_create_pools` fails: `err_fini_gtt`
    · obtain ⟨-, fini, finiBad⟩ := fdcaGttManagerFini_of_head pool table head
      left
      simp [MemDevice.footprint, ENOMEM, fini, finiBad, bad, pooled, slabLive]
    · exact .inr ⟨rfl, vram, gtt, addr, table, rfl,
        by simp [MemDevice.footprint, slabLive, pooled, head, bad]⟩

/-- A failed `fdca_memory_manager_init` leaves `fdev->mem_mgr` cleared and the device holding
exactly what it held before: whichever step failed, the labels below it undo every step
above it. -/
theorem fdcaMemoryManagerInit_failure_restores (noMgr : dev.memMgr = none)
    (failed : (fdcaMemoryManagerInit dev buddyPlace buddyOk vramSizeReg place).1 ≠ 0) :
    (fdcaMemoryManagerInit dev buddyPlace buddyOk vramSizeReg place).2.memMgr = none ∧
      (fdcaMemoryManagerInit dev buddyPlace buddyOk vramSizeReg place).2.footprint =
        dev.footprint := by
  obtain ⟨-, unset, same⟩ | ⟨ok, -⟩ :=
    fdcaMemoryManagerInit_cases dev buddyPlace buddyOk vramSizeReg place noMgr
  · exact ⟨unset, same⟩
  · exact absurd ok failed

/-- `fdca_memory_manager_fini` right after a successful `fdca_memory_manager_init` gives back
everything init took: the manager and pool headers, the GTT page table and the `drm_buddy`
allocator, and cancels the cleanup work. -/
theorem fdcaMemoryManagerFini_after_init (noMgr : dev.memMgr = none)
    (idle : dev.cleanupQueued = false)
    (ok : (fdcaMemoryManagerInit dev buddyPlace buddyOk vramSizeReg place).1 = 0) :
    (fdcaMemoryManagerFini
        (fdcaMemoryManagerInit dev buddyPlace buddyOk vramSizeReg place).2).memMgr = none ∧
      (fdcaMemoryManagerFini
        (fdcaMemoryManagerInit dev buddyPlace buddyOk vramSizeReg place).2).footprint =
        dev.footprint := by
  obtain ⟨failed, -⟩ | ⟨-, vram, gtt, addr, table, mgr, held⟩ :=
    fdcaMemoryManagerInit_cases dev buddyPlace buddyOk vramSizeReg place noMgr
  · exact absurd ok failed
  generalize (fdcaMemoryManagerInit dev buddyPlace buddyOk vramSizeReg place).2 = d at mgr held ⊢
  simp only [MemDevice.footprint, MemFootprint.mk.injEq] at held
  obtain ⟨slabLive, head, bad, buddies, -⟩ := held
  obtain ⟨-, live, finiBad⟩ := fdcaGttManagerFini_of_head d.pool table head
  simp only [fdcaMemoryManagerFini, mgr, fdcaMemoryDestroyPools, if_true]
  simp [MemDevice.footprint, live, finiBad, bad, slabLive, buddies, idle]

end Init

/-! ## A sample device -/

/-- A device with no memory manager yet, whose coherent allocations all succeed and whose
aperture register reads 0. Its `n`-th slab allocation succeeds when `slabOk n`. -/
def sampleMemDevice (slabOk : Nat → Bool) : MemDevice :=
  ⟨none, ⟨slabOk, 0, 0⟩, sampleGttPool, ⟨0, 0, 0⟩, 0, false⟩

/-- An init whose third slab allocation, the large pool's header, fails: it unwinds through
every label. -/
theorem fdcaMemoryManagerInit_failure_large_pool :
    (sampleMemDevice (· < 2)).memMgr = none ∧
      (fdcaMemoryManagerInit (sampleMemDevice (· < 2)) sampleVramPlace true 256
        sampleGttPlace).1 ≠ 0 ∧
      (fdcaMemoryManagerInit (sampleMemDevice (· < 2)) sampleVramPlace true 256
        sampleGttPlace).2.memMgr = none ∧
      (fdcaMemoryManagerInit (sampleMemDevice (· < 2)) sampleVramPlace true 256
        sampleGttPlace).2.footprint = (sampleMemDevice (· < 2)).footprint :=
  have failed : (fdcaMemoryManagerInit (sampleMemDevice (· < 2)) sampleVramPlace true 256
      sampleGttPlace).1 ≠ 0 := by decide
  ⟨rfl, failed, fdcaMemoryManagerInit_failure_restores _ _ _ _ _ rfl failed⟩

/-- A device whose allocations all succeed is set up and torn down. -/
theorem fdcaMemoryManagerFini_after_init_sample :
    (sampleMemDevice fun _ => true).memMgr = none ∧
      (sampleMemDevice fun _ => true).cleanupQueued = false ∧
      (fdcaMemoryManagerInit (sampleMemDevice fun _ => true) sampleVramPlace true 256
        sampleGttPlace).1 = 0 ∧
      (fdcaMemoryManagerFini (fdcaMemoryManagerInit (sampleMemDevice fun _ => true)
        sampleVramPlace true 256 sampleGttPlace).2).memMgr = none ∧
      (fdcaMemoryManagerFini (fdcaMemoryManagerInit (sampleMemDevice fun _ => true)
        sampleVramPlace true 256 sampleGttPlace).2).footprint =
        (sampleMemDevice fun _ => true).footprint :=
  have ok : (fdcaMemoryManagerInit (sampleMemDevice fun _ => true) sampleVramPlace true 256
      sampleGttPlace).1 = 0 := by decide
  ⟨rfl, rfl, ok, fdcaMemoryManagerFini_after_init _ _ _ _ _ rfl rfl ok⟩

end FdcaRvv
