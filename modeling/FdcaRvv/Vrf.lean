import FdcaRvv.Config

/-!
# The vector register file

`fdca_vrf.c` keeps one global manager, `vrf_mgr`: a bitmap of the 32 vector registers
handed out by `fdca_vrf_alloc_reg` and released by `fdca_vrf_free_reg`, two counters of
those calls, and the lane layout through which `fdca_vrf_read_lane` and
`fdca_vrf_write_lane` reach one lane's slice of a register in the vector unit's MMIO
space: lane `l` has the 4 KiB window at `l * 0x1000`, and register `r` sits at
`r * lane_width / 8` in it.

The allocator refines the set of held registers, a register being held when some
allocation returned it and no free of it came after (`heldRegs`): the bitmap is that set
(`allocatedSet`), allocation takes its smallest missing register, and the counters differ
by its size (`vrfReachable_allocator`). The lane layout does not fit every capability
that validation accepts: register 31's slice leaves the lane's window as soon as a lane is
wider than 1024 bits (`fdcaVrfLaneAccess_layout`).

The spinlock makes each allocator call atomic and the model runs calls one at a time;
the device pointer is only used for logging. Arguments the source declares `int` are
`Int`s, read in the range of a C `int` where the source converts them to unsigned.
-/

namespace FdcaRvv

/-! ## Bitmaps -/

/-- `find_first_zero_bit(addr, size)`: the first clear bit below `size`, or `size` when
all of them are set. -/
def findFirstZeroBit (bitmap : BitVec 32) (size : Nat) : Nat :=
  ((List.range size).find? fun i => !bitmap.getLsbD i).getD size

/-- `set_bit(nr, addr)`. -/
def setBit (nr : Nat) (bitmap : BitVec 32) : BitVec 32 := bitmap ||| BitVec.twoPow 32 nr

/-- The clearing half of `test_and_clear_bit(nr, addr)`. -/
def clearBit (nr : Nat) (bitmap : BitVec 32) : BitVec 32 := bitmap &&& ~~~BitVec.twoPow 32 nr

/-- The registers a bitmap marks allocated. -/
def allocatedSet (bitmap : BitVec 32) : Finset Nat :=
  (Finset.range 32).filter fun i => bitmap.getLsbD i

theorem mem_allocatedSet {bitmap : BitVec 32} {i : Nat} :
    i ∈ allocatedSet bitmap ↔ i < 32 ∧ bitmap.getLsbD i := by
  simp [allocatedSet]

theorem allocatedSet_setBit {nr : Nat} (lt : nr < 32) (bitmap : BitVec 32) :
    allocatedSet (setBit nr bitmap) = insert nr (allocatedSet bitmap) := by
  ext i
  simp only [mem_allocatedSet, setBit, BitVec.getLsbD_or, BitVec.getLsbD_twoPow, Finset.mem_insert]
  by_cases eq : i = nr
  · simp [eq, lt]
  · simp [eq, Ne.symm eq]

theorem allocatedSet_clearBit (nr : Nat) (bitmap : BitVec 32) :
    allocatedSet (clearBit nr bitmap) = (allocatedSet bitmap).erase nr := by
  ext i
  simp only [mem_allocatedSet, clearBit, BitVec.getLsbD_and, BitVec.getLsbD_not,
    BitVec.getLsbD_twoPow, Finset.mem_erase]
  by_cases eq : i = nr
  · simp [eq]
  · simp [eq, Ne.symm eq]
    exact fun lt _ => lt

@[simp] theorem allocatedSet_zero : allocatedSet 0#32 = ∅ := by
  ext i
  simp [mem_allocatedSet]

/-- `find_first_zero_bit` over the 32 registers finds the smallest register missing from
the bitmap's set, and returns 32 when none is. -/
theorem findFirstZeroBit_spec (bitmap : BitVec 32) :
    (findFirstZeroBit bitmap 32 < 32 ∧ findFirstZeroBit bitmap 32 ∉ allocatedSet bitmap ∧
        ∀ j < findFirstZeroBit bitmap 32, j ∈ allocatedSet bitmap) ∨
      (findFirstZeroBit bitmap 32 = 32 ∧ ∀ j < 32, j ∈ allocatedSet bitmap) := by
  unfold findFirstZeroBit
  rcases found : (List.range 32).find? (fun i => !bitmap.getLsbD i) with _ | r <;>
    simp only [Option.getD_none, Option.getD_some]
  · rw [List.find?_range_eq_none] at found
    exact .inr ⟨by trivial, fun j lt => mem_allocatedSet.2 ⟨lt, by simpa using found j lt⟩⟩
  · rw [List.find?_range_eq_some] at found
    obtain ⟨clear, lt, below⟩ := found
    have lt : r < 32 := List.mem_range.1 lt
    refine .inl ⟨lt, fun mem => ?_, fun j jlt => mem_allocatedSet.2 ⟨by omega, ?_⟩⟩
    · simp [(mem_allocatedSet.1 mem).2] at clear
    · simpa using below j jlt

/-! ## The manager -/

/-- `struct fdca_vrf_manager` without the device pointer and the spinlock. `lane_bases`
is an array of 16 `void __iomem *` in the source; the model reads it as a function of
the lane, `0` being `NULL`. -/
structure FdcaVrfManager where
  allocatedRegs : BitVec 32
  numLanes : U32
  laneWidth : U32
  regsPerLane : U32
  laneBases : Nat → Nat
  regAllocations : U64
  regFrees : U64
  laneAccesses : U64

/-- `fdca_vrf_init`: allocate the manager, compute the lane layout and install the manager
as `vrf_mgr` (replacing, without freeing, any earlier one). `none` is the division by zero
of `vlen / num_lanes` when the capability has no lane. The loop fills `lane_bases[i]` for
every `i < num_lanes`, which stays inside the array for the at most 16 lanes that
validation accepts. -/
def fdcaVrfInit (fdev : FdcaDevice) (heap : Slab) (vrfMgr : Option (Nat × FdcaVrfManager)) :
    Option (Option (Nat × FdcaVrfManager) × Slab × Int) :=
  match kzalloc .vrfManager heap with
  | (none, heap) => some (vrfMgr, heap, -ENOMEM)
  | (some addr, heap) =>
    let numLanes := fdev.rvvConfig.numLanes
    (cUdiv fdev.rvvConfig.vlen numLanes).map fun laneWidth =>
      (some (addr,
        { allocatedRegs := 0, numLanes, laneWidth, regsPerLane := FDCA_RVV_NUM_VREGS
          laneBases := fun i => if i < numLanes.toNat then fdev.vpu.mmioBase + i * 0x1000 else 0
          regAllocations := 0, regFrees := 0, laneAccesses := 0 }), heap, 0)

/-- `fdca_vrf_fini`: free the manager and clear `vrf_mgr`. -/
def fdcaVrfFini (vrfMgr : Option (Nat × FdcaVrfManager)) (heap : Slab) :
    Option (Nat × FdcaVrfManager) × Slab :=
  match vrfMgr with
  | none => (none, heap)
  | some (addr, _) => (none, kfree (some addr) heap)

/-- `fdca_vrf_alloc_reg`: take the first free register, or fail with `-ENOSPC`. -/
def fdcaVrfAllocReg (vrfMgr : Option (Nat × FdcaVrfManager)) :
    Option (Nat × FdcaVrfManager) × Int :=
  match vrfMgr with
  | none => (none, -ENODEV)
  | some (addr, mgr) =>
    let reg := findFirstZeroBit mgr.allocatedRegs FDCA_RVV_NUM_VREGS.toNat
    if reg < FDCA_RVV_NUM_VREGS.toNat then
      (some (addr, { mgr with
        allocatedRegs := setBit reg mgr.allocatedRegs
        regAllocations := mgr.regAllocations + 1 }), reg)
    else (vrfMgr, -ENOSPC)

/-- `fdca_vrf_free_reg`: release a register in range that is allocated; anything else is
ignored. -/
def fdcaVrfFreeReg (reg : Int) (vrfMgr : Option (Nat × FdcaVrfManager)) :
    Option (Nat × FdcaVrfManager) :=
  match vrfMgr with
  | none => none
  | some (addr, mgr) =>
    if reg < 0 ∨ reg ≥ FDCA_RVV_NUM_VREGS.toNat then vrfMgr
    else if mgr.allocatedRegs.getLsbD reg.toNat then
      some (addr, { mgr with
        allocatedRegs := clearBit reg.toNat mgr.allocatedRegs
        regFrees := mgr.regFrees + 1 })
    else vrfMgr

/-- The direction of a lane copy: `memcpy_fromio` or `memcpy_toio`. -/
inductive MmioDir
  | fromIo
  | toIo
  deriving DecidableEq, Repr

/-- One copy between memory and the vector unit's MMIO space: its direction, first MMIO
byte and length. -/
structure MmioAccess where
  dir : MmioDir
  addr : Nat
  size : Nat
  deriving DecidableEq, Repr

/-- The body shared by `fdca_vrf_read_lane` and `fdca_vrf_write_lane`, which differ only
in the direction of the copy: check the register and the lane (the lane converted to
`u32` for the comparison), find the lane's base, copy `size` bytes at the register's
offset `reg * lane_width / 8` (a `u32` product) and count the access. -/
def fdcaVrfLaneAccess (dir : MmioDir) (reg lane : Int) (size : Nat)
    (vrfMgr : Option (Nat × FdcaVrfManager)) :
    Option (Nat × FdcaVrfManager) × Option MmioAccess × Int :=
  match vrfMgr with
  | none => (none, none, -EINVAL)
  | some (addr, mgr) =>
    if reg < 0 ∨ reg ≥ FDCA_RVV_NUM_VREGS.toNat ∨ BitVec.ofInt 32 lane ≥ mgr.numLanes then
      (vrfMgr, none, -EINVAL)
    else
      let laneBase := mgr.laneBases lane.toNat
      if laneBase = 0 then (vrfMgr, none, -ENODEV)
      else
        (some (addr, { mgr with laneAccesses := mgr.laneAccesses + 1 }),
          some ⟨dir, laneBase + (BitVec.ofInt 32 reg * mgr.laneWidth / 8).toNat, size⟩, 0)

/-- `fdca_vrf_read_lane`. -/
def fdcaVrfReadLane (reg lane : Int) (size : Nat) (vrfMgr : Option (Nat × FdcaVrfManager)) :
    Option (Nat × FdcaVrfManager) × Option MmioAccess × Int :=
  fdcaVrfLaneAccess .fromIo reg lane size vrfMgr

/-- `fdca_vrf_write_lane`. -/
def fdcaVrfWriteLane (reg lane : Int) (size : Nat) (vrfMgr : Option (Nat × FdcaVrfManager)) :
    Option (Nat × FdcaVrfManager) × Option MmioAccess × Int :=
  fdcaVrfLaneAccess .toIo reg lane size vrfMgr

/-! ## One spec lemma per operation -/

/-- A successful `fdca_vrf_init` installs an empty manager whose lane width is
`vlen / num_lanes` and whose lane `i < num_lanes` starts at `mmio_base + i * 0x1000`. -/
theorem fdcaVrfInit_ok {fdev : FdcaDevice} {heap heap' : Slab}
    {old vrfMgr : Option (Nat × FdcaVrfManager)}
    (ok : fdcaVrfInit fdev heap old = some (vrfMgr, heap', 0)) :
    fdev.rvvConfig.numLanes ≠ 0 ∧ ∃ addr, vrfMgr = some (addr,
      { allocatedRegs := 0, numLanes := fdev.rvvConfig.numLanes
        laneWidth := fdev.rvvConfig.vlen / fdev.rvvConfig.numLanes
        regsPerLane := FDCA_RVV_NUM_VREGS
        laneBases := fun i =>
          if i < fdev.rvvConfig.numLanes.toNat then fdev.vpu.mmioBase + i * 0x1000 else 0
        regAllocations := 0, regFrees := 0, laneAccesses := 0 }) := by
  unfold fdcaVrfInit at ok
  split at ok
  · simp [ENOMEM] at ok
  · simp only [cUdiv] at ok
    by_cases lanes : fdev.rvvConfig.numLanes = 0
    · simp [lanes] at ok
    · simp only [lanes, if_false, Option.map_some', Option.some.injEq, Prod.mk.injEq] at ok
      exact ⟨lanes, _, ok.1.symm⟩

/-- What allocation does: it takes the smallest register missing from the bitmap's set
and counts the allocation, or, when all 32 are taken, fails with `-ENOSPC` and changes
nothing. -/
theorem fdcaVrfAllocReg_spec (addr : Nat) (mgr : FdcaVrfManager) :
    (∃ r < 32, r ∉ allocatedSet mgr.allocatedRegs ∧
        (∀ j < r, j ∈ allocatedSet mgr.allocatedRegs) ∧
        fdcaVrfAllocReg (some (addr, mgr)) = (some (addr, { mgr with
          allocatedRegs := setBit r mgr.allocatedRegs
          regAllocations := mgr.regAllocations + 1 }), (r : Int))) ∨
      ((∀ j < 32, j ∈ allocatedSet mgr.allocatedRegs) ∧
        fdcaVrfAllocReg (some (addr, mgr)) = (some (addr, mgr), -ENOSPC)) := by
  have numVregs : FDCA_RVV_NUM_VREGS.toNat = 32 := rfl
  rcases findFirstZeroBit_spec mgr.allocatedRegs with ⟨lt, free, below⟩ | ⟨notFound, full⟩
  · refine .inl ⟨_, lt, free, below, ?_⟩
    simp [fdcaVrfAllocReg, numVregs, lt]
  · refine .inr ⟨full, ?_⟩
    simp [fdcaVrfAllocReg, numVregs, notFound]

/-- What a free does: it releases a register in range that the bitmap's set holds and
counts the free; anything else changes nothing. -/
theorem fdcaVrfFreeReg_eq (reg : Int) (addr : Nat) (mgr : FdcaVrfManager) :
    fdcaVrfFreeReg reg (some (addr, mgr)) =
      if 0 ≤ reg ∧ reg.toNat ∈ allocatedSet mgr.allocatedRegs then
        some (addr, { mgr with
          allocatedRegs := clearBit reg.toNat mgr.allocatedRegs
          regFrees := mgr.regFrees + 1 })
      else some (addr, mgr) := by
  have numVregs : FDCA_RVV_NUM_VREGS.toNat = 32 := rfl
  unfold fdcaVrfFreeReg
  simp only [numVregs, mem_allocatedSet]
  by_cases range : reg < 0 ∨ reg ≥ ((32 : Nat) : Int)
  · rw [if_pos range, if_neg fun ⟨nonneg, lt, _⟩ => by omega]
  · have inRange : 0 ≤ reg ∧ reg.toNat < 32 := by omega
    rw [if_neg range]
    simp only [inRange, true_and]

/-- A lane access never changes the allocator: only the access counter moves. -/
theorem fdcaVrfLaneAccess_allocator (dir : MmioDir) (reg lane : Int) (size addr : Nat)
    (mgr : FdcaVrfManager) :
    ∃ mgr', (fdcaVrfLaneAccess dir reg lane size (some (addr, mgr))).1 = some (addr, mgr') ∧
      mgr'.allocatedRegs = mgr.allocatedRegs ∧ mgr'.regAllocations = mgr.regAllocations ∧
      mgr'.regFrees = mgr.regFrees := by
  dsimp only [fdcaVrfLaneAccess]
  split_ifs <;> exact ⟨_, rfl, rfl, rfl, rfl⟩

/-! ## The allocator refines the set of held registers -/

/-- A call of the allocator as its caller sees it: an allocation and what it returned, or
a free and its argument. -/
inductive VrfEvent
  | alloc (ret : Int)
  | free (reg : Int)
  deriving DecidableEq, Repr

/-- The registers held after the calls `events` (newest first): those some allocation
returned with no free of them since. -/
def heldRegs : List VrfEvent → Finset Nat
  | [] => ∅
  | .alloc ret :: older => if 0 ≤ ret then insert ret.toNat (heldRegs older) else heldRegs older
  | .free reg :: older => if 0 ≤ reg then (heldRegs older).erase reg.toNat else heldRegs older

@[simp] theorem heldRegs_nil : heldRegs [] = ∅ := rfl

theorem heldRegs_alloc_natCast (r : Nat) (events : List VrfEvent) :
    heldRegs (.alloc r :: events) = insert r (heldRegs events) := by
  simp only [heldRegs, if_pos (Int.ofNat_nonneg r), Int.toNat_ofNat]

theorem heldRegs_alloc_of_neg {ret : Int} (neg : ret < 0) (events : List VrfEvent) :
    heldRegs (.alloc ret :: events) = heldRegs events := by
  simp [heldRegs, not_le.2 neg]

theorem heldRegs_free_of_nonneg {reg : Int} (nonneg : 0 ≤ reg) (events : List VrfEvent) :
    heldRegs (.free reg :: events) = (heldRegs events).erase reg.toNat := by
  simp [heldRegs, nonneg]

/-- A free of a register that is not held releases nothing. -/
theorem heldRegs_free_of_not_held {reg : Int} {events : List VrfEvent}
    (notHeld : ¬(0 ≤ reg ∧ reg.toNat ∈ heldRegs events)) :
    heldRegs (.free reg :: events) = heldRegs events := by
  simp only [heldRegs]
  split_ifs with nonneg
  · exact Finset.erase_eq_of_not_mem fun mem => notHeld ⟨nonneg, mem⟩
  · rfl

/-- The managers `vrf_mgr` can hold after a successful `fdca_vrf_init`, with the allocator
calls made since; lane accesses may come in between. -/
inductive VrfReachable : Option (Nat × FdcaVrfManager) → List VrfEvent → Prop
  | init {fdev : FdcaDevice} {heap heap' : Slab} {old vrfMgr : Option (Nat × FdcaVrfManager)} :
      fdcaVrfInit fdev heap old = some (vrfMgr, heap', 0) → VrfReachable vrfMgr []
  | alloc {vrfMgr : Option (Nat × FdcaVrfManager)} {events : List VrfEvent} :
      VrfReachable vrfMgr events →
      VrfReachable (fdcaVrfAllocReg vrfMgr).1 (.alloc (fdcaVrfAllocReg vrfMgr).2 :: events)
  | free {vrfMgr : Option (Nat × FdcaVrfManager)} {events : List VrfEvent} (reg : Int) :
      VrfReachable vrfMgr events → VrfReachable (fdcaVrfFreeReg reg vrfMgr) (.free reg :: events)
  | lane {vrfMgr : Option (Nat × FdcaVrfManager)} {events : List VrfEvent} (dir : MmioDir)
      (reg lane : Int) (size : Nat) :
      VrfReachable vrfMgr events → VrfReachable (fdcaVrfLaneAccess dir reg lane size vrfMgr).1 events

/-- The allocator invariant: the bitmap is the set of held registers, and the counters
differ by its size. -/
structure VrfInv (mgr : FdcaVrfManager) (events : List VrfEvent) : Prop where
  held : allocatedSet mgr.allocatedRegs = heldRegs events
  counters : mgr.regAllocations - mgr.regFrees = BitVec.ofNat 64 (heldRegs events).card

section Allocator

variable {mgr : FdcaVrfManager} {events : List VrfEvent}

/-- A call that leaves the held registers as they were keeps the invariant. -/
theorem VrfInv.of_heldRegs_eq {events' : List VrfEvent} (inv : VrfInv mgr events)
    (same : heldRegs events' = heldRegs events) : VrfInv mgr events' :=
  ⟨by rw [same]; exact inv.held, by rw [same]; exact inv.counters⟩

theorem VrfInv.alloc (inv : VrfInv mgr events) (addr : Nat) :
    ∃ mgr', (fdcaVrfAllocReg (some (addr, mgr))).1 = some (addr, mgr') ∧
      VrfInv mgr' (.alloc (fdcaVrfAllocReg (some (addr, mgr))).2 :: events) := by
  rcases fdcaVrfAllocReg_spec addr mgr with ⟨r, lt, free, -, eq⟩ | ⟨-, eq⟩ <;> rw [eq]
  · rw [inv.held] at free
    refine ⟨_, rfl, ⟨?_, ?_⟩⟩ <;> rw [heldRegs_alloc_natCast]
    · simp only [allocatedSet_setBit lt, inv.held]
    · have counters := inv.counters
      rw [Finset.card_insert_of_not_mem free]
      bv_omega
  · exact ⟨_, rfl, inv.of_heldRegs_eq (heldRegs_alloc_of_neg (by simp [ENOSPC]) events)⟩

theorem VrfInv.free (inv : VrfInv mgr events) (reg : Int) (addr : Nat) :
    ∃ mgr', fdcaVrfFreeReg reg (some (addr, mgr)) = some (addr, mgr') ∧
      VrfInv mgr' (.free reg :: events) := by
  rw [fdcaVrfFreeReg_eq, inv.held]
  split_ifs with held
  · obtain ⟨nonneg, mem⟩ := held
    refine ⟨_, rfl, ⟨?_, ?_⟩⟩ <;> rw [heldRegs_free_of_nonneg nonneg]
    · simp only [allocatedSet_clearBit, inv.held]
    · have counters := inv.counters
      have pos := Finset.card_pos.2 ⟨_, mem⟩
      rw [Finset.card_erase_of_mem mem]
      bv_omega
  · exact ⟨_, rfl, inv.of_heldRegs_eq (heldRegs_free_of_not_held held)⟩

/-- Every manager reachable after a successful init is present and satisfies the
invariant. -/
theorem VrfReachable.vrfInv {vrfMgr : Option (Nat × FdcaVrfManager)}
    (reach : VrfReachable vrfMgr events) :
    ∃ addr mgr, vrfMgr = some (addr, mgr) ∧ VrfInv mgr events := by
  induction reach with
  | init ok =>
    obtain ⟨-, addr, rfl⟩ := fdcaVrfInit_ok ok
    exact ⟨addr, _, rfl, ⟨by simp, by simp⟩⟩
  | alloc _ ih =>
    obtain ⟨addr, mgr, rfl, inv⟩ := ih
    exact ⟨addr, inv.alloc addr⟩
  | free reg _ ih =>
    obtain ⟨addr, mgr, rfl, inv⟩ := ih
    exact ⟨addr, inv.free reg addr⟩
  | lane dir reg lane size _ ih =>
    obtain ⟨addr, mgr, rfl, inv⟩ := ih
    obtain ⟨mgr', eq, bits, allocs, frees⟩ :=
      fdcaVrfLaneAccess_allocator dir reg lane size addr mgr
    exact ⟨addr, mgr', eq, ⟨bits ▸ inv.held, by rw [allocs, frees]; exact inv.counters⟩⟩

/-- Every allocation of a reachable history returned a register that was not held at the
time: no register is handed out twice without a free of it in between. -/
theorem VrfReachable.alloc_not_held {vrfMgr : Option (Nat × FdcaVrfManager)}
    (reach : VrfReachable vrfMgr events) :
    ∀ front ret back, events = front ++ .alloc ret :: back → 0 ≤ ret →
      ret.toNat ∉ heldRegs back := by
  induction reach with
  | init => intro front ret back eq; simp at eq
  | @alloc vrfMgr events reach ih =>
    rintro (_ | ⟨event, front⟩) ret back eq nonneg
    · simp only [List.nil_append, List.cons.injEq, VrfEvent.alloc.injEq] at eq
      obtain ⟨rfl, rfl⟩ := eq
      obtain ⟨addr, mgr, rfl, inv⟩ := reach.vrfInv
      rcases fdcaVrfAllocReg_spec addr mgr with ⟨r, -, free, -, alloc⟩ | ⟨-, alloc⟩ <;>
        rw [alloc] at nonneg ⊢
      · simpa [inv.held] using free
      · simp [ENOSPC] at nonneg
    · exact ih front ret back (List.cons.inj eq).2 nonneg
  | free reg _ ih =>
    rintro (_ | ⟨event, front⟩) ret back eq nonneg
    · simp at eq
    · exact ih front ret back (List.cons.inj eq).2 nonneg
  | lane _ _ _ _ _ ih => exact ih

end Allocator

/-- The register allocator after `fdca_vrf_init`, over any sequence of allocations, frees
with any integer argument and lane accesses: the bitmap holds exactly the registers some
allocation returned and no free released since, and `reg_allocations - reg_frees` counts
them; the next allocation returns the smallest register not held, or `-ENOSPC` exactly
when all 32 are held; freeing a register out of range or not held changes nothing; and no
allocation ever returned a register that was held. -/
theorem vrfReachable_allocator {vrfMgr : Option (Nat × FdcaVrfManager)} {events : List VrfEvent}
    (reach : VrfReachable vrfMgr events) :
    (∃ addr mgr, vrfMgr = some (addr, mgr) ∧ VrfInv mgr events) ∧
      ((∃ r < 32, r ∉ heldRegs events ∧ (∀ j < r, j ∈ heldRegs events) ∧
          (fdcaVrfAllocReg vrfMgr).2 = r) ∨
        ((∀ j < 32, j ∈ heldRegs events) ∧ (fdcaVrfAllocReg vrfMgr).2 = -ENOSPC)) ∧
      (∀ reg : Int, ¬(0 ≤ reg ∧ reg < 32 ∧ reg.toNat ∈ heldRegs events) →
        fdcaVrfFreeReg reg vrfMgr = vrfMgr) ∧
      (∀ front ret back, events = front ++ .alloc ret :: back → 0 ≤ ret →
        ret.toNat ∉ heldRegs back) := by
  obtain ⟨addr, mgr, rfl, inv⟩ := reach.vrfInv
  refine ⟨⟨addr, mgr, rfl, inv⟩, ?_, fun reg notHeld => ?_, reach.alloc_not_held⟩
  · rw [← inv.held]
    rcases fdcaVrfAllocReg_spec addr mgr with
      ⟨r, lt, free, below, alloc⟩ | ⟨full, alloc⟩ <;> rw [alloc]
    · exact .inl ⟨r, lt, free, below, rfl⟩
    · exact .inr ⟨full, rfl⟩
  · rw [fdcaVrfFreeReg_eq, if_neg]
    rintro ⟨nonneg, mem⟩
    have := (mem_allocatedSet.1 mem).1
    exact notHeld ⟨nonneg, by omega, inv.held ▸ mem⟩

/-- The manager `fdca_vrf_init` installs for `sampleDevice` on a fresh allocator. -/
def sampleVrfMgr : Option (Nat × FdcaVrfManager) :=
  match fdcaVrfInit sampleDevice (Slab.init fun _ => true) none with
  | some (vrfMgr, _, _) => vrfMgr
  | none => none

/-- `sampleVrfMgr` after registers 0 and 1 are handed out and register 0 is given back. -/
def sampleVrfCycled : Option (Nat × FdcaVrfManager) :=
  fdcaVrfFreeReg 0 (fdcaVrfAllocReg (fdcaVrfAllocReg sampleVrfMgr).1).1

/-- After two allocations and a free of the first register, the next allocation takes
register 0 again, and freeing register 5, which nobody holds, changes nothing. -/
theorem vrfReachable_allocator_sample :
    VrfReachable sampleVrfCycled [.free 0, .alloc 1, .alloc 0] ∧
      (fdcaVrfAllocReg sampleVrfCycled).2 = 0 ∧
      fdcaVrfFreeReg 5 sampleVrfCycled = sampleVrfCycled :=
  have reach : VrfReachable sampleVrfCycled [.free 0, .alloc 1, .alloc 0] :=
    (@VrfReachable.init sampleDevice (Slab.init fun _ => true) _ none sampleVrfMgr rfl).alloc
      |>.alloc |>.free 0
  ⟨reach, rfl, (vrfReachable_allocator reach).2.2.1 5 (by decide)⟩

/-! ## The lane layout -/

/-- The offset of a register below 32 in a lane at most 65536 bits wide: the `u32`
product `reg * lane_width` does not wrap. -/
theorem toNat_regOffset {reg : Int} {laneWidth : U32} (nonneg : 0 ≤ reg) (lt : reg < 32)
    (narrow : laneWidth.toNat ≤ 65536) :
    (BitVec.ofInt 32 reg * laneWidth / 8).toNat = reg.toNat * laneWidth.toNat / 8 := by
  have regNat : (BitVec.ofInt 32 reg).toNat = reg.toNat := by
    rw [BitVec.toNat_ofInt]
    omega
  have bound : reg.toNat * laneWidth.toNat < 2 ^ 32 :=
    Nat.lt_of_le_of_lt (Nat.mul_le_mul (show reg.toNat ≤ 32 by omega) narrow) (by decide)
  rw [BitVec.toNat_udiv, BitVec.toNat_mul, regNat, Nat.mod_eq_of_lt bound]
  rfl

/-- The bounds test of `fdca_vrf_read_lane` and `fdca_vrf_write_lane`, which compares the lane
as a `u32`, fails exactly for the C `int` pairs outside `[0, 32) × [0, num_lanes)`. -/
theorem laneAccess_reject_iff {reg lane : Int} {numLanes : U32} (narrow : numLanes.toNat ≤ 16)
    (lo : -2 ^ 31 ≤ lane) (hi : lane < 2 ^ 31) :
    (reg < 0 ∨ reg ≥ (FDCA_RVV_NUM_VREGS.toNat : Int) ∨ BitVec.ofInt 32 lane ≥ numLanes) ↔
      ¬(0 ≤ reg ∧ reg < 32 ∧ 0 ≤ lane ∧ lane < numLanes.toNat) := by
  have numVregs : FDCA_RVV_NUM_VREGS.toNat = 32 := rfl
  simp only [ge_iff_le, BitVec.le_def, BitVec.toNat_ofInt, numVregs]
  omega

/-- The slices of all 32 registers fit in a 4 KiB lane window exactly when the lane is at
most 1024 bits wide. -/
theorem regSlices_fit_iff (laneWidth : Nat) :
    (∀ reg < 32, reg * laneWidth / 8 + laneWidth / 8 ≤ 0x1000) ↔ laneWidth ≤ 1024 := by
  refine ⟨fun fits => ?_, fun narrow reg lt => ?_⟩
  · have := fits 31 (by decide)
    omega
  · have : reg * laneWidth / 8 ≤ 31 * laneWidth / 8 :=
      Nat.div_le_div_right (Nat.mul_le_mul_right _ (by omega))
    omega

/-- The lane layout after a successful `fdca_vrf_init` under a capability that validation
accepts. A read or write of a register outside `[0, 32)` or of a lane outside
`[0, num_lanes)`, a negative lane included, fails with `-EINVAL` and copies nothing. One
inside copies at the register's offset `reg * lane_width / 8` in the lane's window at
`lane * 0x1000`, when that window has a base. The slices of all 32 registers, of
`lane_width / 8` bytes each, stay inside the 4 KiB window exactly when a lane is at most
1024 bits wide. -/
theorem fdcaVrfLaneAccess_layout {fdev : FdcaDevice} {heap heap' : Slab}
    {old vrfMgr : Option (Nat × FdcaVrfManager)}
    (accepted : fdcaRvvConfigValidate fdev.rvvConfig = 0)
    (ok : fdcaVrfInit fdev heap old = some (vrfMgr, heap', 0)) :
    (∀ (dir : MmioDir) (reg lane : Int) (size : Nat), -2 ^ 31 ≤ lane → lane < 2 ^ 31 →
      ¬(0 ≤ reg ∧ reg < 32 ∧ 0 ≤ lane ∧ lane < fdev.rvvConfig.numLanes.toNat) →
        fdcaVrfLaneAccess dir reg lane size vrfMgr = (vrfMgr, none, -EINVAL)) ∧
    (∀ (dir : MmioDir) (reg lane : Int) (size : Nat), 0 ≤ reg → reg < 32 → 0 ≤ lane →
      lane < fdev.rvvConfig.numLanes.toNat →
      fdev.vpu.mmioBase + lane.toNat * 0x1000 ≠ 0 →
        (fdcaVrfLaneAccess dir reg lane size vrfMgr).2 =
          (some ⟨dir, fdev.vpu.mmioBase + lane.toNat * 0x1000 +
            reg.toNat * (fdev.rvvConfig.vlen.toNat / fdev.rvvConfig.numLanes.toNat) / 8, size⟩,
            0)) ∧
    ((∀ reg < 32, reg * (fdev.rvvConfig.vlen.toNat / fdev.rvvConfig.numLanes.toNat) / 8 +
        fdev.rvvConfig.vlen.toNat / fdev.rvvConfig.numLanes.toNat / 8 ≤ 0x1000) ↔
      fdev.rvvConfig.vlen.toNat / fdev.rvvConfig.numLanes.toNat ≤ 1024) := by
  obtain ⟨-, vlenHi, -, lanesLo, lanesHi⟩ := fdcaRvvConfigValidate_eq_zero.1 accepted
  obtain ⟨-, addr, rfl⟩ := fdcaVrfInit_ok ok
  refine ⟨fun dir reg lane size lo hi outside => ?_,
    fun dir reg lane size regLo regHi laneLo laneHi mapped => ?_, regSlices_fit_iff _⟩
  · simp only [fdcaVrfLaneAccess, if_pos ((laneAccess_reject_iff lanesHi lo hi).2 outside)]
  · have accept := mt (@laneAccess_reject_iff reg lane _ lanesHi (by omega) (by omega)).1
      (not_not.2 ⟨regLo, regHi, laneLo, laneHi⟩)
    have laneWidth : (fdev.rvvConfig.vlen / fdev.rvvConfig.numLanes).toNat =
        fdev.rvvConfig.vlen.toNat / fdev.rvvConfig.numLanes.toNat := BitVec.toNat_udiv
    have base : (if lane.toNat < fdev.rvvConfig.numLanes.toNat then
        fdev.vpu.mmioBase + lane.toNat * 0x1000 else 0) = fdev.vpu.mmioBase + lane.toNat * 0x1000 :=
      if_pos (by omega)
    simp only [fdcaVrfLaneAccess, if_neg accept, base, if_neg mapped,
      toNat_regOffset regLo regHi (laneWidth ▸ Nat.le_trans (Nat.div_le_self _ _) vlenHi),
      laneWidth]

/-- The capability the detection decodes from the configuration register value `0x1`:
one lane over a 2048-bit vector. -/
def wideDevice : FdcaDevice := (fdcaDetectRvvCapabilities sampleDevice 0x1).1

/-- The manager `fdca_vrf_init` installs for `wideDevice` on a fresh allocator. -/
def wideVrfMgr : Option (Nat × FdcaVrfManager) :=
  match fdcaVrfInit wideDevice (Slab.init fun _ => true) none with
  | some (vrfMgr, _, _) => vrfMgr
  | none => none

/-- Register 31 of the single 2048-bit lane: the detection accepts the capability, yet
the read lands at offset 7936 of the lane's window and its 256-byte slice runs to byte
8192 of a 4096-byte window. -/
theorem fdcaVrfLaneAccess_layout_wide :
    (fdcaDetectRvvCapabilities sampleDevice 0x1).2 = 0 ∧
      fdcaRvvConfigValidate wideDevice.rvvConfig = 0 ∧
      (fdcaVrfReadLane 31 0 256 wideVrfMgr).2 = (some ⟨.fromIo, 0x10000 + 7936, 256⟩, 0) ∧
      ¬∀ reg < 32, reg * (wideDevice.rvvConfig.vlen.toNat / wideDevice.rvvConfig.numLanes.toNat) /
          8 + wideDevice.rvvConfig.vlen.toNat / wideDevice.rvvConfig.numLanes.toNat / 8 ≤ 0x1000 :=
  have accepted : fdcaRvvConfigValidate wideDevice.rvvConfig = 0 := by decide
  have layout := fdcaVrfLaneAccess_layout accepted
    (rfl : fdcaVrfInit wideDevice (Slab.init fun _ => true) none = some (wideVrfMgr, _, 0))
  ⟨by decide, accepted,
    (layout.2.1 .fromIo 31 0 256 (by decide) (by decide) (by decide) (by decide) (by decide)).trans
      (by decide),
    fun fits => absurd (layout.2.2.1 fits) (by decide)⟩

end FdcaRvv
