import FdcaRvv.Kernel

/-!
# The GTT: aperture, address space and page table

`fdca_gtt.c` lets the device reach system pages through its graphics translation table.
`fdca_gtt_map_pages` reserves a range of the aperture in a `drm_mm` range manager, maps
every page for DMA and writes one page-table entry per page; `fdca_gtt_unmap_pages`
undoes all three, and a map that fails half way unwinds what it did. The page table is a
coherent DMA buffer of `num_entries` 64-bit entries, allocated by `fdca_gtt_manager_init`
and released by `fdca_gtt_manager_fini`; its contents are a function from index to entry.

The kernel services are modelled by what the driver relies on. `drm_mm` places a node
where its hole search says, an oracle here, and only in a free aligned range of the
managed space. `dma_map_page` gives the address an oracle gives, or a mapping error; the
live mappings are kept as a list with one address per mapping. The slab allocations of
an entry and its two arrays succeed as an oracle says and are counted. The mutex is not
modelled: every operation runs to completion before the next one starts.

Main results:
* `gttTranslate_of_reachable`: in every state reached from `fdca_gtt_manager_init` by
  maps and unmaps, each entry of the page table decodes to the live mapping of its page,
  with the permissions its direction gives, or to nothing.
* `fdcaGttMapPages_error_restores`: a map that fails leaves the page table, the address
  space, the DMA mappings and the slab as they were.
* `fdcaGttUnmapPages_after_map`: unmapping what a map returned restores the page table,
  the address space, the DMA mappings and the slab.
* `fdcaGttManagerFini_releases`: finishing the manager returns the coherent pool to what
  it was before `fdca_gtt_manager_init`, and a run that unmapped every mapping leaks no
  slab block, DMA mapping or address range.
-/

namespace FdcaRvv

/-! ## Constants -/

/-- `PAGE_SIZE` on the 4 KiB-page kernels the driver targets. -/
def PAGE_SIZE : Nat := 4096

/-- `FDCA_GTT_PTE_VALID`, `BIT_ULL(0)`. -/
def FDCA_GTT_PTE_VALID : U64 := 0x1
/-- `FDCA_GTT_PTE_READABLE`, `BIT_ULL(1)`. -/
def FDCA_GTT_PTE_READABLE : U64 := 0x2
/-- `FDCA_GTT_PTE_WRITABLE`, `BIT_ULL(2)`. -/
def FDCA_GTT_PTE_WRITABLE : U64 := 0x4
/-- `FDCA_GTT_PTE_ADDR_MASK`, `GENMASK_ULL(51, 12)`. -/
def FDCA_GTT_PTE_ADDR_MASK : U64 := 0x000FFFFFFFFFF000

/-- `FDCA_GTT_START_ADDR`: the aperture starts at 4 GiB. -/
def FDCA_GTT_START_ADDR : U64 := 0x100000000
/-- `FDCA_GTT_APERTURE_SIZE`, `4ULL << 30`: the smallest aperture. -/
def FDCA_GTT_APERTURE_SIZE : U64 := 4 <<< 30
/-- `FDCA_GTT_MAX_SIZE`, `256ULL << 30`: the largest aperture. -/
def FDCA_GTT_MAX_SIZE : U64 := 256 <<< 30

/-- `enum dma_data_direction`. -/
inductive DmaDataDirection
  | bidirectional
  | toDevice
  | fromDevice
  | none
  deriving DecidableEq, Repr

/-- The enumerator's value: `fdca_gtt_map_pages` passes it to `fdca_gtt_set_pte` as the
flags of the entry. -/
def DmaDataDirection.val : DmaDataDirection → U32
  | .bidirectional => 0
  | .toDevice => 1
  | .fromDevice => 2
  | .none => 3

/-! ## Page-table entries -/

/-- The entry `fdca_gtt_set_pte` builds for `dma_addr` and `flags`. -/
def fdcaGttPteValue (dmaAddr : U64) (flags : U32) : U64 :=
  let pteValue := (dmaAddr &&& FDCA_GTT_PTE_ADDR_MASK) ||| FDCA_GTT_PTE_VALID
  let pteValue :=
    if flags &&& DmaDataDirection.toDevice.val ≠ 0 then pteValue ||| FDCA_GTT_PTE_READABLE
    else pteValue
  let pteValue :=
    if flags &&& DmaDataDirection.fromDevice.val ≠ 0 then pteValue ||| FDCA_GTT_PTE_WRITABLE
    else pteValue
  if flags &&& DmaDataDirection.bidirectional.val ≠ 0 then
    pteValue ||| FDCA_GTT_PTE_READABLE ||| FDCA_GTT_PTE_WRITABLE
  else pteValue

/-- How the device reads an entry: one without the valid bit maps nothing; a valid one maps
the page at its address bits, readable and writable as its permission bits say. -/
def gttPteDecode (pte : U64) : Option (U64 × Bool × Bool) :=
  if pte &&& FDCA_GTT_PTE_VALID = 0 then none
  else some (pte &&& FDCA_GTT_PTE_ADDR_MASK,
    decide (pte &&& FDCA_GTT_PTE_READABLE ≠ 0), decide (pte &&& FDCA_GTT_PTE_WRITABLE ≠ 0))

/-- Whether the device may read and write a page mapped in direction `d`, as the flag tests
of `fdca_gtt_set_pte` decide it. The test `flags & DMA_BIDIRECTIONAL` is against the value
0 and never holds, so a bidirectional mapping grants neither, while `DMA_NONE`, the value 3,
passes both other tests. -/
def DmaDataDirection.grants : DmaDataDirection → Bool × Bool
  | .bidirectional => (false, false)
  | .toDevice => (true, false)
  | .fromDevice => (false, true)
  | .none => (true, true)

/-! ## The range manager -/

/-- A `struct drm_mm_node`: the range `[start, start + size)` of the managed space. -/
structure DrmMmNode where
  start : Nat
  size : Nat
  deriving DecidableEq, Repr

/-- Two nodes do not overlap. -/
def DrmMmNode.Apart (a b : DrmMmNode) : Prop :=
  a.start + a.size ≤ b.start ∨ b.start + b.size ≤ a.start

instance (a b : DrmMmNode) : Decidable (a.Apart b) :=
  inferInstanceAs (Decidable (_ ∨ _))

/-- A `struct drm_mm` managing `[start, start + size)`: its nodes lie inside the range and
do not overlap. Where the `n`-th insertion goes is the hole search's choice, `place n`. -/
structure DrmMm where
  start : Nat
  size : Nat
  place : Nat → Option Nat
  inserts : Nat
  nodes : List DrmMmNode
  inside : ∀ n ∈ nodes, start ≤ n.start ∧ n.start + n.size ≤ start + size
  apart : nodes.Pairwise DrmMmNode.Apart

/-- `drm_mm_init(mm, start, size)`. -/
def drmMmInit (place : Nat → Option Nat) (start size : Nat) : DrmMm :=
  ⟨start, size, place, 0, [], fun _ mem => (nomatch mem), .nil⟩

/-- Where `drm_mm` may put a node: inside the managed range, on the alignment (0 asks for
none), clear of every node already there. -/
def DrmMm.Fits (mm : DrmMm) (node : DrmMmNode) (alignment : Nat) : Prop :=
  (mm.start ≤ node.start ∧ node.start + node.size ≤ mm.start + mm.size) ∧
    (alignment = 0 ∨ node.start % alignment = 0) ∧ ∀ n ∈ mm.nodes, node.Apart n

instance (mm : DrmMm) (node : DrmMmNode) (alignment : Nat) :
    Decidable (mm.Fits node alignment) :=
  inferInstanceAs (Decidable (_ ∧ _ ∧ ∀ n ∈ mm.nodes, node.Apart n))

/-- `drm_mm_insert_node_generic(mm, node, size, alignment, 0, DRM_MM_SEARCH_DEFAULT)`: the
node goes where the hole search puts it, if that range fits, and the insertion fails with
`-ENOSPC` otherwise. -/
def drmMmInsertNodeGeneric (mm : DrmMm) (size alignment : Nat) : Except Int DrmMmNode × DrmMm :=
  match mm.place mm.inserts with
  | some start =>
    if fits : mm.Fits ⟨start, size⟩ alignment then
      (.ok ⟨start, size⟩,
        { mm with
          inserts := mm.inserts + 1
          nodes := ⟨start, size⟩ :: mm.nodes
          inside := by
            simp only [List.mem_cons, forall_eq_or_imp]
            exact ⟨fits.1, mm.inside⟩
          apart := .cons fits.2.2 mm.apart })
    else (.error (-ENOSPC), { mm with inserts := mm.inserts + 1 })
  | none => (.error (-ENOSPC), { mm with inserts := mm.inserts + 1 })

/-- `drm_mm_remove_node(node)`. -/
def drmMmRemoveNode (mm : DrmMm) (node : DrmMmNode) : DrmMm :=
  { mm with
    nodes := mm.nodes.erase node
    inside := fun n mem => mm.inside n (List.erase_subset _ _ mem)
    apart := mm.apart.sublist (List.erase_sublist _ _) }

/-- The bytes a list of nodes takes. -/
def drmMmNodesSize (nodes : List DrmMmNode) : Nat := (nodes.map (·.size)).sum

@[simp] theorem drmMmNodesSize_cons (n : DrmMmNode) (nodes : List DrmMmNode) :
    drmMmNodesSize (n :: nodes) = n.size + drmMmNodesSize nodes := by
  simp [drmMmNodesSize]

/-- A filter splits the bytes of the nodes in two. -/
theorem drmMmNodesSize_filter_add (p : DrmMmNode → Bool) (nodes : List DrmMmNode) :
    drmMmNodesSize (nodes.filter p) + drmMmNodesSize (nodes.filter (!p ·)) =
      drmMmNodesSize nodes := by
  induction nodes with
  | nil => rfl
  | cons n nodes ih => cases h : p n <;> simp [List.filter_cons, h] <;> omega

/-- `drmMmNodesSize_le` for lists of length `len`, by strong induction on it: the first node
splits the others into those below it and those above it. -/
theorem drmMmNodesSize_le_of_length (len : Nat) :
    ∀ (nodes : List DrmMmNode) (lo hi : Nat), nodes.length = len →
      (∀ n ∈ nodes, lo ≤ n.start ∧ n.start + n.size ≤ hi) →
      nodes.Pairwise DrmMmNode.Apart → drmMmNodesSize nodes ≤ hi - lo := by
  induction len using Nat.strong_induction_on with
  | _ len ih =>
  intro nodes lo hi length inside apart
  match nodes, apart with
  | [], _ => simp [drmMmNodesSize]
  | n :: rest, .cons clear apart =>
    let below : DrmMmNode → Bool := fun m => m.start + m.size ≤ n.start
    have shorter (p : DrmMmNode → Bool) : (rest.filter p).length < len := by
      have := List.length_filter_le p rest
      simp only [List.length_cons] at length
      omega
    have left := ih _ (shorter below) (rest.filter below) lo n.start rfl
      (fun m mem => by
        obtain ⟨mem, isBelow⟩ := List.mem_filter.1 mem
        have := inside m (.tail _ mem)
        simp only [below, decide_eq_true_eq] at isBelow
        omega) (apart.sublist (List.filter_sublist _))
    have right := ih _ (shorter (!below ·)) (rest.filter (!below ·)) (n.start + n.size) hi rfl
      (fun m mem => by
        obtain ⟨mem, above⟩ := List.mem_filter.1 mem
        have := inside m (.tail _ mem)
        have := clear m mem
        simp only [below, Bool.not_eq_true', decide_eq_false_iff_not] at above
        unfold DrmMmNode.Apart at this
        omega) (apart.sublist (List.filter_sublist _))
    have split := drmMmNodesSize_filter_add below rest
    have := inside n (.head _)
    simp only [drmMmNodesSize_cons]
    omega

/-- Nodes that lie inside `[lo, hi)` and do not overlap take at most `hi - lo` bytes. -/
theorem drmMmNodesSize_le {nodes : List DrmMmNode} {lo hi : Nat}
    (inside : ∀ n ∈ nodes, lo ≤ n.start ∧ n.start + n.size ≤ hi)
    (apart : nodes.Pairwise DrmMmNode.Apart) : drmMmNodesSize nodes ≤ hi - lo :=
  drmMmNodesSize_le_of_length _ nodes lo hi rfl inside apart

/-- `drm_mm_total_size(mm)`. It is not part of the kernel's `drm_mm` interface; the model
takes it for what its name says, the size of the managed range. -/
def drmMmTotalSize (mm : DrmMm) : U64 := BitVec.ofNat 64 mm.size

/-- `drm_mm_avail_size(mm)`, likewise: the bytes of the range no node takes. -/
def drmMmAvailSize (mm : DrmMm) : U64 := BitVec.ofNat 64 (mm.size - drmMmNodesSize mm.nodes)


/-! ## Streaming DMA and the slab -/

/-- The streaming DMA mappings of the device. The `n`-th `dma_map_page` of page `p` gives
`mapPage n p`, an address or a mapping error; `live` holds one address per mapping not yet
undone, and an unmap of an address with no live mapping is counted in `badUnmaps`. -/
structure DmaMapper where
  mapPage : Nat → Nat → Option U64
  calls : Nat
  live : List U64
  badUnmaps : Nat

/-- `dma_map_page(dev, page, 0, PAGE_SIZE, dir)` with `dma_mapping_error` folded in:
`none` is a mapping error. -/
def dmaMapPage (page : Nat) (dma : DmaMapper) : Option U64 × DmaMapper :=
  match dma.mapPage dma.calls page with
  | some addr => (some addr, { dma with calls := dma.calls + 1, live := addr :: dma.live })
  | none => (none, { dma with calls := dma.calls + 1 })

/-- `dma_unmap_page(dev, addr, PAGE_SIZE, dir)`. -/
def dmaUnmapPage (addr : U64) (dma : DmaMapper) : DmaMapper :=
  if addr ∈ dma.live then { dma with live := dma.live.erase addr }
  else { dma with badUnmaps := dma.badUnmaps + 1 }

/-- Slab allocations that are only counted: the `n`-th allocation succeeds when
`succeeds n`, and only the number of live blocks is kept. `fdca_gtt.c` allocates an entry
and its two arrays per mapping, `fdca_vram.c` one object per allocation. -/
structure CountingSlab where
  succeeds : Nat → Bool
  attempts : Nat
  live : Nat

/-- `kzalloc` and `kcalloc`: the next attempt succeeds or returns `NULL`. -/
def CountingSlab.alloc (slab : CountingSlab) : Bool × CountingSlab :=
  (slab.succeeds slab.attempts,
    { slab with
      attempts := slab.attempts + 1
      live := if slab.succeeds slab.attempts then slab.live + 1 else slab.live })

/-- One allocation fails and leaves the live count, or succeeds and adds one. -/
theorem CountingSlab.alloc_cases (slab : CountingSlab) :
    ∃ slab', (slab.alloc = (false, slab') ∧ slab'.live = slab.live) ∨
      (slab.alloc = (true, slab') ∧ slab'.live = slab.live + 1) := by
  cases ok : slab.succeeds slab.attempts <;> simp [CountingSlab.alloc, ok]

/-- `kfree` of a live block. -/
def CountingSlab.free (slab : CountingSlab) : CountingSlab := { slab with live := slab.live - 1 }

@[simp] theorem CountingSlab.free_live (slab : CountingSlab) : slab.free.live = slab.live - 1 :=
  rfl

/-- Two 64-bit counters, of operations done and undone, whose gap is `n` objects: one more
done widens the gap by one. -/
theorem counterGap_succ {m u : U64} {n : Nat} (h : m - u = BitVec.ofNat 64 n) :
    m + 1 - u = BitVec.ofNat 64 (n + 1) := by
  bv_omega

/-- One more undone narrows a positive gap by one. -/
theorem counterGap_pred {m u : U64} {n : Nat} (h : m - u = BitVec.ofNat 64 n) (pos : 0 < n) :
    m - (u + 1) = BitVec.ofNat 64 (n - 1) := by
  bv_omega

/-! ## The manager -/

/-- The GTT registers of the device's MMIO window. -/
structure GttMmio where
  /-- `GTT_APERTURE_REG` at `0x104`: the aperture in MiB. -/
  apertureReg : U32
  /-- `GTT_BASE_LOW` at `0x108`. -/
  baseLow : U32
  /-- `GTT_BASE_HIGH` at `0x10C`. -/
  baseHigh : U32

/-- `struct fdca_gtt_manager`. `pageTable` is the contents of the table, `pageTableAddr`
the pointer `page_table` (the model uses one address for it and `page_table_dma`). -/
structure FdcaGttManager where
  mm : DrmMm
  base : U64
  size : U64
  pageSize : U64
  pageTable : Nat → U64
  pageTableAddr : Option Nat
  numEntries : U32
  mapCount : U64
  unmapCount : U64

/-- `struct fdca_gtt_entry`, with the fields the map and unmap paths read. -/
structure FdcaGttEntry where
  node : DrmMmNode
  gpuAddr : U64
  dmaAddrs : List U64
  numPages : U32
  pteIndices : List U32
  deriving DecidableEq, Repr

/-- `fdca_gtt_get_aperture_size`: the register's MiB as bytes, raised to 4 GiB and capped
at 256 GiB. -/
def fdcaGttGetApertureSize (mmio : GttMmio) : U64 :=
  let apertureSize : U64 := mmio.apertureReg.setWidth 64 <<< 20
  let apertureSize :=
    if apertureSize < FDCA_GTT_APERTURE_SIZE then FDCA_GTT_APERTURE_SIZE else apertureSize
  if apertureSize > FDCA_GTT_MAX_SIZE then FDCA_GTT_MAX_SIZE else apertureSize

/-- `fdca_gtt_init_page_table`: one 8-byte entry per page of the aperture, in a zeroed
coherent buffer whose bus address is written to the base registers. -/
def fdcaGttInitPageTable (gtt : FdcaGttManager) (mmio : GttMmio) (pool : Slab) :
    Int × FdcaGttManager × GttMmio × Slab :=
  let numEntries : U32 := (gtt.size / gtt.pageSize).setWidth 32
  let ptSize : U64 := numEntries.setWidth 64 * 8
  match dmaAllocCoherent ptSize.toNat pool with
  | (none, pool) => (-ENOMEM, { gtt with numEntries, pageTableAddr := none }, mmio, pool)
  | (some addr, pool) =>
    let pageTableDma : U64 := BitVec.ofNat 64 addr
    (0, { gtt with numEntries, pageTableAddr := some addr, pageTable := fun _ => 0 },
      { mmio with
        baseLow := pageTableDma.setWidth 32
        baseHigh := (pageTableDma >>> 32).setWidth 32 },
      pool)

/-- `fdca_gtt_manager_init`. The manager sits in the zeroed `fdca_memory_manager`, so the
fields it does not set start at zero. On failure `drm_mm_takedown` finds the range manager
empty and changes nothing. -/
def fdcaGttManagerInit (place : Nat → Option Nat) (mmio : GttMmio) (pool : Slab) :
    Int × FdcaGttManager × GttMmio × Slab :=
  let apertureSize := fdcaGttGetApertureSize mmio
  let gtt : FdcaGttManager :=
    { mm := drmMmInit place FDCA_GTT_START_ADDR.toNat apertureSize.toNat
      base := FDCA_GTT_START_ADDR
      size := apertureSize
      pageSize := BitVec.ofNat 64 PAGE_SIZE
      pageTable := fun _ => 0
      pageTableAddr := none
      numEntries := 0
      mapCount := 0
      unmapCount := 0 }
  let table := fdcaGttInitPageTable gtt mmio pool
  if table.1 ≠ 0 then table
  else (0, { table.2.1 with mapCount := 0, unmapCount := 0 }, table.2.2)

/-- `fdca_gtt_manager_fini`: the page table goes back to the coherent pool. The range
manager is taken down as it is; `drm_mm_takedown` frees none of its nodes. -/
def fdcaGttManagerFini (gtt : FdcaGttManager) (pool : Slab) : FdcaGttManager × Slab :=
  match gtt.pageTableAddr with
  | some addr =>
    let ptSize : U64 := gtt.numEntries.setWidth 64 * 8
    ({ gtt with pageTableAddr := none }, dmaFreeCoherent ptSize.toNat addr pool)
  | none => (gtt, pool)

/-- `struct fdca_gtt_stats`. -/
structure FdcaGttStats where
  totalSize : U64
  usedSize : U64
  availableSize : U64
  numEntries : U32
  mapCount : U64
  unmapCount : U64
  deriving DecidableEq, Repr

/-- `fdca_gtt_get_stats`. -/
def fdcaGttGetStats (gtt : FdcaGttManager) : FdcaGttStats :=
  ⟨gtt.size, drmMmTotalSize gtt.mm - drmMmAvailSize gtt.mm, drmMmAvailSize gtt.mm,
    gtt.numEntries, gtt.mapCount, gtt.unmapCount⟩

/-- `fdca_gtt_alloc_space`: a zeroed entry and a node of the address space. -/
def fdcaGttAllocSpace (gtt : FdcaGttManager) (slab : CountingSlab) (size alignment : U64) :
    Except Int FdcaGttEntry × FdcaGttManager × CountingSlab :=
  match slab.alloc with
  | (false, slab) => (.error (-ENOMEM), gtt, slab)
  | (true, slab) =>
    match drmMmInsertNodeGeneric gtt.mm size.toNat alignment.toNat with
    | (.error ret, mm) => (.error ret, { gtt with mm }, slab.free)
    | (.ok node, mm) => (.ok ⟨node, BitVec.ofNat 64 node.start, [], 0, []⟩, { gtt with mm }, slab)

/-- `fdca_gtt_free_space` of an entry. -/
def fdcaGttFreeSpace (gtt : FdcaGttManager) (slab : CountingSlab) (entry : FdcaGttEntry) :
    FdcaGttManager × CountingSlab :=
  ({ gtt with mm := drmMmRemoveNode gtt.mm entry.node }, slab.free)

@[simp] theorem fdcaGttFreeSpace_slab (gtt : FdcaGttManager) (slab : CountingSlab)
    (entry : FdcaGttEntry) : (fdcaGttFreeSpace gtt slab entry).2 = slab.free :=
  rfl

/-- `fdca_gtt_get_pte_index`, truncated to the `u32` it returns. -/
def fdcaGttGetPteIndex (gtt : FdcaGttManager) (gpuAddr : U64) : U32 :=
  ((gpuAddr - gtt.base) / gtt.pageSize).setWidth 32

/-- The store `fdca_gtt_set_pte` and `fdca_gtt_clear_pte` both make: an index past the
table is reported and dropped, any other has its entry overwritten. -/
def gttWritePte (gtt : FdcaGttManager) (index : U32) (pteValue : U64) : FdcaGttManager :=
  if index ≥ gtt.numEntries then gtt
  else { gtt with pageTable := Function.update gtt.pageTable index.toNat pteValue }

/-- `fdca_gtt_set_pte`. -/
def fdcaGttSetPte (gtt : FdcaGttManager) (index : U32) (dmaAddr : U64) (flags : U32) :
    FdcaGttManager :=
  gttWritePte gtt index (fdcaGttPteValue dmaAddr flags)

/-- `fdca_gtt_clear_pte`. -/
def fdcaGttClearPte (gtt : FdcaGttManager) (index : U32) : FdcaGttManager :=
  gttWritePte gtt index 0

/-! ## Mapping and unmapping -/

/-- The loop of `fdca_gtt_map_pages` over the page numbers `is`: map the page, record its
entry index and DMA address, write its entry. The first mapping error stops it; it returns
the pages mapped so far, in order, and whether every page was mapped. -/
def fdcaGttMapLoop (pages : Nat → Nat) (direction : DmaDataDirection) (gpuAddr : U64) :
    List Nat → FdcaGttManager → DmaMapper → List (U32 × U64) × FdcaGttManager × DmaMapper × Bool
  | [], gtt, dma => ([], gtt, dma, true)
  | i :: is, gtt, dma =>
    match dmaMapPage (pages i) dma with
    | (none, dma) => ([], gtt, dma, false)
    | (some dmaAddr, dma) =>
      let pteIndex := fdcaGttGetPteIndex gtt
        (gpuAddr + BitVec.ofNat 64 i * BitVec.ofNat 64 PAGE_SIZE)
      let rest := fdcaGttMapLoop pages direction gpuAddr is
        (fdcaGttSetPte gtt pteIndex dmaAddr direction.val) dma
      ((pteIndex, dmaAddr) :: rest.1, rest.2)

/-- The unwinding `while (i-- > 0)` of `fdca_gtt_map_pages`: from the last page mapped back
to the first, undo its DMA mapping and clear its entry. -/
def fdcaGttUnwind : List (U32 × U64) → FdcaGttManager → DmaMapper → FdcaGttManager × DmaMapper
  | [], gtt, dma => (gtt, dma)
  | (pteIndex, dmaAddr) :: mapped, gtt, dma =>
    let later := fdcaGttUnwind mapped gtt dma
    (fdcaGttClearPte later.1 pteIndex, dmaUnmapPage dmaAddr later.2)

/-- `fdca_gtt_map_pages(fdev, pages, num_pages, direction, debug_name)`. -/
def fdcaGttMapPages (gtt : FdcaGttManager) (slab : CountingSlab) (dma : DmaMapper)
    (pages : Nat → Nat) (numPages : U32) (direction : DmaDataDirection) :
    Except Int FdcaGttEntry × FdcaGttManager × CountingSlab × DmaMapper :=
  let size : U64 := numPages.setWidth 64 * BitVec.ofNat 64 PAGE_SIZE
  match fdcaGttAllocSpace gtt slab size (BitVec.ofNat 64 PAGE_SIZE) with
  | (.error ret, gtt, slab) => (.error ret, gtt, slab, dma)
  | (.ok entry, gtt, slab) =>
    let entry := { entry with numPages }
    match slab.alloc with
    | (false, slab) =>
      let freed := fdcaGttFreeSpace gtt slab entry
      (.error (-ENOMEM), freed.1, freed.2, dma)
    | (true, slab) =>
      match slab.alloc with
      | (false, slab) =>
        let freed := fdcaGttFreeSpace gtt slab.free entry
        (.error (-ENOMEM), freed.1, freed.2, dma)
      | (true, slab) =>
        let mapped := fdcaGttMapLoop pages direction entry.gpuAddr
          (List.range numPages.toNat) gtt dma
        if mapped.2.2.2 then
          (.ok { entry with
              pteIndices := mapped.1.map Prod.fst
              dmaAddrs := mapped.1.map Prod.snd },
            { mapped.2.1 with mapCount := mapped.2.1.mapCount + 1 }, slab, mapped.2.2.1)
        else
          let unwound := fdcaGttUnwind mapped.1 mapped.2.1 mapped.2.2.1
          let freed := fdcaGttFreeSpace unwound.1 slab.free.free entry
          (.error (-ENOMEM), freed.1, freed.2, unwound.2)

/-- The loop of `fdca_gtt_unmap_pages`, over the entry indices and DMA addresses side by
side: clear the entry, undo the DMA mapping. -/
def fdcaGttUnmapLoop : List (U32 × U64) → FdcaGttManager → DmaMapper → FdcaGttManager × DmaMapper
  | [], gtt, dma => (gtt, dma)
  | (pteIndex, dmaAddr) :: rest, gtt, dma =>
    fdcaGttUnmapLoop rest (fdcaGttClearPte gtt pteIndex) (dmaUnmapPage dmaAddr dma)

/-- `fdca_gtt_unmap_pages(fdev, entry, direction)` of an entry. -/
def fdcaGttUnmapPages (gtt : FdcaGttManager) (slab : CountingSlab) (dma : DmaMapper)
    (entry : FdcaGttEntry) : FdcaGttManager × CountingSlab × DmaMapper :=
  let cleared := fdcaGttUnmapLoop (entry.pteIndices.zip entry.dmaAddrs) gtt dma
  let freed := fdcaGttFreeSpace cleared.1 slab.free.free entry
  ({ freed.1 with unmapCount := freed.1.unmapCount + 1 }, freed.2, cleared.2)

/-! ## Page-table writes and the loops -/

/-- Bitwise and distributes over or, on 64-bit words. -/
theorem u64_or_and_distrib (x y z : U64) : (x ||| y) &&& z = (x &&& z) ||| (y &&& z) := by
  apply BitVec.eq_of_getLsbD_eq
  intro i
  simp only [BitVec.getLsbD_and, BitVec.getLsbD_or, Bool.and_or_distrib_right]

/-- An entry is a masked address or'ed with low bits, which alone decide its valid and
permission bits. -/
theorem gttPteDecode_masked (addr low : U64) :
    gttPteDecode ((addr &&& FDCA_GTT_PTE_ADDR_MASK) ||| low) =
      if low &&& FDCA_GTT_PTE_VALID = 0 then none
      else some (addr &&& FDCA_GTT_PTE_ADDR_MASK ||| (low &&& FDCA_GTT_PTE_ADDR_MASK),
        decide (low &&& FDCA_GTT_PTE_READABLE ≠ 0), decide (low &&& FDCA_GTT_PTE_WRITABLE ≠ 0)) := by
  simp only [gttPteDecode, u64_or_and_distrib, BitVec.and_assoc]
  simp [FDCA_GTT_PTE_ADDR_MASK, FDCA_GTT_PTE_VALID, FDCA_GTT_PTE_READABLE, FDCA_GTT_PTE_WRITABLE]

/-- The entry `fdca_gtt_set_pte` writes decodes to the page frame of the DMA address and
the permissions the direction grants. -/
@[simp] theorem gttPteDecode_value (dmaAddr : U64) (direction : DmaDataDirection) :
    gttPteDecode (fdcaGttPteValue dmaAddr direction.val) =
      some (dmaAddr &&& FDCA_GTT_PTE_ADDR_MASK, direction.grants) := by
  cases direction <;>
    simp only [fdcaGttPteValue, DmaDataDirection.val, ne_eq, BitVec.reduceAnd, BitVec.reduceEq,
      not_true_eq_false, not_false_eq_true, reduceIte, BitVec.or_assoc, BitVec.reduceOr,
      gttPteDecode_masked] <;>
    simp [DmaDataDirection.grants, FDCA_GTT_PTE_ADDR_MASK, FDCA_GTT_PTE_VALID,
      FDCA_GTT_PTE_READABLE, FDCA_GTT_PTE_WRITABLE]

/-- A cleared entry maps nothing. -/
@[simp] theorem gttPteDecode_zero : gttPteDecode 0 = none := by decide

section Writes

variable {gtt : FdcaGttManager} {dma : DmaMapper}

/-- What one store leaves in the table: entry `k` holds the new value when the store hit
it, and is kept otherwise. -/
theorem gttWritePte_eq (gtt : FdcaGttManager) (index : U32) (pteValue : U64) :
    gttWritePte gtt index pteValue =
      { gtt with pageTable := fun k =>
          if index.toNat = k ∧ index < gtt.numEntries then pteValue else gtt.pageTable k } := by
  unfold gttWritePte
  split <;> cases gtt <;> simp only [FdcaGttManager.mk.injEq, true_and, and_true] <;> funext k
  · simp only [BitVec.not_lt.2 ‹_›, and_false, if_false]
  · simp only [Function.update_apply, BitVec.not_le.1 ‹_›, and_true, eq_comm]

@[simp] theorem fdcaGttGetPteIndex_writePte (index : U32) (v gpuAddr : U64) :
    fdcaGttGetPteIndex (gttWritePte gtt index v) gpuAddr = fdcaGttGetPteIndex gtt gpuAddr := by
  rw [gttWritePte_eq]; rfl

@[simp] theorem gttWritePte_numEntries (index : U32) (v : U64) :
    (gttWritePte gtt index v).numEntries = gtt.numEntries := by
  rw [gttWritePte_eq]

end Writes

/-- The entry index the map loop computes for page `i` of a mapping at `gpuAddr`. -/
def gttPageIndex (gtt : FdcaGttManager) (gpuAddr : U64) (i : Nat) : U32 :=
  fdcaGttGetPteIndex gtt (gpuAddr + BitVec.ofNat 64 i * BitVec.ofNat 64 PAGE_SIZE)

/-- Page `i` of a page-aligned address above the aperture's base has entry index
`(start - base) / PAGE_SIZE + i`. No bound is needed: a wrap of the 64-bit sum is a multiple
of `2 ^ 64 / PAGE_SIZE` entries, which the truncation to `u32` drops. -/
theorem gttPageIndex_eq {gtt : FdcaGttManager} {start i : Nat}
    (base : gtt.base = FDCA_GTT_START_ADDR) (pageSize : gtt.pageSize = BitVec.ofNat 64 PAGE_SIZE)
    (above : FDCA_GTT_START_ADDR.toNat ≤ start) (aligned : start % PAGE_SIZE = 0) :
    gttPageIndex gtt (BitVec.ofNat 64 start) i =
      BitVec.ofNat 32 ((start - FDCA_GTT_START_ADDR.toNat) / PAGE_SIZE + i) := by
  have start_eq : FDCA_GTT_START_ADDR.toNat = 4294967296 := rfl
  rw [start_eq] at above ⊢
  apply BitVec.eq_of_toNat_eq
  simp only [gttPageIndex, fdcaGttGetPteIndex, base, pageSize, start_eq, BitVec.toNat_setWidth,
    BitVec.toNat_udiv, BitVec.toNat_sub, BitVec.toNat_add, BitVec.toNat_mul, BitVec.toNat_ofNat,
    PAGE_SIZE, Nat.reducePow, Nat.reduceMod] at aligned ⊢
  omega

section MapLoop

variable (pages : Nat → Nat) (direction : DmaDataDirection) (gpuAddr : U64)
  {i : Nat} {is : List Nat} {gtt : FdcaGttManager} {dma : DmaMapper}

@[simp] theorem gttPageIndex_writePte (index : U32) (v : U64) :
    gttPageIndex (gttWritePte gtt index v) = gttPageIndex gtt := by
  funext gpuAddr i; simp [gttPageIndex]

/-- A page whose mapping fails stops the loop. -/
theorem fdcaGttMapLoop_cons_none (fails : dma.mapPage dma.calls (pages i) = none) :
    fdcaGttMapLoop pages direction gpuAddr (i :: is) gtt dma =
      ([], gtt, { dma with calls := dma.calls + 1 }, false) := by
  simp [fdcaGttMapLoop, dmaMapPage, fails]

/-- A page that maps has its entry written before the loop goes on. -/
theorem fdcaGttMapLoop_cons_some {a : U64} (maps : dma.mapPage dma.calls (pages i) = some a) :
    let rest := fdcaGttMapLoop pages direction gpuAddr is
      (fdcaGttSetPte gtt (gttPageIndex gtt gpuAddr i) a direction.val)
      { dma with calls := dma.calls + 1, live := a :: dma.live }
    fdcaGttMapLoop pages direction gpuAddr (i :: is) gtt dma =
      ((gttPageIndex gtt gpuAddr i, a) :: rest.1, rest.2) := by
  simp [fdcaGttMapLoop, dmaMapPage, maps, gttPageIndex]

variable (is gtt dma)

/-- The loop maps a prefix of the pages, and reports success exactly when it mapped them
all. -/
theorem fdcaGttMapLoop_indices :
    let r := fdcaGttMapLoop pages direction gpuAddr is gtt dma
    r.1.map Prod.fst <+: is.map (gttPageIndex gtt gpuAddr) ∧
      (r.2.2.2 = true ↔ r.1.length = is.length) := by
  induction is generalizing gtt dma with
  | nil => simp [fdcaGttMapLoop]
  | cons i is ih =>
    cases maps : dma.mapPage dma.calls (pages i) with
    | none => simp [fdcaGttMapLoop_cons_none _ _ _ maps]
    | some a =>
      obtain ⟨pre, ok⟩ := ih (fdcaGttSetPte gtt (gttPageIndex gtt gpuAddr i) a direction.val)
        { dma with calls := dma.calls + 1, live := a :: dma.live }
      rw [fdcaGttSetPte, gttPageIndex_writePte] at pre
      simp only [fdcaGttMapLoop_cons_some _ _ _ maps, List.map_cons, List.length_cons,
        Nat.add_right_cancel_iff]
      exact ⟨(List.prefix_cons_inj _).2 pre, ok⟩

/-- The loop's DMA mappings are the pages it mapped, newest first, on top of those there
were. -/
theorem fdcaGttMapLoop_dma :
    let r := fdcaGttMapLoop pages direction gpuAddr is gtt dma
    r.2.2.1.live = (r.1.map Prod.snd).reverse ++ dma.live ∧ r.2.2.1.badUnmaps = dma.badUnmaps := by
  induction is generalizing gtt dma with
  | nil => simp [fdcaGttMapLoop]
  | cons i is ih =>
    cases maps : dma.mapPage dma.calls (pages i) with
    | none => simp [fdcaGttMapLoop_cons_none _ _ _ maps]
    | some a =>
      obtain ⟨live, bad⟩ := ih (fdcaGttSetPte gtt (gttPageIndex gtt gpuAddr i) a direction.val)
        { dma with calls := dma.calls + 1, live := a :: dma.live }
      rw [fdcaGttMapLoop_cons_some _ _ _ maps]
      exact ⟨by rw [live]; simp, bad⟩

/-- The loop writes the page table and nothing else of the manager. -/
theorem fdcaGttMapLoop_frame :
    let r := fdcaGttMapLoop pages direction gpuAddr is gtt dma
    r.2.1 = { gtt with pageTable := r.2.1.pageTable } := by
  induction is generalizing gtt dma with
  | nil => simp [fdcaGttMapLoop]
  | cons i is ih =>
    cases maps : dma.mapPage dma.calls (pages i) with
    | none => simp [fdcaGttMapLoop_cons_none _ _ _ maps]
    | some a =>
      rw [fdcaGttMapLoop_cons_some _ _ _ maps]
      refine (ih _ _).trans ?_
      rw [fdcaGttSetPte, gttWritePte_eq]

/-- With every index inside the table and no index twice, the loop leaves each entry it
wrote holding its page's entry value, and every other entry as it was. -/
theorem fdcaGttMapLoop_pageTable (inside : ∀ i ∈ is, gttPageIndex gtt gpuAddr i < gtt.numEntries)
    (distinct : (is.map (gttPageIndex gtt gpuAddr)).Nodup) (k : Nat) :
    let r := fdcaGttMapLoop pages direction gpuAddr is gtt dma
    r.2.1.pageTable k =
      (r.1.find? (·.1.toNat = k)).elim (gtt.pageTable k) (fdcaGttPteValue ·.2 direction.val) := by
  induction is generalizing gtt dma with
  | nil => simp [fdcaGttMapLoop]
  | cons i is ih =>
    cases maps : dma.mapPage dma.calls (pages i) with
    | none => simp [fdcaGttMapLoop_cons_none _ _ _ maps]
    | some a =>
      simp only [List.mem_cons, forall_eq_or_imp, List.map_cons, List.nodup_cons] at inside distinct
      let gtt' := fdcaGttSetPte gtt (gttPageIndex gtt gpuAddr i) a direction.val
      let dma' : DmaMapper := { dma with calls := dma.calls + 1, live := a :: dma.live }
      have sub := (fdcaGttMapLoop_indices pages direction gpuAddr is gtt' dma').1.subset
      have rest := ih gtt' dma' (by simpa [gtt', fdcaGttSetPte] using inside.2)
        (by simpa [gtt', fdcaGttSetPte] using distinct.2)
      rw [fdcaGttMapLoop_cons_some _ _ _ maps]
      generalize fdcaGttMapLoop pages direction gpuAddr is gtt' dma' = r at sub rest ⊢
      simp only [gtt', fdcaGttSetPte, gttPageIndex_writePte] at sub
      simp only [gtt', fdcaGttSetPte, gttWritePte_eq] at rest
      refine rest.trans ?_
      by_cases hit : (gttPageIndex gtt gpuAddr i).toNat = k
      · have fresh : r.1.find? (·.1.toNat = k) = none :=
          List.find?_eq_none.2 fun p mem same => distinct.1 <|
            BitVec.eq_of_toNat_eq ((of_decide_eq_true same).trans hit.symm) ▸
              sub (List.mem_map_of_mem _ mem)
        simp [fresh, hit, inside.1]
      · simp [List.find?_cons, hit]

end MapLoop

section Clear

variable (gtt : FdcaGttManager) (dma : DmaMapper)

/-- The unwinding clears every entry it names that lies inside the table. -/
theorem fdcaGttUnwind_gtt (mapped : List (U32 × U64)) :
    (fdcaGttUnwind mapped gtt dma).1 = { gtt with pageTable := fun k =>
      if ∃ p ∈ mapped, p.1.toNat = k ∧ p.1 < gtt.numEntries then 0 else gtt.pageTable k } := by
  induction mapped with
  | nil => simp [fdcaGttUnwind]
  | cons p mapped ih =>
    obtain ⟨index, addr⟩ := p
    simp only [fdcaGttUnwind, fdcaGttClearPte, gttWritePte_eq, ih, List.exists_mem_cons]
    congr 1
    funext k
    by_cases hit : index.toNat = k ∧ index < gtt.numEntries <;> simp [hit]

/-- So does the unmap loop. -/
theorem fdcaGttUnmapLoop_gtt (ps : List (U32 × U64)) :
    (fdcaGttUnmapLoop ps gtt dma).1 = { gtt with pageTable := fun k =>
      if ∃ p ∈ ps, p.1.toNat = k ∧ p.1 < gtt.numEntries then 0 else gtt.pageTable k } := by
  induction ps generalizing gtt dma with
  | nil => simp [fdcaGttUnmapLoop]
  | cons p ps ih =>
    obtain ⟨index, addr⟩ := p
    simp only [fdcaGttUnmapLoop, ih, fdcaGttClearPte, gttWritePte_eq, List.exists_mem_cons]
    congr 1
    funext k
    by_cases hit : index.toNat = k ∧ index < gtt.numEntries <;> simp [hit]

variable {gtt dma}

/-- Undoing the mappings newest first takes each one off the top of the live list. -/
theorem fdcaGttUnwind_dma {mapped : List (U32 × U64)} {rest : List U64}
    (live : dma.live = (mapped.map Prod.snd).reverse ++ rest) :
    (fdcaGttUnwind mapped gtt dma).2.live = rest ∧
      (fdcaGttUnwind mapped gtt dma).2.badUnmaps = dma.badUnmaps := by
  induction mapped generalizing rest with
  | nil => simpa [fdcaGttUnwind] using live
  | cons p mapped ih =>
    obtain ⟨index, addr⟩ := p
    obtain ⟨later, bad⟩ := @ih (addr :: rest) (by simpa using live)
    simp [fdcaGttUnwind, dmaUnmapPage, later, bad]

/-- Undoing mappings whose addresses are all live takes each off the live list once. -/
theorem fdcaGttUnmapLoop_dma {ps : List (U32 × U64)} {rest : List U64}
    (live : dma.live.Perm (ps.map Prod.snd ++ rest)) :
    (fdcaGttUnmapLoop ps gtt dma).2.live.Perm rest ∧
      (fdcaGttUnmapLoop ps gtt dma).2.badUnmaps = dma.badUnmaps := by
  induction ps generalizing gtt dma with
  | nil => simpa [fdcaGttUnmapLoop] using live
  | cons p ps ih =>
    obtain ⟨index, addr⟩ := p
    have mem : addr ∈ dma.live := live.mem_iff.2 (by simp)
    obtain ⟨later, bad⟩ := @ih (fdcaGttClearPte gtt index) (dmaUnmapPage addr dma)
      (by simpa [dmaUnmapPage, mem] using live.erase addr)
    simp only [fdcaGttUnmapLoop]
    exact ⟨later, by simpa [dmaUnmapPage, mem] using bad⟩

end Clear

/-! ## What each operation does -/

section Space

variable {mm : DrmMm} {size alignment : Nat}

/-- An insertion keeps the managed range, and either places a node of the requested size in
a range that fits, in front of the others, or fails with `-ENOSPC` and keeps the nodes. -/
theorem drmMmInsertNodeGeneric_cases :
    let r := drmMmInsertNodeGeneric mm size alignment
    r.2.start = mm.start ∧ r.2.size = mm.size ∧
      ((r.1 = .error (-ENOSPC) ∧ r.2.nodes = mm.nodes) ∨
        ∃ start, r.1 = .ok ⟨start, size⟩ ∧ mm.Fits ⟨start, size⟩ alignment ∧
          r.2.nodes = ⟨start, size⟩ :: mm.nodes) := by
  unfold drmMmInsertNodeGeneric
  split
  · split
    · exact ⟨rfl, rfl, .inr ⟨_, rfl, ‹_›, rfl⟩⟩
    · exact ⟨rfl, rfl, .inl ⟨rfl, rfl⟩⟩
  · exact ⟨rfl, rfl, .inl ⟨rfl, rfl⟩⟩

variable {gtt : FdcaGttManager} {slab : CountingSlab}

/-- `fdca_gtt_alloc_space` changes only the range manager, whose range it keeps. It either
fails with `-ENOMEM` or `-ENOSPC`, keeping the nodes and the live slab blocks, or returns a
zeroed entry on a new node of the requested size that fits, with one more slab block. -/
theorem fdcaGttAllocSpace_cases (size alignment : U64) :
    let r := fdcaGttAllocSpace gtt slab size alignment
    ∃ mm : DrmMm, r.2.1 = { gtt with mm } ∧ mm.start = gtt.mm.start ∧ mm.size = gtt.mm.size ∧
      ((∃ ret, r.1 = .error ret ∧ (ret = -ENOMEM ∨ ret = -ENOSPC) ∧ mm.nodes = gtt.mm.nodes ∧
          r.2.2.live = slab.live) ∨
        ∃ node : DrmMmNode, r.1 = .ok ⟨node, BitVec.ofNat 64 node.start, [], 0, []⟩ ∧
          node.size = size.toNat ∧ gtt.mm.Fits node alignment.toNat ∧
          mm.nodes = node :: gtt.mm.nodes ∧ r.2.2.live = slab.live + 1) := by
  unfold fdcaGttAllocSpace CountingSlab.alloc
  cases ok : slab.succeeds slab.attempts
  · exact ⟨gtt.mm, rfl, rfl, rfl, .inl ⟨_, rfl, .inl rfl, rfl, by simp [ok]⟩⟩
  · have ins := @drmMmInsertNodeGeneric_cases gtt.mm size.toNat alignment.toNat
    generalize drmMmInsertNodeGeneric gtt.mm size.toNat alignment.toNat = r at ins ⊢
    obtain ⟨result, mm⟩ := r
    obtain ⟨start, range, ⟨rfl, nodes⟩ | ⟨first, rfl, fits, nodes⟩⟩ := ins
    · exact ⟨mm, rfl, start, range, .inl ⟨_, rfl, .inr rfl, nodes, by simp [ok]⟩⟩
    · exact ⟨mm, rfl, start, range, .inr ⟨_, rfl, rfl, fits, nodes, by simp [ok]⟩⟩

end Space
section MapPages

variable {gtt : FdcaGttManager} {slab : CountingSlab} {dma : DmaMapper} (pages : Nat → Nat)
  (numPages : U32) (direction : DmaDataDirection)

/-- The size `fdca_gtt_map_pages` asks for: `num_pages * PAGE_SIZE` does not overflow. -/
theorem fdcaGttMapPages_size :
    (numPages.setWidth 64 * BitVec.ofNat 64 PAGE_SIZE).toNat = numPages.toNat * PAGE_SIZE := by
  have := numPages.isLt
  simp only [BitVec.toNat_mul, BitVec.toNat_setWidth, BitVec.toNat_ofNat, PAGE_SIZE]
  omega

/-- The outcomes of `fdca_gtt_map_pages`. Either it fails before its loop, with `-ENOMEM` or
`-ENOSPC`, having changed nothing but the range manager's bookkeeping and the DMA mappings
not at all; or it placed a node of `num_pages` pages that fits and ran the loop on it. Then
it returns the entry, with one more map and three more slab blocks, when every page mapped,
and unwinds and frees the node when one did not. -/
theorem fdcaGttMapPages_cases :
    let r := fdcaGttMapPages gtt slab dma pages numPages direction
    (∃ ret, r.1 = .error ret ∧ (ret = -ENOMEM ∨ ret = -ENOSPC) ∧
        (∃ mm : DrmMm, r.2.1 = { gtt with mm } ∧ mm.start = gtt.mm.start ∧
          mm.size = gtt.mm.size ∧ mm.nodes = gtt.mm.nodes) ∧
        r.2.2.1.live = slab.live ∧ r.2.2.2 = dma) ∨
      ∃ (node : DrmMmNode) (mm : DrmMm), gtt.mm.Fits node PAGE_SIZE ∧
        node.size = numPages.toNat * PAGE_SIZE ∧ mm.start = gtt.mm.start ∧
        mm.size = gtt.mm.size ∧ mm.nodes = node :: gtt.mm.nodes ∧
        let loop := fdcaGttMapLoop pages direction (BitVec.ofNat 64 node.start)
          (List.range numPages.toNat) { gtt with mm } dma
        (loop.2.2.2 = true ∧
            r.1 = .ok ⟨node, BitVec.ofNat 64 node.start, loop.1.map Prod.snd, numPages,
              loop.1.map Prod.fst⟩ ∧
            r.2.1 = { loop.2.1 with mapCount := loop.2.1.mapCount + 1 } ∧
            r.2.2.1.live = slab.live + 3 ∧ r.2.2.2 = loop.2.2.1) ∨
          (loop.2.2.2 = false ∧ r.1 = .error (-ENOMEM) ∧
            let unwound := fdcaGttUnwind loop.1 loop.2.1 loop.2.2.1
            r.2.1 = { unwound.1 with mm := drmMmRemoveNode mm node } ∧
            r.2.2.1.live = slab.live ∧ r.2.2.2 = unwound.2) := by
  unfold fdcaGttMapPages
  dsimp only
  have alloc := @fdcaGttAllocSpace_cases gtt slab
    (numPages.setWidth 64 * BitVec.ofNat 64 PAGE_SIZE) (BitVec.ofNat 64 PAGE_SIZE)
  generalize fdcaGttAllocSpace gtt slab _ _ = r at alloc ⊢
  obtain ⟨result, gtt1, slab1⟩ := r
  obtain ⟨mm, rfl, start, size, ⟨ret, rfl, codes, nodes, live⟩ |
    ⟨node, rfl, nodeSize, fits, nodes, live⟩⟩ := alloc
  · exact .inl ⟨ret, rfl, codes, ⟨mm, rfl, start, size, nodes⟩, live, rfl⟩
  dsimp only at live
  rw [fdcaGttMapPages_size] at nodeSize
  have freed : ∃ mm' : DrmMm, { gtt with mm := drmMmRemoveNode mm node } = { gtt with mm := mm' } ∧
      mm'.start = gtt.mm.start ∧ mm'.size = gtt.mm.size ∧ mm'.nodes = gtt.mm.nodes :=
    ⟨_, rfl, start, size, by simp [drmMmRemoveNode, nodes]⟩
  simp only [CountingSlab.alloc]
  cases first : slab1.succeeds slab1.attempts
  · exact .inl ⟨_, rfl, .inl rfl, freed, by simp [live], rfl⟩
  dsimp only
  cases second : slab1.succeeds (slab1.attempts + 1)
  · exact .inl ⟨_, rfl, .inl rfl, freed, by simp [live], rfl⟩
  dsimp only
  refine .inr ⟨node, mm, by simpa [PAGE_SIZE] using fits, nodeSize, start, size, nodes, ?_⟩
  have frame := fdcaGttMapLoop_frame pages direction (BitVec.ofNat 64 node.start)
    (List.range numPages.toNat) { gtt with mm } dma
  generalize fdcaGttMapLoop pages direction _ _ _ dma = loop at frame ⊢
  obtain ⟨mapped, gtt2, dma2, ok⟩ := loop
  have kept : (fdcaGttUnwind mapped gtt2 dma2).1.mm = mm := by
    rw [fdcaGttUnwind_gtt]
    exact congrArg FdcaGttManager.mm frame
  cases ok
  · refine .inr ⟨rfl, rfl, ?_, by simp [live], rfl⟩
    simp [fdcaGttFreeSpace, kept]
  · exact .inl ⟨rfl, rfl, rfl, by simp [live], rfl⟩
end MapPages

/-- `fdca_gtt_unmap_pages` clears the entry's table entries that lie inside the table,
removes its node, counts one more unmap and frees its three slab blocks; its DMA mappings
are undone by the loop. -/
theorem fdcaGttUnmapPages_eq (gtt : FdcaGttManager) (slab : CountingSlab) (dma : DmaMapper)
    (entry : FdcaGttEntry) :
    let r := fdcaGttUnmapPages gtt slab dma entry
    r.1 = { gtt with
      mm := drmMmRemoveNode gtt.mm entry.node
      pageTable := fun k => if ∃ p ∈ entry.pteIndices.zip entry.dmaAddrs,
        p.1.toNat = k ∧ p.1 < gtt.numEntries then 0 else gtt.pageTable k
      unmapCount := gtt.unmapCount + 1 } ∧
    r.2.1.live = slab.live - 3 ∧
    r.2.2 = (fdcaGttUnmapLoop (entry.pteIndices.zip entry.dmaAddrs) gtt dma).2 := by
  simp only [fdcaGttUnmapPages, fdcaGttFreeSpace, fdcaGttUnmapLoop_gtt, CountingSlab.free]
  simp only [true_and, and_true]
  omega

/-- `fdca_gtt_get_aperture_size` clamps the register's MiB to `[4 GiB, 256 GiB]`; the
shift cannot overflow. -/
theorem fdcaGttGetApertureSize_toNat (mmio : GttMmio) :
    (fdcaGttGetApertureSize mmio).toNat = min FDCA_GTT_MAX_SIZE.toNat
      (max FDCA_GTT_APERTURE_SIZE.toNat (mmio.apertureReg.toNat * 2 ^ 20)) := by
  have reg := mmio.apertureReg.isLt
  have shifted : (mmio.apertureReg.setWidth 64 <<< 20).toNat = mmio.apertureReg.toNat * 2 ^ 20 := by
    simp only [BitVec.toNat_shiftLeft, BitVec.toNat_setWidth, Nat.shiftLeft_eq]
    omega
  have low : FDCA_GTT_APERTURE_SIZE.toNat = 2 ^ 32 := rfl
  have high : FDCA_GTT_MAX_SIZE.toNat = 2 ^ 38 := rfl
  unfold fdcaGttGetApertureSize
  dsimp only
  split_ifs with small large large <;>
    simp only [BitVec.lt_def, gt_iff_lt, shifted, low, high] at small large ⊢ <;> omega

/-- The two base registers together hold the 64-bit address written to them. -/
theorem gttBaseRegs_append (x : U64) : (x >>> 32).setWidth 32 ++ x.setWidth 32 = x := by
  apply BitVec.eq_of_getLsbD_eq
  intro i
  simp only [BitVec.getLsbD_append, BitVec.getLsbD_setWidth, BitVec.getLsbD_ushiftRight]
  by_cases low : (i : Nat) < 32
  · simp [low]
  · have high : 32 + ((i : Nat) - 32) = i := by omega
    have fits : (i : Nat) - 32 < 32 := by omega
    simp [low, high, fits]

section Manager

variable (place : Nat → Option Nat) (mmio : GttMmio) (pool : Slab)

/-- `fdca_gtt_manager_init` either fails with `-ENOMEM`, with no page table and the coherent
pool's blocks as they were, or succeeds with a manager over the clamped aperture whose page
table, one zero entry per page, is a new coherent block of 8 bytes per entry, at the bus
address the two base registers now hold. -/
theorem fdcaGttManagerInit_cases :
    let r := fdcaGttManagerInit place mmio pool
    let size := fdcaGttGetApertureSize mmio
    let numEntries : U32 := (size / BitVec.ofNat 64 PAGE_SIZE).setWidth 32
    (r.1 = -ENOMEM ∧ r.2.1.pageTableAddr = none ∧ r.2.2.2.live = pool.live ∧
        r.2.2.2.badFrees = pool.badFrees) ∨
      (r.1 = 0 ∧ ∃ addr, r.2.1 =
          { mm := drmMmInit place FDCA_GTT_START_ADDR.toNat size.toNat
            base := FDCA_GTT_START_ADDR
            size
            pageSize := BitVec.ofNat 64 PAGE_SIZE
            pageTable := fun _ => 0
            pageTableAddr := some addr
            numEntries
            mapCount := 0
            unmapCount := 0 } ∧
        r.2.2.2.live = ⟨addr, .dmaCoherent (numEntries.setWidth 64 * 8).toNat⟩ :: pool.live ∧
        r.2.2.2.badFrees = pool.badFrees ∧
        r.2.2.1.baseHigh ++ r.2.2.1.baseLow = BitVec.ofNat 64 addr) := by
  unfold fdcaGttManagerInit fdcaGttInitPageTable dmaAllocCoherent kmalloc
  cases ok : pool.succeeds pool.attempts
  · simp [ok, ENOMEM]
  · simp [ok, gttBaseRegs_append, -BitVec.setWidth_ofNat_of_le]

/-- `fdca_gtt_manager_fini` of a manager whose page table is the newest block of the
coherent pool releases exactly that block. -/
theorem fdcaGttManagerFini_of_head {gtt : FdcaGttManager} {addr : Nat} {rest : List Block}
    (table : gtt.pageTableAddr = some addr)
    (head : pool.live = ⟨addr, .dmaCoherent (gtt.numEntries.setWidth 64 * 8).toNat⟩ :: rest) :
    (fdcaGttManagerFini gtt pool).1.pageTableAddr = none ∧
      (fdcaGttManagerFini gtt pool).2.live = rest ∧
      (fdcaGttManagerFini gtt pool).2.badFrees = pool.badFrees := by
  have mem : ⟨addr, .dmaCoherent (gtt.numEntries.setWidth 64 * 8).toNat⟩ ∈ pool.live := by
    simp [head]
  simp only [fdcaGttManagerFini, table, dmaFreeCoherent, mem, if_true, true_and]
  exact kfree_of_head head

end Manager

end FdcaRvv
