import FdcaRvv.Gtt

/-!
# The GTT over whole runs

A run starts with `fdca_gtt_manager_init` and goes on with any sequence of
`fdca_gtt_map_pages` and `fdca_gtt_unmap_pages` calls, each unmap of an entry a map
returned and no one unmapped yet. `GttSystem.maps` keeps the entries handed out, with the
direction each was mapped in; it is ghost state, read by no operation.

`GttInv` is the invariant of every reachable state. Its heart is `GttInv.table`: the page
table is, index by index, the encoding of the live mapping of that page (`gttLivePage`),
and zero where there is none. The rest is what that needs: live entries have the shape
`fdca_gtt_map_pages` gives them, their nodes are the range manager's nodes, and the DMA
mappings, slab blocks and statistics are those of the live entries. The proofs of
preservation follow the outcomes of each operation (`fdcaGttMapPages_cases`); the only
geometry they use is that the pages of nodes that do not overlap have different entries
(`DrmMmNode.Apart.not_covers`).
-/

namespace FdcaRvv

/-! ## Runs -/

/-- A live mapping: an entry `fdca_gtt_map_pages` returned, and the direction it mapped
the pages in. -/
structure GttMapping where
  entry : FdcaGttEntry
  direction : DmaDataDirection
  deriving DecidableEq, Repr

/-- The GTT with the kernel state its operations touch, and the live mappings. -/
structure GttSystem where
  gtt : FdcaGttManager
  slab : CountingSlab
  dma : DmaMapper
  pool : Slab
  maps : List GttMapping

/-- A caller maps `num_pages` pages in `direction`; a returned entry becomes live. -/
def GttSystem.mapPages (s : GttSystem) (pages : Nat → Nat) (numPages : U32)
    (direction : DmaDataDirection) : GttSystem :=
  let r := fdcaGttMapPages s.gtt s.slab s.dma pages numPages direction
  { s with
    gtt := r.2.1
    slab := r.2.2.1
    dma := r.2.2.2
    maps := match r.1 with
      | .ok entry => ⟨entry, direction⟩ :: s.maps
      | .error _ => s.maps }

/-- A caller unmaps a live entry. -/
def GttSystem.unmapPages (s : GttSystem) (entry : FdcaGttEntry)
    (direction : DmaDataDirection) : GttSystem :=
  let r := fdcaGttUnmapPages s.gtt s.slab s.dma entry
  { s with gtt := r.1, slab := r.2.1, dma := r.2.2, maps := s.maps.erase ⟨entry, direction⟩ }

/-- The states reachable from a successful `fdca_gtt_manager_init` on the coherent pool
`pool`, with fresh slab and DMA state whose outcomes are any oracles. -/
inductive GttReachable (pool : Slab) : GttSystem → Prop
  | init (place : Nat → Option Nat) (mmio : GttMmio) (slabOk : Nat → Bool)
      (mapPage : Nat → Nat → Option U64) (ok : (fdcaGttManagerInit place mmio pool).1 = 0) :
      GttReachable pool ⟨(fdcaGttManagerInit place mmio pool).2.1, ⟨slabOk, 0, 0⟩,
        ⟨mapPage, 0, [], 0⟩, (fdcaGttManagerInit place mmio pool).2.2.2, []⟩
  | map {s : GttSystem} (pages : Nat → Nat) (numPages : U32) (direction : DmaDataDirection) :
      GttReachable pool s → GttReachable pool (s.mapPages pages numPages direction)
  | unmap {s : GttSystem} {entry : FdcaGttEntry} {direction : DmaDataDirection} :
      GttReachable pool s → ⟨entry, direction⟩ ∈ s.maps →
      GttReachable pool (s.unmapPages entry direction)

/-! ## What the device sees -/

/-- The live mapping of page `k` of the aperture, if any: its DMA address and direction. -/
def gttLivePage (maps : List GttMapping) (k : Nat) :
    Option (U64 × DmaDataDirection) :=
  maps.findSome? fun m =>
    ((m.entry.pteIndices.zip m.entry.dmaAddrs).find? (·.1.toNat = k)).map (·.2, m.direction)

/-- The entry the live mappings call for at index `k`. -/
def gttLivePte (maps : List GttMapping) (k : Nat) : U64 :=
  (gttLivePage maps k).elim 0 fun m => fdcaGttPteValue m.1 m.2.val

/-- What the device reaches through page `k` of the aperture: the page frame of the live
mapping there, and the permissions its direction grants. -/
def GttSystem.translate (s : GttSystem) (k : Nat) : Option (U64 × Bool × Bool) :=
  (gttLivePage s.maps k).map fun m => (m.1 &&& FDCA_GTT_PTE_ADDR_MASK, m.2.grants)

/-! ## The invariant -/

/-- The entry index of the first page of a node. -/
def gttFirstIndex (node : DrmMmNode) : Nat :=
  (node.start - FDCA_GTT_START_ADDR.toNat) / PAGE_SIZE

/-- Page `k` of the aperture lies inside `node`. -/
def DrmMmNode.Covers (node : DrmMmNode) (k : Nat) : Prop :=
  node.start ≤ FDCA_GTT_START_ADDR.toNat + k * PAGE_SIZE ∧
    FDCA_GTT_START_ADDR.toNat + k * PAGE_SIZE < node.start + node.size

/-- What `fdca_gtt_map_pages` leaves in an entry it returns: a node of `num_pages` pages at
a page-aligned address, one DMA address per page, and the consecutive entry indices of the
node's pages. -/
structure GttEntryShape (entry : FdcaGttEntry) : Prop where
  size : entry.node.size = entry.numPages.toNat * PAGE_SIZE
  aligned : entry.node.start % PAGE_SIZE = 0
  dmaAddrs : entry.dmaAddrs.length = entry.numPages.toNat
  pteIndices : entry.pteIndices = (List.range entry.numPages.toNat).map fun i =>
    BitVec.ofNat 32 (gttFirstIndex entry.node + i)

/-- The invariant of a run that started on the coherent pool `pool`. -/
structure GttInv (pool : Slab) (s : GttSystem) : Prop where
  base : s.gtt.base = FDCA_GTT_START_ADDR
  pageSize : s.gtt.pageSize = BitVec.ofNat 64 PAGE_SIZE
  mmStart : s.gtt.mm.start = FDCA_GTT_START_ADDR.toNat
  mmSize : s.gtt.mm.size = s.gtt.size.toNat
  numEntries : s.gtt.numEntries.toNat = s.gtt.size.toNat / PAGE_SIZE
  nodes : s.gtt.mm.nodes.Perm (s.maps.map (·.entry.node))
  shape : ∀ m ∈ s.maps, GttEntryShape m.entry
  table : ∀ k, s.gtt.pageTable k = gttLivePte s.maps k
  dma : s.dma.live.Perm (s.maps.flatMap (·.entry.dmaAddrs))
  badUnmaps : s.dma.badUnmaps = 0
  slab : s.slab.live = 3 * s.maps.length
  counts : s.gtt.mapCount - s.gtt.unmapCount = BitVec.ofNat 64 s.maps.length
  pageTable : ∃ addr, s.gtt.pageTableAddr = some addr ∧
    s.pool.live = ⟨addr, .dmaCoherent (s.gtt.numEntries.setWidth 64 * 8).toNat⟩ :: pool.live
  badFrees : s.pool.badFrees = pool.badFrees

/-- What a failed map leaves, against the state it started from: a manager that differs
only in the range manager's bookkeeping, with the same range and nodes, and the live slab
blocks and DMA mappings as they were. -/
structure GttRestored (s : GttSystem) (gtt : FdcaGttManager) (slab : CountingSlab)
    (dma : DmaMapper) : Prop where
  gtt : ∃ mm : DrmMm, gtt = { s.gtt with mm } ∧ mm.start = s.gtt.mm.start ∧
    mm.size = s.gtt.mm.size ∧ mm.nodes = s.gtt.mm.nodes
  slab : slab.live = s.slab.live
  live : dma.live = s.dma.live
  badUnmaps : dma.badUnmaps = s.dma.badUnmaps

/-! ## Geometry -/

/-- `FDCA_GTT_START_ADDR` as a number. -/
theorem gttStartAddr_toNat : FDCA_GTT_START_ADDR.toNat = 4294967296 := rfl

theorem DrmMmNode.Apart.symm {a b : DrmMmNode} (apart : a.Apart b) : b.Apart a :=
  Or.symm apart

/-- Nodes that do not overlap cover no page in common. -/
theorem DrmMmNode.Apart.not_covers {a b : DrmMmNode} (apart : a.Apart b) {k : Nat}
    (ca : a.Covers k) (cb : b.Covers k) : False := by
  unfold DrmMmNode.Apart at apart
  unfold DrmMmNode.Covers at ca cb
  omega

/-- No live mapping names entry `k` exactly when no live entry records index `k`. -/
theorem gttLivePage_eq_none {maps : List GttMapping} {k : Nat} :
    gttLivePage maps k = none ↔
      ∀ m ∈ maps, ∀ p ∈ m.entry.pteIndices.zip m.entry.dmaAddrs, p.1.toNat ≠ k := by
  simp [gttLivePage, List.find?_eq_none]

/-- The entry the live mappings call for, with one more mapping in front. -/
theorem gttLivePte_cons (entry : FdcaGttEntry) (direction : DmaDataDirection)
    (maps : List GttMapping) (k : Nat) :
    gttLivePte (⟨entry, direction⟩ :: maps) k =
      ((entry.pteIndices.zip entry.dmaAddrs).find? (·.1.toNat = k)).elim (gttLivePte maps k)
        (fdcaGttPteValue ·.2 direction.val) := by
  unfold gttLivePte gttLivePage
  rw [List.findSome?_cons]
  cases (entry.pteIndices.zip entry.dmaAddrs).find? (·.1.toNat = k) <;> rfl

/-- Removing a mapping that names no entry `k` leaves the live mapping of `k` as it was. -/
theorem gttLivePage_erase {maps : List GttMapping} {k : Nat}
    {m : GttMapping}
    (other : ∀ p ∈ m.entry.pteIndices.zip m.entry.dmaAddrs, p.1.toNat ≠ k) :
    gttLivePage (maps.erase m) k = gttLivePage maps k := by
  have none : ((m.entry.pteIndices.zip m.entry.dmaAddrs).find? (·.1.toNat = k)).map (·.2, m.direction) = none := by
    simpa [List.find?_eq_none] using other
  unfold gttLivePage
  induction maps with
  | nil => rfl
  | cons n maps ih =>
    by_cases same : n = m
    · subst same
      rw [List.erase_cons_head, List.findSome?_cons, none]
    · rw [List.erase_cons_tail (by simpa using same), List.findSome?_cons, List.findSome?_cons, ih]

/-! ## Consequences of the invariant -/

section Inv

variable {pool : Slab} {s : GttSystem}

/-- The nodes of the live entries do not overlap. -/
theorem GttInv.apart (inv : GttInv pool s) :
    s.maps.Pairwise fun m m' => m.entry.node.Apart m'.entry.node :=
  List.pairwise_map.1 ((inv.nodes.pairwise_iff DrmMmNode.Apart.symm).1 s.gtt.mm.apart)

/-- The node of a live entry lies inside the aperture. -/
theorem GttInv.inside (inv : GttInv pool s) {m : GttMapping}
    (mem : m ∈ s.maps) :
    FDCA_GTT_START_ADDR.toNat ≤ m.entry.node.start ∧
      m.entry.node.start + m.entry.node.size ≤ FDCA_GTT_START_ADDR.toNat + s.gtt.size.toNat := by
  have inside := s.gtt.mm.inside _ (inv.nodes.mem_iff.2 (List.mem_map_of_mem _ mem))
  rwa [inv.mmStart, inv.mmSize] at inside

/-- Page `i` of a live entry has an entry index inside the table, which its node covers. -/
theorem GttInv.page (inv : GttInv pool s) {m : GttMapping} (mem : m ∈ s.maps) {i : Nat}
    (page : i < m.entry.numPages.toNat) :
    gttFirstIndex m.entry.node + i < s.gtt.numEntries.toNat ∧
      m.entry.node.Covers (gttFirstIndex m.entry.node + i) := by
  have shape := inv.shape m mem
  obtain ⟨low, high⟩ := inv.inside mem
  have entries := inv.numEntries
  have size := shape.size
  have aligned := shape.aligned
  simp only [DrmMmNode.Covers, gttFirstIndex, PAGE_SIZE, gttStartAddr_toNat] at *
  omega

/-- Every entry index a live entry records lies inside the table and names a page of its
node. -/
theorem GttInv.covers (inv : GttInv pool s) {m : GttMapping}
    (mem : m ∈ s.maps) {index : U32} (recorded : index ∈ m.entry.pteIndices) :
    index < s.gtt.numEntries ∧ m.entry.node.Covers index.toNat := by
  rw [(inv.shape m mem).pteIndices] at recorded
  obtain ⟨i, page, rfl⟩ := List.mem_map.1 recorded
  obtain ⟨inside, covers⟩ := inv.page mem (List.mem_range.1 page)
  have exact : (BitVec.ofNat 32 (gttFirstIndex m.entry.node + i)).toNat =
      gttFirstIndex m.entry.node + i :=
    Nat.mod_eq_of_lt (by have := s.gtt.numEntries.isLt; omega)
  rw [BitVec.lt_def, exact]
  exact ⟨inside, covers⟩

/-- The pages of a node that fits in the range manager lie inside the table, and page `i`
has the entry index `gttFirstIndex node + i`, which the node covers. -/
theorem GttInv.fits_page (inv : GttInv pool s) {node : DrmMmNode}
    (fits : s.gtt.mm.Fits node PAGE_SIZE) {i : Nat} (page : (i + 1) * PAGE_SIZE ≤ node.size) :
    gttPageIndex s.gtt (BitVec.ofNat 64 node.start) i =
        BitVec.ofNat 32 (gttFirstIndex node + i) ∧
      gttFirstIndex node + i < s.gtt.numEntries.toNat ∧ node.Covers (gttFirstIndex node + i) := by
  obtain ⟨⟨low, high⟩, aligned, -⟩ := fits
  have aligned : node.start % PAGE_SIZE = 0 := aligned.resolve_left (by decide)
  rw [inv.mmStart] at low high
  rw [inv.mmSize] at high
  refine ⟨gttPageIndex_eq inv.base inv.pageSize low aligned, ?_⟩
  have entries := inv.numEntries
  simp only [DrmMmNode.Covers, gttFirstIndex, PAGE_SIZE, gttStartAddr_toNat] at *
  omega

/-- No live mapping names a page of a node that fits in the range manager. -/
theorem GttInv.livePage_of_fits (inv : GttInv pool s) {node : DrmMmNode}
    (fits : s.gtt.mm.Fits node PAGE_SIZE) {k : Nat} (covers : node.Covers k) :
    gttLivePage s.maps k = none :=
  gttLivePage_eq_none.2 fun _ mem _ recorded named =>
    (fits.2.2 _ (inv.nodes.mem_iff.2 (List.mem_map_of_mem _ mem))).not_covers covers
      (named ▸ (inv.covers mem (List.of_mem_zip recorded).1).2)

/-- The pages of a node of `n` pages that fits in the range manager: the map loop computes
the consecutive entry indices from the node's first, each inside the table and covered by
the node, and no two alike. -/
theorem GttInv.fits_pages (inv : GttInv pool s) {node : DrmMmNode}
    (fits : s.gtt.mm.Fits node PAGE_SIZE) {n : Nat} (size : node.size = n * PAGE_SIZE) :
    (List.range n).map (gttPageIndex s.gtt (BitVec.ofNat 64 node.start)) =
        (List.range n).map (fun i => BitVec.ofNat 32 (gttFirstIndex node + i)) ∧
      (∀ index ∈ (List.range n).map (fun i => BitVec.ofNat 32 (gttFirstIndex node + i)),
        index < s.gtt.numEntries ∧ node.Covers index.toNat) ∧
      ((List.range n).map fun i => BitVec.ofNat 32 (gttFirstIndex node + i)).Nodup := by
  have page : ∀ i ∈ List.range n, _ := fun i mem =>
    inv.fits_page fits (i := i) (by rw [size]; exact Nat.mul_le_mul_right _ (List.mem_range.1 mem))
  have bound := s.gtt.numEntries.isLt
  have toNat : ∀ i ∈ List.range n, (BitVec.ofNat 32 (gttFirstIndex node + i)).toNat =
      gttFirstIndex node + i := fun i mem => by
    rw [BitVec.toNat_ofNat]; exact Nat.mod_eq_of_lt (by have := (page i mem).2.1; omega)
  refine ⟨List.map_congr_left fun i mem => (page i mem).1, ?_, ?_⟩
  · simp only [List.mem_map]
    rintro _ ⟨i, mem, rfl⟩
    rw [BitVec.lt_def, toNat i mem]
    exact (page i mem).2
  · refine (List.nodup_range n).map_on fun i mi j mj same => ?_
    have := congrArg BitVec.toNat same
    rw [toNat i mi, toNat j mj] at this
    omega

/-- A state that a failed map left, with the same pool and live mappings, satisfies the
invariant. -/
theorem GttInv.of_restored (inv : GttInv pool s) {s' : GttSystem}
    (restored : GttRestored s s'.gtt s'.slab s'.dma) (coherent : s'.pool = s.pool)
    (maps : s'.maps = s.maps) : GttInv pool s' := by
  obtain ⟨gtt', slab', dma', pool', maps'⟩ := s'
  obtain ⟨⟨mm, rfl, start, size, nodes⟩, slab, live, bad⟩ := restored
  dsimp only at slab live bad coherent maps
  subst coherent maps
  exact
    { base := inv.base, pageSize := inv.pageSize, mmStart := start.trans inv.mmStart
      mmSize := size.trans inv.mmSize, numEntries := inv.numEntries
      nodes := nodes ▸ inv.nodes, shape := inv.shape, table := inv.table
      dma := live ▸ inv.dma, badUnmaps := bad.trans inv.badUnmaps, slab := slab.trans inv.slab
      counts := inv.counts, pageTable := inv.pageTable, badFrees := inv.badFrees }

end Inv

/-! ## Every run keeps the invariant -/

/-- A successful `fdca_gtt_manager_init` establishes the invariant. -/
theorem GttInv.init {pool : Slab} {place : Nat → Option Nat} {mmio : GttMmio}
    (slabOk : Nat → Bool) (mapPage : Nat → Nat → Option U64)
    (ok : (fdcaGttManagerInit place mmio pool).1 = 0) :
    GttInv pool ⟨(fdcaGttManagerInit place mmio pool).2.1, ⟨slabOk, 0, 0⟩,
      ⟨mapPage, 0, [], 0⟩, (fdcaGttManagerInit place mmio pool).2.2.2, []⟩ := by
  have cases := fdcaGttManagerInit_cases place mmio pool
  dsimp only at cases
  rcases cases with ⟨failed, -⟩ | ⟨-, addr, gtt, live, bad, -⟩
  · exact absurd (failed.symm.trans ok) (by decide)
  have aperture := fdcaGttGetApertureSize_toNat mmio
  rw [gtt]
  generalize fdcaGttGetApertureSize mmio = size at aperture live ⊢
  have high : FDCA_GTT_MAX_SIZE.toNat = 2 ^ 38 := rfl
  refine ⟨rfl, rfl, rfl, rfl, ?_, .nil, nofun, fun k => rfl, .nil, rfl, rfl, by simp,
    ⟨addr, rfl, live⟩, bad⟩
  simp only [BitVec.toNat_setWidth, BitVec.toNat_udiv, BitVec.toNat_ofNat, PAGE_SIZE,
    Nat.reducePow, Nat.reduceMod] at aperture high ⊢
  omega

/-- From a state satisfying the invariant, a `fdca_gtt_map_pages` that fails returns
`-ENOMEM` or `-ENOSPC` and restores what it touched, page table included; one that
succeeds reaches a state that satisfies the invariant with its entry live. -/
theorem GttInv.mapPages_outcome {pool : Slab} {s : GttSystem} (inv : GttInv pool s)
    (pages : Nat → Nat) (numPages : U32) (direction : DmaDataDirection) :
    let r := fdcaGttMapPages s.gtt s.slab s.dma pages numPages direction
    (∀ ret, r.1 = .error ret →
        (ret = -ENOMEM ∨ ret = -ENOSPC) ∧ GttRestored s r.2.1 r.2.2.1 r.2.2.2) ∧
      ∀ entry, r.1 = .ok entry →
        GttInv pool ⟨r.2.1, r.2.2.1, r.2.2.2, s.pool, ⟨entry, direction⟩ :: s.maps⟩ := by
  have cases := @fdcaGttMapPages_cases s.gtt s.slab s.dma pages numPages direction
  generalize fdcaGttMapPages s.gtt s.slab s.dma pages numPages direction = r at cases ⊢
  obtain ⟨result, gtt', slab', dma'⟩ := r
  dsimp only at cases ⊢
  obtain ⟨ret, rfl, codes, ⟨mm, gtt, start, size, nodes⟩, slab, rfl⟩ |
    ⟨node, mm, fits, nodeSize, start, size, nodes, loop⟩ := cases
  -- no node or no slab block: nothing to undo
  · refine ⟨fun _ failed => ?_, fun _ mapped => nomatch mapped⟩
    cases failed
    exact ⟨codes, ⟨mm, gtt, start, size, nodes⟩, slab, rfl, rfl⟩
  obtain ⟨same, inside, distinct⟩ := inv.fits_pages fits nodeSize
  let gtt1 : FdcaGttManager := { s.gtt with mm }
  let gpuAddr := BitVec.ofNat 64 node.start
  have frame := fdcaGttMapLoop_frame pages direction gpuAddr (List.range numPages.toNat) gtt1 s.dma
  have indices := fdcaGttMapLoop_indices pages direction gpuAddr (List.range numPages.toNat)
    gtt1 s.dma
  have table := fdcaGttMapLoop_pageTable pages direction gpuAddr (List.range numPages.toNat)
    gtt1 s.dma (fun i mem => (inside _ (same ▸ List.mem_map_of_mem _ mem)).1) (same ▸ distinct)
  have live := fdcaGttMapLoop_dma pages direction gpuAddr (List.range numPages.toNat) gtt1 s.dma
  generalize fdcaGttMapLoop pages direction gpuAddr (List.range numPages.toNat) gtt1 s.dma = L
    at frame indices table live loop
  obtain ⟨mapped, ⟨mm2, base2, size2, pageSize2, table2, addr2, entries2, maps2, unmaps2⟩,
    dma2, ok⟩ := L
  simp only [FdcaGttManager.mk.injEq, gtt1] at frame
  obtain ⟨rfl, rfl, rfl, rfl, -, rfl, rfl, rfl, rfl⟩ := frame
  dsimp only at indices table live loop
  have recorded : ∀ p ∈ mapped, p.1 < s.gtt.numEntries ∧ node.Covers p.1.toNat := fun p mem =>
    inside _ (same ▸ indices.1.subset (List.mem_map_of_mem _ mem))
  rcases loop with ⟨rfl, rfl, rfl, slab, rfl⟩ | ⟨rfl, rfl, rfl, slab, rfl⟩
  -- every page mapped: the entry goes live
  · refine ⟨fun _ failed => (nomatch failed), fun _ mapped => ?_⟩
    cases mapped
    have full : mapped.map Prod.fst =
        (List.range numPages.toNat).map fun i => BitVec.ofNat 32 (gttFirstIndex node + i) :=
      (indices.1.eq_of_length (by simpa using indices.2)).trans same
    have length : mapped.length = numPages.toNat := by simpa using indices.2
    refine ⟨inv.base, inv.pageSize, start.trans inv.mmStart, size.trans inv.mmSize,
      inv.numEntries, by rw [nodes]; exact inv.nodes.cons node, ?_, ?_, ?_,
      live.2.trans inv.badUnmaps, by simp [slab, inv.slab]; omega, counterGap_succ inv.counts,
      inv.pageTable, inv.badFrees⟩
    · exact List.forall_mem_cons.2 ⟨⟨nodeSize, fits.2.1.resolve_left (by decide),
        by simpa using length, full⟩, inv.shape⟩
    · intro k
      dsimp only
      rw [gttLivePte_cons, ← List.zip_of_prod rfl rfl, table k, inv.table k]
    · dsimp only
      rw [live.1, List.flatMap_cons]
      exact (List.reverse_perm _).append inv.dma
  -- a page failed: `fdca_gtt_unwind` clears the entries written, and the node goes back
  · refine ⟨fun _ failed => ?_, fun _ mapped => nomatch mapped⟩
    cases failed
    refine ⟨.inl rfl, ⟨drmMmRemoveNode mm2 node, ?_, start, size,
      by simp [drmMmRemoveNode, nodes]⟩, slab, (fdcaGttUnwind_dma live.1).1,
      (fdcaGttUnwind_dma live.1).2.trans live.2⟩
    rw [fdcaGttUnwind_gtt]
    dsimp only
    congr 1
    funext k
    split
    · next hit =>
      obtain ⟨p, mem, named, -⟩ := hit
      rw [inv.table, gttLivePte, inv.livePage_of_fits fits (named ▸ (recorded p mem).2)]
      rfl
    · next miss =>
      have none : mapped.find? (·.1.toNat = k) = none :=
        List.find?_eq_none.2 fun p mem named =>
          miss ⟨p, mem, of_decide_eq_true named, (recorded p mem).1⟩
      rw [table k, none]
      rfl

/-- `fdca_gtt_map_pages` keeps the invariant, whatever it returns. -/
theorem GttInv.mapPages {pool : Slab} {s : GttSystem} (inv : GttInv pool s)
    (pages : Nat → Nat) (numPages : U32) (direction : DmaDataDirection) :
    GttInv pool (s.mapPages pages numPages direction) := by
  obtain ⟨failed, mapped⟩ := inv.mapPages_outcome pages numPages direction
  unfold GttSystem.mapPages
  generalize fdcaGttMapPages s.gtt s.slab s.dma pages numPages direction = r at failed mapped ⊢
  obtain ⟨result, gtt', slab', dma'⟩ := r
  cases result with
  | error ret => exact inv.of_restored (failed ret rfl).2 rfl rfl
  | ok entry => exact mapped entry rfl

/-- `fdca_gtt_unmap_pages` of a live entry keeps the invariant. -/
theorem GttInv.unmapPages {pool : Slab} {s : GttSystem} (inv : GttInv pool s)
    {entry : FdcaGttEntry} {direction : DmaDataDirection} (mem : ⟨entry, direction⟩ ∈ s.maps) :
    GttInv pool (s.unmapPages entry direction) := by
  obtain ⟨gtt, slab, loop⟩ := fdcaGttUnmapPages_eq s.gtt s.slab s.dma entry
  unfold GttSystem.unmapPages
  generalize fdcaGttUnmapPages s.gtt s.slab s.dma entry = r at gtt slab loop ⊢
  obtain ⟨gtt', slab', dma'⟩ := r
  dsimp only at gtt slab loop ⊢
  subst gtt loop
  have shape : GttEntryShape entry := inv.shape _ mem
  have perm := List.perm_cons_erase mem
  have apart : ∀ m ∈ s.maps.erase ⟨entry, direction⟩, entry.node.Apart m.entry.node :=
    (List.pairwise_cons.1 ((perm.pairwise_iff DrmMmNode.Apart.symm).1 inv.apart)).1
  have pairs : (entry.pteIndices.zip entry.dmaAddrs).map Prod.snd = entry.dmaAddrs :=
    List.map_snd_zip _ _ (by simp [shape.pteIndices, shape.dmaAddrs])
  have live := @fdcaGttUnmapLoop_dma s.gtt s.dma (entry.pteIndices.zip entry.dmaAddrs)
    ((s.maps.erase ⟨entry, direction⟩).flatMap (·.entry.dmaAddrs))
    (by rw [pairs]; simpa using inv.dma.trans (perm.flatMap_right _))
  have recorded : ∀ p ∈ entry.pteIndices.zip entry.dmaAddrs,
      p.1 < s.gtt.numEntries ∧ entry.node.Covers p.1.toNat :=
    fun p mem' => inv.covers mem (List.of_mem_zip mem').1
  have length := List.length_erase_of_mem mem
  have pos := List.length_pos_of_mem mem
  refine ⟨inv.base, inv.pageSize, inv.mmStart, inv.mmSize, inv.numEntries,
    (inv.nodes.erase _).trans (by simpa using (perm.map (·.entry.node)).erase entry.node),
    fun m mem' => inv.shape m (List.erase_subset _ _ mem'), ?_, live.1,
    live.2.trans inv.badUnmaps, ?_, ?_, inv.pageTable, inv.badFrees⟩
  · intro k
    dsimp only
    split
    · next hit =>
      obtain ⟨p, mem', named, -⟩ := hit
      rw [gttLivePte, gttLivePage_eq_none.2 fun m mem'' q recorded' same =>
        (apart m mem'').not_covers (named ▸ (recorded p mem').2)
          (same ▸ (inv.covers (List.erase_subset _ _ mem'')
            (List.of_mem_zip recorded').1).2)]
      rfl
    · next miss =>
      rw [inv.table, gttLivePte, gttLivePte, gttLivePage_erase fun p mem' named =>
        miss ⟨p, mem', named, (recorded p mem').1⟩]
  · simp only [slab, inv.slab, length]
    omega
  · simp only [length]
    exact counterGap_pred inv.counts pos

/-- Every reachable state satisfies the invariant. -/
theorem GttInv.of_reachable {pool : Slab} {s : GttSystem} (reach : GttReachable pool s) :
    GttInv pool s := by
  induction reach with
  | init place mmio slabOk mapPage ok => exact GttInv.init slabOk mapPage ok
  | map pages numPages direction _ inv => exact inv.mapPages pages numPages direction
  | unmap _ mem inv => exact inv.unmapPages mem

/-! ## A sample run -/

/-- A coherent pool whose allocations all succeed. -/
def sampleGttPool : Slab := Slab.init fun _ => true

/-- A hole search that puts the `n`-th node `n` MiB into the aperture. -/
def sampleGttPlace (n : Nat) : Option Nat := some (0x100000000 + n * 0x100000)

/-- A DMA mapper that maps page `p` at bus address `p * PAGE_SIZE` and fails its third
mapping. -/
def sampleGttMapPage (call page : Nat) : Option U64 :=
  if call = 2 then none else some (BitVec.ofNat 64 (page * PAGE_SIZE))

/-- The state after `fdca_gtt_manager_init` reads an aperture register of 0, which gives the
4 GiB minimum, with slab allocations that all succeed. -/
def sampleGttInit : GttSystem :=
  ⟨(fdcaGttManagerInit sampleGttPlace ⟨0, 0, 0⟩ sampleGttPool).2.1, ⟨fun _ => true, 0, 0⟩,
    ⟨sampleGttMapPage, 0, [], 0⟩,
    (fdcaGttManagerInit sampleGttPlace ⟨0, 0, 0⟩ sampleGttPool).2.2.2, []⟩

theorem sampleGttInit_reachable : GttReachable sampleGttPool sampleGttInit :=
  .init sampleGttPlace ⟨0, 0, 0⟩ (fun _ => true) sampleGttMapPage (by decide)

/-! ## What every run guarantees -/

section Runs

variable {pool : Slab} {s : GttSystem}

/-- In every reachable state, each entry of the page table decodes to what the device should
reach through that page: the page frame of the live mapping there, with the permissions its
direction grants, or nothing. -/
theorem gttTranslate_of_reachable (reach : GttReachable pool s) (k : Nat) :
    gttPteDecode (s.gtt.pageTable k) = s.translate k := by
  rw [(GttInv.of_reachable reach).table, gttLivePte, GttSystem.translate]
  cases gttLivePage s.maps k with
  | none => exact gttPteDecode_zero
  | some m => exact gttPteDecode_value m.1 m.2

/-- A page mapped `DMA_BIDIRECTIONAL`, the direction of the driver's only unmap call, gets a
valid entry that lets the device neither read nor write it. -/
theorem gttTranslate_bidirectional :
    GttReachable sampleGttPool (sampleGttInit.mapPages (· + 5) 1 .bidirectional) ∧
      gttPteDecode ((sampleGttInit.mapPages (· + 5) 1 .bidirectional).gtt.pageTable 0) =
        some (0x5000, false, false) :=
  have reach := sampleGttInit_reachable.map (· + 5) 1 .bidirectional
  ⟨reach, (gttTranslate_of_reachable reach 0).trans (by decide)⟩

/-- In every reachable state, the entry indices of the live mappings lie inside the table,
and no index belongs to two pages. -/
theorem gttPteIndices_disjoint (reach : GttReachable pool s) :
    (s.maps.flatMap (·.entry.pteIndices)).Nodup ∧
      ∀ m ∈ s.maps, ∀ index ∈ m.entry.pteIndices, index < s.gtt.numEntries := by
  have inv := GttInv.of_reachable reach
  refine ⟨List.nodup_flatMap.2 ⟨fun m mem => ?_, ?_⟩,
    fun m mem index recorded => (inv.covers mem recorded).1⟩
  · rw [(inv.shape m mem).pteIndices]
    refine (List.nodup_range _).map_on fun i mi j mj same => ?_
    have bound := s.gtt.numEntries.isLt
    have := congrArg BitVec.toNat same
    rw [BitVec.toNat_ofNat, BitVec.toNat_ofNat,
      Nat.mod_eq_of_lt (by have := (inv.page mem (List.mem_range.1 mi)).1; omega),
      Nat.mod_eq_of_lt (by have := (inv.page mem (List.mem_range.1 mj)).1; omega)] at this
    omega
  · refine inv.apart.imp_of_mem fun {m m'} mem mem' apart index recorded recorded' => ?_
    exact apart.not_covers (inv.covers mem recorded).2 (inv.covers mem' recorded').2

/-- Two one-page mappings in a row get different entries. -/
theorem gttPteIndices_disjoint_two :
    GttReachable sampleGttPool
        ((sampleGttInit.mapPages (· + 5) 1 .toDevice).mapPages (· + 9) 1 .fromDevice) ∧
      ((sampleGttInit.mapPages (· + 5) 1 .toDevice).mapPages (· + 9) 1 .fromDevice).maps.flatMap
        (·.entry.pteIndices) = [256, 0] :=
  have reach := (sampleGttInit_reachable.map (· + 5) 1 .toDevice).map (· + 9) 1 .fromDevice
  ⟨reach, by have := (gttPteIndices_disjoint reach).1; decide⟩

/-- From every reachable state, a `fdca_gtt_map_pages` that fails returns `-ENOMEM` or
`-ENOSPC` and leaves the page table, the range manager's nodes, the statistics, the live
slab blocks and the DMA mappings as they were. -/
theorem fdcaGttMapPages_error_restores (reach : GttReachable pool s) (pages : Nat → Nat)
    (numPages : U32) (direction : DmaDataDirection) {ret : Int}
    (fails : (fdcaGttMapPages s.gtt s.slab s.dma pages numPages direction).1 = .error ret) :
    let r := fdcaGttMapPages s.gtt s.slab s.dma pages numPages direction
    (ret = -ENOMEM ∨ ret = -ENOSPC) ∧ r.2.1.pageTable = s.gtt.pageTable ∧
      r.2.1.mm.nodes = s.gtt.mm.nodes ∧ r.2.1.mapCount = s.gtt.mapCount ∧
      r.2.1.unmapCount = s.gtt.unmapCount ∧ r.2.2.1.live = s.slab.live ∧
      r.2.2.2.live = s.dma.live ∧ r.2.2.2.badUnmaps = s.dma.badUnmaps := by
  obtain ⟨codes, ⟨mm, gtt, -, -, nodes⟩, slab, live, bad⟩ :=
    ((GttInv.of_reachable reach).mapPages_outcome pages numPages direction).1 ret fails
  dsimp only
  rw [gtt]
  exact ⟨codes, rfl, nodes, rfl, rfl, slab, live, bad⟩

/-- A three-page map whose third DMA mapping fails unwinds the first two and leaves the
page table as it was. -/
theorem fdcaGttMapPages_error_restores_unwind :
    (fdcaGttMapPages sampleGttInit.gtt sampleGttInit.slab sampleGttInit.dma (· + 5) 3
        .toDevice).1 = .error (-ENOMEM) ∧
      (fdcaGttMapPages sampleGttInit.gtt sampleGttInit.slab sampleGttInit.dma (· + 5) 3
        .toDevice).2.1.pageTable = sampleGttInit.gtt.pageTable :=
  have fails : (fdcaGttMapPages sampleGttInit.gtt sampleGttInit.slab sampleGttInit.dma (· + 5) 3
      .toDevice).1 = .error (-ENOMEM) := rfl
  ⟨fails, (fdcaGttMapPages_error_restores sampleGttInit_reachable _ _ _ fails).2.1⟩

/-- From every reachable state, unmapping the entry a successful `fdca_gtt_map_pages`
returned gives back the page table, the range manager's nodes, the live slab blocks and
the DMA mappings, and the statistics count one map and one unmap more. -/
theorem fdcaGttUnmapPages_after_map (reach : GttReachable pool s) (pages : Nat → Nat)
    (numPages : U32) (direction : DmaDataDirection) {entry : FdcaGttEntry}
    (maps : (fdcaGttMapPages s.gtt s.slab s.dma pages numPages direction).1 = .ok entry) :
    let r := fdcaGttMapPages s.gtt s.slab s.dma pages numPages direction
    let u := fdcaGttUnmapPages r.2.1 r.2.2.1 r.2.2.2 entry
    u.1.pageTable = s.gtt.pageTable ∧ u.1.mm.nodes.Perm s.gtt.mm.nodes ∧
      u.2.1.live = s.slab.live ∧ u.2.2.live.Perm s.dma.live ∧
      u.2.2.badUnmaps = s.dma.badUnmaps ∧
      u.1.mapCount - u.1.unmapCount = s.gtt.mapCount - s.gtt.unmapCount := by
  have inv := GttInv.of_reachable reach
  have live : ⟨entry, direction⟩ ∈ (s.mapPages pages numPages direction).maps := by
    simp [GttSystem.mapPages, maps]
  have inv' := GttInv.of_reachable ((reach.map pages numPages direction).unmap live)
  have erased : ((s.mapPages pages numPages direction).unmapPages entry direction).maps =
      s.maps := by
    simp [GttSystem.unmapPages, GttSystem.mapPages, maps]
  have table := inv'.table
  have nodes := inv'.nodes
  have slab := inv'.slab
  have dma := inv'.dma
  have counts := inv'.counts
  rw [erased] at table nodes slab dma counts
  exact ⟨funext fun k => (table k).trans (inv.table k).symm, nodes.trans inv.nodes.symm,
    slab.trans inv.slab.symm, dma.trans inv.dma.symm, inv'.badUnmaps.trans inv.badUnmaps.symm,
    counts.trans inv.counts.symm⟩

/-- Mapping two pages and unmapping them gives back the page table. -/
theorem fdcaGttUnmapPages_after_map_two :
    (fdcaGttMapPages sampleGttInit.gtt sampleGttInit.slab sampleGttInit.dma (· + 5) 2
        .fromDevice).1 =
      .ok ⟨⟨0x100000000, 0x2000⟩, 0x100000000, [0x5000, 0x6000], 2, [0, 1]⟩ ∧
    (fdcaGttUnmapPages
        (fdcaGttMapPages sampleGttInit.gtt sampleGttInit.slab sampleGttInit.dma (· + 5) 2
          .fromDevice).2.1
        (fdcaGttMapPages sampleGttInit.gtt sampleGttInit.slab sampleGttInit.dma (· + 5) 2
          .fromDevice).2.2.1
        (fdcaGttMapPages sampleGttInit.gtt sampleGttInit.slab sampleGttInit.dma (· + 5) 2
          .fromDevice).2.2.2
        ⟨⟨0x100000000, 0x2000⟩, 0x100000000, [0x5000, 0x6000], 2, [0, 1]⟩).1.pageTable =
      sampleGttInit.gtt.pageTable :=
  have maps : (fdcaGttMapPages sampleGttInit.gtt sampleGttInit.slab sampleGttInit.dma (· + 5) 2
      .fromDevice).1 = .ok ⟨⟨0x100000000, 0x2000⟩, 0x100000000, [0x5000, 0x6000], 2, [0, 1]⟩ :=
    rfl
  ⟨maps, (fdcaGttUnmapPages_after_map sampleGttInit_reachable _ _ _ maps).1⟩

/-- In every reachable state, `fdca_gtt_manager_fini` gives the page table back to the
coherent pool, whose blocks and bad-free count are then what they were before
`fdca_gtt_manager_init`; and once every mapping is unmapped, no slab block, DMA mapping or
range-manager node is left. -/
theorem fdcaGttManagerFini_releases (reach : GttReachable pool s) :
    (fdcaGttManagerFini s.gtt s.pool).1.pageTableAddr = none ∧
      (fdcaGttManagerFini s.gtt s.pool).2.live = pool.live ∧
      (fdcaGttManagerFini s.gtt s.pool).2.badFrees = pool.badFrees ∧
      (s.maps = [] → s.slab.live = 0 ∧ s.dma.live = [] ∧ s.gtt.mm.nodes = []) := by
  have inv := GttInv.of_reachable reach
  obtain ⟨addr, table, live⟩ := inv.pageTable
  obtain ⟨none, released, bad⟩ := fdcaGttManagerFini_of_head s.pool table live
  refine ⟨none, released, bad.trans inv.badFrees, fun empty => ?_⟩
  have slab := inv.slab
  have dma := inv.dma
  have nodes := inv.nodes
  simp only [empty, List.length_nil, List.flatMap_nil, List.map_nil, List.perm_nil] at slab dma nodes
  exact ⟨slab, dma, nodes⟩

/-- Finishing the manager right after a successful init returns the pool's blocks. -/
theorem fdcaGttManagerFini_releases_init :
    (fdcaGttManagerFini sampleGttInit.gtt sampleGttInit.pool).2.live = sampleGttPool.live :=
  (fdcaGttManagerFini_releases sampleGttInit_reachable).2.1

/-- In every reachable state the statistics count the live mappings: `map_count` minus
`unmap_count` is their number, modulo `2 ^ 64`. -/
theorem gttMapCount_of_reachable (reach : GttReachable pool s) :
    s.gtt.mapCount - s.gtt.unmapCount = BitVec.ofNat 64 s.maps.length :=
  (GttInv.of_reachable reach).counts

/-- One map and no unmap leave the count at one. -/
theorem gttMapCount_one :
    (sampleGttInit.mapPages (· + 5) 1 .toDevice).gtt.mapCount -
        (sampleGttInit.mapPages (· + 5) 1 .toDevice).gtt.unmapCount = 1 :=
  (gttMapCount_of_reachable (sampleGttInit_reachable.map (· + 5) 1 .toDevice)).trans
    (by decide)

/-- In every reachable state `fdca_gtt_get_stats` reports as used exactly the bytes of the
live mappings, one page per mapped page, and its used and available bytes add up to the
aperture size it reports. -/
theorem fdcaGttGetStats_of_reachable (reach : GttReachable pool s) :
    (fdcaGttGetStats s.gtt).usedSize.toNat =
        (s.maps.map fun m => m.entry.numPages.toNat * PAGE_SIZE).sum ∧
      (fdcaGttGetStats s.gtt).usedSize + (fdcaGttGetStats s.gtt).availableSize =
        (fdcaGttGetStats s.gtt).totalSize := by
  have inv := GttInv.of_reachable reach
  have total : drmMmNodesSize s.gtt.mm.nodes =
      (s.maps.map fun m => m.entry.numPages.toNat * PAGE_SIZE).sum := by
    rw [drmMmNodesSize, (inv.nodes.map _).sum_eq, List.map_map]
    congr 1
    exact List.map_congr_left fun m mem => (inv.shape m mem).size
  have bound := drmMmNodesSize_le s.gtt.mm.inside s.gtt.mm.apart
  have size := s.gtt.size.isLt
  rw [inv.mmSize] at bound
  refine ⟨?_, ?_⟩
  · simp only [fdcaGttGetStats, drmMmTotalSize, drmMmAvailSize, BitVec.toNat_sub,
      BitVec.toNat_ofNat, inv.mmSize, ← total]
    omega
  · simp only [fdcaGttGetStats, BitVec.sub_add_cancel, drmMmTotalSize, inv.mmSize,
      BitVec.ofNat_toNat, BitVec.setWidth_eq]

/-- Two one-page mappings take two pages of the aperture. -/
theorem fdcaGttGetStats_two :
    GttReachable sampleGttPool
        ((sampleGttInit.mapPages (· + 5) 1 .toDevice).mapPages (· + 9) 1 .fromDevice) ∧
      (fdcaGttGetStats
        ((sampleGttInit.mapPages (· + 5) 1 .toDevice).mapPages (· + 9) 1 .fromDevice).gtt).usedSize =
        0x2000 :=
  have reach := (sampleGttInit_reachable.map (· + 5) 1 .toDevice).map (· + 9) 1 .fromDevice
  ⟨reach, BitVec.eq_of_toNat_eq ((fdcaGttGetStats_of_reachable reach).1.trans (by decide))⟩

end Runs

end FdcaRvv
