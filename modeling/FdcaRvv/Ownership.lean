import FdcaRvv.Context

/-!
# Ownership of the context allocations

Every context that `fdca_rvv_context_create` returns owns three slab blocks: the context
itself and the two register-file buffers that `fdca_rvv_regs_alloc` allocates for it.
This module runs any number of contexts side by side against one allocator
(`RvvSystem`), with every outcome of every allocation, and shows that the slab's live
blocks are always exactly the blocks of the live contexts (`OwnershipInv`):

* a failed create, whichever allocation failed, leaves the live blocks as they were;
* a destroy releases exactly the three blocks of its own context, and nothing else;
* no free is ever of an address that is not live, so nothing is freed twice;
* the live register buffers are exactly twice as many as the live contexts.

A context is destroyed at most once: `RvvStep.destroy` takes it out of the table.
-/

namespace FdcaRvv

/-! ## Owned blocks -/

/-- The register-file buffers a register state points to, the mask buffer first (it is
allocated last and freed first). -/
def regBlocks (regs : RvvRegisterState) : List Block :=
  regs.vmaskData.toList.map (⟨·, .vmask⟩) ++ regs.vregsData.toList.map (⟨·, .vregs⟩)

/-- The blocks a live context owns: its register-file buffers and the context itself. -/
def ownedBlocks (entry : Nat × RvvContext) : List Block :=
  regBlocks entry.2.regs ++ [⟨entry.1, .rvvContext⟩]

/-- A register file its context owns outright: allocated, with its one reference, and
with both buffers present. -/
structure RegsOwned (regs : RvvRegisterState) : Prop where
  allocated : regs.allocated = true
  refCount : regs.refCount = 1
  vregs : regs.vregsData.isSome
  vmask : regs.vmaskData.isSome

/-! ## Allocation and release of a register file and a context -/

/-- `fdca_rvv_regs_alloc` adds the two buffers it returns to the live blocks when it
succeeds, and leaves the live blocks as they were when either allocation fails. -/
theorem fdcaRvvRegsAlloc_live {regState regs : RvvRegisterState} {config : RvvConfig}
    {heap heap' : Slab} {ret : Int} (h : fdcaRvvRegsAlloc regState config heap = (regs, heap', ret)) :
    heap'.badFrees = heap.badFrees ∧
      heap'.live.Perm ((if ret = 0 then regBlocks regs else []) ++ heap.live) := by
  simp only [fdcaRvvRegsAlloc, kzalloc_eq] at h
  split at h
  next heap₁ vregs =>
    obtain ⟨bad, live⟩ := kmalloc_live vregs
    cases h
    simp [bad, live, ENOMEM]
  next v heap₁ vregs =>
    obtain ⟨bad₁, live₁⟩ := kmalloc_live vregs
    split at h
    next heap₂ vmask =>
      obtain ⟨bad₂, live₂⟩ := kmalloc_live vmask
      cases h
      obtain ⟨freed, bad⟩ := @kfree_of_perm .vregs heap₂ (some v) [] heap.live
        (by simp [live₂, live₁])
      exact ⟨bad.trans (bad₂.trans bad₁), by simpa [ENOMEM] using freed⟩
    next m heap₂ vmask =>
      obtain ⟨bad₂, live₂⟩ := kmalloc_live vmask
      cases h
      simp [bad₁, bad₂, live₁, live₂, regBlocks]

/-- `fdca_rvv_context_create` adds the blocks of the context it returns to the live blocks,
and on any failure leaves the live blocks as they were. -/
theorem fdcaRvvContextCreate_live {fdev : FdcaDevice} {current : Task} {bootSeconds : U64}
    {heap heap' : Slab} {res : Except Int (Nat × RvvContext)}
    (h : fdcaRvvContextCreate fdev current bootSeconds heap = (res, heap')) :
    heap'.badFrees = heap.badFrees ∧
      heap'.live.Perm ((match res with
        | .ok entry => ownedBlocks entry
        | .error _ => []) ++ heap.live) := by
  simp only [fdcaRvvContextCreate, kzalloc_eq] at h
  split at h
  · cases h
    exact ⟨rfl, .refl _⟩
  split at h
  next heap₁ context =>
    obtain ⟨bad, live⟩ := kmalloc_live context
    cases h
    simp [bad, live]
  next ctxPtr heap₁ context =>
    obtain ⟨bad₁, live₁⟩ := kmalloc_live context
    generalize alloc : fdcaRvvRegsAlloc _ fdev.rvvConfig heap₁ = result at h
    obtain ⟨regs, heap₂, ret⟩ := result
    obtain ⟨bad₂, live₂⟩ := fdcaRvvRegsAlloc_live alloc
    dsimp only at h
    by_cases ok : ret = 0
    · rw [if_neg (not_not.2 ok)] at h
      rw [if_pos ok] at live₂
      cases h
      exact ⟨bad₂.trans bad₁, by simpa [ownedBlocks, live₁] using live₂⟩
    · rw [if_pos ok] at h
      rw [if_neg ok] at live₂
      cases h
      obtain ⟨freed, bad⟩ := @kfree_of_perm .rvvContext heap₂ (some ctxPtr) [] heap.live
        (by simpa [live₁] using live₂)
      exact ⟨bad.trans (bad₂.trans bad₁), by simpa using freed⟩

/-- `fdca_rvv_context_destroy` of a context whose register file it owns releases exactly the
context's blocks, wherever they sit among the live blocks. -/
theorem fdcaRvvContextDestroy_live {ctxPtr : Nat} {ctx : RvvContext} {heap : Slab}
    {front back : List Block} (owned : RegsOwned ctx.regs)
    (perm : heap.live.Perm (front ++ ownedBlocks (ctxPtr, ctx) ++ back)) :
    (fdcaRvvContextDestroy ctxPtr ctx heap).live.Perm (front ++ back) ∧
      (fdcaRvvContextDestroy ctxPtr ctx heap).badFrees = heap.badFrees := by
  have regsFree : fdcaRvvRegsFree ctx.regs heap =
      ({}, kfree ctx.regs.vregsData (kfree ctx.regs.vmaskData heap)) := by
    simp [fdcaRvvRegsFree, owned.allocated, owned.refCount]
  unfold fdcaRvvContextDestroy
  rw [regsFree]
  obtain ⟨vmask, bad₁⟩ := @kfree_of_perm .vmask heap ctx.regs.vmaskData front
    (ctx.regs.vregsData.toList.map (⟨·, .vregs⟩) ++ [⟨ctxPtr, .rvvContext⟩] ++ back)
    (by simpa [ownedBlocks, regBlocks] using perm)
  obtain ⟨vregs, bad₂⟩ := @kfree_of_perm .vregs _ ctx.regs.vregsData front
    ([⟨ctxPtr, .rvvContext⟩] ++ back) (by simpa using vmask)
  obtain ⟨context, bad₃⟩ := @kfree_of_perm .rvvContext _ (some ctxPtr) front back
    (by simpa using vregs)
  exact ⟨context, bad₃.trans (bad₂.trans bad₁)⟩

/-- A save of a context whose register file is allocated keeps the register state, or
marks it saved when the manager has a capability. -/
theorem fdcaRvvContextSave_regs {ctx : RvvContext} (allocated : ctx.regs.allocated = true)
    (gRvvManager : Option RvvStateManager) (clock : Clock) :
    (fdcaRvvContextSave gRvvManager clock ctx).1.regs =
      match hwConfigOf gRvvManager with
      | none => ctx.regs
      | some _ => { ctx.regs with saved := true, saveTime := clock.bootSeconds } :=
  congrArg (·.1.regs) (fdcaRvvContextSave_of_allocated allocated gRvvManager clock)

/-- A save keeps the register file owned and its buffers where they were. -/
theorem RegsOwned.save {ctx : RvvContext} (owned : RegsOwned ctx.regs)
    (gRvvManager : Option RvvStateManager) (clock : Clock) :
    RegsOwned (fdcaRvvContextSave gRvvManager clock ctx).1.regs ∧
      regBlocks (fdcaRvvContextSave gRvvManager clock ctx).1.regs = regBlocks ctx.regs := by
  rw [fdcaRvvContextSave_regs owned.allocated]
  cases hwConfigOf gRvvManager
  · exact ⟨owned, rfl⟩
  · exact ⟨⟨owned.allocated, owned.refCount, owned.vregs, owned.vmask⟩, rfl⟩

/-- A restore, successful or not, leaves the register file as it was. -/
theorem fdcaRvvContextRestore_regs (gRvvManager : Option RvvStateManager) (clock : Clock)
    (hw : HwVectorState) (ctx : RvvContext) :
    (fdcaRvvContextRestore gRvvManager clock hw ctx).2.1.regs = ctx.regs := by
  rw [fdcaRvvContextRestore_eq]
  split_ifs <;> rfl

/-! ## Many contexts against one allocator -/

/-- The allocator and the table of live contexts, each at its address. -/
structure RvvSystem where
  heap : Slab
  contexts : List (Nat × RvvContext)

/-- No context yet, and an allocator whose attempts succeed as `succeeds` says. -/
def RvvSystem.init (succeeds : Nat → Bool) : RvvSystem := ⟨Slab.init succeeds, []⟩

/-- The system after a create: the context joins the table when the create succeeds. -/
def RvvSystem.created (s : RvvSystem) (res : Except Int (Nat × RvvContext) × Slab) :
    RvvSystem :=
  ⟨res.2, match res.1 with
    | .ok entry => entry :: s.contexts
    | .error _ => s.contexts⟩

/-- One call of the context API. Save, restore and destroy act on a live context;
destroy takes it out of the table, so no context is destroyed twice. -/
inductive RvvStep : RvvSystem → RvvSystem → Prop
  | create {s : RvvSystem} (fdev : FdcaDevice) (current : Task) (bootSeconds : U64) :
      RvvStep s (s.created (fdcaRvvContextCreate fdev current bootSeconds s.heap))
  | save {heap : Slab} {front back : List (Nat × RvvContext)} {ctxPtr : Nat} {ctx : RvvContext}
      (gRvvManager : Option RvvStateManager) (clock : Clock) :
      RvvStep ⟨heap, front ++ (ctxPtr, ctx) :: back⟩
        ⟨heap, front ++ (ctxPtr, (fdcaRvvContextSave gRvvManager clock ctx).1) :: back⟩
  | restore {heap : Slab} {front back : List (Nat × RvvContext)} {ctxPtr : Nat}
      {ctx : RvvContext} (gRvvManager : Option RvvStateManager) (clock : Clock)
      (hw : HwVectorState) :
      RvvStep ⟨heap, front ++ (ctxPtr, ctx) :: back⟩
        ⟨heap, front ++ (ctxPtr, (fdcaRvvContextRestore gRvvManager clock hw ctx).2.1) :: back⟩
  | destroy {heap : Slab} {front back : List (Nat × RvvContext)} {ctxPtr : Nat}
      {ctx : RvvContext} :
      RvvStep ⟨heap, front ++ (ctxPtr, ctx) :: back⟩
        ⟨fdcaRvvContextDestroy ctxPtr ctx heap, front ++ back⟩

/-- The ownership invariant: no bad free has happened, the live blocks are exactly the
blocks of the live contexts, and every live context owns its register file. -/
structure OwnershipInv (s : RvvSystem) : Prop where
  noBadFree : s.heap.badFrees = 0
  live : s.heap.live.Perm (s.contexts.flatMap ownedBlocks)
  owned : ∀ entry ∈ s.contexts, RegsOwned entry.2.regs

section Ownership

variable {s s' : RvvSystem}

theorem OwnershipInv.init (succeeds : Nat → Bool) : OwnershipInv (.init succeeds) where
  noBadFree := rfl
  live := .refl _
  owned _ mem := nomatch mem

/-- Replacing one context of the table by another that owns the same blocks keeps the
invariant. -/
theorem OwnershipInv.replace {heap : Slab} {front back : List (Nat × RvvContext)} {ctxPtr : Nat}
    {ctx ctx' : RvvContext} (inv : OwnershipInv ⟨heap, front ++ (ctxPtr, ctx) :: back⟩)
    (owned : RegsOwned ctx'.regs) (blocks : regBlocks ctx'.regs = regBlocks ctx.regs) :
    OwnershipInv ⟨heap, front ++ (ctxPtr, ctx') :: back⟩ := by
  have sameBlocks : ownedBlocks (ctxPtr, ctx') = ownedBlocks (ctxPtr, ctx) := by
    rw [ownedBlocks, ownedBlocks, blocks]
  refine ⟨inv.noBadFree, ?_, ?_⟩
  · have live := inv.live
    rw [List.flatMap_append, List.flatMap_cons] at live ⊢
    rwa [sameBlocks]
  · simp only [List.mem_append, List.mem_cons]
    rintro entry (mem | rfl | mem)
    · exact inv.owned entry (by simp [mem])
    · exact owned
    · exact inv.owned entry (by simp [mem])

/-- A create keeps the invariant, whether it succeeds or fails. -/
theorem OwnershipInv.create (inv : OwnershipInv s) (fdev : FdcaDevice) (current : Task)
    (bootSeconds : U64) :
    OwnershipInv (s.created (fdcaRvvContextCreate fdev current bootSeconds s.heap)) := by
  rcases created : fdcaRvvContextCreate fdev current bootSeconds s.heap with ⟨res, heap⟩
  obtain ⟨bad, live⟩ := fdcaRvvContextCreate_live created
  refine ⟨bad.trans inv.noBadFree, ?_, ?_⟩
  · cases res with
    | error => exact live.trans inv.live
    | ok entry => exact live.trans (inv.live.append_left _)
  · cases res with
    | error => exact inv.owned
    | ok entry =>
      obtain ⟨ctxPtr, ctx⟩ := entry
      obtain ⟨-, -, -, allocated, refCount, vregs, vmask, -⟩ := fdcaRvvContextCreate_ok created
      simp only [RvvSystem.created, List.mem_cons]
      rintro entry (rfl | mem)
      · exact ⟨allocated, refCount, vregs, vmask⟩
      · exact inv.owned entry mem

/-- A destroy keeps the invariant: it releases exactly the blocks of the context it takes
out of the table. -/
theorem OwnershipInv.destroy {heap : Slab} {front back : List (Nat × RvvContext)} {ctxPtr : Nat}
    {ctx : RvvContext} (inv : OwnershipInv ⟨heap, front ++ (ctxPtr, ctx) :: back⟩) :
    OwnershipInv ⟨fdcaRvvContextDestroy ctxPtr ctx heap, front ++ back⟩ := by
  have perm : heap.live.Perm
      (front.flatMap ownedBlocks ++ ownedBlocks (ctxPtr, ctx) ++ back.flatMap ownedBlocks) := by
    simpa using inv.live
  obtain ⟨live, bad⟩ := fdcaRvvContextDestroy_live (inv.owned (ctxPtr, ctx) (by simp)) perm
  refine ⟨bad.trans inv.noBadFree, by simpa using live, fun entry mem => inv.owned entry ?_⟩
  simp only [List.mem_append, List.mem_cons] at mem ⊢
  tauto

/-- Every call of the context API keeps the invariant. -/
theorem OwnershipInv.step (inv : OwnershipInv s) (step : RvvStep s s') : OwnershipInv s' := by
  cases step with
  | create fdev current bootSeconds => exact inv.create fdev current bootSeconds
  | @save _ _ _ ctxPtr ctx gRvvManager clock =>
    obtain ⟨owned, blocks⟩ := (inv.owned (ctxPtr, ctx) (by simp)).save gRvvManager clock
    exact inv.replace owned blocks
  | @restore _ _ _ ctxPtr ctx gRvvManager clock hw =>
    have regs := fdcaRvvContextRestore_regs gRvvManager clock hw ctx
    exact inv.replace (by rw [regs]; exact inv.owned (ctxPtr, ctx) (by simp)) (by rw [regs])
  | destroy => exact inv.destroy

/-- Every system reachable from the empty one satisfies the invariant. -/
theorem OwnershipInv.of_reachable {succeeds : Nat → Bool}
    (reach : Relation.ReflTransGen RvvStep (.init succeeds) s) : OwnershipInv s := by
  induction reach with
  | refl => exact .init succeeds
  | tail _ step inv => exact inv.step step

/-- A context that owns its register file owns one buffer of each kind. -/
theorem RegsOwned.ownedBlocks_filter_length {entry : Nat × RvvContext}
    (owned : RegsOwned entry.2.regs) {site : AllocSite} (buffer : site = .vregs ∨ site = .vmask) :
    ((ownedBlocks entry).filter (·.site = site)).length = 1 := by
  obtain ⟨v, vregs⟩ := Option.isSome_iff_exists.1 owned.vregs
  obtain ⟨m, vmask⟩ := Option.isSome_iff_exists.1 owned.vmask
  rcases buffer with rfl | rfl <;> simp [ownedBlocks, regBlocks, vregs, vmask]

/-- Contexts that own their register files own one buffer of each kind apiece. -/
theorem flatMap_ownedBlocks_filter_length {site : AllocSite}
    (buffer : site = .vregs ∨ site = .vmask) :
    ∀ {contexts : List (Nat × RvvContext)}, (∀ entry ∈ contexts, RegsOwned entry.2.regs) →
      ((contexts.flatMap ownedBlocks).filter (·.site = site)).length = contexts.length
  | [], _ => rfl
  | entry :: contexts, owned => by
    rw [List.flatMap_cons, List.filter_append, List.length_append,
      (owned entry (List.mem_cons_self _ _)).ownedBlocks_filter_length buffer,
      flatMap_ownedBlocks_filter_length buffer fun e mem => owned e (List.mem_cons_of_mem _ mem),
      List.length_cons, Nat.add_comm]

/-- Under the invariant the live register buffers of each kind are as many as the live
contexts. -/
theorem OwnershipInv.addrsAt_length (inv : OwnershipInv s) {site : AllocSite}
    (buffer : site = .vregs ∨ site = .vmask) :
    (s.heap.addrsAt site).length = s.contexts.length := by
  rw [Slab.addrsAt, List.length_map, (inv.live.filter _).length_eq]
  exact flatMap_ownedBlocks_filter_length buffer inv.owned

end Ownership

/-- No leak and no double free: in every system reachable from the empty one, by creates
with any outcome of each allocation, saves, restores and destroys of live contexts, no
free has ever been of an address that was not live, the live blocks are exactly those of
the live contexts, each of which owns its register file, and the live register buffers
are twice as many as the live contexts. From such a system a failed create leaves the
live blocks as they were, and the destroy of a live context releases exactly its own
blocks. -/
theorem rvvReachable_ownership {succeeds : Nat → Bool} {s : RvvSystem}
    (reach : Relation.ReflTransGen RvvStep (.init succeeds) s) :
    OwnershipInv s ∧
      (s.heap.addrsAt .vregs).length + (s.heap.addrsAt .vmask).length = 2 * s.contexts.length ∧
      (∀ fdev current bootSeconds heap' err,
        fdcaRvvContextCreate fdev current bootSeconds s.heap = (.error err, heap') →
          heap'.live.Perm s.heap.live ∧ heap'.badFrees = 0) ∧
      (∀ front back ctxPtr ctx, s.contexts = front ++ (ctxPtr, ctx) :: back →
        (fdcaRvvContextDestroy ctxPtr ctx s.heap).live.Perm ((front ++ back).flatMap ownedBlocks) ∧
          (fdcaRvvContextDestroy ctxPtr ctx s.heap).badFrees = 0) := by
  have inv := OwnershipInv.of_reachable reach
  refine ⟨inv, ?_, fun fdev current bootSeconds heap' err failed => ?_,
    fun front back ctxPtr ctx table => ?_⟩
  · rw [inv.addrsAt_length (.inl rfl), inv.addrsAt_length (.inr rfl)]
    omega
  · obtain ⟨bad, live⟩ := fdcaRvvContextCreate_live failed
    exact ⟨by simpa using live, bad.trans inv.noBadFree⟩
  · obtain ⟨heap, contexts⟩ := s
    cases table
    have destroyed := inv.destroy
    exact ⟨destroyed.live, destroyed.noBadFree⟩

/-- One create from the empty system, every allocation succeeding: `sampleContext` is live
with its three blocks. -/
theorem rvvReachable_ownership_sample :
    Relation.ReflTransGen RvvStep (.init fun _ => true) ⟨sampleHeap, [(0, sampleContext)]⟩ ∧
      (sampleHeap.addrsAt .vregs).length + (sampleHeap.addrsAt .vmask).length = 2 * 1 :=
  have reach : Relation.ReflTransGen RvvStep (.init fun _ => true) ⟨sampleHeap, [(0, sampleContext)]⟩ :=
    .single (RvvStep.create sampleDevice ⟨1, []⟩ 0)
  ⟨reach, (rvvReachable_ownership reach).2.1⟩

end FdcaRvv
