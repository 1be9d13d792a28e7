import Mathlib.Algebra.BigOperators.Group.List
import Mathlib.Algebra.Group.Nat.Basic
import Mathlib.Algebra.Order.Ring.Nat
import Mathlib.Data.BitVec
import Mathlib.Data.Finset.Card
import Mathlib.Data.List.Nodup
import Mathlib.Data.List.Perm.Basic
import Mathlib.Logic.Relation

/-!
# Kernel collaborators of the RVV runtime

The vector runtime (`fdca_rvv_state.c`, `fdca_vrf.c`, `fdca_vector_mem.c`) leans on a
few kernel services: fixed-width integers, the error numbers it returns negated, and the
slab allocator (`kzalloc`, `kmalloc`, `kfree`). This module models the allocator as a
list of live blocks with fresh addresses and an allocation oracle, so that every pattern
of allocation failure is one choice of `Slab.succeeds`.

A block records the call site that asked for it. The allocator never reads the site;
it is ghost information that lets ownership statements count, say, the live
register-file buffers. Freeing an address that is not live is counted in
`Slab.badFrees`: a double or an invalid free. The block contents are not modelled:
no function of the runtime reads back what it stored in a slab buffer.
-/

namespace FdcaRvv

/-- The C type `u8`. -/
abbrev U8 := BitVec 8

/-- The C type `u32`. -/
abbrev U32 := BitVec 32

/-- The C types `u64` and, on the 64-bit kernels the driver targets, `size_t`. -/
abbrev U64 := BitVec 64

/-- C's unsigned division `a / b`; `none` is a division by zero. -/
def cUdiv (a b : U32) : Option U32 := if b = 0 then none else some (a / b)

/-! ## Error numbers -/

/-- `EIO`: the hardware reported an error. -/
def EIO : Int := 5
/-- `ENOENT`: no object with the id asked. -/
def ENOENT : Int := 2
/-- `ENOMEM`: an allocation failed. -/
def ENOMEM : Int := 12
/-- `ENODEV`: the vector unit is absent. -/
def ENODEV : Int := 19
/-- `EINVAL`: an invalid argument or state. -/
def EINVAL : Int := 22
/-- `ENOSPC`: no room left: no free vector register, no hole or block of the size asked. -/
def ENOSPC : Int := 28
/-- `ERANGE`: a value out of range. -/
def ERANGE : Int := 34
/-- `ETIMEDOUT`: a polled operation or a wait did not complete in time. -/
def ETIMEDOUT : Int := 110

/-! ## The slab allocator -/

/-- The allocation calls of the runtime, one constructor per call site. -/
inductive AllocSite
  /-- `kzalloc(sizeof(*ctx))` in `fdca_rvv_context_create`. -/
  | rvvContext
  /-- `kzalloc(vregs_size)` in `fdca_rvv_regs_alloc`. -/
  | vregs
  /-- `kzalloc(vmask_size)` in `fdca_rvv_regs_alloc`. -/
  | vmask
  /-- `kzalloc(sizeof(*op))` in `fdca_vector_mem_create_op`. -/
  | vectorMemOp
  /-- `kmalloc(count * sizeof(u32))` in `fdca_vector_mem_set_indices`. -/
  | indices
  /-- `kzalloc(sizeof(*mgr))` in `fdca_vrf_init`. -/
  | vrfManager
  /-- A coherent DMA buffer of `size` bytes, from `dma_alloc_coherent`. -/
  | dmaCoherent (size : Nat)
  deriving DecidableEq, Repr

/-- A live slab block: its address and the call that allocated it. -/
structure Block where
  addr : Nat
  site : AllocSite
  deriving DecidableEq, Repr

/-- The slab allocator. `succeeds n` is the outcome of the `n`-th allocation attempt;
addresses are handed out from `next` upwards and never reused, so the live addresses
are distinct and all below `next`. -/
structure Slab where
  succeeds : Nat → Bool
  attempts : Nat
  next : Nat
  live : List Block
  badFrees : Nat
  live_lt : ∀ b ∈ live, b.addr < next
  nodup : (live.map Block.addr).Nodup

/-- An allocator with nothing live, whose attempts succeed as `succeeds` says. -/
def Slab.init (succeeds : Nat → Bool) : Slab :=
  ⟨succeeds, 0, 0, [], 0, fun _ mem => (nomatch mem), List.nodup_nil⟩

/-- The addresses of the live blocks allocated at `site`. -/
def Slab.addrsAt (heap : Slab) (site : AllocSite) : List Nat :=
  (heap.live.filter (·.site = site)).map Block.addr

theorem Slab.not_mem_live_next (heap : Slab) : heap.next ∉ heap.live.map Block.addr := by
  intro mem
  obtain ⟨b, live, addr⟩ := List.mem_map.1 mem
  exact absurd (heap.live_lt b live) (by omega)

/-- `kmalloc(size)`: the next attempt either fails with `NULL` or returns a fresh
block. The size is not recorded: slab memory is freed without it. -/
def kmalloc (site : AllocSite) (heap : Slab) : Option Nat × Slab :=
  if heap.succeeds heap.attempts then
    (some heap.next,
      { heap with
        attempts := heap.attempts + 1
        next := heap.next + 1
        live := ⟨heap.next, site⟩ :: heap.live
        live_lt := by
          simp only [List.mem_cons, forall_eq_or_imp]
          exact ⟨Nat.lt_succ_self _, fun b mem => Nat.lt_succ_of_lt (heap.live_lt b mem)⟩
        nodup := List.nodup_cons.2 ⟨heap.not_mem_live_next, heap.nodup⟩ })
  else (none, { heap with attempts := heap.attempts + 1 })

/-- `kzalloc(size)`: `kmalloc` with zeroed contents, which the model does not track. -/
def kzalloc (site : AllocSite) (heap : Slab) : Option Nat × Slab := kmalloc site heap

/-- `kfree(p)`: `NULL` is ignored, a live block is released, and any other address is a
double or invalid free. -/
def kfree (p : Option Nat) (heap : Slab) : Slab :=
  match p with
  | none => heap
  | some a =>
    if a ∈ heap.live.map Block.addr then
      { heap with
        live := heap.live.filter (·.addr ≠ a)
        live_lt := fun b mem => heap.live_lt b (List.mem_of_mem_filter mem)
        nodup := (List.filter_sublist _).map _ |>.nodup heap.nodup }
    else { heap with badFrees := heap.badFrees + 1 }

/-! ## Coherent DMA memory

`dma_alloc_coherent` draws from an allocator of its own, which the model runs as a second
`Slab` whose blocks record their sizes: `dma_free_coherent` passes the size back, and a
free with another size is as bad as a free of an address that is not live. The model uses
one address per buffer for both the CPU and the bus side. -/

/-- `dma_alloc_coherent(dev, size, &dma_handle, GFP_KERNEL)`. -/
def dmaAllocCoherent (size : Nat) (pool : Slab) : Option Nat × Slab :=
  kmalloc (.dmaCoherent size) pool

/-- `dma_free_coherent(dev, size, cpu_addr, dma_handle)`. -/
def dmaFreeCoherent (size cpuAddr : Nat) (pool : Slab) : Slab :=
  if ⟨cpuAddr, .dmaCoherent size⟩ ∈ pool.live then kfree (some cpuAddr) pool
  else { pool with badFrees := pool.badFrees + 1 }

/-! ## Allocator lemmas -/

section Lemmas

variable {site : AllocSite} {heap : Slab}

@[simp] theorem kzalloc_eq (site : AllocSite) (heap : Slab) :
    kzalloc site heap = kmalloc site heap := rfl

@[simp] theorem kfree_none (heap : Slab) : kfree none heap = heap := rfl

/-- A successful allocation adds exactly one fresh block. -/
theorem kmalloc_of_succeeds (ok : heap.succeeds heap.attempts = true) :
    (kmalloc site heap).1 = some heap.next ∧
      (kmalloc site heap).2.live = ⟨heap.next, site⟩ :: heap.live ∧
      (kmalloc site heap).2.badFrees = heap.badFrees := by
  simp [kmalloc, ok]

/-- A failed allocation returns `NULL` and changes nothing but the attempt count. -/
theorem kmalloc_of_fails (fail : heap.succeeds heap.attempts = false) :
    (kmalloc site heap).1 = none ∧ (kmalloc site heap).2.live = heap.live ∧
      (kmalloc site heap).2.badFrees = heap.badFrees := by
  simp [kmalloc, fail]

/-- Freeing a live address removes exactly its block. -/
theorem kfree_of_mem {a : Nat} (mem : a ∈ heap.live.map Block.addr) :
    (kfree (some a) heap).live = heap.live.filter (·.addr ≠ a) ∧
      (kfree (some a) heap).badFrees = heap.badFrees := by
  simp [kfree, mem]

/-- Freeing the newest live block releases exactly it: the addresses below it are
distinct from its own. -/
theorem kfree_of_head {a : Nat} {rest : List Block} (head : heap.live = ⟨a, site⟩ :: rest) :
    (kfree (some a) heap).live = rest ∧ (kfree (some a) heap).badFrees = heap.badFrees := by
  have fresh : a ∉ rest.map Block.addr := by
    have nodup := heap.nodup
    rw [head, List.map_cons, List.nodup_cons] at nodup
    exact nodup.1
  obtain ⟨live, bad⟩ := kfree_of_mem (show a ∈ heap.live.map Block.addr by simp [head])
  refine ⟨?_, bad⟩
  rw [live, head, List.filter_cons_of_neg (by simp), List.filter_eq_self]
  exact fun b mem => decide_eq_true fun eq => fresh (eq ▸ List.mem_map_of_mem _ mem)

/-- What an allocation does, whatever its outcome: the block it returns, if any, becomes
live, and no free is counted. -/
theorem kmalloc_live {p : Option Nat} {heap' : Slab} (h : kmalloc site heap = (p, heap')) :
    heap'.badFrees = heap.badFrees ∧ heap'.live = p.toList.map (⟨·, site⟩) ++ heap.live := by
  unfold kmalloc at h
  split at h <;> cases h <;> simp

/-- Freeing an address whose block is live, wherever it sits in the live list, releases
exactly that block; freeing `NULL` releases nothing. Either way no bad free is counted. -/
theorem kfree_of_perm {p : Option Nat} {front back : List Block}
    (perm : heap.live.Perm (front ++ p.toList.map (⟨·, site⟩) ++ back)) :
    (kfree p heap).live.Perm (front ++ back) ∧ (kfree p heap).badFrees = heap.badFrees := by
  cases p with
  | none => exact ⟨by simpa using perm, rfl⟩
  | some a =>
    have nodup := (perm.map Block.addr).nodup_iff.1 heap.nodup
    simp only [Option.toList_some, List.map_cons, List.map_nil, List.append_assoc,
      List.singleton_append, List.map_append, List.nodup_middle, List.nodup_cons,
      List.mem_append] at nodup perm
    have mem : a ∈ heap.live.map Block.addr := (perm.map Block.addr).mem_iff.2 (by simp)
    obtain ⟨live, bad⟩ := kfree_of_mem mem
    refine ⟨?_, bad⟩
    rw [live]
    refine (perm.filter _).trans ?_
    have keep : ∀ l : List Block, a ∉ l.map Block.addr → l.filter (·.addr ≠ a) = l :=
      fun l notMem => List.filter_eq_self.2 fun b mem =>
        decide_eq_true (fun eq => notMem (eq ▸ List.mem_map_of_mem _ mem))
    rw [List.filter_append, List.filter_cons_of_neg (by simp), keep _ fun h => nodup.1 (.inl h),
      keep _ fun h => nodup.1 (.inr h)]

end Lemmas

end FdcaRvv
