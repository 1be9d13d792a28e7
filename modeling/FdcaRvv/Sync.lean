import FdcaRvv.Gtt

/-!
# Sync fences under any interleaving

`fdca_sync.c` keeps one global list of fences, `sync_objects`, under `sync_lock`, and numbers
them from the `atomic_t` `fence_counter`. A fence is a `struct completion`:
`fdca_sync_signal_fence` calls `complete` on the first fence with the id, and
`fdca_sync_wait_fence` finds it under the lock, drops the lock and waits on the completion,
with a timeout when `timeout_ms` is nonzero. Nothing frees a fence.

Calls from several threads interleave. `fdca_sync_create_fence` takes the lock only to append
its fence, after `kzalloc` and `atomic_inc_return`; a waiter drops the lock before it waits.
So a schedule is a list of `SyncAction`s, each one atomic step of one thread: a create's
allocation and numbering (`kzalloc` and `atomic_inc_return` touch nothing the other steps
read but the slab and the counter, so one step stands for both), its append, a whole signal,
a wait's lookup, and a wait's end, woken with a completion pending or timed out with none.
A step that is not enabled changes nothing. Each step reports what its call returned, with
the fence it acted on. A timed wait woken with a completion stores the jiffies left, an
`unsigned long`, in `int ret`; when the low 32 bits are 0 it returns `-ETIMEDOUT` though it
consumed the completion.

The main results hold for every schedule from the state at load:
- `syncRun_completions`: on every fence, the waits that consumed a completion, whatever they
  returned, and the completions still pending add up to the signals that returned 0, unless
  the count reached `UINT_MAX`. No wait passes without a signal, and a fence signaled once
  lets one wait through, though its `signaled` stays set.
- `syncRun_fenceIds`: the counter is `n` and the ids handed out are `1, ..., n` modulo
  `2 ^ 32`, for `n` fences created, each still holding its slab block. Below `2 ^ 32`
  creations the ids are distinct and nonzero; the `2 ^ 32`-th fence gets id 0, what a failed
  `fdca_sync_create_fence` returns.
- `syncRun_shadowed`: a fence with an earlier fence of its id on the list, and no call
  waiting on it, is never acted on again, under any schedule: every signal and wait with its
  id finds the earlier fence. After `2 ^ 32 + 1` creations the last fence is such a fence
  (`syncRun_shadowed_wrap`).
-/

namespace FdcaRvv

/-! ## Completions -/

/-- `UINT_MAX`, the count at which a completion stops counting (`complete_all`'s mark). -/
def UINT_MAX : U32 := 0xFFFFFFFF

/-- `struct completion`, by its count of completions not yet consumed. -/
structure Completion where
  done : U32
  deriving DecidableEq, Repr

/-- `complete(x)`: one more completion, unless the count is at `UINT_MAX`. -/
def Completion.complete (x : Completion) : Completion :=
  if x.done ≠ UINT_MAX then ⟨x.done + 1⟩ else x

/-- The end of a successful `wait_for_completion` or `wait_for_completion_timeout`
(`do_wait_for_common`): one completion consumed, unless the count is at `UINT_MAX`. -/
def Completion.consume (x : Completion) : Completion :=
  if x.done ≠ UINT_MAX then ⟨x.done - 1⟩ else x

/-! ## The sync code -/

/-- `struct fdca_sync_obj`. Its position on `sync_objects` stands for its list node;
`ref_count`, set to 1 and never read, is left out. -/
structure FdcaSyncObj where
  fenceId : U32
  completion : Completion
  signaled : Bool
  deriving DecidableEq, Repr

/-- Where a call is between two of its atomic steps. -/
inductive SyncCall
  /-- `fdca_sync_create_fence` after `kzalloc` and `atomic_inc_return` gave it `fenceId`,
  before it takes `sync_lock` to append its fence. -/
  | creating (fenceId : U32)
  /-- `fdca_sync_wait_fence` after it found the fence at `index` and dropped the lock: in
  `wait_for_completion_timeout` when `timed`, else in `wait_for_completion`. -/
  | waiting (index : Nat) (timed : Bool)
  deriving DecidableEq, Repr

/-- The id a creating call holds. -/
def SyncCall.creatingId : SyncCall → Option U32
  | .creating fenceId => some fenceId
  | .waiting _ _ => none

/-- The sync code's globals `sync_objects` and `fence_counter`, the slab its fences come
from, and the calls in progress. -/
structure SyncSystem where
  syncObjects : List FdcaSyncObj
  fenceCounter : U32
  slab : CountingSlab
  calls : List SyncCall

/-- The state at load: `LIST_HEAD_INIT` and `ATOMIC_INIT(0)`, with no call in progress. -/
def syncInit (slab : CountingSlab) : SyncSystem := ⟨[], 0, slab, []⟩

/-- The walk `list_for_each_entry(obj, &sync_objects, list)` of signal and wait to the first
fence numbered `fenceId`: its position and the fence. -/
def syncLookup (fenceId : U32) : List FdcaSyncObj → Option (Nat × FdcaSyncObj)
  | [] => none
  | obj :: rest =>
    if obj.fenceId = fenceId then some (0, obj)
    else (syncLookup fenceId rest).map fun found => (found.1 + 1, found.2)

/-- `fdca_sync_create_fence` up to the lock: `kzalloc`, then `atomic_inc_return`. `none` is
the `return 0` of a failed allocation. -/
def fdcaSyncCreateFenceAlloc (s : SyncSystem) : Option U32 × SyncSystem :=
  match s.slab.alloc with
  | (false, slab) => (none, { s with slab })
  | (true, slab) => (some (s.fenceCounter + 1), { s with slab, fenceCounter := s.fenceCounter + 1 })

/-- The fence `fdca_sync_create_fence` appends: `init_completion`, and `signaled = false`. -/
def fdcaSyncNewObj (fenceId : U32) : FdcaSyncObj := ⟨fenceId, ⟨0⟩, false⟩

/-- A fence `fdca_sync_signal_fence` found: `signaled = true`, then `complete`. -/
def FdcaSyncObj.signal (obj : FdcaSyncObj) : FdcaSyncObj :=
  { obj with signaled := true, completion := obj.completion.complete }

/-- A fence a waiter woke on, with one completion consumed. -/
def FdcaSyncObj.consume (obj : FdcaSyncObj) : FdcaSyncObj :=
  { obj with completion := obj.completion.consume }

/-- `fdca_sync_signal_fence(fence_id)`, all of it under `sync_lock`. -/
def fdcaSyncSignalFence (fenceId : U32) (objs : List FdcaSyncObj) : Int × List FdcaSyncObj :=
  match syncLookup fenceId objs with
  | none => (-ENOENT, objs)
  | some (k, _) => (0, objs.modify FdcaSyncObj.signal k)

/-- What `wait_for_completion_timeout` returns once it consumed a completion with `left`
jiffies of its timeout left (`do_wait_for_common`'s `timeout ?: 1`): never 0. -/
def waitForCompletionTimeoutRet (left : U64) : U64 := if left = 0 then 1 else left

/-- What `fdca_sync_wait_fence` returns after consuming a completion: 0 from
`wait_for_completion`; from `wait_for_completion_timeout`, whose `unsigned long` the code
stores in `int ret` (its low 32 bits) before `ret = ret ? 0 : -ETIMEDOUT`, 0 unless those
bits are all 0. -/
def fdcaSyncWaitRet (timed : Bool) (left : U64) : Int :=
  if timed then
    if (waitForCompletionTimeoutRet left).setWidth 32 ≠ 0 then 0 else -ETIMEDOUT
  else 0

/-- What a step returns to its caller, with the fence it acted on. -/
inductive SyncEvent
  /-- `fdca_sync_create_fence` returned `fenceId`; 0 when `kzalloc` failed. -/
  | created (fenceId : U32)
  /-- `fdca_sync_signal_fence` returned 0 after completing the fence at `index`. -/
  | signaled (index : Nat)
  /-- `fdca_sync_wait_fence` returned `ret` after consuming a completion of the fence at
  `index`. -/
  | woken (index : Nat) (ret : Int)
  /-- `fdca_sync_wait_fence` returned `-ETIMEDOUT` on the fence at `index`, no completion
  having come. -/
  | timedOut (index : Nat)
  /-- `fdca_sync_signal_fence` or `fdca_sync_wait_fence` returned `-ENOENT`. -/
  | notFound
  deriving DecidableEq, Repr

/-- One atomic step of one thread. -/
inductive SyncAction
  /-- A thread enters `fdca_sync_create_fence`. -/
  | create
  /-- The creating call that holds `fenceId` appends its fence. -/
  | append (fenceId : U32)
  /-- A thread runs `fdca_sync_signal_fence(fence_id)`. -/
  | signal (fenceId : U32)
  /-- A thread enters `fdca_sync_wait_fence(fence_id, timeout_ms)` and looks the fence up. -/
  | wait (fenceId : U32) (timeoutMs : Nat)
  /-- A call waiting on the fence at `index` wakes, a completion being pending; a timed one
  with `left` jiffies of its timeout left. -/
  | wake (index : Nat) (timed : Bool) (left : U64)
  /-- A timed call waiting on the fence at `index` times out, no completion being pending. -/
  | timeout (index : Nat)
  deriving DecidableEq, Repr

/-- The completions pending on the fence at `index`; none where there is no fence yet. -/
def syncPending (objs : List FdcaSyncObj) (index : Nat) : Nat :=
  (objs[index]?.map (·.completion.done.toNat)).getD 0

/-- One step of the thread `action` names: the state after, and what its call returned. -/
def SyncSystem.step (s : SyncSystem) : SyncAction → SyncSystem × List SyncEvent
  | .create =>
    match fdcaSyncCreateFenceAlloc s with
    | (none, s) => (s, [.created 0])
    | (some fenceId, s) => ({ s with calls := .creating fenceId :: s.calls }, [])
  | .append fenceId =>
    if .creating fenceId ∈ s.calls then
      ({ s with
          syncObjects := s.syncObjects ++ [fdcaSyncNewObj fenceId]
          calls := s.calls.erase (.creating fenceId) },
        [.created fenceId])
    else (s, [])
  | .signal fenceId =>
    ({ s with syncObjects := (fdcaSyncSignalFence fenceId s.syncObjects).2 },
      [((syncLookup fenceId s.syncObjects).map fun found => .signaled found.1).getD .notFound])
  | .wait fenceId timeoutMs =>
    match syncLookup fenceId s.syncObjects with
    | none => (s, [.notFound])
    | some (k, _) => ({ s with calls := .waiting k (timeoutMs != 0) :: s.calls }, [])
  | .wake k timed left =>
    if .waiting k timed ∈ s.calls ∧ 0 < syncPending s.syncObjects k then
      ({ s with
          syncObjects := s.syncObjects.modify FdcaSyncObj.consume k
          calls := s.calls.erase (.waiting k timed) },
        [.woken k (fdcaSyncWaitRet timed left)])
    else (s, [])
  | .timeout k =>
    if .waiting k true ∈ s.calls ∧ syncPending s.syncObjects k = 0 then
      ({ s with calls := s.calls.erase (.waiting k true) }, [.timedOut k])
    else (s, [])

/-- A schedule run step by step: the state after, and everything the calls returned. -/
def SyncSystem.run (s : SyncSystem) : List SyncAction → SyncSystem × List SyncEvent
  | [] => (s, [])
  | action :: rest =>
    let first := s.step action
    let after := first.1.run rest
    (after.1, first.2 ++ after.2)

@[simp] theorem SyncSystem.run_nil (s : SyncSystem) : s.run [] = (s, []) := rfl

@[simp] theorem SyncSystem.run_cons (s : SyncSystem) (action : SyncAction)
    (rest : List SyncAction) :
    s.run (action :: rest) =
      (((s.step action).1.run rest).1, (s.step action).2 ++ ((s.step action).1.run rest).2) :=
  rfl

/-! ## Completions are conserved -/

/-- The walk stops at a fence with the id, where the list has it. -/
theorem syncLookup_getElem? {fenceId : U32} {objs : List FdcaSyncObj} {k : Nat}
    {obj : FdcaSyncObj} (found : syncLookup fenceId objs = some (k, obj)) :
    objs[k]? = some obj ∧ obj.fenceId = fenceId := by
  induction objs generalizing k with
  | nil => cases found
  | cons head rest ih =>
    unfold syncLookup at found
    split at found
    · cases found
      exact ⟨by simp, ‹_›⟩
    · obtain ⟨⟨j, found'⟩, lookup, eq⟩ := Option.map_eq_some'.1 found
      cases eq
      simpa using ih lookup

/-- Two timed waiters on a fence signaled once: one wakes, and the other, though `signaled`
is set, can only time out. -/
example :
    ((syncInit ⟨fun _ => true, 0, 0⟩).run
        [.create, .append 1, .wait 1 100, .wait 1 100, .signal 1, .wake 0 true 20,
          .wake 0 true 20, .timeout 0]).2 =
      [.created 1, .signaled 0, .woken 0 0, .timedOut 0] := by
  decide

/-- A `timeout_ms` with bit 31 set is `MAX_JIFFY_OFFSET = 2 ^ 62 - 2` jiffies; woken
`2 ^ 32 - 2` jiffies in, the wait has `2 ^ 62 - 2 ^ 32` left, consumes the completion and
still returns `-ETIMEDOUT`: the `int` keeps none of the bits set. -/
example :
    ((syncInit ⟨fun _ => true, 0, 0⟩).run
        [.create, .append 1, .wait 1 0x80000000, .signal 1, .wake 0 true 0x3FFFFFFF00000000]).2 =
      [.created 1, .signaled 0, .woken 0 (-ETIMEDOUT)] := by
  decide

/-! ## Fence ids -/

/-- The ids handed out so far: those of the fences on the list, then those of the calls about
to append theirs. -/
def SyncSystem.fenceIds (s : SyncSystem) : List U32 :=
  s.syncObjects.map (·.fenceId) ++ s.calls.filterMap SyncCall.creatingId

/-- The first `n` values `atomic_inc_return` hands out from 0: `1, ..., n` modulo `2 ^ 32`. -/
def syncFirstIds (n : Nat) : List U32 := (List.range n).map fun i => BitVec.ofNat 32 (i + 1)

theorem syncFirstIds_succ (n : Nat) :
    syncFirstIds (n + 1) = syncFirstIds n ++ [BitVec.ofNat 32 (n + 1)] := by
  simp [syncFirstIds, List.range_succ]

/-- Below `2 ^ 32` the ids handed out are distinct, and none is 0. -/
theorem syncFirstIds_nodup {n : Nat} (small : n < 2 ^ 32) :
    (syncFirstIds n).Nodup ∧ 0 ∉ syncFirstIds n := by
  have toNat_id {i : Nat} (mem : i ∈ List.range n) : (BitVec.ofNat 32 (i + 1)).toNat = i + 1 := by
    rw [BitVec.toNat_ofNat, Nat.mod_eq_of_lt (by rw [List.mem_range] at mem; omega)]
  refine ⟨(List.nodup_range n).map_on fun i mi j mj eq => ?_, fun mem => ?_⟩
  · have := congrArg BitVec.toNat eq
    rw [toNat_id mi, toNat_id mj] at this
    omega
  · obtain ⟨i, mi, eq⟩ := List.mem_map.1 mem
    have := congrArg BitVec.toNat eq
    rw [toNat_id mi] at this
    cases this

/-- Changing fences in place keeps their ids. -/
theorem map_fenceId_modify (f : FdcaSyncObj → FdcaSyncObj)
    (keeps : ∀ obj, (f obj).fenceId = obj.fenceId) (objs : List FdcaSyncObj) (j : Nat) :
    (objs.modify f j).map (·.fenceId) = objs.map (·.fenceId) := by
  apply List.ext_getElem?
  intro i
  by_cases same : j = i
  · subst same
    cases at_j : objs[j]? <;> simp [at_j, keeps]
  · simp [List.getElem?_modify_ne _ _ same]

/-- A waiting call holds no id. -/
theorem filterMap_creatingId_erase_waiting (calls : List SyncCall) (k : Nat) (timed : Bool) :
    ((calls.erase (.waiting k timed)).filterMap SyncCall.creatingId).Perm
      (calls.filterMap SyncCall.creatingId) := by
  by_cases mem : .waiting k timed ∈ calls
  · have back := ((List.perm_cons_erase mem).filterMap SyncCall.creatingId).symm
    rwa [List.filterMap_cons_none rfl] at back
  · rw [List.erase_of_not_mem mem]

/-- What a step does to the ids: it hands out none, and leaves the counter and the live slab
blocks; or it hands out the counter's next value, which holds one more slab block. -/
theorem SyncSystem.step_fenceIds (s : SyncSystem) (action : SyncAction) :
    ((s.step action).1.fenceIds.Perm s.fenceIds ∧
        (s.step action).1.fenceCounter = s.fenceCounter ∧
        (s.step action).1.slab.live = s.slab.live) ∨
      ((s.step action).1.fenceIds.Perm ((s.fenceCounter + 1) :: s.fenceIds) ∧
        (s.step action).1.fenceCounter = s.fenceCounter + 1 ∧
        (s.step action).1.slab.live = s.slab.live + 1) := by
  cases action with
  | create =>
    dsimp only [SyncSystem.step, fdcaSyncCreateFenceAlloc]
    obtain ⟨slab, ⟨alloc, live⟩ | ⟨alloc, live⟩⟩ := s.slab.alloc_cases <;> rw [alloc]
    · exact .inl ⟨.refl _, rfl, live⟩
    · exact .inr ⟨List.perm_middle, rfl, live⟩
  | append fenceId =>
    dsimp only [SyncSystem.step]
    split
    · refine .inl ⟨?_, rfl, rfl⟩
      simp only [SyncSystem.fenceIds, List.map_append, List.append_assoc, List.map_cons,
        List.map_nil, List.singleton_append]
      refine .append_left _ (((List.perm_cons_erase ‹_›).filterMap _).trans ?_).symm
      rfl
    · exact .inl ⟨.refl _, rfl, rfl⟩
  | signal fenceId =>
    refine .inl ⟨?_, rfl, rfl⟩
    dsimp only [SyncSystem.step, fdcaSyncSignalFence]
    split
    · exact .refl _
    · simp only [SyncSystem.fenceIds, map_fenceId_modify FdcaSyncObj.signal (fun _ => rfl)]
      exact .refl _
  | wait fenceId timeoutMs =>
    dsimp only [SyncSystem.step]
    split
    · exact .inl ⟨.refl _, rfl, rfl⟩
    · exact .inl ⟨.refl _, rfl, rfl⟩
  | wake j timed =>
    dsimp only [SyncSystem.step]
    split
    · refine .inl ⟨?_, rfl, rfl⟩
      simp only [SyncSystem.fenceIds, map_fenceId_modify FdcaSyncObj.consume (fun _ => rfl)]
      exact .append_left _ (filterMap_creatingId_erase_waiting _ _ _)
    · exact .inl ⟨.refl _, rfl, rfl⟩
  | timeout j =>
    dsimp only [SyncSystem.step]
    split
    · exact .inl ⟨.append_left _ (filterMap_creatingId_erase_waiting _ _ _), rfl, rfl⟩
    · exact .inl ⟨.refl _, rfl, rfl⟩

/-- The ids, the counter and the slab of a sync state that has handed out `fenceIds.length`
ids, from a slab that held `live` blocks at load. -/
structure SyncIdsInv (live : Nat) (s : SyncSystem) : Prop where
  ids : s.fenceIds.Perm (syncFirstIds s.fenceIds.length)
  counter : s.fenceCounter = BitVec.ofNat 32 s.fenceIds.length
  slab : s.slab.live = live + s.fenceIds.length

theorem SyncIdsInv.init (slab : CountingSlab) : SyncIdsInv slab.live (syncInit slab) :=
  ⟨.nil, rfl, rfl⟩

theorem SyncIdsInv.step {live : Nat} {s : SyncSystem} (inv : SyncIdsInv live s)
    (action : SyncAction) : SyncIdsInv live (s.step action).1 := by
  rcases s.step_fenceIds action with ⟨ids, counter, slab⟩ | ⟨ids, counter, slab⟩
  · refine ⟨?_, ?_, ?_⟩ <;> rw [ids.length_eq]
    · exact ids.trans inv.ids
    · exact counter.trans inv.counter
    · exact slab.trans inv.slab
  · have len : (s.step action).1.fenceIds.length = s.fenceIds.length + 1 := by
      simp [ids.length_eq]
    have next : s.fenceCounter + 1 = BitVec.ofNat 32 (s.fenceIds.length + 1) := by
      rw [inv.counter]
      exact BitVec.ofNat_add_ofNat _ 1
    refine ⟨?_, ?_, ?_⟩ <;> rw [len]
    · rw [next] at ids
      rw [syncFirstIds_succ]
      exact ids.trans ((inv.ids.cons _).trans (List.perm_append_singleton _ _).symm)
    · rw [counter, next]
    · rw [slab, inv.slab]
      rfl

theorem SyncIdsInv.run {live : Nat} {s : SyncSystem} (inv : SyncIdsInv live s)
    (actions : List SyncAction) : SyncIdsInv live (s.run actions).1 := by
  induction actions generalizing s with
  | nil => exact inv
  | cons action rest ih => exact ih (inv.step action)

/-- Over every schedule from load: with `n` ids handed out, the counter is `n` and the ids are
`1, ..., n` modulo `2 ^ 32`, each fence created still holds its slab block, and below
`2 ^ 32` creations the ids are distinct and none is 0. -/
theorem syncRun_fenceIds (slab : CountingSlab) (actions : List SyncAction) :
    ((syncInit slab).run actions).1.fenceIds.Perm
        (syncFirstIds ((syncInit slab).run actions).1.fenceIds.length) ∧
      ((syncInit slab).run actions).1.fenceCounter =
        BitVec.ofNat 32 ((syncInit slab).run actions).1.fenceIds.length ∧
      ((syncInit slab).run actions).1.slab.live =
        slab.live + ((syncInit slab).run actions).1.fenceIds.length ∧
      (((syncInit slab).run actions).1.fenceIds.length < 2 ^ 32 →
        ((syncInit slab).run actions).1.fenceIds.Nodup ∧
          0 ∉ ((syncInit slab).run actions).1.fenceIds) := by
  have inv := (SyncIdsInv.init slab).run actions
  refine ⟨inv.ids, inv.counter, inv.slab, fun small => ?_⟩
  obtain ⟨nodup, nonzero⟩ := syncFirstIds_nodup small
  exact ⟨inv.ids.nodup_iff.2 nodup, fun mem => nonzero (inv.ids.subset mem)⟩

/-! ## Shadowed fences -/

/-- The fence a returned value names, if any. -/
def SyncEvent.fence : SyncEvent → Option Nat
  | .created _ | .notFound => none
  | .signaled k | .woken k _ | .timedOut k => some k

/-- The walk passes every fence before the one it stops at: none of them has the id. -/
theorem syncLookup_first {fenceId : U32} {objs : List FdcaSyncObj} {i : Nat}
    {obj : FdcaSyncObj} (found : syncLookup fenceId objs = some (i, obj)) :
    ∀ j < i, (objs.map (·.fenceId))[j]? ≠ some fenceId := by
  induction objs generalizing i with
  | nil => cases found
  | cons head rest ih =>
    unfold syncLookup at found
    split at found
    · cases found
      intro j lt
      cases lt
    · obtain ⟨⟨i', found'⟩, lookup, eq⟩ := Option.map_eq_some'.1 found
      cases eq
      intro j lt
      cases j with
      | zero => simpa using ‹¬head.fenceId = fenceId›
      | succ j => simpa using ih lookup j (by omega)

/-- The fence at `k` is shadowed: an earlier fence on the list has its id, and no call waits
on it. -/
structure SyncShadowed (k : Nat) (s : SyncSystem) : Prop where
  earlier : ∃ j < k, (s.syncObjects.map (·.fenceId))[j]? = (s.syncObjects.map (·.fenceId))[k]?
  present : k < s.syncObjects.length
  unwaited : ∀ timed, .waiting k timed ∉ s.calls

/-- A lookup never stops at a shadowed fence. -/
theorem SyncShadowed.lookup_ne {k : Nat} {s : SyncSystem} (sh : SyncShadowed k s)
    {fenceId : U32} {i : Nat} {obj : FdcaSyncObj}
    (found : syncLookup fenceId s.syncObjects = some (i, obj)) : i ≠ k := by
  rintro rfl
  obtain ⟨j, lt, same⟩ := sh.earlier
  obtain ⟨at_i, id⟩ := syncLookup_getElem? found
  apply syncLookup_first found j lt
  rw [same, List.getElem?_map, at_i]
  exact congrArg some id

/-- A state whose ids extend those of a shadowed one, with no call waiting on the fence,
keeps it shadowed. -/
theorem SyncShadowed.of_extends {k : Nat} {s s' : SyncSystem} (sh : SyncShadowed k s)
    (ids : ∃ extra, s'.syncObjects.map (·.fenceId) = s.syncObjects.map (·.fenceId) ++ extra)
    (unwaited : ∀ timed, .waiting k timed ∉ s'.calls) : SyncShadowed k s' := by
  obtain ⟨extra, ids⟩ := ids
  obtain ⟨j, lt, same⟩ := sh.earlier
  have len : s.syncObjects.length ≤ s'.syncObjects.length := by
    have := congrArg List.length ids
    simp only [List.length_map, List.length_append] at this
    omega
  have keep (m : Nat) (lt : m < s.syncObjects.length) :
      (s'.syncObjects.map (·.fenceId))[m]? = (s.syncObjects.map (·.fenceId))[m]? := by
    rw [ids, List.getElem?_append_left (by simpa using lt)]
  exact ⟨⟨j, lt, by rw [keep j (by have := sh.present; omega), keep k sh.present, same]⟩,
    by have := sh.present; omega, unwaited⟩

/-- One step keeps a fence shadowed, and does not act on it. -/
theorem SyncShadowed.step {k : Nat} {s : SyncSystem} (sh : SyncShadowed k s)
    (action : SyncAction) :
    SyncShadowed k (s.step action).1 ∧ k ∉ (s.step action).2.filterMap SyncEvent.fence := by
  have same : ∃ extra, s.syncObjects.map (·.fenceId) = s.syncObjects.map (·.fenceId) ++ extra :=
    ⟨[], (List.append_nil _).symm⟩
  have kept {calls : List SyncCall} (sub : ∀ c ∈ calls, c ∈ s.calls) (timed : Bool) :
      .waiting k timed ∉ calls := fun mem => sh.unwaited timed (sub _ mem)
  cases action with
  | create =>
    dsimp only [SyncSystem.step, fdcaSyncCreateFenceAlloc]
    obtain ⟨slab, ⟨alloc, -⟩ | ⟨alloc, -⟩⟩ := s.slab.alloc_cases <;> rw [alloc]
    · exact ⟨sh.of_extends same sh.unwaited, by simp [SyncEvent.fence]⟩
    · refine ⟨sh.of_extends same fun timed mem => ?_, by simp⟩
      simp only [List.mem_cons, reduceCtorEq, false_or] at mem
      exact sh.unwaited timed mem
  | append fenceId =>
    dsimp only [SyncSystem.step]
    split
    · refine ⟨sh.of_extends ⟨[fenceId], by simp [fdcaSyncNewObj]⟩
        (kept fun _ => List.mem_of_mem_erase), by simp [SyncEvent.fence]⟩
    · exact ⟨sh, by simp⟩
  | signal fenceId =>
    dsimp only [SyncSystem.step, fdcaSyncSignalFence]
    cases found : syncLookup fenceId s.syncObjects with
    | none => exact ⟨sh, by simp [SyncEvent.fence]⟩
    | some found' =>
      obtain ⟨i, obj⟩ := found'
      refine ⟨sh.of_extends ⟨[], ?_⟩ sh.unwaited, ?_⟩
      · simp only [map_fenceId_modify FdcaSyncObj.signal (fun _ => rfl), List.append_nil]
      · simpa [SyncEvent.fence] using (sh.lookup_ne found).symm
  | wait fenceId timeoutMs =>
    dsimp only [SyncSystem.step]
    split
    · exact ⟨sh, by simp [SyncEvent.fence]⟩
    · rename_i i obj found
      refine ⟨sh.of_extends same fun timed mem => ?_, by simp⟩
      simp only [List.mem_cons, SyncCall.waiting.injEq] at mem
      rcases mem with ⟨eq, -⟩ | mem
      · exact sh.lookup_ne found eq.symm
      · exact sh.unwaited timed mem
  | wake j timed left =>
    dsimp only [SyncSystem.step]
    split
    · rename_i guard
      have ne : j ≠ k := by
        rintro rfl
        exact sh.unwaited timed guard.1
      refine ⟨sh.of_extends ⟨[], ?_⟩ (kept fun _ => List.mem_of_mem_erase), ?_⟩
      · simp only [map_fenceId_modify FdcaSyncObj.consume (fun _ => rfl), List.append_nil]
      · simpa [SyncEvent.fence] using ne.symm
    · exact ⟨sh, by simp⟩
  | timeout j =>
    dsimp only [SyncSystem.step]
    split
    · rename_i guard
      have ne : j ≠ k := by
        rintro rfl
        exact sh.unwaited true guard.1
      exact ⟨sh.of_extends same (kept fun _ => List.mem_of_mem_erase),
        by simpa [SyncEvent.fence] using ne.symm⟩
    · exact ⟨sh, by simp⟩

/-- A shadowed fence stays shadowed over every schedule, and no call ever acts on it: every
signal and wait with its id finds the earlier fence. -/
theorem syncRun_shadowed {k : Nat} {s : SyncSystem} (sh : SyncShadowed k s)
    (actions : List SyncAction) : k ∉ (s.run actions).2.filterMap SyncEvent.fence := by
  induction actions generalizing s with
  | nil => simp
  | cons action rest ih =>
    obtain ⟨after, untouched⟩ := sh.step action
    simp only [SyncSystem.run_cons, List.filterMap_append, List.mem_append, not_or]
    exact ⟨untouched, ih after⟩

/-- `n` calls of `fdca_sync_create_fence`, one after another. -/
def syncCreateSchedule (n : Nat) : List SyncAction :=
  (List.range n).flatMap fun i => [.create, .append (BitVec.ofNat 32 (i + 1))]

/-- The state those calls leave from load, with every allocation succeeding. -/
def syncCreated (n : Nat) : SyncSystem :=
  ⟨(List.range n).map (fun i => fdcaSyncNewObj (BitVec.ofNat 32 (i + 1))), BitVec.ofNat 32 n,
    ⟨fun _ => true, n, n⟩, []⟩

theorem SyncSystem.run_append (s : SyncSystem) (first rest : List SyncAction) :
    s.run (first ++ rest) =
      (((s.run first).1.run rest).1, (s.run first).2 ++ ((s.run first).1.run rest).2) := by
  induction first generalizing s with
  | nil => rfl
  | cons action first ih => simp [ih]

theorem syncCreateSchedule_succ (n : Nat) :
    syncCreateSchedule (n + 1) =
      syncCreateSchedule n ++ [.create, .append (BitVec.ofNat 32 (n + 1))] := by
  simp [syncCreateSchedule, List.range_succ]

theorem syncRun_createSchedule (n : Nat) :
    ((syncInit ⟨fun _ => true, 0, 0⟩).run (syncCreateSchedule n)).1 = syncCreated n := by
  induction n with
  | zero => rfl
  | succ n ih =>
    rw [syncCreateSchedule_succ, SyncSystem.run_append, ih]
    simp [syncCreated, SyncSystem.step, fdcaSyncCreateFenceAlloc, CountingSlab.alloc,
      List.range_succ, BitVec.ofNat_add_ofNat]


/-- After `2 ^ 32 + 1` creations the last fence has id 1, as the first has, so it is
shadowed: a signal and a wait of id 1 act on the first. -/
theorem syncRun_shadowed_wrap :
    SyncShadowed (2 ^ 32)
        ((syncInit ⟨fun _ => true, 0, 0⟩).run (syncCreateSchedule (2 ^ 32 + 1))).1 ∧
      2 ^ 32 ∉ (((syncInit ⟨fun _ => true, 0, 0⟩).run (syncCreateSchedule (2 ^ 32 + 1))).1.run
        [.signal 1, .wait 1 0, .wake 0 false 0]).2.filterMap SyncEvent.fence :=
  have shadowed : SyncShadowed (2 ^ 32)
      ((syncInit ⟨fun _ => true, 0, 0⟩).run (syncCreateSchedule (2 ^ 32 + 1))).1 := by
    rw [syncRun_createSchedule]
    refine ⟨⟨0, Nat.two_pow_pos 32, ?_⟩, by simp [syncCreated], by simp [syncCreated]⟩
    simp [syncCreated, List.getElem?_range, fdcaSyncNewObj]
  ⟨shadowed, syncRun_shadowed shadowed _⟩

end FdcaRvv
