import FdcaRvv.Context

/-!
# Switching contexts on the vector unit

A process's vector state is meant to survive a switch: `fdca_rvv_context_save` records
what the vector unit holds in the outgoing context, `fdca_rvv_context_restore` writes the
incoming context back. This module runs saves and restores of several contexts,
interleaved with the running process's own changes to the vector unit (`Switcher`,
`switchRun`).

With the simulated accessors of `fdca_rvv_state.c` no value crosses between a context and
the vector unit. The vector unit holds what the last change left (`switchRun_hw`), and a
context's raw CSRs, once saved, are the simulator's fixed values whatever the vector unit
held (`switchRun_rawSimulated`). Contexts are still isolated from one another: the steps
of other contexts never change a context's CSRs (`switchRun_csr_of_not_saved`).
-/

namespace FdcaRvv

/-- The vector unit and the contexts of the processes that share it, by index. -/
structure Switcher where
  hw : HwVectorState
  ctxs : Nat → RvvContext

/-- One step of a switching run: a save or a restore of context `i`, or the running
process changing the vector unit's state to `hw`. -/
inductive SwitchStep
  | save (i : Nat) (gRvvManager : Option RvvStateManager) (clock : Clock)
  | restore (i : Nat) (gRvvManager : Option RvvStateManager) (clock : Clock)
  | mutate (hw : HwVectorState)

/-- One step and the value the called function returns (`0` for a change of state). -/
def SwitchStep.run : SwitchStep → Switcher → Switcher × Int
  | .save i gRvvManager clock, s =>
    let saved := fdcaRvvContextSave gRvvManager clock (s.ctxs i)
    ({ s with ctxs := Function.update s.ctxs i saved.1 }, saved.2)
  | .restore i gRvvManager clock, s =>
    let restored := fdcaRvvContextRestore gRvvManager clock s.hw (s.ctxs i)
    ({ hw := restored.1, ctxs := Function.update s.ctxs i restored.2.1 }, restored.2.2)
  | .mutate hw, s => ({ s with hw }, 0)

/-- A run of steps, with the values the steps return. -/
def switchRun : List SwitchStep → Switcher → Switcher × List Int
  | [], s => (s, [])
  | step :: steps, s =>
    let rest := switchRun steps (step.run s).1
    (rest.1, (step.run s).2 :: rest.2)

/-- The vector unit's state after a run that started from `hw`: the last change's. -/
def lastMutation : List SwitchStep → HwVectorState → HwVectorState
  | [], hw => hw
  | .mutate hw :: steps, _ => lastMutation steps hw
  | _ :: steps, hw => lastMutation steps hw

/-! ## One step -/

section Step

variable {s : Switcher} {i : Nat}

/-- Only a change of state moves the vector unit: a restore writes nothing to it. -/
theorem SwitchStep.run_hw (step : SwitchStep) :
    (step.run s).1.hw = lastMutation [step] s.hw := by
  cases step with
  | save => rfl
  | restore i gRvvManager clock =>
    simp only [SwitchStep.run, lastMutation, fdcaRvvContextRestore_eq]
    split_ifs <;> rfl
  | mutate => rfl

/-- A save of context `i` records the simulated raw CSRs in it. -/
theorem SwitchStep.run_save_rawSimulated (gRvvManager : Option RvvStateManager) (clock : Clock) :
    (((SwitchStep.save i gRvvManager clock).run s).1.ctxs i).csr.RawSimulated := by
  simp only [SwitchStep.run, Function.update_same, fdcaRvvContextSave_csr]
  exact fdcaRvvCsrSave_rawSimulated _ _ _

/-- A step that is not a save of context `i` leaves its CSRs as they were. -/
theorem SwitchStep.run_csr_of_ne_save (step : SwitchStep)
    (other : ∀ gRvvManager clock, step ≠ .save i gRvvManager clock) :
    ((step.run s).1.ctxs i).csr = (s.ctxs i).csr := by
  cases step with
  | save j gRvvManager clock =>
    have ne : i ≠ j := fun eq => other gRvvManager clock (eq ▸ rfl)
    simp only [SwitchStep.run, Function.update_noteq ne]
  | restore j gRvvManager clock =>
    by_cases eq : i = j
    · subst eq
      simp only [SwitchStep.run, Function.update_same, fdcaRvvContextRestore_csr]
    · simp only [SwitchStep.run, Function.update_noteq eq]
  | mutate => rfl

/-- Every step keeps the simulated raw CSRs of a context that holds them. -/
theorem SwitchStep.run_rawSimulated (step : SwitchStep)
    (raw : (s.ctxs i).csr.RawSimulated) : ((step.run s).1.ctxs i).csr.RawSimulated := by
  by_cases save : ∃ gRvvManager clock, step = .save i gRvvManager clock
  · obtain ⟨gRvvManager, clock, rfl⟩ := save
    exact SwitchStep.run_save_rawSimulated gRvvManager clock
  · push_neg at save
    rw [step.run_csr_of_ne_save save]
    exact raw

end Step

/-! ## Whole runs -/

/-- The vector unit holds what the last change left, or its initial state. -/
theorem switchRun_hw (steps : List SwitchStep) (s : Switcher) :
    (switchRun steps s).1.hw = lastMutation steps s.hw := by
  induction steps generalizing s with
  | nil => rfl
  | cons step steps ih =>
    rw [switchRun, ih, step.run_hw]
    cases step <;> rfl

/-- A context never saved in a run keeps its CSRs, whatever the other contexts do. -/
theorem switchRun_csr_of_not_saved {i : Nat} (steps : List SwitchStep) (s : Switcher)
    (notSaved : ∀ gRvvManager clock, SwitchStep.save i gRvvManager clock ∉ steps) :
    ((switchRun steps s).1.ctxs i).csr = (s.ctxs i).csr := by
  induction steps generalizing s with
  | nil => rfl
  | cons step steps ih =>
    rw [switchRun, ih _ fun gRvvManager clock mem =>
      notSaved gRvvManager clock (List.mem_cons_of_mem _ mem)]
    exact step.run_csr_of_ne_save fun gRvvManager clock eq =>
      notSaved gRvvManager clock (eq ▸ List.mem_cons_self _ _)

/-- After a run in which context `i` was saved, its raw CSRs are the simulated values. -/
theorem switchRun_rawSimulated {i : Nat} (steps : List SwitchStep) (s : Switcher)
    (saved : (s.ctxs i).csr.RawSimulated ∨ ∃ gRvvManager clock,
      SwitchStep.save i gRvvManager clock ∈ steps) :
    ((switchRun steps s).1.ctxs i).csr.RawSimulated := by
  induction steps generalizing s with
  | nil =>
    rcases saved with raw | ⟨_, _, mem⟩
    · exact raw
    · cases mem
  | cons step steps ih =>
    apply ih
    rcases saved with raw | ⟨gRvvManager, clock, mem⟩
    · exact .inl (step.run_rawSimulated raw)
    · rcases List.mem_cons.1 mem with rfl | mem
      · exact .inl (SwitchStep.run_save_rawSimulated gRvvManager clock)
      · exact .inr ⟨gRvvManager, clock, mem⟩

/-! ## Switching away from a context and back -/

/-- Context `A` at index 0 and every other index holding `B`, the vector unit holding
`hw`. -/
def twoContexts (hw : HwVectorState) (ctxA ctxB : RvvContext) : Switcher :=
  ⟨hw, fun i => if i = 0 then ctxA else ctxB⟩

/-- Saving `A` while the vector unit holds `hw`, restoring `B`, letting `B`'s process leave
the vector unit in state `mutated`, saving `B` and restoring `A` leaves the vector unit in
`mutated`: the restore of `A` writes nothing. `A`'s CSRs are the ones its own save
recorded, and their raw fields are the simulated values, whatever `hw` held. -/
theorem switchRun_switchAway_switchBack (hw mutated : HwVectorState) (ctxA ctxB : RvvContext)
    (m₁ m₂ m₃ m₄ : Option RvvStateManager) (c₁ c₂ c₃ c₄ : Clock) :
    let run := switchRun [.save 0 m₁ c₁, .restore 1 m₂ c₂, .mutate mutated, .save 1 m₃ c₃,
      .restore 0 m₄ c₄] (twoContexts hw ctxA ctxB)
    run.1.hw = mutated ∧ (run.1.ctxs 0).csr = (fdcaRvvContextSave m₁ c₁ ctxA).1.csr ∧
      (run.1.ctxs 0).csr.RawSimulated := by
  have rest := @switchRun_csr_of_not_saved 0
    [.restore 1 m₂ c₂, .mutate mutated, .save 1 m₃ c₃, .restore 0 m₄ c₄]
    ((SwitchStep.save 0 m₁ c₁).run (twoContexts hw ctxA ctxB)).1 (by simp)
  exact ⟨switchRun_hw _ _, rest, switchRun_rawSimulated _ _ (.inr ⟨m₁, c₁, by simp⟩)⟩

/-- A switch away from `sampleContext` and back, with the vector unit holding `vl = 1`
when `A` is saved and `vl = 2` after `B` ran: every call returns 0, yet the vector unit
ends with `vl = 2` and `A`'s saved `vl` is 0. -/
theorem switchRun_switchAway_switchBack_vl :
    let hw : HwVectorState := ⟨0, 0, 0, 0, 1, 0, fun _ _ => 0⟩
    let mutated : HwVectorState := { hw with vl := 2 }
    let manager : Option RvvStateManager := some ⟨some sampleConfig⟩
    let clock : Clock := ⟨0, 0, 0⟩
    let run := switchRun [.save 0 manager clock, .restore 1 manager clock, .mutate mutated,
      .save 1 manager clock, .restore 0 manager clock]
      (twoContexts hw sampleContext (fdcaRvvContextSave manager clock sampleContext).1)
    fdcaRvvContextCreate sampleDevice ⟨1, []⟩ 0 (Slab.init fun _ => true) =
        (.ok (0, sampleContext), sampleHeap) ∧
      run.2 = [0, 0, 0, 0, 0] ∧ run.1.hw.vl ≠ hw.vl ∧ (run.1.ctxs 0).csr.vl ≠ hw.vl :=
  ⟨rfl, rfl, by decide, by decide⟩

end FdcaRvv
