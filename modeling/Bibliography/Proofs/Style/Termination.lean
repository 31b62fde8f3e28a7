import Bibliography.Proofs.Style.Descent
import Bibliography.Proofs.Style.Ending

/-
  Code without loops.

  Blocks are values, so code can run on without a loop: a block
  that copies the block below it, brings the copy behind a number
  and runs it, does so again and again.  It takes a name that
  copies, a name that changes the order and a conditional inside
  of the block; code that has one of the three in no block comes
  to an end.

  Key definitions include:
    * `Instruction.rerun`

  Key statements include:
    * `Configuration.ends_of_confines`
    * `Machine.execute_finishes`
    * `Machine.execute_rerun`
-/

------------------------------------------------------------
-- Confined Jobs
------------------------------------------------------------

namespace Bibliography

variable {s : Setting}
variable {c : Critical}

/- What is confined is neither a loop nor the name of loops. -/
theorem Job.Confines.isLoopless
    {job : Job}
    (h : job.Confines c) : Configuration.isLoopless job := by
  cases job with
  | symbol name => exact h
  | loop test body => exact h
  | _ => trivial

/-
  Every step is a move of the jobs and the stack, so there is no
  endless sequence of steps where there is none of moves.
-/
theorem Configuration.ends_of_confines
    (hFunctions : ∀ name, s.program.function? name = none)
    (S : StackSum c)
    (hName : c.quotes = false →
      c.name = Control.conditional.name)
    {jobs : List Job}
    {m : Machine}
    (hTyped : m.WellTyped s)
    (hConfined : Stage.Confines c ⟨jobs, m.stack⟩) :
    Ends s ⟨jobs.map .job, m⟩ := by
  have hAcc := hConfined.acc S hName
  generalize hStage : Stage.mk jobs m.stack = stage at hAcc
  induction hAcc generalizing jobs m with
  | intro stage _ ih =>
      subst hStage
      constructor
      rintro ⟨tasks, n⟩ hStep
      have hLoopless : ∀ job ∈ jobs, isLoopless job :=
        fun job hMem => (hConfined.jobs job hMem).isLoopless
      rcases exists_moves hFunctions hTyped hLoopless hStep with
        ⟨jobs', hTasks, hTyped', hMove⟩
      have hAfter := hConfined.moves hMove
      subst hTasks
      exact ih _ hMove hTyped' hAfter rfl

namespace Machine

open Bibliography.Configuration

/-
  Code ends on an empty stack if the critical name is in none of
  its blocks.
-/
theorem execute_ends_of_confines
    {m : Machine}
    {code : List Instruction}
    (hFunctions : s.program.functions = .empty)
    (hState : Reachable s m)
    (hStack : m.stack = [])
    (S : StackSum c)
    (hName : c.quotes = false →
      c.name = Control.conditional.name)
    (hConfined : (Job.code code).Confines c) :
    ∃ fuel result n,
      execute s fuel code m = .finished result n := by
  have hNone : ∀ name, s.program.function? name = none := by
    intro name
    rw [Program.function?, hFunctions]
    exact SortedMap.get?_empty name
  have hStage : Stage.Confines c ⟨[.code code], m.stack⟩ := by
    refine ⟨List.forall_mem_singleton.2 hConfined, ?_⟩
    rw [hStack]
    exact List.forall_mem_nil _
  have hEnds := ends_of_confines hNone S hName hState.wellTyped
    hStage
  exact (settles_run hEnds).finished

/-
  Without functions of the program and without loops, code comes
  to an end if there is no conditional in its blocks, or nothing
  that copies, or nothing that changes the order.
-/
theorem execute_finishes
    (s : Setting)
    (m : Machine)
    (code : List Instruction)
    (hFunctions : s.program.functions = .empty)
    (hState : Reachable s m)
    (hStack : m.stack = [])
    (hLoop :
      Instruction.occursIn true Control.loop.name code = false)
    (hBlocks :
      Instruction.occursInBlocks false Control.conditional.name
          code = false ∨
        Instruction.occursInBlocks true Operation.duplicate.name
          code = false ∨
        Instruction.occursInBlocks true Operation.swap.name
          code = false) :
    ∃ fuel result n,
      execute s fuel code m = .finished result n := by
  rcases hBlocks with hConditional | hCopy | hOrder
  · exact execute_ends_of_confines hFunctions hState hStack
      (.ofAll ⟨Control.conditional.name, false⟩ (fun h => nomatch h))
      (fun _ => rfl) ⟨hLoop, hConditional⟩
  · exact execute_ends_of_confines hFunctions hState hStack
      (.ofAll ⟨Operation.duplicate.name, true⟩ (fun _ => rfl))
      (fun h => nomatch h) ⟨hLoop, hCopy⟩
  · exact execute_ends_of_confines hFunctions hState hStack
      (.ofRuns ⟨Operation.swap.name, true⟩ rfl)
      (fun h => nomatch h) ⟨hLoop, hOrder⟩

/- A setting in which nothing is declared. -/
def bareSetting : Setting where
  program := .empty
  table := none

/-
  A block that copies a number, compares it and takes one off, run
  through a change of the order outside of it.
-/
def lowerOnce : List Instruction :=
  [.integer 5,
    .block [.call Operation.duplicate.name, .integer 3,
      .call Operation.greater.name,
      .block [.integer 1, .call Operation.subtract.name],
      .quoted Operation.skip.name, .call Control.conditional.name],
    .integer 1, .call Operation.swap.name,
    .quoted Operation.skip.name, .call Control.conditional.name]

theorem execute_finishes_lowerOnce :
    bareSetting.program.functions = .empty ∧
      Reachable bareSetting (initial .empty) ∧
      (initial .empty).stack = [] ∧
      Instruction.occursIn true Control.loop.name
        lowerOnce = false ∧
      Instruction.occursInBlocks false Control.conditional.name
        lowerOnce = true ∧
      Instruction.occursInBlocks true Operation.duplicate.name
        lowerOnce = true ∧
      ∃ fuel result n,
        execute bareSetting fuel lowerOnce (initial .empty) =
          .finished result n :=
  ⟨rfl, .initial false, rfl, by decide, by decide, by decide,
    execute_finishes bareSetting (initial .empty) lowerOnce rfl
      (.initial false) rfl (by decide)
      (Or.inr (Or.inr (by decide)))⟩

end Machine

------------------------------------------------------------
-- Running on without a Loop
------------------------------------------------------------

/-
  The block on top of the stack is copied and the copy is run, so
  that the block below it finds the stack as it was.
-/
def Instruction.rerun : List Instruction :=
  [.call Operation.duplicate.name, .integer 1,
    .call Operation.swap.name, .quoted Operation.skip.name,
    .call Control.conditional.name]

namespace Machine

open Instruction

/- The machine that has the block on its stack. -/
def rerunning : Machine :=
  { initial .empty with stack := [.function (.body rerun)] }

/- A run of the block comes to a run of the block. -/
theorem run_rerun (fuel : Nat) :
    run bareSetting (fuel + 7) (.code rerun) rerunning =
      (run bareSetting fuel (.code rerun) rerunning).andThen
        fun _ m => run bareSetting (fuel + 2) (.code []) m := rfl

/- So there is no fuel that is enough for it. -/
theorem run_rerun_unfinished (fuel : Nat) :
    run bareSetting fuel (.code rerun) rerunning =
      .unfinished := by
  have hRounds : ∀ n,
      run bareSetting (7 * n) (.code rerun) rerunning =
        .unfinished := by
    intro n
    induction n with
    | zero => rfl
    | succ n ih =>
        rw [Nat.mul_succ, run_rerun, ih]
        rfl
  have hLe : fuel ≤ 7 * fuel :=
    Nat.le_mul_of_pos_left fuel (by decide)
  rcases run_le (s := bareSetting) hLe (.code rerun) rerunning with
    hNone | hSame
  · exact hNone
  · rw [hSame, hRounds fuel]

/- Code without loops that does not come to an end. -/
theorem execute_rerun :
    bareSetting.program.functions = .empty ∧
      Reachable bareSetting (initial .empty) ∧
      (initial .empty).stack = [] ∧
      occursIn true Control.loop.name
        (.block rerun :: rerun) = false ∧
      ∀ fuel,
        execute bareSetting fuel (.block rerun :: rerun)
          (initial .empty) = .unfinished := by
  refine ⟨rfl, .initial false, rfl, by decide, ?_⟩
  intro fuel
  cases fuel with
  | zero => rfl
  | succ fuel => exact run_rerun_unfinished fuel

end Machine

end Bibliography
