import Bibliography.Proofs.Style.Moves
import Mathlib.Algebra.GroupWithZero.Nat

/-
  Moves that come to an end.

  Blocks can be copied, brought to another place and run, so the
  code that is left does not get shorter at every step.  If some
  name that this takes is in no block, then the number of its uses
  does not grow, and where it stays the same a weight gets less.
  For the name that copies, values weigh what there is in them;
  for the name that changes the order, equal neighbours count
  once, since copies stay together; for the conditional, blocks
  weigh all the same.

  Key definitions include:
    * `Instruction.occursIn`
    * `Critical`
    * `Stage.Confines`
    * `StackSum`
    * `Stage.uses`
    * `Stage.weight`

  Key statements include:
    * `Stage.Confines.moves`
    * `Stage.Moves.descends`
    * `Stage.Confines.acc`
-/

------------------------------------------------------------
-- Occurrences of Names
------------------------------------------------------------

namespace Bibliography

namespace Instruction

mutual

/-
  Whether a name is called in an instruction, at any depth; if
  `quotes`, also whether it is quoted.
-/
def occurs
    (quotes : Bool)
    (name : Text) : Instruction → Bool
  | .string _ => false
  | .integer _ => false
  | .quoted n => quotes && n == name
  | .block body => occursIn quotes name body
  | .call n => n == name

/- The same of code. -/
def occursIn
    (quotes : Bool)
    (name : Text) : List Instruction → Bool
  | [] => false
  | i :: rest => occurs quotes name i || occursIn quotes name rest

end

/- Whether a name occurs in a block. -/
def occursInBlock
    (quotes : Bool)
    (name : Text) : Instruction → Bool
  | .block body => occursIn quotes name body
  | _ => false

/- Whether a name occurs in one of the blocks of code. -/
def occursInBlocks
    (quotes : Bool)
    (name : Text)
    (code : List Instruction) : Bool :=
  code.any (occursInBlock quotes name)

variable {quotes : Bool}
variable {name : Text}

/- Where a name does not occur, it is in no block. -/
theorem occursInBlocks_of_occursIn
    {code : List Instruction}
    (h : occursIn quotes name code = false) :
    occursInBlocks quotes name code = false := by
  induction code with
  | nil => rfl
  | cons i rest ih =>
      rw [occursIn, Bool.or_eq_false_iff] at h
      rw [occursInBlocks, List.any_cons, Bool.or_eq_false_iff]
      refine ⟨?_, ih h.2⟩
      cases i with
      | block body => exact h.1
      | _ => rfl

end Instruction

------------------------------------------------------------
-- Confined Names
------------------------------------------------------------

/- A name that must not get into blocks, called or also quoted. -/
structure Critical where
  name : Text
  quotes : Bool

/- What can be run has no loop, and a block no critical name. -/
def Callable.Confines
    (c : Critical) : Callable → Prop
  | .named n => n ≠ Control.loop.name
  | .body code =>
      Instruction.occursIn true Control.loop.name code = false ∧
        Instruction.occursIn c.quotes c.name code = false

def Job.Confines
    (c : Critical) : Job → Prop
  | .code is =>
      Instruction.occursIn true Control.loop.name is = false ∧
        Instruction.occursInBlocks c.quotes c.name is = false
  | .callable f => f.Confines c
  | .symbol n => n ≠ Control.loop.name
  | .loop _ _ => False

def Value.Confines
    (c : Critical) : Value → Prop
  | .function f => f.Confines c
  | _ => True

/- There is no loop, and the critical name is in no block. -/
structure Stage.Confines
    (c : Critical)
    (stage : Stage) : Prop where
  jobs : ∀ job ∈ stage.jobs, job.Confines c
  stack : ∀ v ∈ stage.stack, v.Confines c

variable {c : Critical}

theorem Value.confines_of_isPlain
    {v : Value}
    (h : v.isPlain = true) : v.Confines c := by
  cases v with
  | function f => cases h
  | _ => trivial

/- The first instruction and the others are confined. -/
theorem Job.confines_code_cons
    {i : Instruction}
    {more : List Instruction}
    (h : (Job.code (i :: more)).Confines c) :
    (Instruction.occurs true Control.loop.name i = false ∧
        Instruction.occursInBlock c.quotes c.name i = false) ∧
      (Job.code more).Confines c := by
  rcases h with ⟨hLoop, hBlocks⟩
  rw [Instruction.occursIn, Bool.or_eq_false_iff] at hLoop
  rw [Instruction.occursInBlocks, List.any_cons,
    Bool.or_eq_false_iff] at hBlocks
  exact ⟨⟨hLoop.1, hBlocks.1⟩, hLoop.2, hBlocks.2⟩

theorem Job.confines_code_of_body
    {code : List Instruction}
    (h : (Callable.body code).Confines c) :
    (Job.code code).Confines c :=
  ⟨h.1, Instruction.occursInBlocks_of_occursIn h.2⟩

/- What an instruction pushes is confined. -/
theorem Value.confines_of_literal?
    {i : Instruction}
    {v : Value}
    (hLiteral : i.literal? = some v)
    (hLoop : Instruction.occurs true Control.loop.name i = false)
    (hBlock : Instruction.occursInBlock c.quotes c.name i = false) :
    v.Confines c := by
  cases i with
  | string t =>
      cases hLiteral
      trivial
  | integer n =>
      cases hLiteral
      trivial
  | call name => cases hLiteral
  | block body =>
      cases hLiteral
      exact ⟨hLoop, hBlock⟩
  | quoted name =>
      cases hLiteral
      rw [Instruction.occurs, Bool.true_and] at hLoop
      exact beq_eq_false_iff_ne.1 hLoop

namespace Stage

/- A confined name does not get into a block. -/
theorem Confines.moves
    {stage stage' : Stage}
    (h : stage.Confines c)
    (hMove : stage.Moves stage') : stage'.Confines c := by
  rcases h with ⟨hJobs, hStack⟩
  cases hMove with
  | done =>
      exact ⟨(List.forall_mem_cons.1 hJobs).2, hStack⟩
  | literal hLiteral =>
      rcases List.forall_mem_cons.1 hJobs with ⟨hCode, hRest⟩
      rcases Job.confines_code_cons hCode with
        ⟨⟨hLoop, hBlock⟩, hMore⟩
      have hValue :=
        Value.confines_of_literal? hLiteral hLoop hBlock
      exact ⟨List.forall_mem_cons.2 ⟨hMore, hRest⟩,
        List.forall_mem_cons.2 ⟨hValue, hStack⟩⟩
  | call =>
      rcases List.forall_mem_cons.1 hJobs with ⟨hCode, hRest⟩
      rcases Job.confines_code_cons hCode with
        ⟨⟨hLoop, _⟩, hMore⟩
      have hName := beq_eq_false_iff_ne.1 hLoop
      exact ⟨List.forall_mem_cons.2
        ⟨hName, List.forall_mem_cons.2 ⟨hMore, hRest⟩⟩, hStack⟩
  | body =>
      rcases List.forall_mem_cons.1 hJobs with ⟨hBody, hRest⟩
      have hCode := Job.confines_code_of_body hBody
      exact ⟨List.forall_mem_cons.2 ⟨hCode, hRest⟩, hStack⟩
  | named =>
      rcases List.forall_mem_cons.1 hJobs with ⟨hName, hRest⟩
      exact ⟨List.forall_mem_cons.2 ⟨hName, hRest⟩, hStack⟩
  | reduce hPlain =>
      refine ⟨(List.forall_mem_cons.1 hJobs).2, ?_⟩
      intro v hMem
      rcases List.mem_append.1 hMem with hResult | hKept
      · exact Value.confines_of_isPlain (hPlain v hResult)
      · exact hStack v (List.mem_append_right _ hKept)
  | duplicate =>
      have hTop := (List.forall_mem_cons.1 hStack).1
      exact ⟨(List.forall_mem_cons.1 hJobs).2,
        List.forall_mem_cons.2 ⟨hTop, hStack⟩⟩
  | swap =>
      rcases List.forall_mem_cons.1 hStack with ⟨hTop, hMore⟩
      rcases List.forall_mem_cons.1 hMore with ⟨hSecond, hKept⟩
      exact ⟨(List.forall_mem_cons.1 hJobs).2,
        List.forall_mem_cons.2
          ⟨hSecond, List.forall_mem_cons.2 ⟨hTop, hKept⟩⟩⟩
  | branch hChosen =>
      rcases List.forall_mem_cons.1 hStack with ⟨hFirst, hMore⟩
      rcases List.forall_mem_cons.1 hMore with ⟨hSecond, hLast⟩
      refine ⟨List.forall_mem_cons.2
        ⟨?_, (List.forall_mem_cons.1 hJobs).2⟩,
        (List.forall_mem_cons.1 hLast).2⟩
      rcases hChosen with rfl | rfl
      · exact hFirst
      · exact hSecond

end Stage

------------------------------------------------------------
-- Uses and Weights
------------------------------------------------------------

namespace Instruction

mutual

/-
  What is at most to be done for an instruction.  A block weighs
  what is in it if `deep`, and else it weighs like a name.
-/
def weight (deep : Bool) : Instruction → Nat
  | .string _ => 1
  | .integer _ => 1
  | .quoted _ => 3
  | .block body => 3 + if deep then weightIn deep body else 0
  | .call _ => 4

/- The same of code. -/
def weightIn (deep : Bool) : List Instruction → Nat
  | [] => 1
  | i :: rest => weight deep i + weightIn deep rest

end

end Instruction

namespace Critical

/- How often a name is the critical one. -/
def count
    (c : Critical)
    (name : Text) : Nat :=
  if name = c.name then 1 else 0

/- The same of a quoted name. -/
def countQuoted
    (c : Critical)
    (name : Text) : Nat :=
  if c.quotes then c.count name else 0

end Critical

/- The uses outside of blocks. -/
def Instruction.uses
    (c : Critical) : Instruction → Nat
  | .call name => c.count name
  | .quoted name => c.countQuoted name
  | _ => 0

def Callable.uses
    (c : Critical) : Callable → Nat
  | .named name => c.count name
  | .body code => (code.map (Instruction.uses c)).sum

def Job.uses
    (c : Critical) : Job → Nat
  | .code is => (is.map (Instruction.uses c)).sum
  | .callable f => f.uses c
  | .symbol name => c.count name
  | .loop _ _ => 0

def Value.uses
    (c : Critical) : Value → Nat
  | .function (.named name) => c.countQuoted name
  | _ => 0

/- Blocks on the stack weigh what is in them, or all the same. -/
def Value.weight (deep : Bool) : Value → Nat
  | .function (.named _) => 2
  | .function (.body code) =>
      2 + if deep then Instruction.weightIn deep code else 0
  | _ => 0

def Job.weight (deep : Bool) : Job → Nat
  | .code is => Instruction.weightIn deep is
  | .callable (.named _) => 4
  | .callable (.body is) => 1 + Instruction.weightIn deep is
  | .symbol _ => 3
  | .loop _ _ => 0

theorem Value.uses_of_isPlain
    {v : Value}
    (h : v.isPlain = true) : v.uses c = 0 := by
  cases v with
  | function f => cases h
  | _ => rfl

theorem Value.weight_of_isPlain
    {v : Value}
    (h : v.isPlain = true)
    (deep : Bool) : v.weight deep = 0 := by
  cases v with
  | function f => cases h
  | _ => rfl

/- A value has the uses of its instruction and weighs less. -/
theorem Value.descends_of_literal?
    {i : Instruction}
    {v : Value}
    (h : i.literal? = some v)
    (deep : Bool) :
    v.uses c = i.uses c ∧ v.weight deep < i.weight deep := by
  cases i with
  | call name => cases h
  | _ =>
      cases h
      refine ⟨rfl, ?_⟩
      simp only [Value.weight, Instruction.weight]
      omega

/- Where the critical name does not occur, it is not used. -/
theorem Callable.uses_body
    {code : List Instruction}
    (h : Instruction.occursIn c.quotes c.name code = false) :
    (Callable.body code).uses c = 0 := by
  rw [Callable.uses]
  induction code with
  | nil => rfl
  | cons i rest ih =>
      rw [Instruction.occursIn, Bool.or_eq_false_iff] at h
      rw [List.map_cons, List.sum_cons, ih h.2]
      cases i with
      | call name =>
          have hName : name ≠ c.name := beq_eq_false_iff_ne.1 h.1
          simp [Instruction.uses, Critical.count, hName]
      | quoted name =>
          have hQuoted := h.1
          rw [Instruction.occurs] at hQuoted
          cases hQuotes : c.quotes with
          | false =>
              simp [Instruction.uses, Critical.countQuoted, hQuotes]
          | true =>
              rw [hQuotes, Bool.true_and] at hQuoted
              have hName : name ≠ c.name :=
                beq_eq_false_iff_ne.1 hQuoted
              simp [Instruction.uses, Critical.countQuoted,
                Critical.count, hName]
      | _ => rfl

/- A value that is a use of the critical name weighs little. -/
theorem Value.uses_cases
    (c : Critical)
    (v : Value) :
    v.uses c = 0 ∨ v.uses c = 1 ∧ v.weight c.quotes = 2 := by
  cases v with
  | function f =>
      cases f with
      | body code => exact Or.inl rfl
      | named name =>
          rw [Value.uses, Critical.countQuoted, Critical.count]
          split
          · split
            · exact Or.inr ⟨rfl, rfl⟩
            · exact Or.inl rfl
          · exact Or.inl rfl
  | _ => exact Or.inl rfl

/- Where quotes do not count, values are no uses and weigh little. -/
theorem Value.le_of_not_quotes
    (hQuotes : c.quotes = false)
    (v : Value) : v.uses c = 0 ∧ v.weight c.quotes ≤ 2 := by
  cases v with
  | function f =>
      cases f <;>
        simp [Value.uses, Value.weight, Critical.countQuoted, hQuotes]
  | _ => exact ⟨rfl, Nat.zero_le _⟩

------------------------------------------------------------
-- Sums over a Stack
------------------------------------------------------------

/-
  What an operation may add to the sum over the stack: nothing,
  where only another name is critical and values count.
-/
def Critical.allowance
    (c : Critical)
    (name : Text)
    (n : Nat) : Nat :=
  if c.quotes = true ∧ c.name ≠ name then 0 else n

/-
  A way to sum up over a stack that fits what the operations do.
  Only the critical one may make the sum greater.
-/
structure StackSum (c : Critical) where
  sum : (Value → Nat) → List Value → Nat
  push_le : ∀ f v stack, sum f (v :: stack) ≤ f v + sum f stack
  pop_le : ∀ f v stack, sum f stack ≤ sum f (v :: stack)
  branch_le : ∀ f otherwise positive chosen k stack,
    chosen = otherwise ∨ chosen = positive →
    f (.function chosen) + sum f stack ≤
      sum f (.function otherwise :: .function positive ::
        .integer k :: stack)
  copy_le : ∀ f v stack,
    sum f (v :: v :: stack) ≤ sum f (v :: stack) +
      c.allowance Operation.duplicate.name (f v)
  exchange_le : ∀ f b a stack,
    sum f (a :: b :: stack) ≤ sum f (b :: a :: stack) +
      c.allowance Operation.swap.name (f a)

namespace StackSum

/- The sum of all values, where copies may add to it. -/
def ofAll
    (c : Critical)
    (h : c.quotes = true → c.name = Operation.duplicate.name) :
    StackSum c where
  sum := fun f stack => (stack.map f).sum
  push_le := by
    intro f v stack
    simp only [List.map_cons, List.sum_cons, Nat.le_refl]
  pop_le := by
    intro f v stack
    rw [List.map_cons, List.sum_cons]
    omega
  branch_le := by
    rintro f otherwise positive chosen k stack hChosen
    simp only [List.map_cons, List.sum_cons]
    rcases hChosen with rfl | rfl <;> omega
  copy_le := by
    intro f v stack
    have hAll : c.allowance Operation.duplicate.name (f v) = f v :=
      if_neg (fun hOther => hOther.2 (h hOther.1))
    rw [hAll]
    simp only [List.map_cons, List.sum_cons]
    omega
  exchange_le := by
    intro f b a stack
    simp only [List.map_cons, List.sum_cons]
    omega

/- The sum in which equal neighbours count once. -/
def runSum (f : Value → Nat) : List Value → Nat
  | [] => 0
  | [v] => f v
  | v :: u :: rest =>
      (if v = u then 0 else f v) + runSum f (u :: rest)

theorem runSum_cons_le
    (f : Value → Nat)
    (v : Value)
    (stack : List Value) :
    runSum f (v :: stack) ≤ f v + runSum f stack := by
  cases stack with
  | nil => exact Nat.le_refl _
  | cons u rest =>
      rw [runSum]
      split <;> omega

theorem runSum_le_cons
    (f : Value → Nat)
    (v : Value)
    (stack : List Value) :
    runSum f stack ≤ runSum f (v :: stack) := by
  cases stack with
  | nil => exact Nat.zero_le _
  | cons u rest =>
      rw [runSum]
      exact Nat.le_add_left _ _

/- The sum of runs, where a change of order may add to it. -/
def ofRuns
    (c : Critical)
    (h : c.name = Operation.swap.name) : StackSum c where
  sum := runSum
  push_le := runSum_cons_le
  pop_le := runSum_le_cons
  branch_le := by
    intro f otherwise positive chosen k stack hChosen
    have hKept := runSum_le_cons f (.integer k) stack
    have hPositive : runSum f (.function positive :: .integer k ::
        stack) = f (.function positive) +
          runSum f (.integer k :: stack) := by
      rw [runSum, if_neg (by simp)]
    rw [runSum, hPositive]
    split
    · rename_i hSame
      rcases hChosen with rfl | rfl
      · rw [hSame]
        omega
      · omega
    · rcases hChosen with rfl | rfl <;> omega
  copy_le := by
    intro f v stack
    rw [runSum, if_pos rfl]
    omega
  exchange_le := by
    intro f b a stack
    have hAll : c.allowance Operation.swap.name (f a) = f a :=
      if_neg (fun hOther => hOther.2 h)
    rw [hAll, runSum, runSum]
    have hFirst := runSum_cons_le f b stack
    have hSecond := runSum_le_cons f a stack
    split
    · rename_i hSame
      rw [if_pos hSame.symm, hSame]
      omega
    · rename_i hOther
      rw [if_neg (Ne.symm hOther)]
      omega

/- Plain results add nothing to the sum. -/
theorem results_le
    (S : StackSum c)
    {f : Value → Nat}
    {results : List Value}
    (h : ∀ v ∈ results, f v = 0)
    (kept : List Value) :
    S.sum f (results ++ kept) ≤ S.sum f kept := by
  induction results with
  | nil => exact Nat.le_refl _
  | cons v more ih =>
      rcases List.forall_mem_cons.1 h with ⟨hFirst, hMore⟩
      have hPush := S.push_le f v (more ++ kept)
      have hRest := ih hMore
      rw [List.cons_append]
      omega

theorem dropped_le
    (S : StackSum c)
    (f : Value → Nat)
    (dropped kept : List Value) :
    S.sum f kept ≤ S.sum f (dropped ++ kept) := by
  induction dropped with
  | nil => exact Nat.le_refl _
  | cons v more ih =>
      exact Nat.le_trans ih (S.pop_le f v (more ++ kept))

end StackSum

------------------------------------------------------------
-- Every Move Descends
------------------------------------------------------------

namespace Stage

/- The uses of the critical name that are left outside of blocks. -/
def uses
    (S : StackSum c)
    (stage : Stage) : Nat :=
  (stage.jobs.map (Job.uses c)).sum +
    S.sum (Value.uses c) stage.stack

/- The weight of all that is left. -/
def weight
    (S : StackSum c)
    (stage : Stage) : Nat :=
  (stage.jobs.map (Job.weight c.quotes)).sum +
    S.sum (Value.weight c.quotes) stage.stack

/- There are fewer uses, or there are no more and less weight. -/
def Descends
    (S : StackSum c)
    (stage stage' : Stage) : Prop :=
  stage'.uses S < stage.uses S ∨
    stage'.uses S ≤ stage.uses S ∧ stage'.weight S < stage.weight S

variable {S : StackSum c}
variable {rest : List Job}
variable {stack stack' : List Value}

/-
  An operation that puts a value in another place descends.  If
  it is the critical one, then it is a use less, and the value it
  adds is no use or a light one.
-/
theorem descends_of_allowance
    {name : Text}
    {v : Value}
    (hUses : S.sum (Value.uses c) stack' ≤
      S.sum (Value.uses c) stack + c.allowance name (v.uses c))
    (hWeight : S.sum (Value.weight c.quotes) stack' ≤
      S.sum (Value.weight c.quotes) stack +
        c.allowance name (v.weight c.quotes)) :
    Descends S ⟨.symbol name :: rest, stack⟩ ⟨rest, stack'⟩ := by
  simp only [Descends, uses, weight, List.map_cons, List.sum_cons,
    Job.uses, Job.weight]
  by_cases hOther : c.quotes = true ∧ c.name ≠ name
  · rw [Critical.allowance, if_pos hOther] at hUses hWeight
    omega
  · rw [Critical.allowance, if_neg hOther] at hUses hWeight
    cases hQuotes : c.quotes with
    | false =>
        rcases Value.le_of_not_quotes hQuotes v with ⟨hNone, hLight⟩
        rw [hQuotes] at hWeight hLight
        omega
    | true =>
        have hName : c.name = name :=
          Decidable.byContradiction
            (fun hNot => hOther ⟨hQuotes, hNot⟩)
        have hCount : c.count name = 1 := if_pos hName.symm
        rcases Value.uses_cases c v with hNone | ⟨hOne, hTwo⟩
        · omega
        · rw [hQuotes] at hWeight hTwo
          omega

/-
  Running what a conditional chooses descends.  A block has no
  use of the critical name, and what a name weighs as a value is
  enough to run it.
-/
theorem descends_of_branch
    (hName : c.quotes = false →
      c.name = Control.conditional.name)
    {chosen : Callable}
    (hConfined : chosen.Confines c)
    (hUses : (Value.function chosen).uses c +
        S.sum (Value.uses c) stack' ≤ S.sum (Value.uses c) stack)
    (hWeight : (Value.function chosen).weight c.quotes +
        S.sum (Value.weight c.quotes) stack' ≤
      S.sum (Value.weight c.quotes) stack) :
    Descends S
      ⟨.symbol Control.conditional.name :: rest, stack⟩
      ⟨.callable chosen :: rest, stack'⟩ := by
  have hCritical : c.quotes = false →
      c.count Control.conditional.name = 1 :=
    fun hQuotes => if_pos (hName hQuotes).symm
  simp only [Descends, uses, weight, List.map_cons, List.sum_cons,
    Job.uses]
  cases chosen with
  | named name =>
      have hCount : (Callable.named name).uses c ≤
          c.count Control.conditional.name +
            (Value.function (.named name)).uses c := by
        rw [Callable.uses, Value.uses, Critical.countQuoted]
        cases hQuotes : c.quotes with
        | true => simp
        | false =>
            rw [hCritical hQuotes, Critical.count]
            split <;> simp
      have hTwo : (Value.function (.named name)).weight c.quotes =
          2 := rfl
      rw [hTwo] at hWeight
      simp only [Job.weight]
      omega
  | body code =>
      have hNone := Callable.uses_body hConfined.2
      simp only [Job.weight]
      cases hQuotes : c.quotes with
      | false =>
          have hOne := hCritical hQuotes
          omega
      | true =>
          rw [hQuotes] at hWeight
          simp only [Value.weight, if_true] at hWeight
          omega

/- Every move descends where the critical name is confined. -/
theorem Moves.descends
    {stage stage' : Stage}
    (S : StackSum c)
    (hName : c.quotes = false →
      c.name = Control.conditional.name)
    (hConfined : stage.Confines c)
    (hMove : stage.Moves stage') : Descends S stage stage' := by
  cases hMove with
  | duplicate =>
      exact descends_of_allowance (S.copy_le _ _ _)
        (S.copy_le _ _ _)
  | swap =>
      exact descends_of_allowance (S.exchange_le _ _ _ _)
        (S.exchange_le _ _ _ _)
  | branch hChosen =>
      have hChosenConfined : Callable.Confines c _ :=
        (List.forall_mem_cons.1
          (hConfined.moves (.branch hChosen)).jobs).1
      exact descends_of_branch hName hChosenConfined
        (S.branch_le _ _ _ _ _ _ hChosen)
        (S.branch_le _ _ _ _ _ _ hChosen)
  | @reduce name rest dropped results kept hPlain =>
      have hUses := S.results_le (f := Value.uses c)
        (fun v hMem => Value.uses_of_isPlain (hPlain v hMem)) kept
      have hWeight := S.results_le (f := Value.weight c.quotes)
        (fun v hMem => Value.weight_of_isPlain (hPlain v hMem) _)
        kept
      have hUsesKept := S.dropped_le (Value.uses c) dropped kept
      have hWeightKept :=
        S.dropped_le (Value.weight c.quotes) dropped kept
      simp only [Descends, uses, weight, List.map_cons,
        List.sum_cons, Job.weight]
      omega
  | @literal i v more rest stack hLiteral =>
      rcases Value.descends_of_literal? (c := c) hLiteral c.quotes
        with ⟨hSame, hLess⟩
      have hUses := S.push_le (Value.uses c) v stack
      have hWeight := S.push_le (Value.weight c.quotes) v stack
      simp only [Descends, uses, weight, List.map_cons,
        List.sum_cons, Job.uses, Job.weight, Instruction.weightIn]
      omega
  | _ =>
      simp only [Descends, uses, weight, List.map_cons,
        List.map_nil, List.sum_cons, List.sum_nil, Job.uses,
        Job.weight, Callable.uses, Instruction.uses,
        Instruction.weight, Instruction.weightIn]
      omega

/-
  So the moves come to an end.  The induction is on the uses, and
  for as many uses on the weight.
-/
theorem Confines.acc
    (S : StackSum c)
    (hName : c.quotes = false →
      c.name = Control.conditional.name)
    {stage : Stage}
    (hConfined : stage.Confines c) :
    Acc (fun stage' stage : Stage => stage.Moves stage') stage := by
  induction hUses : stage.uses S using Nat.strongRecOn
    generalizing stage with
  | ind uses ihUses =>
      induction hWeight : stage.weight S using Nat.strongRecOn
        generalizing stage with
      | ind weight ihWeight =>
          constructor
          intro stage' hMove
          have hAfter := hConfined.moves hMove
          rcases hMove.descends S hName hConfined with
            hFewer | ⟨hNoMore, hLess⟩
          · exact ihUses _ (hUses ▸ hFewer) hAfter rfl
          · rcases Nat.lt_or_eq_of_le hNoMore with hFewer | hSame
            · exact ihUses _ (hUses ▸ hFewer) hAfter rfl
            · exact ihWeight _ (hWeight ▸ hLess) hAfter
                (hSame.trans hUses) rfl

end Stage

end Bibliography
