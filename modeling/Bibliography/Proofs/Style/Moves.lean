import Bibliography.Proofs.Style.Dispatch
import Bibliography.Proofs.Style.Stepping

/-
  What steps do to the jobs and to the stack.

  Without functions of its own a program has few ways to go on.
  An instruction pushes a value or calls a name, a name puts plain
  values in the place of operands, and only three built-in
  functions do more: one copies the top of the stack, one changes
  the order of two values, and one chooses what to run.

  Key definitions include:
    * `Action.Leaves`
    * `Stage`
    * `Stage.Moves`

  Key statements include:
    * `Operation.leaves_perform`
    * `Machine.chooseBranch_ok`
    * `Operation.moves_perform`
    * `Configuration.exists_moves`
-/

------------------------------------------------------------
-- Plain Values
------------------------------------------------------------

namespace Bibliography

/- Whether a value is nothing to run. -/
def Value.isPlain : Value → Bool
  | .function _ => false
  | _ => true

theorem Value.isPlain_of_type
    {v : Value}
    (h : v.type ≠ .function) : v.isPlain = true := by
  cases v with
  | function c => exact absurd rfl h
  | _ => rfl

namespace Machine

variable {s : Setting}
variable {m n : Machine}

/- Variables with types hold plain values. -/
theorem HasTypes.isPlain
    {declared : SortedMap VariableKind}
    {values : SortedMap Value}
    (h : HasTypes declared values)
    {name : Text}
    {v : Value}
    (hValue : values.get? name = some v) : v.isPlain = true := by
  have hType := h name
  rw [hValue] at hType
  rcases Option.map_eq_some_iff.1 hType.symm with ⟨kind, _, hKind⟩
  apply Value.isPlain_of_type
  rw [← hKind]
  cases kind <;> decide

/- A name stands for a plain value, if it stands for a value. -/
theorem WellTyped.isPlain_of_meaning
    (h : m.WellTyped s)
    {name : Text}
    {v : Value}
    (hMeaning : m.meaning s name = .value v) :
    v.isPlain = true := by
  unfold meaning at hMeaning
  split at hMeaning
  · rename_i hLocal
    cases hMeaning
    cases hKey : m.current with
    | none =>
        rw [h.outside hKey, SortedMap.get?_empty] at hLocal
        cases hLocal
    | some key => exact (h.inside key hKey).2.isPlain hLocal
  · split at hMeaning
    · cases hMeaning
    · split at hMeaning
      · cases hMeaning
      · split at hMeaning
        · rename_i hGlobal
          cases hMeaning
          exact h.globals.isPlain hGlobal
        · split at hMeaning
          · cases hMeaning
          · split at hMeaning <;> cases hMeaning

/- The value of a field is plain. -/
theorem isPlain_of_fieldValue
    {name : Text}
    {v : Value}
    (h : fieldValue s name m = (.ok v, n)) :
    v.isPlain = true := by
  unfold fieldValue currentKey at h
  dsimp only [Bind.bind, Action.bind] at h
  cases hKey : m.current with
  | none =>
      rw [hKey] at h
      cases h
  | some key =>
      rw [hKey] at h
      dsimp only at h
      cases hTable : s.table with
      | none =>
          rw [hTable] at h
          cases h
          rfl
      | some t =>
          rw [hTable] at h
          dsimp only at h
          cases hLookup : t.lookupField key name with
          | error err =>
              rw [hLookup] at h
              cases h
          | ok found =>
              rw [hLookup] at h
              cases found <;>
              · cases h
                rfl

end Machine

------------------------------------------------------------
-- Operations and the Stack
------------------------------------------------------------

namespace Action

variable {α β : Type}

/- Where it succeeds, it has taken values from the stack at most. -/
def Drops (x : Action α) : Prop :=
  ∀ m a n, x m = (.ok a, n) → n.stack <:+ m.stack

/- Where it succeeds, it has then put plain values there at most. -/
def Leaves (x : Action Unit) : Prop :=
  ∀ m n, x m = (.ok (), n) →
    ∃ results kept, n.stack = results ++ kept ∧
      kept <:+ m.stack ∧ ∀ v ∈ results, v.isPlain = true

/- The parts of a success have succeeded. -/
theorem bind_ok
    {x : Action α}
    {f : α → Action β}
    {m n : Machine}
    {b : β}
    (h : (x >>= f) m = (.ok b, n)) :
    ∃ a m', x m = (.ok a, m') ∧ f a m' = (.ok b, n) := by
  have hBind : (x >>= f) m = Action.bind x f m := rfl
  rw [hBind] at h
  unfold Action.bind at h
  rcases hFirst : x m with ⟨result, m'⟩
  rw [hFirst] at h
  cases result with
  | error e => cases h
  | ok a => exact ⟨a, m', rfl, h⟩

theorem Drops.bind
    {x : Action α}
    {f : α → Action β}
    (hx : Drops x)
    (hf : ∀ a, Drops (f a)) : Drops (x >>= f) := by
  intro m b n h
  rcases bind_ok h with ⟨a, m', hFirst, hNext⟩
  exact (hf a m' b n hNext).trans (hx m a m' hFirst)

theorem Leaves.bind
    {x : Action α}
    {f : α → Action Unit}
    (hx : Drops x)
    (hf : ∀ a, Leaves (f a)) : Leaves (x >>= f) := by
  intro m n h
  rcases bind_ok h with ⟨a, m', hFirst, hNext⟩
  rcases hf a m' n hNext with ⟨results, kept, hStack, hKept, hPlain⟩
  exact ⟨results, kept, hStack, hKept.trans (hx m a m' hFirst),
    hPlain⟩

/- What only takes values leaves none. -/
theorem Drops.leaves
    {x : Action Unit}
    (h : Drops x) : Leaves x := by
  intro m n hEnd
  refine ⟨[], n.stack, rfl, h m () n hEnd, ?_⟩
  intro v hMem
  cases hMem

theorem leaves_push
    {v : Value}
    (h : v.isPlain = true) : Leaves (Machine.push v) := by
  rintro m _ ⟨⟩
  refine ⟨[v], m.stack, rfl, List.suffix_refl _, ?_⟩
  intro u hMem
  rwa [List.mem_singleton.1 hMem]

/- What does not touch the stack takes nothing from it. -/
theorem drops_of_stack_eq
    {x : Action α}
    (h : ∀ m, (x m).2.stack = m.stack) : Drops x := by
  intro m a n hEnd
  have hSame := h m
  rw [hEnd] at hSame
  exact hSame ▸ List.suffix_refl _

theorem drops_pure (a : α) : Drops (Pure.pure a : Action α) :=
  drops_of_stack_eq (fun _ => rfl)

theorem drops_ofExcept (result : Except Error α) :
    Drops (.ofExcept result) := by
  cases result <;> exact drops_of_stack_eq (fun _ => rfl)

theorem drops_fail (e : Error) : Drops (.fail e : Action α) :=
  drops_of_stack_eq (fun _ => rfl)

end Action

namespace Machine

open Bibliography.Action

variable {s : Setting}
variable {m n : Machine}

/- Where a value has been taken, it stood on top. -/
theorem pop_ok
    {operation : Text}
    {v : Value}
    (h : pop operation m = (.ok v, n)) :
    m.stack = v :: n.stack := by
  unfold pop at h
  cases hStack : m.stack with
  | nil =>
      rw [hStack] at h
      cases h
  | cons top rest =>
      rw [hStack] at h
      cases h
      rfl

theorem drops_pop (operation : Text) : Drops (pop operation) := by
  intro m v n h
  rw [pop_ok h]
  exact List.suffix_cons v n.stack

theorem drops_popText (operation : Text) :
    Drops (popText operation) :=
  (drops_pop operation).bind (fun _ => drops_ofExcept _)

theorem drops_popInteger (operation : Text) :
    Drops (popInteger operation) :=
  (drops_pop operation).bind (fun _ => drops_ofExcept _)

theorem drops_currentKey (operation : Text) :
    Drops (currentKey operation) := by
  apply drops_of_stack_eq
  intro m
  unfold currentKey
  cases m.current <;> rfl

theorem drops_currentEntry (operation : Text) :
    Drops (currentEntry s operation) := by
  apply (drops_currentKey operation).bind
  intro key
  split
  · exact drops_pure _
  · exact drops_fail _

theorem drops_assign
    (name : Text)
    (v : Value) : Drops (assign s name v) := by
  apply drops_of_stack_eq
  intro m
  unfold assign
  split
  · split <;> rfl
  · split
    · rfl
    · split
      · rfl
      · split <;> rfl

theorem drops_report (event : Event) : Drops (report event) :=
  drops_of_stack_eq (fun _ => rfl)

theorem drops_write (t : Text) : Drops (write t) :=
  drops_of_stack_eq (fun _ => rfl)

theorem drops_warn (message : Text) : Drops (warn message) :=
  drops_of_stack_eq (fun _ => rfl)

end Machine

namespace Operation

open Bibliography.Action Machine

variable {s : Setting}

theorem leaves_onIntegers
    (o : Operation)
    {f : Int64 → Int64 → Value}
    (hPlain : ∀ a b, (f a b).isPlain = true) :
    Leaves (onIntegers o f) := by
  apply Leaves.bind (drops_popInteger _)
  intro b
  apply Leaves.bind (drops_popInteger _)
  intro a
  exact leaves_push (hPlain a b)

theorem leaves_onText
    (o : Operation)
    {f : Text → Value}
    (hPlain : ∀ t, (f t).isPlain = true) :
    Leaves (onText o f) := by
  apply Leaves.bind (drops_popText _)
  intro t
  exact leaves_push (hPlain t)

/-
  An operation takes its operands and leaves plain values, unless
  it is one of the two that put operands back.
-/
theorem leaves_perform
    (o : Operation)
    (hCopy : o ≠ .duplicate)
    (hExchange : o ≠ .swap) : Leaves (o.perform s) := by
  cases o with
  | duplicate => exact absurd rfl hCopy
  | swap => exact absurd rfl hExchange
  | add => exact leaves_onIntegers _ (fun _ _ => rfl)
  | subtract => exact leaves_onIntegers _ (fun _ _ => rfl)
  | greater => exact leaves_onIntegers _ (fun _ _ => rfl)
  | less => exact leaves_onIntegers _ (fun _ _ => rfl)
  | addPeriod => exact leaves_onText _ (fun _ => rfl)
  | countNames => exact leaves_onText _ (fun _ => rfl)
  | textLength => exact leaves_onText _ (fun _ => rfl)
  | width => exact leaves_onText _ (fun _ => rfl)
  | purify => exact leaves_onText _ (fun _ => rfl)
  | preamble => exact leaves_push rfl
  | quoteMark => exact leaves_push rfl
  | globalMax => exact leaves_push rfl
  | entryMax => exact leaves_push rfl
  | newline => exact (drops_write _).leaves
  | skip => exact (drops_pure ()).leaves
  | write =>
      exact ((drops_popText _).bind drops_write).leaves
  | warn => exact ((drops_popText _).bind drops_warn).leaves
  | showTop =>
      exact ((drops_pop _).bind (fun v => drops_report _)).leaves
  | drop =>
      exact ((drops_pop _).bind (fun _ => drops_pure ())).leaves
  | showStack =>
      apply Drops.leaves
      rintro m _ _ ⟨⟩
      exact List.nil_suffix
  | isMissing =>
      exact Leaves.bind (drops_pop _) (fun v => leaves_push rfl)
  | cite =>
      exact Leaves.bind (drops_currentKey _)
        (fun key => leaves_push rfl)
  | entryType =>
      exact Leaves.bind (drops_currentEntry _)
        (fun e => leaves_push rfl)
  | integerToText =>
      exact Leaves.bind (drops_popInteger _)
        (fun n => leaves_push rfl)
  | concatenate =>
      apply Leaves.bind (drops_popText _)
      intro b
      exact Leaves.bind (drops_popText _)
        (fun a => leaves_push rfl)
  | truncate =>
      apply Leaves.bind (drops_popInteger _)
      intro len
      exact Leaves.bind (drops_popText _)
        (fun t => leaves_push rfl)
  | isEmpty =>
      apply Leaves.bind (drops_pop _)
      intro v
      exact Leaves.bind (drops_ofExcept _)
        (fun b => leaves_push rfl)
  | equal =>
      apply Leaves.bind (drops_pop _)
      intro b
      apply Leaves.bind (drops_pop _)
      intro a
      exact Leaves.bind (drops_ofExcept _)
        (fun same => leaves_push rfl)
  | assign =>
      apply Drops.leaves
      apply (drops_pop _).bind
      intro target
      apply (drops_pop _).bind
      intro v
      split
      · exact drops_assign _ v
      · exact drops_fail _
  | changeCase =>
      apply Leaves.bind (drops_popText _)
      intro mode
      apply Leaves.bind (drops_popText _)
      intro t
      split
      · exact leaves_push rfl
      · exact Leaves.bind (drops_warn _) (fun _ => leaves_push rfl)
  | formatName =>
      apply Leaves.bind (drops_popText _)
      intro pattern
      apply Leaves.bind (drops_popInteger _)
      intro index
      apply Leaves.bind (drops_popText _)
      intro names
      exact Leaves.bind (drops_ofExcept _) (fun t => leaves_push rfl)
  | substring =>
      apply Leaves.bind (drops_popInteger _)
      intro len
      apply Leaves.bind (drops_popInteger _)
      intro start
      apply Leaves.bind (drops_popText _)
      intro t
      exact Leaves.bind (drops_ofExcept _)
        (fun piece => leaves_push rfl)
  | charToInteger =>
      apply Leaves.bind (drops_popText _)
      intro t
      split
      · exact leaves_push rfl
      · exact Leaves.bind (drops_warn _) (fun _ => leaves_push rfl)
  | integerToChar =>
      apply Leaves.bind (drops_popInteger _)
      intro n
      split
      · exact leaves_push rfl
      · exact Leaves.bind (drops_warn _) (fun _ => leaves_push rfl)

/- One operation copies the top of the stack. -/
theorem duplicate_ok
    {m n : Machine}
    (h : perform s .duplicate m = (.ok (), n)) :
    ∃ v rest, m.stack = v :: rest ∧ n.stack = v :: v :: rest := by
  rcases bind_ok h with ⟨v, m', hPop, hPush⟩
  rcases bind_ok hPush with ⟨_, m'', hFirst, hSecond⟩
  cases hFirst
  cases hSecond
  exact ⟨v, m'.stack, pop_ok hPop, rfl⟩

/- One changes the order of two values. -/
theorem swap_ok
    {m n : Machine}
    (h : perform s .swap m = (.ok (), n)) :
    ∃ b a rest, m.stack = b :: a :: rest ∧
      n.stack = a :: b :: rest := by
  rcases bind_ok h with ⟨b, m', hFirst, hMore⟩
  rcases bind_ok hMore with ⟨a, m'', hSecond, hPush⟩
  rcases bind_ok hPush with ⟨_, m₃, hBack, hLast⟩
  cases hBack
  cases hLast
  refine ⟨b, a, m''.stack, ?_, rfl⟩
  rw [pop_ok hFirst, pop_ok hSecond]

end Operation

namespace Machine

open Bibliography.Action

theorem popCallable_ok
    {operation : Text}
    {c : Callable}
    {m n : Machine}
    (h : popCallable operation m = (.ok c, n)) :
    m.stack = .function c :: n.stack := by
  rcases bind_ok h with ⟨v, m', hPop, hType⟩
  cases v with
  | function c' =>
      cases hType
      exact pop_ok hPop
  | _ => cases hType

theorem popInteger_ok
    {operation : Text}
    {k : Int64}
    {m n : Machine}
    (h : popInteger operation m = (.ok k, n)) :
    m.stack = .integer k :: n.stack := by
  rcases bind_ok h with ⟨v, m', hPop, hType⟩
  cases v with
  | integer k' =>
      cases hType
      exact pop_ok hPop
  | _ => cases hType

/- A conditional takes two functions and an integer. -/
theorem chooseBranch_ok
    {branch : Callable}
    {m n : Machine}
    (h : chooseBranch m = (.ok branch, n)) :
    ∃ otherwise positive k,
      m.stack = .function otherwise :: .function positive ::
          .integer k :: n.stack ∧
        (branch = otherwise ∨ branch = positive) := by
  rcases bind_ok h with ⟨otherwise, m', hFirst, hMore⟩
  rcases bind_ok hMore with ⟨positive, m'', hSecond, hLast⟩
  rcases bind_ok hLast with ⟨k, m₃, hThird, hChosen⟩
  cases hChosen
  refine ⟨otherwise, positive, k, ?_, ?_⟩
  · rw [popCallable_ok hFirst, popCallable_ok hSecond,
      popInteger_ok hThird]
  · split
    · exact Or.inr rfl
    · exact Or.inl rfl

end Machine

------------------------------------------------------------
-- Moves
------------------------------------------------------------

/- The value that an instruction pushes, unless it is a call. -/
def Instruction.literal? : Instruction → Option Value
  | .string t => some (.string t)
  | .integer n => some (.integer n)
  | .quoted name => some (.function (.named name))
  | .block body => some (.function (.body body))
  | .call _ => none

/- The jobs that are to be done and the stack, top first. -/
structure Stage where
  jobs : List Job
  stack : List Value

/-
  One step, without loops and without functions of the program,
  as far as the jobs and the stack show it.
-/
inductive Stage.Moves : Stage → Stage → Prop
  | done
      {rest : List Job}
      {stack : List Value} :
      Moves ⟨.code [] :: rest, stack⟩ ⟨rest, stack⟩
  | literal
      {i : Instruction}
      {v : Value}
      {more : List Instruction}
      {rest : List Job}
      {stack : List Value}
      (h : i.literal? = some v) :
      Moves ⟨.code (i :: more) :: rest, stack⟩
        ⟨.code more :: rest, v :: stack⟩
  | call
      {name : Text}
      {more : List Instruction}
      {rest : List Job}
      {stack : List Value} :
      Moves ⟨.code (.call name :: more) :: rest, stack⟩
        ⟨.symbol name :: .code more :: rest, stack⟩
  | body
      {code : List Instruction}
      {rest : List Job}
      {stack : List Value} :
      Moves ⟨.callable (.body code) :: rest, stack⟩
        ⟨.code code :: rest, stack⟩
  | named
      {name : Text}
      {rest : List Job}
      {stack : List Value} :
      Moves ⟨.callable (.named name) :: rest, stack⟩
        ⟨.symbol name :: rest, stack⟩
  | reduce
      {name : Text}
      {rest : List Job}
      {dropped results kept : List Value}
      (h : ∀ v ∈ results, v.isPlain = true) :
      Moves ⟨.symbol name :: rest, dropped ++ kept⟩
        ⟨rest, results ++ kept⟩
  | duplicate
      {v : Value}
      {rest : List Job}
      {stack : List Value} :
      Moves ⟨.symbol Operation.duplicate.name :: rest, v :: stack⟩
        ⟨rest, v :: v :: stack⟩
  | swap
      {b a : Value}
      {rest : List Job}
      {stack : List Value} :
      Moves ⟨.symbol Operation.swap.name :: rest, b :: a :: stack⟩
        ⟨rest, a :: b :: stack⟩
  | branch
      {otherwise positive chosen : Callable}
      {k : Int64}
      {rest : List Job}
      {stack : List Value}
      (h : chosen = otherwise ∨ chosen = positive) :
      Moves
        ⟨.symbol Control.conditional.name :: rest,
          .function otherwise :: .function positive :: .integer k ::
            stack⟩
        ⟨.callable chosen :: rest, stack⟩

/- A success of an operation is a move. -/
theorem Operation.moves_perform
    {s : Setting}
    {o : Operation}
    {m n : Machine}
    (h : o.perform s m = (.ok (), n))
    (rest : List Job) :
    Stage.Moves ⟨.symbol o.name :: rest, m.stack⟩
      ⟨rest, n.stack⟩ := by
  by_cases hCopy : o = .duplicate
  · subst hCopy
    rcases duplicate_ok h with ⟨v, stack, hBefore, hAfter⟩
    rw [hBefore, hAfter]
    exact .duplicate
  · by_cases hExchange : o = .swap
    · subst hExchange
      rcases swap_ok h with ⟨b, a, stack, hBefore, hAfter⟩
      rw [hBefore, hAfter]
      exact .swap
    · rcases leaves_perform o hCopy hExchange m n h with
        ⟨results, kept, hAfter, ⟨dropped, hBefore⟩, hResults⟩
      rw [← hBefore, hAfter]
      exact .reduce hResults

/- A value that is pushed for a name is a move if it is plain. -/
theorem Stage.moves_push
    {v : Value}
    (h : v.isPlain = true)
    (name : Text)
    (rest : List Job)
    (stack : List Value) :
    Moves ⟨.symbol name :: rest, stack⟩ ⟨rest, v :: stack⟩ := by
  have hMove : Moves ⟨.symbol name :: rest, [] ++ stack⟩
      ⟨rest, [v] ++ stack⟩ := by
    apply Moves.reduce
    intro u hMem
    rwa [List.mem_singleton.1 hMem]
  exact hMove

namespace Builtin

/- A built-in function is found under its name. -/
theorem name_of_ofName?
    {name : Text}
    {b : Builtin}
    (h : ofName? name = some b) : b.name = name := by
  have hFound := List.find?_some h
  exact eq_of_beq hFound

end Builtin

namespace Machine

variable {s : Setting}
variable {m n : Machine}

/- A name that means a built-in function is its name. -/
theorem name_of_meaning
    {name : Text}
    {b : Builtin}
    (h : m.meaning s name = .builtin b) : b.name = name := by
  unfold meaning at h
  split at h
  · cases h
  · split at h
    · cases h
    · split at h
      · cases h
      · split at h
        · cases h
        · split at h
          · cases h
          · split at h
            · rename_i hName
              cases h
              exact Builtin.name_of_ofName? hName
            · cases h

/- A program without functions gives no meaning of this kind. -/
theorem meaning_ne_function
    (hFunctions : ∀ name, s.program.function? name = none)
    (name : Text)
    (body : List Instruction) :
    m.meaning s name ≠ .function body := by
  intro h
  unfold meaning at h
  split at h
  · cases h
  · split at h
    · cases h
    · split at h
      · cases h
      · split at h
        · cases h
        · split at h
          · rename_i hFunction
            rw [hFunctions name] at hFunction
            cases hFunction
          · split at h <;> cases h

/- Operations do not change the types of variables. -/
theorem WellTyped.perform
    {o : Operation}
    (h : m.WellTyped s)
    {result : Except Error Unit}
    (hEnd : o.perform s m = (result, n)) : n.WellTyped s := by
  have hKeeps : Invariant s (WellTyped s) := invariant_wellTyped
  have hAll := hKeeps.congruence.compositional.perform o m m
    ⟨rfl, h⟩
  refine hAll.endsIn result n ?_
  change (o.perform s).outcome m = .finished result n
  rw [Action.outcome, hEnd]

theorem WellTyped.chooseBranch
    (h : m.WellTyped s)
    {result : Except Error Callable}
    (hEnd : Machine.chooseBranch m = (result, n)) :
    n.WellTyped s := by
  have hKeeps : Invariant s (WellTyped s) := invariant_wellTyped
  have hAll := hKeeps.congruence.compositional.chooseBranch m m
    ⟨rfl, h⟩
  refine hAll.endsIn result n ?_
  change Machine.chooseBranch.outcome m = .finished result n
  rw [Action.outcome, hEnd]

/- Without functions there is no routine for the entry's type. -/
theorem typeRoutine_ne_ok
    (hFunctions : ∀ name, s.program.function? name = none)
    (name : Text) :
    typeRoutine s m ≠ (.ok name, n) := by
  intro h
  rcases Action.bind_ok h with ⟨e, m', _, hRoutine⟩
  cases hType : s.program.typeRoutine? e.entryType with
  | none =>
      rw [hType] at hRoutine
      cases hRoutine
  | some routine =>
      rcases Program.exists_function_of_typeRoutine? hType with
        ⟨body, hBody⟩
      rw [hFunctions routine] at hBody
      cases hBody

end Machine

namespace Configuration

open Machine

variable {s : Setting}

/- An operation that goes on has succeeded. -/
theorem attempt_goes
    {α : Type}
    {x : Action α}
    {next : α → List Task}
    {m : Machine}
    {c' : Configuration}
    (h : attempt x next m = .goes c') :
    ∃ a, x m = (.ok a, c'.machine) ∧ c'.tasks = next a := by
  unfold attempt at h
  rcases hResult : x m with ⟨result, n⟩
  rw [hResult] at h
  cases result with
  | error e => cases h
  | ok a =>
      cases h
      exact ⟨a, rfl, rfl⟩

/- Whether a job is neither a loop nor the name of loops. -/
def isLoopless : Job → Prop
  | .symbol name => name ≠ Control.loop.name
  | .loop _ _ => False
  | _ => True

/- A success of a name is a move, whatever the name means. -/
theorem exists_moves_symbol
    (hFunctions : ∀ name, s.program.function? name = none)
    {m : Machine}
    (hTyped : m.WellTyped s)
    {name : Text}
    (hName : name ≠ Control.loop.name)
    {rest : List Job}
    {c' : Configuration}
    (hStep : stepMeaning s name (rest.map .job) m
      (m.meaning s name) = .goes c') :
    ∃ jobs, c'.tasks = jobs.map .job ∧ c'.machine.WellTyped s ∧
      Stage.Moves ⟨.symbol name :: rest, m.stack⟩
        ⟨jobs, c'.machine.stack⟩ := by
  cases hMeaning : m.meaning s name with
  | outsideEntry =>
      rw [hMeaning] at hStep
      cases hStep
  | undefined =>
      rw [hMeaning] at hStep
      cases hStep
  | function body =>
      exact absurd hMeaning (meaning_ne_function hFunctions name body)
  | value v =>
      rw [hMeaning] at hStep
      cases hStep
      exact ⟨rest, rfl, { hTyped with },
        Stage.moves_push (hTyped.isPlain_of_meaning hMeaning) _ _ _⟩
  | field =>
      rw [hMeaning] at hStep
      rcases c' with ⟨tasks, n⟩
      rcases attempt_goes hStep with ⟨_, hRead, hTasks⟩
      rcases Action.bind_ok hRead with ⟨v, m', hField, hPush⟩
      have hSame : m' = m := by
        have hState := snd_fieldValue s name m
        rw [hField] at hState
        exact hState
      subst hSame
      cases hPush
      exact ⟨rest, hTasks, { hTyped with },
        Stage.moves_push (isPlain_of_fieldValue hField) _ _ _⟩
  | builtin b =>
      have hBuiltin : b.name = name := name_of_meaning hMeaning
      rw [hMeaning] at hStep
      subst hBuiltin
      cases b with
      | operation o =>
          rcases attempt_goes hStep with ⟨_, hPerform, hTasks⟩
          exact ⟨rest, hTasks, hTyped.perform hPerform,
            Operation.moves_perform hPerform rest⟩
      | control control =>
          cases control with
          | callType =>
              rcases attempt_goes hStep with ⟨routine, hRoutine, _⟩
              exact absurd hRoutine
                (typeRoutine_ne_ok hFunctions routine)
          | conditional =>
              rcases attempt_goes hStep with
                ⟨chosen, hChoose, hTasks⟩
              rcases chooseBranch_ok hChoose with
                ⟨otherwise, positive, k, hStack, hChosen⟩
              refine ⟨.callable chosen :: rest, hTasks,
                hTyped.chooseBranch hChoose, ?_⟩
              rw [hStack]
              exact .branch hChosen
          | loop => exact absurd rfl hName

/-
  Without functions of the program and without loops, every step
  from jobs is a move, and it keeps the types of the variables.
-/
theorem exists_moves
    (hFunctions : ∀ name, s.program.function? name = none)
    {m : Machine}
    (hTyped : m.WellTyped s)
    {jobs : List Job}
    (hLoopless : ∀ job ∈ jobs, isLoopless job)
    {c' : Configuration}
    (hStep : step s ⟨jobs.map .job, m⟩ = .goes c') :
    ∃ jobs', c'.tasks = jobs'.map .job ∧ c'.machine.WellTyped s ∧
      Stage.Moves ⟨jobs, m.stack⟩ ⟨jobs', c'.machine.stack⟩ := by
  cases jobs with
  | nil => cases hStep
  | cons job rest =>
      have hJob := hLoopless job List.mem_cons_self
      cases job with
      | loop test body => exact absurd hJob id
      | symbol name =>
          exact exists_moves_symbol hFunctions hTyped hJob hStep
      | callable c =>
          cases c with
          | named name =>
              cases hStep
              exact ⟨.symbol name :: rest, rfl, hTyped, .named⟩
          | body code =>
              cases hStep
              exact ⟨.code code :: rest, rfl, hTyped, .body⟩
      | code is =>
          cases is with
          | nil =>
              cases hStep
              exact ⟨rest, rfl, hTyped, .done⟩
          | cons i more =>
              have hTraced := hTyped.traced i
              rcases traced_log m i with ⟨log, hLog⟩
              have hStack : (m.traced i).stack = m.stack := by
                rw [hLog]
              cases i with
              | call name =>
                  cases hStep
                  refine ⟨.symbol name :: .code more :: rest, rfl,
                    hTraced, ?_⟩
                  rw [hStack]
                  exact .call
              | _ =>
                  cases hStep
                  refine ⟨.code more :: rest, rfl,
                    { hTraced with }, ?_⟩
                  rw [← hStack]
                  exact .literal rfl

end Configuration

end Bibliography
