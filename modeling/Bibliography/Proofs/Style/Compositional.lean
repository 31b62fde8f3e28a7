import Bibliography.Proofs.Style.Observation

/-
  Properties that runs have because their parts have them.

  A property that the primitive operations have, and that lasts
  when parts are put together, holds of every built-in function
  and of every job.  So a fact about whole runs needs a look at
  the primitive operations only, and at what composition does.

  Key definitions include:
    * `Error.IsOwn`
    * `Watched.Operational`
    * `Watched.Compositional`

  Key statements include:
    * `Watched.Operational.perform`
    * `Watched.Compositional.observe`
-/

------------------------------------------------------------
-- Errors of Operations
------------------------------------------------------------

namespace Bibliography

/-
  The causes of errors that operations find on their own, with
  their operands in hand.
-/
def ErrorKind.isOwn : ErrorKind → Bool
  | .missingCrossref .. | .invalidName _ | .typeMismatch ..
  | .undefinedSymbol _ | .substringStartZero | .noTypeRoutine _
  | .noCurrentEntry _ | .nameIndexOutOfRange .. => true
  | _ => false

/- An error of an operation that has not left any function yet. -/
structure Error.IsOwn (e : Error) : Prop where
  kind : e.kind.isOwn = true
  context : e.context = none

/- The errors of a result are those of operations. -/
def OwnErrors
    {α : Type}
    (result : Except Error α) : Prop :=
  ∀ e, result = .error e → e.IsOwn

namespace OwnErrors

variable {α β : Type}

theorem ok (a : α) : OwnErrors (.ok a : Except Error α) := by
  intro e h
  cases h

theorem error
    {kind : ErrorKind}
    (h : kind.isOwn = true) :
    OwnErrors (.error (.of kind) : Except Error α) := by
  intro e hEq
  cases hEq
  exact ⟨h, rfl⟩

theorem bind
    {x : Except Error α}
    {f : α → Except Error β}
    (hx : OwnErrors x)
    (hf : ∀ a, OwnErrors (f a)) : OwnErrors (x >>= f) := by
  cases x with
  | ok a => exact hf a
  | error err =>
      intro e hEq
      cases hEq
      exact hx err rfl

theorem asInteger
    (v : Value)
    (operation : Text) : OwnErrors (v.asInteger operation) := by
  cases v with
  | integer n => exact ok n
  | _ => exact error rfl

theorem asText
    (v : Value)
    (operation : Text) : OwnErrors (v.asText operation) := by
  cases v with
  | string t => exact ok t
  | missing => exact ok []
  | _ => exact error rfl

theorem asCallable
    (v : Value)
    (operation : Text) : OwnErrors (v.asCallable operation) := by
  cases v with
  | function c => exact ok c
  | _ => exact error rfl

/- A variable keeps its type. -/
theorem assignedOver
    (old v : Value) : OwnErrors (old.assignedOver v) := by
  unfold Value.assignedOver
  split
  · exact ok _
  · exact ok _
  · exact ok _
  · exact error rfl

theorem compareEqual
    (a b : Value) : OwnErrors (Operation.compareEqual a b) := by
  unfold Operation.compareEqual
  split
  · exact ok _
  · exact error rfl
  · refine (asText _ _).bind (fun s => ?_)
    exact (asText _ _).bind (fun t => ok _)

theorem blank (v : Value) : OwnErrors (Operation.blank v) := by
  cases v with
  | missing => exact ok _
  | string t => exact ok _
  | _ => exact error rfl

theorem selectName
    (names : List Text)
    (index : Int64) : OwnErrors (Operation.selectName names index) := by
  unfold Operation.selectName
  dsimp only
  split
  · exact error rfl
  · split
    · exact ok _
    · exact error rfl

theorem parsePerson (name : Text) : OwnErrors (Person.parse name) := by
  unfold Person.parse
  dsimp only
  split
  · exact ok _
  · split
    · exact ok _
    · exact ok _
    · exact ok _
    · exact error rfl

theorem formatSelected
    (names : Text)
    (index : Int64)
    (pattern : Text) :
    OwnErrors (Operation.formatSelected names index pattern) := by
  refine (selectName _ _).bind (fun name => ?_)
  exact (parsePerson name).bind (fun p => ok _)

theorem substring
    (t : Text)
    (start len : Int64) : OwnErrors (t.substring start len) := by
  unfold Text.substring
  split
  · exact error rfl
  · split
    · exact ok _
    · exact ok _

/- A lookup fails at a reference to an unknown key only. -/
theorem lookupFrom
    (t : Table)
    (field : Text)
    (visited : List Text)
    (key : Text) : OwnErrors (t.lookupFrom field visited key) := by
  fun_induction Table.lookupFrom t field visited key with
  | case5 _ _ _ _ _ _ _ _ _ ih => exact ih
  | case6 => exact error rfl
  | _ => exact ok _

end OwnErrors

------------------------------------------------------------
-- Compositional Properties
------------------------------------------------------------

/-
  A property of watched computations that the primitive operations
  have and that lasts when operations are put together.
-/
structure Watched.Operational
    (s : Setting)
    (Q : (α : Type) → Watched α → Prop) : Prop where
  ofExcept : ∀ {α : Type} (result : Except Error α),
    OwnErrors result → Q α (Watched.lift (.ofExcept result))
  push : ∀ v, Q Unit (Watched.lift (Machine.push v))
  pop : ∀ operation, Q Value (Watched.lift (Machine.pop operation))
  report : ∀ event, Q Unit (Watched.lift (Machine.report event))
  warn : ∀ message, Q Unit (Watched.lift (Machine.warn message))
  write : ∀ t, Q Unit (Watched.lift (Machine.write t))
  assign : ∀ name v,
    Q Unit (Watched.lift (Machine.assign s name v))
  currentKey : ∀ operation,
    Q Text (Watched.lift (Machine.currentKey operation))
  showStack :
    Q Unit ((Watched.lift (Operation.perform s .showStack)).part
      (.operation .showStack))
  andThen : ∀ {α β : Type} (w : Watched α) (next : α → Watched β),
    Q α w → (∀ a, Q β (next a)) → Q β (w.andThen next)
  part : ∀ (b : Builtin) (w : Watched Unit),
    Q Unit w → Q Unit (w.part b)

/-
  A property of operations that lasts also when code is run.
-/
structure Watched.Compositional
    (s : Setting)
    (Q : (α : Type) → Watched α → Prop) : Prop
    extends Watched.Operational s Q where
  endless : Q Unit Watched.endless
  inFrame : ∀ (frame : Text) (w : Watched Unit),
    Q Unit w → Q Unit (w.inFrame frame)
  traced : ∀ (i : Instruction) (w : Watched Unit),
    Q Unit w → Q Unit (w.traced i)
  byMeaning : ∀ (name : Text) (w : Meaning → Watched Unit),
    (∀ meaning, Q Unit (w meaning)) →
      Q Unit (Watched.byMeaning s name w)

namespace Watched.Operational

open OwnErrors

variable {s : Setting}
variable {Q : (α : Type) → Watched α → Prop}
variable {α β : Type}

/- Operations in a row. -/
theorem bind
    (h : Operational s Q)
    {x : Action α}
    {f : α → Action β}
    (hx : Q α (lift x))
    (hf : ∀ a, Q β (lift (f a))) : Q β (lift (x >>= f)) := by
  rw [lift_bind]
  exact h.andThen _ _ hx hf

theorem pure
    (h : Operational s Q)
    (a : α) : Q α (lift (Pure.pure a)) :=
  h.ofExcept (.ok a) (.ok a)

theorem fail
    (h : Operational s Q)
    {kind : ErrorKind}
    (hOwn : kind.isOwn = true) : Q α (lift (.fail (.of kind))) :=
  h.ofExcept (.error (.of kind)) (.error hOwn)

theorem popInteger
    (h : Operational s Q)
    (operation : Text) : Q Int64 (lift (Machine.popInteger operation)) :=
  h.bind (h.pop operation) (fun v => h.ofExcept _ (asInteger v _))

theorem popText
    (h : Operational s Q)
    (operation : Text) : Q Text (lift (Machine.popText operation)) :=
  h.bind (h.pop operation) (fun v => h.ofExcept _ (asText v _))

theorem popCallable
    (h : Operational s Q)
    (operation : Text) :
    Q Callable (lift (Machine.popCallable operation)) :=
  h.bind (h.pop operation) (fun v => h.ofExcept _ (asCallable v _))

/- The current entry is known from its key. -/
theorem currentEntry
    (h : Operational s Q)
    (operation : Text) :
    Q Entry (lift (Machine.currentEntry s operation)) := by
  apply h.bind (h.currentKey operation)
  intro key
  split
  · exact h.pure _
  · exact h.fail rfl

theorem fieldValue
    (h : Operational s Q)
    (name : Text) : Q Value (lift (Machine.fieldValue s name)) := by
  apply h.bind (h.currentKey name)
  intro key
  split
  · exact h.pure _
  · rename_i t _
    have hOwn := lookupFrom t name [] key
    unfold Table.lookupField
    split
    · rename_i e hLookup
      refine h.ofExcept (.error e) ?_
      intro e' hEq
      cases hEq
      exact hOwn e hLookup
    · exact h.pure _
    · exact h.pure _

------------------------------------------------------------
-- Built-in Functions
------------------------------------------------------------

theorem onIntegers
    (h : Operational s Q)
    (o : Operation)
    (f : Int64 → Int64 → Value) :
    Q Unit (lift (Operation.onIntegers o f)) := by
  apply h.bind (h.popInteger o.name)
  intro b
  apply h.bind (h.popInteger o.name)
  intro a
  exact h.push (f a b)

theorem onText
    (h : Operational s Q)
    (o : Operation)
    (f : Text → Value) : Q Unit (lift (Operation.onText o f)) := by
  apply h.bind (h.popText o.name)
  intro t
  exact h.push (f t)

/- The built-in functions that run no other code. -/
theorem perform
    (h : Operational s Q)
    (o : Operation) :
    Q Unit ((lift (o.perform s)).part (.operation o)) := by
  cases o with
  | showStack => exact h.showStack
  | add => exact h.part _ _ (h.onIntegers _ _)
  | subtract => exact h.part _ _ (h.onIntegers _ _)
  | greater => exact h.part _ _ (h.onIntegers _ _)
  | less => exact h.part _ _ (h.onIntegers _ _)
  | addPeriod => exact h.part _ _ (h.onText _ _)
  | countNames => exact h.part _ _ (h.onText _ _)
  | textLength => exact h.part _ _ (h.onText _ _)
  | width => exact h.part _ _ (h.onText _ _)
  | purify => exact h.part _ _ (h.onText _ _)
  | preamble => exact h.part _ _ (h.push _)
  | quoteMark => exact h.part _ _ (h.push _)
  | globalMax => exact h.part _ _ (h.push _)
  | entryMax => exact h.part _ _ (h.push _)
  | newline => exact h.part _ _ (h.write _)
  | skip => exact h.part _ _ (h.pure ())
  | write => exact h.part _ _ (h.bind (h.popText _) h.write)
  | warn => exact h.part _ _ (h.bind (h.popText _) h.warn)
  | showTop =>
      exact h.part _ _ (h.bind (h.pop _) (fun v => h.report _))
  | drop =>
      exact h.part _ _ (h.bind (h.pop _) (fun _ => h.pure ()))
  | isMissing =>
      exact h.part _ _ (h.bind (h.pop _) (fun v => h.push _))
  | cite =>
      exact h.part _ _ (h.bind (h.currentKey _) (fun key => h.push _))
  | entryType =>
      exact h.part _ _ (h.bind (h.currentEntry _) (fun e => h.push _))
  | integerToText =>
      exact h.part _ _ (h.bind (h.popInteger _) (fun n => h.push _))
  | concatenate =>
      apply h.part
      apply h.bind (h.popText _)
      intro b
      exact h.bind (h.popText _) (fun a => h.push _)
  | truncate =>
      apply h.part
      apply h.bind (h.popInteger _)
      intro len
      exact h.bind (h.popText _) (fun t => h.push _)
  | duplicate =>
      apply h.part
      apply h.bind (h.pop _)
      intro v
      exact h.bind (h.push v) (fun _ => h.push v)
  | swap =>
      apply h.part
      apply h.bind (h.pop _)
      intro b
      apply h.bind (h.pop _)
      intro a
      exact h.bind (h.push b) (fun _ => h.push a)
  | isEmpty =>
      apply h.part
      apply h.bind (h.pop _)
      intro v
      exact h.bind (h.ofExcept _ (blank v)) (fun b => h.push _)
  | equal =>
      apply h.part
      apply h.bind (h.pop _)
      intro b
      apply h.bind (h.pop _)
      intro a
      exact h.bind (h.ofExcept _ (compareEqual a b))
        (fun same => h.push _)
  | assign =>
      apply h.part
      apply h.bind (h.pop _)
      intro target
      apply h.bind (h.pop _)
      intro v
      split
      · exact h.assign _ v
      · exact h.fail rfl
  | changeCase =>
      apply h.part
      apply h.bind (h.popText _)
      intro mode
      apply h.bind (h.popText _)
      intro t
      split
      · exact h.push _
      · exact h.bind (h.warn _) (fun _ => h.push _)
  | formatName =>
      apply h.part
      apply h.bind (h.popText _)
      intro pattern
      apply h.bind (h.popInteger _)
      intro index
      apply h.bind (h.popText _)
      intro names
      exact h.bind (h.ofExcept _ (formatSelected names index pattern))
        (fun t => h.push _)
  | substring =>
      apply h.part
      apply h.bind (h.popInteger _)
      intro len
      apply h.bind (h.popInteger _)
      intro start
      apply h.bind (h.popText _)
      intro t
      exact h.bind (h.ofExcept _ (OwnErrors.substring t start len))
        (fun piece => h.push _)
  | charToInteger =>
      apply h.part
      apply h.bind (h.popText _)
      intro t
      split
      · exact h.push _
      · exact h.bind (h.warn _) (fun _ => h.push _)
  | integerToChar =>
      apply h.part
      apply h.bind (h.popInteger _)
      intro n
      split
      · exact h.push _
      · exact h.bind (h.warn _) (fun _ => h.push _)

/- What the functions that run other code ask of the machine. -/
theorem typeRoutine
    (h : Operational s Q) : Q Text (lift (Machine.typeRoutine s)) := by
  apply h.bind (h.currentEntry _)
  intro e
  split
  · exact h.pure _
  · exact h.fail rfl

theorem chooseBranch
    (h : Operational s Q) :
    Q Callable (lift Machine.chooseBranch) := by
  apply h.bind (h.popCallable _)
  intro otherwise
  apply h.bind (h.popCallable _)
  intro positive
  apply h.bind (h.popInteger _)
  intro n
  exact h.pure _

theorem loopParts
    (h : Operational s Q) :
    Q (Callable × Callable) (lift Machine.loopParts) := by
  apply h.bind (h.popCallable _)
  intro body
  apply h.bind (h.popCallable _)
  intro test
  exact h.pure _

end Watched.Operational

------------------------------------------------------------
-- Jobs
------------------------------------------------------------

namespace Watched.Compositional

variable {s : Setting}
variable {Q : (α : Type) → Watched α → Prop}

/-
  Every job has the property, with any amount of fuel.  The
  induction is on the fuel, which every step into other code uses.
-/
theorem observe
    (h : Compositional s Q)
    (fuel : Nat)
    (job : Job) : Q Unit (Machine.observe s fuel job) := by
  induction fuel generalizing job with
  | zero => exact h.endless
  | succ fuel ih =>
      cases job with
      | callable c =>
          cases c with
          | named name => exact ih (.symbol name)
          | body code => exact ih (.code code)
      | code is =>
          cases is with
          | nil => exact h.pure ()
          | cons i rest =>
              unfold Machine.observe
              refine h.andThen _ _ (h.traced i _ ?_)
                (fun _ => ih (.code rest))
              cases i with
              | call name => exact ih (.symbol name)
              | string t => exact h.push _
              | integer n => exact h.push _
              | quoted name => exact h.push _
              | block body => exact h.push _
      | symbol name =>
          unfold Machine.observe
          apply h.byMeaning
          intro meaning
          cases meaning with
          | value v => exact h.push v
          | outsideEntry => exact h.fail rfl
          | undefined => exact h.fail rfl
          | field => exact h.bind (h.fieldValue name) h.push
          | function body => exact h.inFrame _ _ (ih (.code body))
          | builtin b =>
              cases b with
              | operation o => exact h.perform o
              | control c =>
                  cases c with
                  | callType =>
                      exact h.part _ _ (h.andThen _ _ h.typeRoutine
                        (fun routine => ih (.symbol routine)))
                  | conditional =>
                      exact h.part _ _ (h.andThen _ _ h.chooseBranch
                        (fun branch => ih (.callable branch)))
                  | loop =>
                      exact h.part _ _ (h.andThen _ _ h.loopParts
                        (fun parts => ih (.loop parts.1 parts.2)))
      | loop test body =>
          unfold Machine.observe
          apply h.andThen _ _ (ih (.callable test))
          intro _
          apply h.andThen _ _ (h.popInteger _)
          intro n
          split
          · exact h.andThen _ _ (ih (.callable body))
              (fun _ => ih (.loop test body))
          · exact h.pure ()

end Watched.Compositional

end Bibliography
