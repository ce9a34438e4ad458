import DicePool.Proofs.Budget

/-!
# Calculations

A calculation is an evaluation over the integers: a tree of requests to the context and of
operations on integers of any size. Carried out exactly, every operation gives its exact
result. Carried out checked, the first operation whose result does not fit into 64 bits
stops it and is named. Up to there both do the same.
-/

namespace DicePool

variable {ρ α β : Type}

/-- The integers that 64 bits hold. -/
def Fits (n : Int) : Prop := -9223372036854775808 ≤ n ∧ n ≤ 9223372036854775807

/-- The range is decidable. -/
instance (n : Int) : Decidable (Fits n) := inferInstanceAs (Decidable (_ ∧ _))

/-- The integer of a value is in the range. -/
theorem fits_toInt (value : Int64) : Fits value.toInt := by
  have low := value.le_toInt
  have high := value.toInt_lt
  unfold Fits
  omega

/-- An operation with its operands. -/
inductive Operation where
  /-- An operation between two integers. -/
  | apply (op : Arithmetic) (left right : Int)
  /-- The sign of an integer turned around. -/
  | negate (value : Int)
deriving DecidableEq

/-- The exact result, a quotient rounded down. Only a quotient by zero has none. -/
def Operation.result? : Operation → Option Int
  | apply .add left right => some (left + right)
  | apply .subtract left right => some (left - right)
  | apply .multiply left right => some (left * right)
  | apply .divide left right => if right = 0 then none else some (left.fdiv right)
  | negate value => some (-value)

/-- The sides that an integer stands for; no die has fewer than one or more than
`2 ^ 32 - 1`. -/
def Sides.ofInt? (n : Int) : Option Sides :=
  if h : 0 < n ∧ n < UInt32.size then
    some ⟨UInt32.ofNat n.toNat, by
      rw [UInt32.toNat_ofNat_of_lt' (by omega)]
      omega⟩
  else none

/-- Why a calculation stops before its end. -/
inductive Cause where
  /-- The budget does not cover another roll. -/
  | tooManyRolls
  /-- A quotient has no value. -/
  | divideByZero
  /-- The exact result of the operation does not fit. -/
  | overflow (operation : Operation)
  /-- No die has so many sides. -/
  | invalidSides (sides : Int)
deriving DecidableEq

/-- The requests and operations of a computation, each with what comes after it. -/
inductive Calculation (α : Type) where
  /-- The result. -/
  | done (value : α)
  /-- The fuel has run out. -/
  | stuck
  /-- A roll is counted. -/
  | counting (next : Calculation α)
  /-- The budget has to cover `rolls` more rolls. -/
  | reserving (rolls : Nat) (next : Calculation α)
  /-- A roll is counted and a face taken. -/
  | rolling (sides : Int) (next : Int → Calculation α)
  /-- An operation is carried out. -/
  | computing (operation : Operation) (next : Int → Calculation α)

namespace Calculation

/-- One calculation, and then the one that its result decides. -/
def bind : Calculation α → (α → Calculation β) → Calculation β
  | done value, next => next value
  | stuck, _ => stuck
  | counting rest, next => counting (rest.bind next)
  | reserving rolls rest, next => reserving rolls (rest.bind next)
  | rolling sides rest, next => rolling sides fun face => (rest face).bind next
  | computing operation rest, next => computing operation fun value => (rest value).bind next

/-- A calculation is followed by another that its result decides. -/
instance : Monad Calculation where
  pure := done
  bind := bind

/-- A calculation that nothing follows is itself. -/
theorem bind_done (plan : Calculation α) : plan.bind done = plan := by
  induction plan with
  | done value => rfl
  | stuck => rfl
  | counting rest ih => rw [bind, ih]
  | reserving rolls rest ih => rw [bind, ih]
  | rolling sides rest ih => rw [bind, funext ih]
  | computing operation rest ih => rw [bind, funext ih]

/-- Calculations follow each other in whatever grouping. -/
theorem bind_bind {γ : Type} (plan : Calculation α) (next : α → Calculation β)
    (last : β → Calculation γ) :
    (plan.bind next).bind last = plan.bind fun value => (next value).bind last := by
  induction plan with
  | done value => rfl
  | stuck => rfl
  | counting rest ih => rw [bind, bind, ih, bind]
  | reserving rolls rest ih => rw [bind, bind, ih, bind]
  | rolling sides rest ih => rw [bind, bind, funext ih, bind]
  | computing operation rest ih => rw [bind, bind, funext ih, bind]

/-- The laws of a monad hold of calculations. -/
instance : LawfulMonad Calculation :=
  LawfulMonad.mk' Calculation bind_done (fun _ _ => rfl) bind_bind

/-- Counts a roll. -/
def countRoll : Calculation Unit := counting (done ())

/-- Makes sure that the budget covers `rolls` more rolls. -/
def reserve (rolls : Nat) : Calculation Unit := reserving rolls (done ())

/-- Rolls a die of so many sides. -/
def rollFace (sides : Int) : Calculation Int := rolling sides done

/-- Carries out an operation. -/
def compute (operation : Operation) : Calculation Int := computing operation done

section

variable [Roller ρ]

/-- Carries out a calculation in which only results that are admitted may occur. -/
def run (admits : Int → Bool) :
    Calculation α → Context ρ → Option (Except Cause α × Context ρ)
  | done value, context => some (.ok value, context)
  | stuck, _ => none
  | counting next, context =>
    if context.full then some (.error .tooManyRolls, context.counted)
    else next.run admits context.counted
  | reserving rolls next, context =>
    if context.exceeds (context.after rolls) then some (.error .tooManyRolls, context)
    else next.run admits context
  | rolling sides next, context =>
    match Sides.ofInt? sides with
    | none => some (.error (.invalidSides sides), context)
    | some valid =>
      if context.full then some (.error .tooManyRolls, context.counted)
      else (next (Roller.roll context.roller valid).1.toNat).run admits (context.rolled valid)
  | computing operation next, context =>
    match operation.result? with
    | none => some (.error .divideByZero, context)
    | some value =>
      if admits value then (next value).run admits context
      else some (.error (.overflow operation), context)

/-- Carries out a calculation with exact results of any size. -/
def exact (plan : Calculation α) (context : Context ρ) :
    Option (Except Cause α × Context ρ) :=
  plan.run (fun _ => true) context

/-- Carries out a calculation up to the first result that does not fit. -/
def checked (plan : Calculation α) (context : Context ρ) :
    Option (Except Cause α × Context ρ) :=
  plan.run (fun value => decide (Fits value)) context

/-- The operations that are carried out with exact results, in order, each with the context in
which it is reached. -/
def operations : Calculation α → Context ρ → List (Operation × Context ρ)
  | done _, _ | stuck, _ => []
  | counting next, context => if context.full then [] else next.operations context.counted
  | reserving rolls next, context =>
    if context.exceeds (context.after rolls) then [] else next.operations context
  | rolling sides next, context =>
    match Sides.ofInt? sides with
    | none => []
    | some valid =>
      if context.full then []
      else (next (Roller.roll context.roller valid).1.toNat).operations (context.rolled valid)
  | computing operation next, context =>
    (operation, context) ::
      match operation.result? with
      | none => []
      | some value => (next value).operations context

/-- Nothing is carried out after a stop. -/
theorem run_bind (admits : Int → Bool) (plan : Calculation α) (next : α → Calculation β)
    (context : Context ρ) :
    (plan >>= next).run admits context =
      match plan.run admits context with
      | none => none
      | some (.error cause, context) => some (.error cause, context)
      | some (.ok value, context) => (next value).run admits context := by
  show (plan.bind next).run admits context = _
  induction plan generalizing context with
  | done value => rfl
  | stuck => rfl
  | counting rest ih =>
    rw [bind, run, run]
    split
    · rfl
    · exact ih _
  | reserving rolls rest ih =>
    rw [bind, run, run]
    split
    · rfl
    · exact ih _
  | rolling sides rest ih =>
    rw [bind, run, run]
    cases Sides.ofInt? sides with
    | none => rfl
    | some valid =>
      dsimp only
      split
      · rfl
      · exact ih _ _
  | computing operation rest ih =>
    rw [bind, run, run]
    cases operation.result? with
    | none => rfl
    | some value =>
      dsimp only
      split
      · exact ih _ _
      · rfl

end

end Calculation

/-- The exact result, if there is one, fits. -/
def Operation.Fits (operation : Operation) : Prop :=
  ∀ value, operation.result? = some value → DicePool.Fits value

/-- What the exact calculation does where the checked one ends: the same, or it comes there to the
first operation that does not fit, which is the one refused. -/
inductive SameUpToOverflow (result : Except Cause α) (after : Context ρ) :
    Option (Except Cause α × Context ρ) → List (Operation × Context ρ) → Prop where
  /-- All operations fit, and the end is the same. -/
  | same {operations : List (Operation × Context ρ)}
    (other : ∀ operation, result ≠ .error (.overflow operation))
    (fit : ∀ entry ∈ operations, entry.1.Fits) :
    SameUpToOverflow result after (some (result, after)) operations
  /-- The refused operation is the first that does not fit. -/
  | overflow {out : Option (Except Cause α × Context ρ)} {operation : Operation} {value : Int}
    {earlier later : List (Operation × Context ρ)}
    (stops : result = .error (.overflow operation)) (exact : operation.result? = some value)
    (large : ¬Fits value) (fit : ∀ entry ∈ earlier, entry.1.Fits) :
    SameUpToOverflow result after out (earlier ++ (operation, after) :: later)

namespace SameUpToOverflow

variable {result : Except Cause α} {after : Context ρ} {out : Option (Except Cause α × Context ρ)}
  {operations : List (Operation × Context ρ)}

/-- An end before any operation. -/
theorem stop (other : ∀ operation, result ≠ .error (.overflow operation)) :
    SameUpToOverflow result after (some (result, after)) [] :=
  same other (by simp)

/-- A request is refused in both or in neither. -/
theorem request {refused : Bool} {reached : Context ρ}
    {checked : Option (Except Cause α × Context ρ)}
    (rest : checked = some (result, after) → SameUpToOverflow result after out operations)
    (run : (if refused then some (.error .tooManyRolls, reached) else checked) =
      some (result, after)) :
    SameUpToOverflow result after
      (if refused then some (.error .tooManyRolls, reached) else out)
      (if refused then [] else operations) := by
  cases refused with
  | false => exact rest run
  | true =>
    cases run
    exact stop (by simp)

/-- An operation that fits comes before the others. -/
theorem cons {operation : Operation} {context : Context ρ} (fits : operation.Fits)
    (rest : SameUpToOverflow result after out operations) :
    SameUpToOverflow result after out ((operation, context) :: operations) := by
  cases rest with
  | same other fit => exact same other (List.forall_mem_cons.2 ⟨fits, fit⟩)
  | @overflow _ last _ earlier later stops exact large fit =>
    rw [← List.cons_append]
    exact overflow stops exact large (List.forall_mem_cons.2 ⟨fits, fit⟩)

end SameUpToOverflow

namespace Calculation

section

variable [Roller ρ] {plan : Calculation α} {context after : Context ρ} {result : Except Cause α}

/-- The exact calculation does the same as the checked one, all of it or up to the first operation
that does not fit. -/
theorem sameUpToOverflow_of_checked (run : plan.checked context = some (result, after)) :
    SameUpToOverflow result after (plan.exact context) (plan.operations context) := by
  unfold checked at run
  unfold exact
  induction plan generalizing context with
  | done value =>
    cases run
    exact .stop (by simp)
  | stuck => cases run
  | counting rest ih => exact SameUpToOverflow.request ih run
  | reserving rolls rest ih => exact SameUpToOverflow.request ih run
  | rolling sides rest ih =>
    rw [Calculation.run] at run
    rw [Calculation.run, operations]
    cases known : Sides.ofInt? sides with
    | none =>
      rw [known] at run
      cases run
      exact .stop (by simp)
    | some valid =>
      rw [known] at run
      exact SameUpToOverflow.request (ih _) run
  | computing operation rest ih =>
    rw [Calculation.run] at run
    rw [Calculation.run, operations]
    cases known : operation.result? with
    | none =>
      rw [known] at run
      cases run
      refine .cons ?_ (.stop (by simp))
      intro value same
      rw [known] at same
      cases same
    | some value =>
      rw [known] at run
      dsimp only at run ⊢
      by_cases fits : Fits value
      · have small : operation.Fits := by
          intro other same
          rw [known] at same
          cases same
          exact fits
        rw [if_pos (decide_eq_true fits)] at run
        rw [if_pos rfl]
        exact .cons small (ih value run)
      · rw [if_neg (by simpa using fits)] at run
        cases run
        have nothing : ∀ entry ∈ ([] : List (Operation × Context ρ)), entry.1.Fits := by simp
        exact .overflow rfl known fits nothing

/-- What is checked without an overflow is exact. -/
theorem exact_of_checked (run : plan.checked context = some (result, after))
    (other : ∀ operation, result ≠ .error (.overflow operation)) :
    plan.exact context = some (result, after) ∧
      ∀ entry ∈ plan.operations context, entry.1.Fits := by
  have related := sameUpToOverflow_of_checked run
  generalize plan.exact context = out at related
  generalize plan.operations context = entries at related
  cases related with
  | same _ fit => exact ⟨rfl, fit⟩
  | overflow stops _ _ _ => exact absurd stops (other _)

/-- Where an overflow stops the checked calculation, the exact one comes to the same operation. -/
theorem operations_of_overflow {operation : Operation}
    (run : plan.checked context = some (.error (.overflow operation), after)) :
    ∃ value earlier later, operation.result? = some value ∧ ¬Fits value ∧
      plan.operations context = earlier ++ (operation, after) :: later ∧
      ∀ entry ∈ earlier, entry.1.Fits := by
  have related := sameUpToOverflow_of_checked run
  generalize plan.exact context = out at related
  generalize plan.operations context = entries at related ⊢
  cases related with
  | same other _ => exact absurd rfl (other operation)
  | @overflow _ _ value earlier later stops exact large fit =>
    cases stops
    exact ⟨value, earlier, later, exact, large, rfl, fit⟩

end

/-- The second calculation does what the first does, and may go on where that is stuck. -/
inductive Below : Calculation α → Calculation α → Prop where
  /-- A value is kept. -/
  | done (value : α) : Below (done value) (done value)
  /-- Want of fuel is below everything. -/
  | stuck (plan : Calculation α) : Below stuck plan
  /-- A roll is counted in both. -/
  | counting {rest more : Calculation α} (below : Below rest more) :
    Below (counting rest) (counting more)
  /-- Rolls are reserved in both. -/
  | reserving (rolls : Nat) {rest more : Calculation α} (below : Below rest more) :
    Below (reserving rolls rest) (reserving rolls more)
  /-- A face is rolled in both. -/
  | rolling (sides : Int) {rest more : Int → Calculation α}
    (below : ∀ face, Below (rest face) (more face)) :
    Below (rolling sides rest) (rolling sides more)
  /-- An operation is made in both. -/
  | computing (operation : Operation) {rest more : Int → Calculation α}
    (below : ∀ value, Below (rest value) (more value)) :
    Below (computing operation rest) (computing operation more)

namespace Below

/-- Every calculation is below itself. -/
theorem refl (plan : Calculation α) : Below plan plan := by
  induction plan with
  | done value => exact done value
  | stuck => exact stuck _
  | counting rest ih => exact counting ih
  | reserving rolls rest ih => exact reserving rolls ih
  | rolling sides rest ih => exact rolling sides ih
  | computing operation rest ih => exact computing operation ih

/-- Sequences grow with both of their parts. -/
theorem bind {plan more : Calculation α} {next further : α → Calculation β}
    (first : Below plan more) (rest : ∀ value, Below (next value) (further value)) :
    Below (plan >>= next) (more >>= further) := by
  show Below (plan.bind next) (more.bind further)
  induction first with
  | done value => exact rest value
  | stuck plan => exact stuck _
  | counting below ih => exact counting ih
  | reserving rolls below ih => exact reserving rolls ih
  | rolling sides below ih => exact rolling sides ih
  | computing operation below ih => exact computing operation ih

/-- A calculation for each of the values grows with every one of them. -/
theorem mapM {step further : α → Calculation β} (each : ∀ value, Below (step value) (further value))
    (values : List α) : Below (values.mapM step) (values.mapM further) := by
  induction values with
  | nil => exact refl (Pure.pure [])
  | cons value values ih =>
    rw [List.mapM_cons, List.mapM_cons]
    apply (each value).bind
    intro head
    apply ih.bind
    intro tail
    exact refl (Pure.pure (head :: tail))

/-- A request that is not refused goes on as what comes after it does. -/
theorem request {refused : Bool} {stop rest more : Option β} {out : β}
    (go : rest = some out → more = some out) (ends : (if refused then stop else rest) = some out) :
    (if refused then stop else more) = some out := by
  cases refused with
  | false => exact go ends
  | true => exact ends

/-- A calculation that ends does so with more fuel. -/
theorem run [Roller ρ] {admits : Int → Bool} {plan more : Calculation α} (below : Below plan more)
    {context : Context ρ} {out : Except Cause α × Context ρ}
    (ends : plan.run admits context = some out) : more.run admits context = some out := by
  induction below generalizing context with
  | done value => exact ends
  | stuck plan => cases ends
  | counting below ih => exact request ih ends
  | reserving rolls below ih => exact request ih ends
  | rolling sides below ih =>
    rw [Calculation.run] at ends ⊢
    cases known : Sides.ofInt? sides with
    | none =>
      rw [known] at ends
      exact ends
    | some valid =>
      rw [known] at ends
      exact request (ih _) ends
  | computing operation below ih =>
    rw [Calculation.run] at ends ⊢
    cases known : operation.result? with
    | none =>
      rw [known] at ends
      exact ends
    | some value =>
      rw [known] at ends
      dsimp only at ends ⊢
      cases admitted : admits value with
      | true =>
        rw [admitted] at ends
        exact ih value ends
      | false =>
        rw [admitted] at ends
        exact ends

/-- Of calculations that grow step by step, every later one does what an earlier one does. -/
theorem run_of_le [Roller ρ] {admits : Int → Bool} {plan : Nat → Calculation α}
    (grows : ∀ fuel, Below (plan fuel) (plan (fuel + 1))) {fuel more : Nat} (le : fuel ≤ more)
    {context : Context ρ} {out : Except Cause α × Context ρ}
    (ends : (plan fuel).run admits context = some out) :
    (plan more).run admits context = some out := by
  induction le with
  | refl => exact ends
  | step le ih => exact (grows _).run ih

end Below

end Calculation

end DicePool
