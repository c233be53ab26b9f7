import SqlBuilder.Error
import SqlBuilder.Event

/-!
# Outcomes

An operation on a statement may fail after it has changed something. Its
outcome therefore holds the state afterwards in either case, beside the value
or the error, and the events that were reported on the way.
-/

namespace SqlBuilder

/-- What an operation leaves behind. -/
structure Outcome (State Value : Type) where
  /-- The state after the operation, whether it succeeded or not. -/
  state : State
  /-- The value of a success, or the error of a failure. -/
  result : Except StatementError Value
  /-- The events reported, in order. -/
  events : List Event := []

namespace Outcome

variable {State Value Other : Type}

/-- Success without events. -/
def ok (state : State) (value : Value) : Outcome State Value :=
  { state := state, result := .ok value }

/-- Failure without events. -/
def fail (state : State) (error : StatementError) : Outcome State Value :=
  { state := state, result := .error error }

/-- Change the value of a success. -/
def map (change : Value → Other) (outcome : Outcome State Value) :
    Outcome State Other :=
  { outcome with result := outcome.result.map change }

/-- Carry the state over to another type. -/
def mapState {Place : Type} (place : State → Place) (outcome : Outcome State Value) :
    Outcome Place Value :=
  { state := place outcome.state, result := outcome.result, events := outcome.events }

@[simp] theorem state_ok (state : State) (value : Value) :
    (ok state value).state = state := rfl

@[simp] theorem result_ok (state : State) (value : Value) :
    (ok state value).result = .ok value := rfl

@[simp] theorem state_fail (state : State) (error : StatementError) :
    (fail state error : Outcome State Value).state = state := rfl

@[simp] theorem result_fail (state : State) (error : StatementError) :
    (fail state error : Outcome State Value).result = .error error := rfl

@[simp] theorem state_map (change : Value → Other) (outcome : Outcome State Value) :
    (outcome.map change).state = outcome.state := rfl

@[simp] theorem result_map (change : Value → Other) (outcome : Outcome State Value) :
    (outcome.map change).result = outcome.result.map change := rfl

end Outcome
end SqlBuilder
