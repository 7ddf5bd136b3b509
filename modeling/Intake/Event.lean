import Intake.Rejection
import Intake.Value.Inspect

/-!
# Events

What compiling a form and sanitizing a value report on the way, as data, and computations that
report. The report of a computation never changes its result.
-/

set_option autoImplicit false

namespace Intake

/-- Something worth reporting. -/
inductive Event
  /-- A form of so many fields has been compiled. -/
  | formCompiled (fields : Nat)
  /-- No coercion is registered for a type name. -/
  | unknownType (name : String)
  /-- No rule is registered for a key of a schema. -/
  | ignoredKey (key : String)
  /-- A format is unknown and so accepts every value. -/
  | unknownFormat (name : String)
  /-- One alternative of a field, of the given type if it has one, refused a value. -/
  | alternativeRejected (field : String) (alternative : Option String) (cause : Rejection)
  /-- A field keeps the value that it was given. -/
  | valueKept (field : String) (cause : Rejection)
deriving DecidableEq

/-- How much attention an event deserves. -/
inductive Level
  | trace
  | debug
  | warn
deriving DecidableEq

/-- The level of an event. -/
def Event.level : Event → Level
  | .formCompiled _ => .debug
  | .unknownType _ => .warn
  | .ignoredKey _ => .trace
  | .unknownFormat _ => .debug
  | .alternativeRejected _ _ _ => .trace
  | .valueKept _ _ => .debug

/-- The wording of an event. -/
def Event.message : Event → String
  | .formCompiled _ => "compiled field map"
  | .unknownType _ => "unknown type, coercion skipped"
  | .ignoredKey _ => "no rule registered, key ignored"
  | .unknownFormat _ => "unknown format accepts every value"
  | .alternativeRejected _ _ _ => "alternative rejected"
  | .valueKept _ _ => "sanitization failed, keeping original value"

/-- The named texts that an event carries. -/
def Event.fields : Event → List (String × String)
  | .formCompiled fields => [("fields", Text.numeral fields)]
  | .unknownType name => [("type_name", name)]
  | .ignoredKey key => [("key", key)]
  | .unknownFormat name => [("format", name)]
  | .alternativeRejected field alternative cause =>
    [("field", field), ("alternative", Inspect.optional (alternative.map Inspect.quoted)),
      ("error", cause.message)]
  | .valueKept field cause => [("field", field), ("error", cause.message)]

/-- A result together with the events reported on the way, in order. -/
structure Reported (α : Type) where
  /-- The result. -/
  value : α
  /-- The events, the earliest first. -/
  events : List Event

namespace Reported

variable {α β : Type}

/-- A result without any event. -/
def quiet (value : α) : Reported α := ⟨value, []⟩

/-- One event. -/
def report (event : Event) : Reported Unit := ⟨(), [event]⟩

/-- Goes on with the result; the events of both parts follow each other. -/
def andThen (first : Reported α) (next : α → Reported β) : Reported β :=
  let second := next first.value
  ⟨second.value, first.events ++ second.events⟩

/-- Goes on with a result that is no error. An error ends the computation, and the events up to it
remain. -/
def onSuccess {ε : Type} (first : Reported (Except ε α)) (next : α → Reported (Except ε β)) :
    Reported (Except ε β) :=
  match first.value with
  | .ok a => ⟨(next a).value, first.events ++ (next a).events⟩
  | .error e => ⟨.error e, first.events⟩

/-- Changes the result. -/
def map (f : α → β) (x : Reported α) : Reported β := ⟨f x.value, x.events⟩

/-- What is reported without events has its value. -/
@[simp] theorem value_quiet (a : α) : (quiet a).value = a := rfl

/-- What is reported without events has none. -/
@[simp] theorem events_quiet (a : α) : (quiet a).events = [] := rfl

/-- A function of the value is applied to the value. -/
@[simp] theorem value_map (f : α → β) (x : Reported α) : (x.map f).value = f x.value := rfl

/-- A function of the value reports nothing. -/
@[simp] theorem events_map (f : α → β) (x : Reported α) : (x.map f).events = x.events := rfl

/-- The value of two steps is that of the second one. -/
@[simp] theorem value_andThen (x : Reported α) (f : α → Reported β) :
    (x.andThen f).value = (f x.value).value := rfl

/-- The events of two steps follow each other. -/
@[simp] theorem events_andThen (x : Reported α) (f : α → Reported β) :
    (x.andThen f).events = x.events ++ (f x.value).events := rfl

end Reported

end Intake
