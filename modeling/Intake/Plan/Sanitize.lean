import Intake.Plan.Basic

/-!
# Sanitizing

What a plan makes of a value. An attempt gives the sanitized value or a rejection; sanitizing keeps the
value as it came where the attempt is rejected and so always gives a result. A missing or null value is
replaced by the default of the field, if it has one, and else stays as it is. A record is sanitized field
by field: each field looks at the given record only, never at what other fields have become.
-/

set_option autoImplicit false

namespace Intake

/-- What an attempt gives: a result or a rejection, and the events on the way. -/
abbrev Attempt (α : Type) := Reported (Except Rejection α)

/-- The value that a field works on: the input, or the default where the input is missing or null. -/
def effectiveInput (default input : Option Value) : Option Value :=
  match input with
  | none => default
  | some value => if value.isNull then (default.or input) else input

/-- Applies rules in order, each to what the one before it gave. -/
def applyRules (key : String) (record : Record) : List Rule → Value → Except Rejection Value
  | [], value => .ok value
  | rule :: rest, value =>
    match rule value key record with
    | .ok next => applyRules key record rest next
    | .error cause => .error cause

namespace Alternative

/-- The value in the type of an alternative. A lone value that is no array becomes an array of one
element where elements are to be sanitized. -/
def coerce (alternative : Alternative) (value : Value) : Except Rejection Value :=
  match alternative.coercion, alternative.shape with
  | none, _ => .ok value
  | some coercion, .items _ =>
    match coercion value with
    | .ok coerced => .ok coerced
    | .error _ => .ok (.array [value])
  | some coercion, _ => coercion value

/-- The coerced value after the rules. -/
def check (alternative : Alternative) (value : Value) (key : String) (record : Record) :
    Except Rejection Value :=
  match alternative.coerce value with
  | .ok coerced => applyRules key record alternative.rules coerced
  | .error cause => .error cause

end Alternative

/-- Attempts each element of an array in turn, from the given index on. The first rejection ends it. -/
def attemptEach (attempt : Value → Attempt (Option Value)) :
    Nat → List Value → Attempt (List Value)
  | _, [] => Reported.quiet (.ok [])
  | index, element :: rest =>
    let outcome := attempt element
    match outcome.value with
    | .error cause => ⟨.error (.item index cause), outcome.events⟩
    | .ok sanitized =>
      let others := attemptEach attempt (index + 1) rest
      ⟨others.value.map (sanitized.getD .null :: ·), outcome.events ++ others.events⟩

/-- What a field gives after its alternatives have been tried: their only rejection, if there is just
one alternative, and else that all are exhausted. -/
def exhausted (tried : Nat) (last : Option Rejection) : Rejection :=
  match last with
  | some cause => if tried = 1 then cause else .unionExhausted tried
  | none => .unionExhausted tried

/-- The result of sanitizing after an attempt: a rejected input is kept. -/
def settle (default input : Option Value) (key : String) (outcome : Attempt (Option Value)) :
    Reported (Option Value) :=
  match outcome.value with
  | .ok sanitized => ⟨sanitized, outcome.events⟩
  | .error cause =>
    ⟨effectiveInput default input, outcome.events ++ [.valueKept key cause]⟩

/-- Writes what a field has become into the output. A field that is present is always written, a
missing one only if it has become something other than null. -/
def writeField (output : Record) (name : String) (input sanitized : Option Value) : Record :=
  match input, sanitized with
  | some _, sanitized => Record.insert output name (sanitized.getD .null)
  | none, some value => if value.isNull then output else Record.insert output name value
  | none, none => output

mutual

/-- Attempts to sanitize the value of a field, which may be missing. -/
def FieldPlan.attempt : FieldPlan → Option Value → String → Record → Attempt (Option Value)
  | .mk alternatives default, input, key, record =>
    match effectiveInput default input with
    | none => Reported.quiet (.ok none)
    | some value =>
      if value.isNull then Reported.quiet (.ok (some value))
      else
        (attemptAlternatives alternatives none value key record).map fun result =>
          match result with
          | .ok sanitized => .ok (some sanitized)
          | .error last => .error (exhausted alternatives.length last)

/-- Tries alternatives in order up to the first that succeeds; if none does, gives the last
rejection. -/
def attemptAlternatives : List (AlternativeOver FieldPlan) → Option Rejection → Value → String →
    Record → Reported (Except (Option Rejection) Value)
  | [], last, _, _, _ => Reported.quiet (.error last)
  | alternative :: rest, _, value, key, record =>
    let outcome := attemptAlternative alternative value key record
    match outcome.value with
    | .ok sanitized => ⟨.ok sanitized, outcome.events⟩
    | .error cause =>
      let others := attemptAlternatives rest (some cause) value key record
      ⟨others.value,
        outcome.events ++ .alternativeRejected key alternative.typeName cause :: others.events⟩

/-- Attempts one alternative: the coercion, then the rules, then the parts of the value. -/
def attemptAlternative : AlternativeOver FieldPlan → Value → String → Record → Attempt Value
  | ⟨typeName, coercion, rules, shape⟩, value, key, record =>
    match Alternative.check ⟨typeName, coercion, rules, shape⟩ value key record with
    | .ok checked => attemptShape shape checked key record
    | .error cause => Reported.quiet (.error cause)

/-- Sanitizes the parts of a value. -/
def attemptShape : Shape FieldPlan → Value → String → Record → Attempt Value
  | .scalar, value, _, _ => Reported.quiet (.ok value)
  | .items plan, value, key, record =>
    (attemptEach (fun element => plan.attempt (some element) key record) 0
      value.elementsOrSelf).map (Except.map Value.array)
  | .record fields, value, _, _ =>
    match value with
    | .object entries => (sanitizeFields fields entries []).map fun output => .ok (.object output)
    | other => Reported.quiet (.error (.shape "object" other.kind))

/-- Sanitizes the fields of a record one after the other and writes them into an output. -/
def sanitizeFields : List (String × FieldPlan) → Record → Record → Reported Record
  | [], _, output => Reported.quiet output
  | (name, plan) :: rest, input, output =>
    let value := Record.get? input name
    let result := settle plan.default value name (plan.attempt value name input)
    let others := sanitizeFields rest input (writeField output name value result.value)
    ⟨others.value, result.events ++ others.events⟩

end

/-- Sanitizes the value of a field, which may be missing, at a key of a record. -/
def FieldPlan.sanitize (plan : FieldPlan) (input : Option Value) (key : String) (record : Record) :
    Reported (Option Value) :=
  settle plan.default input key (plan.attempt input key record)

namespace FormPlan

/-- Sanitizes a record into a new one that holds declared fields only. -/
def sanitize (form : FormPlan) (input : Record) : Reported Record :=
  sanitizeFields form input []

/-- Sanitizes a record that may be missing, which is the same as an empty one. -/
def sanitizeOptional (form : FormPlan) (input : Option Record) : Reported Record :=
  form.sanitize (input.getD [])

/-- Sanitizes a value as a record; a value that is no record counts as an empty one. -/
def sanitizeValue (form : FormPlan) (input : Value) : Reported Value :=
  (form.sanitizeOptional input.entries?).map Value.object

end FormPlan

end Intake
