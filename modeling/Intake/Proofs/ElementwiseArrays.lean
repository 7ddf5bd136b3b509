import Intake.Proofs.FirstRefusals

/-!
# Arrays that are sanitized element by element

A field of type `array` with a schema of elements makes an array of any value other than null: the value
itself, the array of which it is the JSON text, or the array of the value alone (`Value.CountsAs`). The rules
of the schema judge that array before its elements are looked at, and then the elements are attempted in
turn. So there are three outcomes (`ArrayOutcome`): a rule refuses, some element is the first to be refused,
or all are sanitized, and each array has exactly one of them (`ArrayOutcome.unique`).

An element may be an array of the same sort, to any depth. Then a rejection names the places of arrays within
arrays, from the outside to the inside, and what was refused there. Of all the places at which something is
refused (`FailsAt`) it names the first in lexicographic order (`exists_first_path`): by induction on the
depth, since of two elements the earlier one decides, and within one element the induction hypothesis does.
-/

set_option autoImplicit false

namespace Intake

open Compiler (builtin)

variable {schema : Schema} {alternative : Alternative} {field element : FieldSchema}
  {plan inner : FieldPlan} {value result : Value} {elements results : List Value}
  {outcome other : Except Rejection Value} {cause : Rejection} {key : String} {record : Record}

/-! ## What counts as an array -/

/-- The array that a value counts as where elements are sanitized. -/
inductive Value.CountsAs : Value → List Value → Prop
  /-- An array counts as itself. -/
  | array (elements : List Value) : CountsAs (.array elements) elements
  /-- The JSON text of an array counts as that array. -/
  | text {s : String} {trees : List Json} (read : Json.read? s = some (.array trees)) :
      CountsAs (.string s) (trees.map Value.ofJson)
  /-- Any other value counts as the array of that value alone. -/
  | alone {value : Value} (noArray : ∀ elements, value ≠ .array elements)
      (noText : ∀ s trees, value = .string s → Json.read? s ≠ some (.array trees)) :
      CountsAs value [value]

/-- The elements as which a value counts are computed. -/
theorem Value.countsAs_iff : value.CountsAs elements ↔ value.normalized = elements := by
  have text {s : String} {trees : List Json} (read : Json.read? s = some (.array trees)) :
      (Value.string s).normalized = trees.map Value.ofJson := by
    simp only [normalized, Coercion.unpacked, read, Value.ofJson, elementsOfJson_eq_map]
  have alone (noArray : ∀ elements, value ≠ .array elements)
      (noText : ∀ s trees, value = .string s → Json.read? s ≠ some (.array trees)) :
      value.normalized = [value] := by
    cases value with
    | array elements => exact absurd rfl (noArray elements)
    | string s =>
      simp only [normalized, Coercion.unpacked]
      cases read : Json.read? s with
      | none => rfl
      | some tree =>
        cases tree with
        | array trees => exact absurd read (noText s trees rfl)
        | _ => rfl
    | _ => rfl
  constructor
  · intro counts
    cases counts with
    | array => rfl
    | text read => exact text read
    | alone noArray noText => exact alone noArray noText
  · rintro rfl
    cases value with
    | array elements => exact .array elements
    | string s =>
      by_cases found : ∃ trees, Json.read? s = some (.array trees)
      · obtain ⟨trees, read⟩ := found
        rw [text read]
        exact .text read
      · have noText : ∀ s' trees, Value.string s = .string s' →
            Json.read? s' ≠ some (.array trees) := by
          rintro _ trees ⟨⟩ read
          exact found ⟨trees, read⟩
        have noArray : ∀ elements, Value.string s ≠ .array elements := by rintro _ ⟨⟩
        rw [alone noArray noText]
        exact .alone noArray noText
    | _ => exact .alone (by rintro _ ⟨⟩) (by rintro _ _ ⟨⟩)

/-! ## The outcome for one array -/

/-- A plan makes a result of an element of an array. What it finds missing becomes null. -/
def FieldPlan.Makes (plan : FieldPlan) (key : String) (record : Record) (element result : Value) :
    Prop :=
  ∃ sanitized, (plan.attempt (some element) key record).value = .ok sanitized ∧
    sanitized.getD .null = result

/-- A field makes one result at most of an element. -/
theorem FieldPlan.makes_rightUnique (plan : FieldPlan) (key : String) (record : Record) :
    Relator.RightUnique (plan.Makes key record) := by
  rintro element _ _ ⟨sanitized, succeeds, rfl⟩ ⟨other, succeeds', rfl⟩
  rw [Except.ok.inj (succeeds.symm.trans succeeds')]

/-- An element of which a field makes something is not refused by it. -/
theorem FieldPlan.Makes.not_error {element : Value} (makes : plan.Makes key record element result) :
    (plan.attempt (some element) key record).value ≠ .error cause := by
  obtain ⟨sanitized, succeeds, -⟩ := makes
  rw [succeeds]
  exact nofun

/-- Where each element is sanitized, none is refused. -/
theorem FieldPlan.not_error_of_each (each : List.Forall₂ (plan.Makes key record) elements results)
    {index : ℕ} (inRange : index < elements.length) :
    (plan.attempt (some elements[index]) key record).value ≠ .error cause := by
  obtain ⟨result, -, makes⟩ := exists_mem_of_forall₂ each.flip (List.getElem_mem inRange)
  exact FieldPlan.Makes.not_error makes

/-- What sanitizing an array element by element comes to, under the rules of a schema. -/
inductive ArrayOutcome [Engines] (schema : Schema) (inner : FieldPlan) (elements : List Value) (key : String)
    (record : Record) : Except Rejection Value → Prop
  /-- The rules refuse the array as a whole. -/
  | refused {cause : Rejection} (first : schema.FirstRefusal (.array elements) key record cause) :
      ArrayOutcome schema inner elements key record (.error cause)
  /-- The rules accept the array, and an element is refused while all before it are taken. -/
  | failed {index : ℕ} {cause : Rejection} (accepted : schema.Accepts (.array elements) key record)
      (inRange : index < elements.length)
      (fails : (inner.attempt (some elements[index]) key record).value = .error cause)
      (before : ∀ earlier ∈ elements.take index, ∃ result, inner.Makes key record earlier result) :
      ArrayOutcome schema inner elements key record (.error (.item index cause))
  /-- The rules accept the array, and each element is sanitized in its place. -/
  | sanitized {results : List Value} (accepted : schema.Accepts (.array elements) key record)
      (each : List.Forall₂ (inner.Makes key record) elements results) :
      ArrayOutcome schema inner elements key record (.ok (.array results))

/-- An element that is refused does not stand among those that are taken. -/
theorem le_of_taken {index later : ℕ} (inRange : index < elements.length)
    (fails : (inner.attempt (some elements[index]) key record).value = .error cause)
    (before : ∀ earlier ∈ elements.take later, ∃ result, inner.Makes key record earlier result) :
    later ≤ index := by
  by_contra! less
  have member : elements[index] ∈ elements.take later :=
    List.mem_take_iff_getElem.mpr ⟨index, by omega, rfl⟩
  obtain ⟨result, makes⟩ := before _ member
  exact makes.not_error fails

/-- **An array has one outcome.** -/
theorem ArrayOutcome.unique [Engines] (here : ArrayOutcome schema inner elements key record outcome)
    (there : ArrayOutcome schema inner elements key record other) : outcome = other := by
  cases here with
  | refused first =>
    cases there with
    | refused first' => rw [first.unique first']
    | failed accepted | sanitized accepted => exact absurd accepted first.not_accepts
  | failed accepted inRange fails before =>
    cases there with
    | refused first => exact absurd accepted first.not_accepts
    | failed accepted' inRange' fails' before' =>
      obtain rfl := (le_of_taken inRange' fails' before).antisymm (le_of_taken inRange fails before')
      rw [Except.error.inj (fails.symm.trans fails')]
    | sanitized accepted' each => exact absurd fails (inner.not_error_of_each each inRange)
  | sanitized accepted each =>
    cases there with
    | refused first => exact absurd accepted first.not_accepts
    | failed accepted' inRange fails before => exact absurd fails (inner.not_error_of_each each inRange)
    | sanitized accepted' each' =>
      rw [(inner.makes_rightUnique key record).forall₂ each each']

namespace Compiler

/-- **An alternative for arrays** comes to the outcome of the array that the value counts as. -/
theorem Yields.arrayOutcome [Engines] (yields : Yields builtin schema (some "array") alternative)
    (shape : alternative.shape = .items inner) (value : Value) (key : String) (record : Record) :
    ArrayOutcome schema inner value.normalized key record
      (attemptAlternative alternative value key record).value := by
  rw [attemptAlternative_value, yields.coerce_normalized shape, shape]
  simp only [Except.bind]
  cases applied : applyRules key record alternative.rules (.array value.normalized) with
  | error cause => exact .refused (yields.applyRules_error_iff.mp applied)
  | ok checked =>
    obtain ⟨rfl, accepted⟩ := yields.applyRules_ok_iff.mp applied
    simp only [attemptShape, Value.elementsOrSelf, Reported.value_map]
    cases each : (attemptEach (fun element => inner.attempt (some element) key record) 0
        value.normalized).value with
    | ok results => exact .sanitized accepted (attemptEach_ok each)
    | error cause =>
      obtain ⟨index, inRange, cause, rfl, fails, before⟩ := attemptEach_first_error each
      rw [Nat.zero_add]
      refine .failed accepted inRange fails ?_
      intro earlier member
      obtain ⟨sanitized, succeeds⟩ := before earlier member
      exact ⟨_, sanitized, succeeds, rfl⟩

end Compiler

/-! ## Fields of arrays -/

/-- A field has one schema, of type `array` with a schema of elements. -/
structure FieldSchema.IsArray (field : FieldSchema) (schema : Schema) (element : FieldSchema) :
    Prop where
  /-- The schema is the only one. -/
  only : field.alternatives = [schema]
  /-- Its only type is `array`. -/
  type : schema.typeNames = ["array"]
  /-- It has a schema of elements. -/
  items : schema.items = some element

/-- A field of arrays sanitizes elements by what their schema compiles to. -/
theorem Compiler.exists_elementPlan [Engines] (array : field.IsArray schema element)
    (compiled : (builtin.compileField field).value = .ok plan) :
    ∃ inner, (builtin.compileField element).value = .ok inner ∧
      ∀ {value : Value} {elements : List Value}, value.CountsAs elements → ∀ key record,
        ArrayOutcome schema inner elements key record (plan.resolve value key record) := by
  have types : schema.typeNames.length ≤ 1 := by simp [array.type]
  obtain ⟨alternative, single, yields⟩ := exists_only array.only types compiled
  rw [array.type, List.head?_cons] at yields
  have shapes := yields.shape
  generalize shape : alternative.shape = parting at shapes
  cases shapes with
  | record properties type => exact absurd type (by decide)
  | scalar noFields noElements =>
    have none := noElements rfl
    rw [array.items] at none
    cases none
  | items type items inner_ok =>
    obtain rfl := Option.some.inj (array.items.symm.trans items)
    refine ⟨_, inner_ok, ?_⟩
    intro value elements counts key record
    rw [FieldPlan.resolve_singleton single, ← Value.countsAs_iff.mp counts]
    exact yields.arrayOutcome shape value key record

/-- Every value counts as some elements. -/
theorem Value.exists_countsAs (value : Value) : ∃ elements, value.CountsAs elements :=
  ⟨value.normalized, countsAs_iff.mpr rfl⟩

/-- An attempt is rejected if it has an effective input other than null, which the field refuses. -/
theorem FieldPlan.attempt_error_iff {input : Option Value} :
    (plan.attempt input key record).value = .error cause ↔
      ∃ value, effectiveInput plan.default input = some value ∧ value ≠ .null ∧
        plan.resolve value key record = .error cause := by
  constructor
  · intro rejected
    obtain ⟨value, effective, refused⟩ := FieldPlan.attempt_error rejected
    refine ⟨value, effective, ?_, refused⟩
    rintro rfl
    rw [FieldPlan.attempt_value, effective] at rejected
    cases rejected
  · rintro ⟨value, effective, nonnull, refused⟩
    rw [FieldPlan.attempt_eq effective nonnull, refused]
    rfl

/-- A null element is replaced by the default of the element schema, and stays null without one. -/
theorem Compiler.attempt_null [Engines] (compiled : (builtin.compileField field).value = .ok plan)
    (key : String) (record : Record) :
    (plan.attempt (some .null) key record).value =
      match field.default? with
      | some default => (plan.attempt (some default) key record).value
      | none => .ok (some .null) := by
  rw [FieldPlan.attempt_value, effectiveInput_null, default_eq compiled]
  cases default : field.default? with
  | none => rfl
  | some value =>
    have effective : effectiveInput plan.default none = some value := by
      rw [default_eq compiled, default]
      rfl
    simp only [Option.some_or, FieldPlan.attempt_value, effectiveInput_again effective]

/-! ## Arrays within arrays -/

/-- The values of a field are arrays, their elements are arrays, and so on, so many levels deep at
least. -/
inductive FieldSchema.Nests : FieldSchema → ℕ → Prop
  /-- Any field has no level at least. -/
  | any (field : FieldSchema) : Nests field 0
  /-- A field of arrays has one level more than its elements. -/
  | array {field element : FieldSchema} {schema : Schema} {depth : ℕ}
      (array : field.IsArray schema element) (elements : element.Nests depth) : Nests field (depth + 1)

/-- The rejection of what stands at a path of indices within arrays. -/
def Rejection.within (cause : Rejection) (path : List ℕ) : Rejection :=
  path.foldr .item cause

/-- Something is refused at a path of indices within arrays that are nested so many levels deep: by the
innermost field at the end of a full path, or by the rules for an array on the way. -/
inductive FailsAt [Engines] (key : String) (record : Record) :
    ℕ → FieldSchema → Value → List ℕ → Rejection → Prop
  /-- The innermost field refuses a value. -/
  | leaf {field : FieldSchema} {plan : FieldPlan} {value : Value} {cause : Rejection}
      (compiled : (builtin.compileField field).value = .ok plan)
      (fails : (plan.attempt (some value) key record).value = .error cause) :
      FailsAt key record 0 field value [] cause
  /-- The rules of a schema refuse an array as a whole. -/
  | array {depth : ℕ} {field element : FieldSchema} {schema : Schema} {value input : Value}
      {elements : List Value} {cause : Rejection} (array : field.IsArray schema element)
      (effective : effectiveInput field.default? (some value) = some input) (nonnull : input ≠ .null)
      (counts : input.CountsAs elements)
      (first : schema.FirstRefusal (.array elements) key record cause) :
      FailsAt key record (depth + 1) field value [] cause
  /-- The rules accept an array, and something is refused within one of its elements. -/
  | element {depth index : ℕ} {field element : FieldSchema} {schema : Schema} {value input : Value}
      {elements : List Value} {path : List ℕ} {cause : Rejection} (array : field.IsArray schema element)
      (effective : effectiveInput field.default? (some value) = some input) (nonnull : input ≠ .null)
      (counts : input.CountsAs elements)
      (accepted : schema.Accepts (.array elements) key record) (inRange : index < elements.length)
      (fails : FailsAt key record depth element elements[index] path cause) :
      FailsAt key record (depth + 1) field value (index :: path) cause

/-- A field is an array in one way at most. -/
theorem FieldSchema.IsArray.unique {schema' : Schema} {element' : FieldSchema}
    (here : field.IsArray schema element) (there : field.IsArray schema' element') :
    schema = schema' ∧ element = element' := by
  obtain rfl : schema = schema' := by simpa [here.only] using there.only
  exact ⟨rfl, Option.some.inj (here.items.symm.trans there.items)⟩

/-- Where something is refused within a value, the value is refused. -/
theorem FailsAt.rejected [Engines] {depth : ℕ} {path : List ℕ}
    (fails : FailsAt key record depth field value path cause)
    (compiled : (builtin.compileField field).value = .ok plan) :
    ∃ cause, (plan.attempt (some value) key record).value = .error cause := by
  induction fails generalizing plan with
  | @leaf field plan' value cause compiled' fails =>
    obtain rfl : plan = plan' := Except.ok.inj (compiled.symm.trans compiled')
    exact ⟨cause, fails⟩
  | @array depth field element schema value input elements cause array effective nonnull counts first =>
    obtain ⟨inner, -, outcome⟩ := Compiler.exists_elementPlan array compiled
    rw [← Compiler.default_eq compiled] at effective
    have refused := (outcome counts key record).unique (.refused first)
    exact ⟨cause, FieldPlan.attempt_error_iff.mpr ⟨input, effective, nonnull, refused⟩⟩
  | @element depth index field element schema value input elements path cause array effective nonnull
      counts accepted inRange fails ih =>
    obtain ⟨inner, inner_ok, outcome⟩ := Compiler.exists_elementPlan array compiled
    have outcome := outcome counts key record
    rw [← Compiler.default_eq compiled] at effective
    obtain ⟨cause, refused⟩ := ih inner_ok
    simp only [FieldPlan.attempt_error_iff]
    generalize resolved : plan.resolve input key record = result at outcome
    cases outcome with
    | refused first => exact ⟨_, input, effective, nonnull, resolved⟩
    | failed => exact ⟨_, input, effective, nonnull, resolved⟩
    | sanitized accepted' each =>
      -- Were all elements taken, the one within which something is refused would be, too.
      exact absurd refused (inner.not_error_of_each each inRange)

/-- Within an array that is nested further, something is refused either as the rules refuse the array or
within one of its elements. -/
theorem FailsAt.within_array [Engines] {depth : ℕ} {input : Value} {path : List ℕ}
    (fails : FailsAt key record (depth + 1) field value path cause)
    (array : field.IsArray schema element)
    (effective : effectiveInput field.default? (some value) = some input)
    (counts : input.CountsAs elements) :
    (path = [] ∧ schema.FirstRefusal (.array elements) key record cause) ∨
      ∃ index rest, path = index :: rest ∧ schema.Accepts (.array elements) key record ∧
        ∃ inRange : index < elements.length,
          FailsAt key record depth element elements[index] rest cause := by
  have normalized := Value.countsAs_iff.mp counts
  cases fails with
  | array array' effective' _ counts' first =>
    obtain ⟨rfl, rfl⟩ := array.unique array'
    obtain rfl := Option.some.inj (effective.symm.trans effective')
    obtain rfl := normalized.symm.trans (Value.countsAs_iff.mp counts')
    exact Or.inl ⟨rfl, first⟩
  | element array' effective' _ counts' accepted inRange fails =>
    obtain ⟨rfl, rfl⟩ := array.unique array'
    obtain rfl := Option.some.inj (effective.symm.trans effective')
    obtain rfl := normalized.symm.trans (Value.countsAs_iff.mp counts')
    exact Or.inr ⟨_, _, rfl, accepted, inRange, fails⟩

/-- **A rejection names the first path** in lexicographic order at which something is refused. -/
theorem exists_first_path [Engines] {depth : ℕ} (nests : field.Nests depth)
    (compiled : (builtin.compileField field).value = .ok plan)
    (rejected : (plan.attempt (some value) key record).value = .error cause) :
    ∃ path last, cause = Rejection.within last path ∧
      FailsAt key record depth field value path last ∧
        ∀ other cause', FailsAt key record depth field value other cause' →
          other = path ∨ List.Lex (· < ·) path other := by
  induction nests generalizing plan value cause with
  | any field =>
    refine ⟨[], cause, rfl, .leaf compiled rejected, ?_⟩
    intro other cause' fails
    cases fails
    exact Or.inl rfl
  | @array field element schema depth array _ ih =>
    obtain ⟨inner, inner_ok, outcome⟩ := Compiler.exists_elementPlan array compiled
    obtain ⟨input, effective, nonnull, refused⟩ := FieldPlan.attempt_error_iff.mp rejected
    rw [Compiler.default_eq compiled] at effective
    obtain ⟨elements, counts⟩ := input.exists_countsAs
    have outcome := outcome counts key record
    rw [refused] at outcome
    cases outcome with
    | refused first =>
      refine ⟨[], cause, rfl, .array array effective nonnull counts first, ?_⟩
      intro other cause' fails
      rcases fails.within_array array effective counts with ⟨rfl, -⟩ | ⟨_, _, _, accepted, _⟩
      · exact Or.inl rfl
      · exact absurd accepted first.not_accepts
    | @failed index cause accepted inRange fails before =>
      obtain ⟨path, last, rfl, fails', least⟩ := ih inner_ok fails
      refine ⟨index :: path, last, rfl,
        .element array effective nonnull counts accepted inRange fails', ?_⟩
      intro other cause' failsThere
      rcases failsThere.within_array array effective counts with
        ⟨-, first⟩ | ⟨index', rest, rfl, -, inRange', failsThere⟩
      · exact absurd accepted first.not_accepts
      · -- Of two elements the earlier one decides, and none before the refused one is refused.
        obtain ⟨cause, refusedThere⟩ := failsThere.rejected inner_ok
        rcases (le_of_taken inRange' refusedThere before).eq_or_lt with rfl | later
        · rcases least rest cause' failsThere with rfl | lower
          · exact Or.inl rfl
          · exact Or.inr (.cons lower)
        · exact Or.inr (.rel later)

/-- **Arrays are sanitized element by element.** A field of type `array` with a schema of elements makes an
array of every value other than null. If the rules refuse that array, so does the field. If not, the
elements are sanitized in their places by what their schema compiles to, or the first one that is refused
is named with its own rejection. A refused value is kept as it was given. A null element is sanitized as
the default of the element schema, if there is one. Where arrays are nested, the field refuses a value
exactly if something within it is refused, and names the first path in lexicographic order at which this
is so. -/
theorem arrays_elementwise [Engines] (array : field.IsArray schema element)
    (compiled : (builtin.compileField field).value = .ok plan) :
    ∃ inner, (builtin.compileField element).value = .ok inner ∧
      (∀ (key : String) (record : Record), (inner.attempt (some .null) key record).value =
        match element.default? with
        | some default => (inner.attempt (some default) key record).value
        | none => .ok (some .null)) ∧
      (∀ (value : Value) (key : String) (record : Record), value ≠ .null →
        ∃ elements outcome, value.CountsAs elements ∧
          ArrayOutcome schema inner elements key record outcome ∧
          (∀ other, ArrayOutcome schema inner elements key record other → other = outcome) ∧
          (plan.attempt (some value) key record).value = outcome.map some ∧
          (plan.sanitize (some value) key record).value =
            match outcome with
            | .ok result => some result
            | .error _ => some value) ∧
      ∀ (depth : ℕ), field.Nests depth → ∀ (value : Value) (key : String) (record : Record),
        ((∃ cause, (plan.attempt (some value) key record).value = .error cause) ↔
          ∃ path cause, FailsAt key record depth field value path cause) ∧
        ∀ cause, (plan.attempt (some value) key record).value = .error cause →
          ∃ path last, cause = Rejection.within last path ∧
            FailsAt key record depth field value path last ∧
              ∀ other cause', FailsAt key record depth field value other cause' →
                other = path ∨ List.Lex (· < ·) path other := by
  obtain ⟨inner, inner_ok, resolved⟩ := Compiler.exists_elementPlan array compiled
  refine ⟨inner, inner_ok, Compiler.attempt_null inner_ok, ?_, ?_⟩
  · intro value key record nonnull
    obtain ⟨elements, counts⟩ := value.exists_countsAs
    have outcome := resolved counts key record
    have effective := effectiveInput_of_ne_null plan.default nonnull
    refine ⟨elements, _, counts, outcome,
      fun other there => there.unique outcome, FieldPlan.attempt_of_ne_null nonnull key record, ?_⟩
    rw [FieldPlan.sanitize_value, FieldPlan.attempt_of_ne_null nonnull, effective]
    cases plan.resolve value key record <;> rfl
  · intro depth nests value key record
    have named (cause : Rejection)
        (rejected : (plan.attempt (some value) key record).value = .error cause) :=
      exists_first_path nests compiled rejected
    refine ⟨⟨?_, ?_⟩, named⟩
    · rintro ⟨cause, rejected⟩
      obtain ⟨path, last, -, fails, -⟩ := named cause rejected
      exact ⟨path, last, fails⟩
    · rintro ⟨path, cause, fails⟩
      exact fails.rejected compiled

/-- The number of a seat, zero where it has none. -/
def seatField : FieldSchema :=
  .single { type := some (.one "integer"), default := some (.string "0") }

/-- A row of a seating plan: at most five seats. -/
def rowSchema : Schema where
  type := some (.one "array")
  items := some seatField
  rules := RuleTable.ofList [("maxItems", .number (.integer 5 (by decide)))]

/-- A seating plan: rows of seats. -/
def seatingSchema : Schema where
  type := some (.one "array")
  items := some (.single rowSchema)

/-- The plan of seating plans. -/
def seatingPlan : FieldPlan :=
  let seats : FieldPlan :=
    .mk [⟨some "integer", some Coercion.integer, [], .scalar⟩] (some (.string "0"))
  let rows : FieldPlan := .mk [⟨some "array", some Coercion.array,
    [Rule.ofConstraint "maxItems" (.count .atMost 5)], .items seats⟩] none
  .mk [⟨some "array", some Coercion.array, [], .items rows⟩] none

/-- Of two words among the numbers the first is named, in a row that is given as the text of an array,
behind a row that is a single seat and one with a seat that has no number, and before a row that is too long;
and the seating plan is kept as it was. -/
theorem seats_first_path :
    let one := Value.string "1"
    let seats : Value := .array [one, .array [one, .null], .string "[\"1\", \"aisle\", \"door\"]",
      .array [one, one, one, one, one, one]]
    let field := FieldSchema.single seatingSchema
    field.IsArray seatingSchema (.single rowSchema) ∧
      (builtin.compileField field).value = .ok seatingPlan ∧ seats ≠ .null ∧ field.Nests 2 ∧
      (seatingPlan.attempt (some seats) "seats" []).value
        = .error (.item 2 (.item 1 (.coercion "integer" .string))) ∧
      (seatingPlan.sanitize (some seats) "seats" []).value = some seats ∧
      ∃ path last, .item 2 (.item 1 (.coercion "integer" .string)) = Rejection.within last path ∧
        FailsAt "seats" [] 2 field seats path last ∧
          ∀ other cause, FailsAt "seats" [] 2 field seats other cause →
            other = path ∨ List.Lex (· < ·) path other := by
  intro one seats field
  have compiled : (builtin.compileField field).value = .ok seatingPlan := rfl
  have array : field.IsArray seatingSchema (.single rowSchema) := ⟨rfl, rfl, rfl⟩
  have row : (FieldSchema.single rowSchema).IsArray rowSchema seatField := ⟨rfl, rfl, rfl⟩
  have nests : field.Nests 2 := .array array (.array row (.any seatField))
  have rejected : (seatingPlan.attempt (some seats) "seats" []).value
      = .error (.item 2 (.item 1 (.coercion "integer" .string))) := by cbv
  obtain ⟨inner, -, -, outcomes, paths⟩ := arrays_elementwise array compiled
  have nonnull : seats ≠ .null := Value.noConfusion
  obtain ⟨elements, outcome, -, -, -, attempted, kept⟩ := outcomes seats "seats" [] nonnull
  refine ⟨array, compiled, nonnull, nests, rejected, ?_, (paths 2 nests seats "seats" []).2 _ rejected⟩
  rw [rejected] at attempted
  rw [kept, map_eq_error attempted.symm]

end Intake
