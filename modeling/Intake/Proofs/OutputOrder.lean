import Intake.Proofs.RepeatedNames
import Intake.Rule.Extra

/-!
# The order of the output

A key stands in the output where it was written first. So the keys are ordered like the fields that
write them (`keys_ordered_by_writers`), and a name whose first declaration writes comes before all names
that are declared later. A first declaration does not write if the name is missing and it supplies no
value; a later one that does then appends the name behind what has been written in between
(`late_default_out_of_order`).

Where the names are distinct, the order of declarations decides the order of the output and nothing else
(`order_decides_order`): no rule sees more than the given record, whatever has been sanitized before.
-/

set_option autoImplicit false

namespace Intake

open Compiler (builtin)

variable {plan : FieldPlan} {fields form : FormPlan} {input output record other : Record}
  {name key j k : String}

/-! ## Fields that write -/

/-- The fields that write for a record, in order. -/
def FormPlan.writers (form : FormPlan) (input : Record) : FormPlan :=
  form.filter fun planned => (planned.2.entry planned.1 input).isSome

/-- A declaration comes first among the writers if it writes an entry. -/
theorem FormPlan.writers_cons (name : String) (plan : FieldPlan) (rest : FormPlan) (input : Record) :
    FormPlan.writers ((name, plan) :: rest) input =
      if (plan.entry name input).isSome then (name, plan) :: FormPlan.writers rest input
      else FormPlan.writers rest input := by
  simp [FormPlan.writers, List.filter_cons]

/-- Every name in the output has a writer. -/
theorem mem_names_writers (held : key ∈ Record.keys (form.sanitize input).value) :
    key ∈ (form.writers input).names := by
  obtain ⟨plan, listed, value, wrote⟩ := mem_keys_sanitize_iff.mp held
  have writes : (key, plan) ∈ form.writers input := by
    refine List.mem_filter.mpr ⟨listed, ?_⟩
    simp [wrote]
  exact List.mem_map.mpr ⟨_, writes, rfl⟩

/-- In a list that goes on, what is there already comes before what is not. -/
theorem idxOf_lt_of_isPrefix {first all : List String} (grows : first <+: all) (old : j ∈ first)
    (new : k ∉ first) : all.idxOf j < all.idxOf k := by
  obtain ⟨rest, rfl⟩ := grows
  rw [List.idxOf_append_of_mem old, List.idxOf_append_of_notMem new]
  have inside := List.idxOf_lt_length_of_mem old
  omega

/-- **Of two new names the one that is written first comes first**: by induction on the fields. The first
of the two to be written is there when the other one is not, and fields add keys at the end only. -/
theorem idxOf_keys_lt_of_writers (newj : j ∉ Record.keys output) (newk : k ∉ Record.keys output)
    (held : j ∈ (FormPlan.writers fields input).names)
    (first : (FormPlan.writers fields input).names.idxOf j
      < (FormPlan.writers fields input).names.idxOf k) :
    (Record.keys (sanitizeFields fields input output).value).idxOf j
      < (Record.keys (sanitizeFields fields input output).value).idxOf k := by
  induction fields generalizing output with
  | nil => cases held
  | cons planned rest ih =>
    obtain ⟨name, plan⟩ := planned
    rw [sanitizeFields_cons]
    rw [FormPlan.writers_cons] at held first
    cases wrote : plan.entry name input with
    | none =>
      simp only [wrote, Option.isSome_none, Bool.false_eq_true, if_false] at held first
      exact ih newj newk held first
    | some value =>
      simp only [wrote, Option.isSome_some, if_true, FormPlan.names, List.map_cons] at held first
      have keys : Record.keys (Record.write output name (some value))
          = if name ∈ Record.keys output then Record.keys output else Record.keys output ++ [name] :=
        Record.keys_insert output name value
      have different : k ≠ name := by
        rintro rfl
        simp at first
      have stillNew : k ∉ Record.keys (Record.write output name (some value)) := by
        rw [keys]
        split
        · exact newk
        · simp [newk, different]
      by_cases here : j = name
      · subst here
        apply idxOf_lt_of_isPrefix (keys_sanitizeFields_isPrefix rest input _) _ stillNew
        rw [keys, if_neg newj]
        exact List.mem_append_right _ List.mem_cons_self
      · have later : j ∈ (FormPlan.writers rest input).names :=
          (List.mem_cons.mp held).resolve_left here
        rw [List.idxOf_cons_ne _ (Ne.symm here), List.idxOf_cons_ne _ (Ne.symm different)] at first
        refine ih ?_ stillNew later (Nat.lt_of_succ_lt_succ first)
        rw [keys]
        split
        · exact newj
        · simp [newj, here]

/-- The keys of the output are ordered like the fields that write them. -/
theorem keys_ordered_by_writers (heldj : j ∈ Record.keys (form.sanitize input).value)
    (heldk : k ∈ Record.keys (form.sanitize input).value) :
    (Record.keys (form.sanitize input).value).idxOf j
        < (Record.keys (form.sanitize input).value).idxOf k ↔
      (form.writers input).names.idxOf j < (form.writers input).names.idxOf k := by
  have none (name : String) : name ∉ Record.keys [] := List.not_mem_nil
  have writesj := mem_names_writers heldj
  have writesk := mem_names_writers heldk
  constructor
  · intro order
    rcases Nat.lt_trichotomy ((form.writers input).names.idxOf j)
      ((form.writers input).names.idxOf k) with less | equal | greater
    · exact less
    · obtain rfl : j = k := (List.idxOf_inj writesj).mp equal
      exact absurd order (Nat.lt_irrefl _)
    · have reversed := idxOf_keys_lt_of_writers (none k) (none j) writesk greater
      exact absurd reversed (Nat.lt_asymm order)
  · exact idxOf_keys_lt_of_writers (none j) (none k) writesj

/-- A name whose first declaration writes is written before the names that are declared after it. -/
theorem FormPlan.idxOf_writers_lt {value : Value}
    (declared : (FormPlan.names fields).idxOf j < (FormPlan.names fields).idxOf k)
    (first : FormPlan.get? fields j = some plan) (wrote : plan.entry j input = some value) :
    (FormPlan.writers fields input).names.idxOf j
      < (FormPlan.writers fields input).names.idxOf k := by
  induction fields with
  | nil => cases first
  | cons planned rest ih =>
    obtain ⟨name, plan'⟩ := planned
    have different : k ≠ name := by
      rintro rfl
      simp [FormPlan.names] at declared
    rw [FormPlan.writers_cons]
    by_cases here : j = name
    · subst here
      have same : plan' = plan := by simpa [FormPlan.get?] using first
      subst same
      simp [wrote, FormPlan.names, List.idxOf_cons_ne _ (Ne.symm different)]
    · have found : FormPlan.get? rest j = some plan := by
        simpa [FormPlan.get?, List.lookup_cons, beq_false_of_ne here] using first
      have later : (FormPlan.names rest).idxOf j < (FormPlan.names rest).idxOf k := by
        simpa [FormPlan.names, List.idxOf_cons_ne _ (Ne.symm here),
          List.idxOf_cons_ne _ (Ne.symm different)] using declared
      have rest_lt := ih later found
      split
      · simpa [FormPlan.names, List.idxOf_cons_ne _ (Ne.symm here),
          List.idxOf_cons_ne _ (Ne.symm different)] using rest_lt
      · exact rest_lt

/-- **A key stands where it was written first.** Of two keys of the output the one comes first that is
written first. So it is the one that is declared first, if that declaration writes: if its name is
present, or if the declaration supplies a value for the missing name. -/
theorem output_ordered (heldj : j ∈ Record.keys (form.sanitize input).value)
    (heldk : k ∈ Record.keys (form.sanitize input).value) :
    ((Record.keys (form.sanitize input).value).idxOf j
        < (Record.keys (form.sanitize input).value).idxOf k ↔
      (form.writers input).names.idxOf j < (form.writers input).names.idxOf k) ∧
    (form.names.idxOf j < form.names.idxOf k → ∀ plan, form.get? j = some plan →
      (j ∈ Record.keys input ∨ ∃ value, plan.Supplies j input value) →
        (Record.keys (form.sanitize input).value).idxOf j
          < (Record.keys (form.sanitize input).value).idxOf k) := by
  have ordered := keys_ordered_by_writers heldj heldk
  refine ⟨ordered, ?_⟩
  intro declared plan first writes
  obtain ⟨value, wrote⟩ := FieldPlan.exists_entry_iff.mpr writes
  exact ordered.mpr (FormPlan.idxOf_writers_lt declared first wrote)

/-- The fields of a listing: a page that is declared with a default only the second time, and a size. -/
def listingFields : Properties :=
  [("page", .single { type := some (.one "integer") }),
    ("size", .single { default := some (.string "20") }),
    ("page", .single { type := some (.one "integer"), default := some (.string "1") })]

/-- The plans of the fields of a listing. -/
def listingForm : FormPlan :=
  [("page", .mk [⟨some "integer", some Coercion.integer, [], .scalar⟩] none),
    ("size", .mk [⟨none, none, [], .scalar⟩] (some (.string "20"))),
    ("page", .mk [⟨some "integer", some Coercion.integer, [], .scalar⟩] (some (.string "1")))]

/-- A listing with a page has it in front of the size, as declared. -/
theorem listing_ordered :
    let input : Record := [("size", .string "50"), ("page", .string "2")]
    let keys := Record.keys (listingForm.sanitize input).value
    "page" ∈ keys ∧ "size" ∈ keys ∧ listingForm.names.idxOf "page" < listingForm.names.idxOf "size" ∧
      "page" ∈ Record.keys input ∧ keys.idxOf "page" < keys.idxOf "size" := by
  intro input keys
  have held : keys = ["page", "size"] := by cbv
  have page : "page" ∈ keys := by rw [held]; decide
  have size : "size" ∈ keys := by rw [held]; decide
  have declared : listingForm.names.idxOf "page" < listingForm.names.idxOf "size" := by decide
  have present : "page" ∈ Record.keys input := by decide
  exact ⟨page, size, declared, present,
    (output_ordered page size).2 declared _ rfl (Or.inl present)⟩

/-- The keys of every output are in the order of the first declarations of their names. -/
def FormPlan.FollowsDeclarations (form : FormPlan) : Prop :=
  ∀ (input : Record) (j k : String), j ∈ Record.keys (form.sanitize input).value →
    k ∈ Record.keys (form.sanitize input).value → form.names.idxOf j < form.names.idxOf k →
      (Record.keys (form.sanitize input).value).idxOf j
        < (Record.keys (form.sanitize input).value).idxOf k

/-- **A default that is declared late comes late.** In an empty listing the page comes after the size,
although it is declared before: its first declaration has nothing to write. -/
theorem late_default_out_of_order :
    ¬ ∀ (compiler : Compiler) (fields : Properties) (form : FormPlan),
      (compiler.compile fields).value = .ok form → form.FollowsDeclarations := by
  intro follows
  have keys : Record.keys (listingForm.sanitize []).value = ["size", "page"] := by cbv
  have order := follows builtin listingFields listingForm rfl [] "page" "size"
  rw [keys] at order
  exact absurd (order (by decide) (by decide) (by decide)) (by decide)

/-! ## Declarations in another order -/

/-- Fields that are declared in another order compile to the same plans in another order. -/
theorem Compiler.compileFields_perm {compiler : Compiler} {declared declared' : Properties}
    {form form' : FormPlan} (perm : declared.Perm declared')
    (compiled : (compiler.compileFields declared).value = .ok form)
    (compiled' : (compiler.compileFields declared').value = .ok form') : form.Perm form' := by
  obtain ⟨between, correspond, reordered⟩ :=
    List.perm_comp_forall₂ perm (Compiler.compileFields_ok compiled')
  -- A field compiles to one plan only, so the plans in between are those of the first list.
  have unique : Relator.RightUnique fun (field : String × FieldSchema) (planned : String × FieldPlan) =>
      field.1 = planned.1 ∧ (compiler.compileField field.2).value = .ok planned.2 := by
    rintro field ⟨name, plan⟩ ⟨name', plan'⟩ ⟨rfl, plan_ok⟩ ⟨rfl, plan_ok'⟩
    have same : plan = plan' := Except.ok.inj (plan_ok.symm.trans plan_ok')
    rw [same]
  obtain rfl : form = between :=
    List.right_unique_forall₂' unique (Compiler.compileFields_ok compiled) correspond
  exact reordered

/-- Plans of distinct names hold the same values in any order. -/
theorem FormPlan.get?_sanitize_congr {form form' : FormPlan} (perm : form.Perm form')
    (distinct : form.names.Nodup) (input : Record) (key : String) :
    Record.get? (form.sanitize input).value key = Record.get? (form'.sanitize input).value key := by
  have names : form.names.Perm form'.names := perm.map Prod.fst
  have distinct' : form'.names.Nodup := names.nodup_iff.mp distinct
  unfold FormPlan.sanitize
  by_cases declared : key ∈ form.names
  · obtain ⟨⟨_, plan⟩, listed, rfl⟩ := List.mem_map.mp declared
    rw [get?_sanitizeFields_of_mem distinct listed,
      get?_sanitizeFields_of_mem distinct' (perm.mem_iff.mp listed)]
  · have undeclared : key ∉ form'.names := fun h => declared (names.mem_iff.mpr h)
    rw [get?_sanitizeFields_of_not_mem declared, get?_sanitizeFields_of_not_mem undeclared]

/-- **The order of declarations decides the order of the output and nothing else.** Whatever types and
rules there are, also rules that look at the key and at the record: if distinct names are declared in
another order, then every record is sanitized to the same entries in another order, each key has the same
value, and the same events are reported in another order. -/
theorem order_decides_order {compiler : Compiler} {declared declared' : Properties}
    {form form' : FormPlan} (perm : declared.Perm declared')
    (distinct : (declared.map Prod.fst).Nodup)
    (compiled : (compiler.compile declared).value = .ok form)
    (compiled' : (compiler.compile declared').value = .ok form') (input : Record) :
    (form.sanitize input).value.Perm (form'.sanitize input).value ∧
      (∀ key, Record.get? (form.sanitize input).value key
        = Record.get? (form'.sanitize input).value key) ∧
      (form.sanitize input).events.Perm (form'.sanitize input).events := by
  have fields_ok := Compiler.finishForm_ok compiled
  have plans := Compiler.compileFields_perm perm fields_ok (Compiler.finishForm_ok compiled')
  have names : form.names.Nodup := Compiler.nodup_names fields_ok distinct
  have names' : form'.names.Nodup := (plans.map Prod.fst).nodup_iff.mp names
  refine ⟨?_, FormPlan.get?_sanitize_congr plans names input, ?_⟩
  · rw [FormPlan.sanitize_eq_entries names, FormPlan.sanitize_eq_entries names']
    exact plans.filterMap _
  · have events : (form.sanitize input).events = _ := sanitizeFields_events form input []
    have events' : (form'.sanitize input).events = _ := sanitizeFields_events form' input []
    rw [events, events']
    exact plans.flatMap_right _

/-- The compiler that also knows the rule that a value is the same as that of another field. -/
def comparingCompiler : Compiler :=
  { builtin with rules := builtin.rules.insert "sameAs" RuleFactory.sameAs }

/-- The plan of a secret number. -/
def pinPlan : FieldPlan := .mk [⟨some "integer", some Coercion.integer, [], .scalar⟩] none

/-- The rule that a value is the same as the secret number of the record. -/
def samePin : Rule := fun value _ record =>
  match Record.get? record "pin" with
  | some found => if found.same value then .ok value else .error (.rule "sameAs" "fields differ")
  | none => .error (.rule "sameAs" "fields differ")

/-- The plan of confirmations of a secret number. -/
def confirmedPlan : FieldPlan :=
  .mk [⟨some "array", some Coercion.array, [], .items (.mk [⟨none, none, [samePin], .scalar⟩] none)⟩]
    none

/-- A secret number and its confirmation: the confirmation is compared with the number as it was given,
and not with the whole number that it is read as, also if the number is declared and sanitized first. -/
theorem confirmed_alike :
    let pin : String × FieldSchema := ("pin", .single { type := some (.one "integer") })
    let confirmed : String × FieldSchema := ("confirmed", .single
      { type := some (.one "array")
        items := some (.single { rules := RuleTable.ofList [("sameAs", .string "pin")] }) })
    let input : Record := [("pin", .string "007"), ("confirmed", .string "007")]
    let output := (FormPlan.sanitize [("pin", pinPlan), ("confirmed", confirmedPlan)] input).value
    let output' := (FormPlan.sanitize [("confirmed", confirmedPlan), ("pin", pinPlan)] input).value
    (comparingCompiler.compile [pin, confirmed]).value
        = .ok [("pin", pinPlan), ("confirmed", confirmedPlan)] ∧
      (comparingCompiler.compile [confirmed, pin]).value
        = .ok [("confirmed", confirmedPlan), ("pin", pinPlan)] ∧
      output = [("pin", .number (.integer 7 (by decide))), ("confirmed", .array [.string "007"])] ∧
      output.Perm output' ∧ Record.get? output' "confirmed" = some (.array [.string "007"]) := by
  intro pin confirmed input output output'
  have compiled : (comparingCompiler.compile [pin, confirmed]).value
      = .ok [("pin", pinPlan), ("confirmed", confirmedPlan)] := rfl
  have compiled' : (comparingCompiler.compile [confirmed, pin]).value
      = .ok [("confirmed", confirmedPlan), ("pin", pinPlan)] := rfl
  have first : output
      = [("pin", .number (.integer 7 (by decide))), ("confirmed", .array [.string "007"])] := by cbv
  have swapped : [pin, confirmed].Perm [confirmed, pin] := List.Perm.swap _ _ _
  obtain ⟨same, held, -⟩ := order_decides_order swapped (by decide) compiled compiled' input
  refine ⟨compiled, compiled', first, same, ?_⟩
  rw [← held "confirmed"]
  exact congrArg (Record.get? · "confirmed") first

end Intake
