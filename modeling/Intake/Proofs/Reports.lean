import Intake.Proofs.Outputs

/-!
# What runs report

The events of attempts that succeed: an attempt at an array reports what the attempts at its elements
report, in order (`attemptEach_events`), and a record what its fields report (`sanitizeFields_events`).
A run that keeps no refused value (`NothingKept`) therefore keeps none in its parts either, and each of
its fields has been sanitized to what the attempt at it gave.
-/

set_option autoImplicit false

namespace Intake

variable {events part : List Event} {plan : FieldPlan} {key : String} {record : Record} {value : Value}

/-- No event tells of a value that was kept because its field refused it. -/
def NothingKept (events : List Event) : Prop :=
  ∀ (field : String) (cause : Rejection), Event.valueKept field cause ∉ events

/-- Where nothing was kept, nothing was kept in any part. -/
theorem NothingKept.mono (quiet : NothingKept events) (within : part ⊆ events) : NothingKept part :=
  fun field cause member => quiet field cause (within member)

/-- Where nothing was kept in a sequence of reports, nothing was kept in any of them. -/
theorem NothingKept.of_flatMap {α : Type} {sources : List α} {report : α → List Event} {source : α}
    (quiet : NothingKept (sources.flatMap report)) (member : source ∈ sources) :
    NothingKept (report source) :=
  quiet.mono fun _ reported => List.mem_flatMap.mpr ⟨source, member, reported⟩

/-- **A field that keeps nothing has attempted its value with success**, and gives what the attempt
gave. -/
theorem FieldPlan.sanitize_of_nothingKept {input : Option Value}
    (quiet : NothingKept (plan.sanitize input key record).events) :
    (plan.attempt input key record).value = .ok (plan.sanitize input key record).value ∧
      NothingKept (plan.attempt input key record).events := by
  unfold FieldPlan.sanitize settle at quiet ⊢
  cases outcome : (plan.attempt input key record).value with
  | ok sanitized =>
    simp only [outcome, true_and] at quiet ⊢
    exact quiet
  | error cause =>
    -- A field that refuses its value says so.
    simp only [outcome] at quiet
    have reported : Event.valueKept key cause
        ∈ (plan.attempt input key record).events ++ [.valueKept key cause] :=
      List.mem_append_right _ List.mem_cons_self
    exact absurd reported (quiet key cause)

/-- **What an attempt that gives a value has done**: the value is null, or one of the alternatives gives
it for some value, and the attempt reports what that alternative reports. -/
theorem FieldPlan.attempt_ok {input : Option Value} {result : Value}
    (h : (plan.attempt input key record).value = .ok (some result)) :
    result = .null ∨ ∃ alternative ∈ plan.alternatives, ∃ value,
      (attemptAlternative alternative value key record).value = .ok result ∧
        (attemptAlternative alternative value key record).events
          ⊆ (plan.attempt input key record).events := by
  obtain ⟨alternatives, default⟩ := plan
  unfold FieldPlan.attempt at h ⊢
  cases effective : effectiveInput default input with
  | none => simp [effective] at h
  | some value =>
    simp only [effective] at h ⊢
    by_cases null : value.isNull
    · rw [if_pos null] at h
      cases h
      exact Or.inl (isNull_iff.mp null)
    · rw [if_neg null] at h ⊢
      cases outcome : (attemptAlternatives alternatives none value key record).value with
      | error last => simp [outcome] at h
      | ok sanitized =>
        simp only [Reported.value_map, outcome] at h
        cases h
        obtain ⟨alternative, member, succeeds, reported⟩ := attemptAlternatives_ok outcome
        exact Or.inr ⟨alternative, member, value, succeeds, reported⟩

/-- An attempt at an array that succeeds reports what the attempts at its elements report, in order. -/
theorem attemptEach_events {attempt : Value → Attempt (Option Value)} {index : Nat}
    {elements results : List Value} (h : (attemptEach attempt index elements).value = .ok results) :
    (attemptEach attempt index elements).events
      = elements.flatMap fun element => (attempt element).events := by
  induction elements generalizing index results with
  | nil => rfl
  | cons element rest ih =>
    rw [attemptEach] at h ⊢
    cases first : (attempt element).value with
    | error cause => simp [first] at h
    | ok sanitized =>
      simp only [first] at h ⊢
      obtain ⟨others, others_ok, -⟩ := map_eq_ok h
      rw [ih others_ok, List.flatMap_cons]

/-- A record reports what its fields report, in order. -/
theorem sanitizeFields_events (fields : FormPlan) (input output : Record) :
    (sanitizeFields fields input output).events = fields.flatMap fun planned =>
      (planned.2.sanitize (Record.get? input planned.1) planned.1 input).events := by
  induction fields generalizing output with
  | nil => rfl
  | cons planned rest ih =>
    obtain ⟨name, plan⟩ := planned
    rw [sanitizeFields, List.flatMap_cons, ih]
    rfl

/-- What a field writes is null or what it has been sanitized to. -/
theorem written_eq_some {input sanitized : Option Value} (h : written input sanitized = some value) :
    value = .null ∨ sanitized = some value := by
  cases sanitized with
  | none =>
    cases input with
    | none => cases h
    | some _ => exact Or.inl (Option.some.inj h).symm
  | some other =>
    cases input with
    | none =>
      simp only [written, Option.ite_none_left_eq_some] at h
      exact Or.inr h.2
    | some _ => exact Or.inr h

/-- **Every entry of a record that keeps nothing** is null or has been given by an attempt at a field
of its name, and that attempt kept nothing either. -/
theorem FormPlan.mem_sanitize_of_nothingKept {form : FormPlan} {input : Record}
    {entry : String × Value} (quiet : NothingKept (form.sanitize input).events)
    (member : entry ∈ (form.sanitize input).value) :
    ∃ planned ∈ form, planned.1 = entry.1 ∧ (entry.2 = .null ∨
      ((planned.2.attempt (Record.get? input planned.1) planned.1 input).value = .ok (some entry.2) ∧
        NothingKept (planned.2.attempt (Record.get? input planned.1) planned.1 input).events)) := by
  rcases mem_sanitizeFields member with before | ⟨planned, listed, named, wrote⟩
  · cases before
  · refine ⟨planned, listed, named, ?_⟩
    have reports : (form.sanitize input).events = _ := sanitizeFields_events form input []
    rw [reports] at quiet
    obtain ⟨succeeds, kept⟩ := FieldPlan.sanitize_of_nothingKept (quiet.of_flatMap listed)
    rcases written_eq_some wrote with null | sanitized
    · exact Or.inl null
    · exact Or.inr ⟨sanitized ▸ succeeds, kept⟩

end Intake
