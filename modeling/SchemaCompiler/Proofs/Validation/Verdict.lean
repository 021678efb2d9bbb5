import SchemaCompiler.Proofs.Validation.Accepted

/-!
Verdicts on values: what a step of extraction accepts, and of which kind its refusals are. The
verdict on a run of steps comes from those on its steps.
-/

namespace SchemaCompiler.Validation

open Decimal Outcome

variable {α β : Type} {f : Field}

/-- Refused with an error of the kind that names the field and its datatype. -/
def RefusedAs (f : Field) (kind : ErrorKind) (outcome : Check α) : Prop :=
  ∃ violation : Violation, violation.kind = kind ∧
    outcome = .error (.invalid (.value f.title f.datatype violation))

/-- The outcome for whatever is accepted, and the kinds of error that it may be refused with. No
outcome is left out. -/
structure Verdict (f : Field) (accepts : α → Prop) (refuses : ErrorKind → Prop)
    (outcome : Check α) : Prop where
  accepted : ∀ a, outcome = .ok a ↔ accepts a
  refused : ∀ kind, RefusedAs f kind outcome ↔ refuses kind
  answers : Answers f outcome

/-! Refusals -/

theorem refused_ok (f : Field) (kind : ErrorKind) (a : α) :
    ¬ RefusedAs f kind (.ok a : Check α) := by
  rintro ⟨violation, _, same⟩
  cases same

theorem refused_reject_iff (f : Field) (kind : ErrorKind) (violation : Violation) :
    RefusedAs f kind (reject f violation : Check α) ↔ kind = violation.kind := by
  constructor
  · rintro ⟨other, rfl, same⟩
    cases same
    rfl
  · rintro rfl
    exact ⟨violation, rfl, rfl⟩

theorem refused_bind_iff (f : Field) (kind : ErrorKind) (x : Check α) (k : α → Check β) :
    RefusedAs f kind (x >>= k) ↔
      RefusedAs f kind x ∨ ∃ a, x = .ok a ∧ RefusedAs f kind (k a) := by
  constructor
  · rintro ⟨violation, fits, failed⟩
    rcases (bind_error_iff x k _).mp failed with here | ⟨a, passed, later⟩
    · exact .inl ⟨violation, fits, here⟩
    · exact .inr ⟨a, passed, violation, fits, later⟩
  · rintro (⟨violation, fits, here⟩ | ⟨a, passed, violation, fits, later⟩)
    · exact ⟨violation, fits, (bind_error_iff x k _).mpr (.inl here)⟩
    · exact ⟨violation, fits, (bind_error_iff x k _).mpr (.inr ⟨a, passed, later⟩)⟩

theorem refused_map_iff (f : Field) (kind : ErrorKind) (x : Check α) (g : α → β) :
    RefusedAs f kind (x.map g) ↔ RefusedAs f kind x := by
  cases x with
  | ok a => exact iff_of_false (refused_ok f kind (g a)) (refused_ok f kind a)
  | error e => simp [RefusedAs, Except.map]

/-- A list is refused as the first of its items that is. -/
theorem refused_mapM_iff (f : Field) (kind : ErrorKind) (step : α → Check β) (items : List α) :
    RefusedAs f kind (items.mapM step) ↔ ∃ before a after, items = before ++ a :: after ∧
      (∀ earlier ∈ before, ∃ b, step earlier = .ok b) ∧ RefusedAs f kind (step a) := by
  constructor
  · rintro ⟨violation, fits, failed⟩
    obtain ⟨before, a, after, parts, passed, here⟩ := (mapM_error_iff step items _).mp failed
    exact ⟨before, a, after, parts, passed, violation, fits, here⟩
  · rintro ⟨before, a, after, parts, passed, violation, fits, here⟩
    refine ⟨violation, fits, (mapM_error_iff step items _).mpr ?_⟩
    exact ⟨before, a, after, parts, passed, here⟩

/-! Verdicts -/

theorem verdict_ok (f : Field) (a : α) : Verdict f (· = a) (fun _ => False) (.ok a) :=
  ⟨fun b => by simp [eq_comm], fun kind => iff_of_false (refused_ok f kind a) id, answers_ok f a⟩

theorem verdict_reject (f : Field) (violation : Violation) :
    Verdict f (fun _ : α => False) (· = violation.kind) (reject f violation) :=
  ⟨fun a => by simp [reject], fun kind => refused_reject_iff f kind violation,
    answers_reject f violation⟩

/-- A step with a single violation is refused for it whenever it accepts nothing. -/
theorem verdict_of_ok_iff {accepts : α → Prop} {x : Check α} (violation : Violation)
    (accepted : ∀ a, x = .ok a ↔ accepts a)
    (refused : (∀ a, ¬ accepts a) → x = reject f violation) :
    Verdict f accepts (fun kind => kind = violation.kind ∧ ∀ a, ¬ accepts a) x := by
  by_cases some : ∃ a, accepts a
  · obtain ⟨a, accepts⟩ := some
    have passed := (accepted a).mpr accepts
    refine ⟨accepted, fun kind => ?_, .inl ⟨a, passed⟩⟩
    rw [passed]
    exact iff_of_false (refused_ok f kind a) fun none => none.2 a accepts
  · have none := not_exists.mp some
    have failed := refused none
    refine ⟨accepted, fun kind => ?_, .inr ⟨violation, failed⟩⟩
    rw [failed, refused_reject_iff]
    exact (and_iff_left none).symm

section Verdicts

variable {accepts accepts' : α → Prop} {refuses refuses' : ErrorKind → Prop} {x : Check α}

theorem verdict_of_iff (verdict : Verdict f accepts refuses x)
    (accepted : ∀ a, accepts a ↔ accepts' a) (refused : ∀ kind, refuses kind ↔ refuses' kind) :
    Verdict f accepts' refuses' x :=
  ⟨fun a => (verdict.accepted a).trans (accepted a),
    fun kind => (verdict.refused kind).trans (refused kind), verdict.answers⟩

/-- A step that passes a value on under a condition. -/
theorem verdict_choice (holds : Prop) (a : α) (violation : Violation)
    (passes : holds → x = .ok a) (fails : ¬ holds → x = reject f violation) :
    Verdict f (fun b => holds ∧ b = a) (fun kind => kind = violation.kind ∧ ¬ holds) x := by
  by_cases decided : holds
  · rw [passes decided]
    exact verdict_of_iff (verdict_ok f a) (by simp [decided]) (by simp [decided])
  · rw [fails decided]
    exact verdict_of_iff (verdict_reject f violation) (by simp [decided]) (by simp [decided])

/-- One step after the other: the first to refuse decides. -/
theorem verdict_bind {accepts' : α → β → Prop} {refuses' : α → ErrorKind → Prop} {k : α → Check β}
    (first : Verdict f accepts refuses x)
    (next : ∀ a, accepts a → Verdict f (accepts' a) (refuses' a) (k a)) :
    Verdict f (fun b => ∃ a, accepts a ∧ accepts' a b)
      (fun kind => refuses kind ∨ ∃ a, accepts a ∧ refuses' a kind) (x >>= k) := by
  refine ⟨fun b => ?_, fun kind => ?_, ?_⟩
  · rw [bind_ok_iff]
    refine exists_congr fun a => ?_
    rw [first.accepted a]
    exact and_congr_right fun accepted => (next a accepted).accepted b
  · rw [refused_bind_iff, first.refused kind]
    refine or_congr_right (exists_congr fun a => ?_)
    rw [first.accepted a]
    exact and_congr_right fun accepted => (next a accepted).refused kind
  · exact answers_bind first.answers fun a passed => (next a ((first.accepted a).mp passed)).answers

theorem verdict_map (g : α → β) (verdict : Verdict f accepts refuses x) :
    Verdict f (fun b => ∃ a, accepts a ∧ b = g a) refuses (x.map g) := by
  refine ⟨fun b => ?_, fun kind => ?_, ?_⟩
  · rw [map_ok_iff]
    exact exists_congr fun a => and_congr (verdict.accepted a) eq_comm
  · rw [refused_map_iff]
    exact verdict.refused kind
  · exact (answers_map g).mpr verdict.answers

end Verdicts

/-- Along a list, the first item to be refused decides. -/
theorem verdict_mapM {accepts : α → β → Prop} {refuses : α → ErrorKind → Prop}
    {step : α → Check β} (each : ∀ a, Verdict f (accepts a) (refuses a) (step a))
    (items : List α) :
    Verdict f (List.Forall₂ accepts items)
      (fun kind => ∃ before a after, items = before ++ a :: after ∧
        (∀ earlier ∈ before, ∃ b, accepts earlier b) ∧ refuses a kind) (items.mapM step) := by
  refine ⟨fun results => ?_, fun kind => ?_, answers_mapM (fun a => (each a).answers) items⟩
  · induction items generalizing results with
    | nil => cases results <;> simp [pure, Except.pure]
    | cons a rest ih =>
        simp only [List.mapM_cons, bind_ok_iff, ih, (each a).accepted]
        cases results with
        | nil => simp [pure, Except.pure]
        | cons b more => simp [pure, Except.pure, List.forall₂_cons]
  · rw [refused_mapM_iff]
    simp only [(each _).accepted, (each _).refused]

/-! Extraction -/

theorem verdict_extract [Pattern.CharacterNames] {accepts : Value → Prop}
    {refuses : ErrorKind → Prop} {value : Json}
    (consistent : f.Consistent) (verdict : Verdict f accepts refuses (extractValue f value)) :
    Verdict f (fun typed => ∃ v, accepts v ∧ typed = ⟨f.datatype, v⟩) refuses
      (f.extract value) := by
  rw [Field.extract, f.checkConsistency_eq_ok_iff.mpr consistent]
  exact verdict_map _ verdict

end SchemaCompiler.Validation
