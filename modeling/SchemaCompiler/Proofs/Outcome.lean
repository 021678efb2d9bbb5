/-!
Computations that stop at the first failure, one after the other and along a list.
-/

namespace SchemaCompiler.Outcome

variable {α β ε : Type}

theorem bind_ok_iff (x : Except ε α) (f : α → Except ε β) (b : β) :
    (x >>= f) = .ok b ↔ ∃ a, x = .ok a ∧ f a = .ok b := by
  cases x with
  | error e => simp [bind, Except.bind]
  | ok a => simp [bind, Except.bind]

theorem to_option_some_iff (x : Except ε α) (a : α) : x.toOption = some a ↔ x = .ok a := by
  cases x with
  | error e => simp [Except.toOption]
  | ok b => simp [Except.toOption]

theorem to_option_none_iff (x : Except ε α) : x.toOption = none ↔ ∃ e, x = .error e := by
  cases x with
  | error e => simp [Except.toOption]
  | ok b => simp [Except.toOption]

/-- How a computation ends comes from how its parts end, whatever their failures are. -/
theorem to_option_bind (x : Except ε α) (f : α → Except ε β) :
    (x >>= f).toOption = x.toOption.bind fun a => (f a).toOption := by
  cases x with
  | error e => rfl
  | ok a => rfl

theorem to_option_map (x : Except ε α) (f : α → β) : (x.map f).toOption = x.toOption.map f := by
  cases x with
  | error e => rfl
  | ok a => rfl

theorem exists_ok {x : Except ε α} (passed : x.toOption.isSome = true) : ∃ a, x = .ok a := by
  cases x with
  | error e => cases passed
  | ok a => exact ⟨a, rfl⟩

theorem map_ok_iff (x : Except ε α) (f : α → β) (b : β) :
    x.map f = .ok b ↔ ∃ a, x = .ok a ∧ f a = b := by
  cases x with
  | error e => simp [Except.map]
  | ok a => simp [Except.map]

theorem map_error_ok_iff {δ : Type} (x : Except ε α) (f : ε → δ) (a : α) :
    x.mapError f = .ok a ↔ x = .ok a := by
  cases x with
  | error e =>
      constructor
      · exact fun same => by cases same
      · exact fun same => by cases same
  | ok b =>
      have kept : (Except.ok b : Except ε α).mapError f = .ok b := rfl
      rw [kept, Except.ok.injEq, Except.ok.injEq]

theorem bind_error_iff (x : Except ε α) (f : α → Except ε β) (e : ε) :
    (x >>= f) = .error e ↔ x = .error e ∨ ∃ a, x = .ok a ∧ f a = .error e := by
  cases x with
  | error other => simp [bind, Except.bind]
  | ok a => simp [bind, Except.bind]

theorem mapM_ok (f : α → Except ε β) (g : α → β) (items : List α)
    (each : ∀ a ∈ items, f a = .ok (g a)) : items.mapM f = .ok (items.map g) := by
  induction items with
  | nil => rfl
  | cons a rest ih =>
      have head := each a (by simp)
      have tail := ih (fun b member => each b (List.mem_cons_of_mem a member))
      simp [List.mapM_cons, head, tail, bind, Except.bind, pure, Except.pure]

/-- When an item fails, so does the list, with the failure of one of its items. -/
theorem mapM_error (f : α → Except ε β) (items : List α)
    (fails : ∃ a ∈ items, ∃ e, f a = .error e) :
    ∃ a ∈ items, ∃ e, f a = .error e ∧ items.mapM f = .error e := by
  induction items with
  | nil =>
      obtain ⟨a, member, _⟩ := fails
      exact absurd member List.not_mem_nil
  | cons first rest ih =>
      cases outcome : f first with
      | error e =>
          exact ⟨first, by simp, e, outcome,
            by simp [List.mapM_cons, outcome, bind, Except.bind]⟩
      | ok b =>
          obtain ⟨a, member, e, failed⟩ := fails
          rcases List.mem_cons.mp member with same | later
          · rw [← same, failed] at outcome
            cases outcome
          · obtain ⟨a, member, e, failed, whole⟩ := ih ⟨a, later, e, failed⟩
            exact ⟨a, List.mem_cons_of_mem first member, e, failed,
              by simp [List.mapM_cons, outcome, whole, bind, Except.bind]⟩

/-- A list fails as its first item that fails. -/
theorem mapM_error_iff (f : α → Except ε β) (items : List α) (e : ε) :
    items.mapM f = .error e ↔ ∃ before a after, items = before ++ a :: after ∧
      (∀ earlier ∈ before, ∃ b, f earlier = .ok b) ∧ f a = .error e := by
  induction items with
  | nil => simp [pure, Except.pure]
  | cons first rest ih =>
      simp only [List.mapM_cons, bind_error_iff, ih]
      constructor
      · rintro (failed | ⟨b, passed, ⟨before, a, after, rfl, earlier, failed⟩ | ⟨_, _, late⟩⟩)
        · exact ⟨[], first, rest, rfl, by simp, failed⟩
        · exact ⟨first :: before, a, after, rfl, by simpa using ⟨⟨b, passed⟩, earlier⟩, failed⟩
        · cases late
      · rintro ⟨before, a, after, same, earlier, failed⟩
        cases before with
        | nil =>
            cases same
            exact Or.inl failed
        | cons other before =>
            cases same
            obtain ⟨b, passed⟩ := earlier first (by simp)
            have others := fun c member => earlier c (List.mem_cons_of_mem first member)
            exact Or.inr ⟨b, passed, Or.inl ⟨before, a, after, rfl, others, failed⟩⟩

theorem mem_mapM {f : α → Except ε β} {items : List α} {results : List β}
    (passed : items.mapM f = .ok results) : ∀ b ∈ results, ∃ a ∈ items, f a = .ok b := by
  induction items generalizing results with
  | nil =>
      cases passed
      simp
  | cons first rest ih =>
      simp only [List.mapM_cons, bind_ok_iff] at passed
      obtain ⟨b, head, others, tail, same⟩ := passed
      cases same
      intro c member
      rcases List.mem_cons.mp member with rfl | later
      · exact ⟨first, by simp, head⟩
      · obtain ⟨a, among, found⟩ := ih tail c later
        exact ⟨a, List.mem_cons_of_mem first among, found⟩

/-- Results stand where their items do. -/
theorem mapM_get {f : α → Except ε β} {items : List α} {results : List β}
    (passed : items.mapM f = .ok results) {i : Nat} {a : α} (there : items[i]? = some a) :
    ∃ b, results[i]? = some b ∧ f a = .ok b := by
  induction items generalizing results i with
  | nil => cases there
  | cons first rest ih =>
      simp only [List.mapM_cons, bind_ok_iff] at passed
      obtain ⟨b, head, others, tail, same⟩ := passed
      cases same
      cases i with
      | zero =>
          cases there
          exact ⟨b, rfl, head⟩
      | succ i => exact ih tail there

/-! Failures of a kind -/

/-- If the computation fails, then as allowed. -/
def FailsIn (allowed : ε → Prop) (outcome : Except ε α) : Prop :=
  ∀ e, outcome = .error e → allowed e

section Kinds

variable {allowed : ε → Prop}

theorem fails_in_ok (a : α) : FailsIn allowed (.ok a) := fun _ failed => by cases failed

theorem fails_in_error {e : ε} (fits : allowed e) : FailsIn allowed (.error e : Except ε α) := by
  intro other failed
  cases failed
  exact fits

theorem fails_in_bind {x : Except ε α} {f : α → Except ε β} (first : FailsIn allowed x)
    (next : ∀ a, FailsIn allowed (f a)) : FailsIn allowed (x >>= f) := by
  intro e failed
  rcases (bind_error_iff x f e).mp failed with here | ⟨a, _, later⟩
  · exact first e here
  · exact next a e later

theorem fails_in_map {x : Except ε α} (g : α → β) (inner : FailsIn allowed x) :
    FailsIn allowed (x.map g) := by
  cases x with
  | ok a => exact fails_in_ok (g a)
  | error e => exact fails_in_error (inner e rfl)

theorem fails_in_mapM {f : α → Except ε β} (each : ∀ a, FailsIn allowed (f a)) (items : List α) :
    FailsIn allowed (items.mapM f) := by
  intro e failed
  obtain ⟨_, a, _, _, _, stopped⟩ := (mapM_error_iff f items e).mp failed
  exact each a e stopped

end Kinds

end SchemaCompiler.Outcome
