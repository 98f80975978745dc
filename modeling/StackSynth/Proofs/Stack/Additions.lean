import StackSynth.Proofs.Stack.Obeys

/-!
Actions that only declare. What was declared before keeps its place in front of what they add,
whether they fail or not, and what they add is told by their results.
-/
namespace StackSynth

/-- A resource with its id, as the stack lists it. -/
abbrev Declaration := String × DeclaredResource

variable {α β : Type}

/-- The action only adds to what is declared, and adds what is promised where it succeeds. -/
def Adds (m : Declaring α) (P : α → List Declaration → Prop) : Prop :=
  ∀ s : Stack, ∃ added, (s.run m).2.declared.entries = s.declared.entries ++ added ∧
    ∀ a, (s.run m).1 = .ok a → P a added

variable {m : Declaring α} {f : α → Declaring β}
variable {P : α → List Declaration → Prop} {R : β → List Declaration → Prop}

theorem adds_pure {a : α} (holds : P a []) : Adds (pure a) P := by
  intro s
  refine ⟨[], (List.append_nil _).symm, fun b same => ?_⟩
  cases same
  exact holds

theorem adds_throw {e : Failure} : Adds (throw e) P := by
  intro s
  refine ⟨[], (List.append_nil _).symm, fun b same => ?_⟩
  cases same

theorem adds_imp {P' : α → List Declaration → Prop} (adds : Adds m P)
    (weaker : ∀ a added, P a added → P' a added) : Adds m P' := by
  intro s
  obtain ⟨added, kept, holds⟩ := adds s
  exact ⟨added, kept, fun a same => weaker a added (holds a same)⟩

theorem adds_bind (first : Adds m P)
    (rest : ∀ a added, P a added → Adds (f a) fun b more => R b (added ++ more)) :
    Adds (m >>= f) R := by
  intro s
  obtain ⟨added, kept, holds⟩ := first s
  rw [Stack.run_bind]
  rcases outcome : s.run m with ⟨o, s'⟩
  rw [outcome] at kept holds
  cases o with
  | error e => exact ⟨added, kept, fun b same => by cases same⟩
  | ok a =>
    obtain ⟨more, kept', holds'⟩ := rest a added (holds a rfl) s'
    refine ⟨added ++ more, ?_, holds'⟩
    rw [kept', kept, List.append_assoc]

theorem adds_map {g : α → β} (first : Adds m P) (holds : ∀ a added, P a added → R (g a) added) :
    Adds (g <$> m) R := by
  rw [map_eq_pure_bind]
  refine adds_bind first fun a added promised => adds_pure ?_
  rw [List.append_nil]
  exact holds a added promised

theorem adds_lift {o : Outcome α} (onward : ∀ a, o = .ok a → Adds (f a) R) :
    Adds (Stack.lift o >>= f) R := by
  intro s
  rw [Stack.run_bind, Stack.run_lift]
  cases o with
  | error e => exact ⟨[], (List.append_nil _).symm, fun b same => by cases same⟩
  | ok a => exact onward a rfl s

theorem adds_get {f : Stack → Declaring β} (onward : ∀ s, Adds (f s) R) : Adds (get >>= f) R := by
  intro s
  rw [Stack.run_bind, Stack.run_get]
  exact onward s s

theorem adds_declare (path : List String) (r : Resource) :
    Adds (Stack.declare path r) fun id added => added = [(id, ⟨path, r⟩)] := by
  intro s
  rw [Stack.run_declare]
  cases LogicalId.ofPath path with
  | error e => exact ⟨[], (List.append_nil _).symm, fun _ same => by cases same⟩
  | ok id =>
    by_cases taken : s.isTaken id = true
    · simp only [taken, if_true]
      exact ⟨[], (List.append_nil _).symm, fun _ same => by cases same⟩
    · have free : s.declared.contains id = false := by
        simp only [Stack.isTaken, Stack.contains, Bool.or_eq_true, not_or,
          Bool.not_eq_true] at taken
        exact taken.1
      simp only [if_neg taken]
      refine ⟨[(id, ⟨path, r⟩)], OrderedMap.entries_insert free _, fun _ same => ?_⟩
      cases same
      rfl

theorem adds_and {Q : α → List Declaration → Prop} (first : Adds m P)
    (second : Adds m Q) : Adds m fun a added => P a added ∧ Q a added := by
  intro s
  obtain ⟨added, kept, holds⟩ := first s
  obtain ⟨again, same, others⟩ := second s
  rw [kept, List.append_cancel_left_eq] at same
  subst same
  exact ⟨added, kept, fun a done => ⟨holds a done, others a done⟩⟩

/-- What a successful run has added, with ids that are not repeated. -/
theorem adds_run {s s' : Stack} {a : α} (adds : Adds m P) (made : s.run m = (.ok a, s')) :
    ∃ added, s'.declared.entries = s.declared.entries ++ added ∧
      (added.map Prod.fst).Nodup ∧ P a added := by
  obtain ⟨added, kept, holds⟩ := adds s
  rw [made] at kept holds
  have distinct := s'.declared.distinct
  rw [kept, List.map_append, List.nodup_append] at distinct
  exact ⟨added, kept, distinct.2.1, holds a rfl⟩

end StackSynth
