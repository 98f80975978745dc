import StackSynth.Proofs.Stack.Built

/-!
How declarations are reasoned about. An action obeys the terms if it changes a stack that is built by
them in steps of theirs, whether it fails or not, and leaves what it promises where it succeeds. It
avoids a failure if it ends in it on no stack.
-/
namespace StackSynth

variable {t : Terms} {s : Stack} {α β : Type}

namespace Stack

theorem run_lift (s : Stack) (o : Outcome α) : s.run (lift o) = (o, s) := rfl
theorem run_get (s : Stack) : s.run get = (.ok s, s) := rfl

theorem run_modifyGet (s : Stack) (f : Stack → α × Stack) :
    s.run (modifyGet f) = (.ok (f s).1, (f s).2) := rfl

theorem run_bind (s : Stack) (m : Declaring α) (f : α → Declaring β) :
    s.run (m >>= f) =
      match s.run m with
      | (.ok a, s') => s'.run (f a)
      | (.error e, s') => (.error e, s') := by
  simp only [run, bind, ExceptT.bind, ExceptT.run, ExceptT.mk, StateT.bind, StateT.run]
  rcases m s with ⟨o, s'⟩
  cases o <;> rfl

theorem run_after {s' : Stack} {m : Declaring α} {a : α} (made : s.run m = (.ok a, s'))
    (f : α → Declaring β) : s.run (m >>= f) = s'.run (f a) := by
  rw [run_bind, made]

theorem run_map (s : Stack) (f : α → β) (m : Declaring α) :
    s.run (f <$> m) = ((s.run m).1.map f, (s.run m).2) := by
  rw [map_eq_pure_bind, run_bind]
  rcases s.run m with ⟨_ | _, _⟩ <;> rfl

theorem run_declare (s : Stack) (path : List String) (r : Resource) :
    s.run (declare path r) =
      match LogicalId.ofPath path with
      | .error e => (.error e, s)
      | .ok id =>
        if s.isTaken id then (.error (.duplicateLogicalId id), s)
        else (.ok id, s.insert id path r) := by
  rw [declare, run_bind, run_lift]
  cases LogicalId.ofPath path with
  | error e => rfl
  | ok id =>
    simp only [run_bind, run_get]
    split <;> rfl

/-- What a declaration that succeeds has done. -/
theorem run_declare_ok {s' : Stack} {path : List String} {r : Resource} {id : String}
    (declared : s.run (declare path r) = (.ok id, s')) :
    LogicalId.ofPath path = .ok id ∧ s.isTaken id = false ∧ s' = s.insert id path r := by
  rw [run_declare] at declared
  split at declared
  · cases declared
  · next found named =>
    split at declared
    · cases declared
    · next free =>
      cases declared
      exact ⟨named, by simpa using free, rfl⟩

theorem run_edit (s : Stack) (id : String) (f : Resource → Resource) :
    s.run (edit id f) =
      if s.contains id then (.ok (), s.modify id f) else (.error (.resourceNotFound id), s) := by
  rw [edit, run_bind, run_get]
  simp only
  split <;> rfl

end Stack

theorem run_of_result {m : Declaring α} {a : α} (result : (s.run m).1.toOption = some a) :
    s.run m = (.ok a, (s.run m).2) := by
  rw [← Outcome.ok_of_result result]

theorem run_bind_ok {s' : Stack} {m : Declaring α} {f : α → Declaring β} {b : β}
    (made : s.run (m >>= f) = (.ok b, s')) :
    ∃ a s₁, s.run m = (.ok a, s₁) ∧ s₁.run (f a) = (.ok b, s') := by
  rw [Stack.run_bind] at made
  rcases outcome : s.run m with ⟨_ | a, s₁⟩
  · rw [outcome] at made
    cases made
  · rw [outcome] at made
    exact ⟨a, s₁, rfl, made⟩

theorem run_unless_ok {s' : Stack} {c : Prop} [Decidable c] {e : Failure}
    {rest : PUnit → Declaring α} {a : α}
    (made : s.run (if c then throw e >>= rest else rest ⟨⟩) = (.ok a, s')) :
    ¬ c ∧ s.run (rest ⟨⟩) = (.ok a, s') := by
  by_cases stop : c
  · rw [if_pos stop] at made
    obtain ⟨_, _, threw, _⟩ := run_bind_ok made
    cases threw
  · rw [if_neg stop] at made
    exact ⟨stop, made⟩

/-- Every step is one of the terms, and a result comes with what is promised of it. -/
def Obeys (t : Terms) (s : Stack) (m : Declaring α) (Q : α → Stack → Prop) : Prop :=
  Built t s → Steps t s (s.run m).2 ∧ ∀ a, (s.run m).1 = .ok a → Q a (s.run m).2

variable {m : Declaring α} {f : α → Declaring β} {Q : α → Stack → Prop} {R : β → Stack → Prop}

theorem obeys_pure {a : α} (holds : Q a s) : Obeys t s (pure a) Q := by
  intro _
  refine ⟨.refl, fun b same => ?_⟩
  cases same
  exact holds

theorem obeys_throw {e : Failure} : Obeys t s (throw e) Q := by
  intro _
  refine ⟨.refl, fun b same => ?_⟩
  cases same

theorem obeys_imp {Q' : α → Stack → Prop} (obeys : Obeys t s m Q)
    (weaker : ∀ a s', Built t s' → s.Grows s' → Q a s' → Q' a s') : Obeys t s m Q' := by
  intro built
  obtain ⟨steps, holds⟩ := obeys built
  exact ⟨steps, fun a same =>
    weaker a _ (built_steps built steps) (steps_grow steps) (holds a same)⟩

theorem obeys_forget (obeys : Obeys t s m Q) : Obeys t s m fun _ _ => True :=
  obeys_imp obeys fun _ _ _ _ _ => trivial

theorem obeys_built (obeys : Built t s → Obeys t s m Q) : Obeys t s m Q := fun built =>
  obeys built built

theorem obeys_bind (first : Obeys t s m Q)
    (rest : ∀ a s', s.Grows s' → Q a s' → Obeys t s' (f a) R) : Obeys t s (m >>= f) R := by
  intro built
  obtain ⟨steps, holds⟩ := first built
  rw [Stack.run_bind]
  rcases outcome : s.run m with ⟨o, s'⟩
  rw [outcome] at steps holds
  cases o with
  | error e => exact ⟨steps, fun b same => by cases same⟩
  | ok a =>
    obtain ⟨more, done⟩ := rest a s' (steps_grow steps) (holds a rfl) (built_steps built steps)
    exact ⟨steps.trans more, done⟩

/-- A step outside the stack leaves it as it is. -/
theorem obeys_lift {o : Outcome α} (onward : ∀ a, o = .ok a → Obeys t s (f a) R) :
    Obeys t s (Stack.lift o >>= f) R := by
  intro built
  rw [Stack.run_bind, Stack.run_lift]
  cases o with
  | error e => exact ⟨.refl, fun b same => by cases same⟩
  | ok a => exact onward a rfl built

theorem obeys_get {f : Stack → Declaring β} (onward : Obeys t s (f s) R) :
    Obeys t s (get >>= f) R := by
  intro built
  rw [Stack.run_bind, Stack.run_get]
  exact onward built

theorem obeys_map {g : α → β} (first : Obeys t s m Q)
    (holds : ∀ a s', s.Grows s' → Q a s' → R (g a) s') : Obeys t s (g <$> m) R := by
  rw [map_eq_pure_bind]
  exact obeys_bind first fun a s' grows result => obeys_pure (holds a s' grows result)

/-- A check that stops everything before the rest. -/
theorem obeys_unless {c : Prop} [Decidable c] {e : Failure} {rest : PUnit → Declaring α}
    (onward : ¬ c → Obeys t s (rest ⟨⟩) Q) :
    Obeys t s (if c then throw e >>= rest else rest ⟨⟩) Q := by
  by_cases stop : c
  · rw [if_pos stop]
    exact obeys_bind (Q := fun _ _ => False) obeys_throw fun _ _ _ never => never.elim
  · rw [if_neg stop]
    exact onward stop

/-! Lists of actions, all of which keep an invariant. -/

section Lists

variable {γ : Type} {P : Stack → Prop}

theorem obeys_forM {items : List γ} {act : γ → Declaring PUnit} (start : P s)
    (keeps : ∀ s', s.Grows s' → P s' → ∀ item ∈ items, Obeys t s' (act item) fun _ => P) :
    Obeys t s (items.forM act) fun _ => P := by
  induction items generalizing s with
  | nil => exact obeys_pure start
  | cons item rest ih =>
    refine obeys_bind (keeps s (Stack.grows_refl s) start item List.mem_cons_self)
      fun _ s' grows holds => ih holds fun s'' more holds' other member => ?_
    exact keeps s'' (Stack.grows_trans grows more) holds' other (List.mem_cons_of_mem _ member)

theorem obeys_mapM {items : List γ} {act : γ → Declaring α} {Q : α → Stack → Prop}
    (mono : ∀ a s₁ s₂, Stack.Grows s₁ s₂ → Q a s₁ → Q a s₂)
    (each : ∀ s', s.Grows s' → ∀ item ∈ items, Obeys t s' (act item) Q) :
    Obeys t s (items.mapM act) fun results s' => ∀ a ∈ results, Q a s' := by
  induction items generalizing s with
  | nil => exact obeys_pure (by simp)
  | cons item rest ih =>
    rw [List.mapM_cons]
    refine obeys_bind (each s (Stack.grows_refl s) item List.mem_cons_self)
      fun a s₁ grows first => ?_
    refine obeys_bind (ih fun s' more other member =>
      each s' (Stack.grows_trans grows more) other (List.mem_cons_of_mem _ member))
      fun results s₂ more others => obeys_pure ?_
    intro b member
    rcases List.mem_cons.mp member with rfl | later
    · exact mono b s₁ s₂ more first
    · exact others b later

theorem obeys_foldlM {items : List γ} {act : α → γ → Declaring α} {Q : α → Stack → Prop} {a : α}
    (start : Q a s) (keeps : ∀ s' b, s.Grows s' → Q b s' → ∀ item ∈ items,
      Obeys t s' (act b item) Q) : Obeys t s (items.foldlM act a) Q := by
  induction items generalizing s a with
  | nil => exact obeys_pure start
  | cons item rest ih =>
    rw [List.foldlM_cons]
    refine obeys_bind (keeps s a (Stack.grows_refl s) start item List.mem_cons_self)
      fun b s' grows holds => ih holds fun s'' c more holds' other member => ?_
    exact keeps s'' c (Stack.grows_trans grows more) holds' other (List.mem_cons_of_mem _ member)

end Lists

/-! The changes of a stack. -/

variable {id : String} {path : List String} {r : Resource}

theorem obeys_step {a : α} {s' : Stack} (run : s.run m = (.ok a, s'))
    (step : Built t s → Step t s s') (holds : Built t s → Q a s') : Obeys t s m Q := by
  intro built
  rw [run]
  exact ⟨.single (step built), fun b same => by cases same; exact holds built⟩

/-- A stack that keeps what is declared, what waits and what is put out is as good as before. -/
theorem obeys_keep {f : Stack → α × Stack} (declared : (f s).2.declared = s.declared)
    (waits : (f s).2.waits = s.waits) (outputs : (f s).2.outputs = s.outputs)
    (holds : Q (f s).1 (f s).2) : Obeys t s (modifyGet f) Q := by
  have leads : s.OutputsLead → (f s).2.OutputsLead := by
    simp only [Stack.OutputsLead, Stack.contains, declared, outputs]
    exact id
  exact obeys_step (Stack.run_modifyGet s f) (fun _ => .keep declared waits leads) fun _ => holds

/-- An output may refer to what is there. -/
theorem obeys_add_output {id : String} {value : Value} {description : Option String}
    (known : Json.Within (fun target => s.contains target = true) value.toJson) :
    Obeys t s (Stack.addOutput id value description) fun _ _ => True := by
  unfold Stack.addOutput
  refine obeys_get (obeys_unless fun _ => ?_)
  refine obeys_step (Stack.run_modifyGet s _) (fun _ => .keep rfl rfl fun leads output listed => ?_)
    fun _ => trivial
  obtain ⟨⟨name, output⟩, member, rfl⟩ := List.mem_map.mp listed
  rw [← OrderedMap.get?_eq_some_iff, OrderedMap.get?_insert] at member
  split at member
  · cases member
    exact known
  · have old := (OrderedMap.get?_eq_some_iff _ _ _).mp member
    exact leads output (List.mem_map.mpr ⟨_, old, rfl⟩)

/-- What a declaration that succeeds has done. -/
structure Declared (s : Stack) (path : List String) (r : Resource) (id : String) (s' : Stack) :
    Prop where
  named : LogicalId.ofPath path = .ok id
  free : s.contains id = false
  there : s'.At id path r.type
  same : s' = s.insert id path r

theorem Declared.at_ {type : String} {s' : Stack} (declared : Declared s path r id s')
    (same : r.type = type) : s'.At id path type := by
  subst same
  exact declared.there

theorem Declared.hasProperty {key : String} {value : Json} {s' : Stack}
    (declared : Declared s path r id s') (given : r.property? key = some value) :
    s'.HasProperty id key value := by
  rw [declared.same]
  exact ⟨⟨path, r⟩, by rw [Stack.get?_insert, if_pos rfl], given⟩

theorem obeys_declare (fits : Fits t s path r) :
    Obeys t s (Stack.declare path r) (Declared s path r) := by
  intro _
  rw [Stack.run_declare]
  cases named : LogicalId.ofPath path with
  | error e => exact ⟨.refl, fun _ same => by cases same⟩
  | ok id =>
    by_cases taken : s.isTaken id = true
    · simp only [taken, if_true]
      exact ⟨.refl, fun _ same => by cases same⟩
    · simp only [if_neg taken]
      have free : s.contains id = false := by
        simp only [Stack.isTaken, Bool.or_eq_true, not_or, Bool.not_eq_true] at taken
        exact taken.1
      refine ⟨.single (.declare named free fits), fun _ same => ?_⟩
      cases same
      exact ⟨named, free, Stack.at_insert s id path r, rfl⟩

/-- A property of a resource that is there may grow. -/
theorem obeys_edit {f : Resource → Resource} (grows : ∀ d, s.declared.get? id = some d →
    ∃ key value, GrowsTo t s d.resource key value ∧
      f d.resource = d.resource.withProperty key value) :
    Obeys t s (Stack.edit id f) fun _ s' => s' = s.modify id f := by
  intro _
  rw [Stack.run_edit]
  by_cases known : s.contains id = true
  · rw [if_pos known]
    obtain ⟨d, found⟩ := Option.isSome_iff_exists.mp known
    obtain ⟨key, value, grows, same⟩ := grows d found
    exact ⟨.single (.edit found grows same), fun _ _ => rfl⟩
  · rw [if_neg known]
    exact ⟨.refl, fun _ same => by cases same⟩

/-- A resource that is there may wait for a path that another one is under. -/
theorem obeys_wait_for_path {dependent : String} {type : String} {waiting path : List String}
    (there : s.At dependent waiting type) (awaits : t.awaits type path)
    (resolves : s.Resolves ⟨dependent, path⟩) :
    Obeys t s (Stack.waitForPath dependent path) fun _ s' => ⟨dependent, path⟩ ∈ s'.waits := by
  unfold Stack.waitForPath
  intro _
  rw [Stack.run_modifyGet]
  by_cases known : s.waits.contains ⟨dependent, path⟩ = true
  · simp only [known, if_true]
    exact ⟨.refl, fun _ _ => by simpa using known⟩
  · simp only [if_neg known]
    exact ⟨.single (.wait (w := ⟨dependent, path⟩) there awaits resolves), fun _ _ => by simp⟩

section Avoids

variable {γ : Type} {e : Failure} {m : Declaring α} {f : α → Declaring β}

/-- The action fails with this failure on no stack. -/
def Avoids (e : Failure) (m : Declaring α) : Prop := ∀ s : Stack, (s.run m).1 ≠ .error e

theorem avoids_pure (a : α) : Avoids e (pure a : Declaring α) := by
  intro s same
  cases same

theorem avoids_throw {other : Failure} (differs : other ≠ e) :
    Avoids e (throw other : Declaring α) := by
  intro s same
  cases same
  exact differs rfl

theorem avoids_lift {o : Outcome α} (avoids : o ≠ .error e) : Avoids e (Stack.lift o) := by
  intro s
  rw [Stack.run_lift]
  exact avoids

/-- What comes after an action needs to avoid the failure for the results of that action only. -/
theorem avoids_bind (first : Avoids e m)
    (rest : ∀ a (s s' : Stack), s.run m = (.ok a, s') → Avoids e (f a)) : Avoids e (m >>= f) := by
  intro s
  rw [Stack.run_bind]
  have never := first s
  rcases outcome : s.run m with ⟨failed | a, s'⟩
  · rw [outcome] at never
    intro same
    cases same
    exact never rfl
  · exact rest a s s' outcome s'

theorem avoids_map {g : α → β} (first : Avoids e m) : Avoids e (g <$> m) := by
  rw [map_eq_pure_bind]
  exact avoids_bind first fun a _ _ _ => avoids_pure (g a)

theorem avoids_declare {path : List String} {r : Resource}
    (unnamed : LogicalId.ofPath path ≠ .error e)
    (other : ∀ id, e ≠ .duplicateLogicalId id) : Avoids e (Stack.declare path r) := by
  intro s
  rw [Stack.run_declare]
  cases allocated : LogicalId.ofPath path with
  | error failure =>
    intro same
    cases same
    exact unnamed allocated
  | ok id =>
    by_cases taken : s.isTaken id = true
    · simp only [taken, if_true]
      intro same
      cases same
      exact other id rfl
    · simp [taken]

theorem avoids_get {f : Stack → Declaring β} (onward : ∀ s, Avoids e (f s)) :
    Avoids e (get >>= f) := by
  intro s
  rw [Stack.run_bind, Stack.run_get]
  exact onward s s

theorem avoids_mapM {act : γ → Declaring β} (each : ∀ item, Avoids e (act item))
    (items : List γ) : Avoids e (items.mapM act) := by
  induction items with
  | nil => exact avoids_pure []
  | cons item rest ih =>
    rw [List.mapM_cons]
    apply avoids_bind (each item)
    intro b _ _ _
    apply avoids_bind ih
    intro more _ _ _
    exact avoids_pure _

theorem avoids_foldlM {act : β → γ → Declaring β} (each : ∀ b item, Avoids e (act b item))
    (items : List γ) (b : β) : Avoids e (items.foldlM act b) := by
  induction items generalizing b with
  | nil => exact avoids_pure b
  | cons item rest ih =>
    rw [List.foldlM_cons]
    apply avoids_bind (each b item)
    intro b' _ _ _
    exact ih b'

end Avoids

end StackSynth
