import StackSynth.Proofs.Stack.Additions
import StackSynth.Proofs.Stack.Calls
import StackSynth.Proofs.Stack.Resolution

/-!
Where actions declare. An action that keeps to a place adds its resources there, after those that
were declared before and without touching them, even where it fails on the way. Whoever waits for the
place comes to depend on all of them.
-/
namespace StackSynth

variable {α β : Type}

/-- Whatever comes of it, the action only adds to what is declared, and only at paths that `place`
lets it; `Q` holds of its result. -/
def KeepsTo (place : List String → Prop) (m : Declaring α) (Q : α → Prop) : Prop :=
  ∀ s : Stack, ∃ added : List Declaration,
    (s.run m).2.declared.entries = s.declared.entries ++ added ∧
    (∀ d ∈ added, place d.2.path) ∧ ∀ a, (s.run m).1 = .ok a → Q a

variable {place : List String → Prop} {m : Declaring α} {f : α → Declaring β} {Q : α → Prop}
  {R : β → Prop}

theorem keeps_to_imp {place' : List String → Prop} {Q' : α → Prop} (keeps : KeepsTo place m Q)
    (wider : ∀ path, place path → place' path) (weaker : ∀ a, Q a → Q' a) :
    KeepsTo place' m Q' := by
  intro s
  obtain ⟨added, kept, inside, holds⟩ := keeps s
  exact ⟨added, kept, fun d member => wider _ (inside d member),
    fun a made => weaker a (holds a made)⟩

/-- What leaves the declared resources alone keeps to every place. -/
theorem keeps_to_of_same (same : ∀ s : Stack, (s.run m).2.declared = s.declared)
    (holds : ∀ s : Stack, ∀ a, (s.run m).1 = .ok a → Q a) : KeepsTo place m Q := by
  intro s
  refine ⟨[], ?_, List.forall_mem_nil _, holds s⟩
  rw [same, List.append_nil]

theorem keeps_to_pure {a : α} (holds : Q a) : KeepsTo place (pure a) Q := by
  refine keeps_to_of_same (fun _ => rfl) fun s b made => ?_
  cases made
  exact holds

theorem keeps_to_throw {e : Failure} : KeepsTo place (throw e) Q :=
  keeps_to_of_same (fun _ => rfl) fun s b made => by cases made

theorem keeps_to_bind (first : KeepsTo place m Q) (rest : ∀ a, Q a → KeepsTo place (f a) R) :
    KeepsTo place (m >>= f) R := by
  intro s
  obtain ⟨added, kept, inside, holds⟩ := first s
  rw [Stack.run_bind]
  rcases outcome : s.run m with ⟨o, s'⟩
  rw [outcome] at kept holds
  cases o with
  | error e => exact ⟨added, kept, inside, fun b made => by cases made⟩
  | ok a =>
    obtain ⟨more, kept', inside', holds'⟩ := rest a (holds a rfl) s'
    refine ⟨added ++ more, ?_, fun d member => ?_, holds'⟩
    · rw [kept', kept, List.append_assoc]
    · exact (List.mem_append.mp member).elim (inside d) (inside' d)

theorem keeps_to_map {g : α → β} (first : KeepsTo place m Q) (holds : ∀ a, Q a → R (g a)) :
    KeepsTo place (g <$> m) R := by
  rw [map_eq_pure_bind]
  exact keeps_to_bind first fun a promised => keeps_to_pure (holds a promised)

theorem keeps_to_lift (o : Outcome α) : KeepsTo place (Stack.lift o) fun a => o = .ok a :=
  keeps_to_of_same (fun _ => rfl) fun _ _ made => made

theorem keeps_to_get : KeepsTo place get fun _ => True :=
  keeps_to_of_same (fun _ => rfl) fun _ _ _ => trivial

/-- A check that stops everything before the rest. -/
theorem keeps_to_unless {c : Prop} [Decidable c] {e : Failure} {rest : PUnit → Declaring α}
    (onward : KeepsTo place (rest ⟨⟩) Q) :
    KeepsTo place (if c then throw e >>= rest else rest ⟨⟩) Q := by
  by_cases stop : c
  · rw [if_pos stop]
    exact keeps_to_bind (Q := fun _ => False) keeps_to_throw fun _ never => never.elim
  · rw [if_neg stop]
    exact onward

theorem keeps_to_declare {path : List String} (here : place path) (r : Resource) :
    KeepsTo place (Stack.declare path r) fun _ => True := by
  intro s
  rw [Stack.run_declare]
  cases LogicalId.ofPath path with
  | error e => exact ⟨[], (List.append_nil _).symm, List.forall_mem_nil _, fun _ _ => trivial⟩
  | ok id =>
    by_cases taken : s.isTaken id = true
    · simp only [taken, if_true]
      exact ⟨[], (List.append_nil _).symm, List.forall_mem_nil _, fun _ _ => trivial⟩
    · have free := (Stack.free_iff.mp (Bool.eq_false_iff.mpr taken)).1
      simp only [if_neg taken]
      refine ⟨[(id, ⟨path, r⟩)], OrderedMap.entries_insert free _, ?_, fun _ _ => trivial⟩
      exact List.forall_mem_singleton.mpr here

theorem keeps_to_wait_for_path (dependent : String) (path : List String) :
    KeepsTo place (Stack.waitForPath dependent path) fun _ => True := by
  refine keeps_to_of_same (fun s => ?_) fun _ _ _ => trivial
  rw [Stack.waitForPath, Stack.run_modifyGet]
  dsimp only
  split <;> rfl

theorem keeps_to_add_asset (source : ImageSource) :
    KeepsTo place (Stack.addAsset source) fun _ => True := by
  refine keeps_to_of_same (fun s => ?_) fun _ _ _ => trivial
  rw [Stack.addAsset, Stack.run_modifyGet]
  dsimp only
  split <;> rfl

/-! Lists of actions. -/

section Lists

variable {γ : Type} {P : γ → Prop}

theorem keeps_to_mapM {items : List γ} {act : γ → Declaring β}
    (each : ∀ item, P item → KeepsTo place (act item) R) (all : ∀ item ∈ items, P item) :
    KeepsTo place (items.mapM act) fun results => ∀ b ∈ results, R b := by
  induction items with
  | nil => exact keeps_to_pure fun b member => by cases member
  | cons item rest ih =>
    rw [List.mapM_cons]
    refine keeps_to_bind (each item (all item List.mem_cons_self)) fun b here => ?_
    refine keeps_to_bind (ih fun item member => all item (List.mem_cons_of_mem _ member))
      fun results there => keeps_to_pure ?_
    exact List.forall_mem_cons.mpr ⟨here, there⟩

theorem keeps_to_foldlM {items : List γ} {act : β → γ → Declaring β}
    (each : ∀ b item, R b → KeepsTo place (act b item) R) {b : β} (start : R b) :
    KeepsTo place (items.foldlM act b) R := by
  induction items generalizing b with
  | nil => exact keeps_to_pure start
  | cons item rest ih =>
    rw [List.foldlM_cons]
    exact keeps_to_bind (each b item start) fun b' holds => ih holds

end Lists

/-! Waiting for a place. -/

namespace Stack

variable {s s' : Stack} {t : Template}

theorem waiting_declared {w : Wait} (made : s.synthesize = .ok t) (waits : w ∈ s.waits) :
    s.contains w.dependent = true := by
  by_contra missing
  obtain ⟨name, failed⟩ :=
    (missing_iff s).mpr ⟨w, waits, .inr (Bool.eq_false_iff.mpr missing)⟩
  rw [failed] at made
  cases made

theorem Extends.path_kept (grown : s.Extends s') {d : Declaration}
    (declared : d ∈ s.declared.entries) : s'.path? d.1 = some d.2.path := by
  have listed : (d.1, d.2.path) ∈ s.paths.entries :=
    List.mem_map.mpr ⟨d, declared, rfl⟩
  have kept := (OrderedMap.get?_eq_some_iff _ _ _).mpr (grown.paths.subset listed)
  rwa [Stack.paths, OrderedMap.get?_mapValues] at kept

/-- Who waits for a place depends on all that has been declared there. -/
theorem depends_on_place {w : Wait} (grown : s.Extends s') (waits : w ∈ s'.waits)
    (made : s'.synthesize = .ok t) :
    ∃ r, t.resource? w.dependent = some r ∧ ∀ d ∈ s.declared.entries,
      d.1 ≠ w.dependent → w.path <+: d.2.path → d.1 ∈ r.dependsOn := by
  obtain ⟨keys, resolved⟩ := template_resolved made
  have listed : w.dependent ∈ t.resources.keys :=
    keys ▸ (OrderedMap.contains_iff _ _).mp (waiting_declared made waits)
  obtain ⟨r, found⟩ := Option.isSome_iff_exists.mp
    ((OrderedMap.contains_iff t.resources w.dependent).mpr listed)
  obtain ⟨declared, _, result⟩ := resolved w.dependent r found
  refine ⟨r, found, fun d member other below => (result.depends_iff d.1).mpr (.inr ?_)⟩
  exact ⟨w, waits, rfl, other, d.2.path, grown.path_kept member, below⟩

theorem wait_recorded (s : Stack) (dependent dependency : Construct) :
    ⟨dependent.logicalId, dependency.path⟩ ∈ (s.after (.waitFor dependent dependency)).waits := by
  rw [after, StackCall.action, waitFor, waitForPath, run_modifyGet]
  dsimp only
  split
  · next known => exact List.contains_iff_mem.mp known
  · exact List.mem_append_right _ (List.mem_singleton.mpr rfl)

end Stack

end StackSynth
