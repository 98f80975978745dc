import StackSynth.Proofs.Json.Sorted
import StackSynth.Yaml.Reader

/-!
What is read of a YAML text holds every key of an object once, in ascending order.
-/
namespace StackSynth.Yaml

variable {α β : Type}

/-- Whatever is read has the property. -/
def Yields (m : Following α) (P : α → Prop) : Prop :=
  ∀ (count : Nat) (a : α) (left : Nat), m.run count = some (a, left) → P a

theorem yields_bind {m : Following α} {f : α → Following β} {P : α → Prop} {Q : β → Prop}
    (first : Yields m P) (rest : ∀ a, P a → Yields (f a) Q) : Yields (m >>= f) Q := by
  intro count b left ran
  simp only [StateT.run_bind, Option.bind_eq_bind, Option.bind_eq_some_iff] at ran
  obtain ⟨⟨a, between⟩, ran, ran'⟩ := ran
  exact rest a (first count a between ran) between b left ran'

theorem yields_pure {a : α} {P : α → Prop} (holds : P a) : Yields (pure a) P := by
  intro count b left ran
  cases ran
  exact holds

theorem yields_failure {P : α → Prop} : Yields failure P := by
  intro count a left ran
  cases ran

theorem yields_any (m : Following α) : Yields m fun _ => True := fun _ _ _ _ => trivial

theorem yields_mapM {f : α → Following β} {P : β → Prop} (each : ∀ a, Yields (f a) P)
    (items : List α) : Yields (items.mapM f) fun values => ∀ value ∈ values, P value := by
  induction items with
  | nil => exact yields_pure fun _ member => absurd member List.not_mem_nil
  | cons item rest ih =>
    rw [List.mapM_cons]
    refine yields_bind (each item) fun value holds => yields_bind ih fun values all => yields_pure ?_
    exact List.forall_mem_cons.mpr ⟨holds, all⟩

theorem yields_elim {o : Option α} {P : α → Prop} (holds : ∀ a, o = some a → P a) :
    Yields (o.elim failure pure) P := by
  cases o with
  | none => exact yields_failure
  | some a => exact yields_pure (holds a rfl)

namespace Scalar

theorem int_sorted {n : Int} {value : Json} (made : ofInt n = some value) : value.Sorted := by
  obtain ⟨_, _, rfl⟩ := Option.map_eq_some_iff.mp made
  trivial

theorem float_sorted (bits : Option UInt64) : (ofFloat bits).Sorted := by
  cases bits <;> trivial

theorem plain_sorted {text : String} {value : Json} (made : ofPlain text = some value) :
    value.Sorted := by
  unfold ofPlain at made
  split at made
  · cases made; trivial
  · cases made; trivial
  · exact int_sorted made
  · cases made; exact float_sorted _
  · cases made; trivial

theorem value_sorted {tag : Option Tag} {isPlain : Bool} {text : String} {value : Json}
    (made : toJson? tag isPlain text = some value) : value.Sorted := by
  unfold toJson? at made
  cases tag with
  | none =>
    simp only at made
    split at made
    · exact plain_sorted made
    · cases made; trivial
  | some tag =>
    simp only at made
    split at made
    · cases made
    split at made
    · split at made <;> cases made
      trivial
    split at made
    · split at made <;> cases made
      trivial
    split at made
    · obtain ⟨_, _, found⟩ := Option.bind_eq_some_iff.mp made
      exact int_sorted found
    split at made
    · obtain ⟨_, _, rfl⟩ := Option.map_eq_some_iff.mp made
      exact float_sorted _
    split at made
    · exact plain_sorted made
    · cases made; trivial

end Scalar

/-- By induction on the depth, whatever the aliases stand for. -/
theorem Node.value_sorted (anchors : List (Nat × Node Nat)) (depth : Nat) (node : Node Nat) :
    Yields (toJson? anchors depth node) Json.Sorted := by
  induction depth generalizing node with
  | zero =>
    rw [toJson?]
    refine yields_bind (yields_any _) fun node _ => ?_
    cases node with
    | scalar l isPlain text => exact yields_elim fun _ made => Scalar.value_sorted made
    | sequence l items => exact yields_failure
    | mapping l entries => exact yields_failure
    | alias_ id => exact yields_failure
  | succ depth ih =>
    rw [toJson?]
    refine yields_bind (yields_any _) fun node _ => ?_
    cases node with
    | scalar l isPlain text => exact yields_elim fun _ made => Scalar.value_sorted made
    | sequence l items =>
      simp only
      split
      · exact yields_failure
      · refine yields_bind (yields_mapM ih _) fun values sorted => yields_pure ?_
        exact Json.sorted_arr_iff.mpr sorted
    | mapping l entries =>
      simp only
      split
      · exact yields_failure
      · have each : ∀ entry : Node Nat × Node Nat, Yields (do
            let key ← keyText anchors entry.1
            return (key, ← toJson? anchors depth entry.2)) fun entry => entry.2.Sorted :=
          fun entry => yields_bind (yields_any _) fun key _ =>
            yields_bind (ih entry.2) fun value sorted => yields_pure sorted
        exact yields_bind (yields_mapM each _) fun _ sorted => yields_pure (Json.sorted_object sorted)
    | alias_ id => exact yields_failure

theorem parsed_sorted {text : String} {value : Json} (made : parse? text = some value) :
    value.Sorted := by
  simp only [parse?, Option.bind_eq_bind, Option.bind_eq_some_iff] at made
  obtain ⟨_, _, _, _, ⟨node, _⟩, _, ⟨read, left⟩, ran, made⟩ := made
  cases made
  exact Node.value_sorted _ _ node _ _ _ ran

end StackSynth.Yaml
