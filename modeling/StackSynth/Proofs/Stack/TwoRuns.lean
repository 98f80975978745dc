import StackSynth.Proofs.Stack.Agreement
import StackSynth.Proofs.Stack.Obeys
import StackSynth.Proofs.Template.Bare

/-!
Two runs side by side. Stacks are alike if they differ in texts only: they declare the same
resources under the same paths, wait for the same and are given the same permissions, so they come
to the same dependencies. Actions agree if they keep stacks alike wherever both succeed, and, given
what the second one asks for, it succeeds wherever the first one does. A uniform action agrees with
itself and comes to the same result.
-/
namespace StackSynth

theorem map_eq_of_map_eq {α β γ : Type} {p : α → β} {f g : α → γ} {xs ys : List α}
    (same : xs.map p = ys.map p) (carries : ∀ x y, p x = p y → f x = g y) :
    xs.map f = ys.map g := by
  induction xs generalizing ys with
  | nil =>
    obtain rfl := List.map_eq_nil_iff.mp same.symm
    rfl
  | cons x xs ih =>
    cases ys with
    | nil => cases same
    | cons y ys =>
      simp only [List.map_cons, List.cons.injEq] at same ⊢
      exact ⟨carries x y same.1, ih same.2⟩

namespace Stack

/-- What is declared, without its texts. -/
def bare (s : Stack) : OrderedMap DeclaredResource :=
  s.declared.mapValues fun _ d => ⟨d.path, d.resource.bare⟩

structure Alike (s₁ s₂ : Stack) : Prop where
  declared : s₁.bare = s₂.bare
  waits : s₁.waits = s₂.waits
  grants : s₁.grants = s₂.grants
  outputs : s₁.outputs = s₂.outputs

variable {s₁ s₂ : Stack} {id : String} {path : List String}

theorem Alike.contains (alike : s₁.Alike s₂) (id : String) : s₁.contains id = s₂.contains id := by
  have same := congrArg (·.contains id) alike.declared
  simpa only [bare, Stack.contains, OrderedMap.contains_mapValues] using same

theorem Alike.is_taken (alike : s₁.Alike s₂) (id : String) : s₁.isTaken id = s₂.isTaken id := by
  rw [isTaken, isTaken, alike.contains, alike.outputs]

theorem Alike.resource? (alike : s₁.Alike s₂) (id : String) :
    (s₁.resource? id).map Resource.bare = (s₂.resource? id).map Resource.bare := by
  have same := congrArg (fun m => (m.get? id).map DeclaredResource.resource) alike.declared
  simpa only [bare, Stack.resource?, OrderedMap.get?_mapValues, Option.map_map,
    Function.comp_def] using same

theorem Alike.counterpart (alike : s₁.Alike s₂) {r₁ : Resource} (found : s₁.resource? id = some r₁) :
    ∃ r₂, s₂.resource? id = some r₂ ∧ r₁.bare = r₂.bare := by
  have same := alike.resource? id
  rw [found, Option.map_some] at same
  obtain ⟨r₂, found', kept⟩ := Option.map_eq_some_iff.mp same.symm
  exact ⟨r₂, found', kept.symm⟩

theorem Alike.paths (alike : s₁.Alike s₂) : s₁.paths = s₂.paths := by
  have same := congrArg (·.mapValues fun _ d => d.path) alike.declared
  simpa only [bare, Stack.paths, OrderedMap.mapValues_mapValues] using same

/-! What keeps stacks alike. -/

theorem alike_of_declared (alike : s₁.Alike s₂) {m₁ m₂ : OrderedMap DeclaredResource}
    (same : bare { s₁ with declared := m₁ } = bare { s₂ with declared := m₂ }) :
    Alike { s₁ with declared := m₁ } { s₂ with declared := m₂ } :=
  ⟨same, alike.waits, alike.grants, alike.outputs⟩

theorem Alike.insert (alike : s₁.Alike s₂) {r₁ r₂ : Resource} (same : r₁.bare = r₂.bare) :
    (s₁.insert id path r₁).Alike (s₂.insert id path r₂) := by
  refine alike_of_declared alike ?_
  have inserted : ∀ (s : Stack) (r : Resource),
      (s.insert id path r).bare = s.bare.insert id ⟨path, r.bare⟩ := fun s r =>
    OrderedMap.mapValues_insert _ s.declared id ⟨path, r⟩
  exact (inserted s₁ r₁).trans ((alike.declared ▸ same ▸ rfl : _ = _).trans (inserted s₂ r₂).symm)

theorem Alike.modify (alike : s₁.Alike s₂) {f g : Resource → Resource}
    (keeps : ∀ r₁ r₂, r₁.bare = r₂.bare → (f r₁).bare = (g r₂).bare) :
    (s₁.modify id f).Alike (s₂.modify id g) := by
  refine alike_of_declared alike (OrderedMap.ext ?_)
  have same := congrArg OrderedMap.entries alike.declared
  simp only [bare, OrderedMap.modify, OrderedMap.mapValues, List.map_map] at same ⊢
  refine map_eq_of_map_eq same fun a b entry => ?_
  simp only [Prod.mk.injEq, DeclaredResource.mk.injEq, Function.comp_apply] at entry ⊢
  obtain ⟨name, path, resource⟩ := entry
  rw [name]
  refine ⟨rfl, ?_⟩
  split
  · exact ⟨path, keeps _ _ resource⟩
  · exact ⟨path, resource⟩

/-! What stacks that are alike come to. -/

theorem waited_for_bare (s : Stack) (w : Wait) :
    s.waitedFor w = (s.bare.entries.filter fun entry =>
      entry.1 != w.dependent && w.path.isPrefixOf entry.2.path).map (·.1) := by
  simp [waitedFor, bare, OrderedMap.mapValues, List.filter_map, Function.comp_def]

theorem Alike.with_waits (alike : s₁.Alike s₂) : s₁.withWaits = s₂.withWaits := by
  have answers : s₁.waitedFor = s₂.waitedFor := by
    funext w
    rw [waited_for_bare, waited_for_bare, alike.declared]
  have adds : s₁.addWait = s₂.addWait := by
    funext id r w
    rw [addWait, addWait, answers]
  funext id r
  rw [withWaits, withWaits, adds, alike.waits]

theorem bare_with_waits (s : Stack) (id : String) (r : Resource) :
    (s.withWaits id r).bare = s.withWaits id r.bare := by
  refine (List.foldl_hom Resource.bare fun r w => ?_).symm
  rw [addWait, addWait]
  split
  · exact (Resource.bare_add_dependencies _ r).symm
  · rfl

/-- With all that they wait for, the resources are alike still. -/
theorem Alike.expanded (alike : s₁.Alike s₂) :
    (s₁.resources.mapValues s₁.withWaits).mapValues (fun _ r => r.bare) =
      (s₂.resources.mapValues s₂.withWaits).mapValues fun _ r => r.bare := by
  have spelled : ∀ s : Stack,
      (s.resources.mapValues s.withWaits).mapValues (fun _ r => r.bare) =
        s.bare.mapValues fun id d => s.withWaits id d.resource := by
    intro s
    simp only [resources, bare, OrderedMap.mapValues_mapValues, bare_with_waits]
  rw [spelled, spelled, alike.declared, alike.with_waits]

/-- The dependencies of resources do not lie in their texts. -/
theorem graph_of_bare (resources : OrderedMap Resource) :
    graphOf (resources.mapValues fun _ r => r.bare) = graphOf resources := by
  have same : ∀ id (r : Resource), dependenciesOf id r.bare = dependenciesOf id r := by
    intro id r
    rw [dependenciesOf, Resource.references_bare]
    rfl
  simp only [graphOf, OrderedMap.mapValues, List.foldl_map, List.flatMap_map, same]
  rfl

end Stack

/-- What a deployment goes by when it compares a resource with the one it replaces. -/
structure Resource.Shape where
  type : String
  dependsOn : List String
  deletionPolicy : Option DeletionPolicy
  updateReplacePolicy : Option DeletionPolicy
  deriving DecidableEq, Repr

def Resource.shape (r : Resource) : Resource.Shape :=
  ⟨r.type, r.dependsOn, r.deletionPolicy, r.updateReplacePolicy⟩

/-- The paths, the resources as they are synthesized, the graph and the grants of a stack. -/
structure Stack.Shape where
  paths : OrderedMap (List String)
  resources : OrderedMap Resource.Shape
  graph : DependencyGraph
  grants : List Grant

namespace Stack

def shape (s : Stack) : Outcome Shape := do
  let template ← s.synthesize
  let graph ← s.dependencyGraph
  return {
    paths := s.paths
    resources := template.resources.mapValues fun _ r => r.shape
    graph
    grants := s.grants }

variable {s₁ s₂ : Stack}

theorem shape_of_template {s : Stack} {t : Template} (made : s.synthesize = .ok t) :
    ∃ g, graphOf ((s.resources.mapValues s.withWaits).mapValues fun _ r => r.bare) = .ok g ∧
      s.shape = .ok {
        paths := s.paths
        resources := ((s.resources.mapValues s.withWaits).mapValues fun _ r =>
          r.bare).mapValues fun _ r => r.shape
        graph := g
        grants := s.grants } := by
  obtain ⟨g, expansion, expands, built, graph, _, _, rfl⟩ := graph_of_template made
  obtain rfl := expanded_ok expands
  refine ⟨g, by rw [graph_of_bare, built], ?_⟩
  simp only [shape, made, graph, bind, Except.bind, pure, Except.pure, templateOf,
    OrderedMap.mapValues_mapValues]
  rfl

theorem Alike.shape {t₁ t₂ : Template} (alike : s₁.Alike s₂) (made₁ : s₁.synthesize = .ok t₁)
    (made₂ : s₂.synthesize = .ok t₂) : ∃ shape, s₁.shape = .ok shape ∧ s₂.shape = .ok shape := by
  obtain ⟨g₁, graph₁, shape₁⟩ := shape_of_template made₁
  obtain ⟨g₂, graph₂, shape₂⟩ := shape_of_template made₂
  rw [alike.expanded] at graph₁ shape₁
  cases graph₁.symm.trans graph₂
  refine ⟨_, ?_, shape₂⟩
  rw [shape₁, alike.paths, alike.grants]

end Stack

variable {α β γ δ : Type} {T : Prop}

/-- Wherever both actions succeed on stacks that are alike, so are the stacks they leave, and `R`
holds of their results. The second one succeeds with the first one if `T` holds. -/
def Agree (T : Prop) (m₁ : Declaring α) (m₂ : Declaring β) (R : α → β → Prop) : Prop :=
  ∀ s₁ s₂ : Stack, s₁.Alike s₂ → ∀ a, (s₁.run m₁).1 = .ok a →
    (T → ∃ b, (s₂.run m₂).1 = .ok b) ∧
    ∀ b, (s₂.run m₂).1 = .ok b → R a b ∧ (s₁.run m₁).2.Alike (s₂.run m₂).2

def Uniform (T : Prop) (m : Declaring α) : Prop := Agree T m m Eq

variable {m₁ : Declaring α} {m₂ : Declaring β} {f : α → Declaring γ} {g : β → Declaring δ}
  {Q : α → β → Prop} {R : γ → δ → Prop}

/-- The second action succeeds with the first one, whatever else holds. -/
theorem agree_of_ok
    (both : ∀ s₁ s₂ : Stack, s₁.Alike s₂ → ∀ a, (s₁.run m₁).1 = .ok a →
      ∃ b, (s₂.run m₂).1 = .ok b ∧ Q a b ∧ (s₁.run m₁).2.Alike (s₂.run m₂).2) :
    Agree T m₁ m₂ Q := by
  intro s₁ s₂ alike a left
  obtain ⟨b, right, holds⟩ := both s₁ s₂ alike a left
  refine ⟨fun _ => ⟨b, right⟩, fun c again => ?_⟩
  cases right.symm.trans again
  exact holds

theorem agree_pure {a : α} {b : β} (holds : Q a b) : Agree T (pure a) (pure b) Q := by
  refine agree_of_ok fun s₁ s₂ alike x first => ?_
  cases first
  exact ⟨b, rfl, holds, alike⟩

theorem agree_throw {e : Failure} : Agree T (throw e) m₂ Q := by
  intro s₁ s₂ _ x first
  cases first

theorem agree_bind (first : Agree T m₁ m₂ Q) (rest : ∀ a b, Q a b → Agree T (f a) (g b) R) :
    Agree T (m₁ >>= f) (m₂ >>= g) R := by
  intro s₁ s₂ alike x left
  rw [Stack.run_bind] at left ⊢
  rw [Stack.run_bind]
  rcases one : s₁.run m₁ with ⟨o₁, s₁'⟩
  rw [one] at left
  cases o₁ with
  | error e => cases left
  | ok a =>
    obtain ⟨second, after⟩ := first s₁ s₂ alike a (by rw [one])
    rw [one] at after
    rcases two : s₂.run m₂ with ⟨o₂, s₂'⟩
    rw [two] at second after
    cases o₂ with
    | error e =>
      refine ⟨fun given => ?_, fun y right => ?_⟩
      · obtain ⟨b, made⟩ := second given
        cases made
      · cases right
    | ok b =>
      obtain ⟨holds, alike'⟩ := after b rfl
      exact rest a b holds s₁' s₂' alike' x left

theorem uniform_bind {m : Declaring α} {f : α → Declaring γ} (first : Uniform T m)
    (rest : ∀ a, Uniform T (f a)) : Uniform T (m >>= f) := by
  refine agree_bind first ?_
  rintro a _ rfl
  exact rest a

theorem uniform_pure (a : α) : Uniform T (pure a) := agree_pure rfl

theorem uniform_throw {e : Failure} : Uniform T (throw e : Declaring α) := agree_throw

theorem agree_lift {o₁ : Outcome α} {o₂ : Outcome β}
    (second : T → ∀ a, o₁ = .ok a → ∃ b, o₂ = .ok b)
    (onward : ∀ a b, o₁ = .ok a → o₂ = .ok b → Agree T (f a) (g b) R) :
    Agree T (Stack.lift o₁ >>= f) (Stack.lift o₂ >>= g) R := by
  refine agree_bind (Q := fun a b => o₁ = .ok a ∧ o₂ = .ok b) (fun s₁ s₂ alike a first => ?_)
    fun a b ⟨first, second⟩ => onward a b first second
  exact ⟨fun given => second given a first, fun b again => ⟨⟨first, again⟩, alike⟩⟩

/-- What does not depend on the stack comes out the same. -/
theorem agree_lift_same {o : Outcome α} {f : α → Declaring γ} {g : α → Declaring δ}
    (onward : ∀ a, o = .ok a → Agree T (f a) (g a) R) :
    Agree T (Stack.lift o >>= f) (Stack.lift o >>= g) R := by
  refine agree_lift (fun _ a first => ⟨a, first⟩) fun a b first second => ?_
  cases first.symm.trans second
  exact onward a first

theorem uniform_lift (o : Outcome α) : Uniform T (Stack.lift o) :=
  agree_of_ok fun _ _ alike a first => ⟨a, first, rfl, alike⟩

/-- What is read of the stacks may be compared before it is used. -/
theorem agree_get {f : Stack → Declaring γ} {g : Stack → Declaring δ}
    (onward : ∀ s₁ s₂ : Stack, s₁.Alike s₂ → Agree T (f s₁) (g s₂) R) :
    Agree T (get >>= f) (get >>= g) R := by
  intro s₁ s₂ alike x first
  rw [Stack.run_bind, Stack.run_get] at first ⊢
  rw [Stack.run_bind, Stack.run_get]
  exact onward s₁ s₂ alike s₁ s₂ alike x first

theorem agree_map {h : α → γ} {k : β → δ} (first : Agree T m₁ m₂ Q)
    (holds : ∀ a b, Q a b → R (h a) (k b)) : Agree T (h <$> m₁) (k <$> m₂) R := by
  rw [map_eq_pure_bind, map_eq_pure_bind]
  exact agree_bind first fun a b result => agree_pure (holds a b result)

/-- Checks that stop everything before the rest. -/
theorem agree_unless {c₁ c₂ : Prop} [Decidable c₁] [Decidable c₂] {e₁ e₂ : Failure}
    {rest₁ : PUnit → Declaring α} {rest₂ : PUnit → Declaring β} (second : T → ¬ c₁ → ¬ c₂)
    (onward : ¬ c₁ → ¬ c₂ → Agree T (rest₁ ⟨⟩) (rest₂ ⟨⟩) Q) :
    Agree T (if c₁ then throw e₁ >>= rest₁ else rest₁ ⟨⟩)
      (if c₂ then throw e₂ >>= rest₂ else rest₂ ⟨⟩) Q := by
  by_cases stopped : c₁
  · rw [if_pos stopped]
    exact fun s₁ s₂ alike a left => by cases left
  · rw [if_neg stopped]
    by_cases stopped' : c₂
    · rw [if_pos stopped']
      refine fun s₁ s₂ alike a left => ⟨fun given => ?_, fun b right => ?_⟩
      · exact absurd stopped' (second given stopped)
      · cases right
    · rw [if_neg stopped']
      exact onward stopped stopped'

theorem uniform_unless {c : Prop} [Decidable c] {e : Failure} {rest : PUnit → Declaring α}
    (onward : Uniform T (rest ⟨⟩)) :
    Uniform T (if c then throw e >>= rest else rest ⟨⟩) :=
  agree_unless (fun _ => id) fun _ _ => onward

/-! Lists of actions. -/

theorem agree_forM {xs : List α} {ys : List β} {f : α → Declaring PUnit} {g : β → Declaring PUnit}
    (each : List.Forall₂ (fun x y => Agree T (f x) (g y) Eq) xs ys) :
    Agree T (xs.forM f) (ys.forM g) Eq := by
  induction each with
  | nil => exact agree_pure rfl
  | cons first _ ih => exact agree_bind first fun _ _ _ => ih

theorem uniform_forM {items : List α} {act : α → Declaring PUnit}
    (each : ∀ item ∈ items, Uniform T (act item)) : Uniform T (items.forM act) :=
  agree_forM (List.forall₂_same.mpr each)

theorem agree_mapM {items : List α} {f g : α → Declaring β}
    (each : ∀ item, Agree T (f item) (g item) Eq) : Agree T (items.mapM f) (items.mapM g) Eq := by
  induction items with
  | nil => exact agree_pure rfl
  | cons item rest ih =>
    rw [List.mapM_cons, List.mapM_cons]
    refine agree_bind (each item) ?_
    rintro a _ rfl
    refine agree_bind ih ?_
    rintro results _ rfl
    exact agree_pure rfl

theorem uniform_foldlM {items : List α} {act : β → α → Declaring β}
    (each : ∀ b item, Uniform T (act b item)) (b : β) : Uniform T (items.foldlM act b) := by
  induction items generalizing b with
  | nil => exact uniform_pure b
  | cons item rest ih =>
    rw [List.foldlM_cons]
    exact uniform_bind (each b item) ih

/-! The changes of a stack. -/

variable {id key : String} {path : List String} {r₁ r₂ : Resource} {v₁ v₂ : Json}

/-- Ids come from paths alone, so resources that are alike are declared under one id. -/
theorem agree_declare (same : r₁.bare = r₂.bare) :
    Agree T (Stack.declare path r₁) (Stack.declare path r₂) Eq := by
  refine agree_of_ok fun s₁ s₂ alike x first => ?_
  rw [Stack.run_declare] at first ⊢
  rw [Stack.run_declare]
  cases named : LogicalId.ofPath path with
  | error e => rw [named] at first; cases first
  | ok id =>
    simp only [named, alike.is_taken] at first ⊢
    by_cases taken : s₂.isTaken id = true
    · rw [if_pos taken] at first; cases first
    rw [if_neg taken] at first ⊢
    rw [if_neg taken]
    cases first
    exact ⟨x, rfl, rfl, alike.insert same⟩

theorem uniform_declare (path : List String) (r : Resource) : Uniform T (Stack.declare path r) :=
  agree_declare rfl

theorem agree_declared (same : r₁.bare = r₂.bare) {result₁ : String → α} {result₂ : String → β}
    (holds : ∀ id, Q (result₁ id) (result₂ id)) :
    Agree T (Stack.declare path r₁ >>= fun id => pure (result₁ id))
      (Stack.declare path r₂ >>= fun id => pure (result₂ id)) Q := by
  refine agree_bind (agree_declare same) ?_
  rintro id _ rfl
  exact agree_pure (holds id)

theorem uniform_declared (path : List String) (r : Resource) (result : String → α) :
    Uniform T (Stack.declare path r >>= fun id => pure (result id)) :=
  agree_declared rfl fun _ => rfl

theorem agree_edit {f g : Resource → Resource}
    (keeps : ∀ r₁ r₂, r₁.bare = r₂.bare → (f r₁).bare = (g r₂).bare) :
    Agree T (Stack.edit id f) (Stack.edit id g) Eq := by
  refine agree_of_ok fun s₁ s₂ alike x first => ?_
  rw [Stack.run_edit] at first ⊢
  rw [Stack.run_edit]
  by_cases known : s₁.contains id = true
  · rw [if_pos known, if_pos (alike.contains id ▸ known)]
    exact ⟨(), rfl, rfl, alike.modify keeps⟩
  · rw [if_neg known] at first
    cases first

theorem agree_push_property (ordinary : key ∉ Json.wholeKeys) (same : v₁.bare = v₂.bare) :
    Agree T (Stack.pushProperty id key v₁) (Stack.pushProperty id key v₂) Eq := by
  refine agree_edit fun r₁ r₂ alike => ?_
  rw [Resource.bare_push_property ordinary, Resource.bare_push_property ordinary, alike, same]

/-- What is not compared may differ. -/
theorem agree_keep {f : Stack → α × Stack} {g : Stack → β × Stack}
    (left : ∀ s, (f s).2.declared = s.declared ∧ (f s).2.waits = s.waits ∧
      (f s).2.grants = s.grants ∧ (f s).2.outputs = s.outputs)
    (right : ∀ s, (g s).2.declared = s.declared ∧ (g s).2.waits = s.waits ∧
      (g s).2.grants = s.grants ∧ (g s).2.outputs = s.outputs) :
    Agree T (modifyGet f : Declaring α) (modifyGet g : Declaring β) fun _ _ => True := by
  refine agree_of_ok fun s₁ s₂ alike x _ => ?_
  rw [Stack.run_modifyGet, Stack.run_modifyGet]
  obtain ⟨declared₁, waits₁, grants₁, outputs₁⟩ := left s₁
  obtain ⟨declared₂, waits₂, grants₂, outputs₂⟩ := right s₂
  refine ⟨_, rfl, trivial, ?_, ?_, ?_, ?_⟩
  · simp only [Stack.bare, declared₁, declared₂]
    exact alike.declared
  · rw [waits₁, waits₂, alike.waits]
  · rw [grants₁, grants₂, alike.grants]
  · rw [outputs₁, outputs₂, alike.outputs]

theorem agree_add_asset (first second : ImageSource) :
    Agree T (Stack.addAsset first) (Stack.addAsset second) fun _ _ => True := by
  have keeps : ∀ (source : ImageSource) (s : Stack),
      let after := if s.assets.any (·.hash == source.hash) then s
        else { s with assets := s.assets ++ [source] }
      after.declared = s.declared ∧ after.waits = s.waits ∧ after.grants = s.grants ∧
        after.outputs = s.outputs := by
    intro source s
    dsimp only
    split <;> exact ⟨rfl, rfl, rfl, rfl⟩
  exact agree_keep (keeps first) (keeps second)

theorem uniform_add_output (id : String) (value : Value) (description : Option String) :
    Uniform T (Stack.addOutput id value description) := by
  refine agree_get fun s₁ s₂ alike => ?_
  rw [alike.is_taken]
  refine uniform_unless (agree_of_ok fun s₁ s₂ alike x _ => ⟨_, rfl, rfl, ?_⟩)
  rw [Stack.run_modifyGet, Stack.run_modifyGet]
  exact { alike with outputs := by rw [alike.outputs] }

theorem uniform_wait_for_path (dependent : String) (path : List String) :
    Uniform T (Stack.waitForPath dependent path) := by
  unfold Stack.waitForPath
  refine agree_of_ok fun s₁ s₂ alike x _ => ⟨_, rfl, rfl, ?_⟩
  rw [Stack.run_modifyGet, Stack.run_modifyGet]
  simp only [alike.waits]
  split
  · exact alike
  · exact { alike with waits := rfl }

theorem uniform_record_grant (grant : Grant) : Uniform T (Stack.recordGrant grant) := by
  unfold Stack.recordGrant
  refine agree_of_ok fun s₁ s₂ alike x first => ?_
  rw [Stack.run_modifyGet] at first ⊢
  rw [Stack.run_modifyGet]
  simp only [alike.grants] at first ⊢
  by_cases known : s₂.grants.contains grant = true
  · simp only [known, if_true] at first ⊢
    cases first
    exact ⟨_, rfl, rfl, alike⟩
  · simp only [if_neg known] at first ⊢
    cases first
    exact ⟨_, rfl, rfl, { alike with grants := rfl }⟩

end StackSynth
