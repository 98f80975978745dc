import StackSynth.Compute.Container
import StackSynth.Permissions.Role
import StackSynth.Proofs.Stack.Calls

/-!
What constructs do to a stack, one step at a time. Whatever an action does it does by steps of some
kind, even where it fails on the way, so that a stack keeps under actions what it keeps under such
steps. Here a step is a deed. It is a call of the stack, or one of the few things that take more
than one call: a statement for a role, a grant, or what is appended to a list in the entry of a
container.
-/
namespace StackSynth

section Steps

variable {α β γ δ ε : Type}

/-- Whatever comes of it, the action does what some steps do one after the other, all of a kind. -/
def MadeOf (step : Stack → δ → Stack) (kind : δ → Prop) (m : Declaring α) : Prop :=
  ∀ s : Stack, ∃ steps : List δ, (∀ d ∈ steps, kind d) ∧ (s.run m).2 = steps.foldl step s

variable {step : Stack → δ → Stack} {kind : δ → Prop} {m : Declaring α} {f : α → Declaring β}

theorem made_of_imp {kind' : δ → Prop} (made : MadeOf step kind m)
    (wider : ∀ d, kind d → kind' d) : MadeOf step kind' m := by
  intro s
  obtain ⟨steps, allowed, same⟩ := made s
  exact ⟨steps, fun d member => wider d (allowed d member), same⟩

theorem made_of_nothing (same : ∀ s : Stack, (s.run m).2 = s) : MadeOf step kind m :=
  fun s => ⟨[], List.forall_mem_nil _, same s⟩

theorem made_of_pure {a : α} : MadeOf step kind (pure a) := made_of_nothing fun _ => rfl

theorem made_of_throw {e : Failure} : MadeOf step kind (throw e : Declaring α) :=
  made_of_nothing fun _ => rfl

theorem made_of_lift (o : Outcome α) : MadeOf step kind (Stack.lift o) :=
  made_of_nothing fun _ => rfl

theorem made_of_get : MadeOf step kind (get : Declaring Stack) := made_of_nothing fun _ => rfl

theorem made_of_bind (first : MadeOf step kind m) (rest : ∀ a, MadeOf step kind (f a)) :
    MadeOf step kind (m >>= f) := by
  intro s
  obtain ⟨steps, allowed, same⟩ := first s
  rw [Stack.run_bind]
  rcases outcome : s.run m with ⟨_ | a, s'⟩
  · rw [outcome] at same
    exact ⟨steps, allowed, same⟩
  · rw [outcome] at same
    obtain ⟨more, allowed', same'⟩ := rest a s'
    refine ⟨steps ++ more, List.forall_mem_append.mpr ⟨allowed, allowed'⟩, ?_⟩
    rw [List.foldl_append, ← same]
    exact same'

theorem made_of_map {g : α → β} (made : MadeOf step kind m) : MadeOf step kind (g <$> m) := by
  rw [map_eq_pure_bind]
  exact made_of_bind made fun _ => made_of_pure

/-- A check that stops everything before the rest. -/
theorem made_of_unless {c : Prop} [Decidable c] {e : Failure} {rest : PUnit → Declaring α}
    (onward : MadeOf step kind (rest ⟨⟩)) :
    MadeOf step kind (if c then throw e >>= rest else rest ⟨⟩) := by
  split
  · exact made_of_bind made_of_throw fun _ => onward
  · exact onward

/-- An action that may be left out. -/
theorem made_of_when {c : Prop} [Decidable c] {first : Declaring PUnit}
    {rest : PUnit → Declaring α} (made : MadeOf step kind first)
    (onward : MadeOf step kind (rest ⟨⟩)) :
    MadeOf step kind (if c then first >>= rest else rest ⟨⟩) := by
  split
  · exact made_of_bind made fun _ => onward
  · exact onward

/-! Lists of actions. -/

theorem made_of_forM {items : List γ} {act : γ → Declaring PUnit}
    (each : ∀ item, MadeOf step kind (act item)) : MadeOf step kind (items.forM act) := by
  induction items with
  | nil => exact made_of_pure
  | cons item rest ih => exact made_of_bind (each item) fun _ => ih

theorem made_of_mapM {items : List γ} {act : γ → Declaring α}
    (each : ∀ item, MadeOf step kind (act item)) : MadeOf step kind (items.mapM act) := by
  induction items with
  | nil => exact made_of_pure
  | cons item rest ih =>
    rw [List.mapM_cons]
    exact made_of_bind (each item) fun _ => made_of_bind ih fun _ => made_of_pure

theorem made_of_foldlM {items : List γ} {act : α → γ → Declaring α}
    (each : ∀ a item, MadeOf step kind (act a item)) (a : α) : MadeOf step kind (items.foldlM act a) := by
  induction items generalizing a with
  | nil => exact made_of_pure
  | cons item rest ih =>
    rw [List.foldlM_cons]
    exact made_of_bind (each a item) ih

/-! Single steps, and steps that are made of other ones. -/

theorem made_of_step {d : δ} (allowed : kind d) (does : ∀ s : Stack, (s.run m).2 = step s d) :
    MadeOf step kind m :=
  fun s => ⟨[d], List.forall_mem_singleton.mpr allowed, does s⟩

theorem made_of_call {kind : StackCall → Prop} {c : StackCall} (allowed : kind c)
    (acts : c.action = (fun _ => ()) <$> m) : MadeOf Stack.after kind m := by
  refine made_of_step allowed fun s => ?_
  rw [Stack.after, acts, Stack.run_map]

/-- Where each step does what some finer steps do, so does what is made of them. -/
theorem made_of_made {step' : Stack → ε → Stack} {kind' : ε → Prop} (made : MadeOf step kind m)
    (each : ∀ d, kind d → ∀ s : Stack, ∃ finer : List ε, (∀ e ∈ finer, kind' e) ∧
      step s d = finer.foldl step' s) : MadeOf step' kind' m := by
  intro s
  obtain ⟨steps, allowed, same⟩ := made s
  rw [same]
  clear same
  induction steps generalizing s with
  | nil => exact ⟨[], List.forall_mem_nil _, rfl⟩
  | cons d rest ih =>
    obtain ⟨here, later⟩ := List.forall_mem_cons.mp allowed
    obtain ⟨finer, first, own⟩ := each d here s
    obtain ⟨more, others, same⟩ := ih (step s d) later
    refine ⟨finer ++ more, List.forall_mem_append.mpr ⟨first, others⟩, ?_⟩
    rw [List.foldl_cons, same, own, List.foldl_append]

end Steps

inductive Deed
  | call (c : StackCall)
  | permit (role : Role) (statement : PolicyStatement)
  | grant (role : Role) (kind : GrantKind) (target : String) (statements : List PolicyStatement)
  | append (container : Container) (key : String) (items : List Json)

def Deed.action : Deed → Declaring Unit
  | call c => c.action
  | permit role statement => role.addToPolicy statement
  | grant role kind target statements =>
    (fun _ => ()) <$> role.grant kind target statements
  | append container key items => container.editEntry (Container.appendIn key items)

def Stack.follow (s : Stack) (d : Deed) : Stack := (s.run d.action).2

def Stack.followAll (s : Stack) (deeds : List Deed) : Stack := deeds.foldl follow s

variable {α : Type} {m : Declaring α} {kind : Deed → Prop}

/-- Whatever comes of it, the action does what some deeds do, all of a kind. -/
abbrev DoneBy (kind : Deed → Prop) (m : Declaring α) : Prop := MadeOf Stack.follow kind m

theorem done_by_deed {d : Deed} (allowed : kind d) (acts : d.action = (fun _ => ()) <$> m) :
    DoneBy kind m := by
  refine made_of_step allowed fun s => ?_
  rw [Stack.follow, acts, Stack.run_map]

theorem done_by_declare {path : List String} {r : Resource}
    (allowed : kind (.call (.declare path r))) : DoneBy kind (Stack.declare path r) :=
  done_by_deed allowed rfl

theorem done_by_push {id key : String} {value : Json}
    (allowed : kind (.call (.pushProperty id key value))) :
    DoneBy kind (Stack.pushProperty id key value) :=
  made_of_step allowed fun _ => rfl

theorem done_by_wait {dependent : String} {path : List String}
    (allowed : kind (.call (.waitForPath dependent path))) :
    DoneBy kind (Stack.waitForPath dependent path) :=
  made_of_step allowed fun _ => rfl

theorem done_by_asset {source : ImageSource} (allowed : kind (.call (.addAsset source))) :
    DoneBy kind (Stack.addAsset source) :=
  made_of_step allowed fun _ => rfl

theorem done_by_permit {role : Role} {statement : PolicyStatement}
    (allowed : kind (.permit role statement)) : DoneBy kind (role.addToPolicy statement) :=
  made_of_step allowed fun _ => rfl

theorem done_by_grant {role : Role} {grantKind : GrantKind} {target : String}
    {statements : List PolicyStatement}
    (allowed : kind (.grant role grantKind target statements)) :
    DoneBy kind (role.grant grantKind target statements) :=
  done_by_deed allowed rfl

theorem done_by_append {container : Container} {key : String} {items : List Json}
    (allowed : kind (.append container key items)) :
    DoneBy kind (container.editEntry (Container.appendIn key items)) :=
  made_of_step allowed fun _ => rfl

/-! What deeds come to in calls. -/

/-- What a call enters among the assets, unless its hash is there. -/
def StackCall.asset? : StackCall → Option ImageSource
  | addAsset source => some source
  | _ => none

/-- An action that enters nothing among the assets. -/
abbrev AssetFree (m : Declaring α) : Prop := MadeOf Stack.after (·.asset? = none) m

theorem asset_free_edit (id : String) (f : Resource → Resource) : AssetFree (Stack.edit id f) :=
  made_of_step (d := .edit id f) rfl fun _ => rfl

theorem asset_free_permit (role : Role) (statement : PolicyStatement) :
    AssetFree (role.addToPolicy statement) := by
  have ensured : AssetFree role.ensurePolicy := by
    refine made_of_bind made_of_get fun s => ?_
    split
    · exact made_of_pure
    · refine made_of_bind (made_of_lift _) fun name => ?_
      exact made_of_call (c := .declare role.policyPath (role.emptyPolicy name)) rfl rfl
  refine made_of_bind ensured fun id => made_of_bind made_of_get fun s => ?_
  split
  · exact made_of_throw
  · split
    · exact asset_free_edit _ _
    · exact made_of_throw

theorem asset_free_grant (role : Role) (grantKind : GrantKind) (target : String)
    (statements : List PolicyStatement) :
    AssetFree (role.grant grantKind target statements) :=
  made_of_bind (made_of_call (c := .recordGrant _) rfl rfl) fun _ =>
    made_of_when (made_of_forM (asset_free_permit role)) made_of_pure

theorem asset_free_append (container : Container) (f : Fields → Fields) :
    AssetFree (container.editEntry f) := by
  refine made_of_bind made_of_get fun s => ?_
  split
  · exact made_of_throw
  · split
    · exact asset_free_edit _ _
    · exact made_of_throw

/-- A deed comes to calls, and enters an asset only as a call that does. -/
theorem Deed.made_of_calls (d : Deed) :
    MadeOf Stack.after (fun c => c.asset? = none ∨ d = .call c) d.action := by
  cases d with
  | call c => exact made_of_step (.inr rfl) fun _ => rfl
  | permit role statement =>
    exact made_of_imp (asset_free_permit role statement) fun _ => .inl
  | grant role grantKind target statements =>
    exact made_of_imp (made_of_map (asset_free_grant role grantKind target statements))
      fun _ => .inl
  | append container key items =>
    exact made_of_imp (asset_free_append container _) fun _ => .inl

end StackSynth
