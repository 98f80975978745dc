import StackSynth.Proofs.Constructs.Deeds
import StackSynth.Proofs.Permissions.Policy

/-!
What deeds leave of the resources that are there. A resource stays under its id, and what every
single change of a resource keeps of it is kept by all deeds together.
-/
namespace StackSynth

variable {P : Resource → Resource → Prop} {s s' s'' : Stack}

namespace Stack

/-- Each resource is still there, amended in the way that is told. -/
def Amends (P : Resource → Resource → Prop) (s s' : Stack) : Prop :=
  ∀ id r, s.resource? id = some r → ∃ r', s'.resource? id = some r' ∧ P r r'

section Preorder

variable (refl : ∀ r, P r r) (trans : ∀ r₁ r₂ r₃, P r₁ r₂ → P r₂ r₃ → P r₁ r₃)

include refl

theorem amends_refl (s : Stack) : s.Amends P s := by
  intro id r there
  exact ⟨r, there, refl r⟩

theorem amends_insert {id : String} (free : s.contains id = false) (path : List String)
    (r : Resource) : s.Amends P (s.insert id path r) := by
  intro k old there
  have other : id ≠ k := by
    rintro rfl
    rw [contains_of_resource there] at free
    cases free
  exact ⟨old, by rw [resource_insert, if_neg other, there], refl old⟩

theorem amends_modify {id : String} {f : Resource → Resource}
    (amends : ∀ r, s.resource? id = some r → P r (f r)) : s.Amends P (s.modify id f) := by
  intro k r there
  refine ⟨if k = id then f r else r, by rw [resource_modify, there]; rfl, ?_⟩
  by_cases here : k = id
  · rw [if_pos here]
    exact amends r (here ▸ there)
  · rw [if_neg here]
    exact refl r

omit refl

include trans in
theorem amends_trans (first : s.Amends P s') (second : s'.Amends P s'') : s.Amends P s'' := by
  intro id r there
  obtain ⟨r', there', amended⟩ := first id r there
  obtain ⟨r'', there'', amended'⟩ := second id r' there'
  exact ⟨r'', there'', trans r r' r'' amended amended'⟩

end Preorder

end Stack

open Stack

/-- The edits that a call makes amend resources in the way that is told. -/
def StackCall.Amends (P : Resource → Resource → Prop) : StackCall → Prop
  | edit _ f => ∀ r, P r (f r)
  | pushProperty _ key value => ∀ r, P r (r.pushProperty key value)
  | _ => True

/-- So do all edits that a deed makes. -/
def Deed.Amends (P : Resource → Resource → Prop) : Deed → Prop
  | call c => c.Amends P
  | permit _ _ | grant _ _ _ _ => ∀ policy statement grown,
    Role.withStatement? policy statement = some grown → P policy grown
  | append c key items => ∀ r fields, (Container.listed r)[c.index]? = some (.obj fields) →
    P r (r.withProperty Container.listKey
      (.arr ((Container.listed r).set c.index (.obj (Container.appendIn key items fields)))))

theorem Deed.Amends.imp {Q : Resource → Resource → Prop} {d : Deed} (amends : d.Amends P)
    (weaker : ∀ r r', P r r' → Q r r') : d.Amends Q := by
  cases d with
  | call c =>
    cases c with
    | edit id f => exact fun r => weaker _ _ (amends r)
    | pushProperty id key value => exact fun r => weaker _ _ (amends r)
    | _ => trivial
  | permit role statement =>
    exact fun policy statement grown taken => weaker _ _ (amends policy statement grown taken)
  | grant role kind target statements =>
    exact fun policy statement grown taken => weaker _ _ (amends policy statement grown taken)
  | append c key items => exact fun r fields found => weaker _ _ (amends r fields found)

/-- The entry of a container is edited where it stands, if it is there. -/
theorem Container.run_edit_entry (c : Container) (f : Fields → Fields) (s : Stack) :
    (∃ failure, s.run (c.editEntry f) = (.error failure, s)) ∨
    ∃ r fields, s.resource? c.taskDefinitionId = some r ∧
      (listed r)[c.index]? = some (.obj fields) ∧
      s.run (c.editEntry f) = (.ok (), s.modify c.taskDefinitionId fun r =>
        r.withProperty listKey (.arr ((listed r).set c.index (.obj (f fields))))) := by
  rw [editEntry, run_bind, run_get]
  dsimp only
  cases there : s.resource? c.taskDefinitionId with
  | none => exact .inl ⟨_, rfl⟩
  | some r =>
    dsimp only
    split
    · next fields found =>
      refine .inr ⟨r, fields, rfl, found, ?_⟩
      rw [run_edit, if_pos (contains_of_resource there)]
    · exact .inl ⟨_, rfl⟩

section Follow

variable (refl : ∀ r, P r r) (trans : ∀ r₁ r₂ r₃, P r₁ r₂ → P r₂ r₃ → P r₁ r₃)

include refl

theorem amends_edit {id : String} {f : Resource → Resource} (amends : ∀ r, P r (f r))
    (s : Stack) : s.Amends P (s.run (Stack.edit id f)).2 := by
  rw [run_edit]
  split
  · exact amends_modify refl fun r _ => amends r
  · exact amends_refl refl s

theorem amends_after {call : StackCall} (amends : call.Amends P) (s : Stack) :
    s.Amends P (s.after call) := by
  cases call with
  | edit id f => exact amends_edit refl amends s
  | pushProperty id key value => exact amends_edit refl amends s
  | declare path r =>
    rw [after, StackCall.action, run_map, run_declare]
    cases LogicalId.ofPath path with
    | error e => exact amends_refl refl s
    | ok id =>
      dsimp only
      split
      · exact amends_refl refl s
      · next free => exact amends_insert refl (free_iff.mp (by simpa using free)).1 path r
  | addOutput id value description =>
    rw [after, StackCall.action, run_add_output]
    split
    · exact amends_refl refl s
    · exact amends_refl refl s
  | waitFor dependent dependency =>
    rw [after, StackCall.action, waitFor, waitForPath, run_modifyGet]
    dsimp only
    split <;> exact amends_refl refl s
  | waitForPath dependent path =>
    rw [after, StackCall.action, waitForPath, run_modifyGet]
    dsimp only
    split <;> exact amends_refl refl s
  | recordGrant g =>
    rw [after, StackCall.action, run_map, recordGrant, run_modifyGet]
    dsimp only
    split <;> exact amends_refl refl s
  | addAsset source =>
    rw [after, StackCall.action, addAsset, run_modifyGet]
    dsimp only
    split <;> exact amends_refl refl s
  | setDescription text => exact amends_refl refl s

theorem amends_ensure_policy (role : Role) (s : Stack) :
    s.Amends P (s.run role.ensurePolicy).2 := by
  rw [role.run_ensure_policy]
  cases LogicalId.ofPath role.policyPath with
  | error failure => exact amends_refl refl s
  | ok id =>
    by_cases known : s.contains id = true
    · simp only [known, if_true]
      exact amends_refl refl s
    · simp only [known, if_false, Bool.false_eq_true]
      split
      · exact amends_refl refl s
      · exact amends_insert refl (by simpa using known) _ _

include trans

theorem amends_permit (role : Role) {statement : PolicyStatement}
    (amends : ∀ policy grown, Role.withStatement? policy statement = some grown → P policy grown)
    (s : Stack) : s.Amends P (s.run (role.addToPolicy statement)).2 := by
  have ensured := amends_ensure_policy refl role s
  rw [role.run_add_to_policy]
  rcases outcome : s.run role.ensurePolicy with ⟨failure | id, s'⟩
  · rw [outcome] at ensured
    exact ensured
  · rw [outcome] at ensured
    cases there : s'.resource? id with
    | none => simpa only [there] using ensured
    | some policy =>
      cases grew : Role.withStatement? policy statement with
      | none => simpa only [there, grew] using ensured
      | some grown =>
        simp only [there, grew]
        apply amends_trans trans ensured
        apply amends_modify refl
        intro r same
        cases there.symm.trans same
        exact amends policy grown grew

/-- A run that fails has the amendments of what went before. -/
theorem amends_forM {γ : Type} {act : γ → Declaring PUnit}
    (each : ∀ (item : γ) (s : Stack), s.Amends P (s.run (act item)).2) (items : List γ)
    (s : Stack) : s.Amends P (s.run (items.forM act)).2 := by
  induction items generalizing s with
  | nil => exact amends_refl refl s
  | cons item rest ih =>
    have first := each item s
    change s.Amends P (s.run (act item >>= fun _ => rest.forM act)).2
    rw [run_bind]
    rcases outcome : s.run (act item) with ⟨failure | done, s'⟩
    · rw [outcome] at first
      exact first
    · rw [outcome] at first
      exact amends_trans trans first (ih s')

theorem amends_follow {d : Deed} (amends : d.Amends P) (s : Stack) :
    s.Amends P (s.follow d) := by
  cases d with
  | call c => exact amends_after refl amends s
  | permit role statement =>
    exact amends_permit refl trans role (fun policy => amends policy statement) s
  | grant role kind target statements =>
    rw [follow, Deed.action, run_map, role.run_grant]
    dsimp only
    split
    · exact amends_refl refl s
    · -- the record is no resource, and each statement amends what the last one left
      have statement : ∀ (statement : PolicyStatement) (s : Stack),
          s.Amends P (s.run (role.addToPolicy statement)).2 := fun statement =>
        amends_permit refl trans role fun policy => amends policy statement
      exact amends_forM refl trans statement statements
        { s with grants := s.grants ++ [⟨role.logicalId, kind, target,
            statements.flatMap (·.actions)⟩] }
  | append container key items =>
    rw [follow, Deed.action]
    rcases container.run_edit_entry (Container.appendIn key items) s with
      ⟨failure, ran⟩ | ⟨r, fields, there, found, ran⟩
    · rw [ran]
      exact amends_refl refl s
    · rw [ran]
      apply amends_modify refl
      intro r' same
      cases there.symm.trans same
      exact amends r fields found

theorem amends_follow_all {deeds : List Deed} (amends : ∀ d ∈ deeds, d.Amends P) (s : Stack) :
    s.Amends P (s.followAll deeds) := by
  induction deeds generalizing s with
  | nil => exact amends_refl refl s
  | cons d rest ih =>
    obtain ⟨here, later⟩ := List.forall_mem_cons.mp amends
    exact amends_trans trans (amends_follow refl trans here s) (ih later (s.follow d))

/-- What is done by deeds amends resources as the deeds do. -/
theorem amends_done {α : Type} {kind : Deed → Prop} {m : Declaring α} (done : DoneBy kind m)
    (amends : ∀ d, kind d → d.Amends P) (s : Stack) : s.Amends P (s.run m).2 := by
  obtain ⟨deeds, allowed, same⟩ := done s
  rw [same]
  exact amends_follow_all refl trans (fun d member => amends d (allowed d member)) s

end Follow

end StackSynth
