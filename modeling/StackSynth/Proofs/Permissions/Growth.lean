import StackSynth.Proofs.Graph.Loops
import StackSynth.Proofs.Permissions.Policy
import StackSynth.Proofs.Stack.Requirements

/-!
What the dependency graph sees of a policy that takes up statements. One resource comes to need more,
and if it is new, whatever waits for a path that it is under comes to wait for it.
-/
namespace StackSynth

variable {s s₁ s' : Stack} {id : String} {path : List String} {role : Role}
  {statement : PolicyStatement} {statements : List PolicyStatement} {M N : String → Prop}

/-- The ids that a value refers to, other than the parameter of every template. -/
def Json.Needs (value : Json) (id : String) : Prop :=
  ∃ ref ∈ value.references, ref.target ≠ Bootstrap.versionParameter ∧ ref.target = id

namespace Value

variable {x : String}

theorem needs_str (text : String) : ¬ (str text).toJson.Needs x := by
  simp [Json.Needs, references]

theorem needs_attribute (id attr : String) :
    (getAtt id attr).toJson.Needs x ↔ x = id ∧ x ≠ Bootstrap.versionParameter := by
  simp only [Json.Needs, references_toJson, references, List.mem_singleton, exists_eq_left]
  exact ⟨fun ⟨declared, same⟩ => ⟨same.symm, same ▸ declared⟩,
    fun ⟨same, declared⟩ => ⟨same ▸ declared, same.symm⟩⟩

/-- Text around an attribute adds nothing. -/
theorem needs_attribute_and (id attr separator text : String) :
    (join separator [getAtt id attr, str text]).toJson.Needs x ↔
      x = id ∧ x ≠ Bootstrap.versionParameter := by
  rw [← needs_attribute id attr]
  simp [Json.Needs, references, referencesInItems]

theorem needs_reference (id : String) :
    (ref id).toJson.Needs x ↔
      (x = id ∧ x ≠ Bootstrap.versionParameter) ∧ isPseudoParameter id = false := by
  rw [← needs_attribute id "Arn"]
  cases pseudo : isPseudoParameter id <;> simp [Json.Needs, references, pseudo]

end Value

namespace PolicyStatement

theorem mem_references_one_or_many (ref : Reference) (items : List Json) :
    ref ∈ (oneOrMany items).references ↔ ∃ item ∈ items, ref ∈ item.references := by
  unfold oneOrMany
  split
  · simp
  · rw [Json.references_arr, Json.mem_references_in_items]

/-- A statement needs what its resources refer to. -/
theorem needs_iff (statement : PolicyStatement) (x : String) :
    statement.toJson.Needs x ↔ ∃ resource ∈ statement.resources, resource.toJson.Needs x := by
  have all : ∀ ref, ref ∈ statement.toJson.references ↔
      ∃ resource ∈ statement.resources, ref ∈ resource.toJson.references := by
    intro ref
    rw [toJson, Json.references_obj_of_field List.mem_cons_self (by decide : "Action" ∉ _)]
    simp [mem_references_one_or_many]
  simp only [Json.Needs, all]
  constructor
  · rintro ⟨ref, ⟨resource, member, refers⟩, needed⟩
    exact ⟨resource, member, ref, refers, needed⟩
  · rintro ⟨resource, member, ref, refers, needed⟩
    exact ⟨ref, ⟨resource, member, refers⟩, needed⟩

end PolicyStatement

namespace Stack

/-- A resource is there and needs no less than before; nothing else that is deployed is new. -/
structure Grown (s s' : Stack) (id : String) (path : List String) (new : String → Prop) : Prop where
  waits : s'.waits = s.waits
  outputs : s'.outputs = s.outputs
  others : ∀ k, k ≠ id → s'.declared.get? k = s.declared.get? k
  there : s'.path? id = some ((s.path? id).getD path)
  requires : ∀ x, s'.Requires id x ↔ s.Requires id x ∨ new x

theorem Grown.trans (first : Grown s s₁ id path M) (second : Grown s₁ s' id path N) :
    Grown s s' id path fun x => M x ∨ N x where
  waits := second.waits.trans first.waits
  outputs := second.outputs.trans first.outputs
  others := fun k other => (second.others k other).trans (first.others k other)
  there := by rw [second.there, first.there]; rfl
  requires := fun x => by rw [second.requires, first.requires, or_assoc]

theorem Grown.congr (grown : Grown s s' id path M) (same : ∀ x, M x ↔ N x) :
    Grown s s' id path N :=
  ⟨grown.waits, grown.outputs, grown.others, grown.there, fun x => by rw [grown.requires, same]⟩

theorem path_eq_none_iff (s : Stack) (id : String) : s.path? id = none ↔ s.contains id = false := by
  rw [path?, Option.map_eq_none_iff, contains, OrderedMap.contains, Option.isSome_eq_false_iff,
    Option.isNone_iff_eq_none]

end Stack

open Stack

namespace Role

/-- A policy with one statement more needs what it needed, and what the statement refers to. -/
theorem with_statement_needs {policy grown : Resource}
    (taken : withStatement? policy statement = some grown) :
    policy.property? "PolicyDocument" ≠ none ∧
      ∀ x, x ∈ grown.prerequisites ↔ x ∈ policy.prerequisites ∨ statement.toJson.Needs x := by
  unfold withStatement? at taken
  split at taken
  · next document present =>
    split at taken
    · next statements listed =>
      cases taken
      refine ⟨by simp [present], fun x => ?_⟩
      set added := Json.obj
        (Fields.insert "Statement" (.arr (statements ++ [statement.toJson])) document)
      have inside : ∀ ref, ref ∈ added.references ↔
          ref ∈ (Json.obj document).references ∨ ref ∈ statement.toJson.references :=
        fun ref => Json.mem_references_append_field (by decide) listed
      have refers : ∀ ref, ref ∈ (policy.withProperty "PolicyDocument" added).references ↔
          ref ∈ policy.references ∨ ref ∈ added.references := fun ref =>
        Resource.mem_references_with_property present fun ref old => (inside ref).mpr (.inl old)
      have known : ∀ ref, ref ∈ (Json.obj document).references → ref ∈ policy.references :=
        fun ref inner => Resource.references_of_property present inner
      have all := fun ref => (refers ref).trans (or_congr Iff.rfl (inside ref))
      simp only [Resource.mem_prerequisites_iff, all, Json.Needs]
      constructor
      · rintro (depends | ⟨ref, old | old | new, declared⟩)
        · exact .inl (.inl depends)
        · exact .inl (.inr ⟨ref, old, declared⟩)
        · exact .inl (.inr ⟨ref, known ref old, declared⟩)
        · exact .inr ⟨ref, new, declared⟩
      · rintro ((depends | ⟨ref, old, declared⟩) | ⟨ref, new, declared⟩)
        · exact .inl depends
        · exact .inr ⟨ref, .inl old, declared⟩
        · exact .inr ⟨ref, .inr (.inr new), declared⟩
    · cases taken
  · cases taken

theorem grown_of_edit {d : DeclaredResource} {policy : Resource}
    (found : s.declared.get? id = some d)
    (needs : ∀ x, x ∈ policy.prerequisites ↔ x ∈ d.resource.prerequisites ∨ N x) :
    Grown s (s.modify id fun _ => policy) id path N where
  waits := rfl
  outputs := rfl
  others := fun k other => by simp [get?_modify, other]
  there := by simp [path?, get?_modify, found]
  requires := fun x => by simp [Requires, get?_modify, found, needs]

theorem grown_of_insert {policy : Resource} (fresh : s.contains id = false)
    (needs : ∀ x, x ∈ policy.prerequisites ↔ N x) :
    Grown s (s.insert id path policy) id path N where
  waits := rfl
  outputs := rfl
  others := fun k other => by rw [get?_insert, if_neg (Ne.symm other)]
  there := by
    rw [(path_eq_none_iff s id).mpr fresh, path?, get?_insert, if_pos rfl]
    rfl
  requires := fun x => by
    have absent : s.declared.get? id = none := by
      simpa [contains, OrderedMap.contains] using fresh
    simp [Requires, get?_insert, absent, needs]

/-- A policy without statements needs its role. -/
theorem needs_with_nothing (role : Role) (name x : String) :
    x ∈ (role.policyWith name []).prerequisites ↔ role.reference.toJson.Needs x := by
  simp [Resource.mem_prerequisites_iff, policyWith, Resource.references, Json.Needs,
    Json.references]

theorem needs_with_first (role : Role) (name x : String) (statement : PolicyStatement) :
    x ∈ (role.policyWith name [statement]).prerequisites ↔
      statement.toJson.Needs x ∨ role.reference.toJson.Needs x := by
  obtain ⟨-, needs⟩ := with_statement_needs (role.with_statement_policy name [] statement)
  rw [List.nil_append] at needs
  rw [needs, needs_with_nothing, or_comm]

theorem default_policy_iff (role : Role) (s : Stack) (id : String) :
    role.defaultPolicy? s = some id ↔
      LogicalId.ofPath role.policyPath = .ok id ∧ s.contains id = true := by
  rw [defaultPolicy?]
  cases LogicalId.ofPath role.policyPath with
  | error failure => simp
  | ok name =>
    cases known : s.contains name with
    | true =>
      simp only [known, if_true, Option.some.injEq, Except.ok.injEq]
      exact ⟨fun same => ⟨same, same ▸ known⟩, And.left⟩
    | false =>
      simp only [known, Bool.false_eq_true, if_false, Except.ok.injEq, reduceCtorEq, false_iff]
      rintro ⟨rfl, declared⟩
      rw [known] at declared
      cases declared

/-- What changes where a role's statements are taken up: the policy needs what they refer to, and
the role if it is new. -/
structure Permitted (role : Role) (s s' : Stack) (id : String) (needs : String → Prop) : Prop where
  named : LogicalId.ofPath role.policyPath = .ok id
  document : ∀ d, s.declared.get? id = some d → d.resource.property? "PolicyDocument" ≠ none
  grown : Grown s s' id role.policyPath fun x =>
    needs x ∨ s.contains id = false ∧ role.reference.toJson.Needs x

theorem permitted_of_added (added : s.run (role.addToPolicy statement) = (.ok (), s')) :
    ∃ id, role.Permitted s s' id statement.toJson.Needs := by
  cases default : role.defaultPolicy? s with
  | none =>
    obtain ⟨id, named, free⟩ := named_of_added default (by rw [added])
    have fresh := (free_iff.mp free).1
    rw [run_first_statement named free] at added
    cases added
    refine ⟨id, named, fun d found => ?_, ?_⟩
    · have known : s.contains id = true := At.contains ⟨d, found, rfl, rfl⟩
      rw [fresh] at known
      cases known
    · exact grown_of_insert fresh fun x => by simp [needs_with_first, fresh]
  | some id =>
    obtain ⟨named, known⟩ := (default_policy_iff role s id).mp default
    obtain ⟨d, found⟩ := Option.isSome_iff_exists.mp known
    have there : s.resource? id = some d.resource := by rw [resource?, found]; rfl
    rw [run_add_to_policy, run_ensure_policy, named] at added
    simp only [known, if_true, there] at added
    split at added
    · cases added
    · next policy taken =>
      cases added
      obtain ⟨document, needs⟩ := with_statement_needs taken
      refine ⟨id, named, fun e same => ?_, (grown_of_edit found needs).congr fun x => by simp [known]⟩
      rw [found] at same
      cases same
      exact document

/-- Further statements, once there is a policy. -/
theorem grown_of_more (named : LogicalId.ofPath role.policyPath = .ok id)
    (known : s.contains id = true)
    (added : s.run (statements.forM role.addToPolicy) = (.ok (), s')) :
    Grown s s' id role.policyPath fun x => ∃ statement ∈ statements, statement.toJson.Needs x := by
  induction statements generalizing s with
  | nil =>
    cases added
    obtain ⟨d, found⟩ := Option.isSome_iff_exists.mp known
    exact ⟨rfl, rfl, fun _ _ => rfl, by simp [path?, found], fun x => by simp⟩
  | cons first rest ih =>
    obtain ⟨_, s₁, first_added, rest_added⟩ := run_bind_ok
      (show s.run (role.addToPolicy first >>= fun _ => rest.forM role.addToPolicy) = _ from added)
    obtain ⟨name, permitted⟩ := permitted_of_added first_added
    obtain rfl : name = id := Except.ok.inj (permitted.named.symm.trans named)
    have still : s₁.contains name = true := by
      rw [← Bool.not_eq_false, ← path_eq_none_iff, permitted.grown.there]
      exact Option.some_ne_none _
    refine (permitted.grown.trans (ih still rest_added)).congr fun x => ?_
    simp [known]

theorem permitted_of_all_added (some : statements ≠ [])
    (added : s.run (statements.forM role.addToPolicy) = (.ok (), s')) :
    ∃ id, role.Permitted s s' id fun x =>
      ∃ statement ∈ statements, statement.toJson.Needs x := by
  obtain ⟨first, rest, rfl⟩ := List.exists_cons_of_ne_nil some
  obtain ⟨_, s₁, first_added, rest_added⟩ := run_bind_ok
    (show s.run (role.addToPolicy first >>= fun _ => rest.forM role.addToPolicy) = _ from added)
  obtain ⟨id, permitted⟩ := permitted_of_added first_added
  have still : s₁.contains id = true := by
    rw [← Bool.not_eq_false, ← path_eq_none_iff, permitted.grown.there]
    exact Option.some_ne_none _
  refine ⟨id, permitted.named, permitted.document, ?_⟩
  refine (permitted.grown.trans (grown_of_more permitted.named still rest_added)).congr fun x => ?_
  simp only [List.exists_mem_cons_iff]
  exact or_right_comm

end Role

end StackSynth
