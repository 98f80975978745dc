import StackSynth.Proofs.Stack.Steps

/-!
What holds in every stack that is built step by step: all that is declared fits, and stays so while
the stack grows. What a resource of the lowest layer needs was declared before it.
-/
namespace StackSynth

variable {t : Terms} {s s' : Stack}

namespace Stack

variable {id : String} {path : List String} {r : Resource}

theorem get?_insert (s : Stack) (id k : String) (path : List String) (r : Resource) :
    (s.insert id path r).declared.get? k =
      if id = k then some ⟨path, r⟩ else s.declared.get? k :=
  OrderedMap.get?_insert s.declared id k ⟨path, r⟩

theorem get?_modify (s : Stack) (id k : String) (f : Resource → Resource) :
    (s.modify id f).declared.get? k = (s.declared.get? k).map fun d =>
      if k = id then { d with resource := f d.resource } else d := by
  simp [modify, OrderedMap.modify]

theorem resource_insert (s : Stack) (id k : String) (path : List String) (r : Resource) :
    (s.insert id path r).resource? k = if id = k then some r else s.resource? k := by
  rw [resource?, get?_insert, apply_ite (Option.map _)]
  rfl

theorem resource_modify (s : Stack) (id k : String) (f : Resource → Resource) :
    (s.modify id f).resource? k = (s.resource? k).map fun r => if k = id then f r else r := by
  rw [resource?, get?_modify, resource?, Option.map_map, Option.map_map]
  congr 1
  funext d
  by_cases here : k = id
  · simp [here]
  · simp [here]

theorem contains_of_resource (there : s.resource? id = some r) :
    s.contains id = true := by
  obtain ⟨d, found, _⟩ := Option.map_eq_some_iff.mp there
  rw [contains, OrderedMap.contains, found]
  rfl

theorem resource_none_iff : s.resource? id = none ↔ s.contains id = false := by
  rw [resource?, Option.map_eq_none_iff, contains, OrderedMap.contains, Option.isSome_eq_false_iff,
    Option.isNone_iff_eq_none]

theorem grows_insert (free : s.contains id = false) (path : List String) (r : Resource) :
    Grows s (s.insert id path r) := by
  have kept : ∀ k d, s.declared.get? k = some d →
      (s.insert id path r).declared.get? k = some d := by
    intro k d found
    rw [get?_insert, if_neg, found]
    rintro rfl
    simp [contains, OrderedMap.contains, found] at free
  refine ⟨fun k d found => ⟨d, kept k d found, rfl, rfl, fun _ _ => rfl⟩, List.Subset.refl _, ?_⟩
  rintro k ⟨d, first, rest, found, acts⟩
  exact ⟨d, first, rest, kept k d found, acts⟩

theorem at_insert (s : Stack) (id : String) (path : List String) (r : Resource) :
    (s.insert id path r).At id path r.type :=
  ⟨⟨path, r⟩, by rw [get?_insert, if_pos rfl], rfl, rfl⟩

theorem grows_modify {key : String} {value : Json} {d : DeclaredResource} {f : Resource → Resource}
    {t : Terms} (found : s.declared.get? id = some d) (grown : GrowsTo t s d.resource key value)
    (same : f d.resource = d.resource.withProperty key value) : Grows s (s.modify id f) := by
  refine ⟨fun k e there => ?_, List.Subset.refl _, ?_⟩
  · rw [get?_modify, there]
    by_cases here : k = id
    · subst here
      rw [found] at there
      cases there
      refine ⟨{ d with resource := d.resource.withProperty key value },
        by rw [Option.map_some, if_pos rfl, same], rfl, rfl, fun k fixed => ?_⟩
      have other : key ≠ k := fun equal => fixed (equal ▸ grown.grown)
      rw [Resource.property_with_property, if_neg other]
    · exact ⟨e, by rw [Option.map_some, if_neg here], rfl, rfl, fun _ _ => rfl⟩
  · rintro k ⟨e, first, rest, there, acts⟩
    by_cases here : k = id
    · subst here
      rw [found] at there
      cases there
      have now : (s.modify k f).declared.get? k =
          some { d with resource := d.resource.withProperty key value } := by
        rw [get?_modify, found, Option.map_some, if_pos rfl, same]
      by_cases listed : key = Listener.actionsKey
      · obtain ⟨first', rest', rfl⟩ := grown.acts listed
        exact ⟨_, first', rest', now, by rw [Resource.property_with_property, if_pos listed]⟩
      · exact ⟨_, first, rest, now, by rw [Resource.property_with_property, if_neg listed, acts]⟩
    · exact ⟨e, first, rest, by rw [get?_modify, there, Option.map_some, if_neg here], acts⟩

end Stack

open Stack

theorem step_grows (step : Step t s s') : s.Grows s' := by
  cases step with
  | declare named free fits => exact grows_insert free _ _
  | edit found grows same => exact grows_modify found grows same
  | wait waits awaits resolves =>
    exact ⟨fun _ d found => ⟨d, found, rfl, rfl, fun _ _ => rfl⟩, List.subset_append_left _ _,
      fun _ acts => acts⟩
  | keep declared waits leads =>
    refine ⟨fun _ d found => ⟨d, declared ▸ found, rfl, rfl, fun _ _ => rfl⟩, by rw [waits]; simp,
      ?_⟩
    rintro id ⟨d, first, rest, found, acts⟩
    exact ⟨d, first, rest, declared ▸ found, acts⟩

theorem steps_grow (steps : Steps t s s') : s.Grows s' := by
  induction steps with
  | refl => exact grows_refl s
  | tail _ last ih => exact grows_trans ih (step_grows last)

theorem step_outputs_lead (step : Step t s s') (leads : s.OutputsLead) : s'.OutputsLead := by
  have grows := step_grows step
  have grown : ∀ output ∈ s.outputs.values, ∀ ref ∈ output.value.references,
      s'.contains ref.target = true := fun output listed ref refers =>
    grows.contains (leads output listed ref refers)
  cases step with
  | declare _ _ _ => exact grown
  | edit _ _ _ => exact grown
  | wait _ _ _ => exact grown
  | keep _ _ kept => exact kept leads

theorem steps_outputs_lead (steps : Steps t s s') (leads : s.OutputsLead) : s'.OutputsLead := by
  induction steps with
  | refl => exact leads
  | tail _ last ih => exact step_outputs_lead last ih

theorem built_steps (built : Built t s) (steps : Steps t s s') : Built t s' := by
  obtain ⟨start, empty, quiet, before⟩ := built
  exact ⟨start, empty, quiet, before.trans steps⟩

/-! What a resource may need, it may need later as well. -/

theorem Admits.grows {type target : String} (admits : Admits t s type target)
    (grows : s.Grows s') : Admits t s' type target := by
  cases admits with
  | below there lower_layer => exact .below (grows.at_ there) lower_layer
  | supplied late refers => exact .supplied late (t.refers_grows grows refers)
  | taken taken known => exact .taken (grows.handlerTaken taken) (known.imp_left grows.contains)

theorem AdmitsLate.grows {target : String} (admits : AdmitsLate t s target) (grows : s.Grows s') :
    AdmitsLate t s' target := fun type late => (admits type late).grows grows

theorem Fits.grows {path : List String} {r : Resource} (fits : Fits t s path r)
    (grows : s.Grows s') : Fits t s' path r where
  declares := fits.declares
  admits := fun target needed => (fits.admits target needed).grows grows
  tidy := fits.tidy
  handler := fun same => by
    obtain ⟨type, role, named, there⟩ := fits.handler same
    exact ⟨type, role, named, grows.at_ there⟩
  policy := fun same => by
    obtain ⟨role, base, below, there, roles⟩ := fits.policy same
    exact ⟨role, base, below, grows.at_ there, roles⟩

theorem mem_targets_with_property {r : Resource} {key target : String} {value : Json}
    (needed : target ∈ (r.withProperty key value).targets) :
    target ∈ r.targets ∨ ∃ ref ∈ value.references, ref.target = target := by
  simp only [Resource.targets, List.mem_append, List.mem_map] at needed ⊢
  rcases needed with depends | ⟨ref, refers, rfl⟩
  · exact .inl (.inl depends)
  · rcases Resource.references_with_property refers with new | old
    · exact .inr ⟨ref, new, rfl⟩
    · exact .inl (.inr ⟨ref, old, rfl⟩)

theorem mem_targets_grown {r : Resource} {key target : String} {value : Json}
    (grows : GrowsTo t s r key value) (needed : target ∈ (r.withProperty key value).targets) :
    target ∈ r.targets ∨ 0 < layer r.type ∧ Admits t s r.type target := by
  rcases mem_targets_with_property needed with old | ⟨ref, refers, rfl⟩
  · exact .inl old
  · rcases grows.refers ref refers with old | new
    · exact .inl (List.mem_append_right _ (List.mem_map_of_mem old))
    · exact .inr new

theorem Fits.grown {path : List String} {r : Resource} {key : String} {value : Json}
    (fits : Fits t s path r) (grows : GrowsTo t s r key value) :
    Fits t s path (r.withProperty key value) where
  declares := fits.declares
  admits := fun target needed =>
    (mem_targets_grown grows needed).elim (fits.admits target) (·.2)
  tidy := grows.tidy fits.tidy
  handler := fits.handler
  policy := fun same => by
    obtain ⟨role, base, below, there, roles⟩ := fits.policy same
    have other : key ≠ "Roles" := fun equal => absurd (equal ▸ grows.grown) (by decide)
    exact ⟨role, base, below, there, by rw [Resource.property_with_property, if_neg other, roles]⟩

/-- What a resource of the lowest layer needs is of that layer, and declared before it. -/
def Ordered (s : Stack) (id : String) (r : Resource) : Prop :=
  layer r.type = 0 → ¬ s.HandlerTaken → ∀ target ∈ r.targets,
    (∃ path lower, s.At target path lower ∧ layer lower = 0) ∧
    s.declared.keys.idxOf target < s.declared.keys.idxOf id

structure Sound (t : Terms) (s : Stack) : Prop where
  named : ∀ id d, s.declared.get? id = some d → LogicalId.ofPath d.path = .ok id
  fits : ∀ id d, s.declared.get? id = some d → Fits t s d.path d.resource
  ordered : ∀ id d, s.declared.get? id = some d → Ordered s id d.resource
  waits : ∀ w ∈ s.waits, s.Resolves w ∧
    ∃ path type, s.At w.dependent path type ∧ t.awaits type w.path

theorem admitted_below {type target : String} (admits : Admits t s type target)
    (low : layer type = 0) (free : ¬ s.HandlerTaken) :
    ∃ path lower, s.At target path lower ∧ layer lower = 0 := by
  cases admits with
  | below there lower_layer => exact ⟨_, _, there, by omega⟩
  | supplied late refers => omega
  | taken taken known => exact absurd taken free

theorem keys_insert {id : String} (free : s.contains id = false) (path : List String)
    (r : Resource) : (s.insert id path r).declared.keys = s.declared.keys ++ [id] := by
  simp only [OrderedMap.keys, Stack.insert, OrderedMap.entries_insert free, List.map_append,
    List.map_cons, List.map_nil]

theorem Ordered.grows {id : String} {r : Resource} (ordered : Ordered s id r)
    (grows : s.Grows s') {more : List String} (keys : s'.declared.keys = s.declared.keys ++ more)
    (member : id ∈ s.declared.keys) : Ordered s' id r := by
  intro low free target needed
  obtain ⟨⟨path, lower, there, same_layer⟩, before⟩ :=
    ordered low (fun taken => free (grows.handlerTaken taken)) target needed
  have known : target ∈ s.declared.keys := (OrderedMap.contains_iff _ _).mp there.contains
  refine ⟨⟨path, lower, grows.at_ there, same_layer⟩, ?_⟩
  rw [keys, List.idxOf_append_of_mem known, List.idxOf_append_of_mem member]
  exact before

theorem mem_keys {id : String} {d : DeclaredResource} (found : s.declared.get? id = some d) :
    id ∈ s.declared.keys := by
  refine (OrderedMap.contains_iff _ _).mp ?_
  rw [OrderedMap.contains, found]
  rfl

theorem sound_declare {id : String} {path : List String} {r : Resource} (sound : Sound t s)
    (named : LogicalId.ofPath path = .ok id) (free : s.contains id = false)
    (fits : Fits t s path r) : Sound t (s.insert id path r) := by
  have grows := grows_insert free path r
  have keys := keys_insert free path r
  refine ⟨fun k d found => ?_, fun k d found => ?_, fun k d found => ?_, fun w member => ?_⟩
  · rw [get?_insert] at found
    split at found
    · next same => cases found; exact same ▸ named
    · exact sound.named k d found
  · rw [get?_insert] at found
    split at found
    · cases found; exact fits.grows grows
    · exact (sound.fits k d found).grows grows
  · rw [get?_insert] at found
    split at found
    · next same =>
      subst same
      cases found
      intro low untaken target needed
      -- the new id comes last, so whatever is there comes before it
      obtain ⟨found_path, lower, there, same_layer⟩ := admitted_below
        (fits.admits target needed) low fun taken => untaken (grows.handlerTaken taken)
      have known : target ∈ s.declared.keys := (OrderedMap.contains_iff _ _).mp there.contains
      have fresh : id ∉ s.declared.keys := fun member => by
        rw [← OrderedMap.contains_iff] at member
        rw [contains, member] at free
        cases free
      refine ⟨⟨found_path, lower, grows.at_ there, same_layer⟩, ?_⟩
      rw [keys, List.idxOf_append_of_mem known, List.idxOf_append_of_notMem fresh]
      have inside := List.idxOf_lt_length_of_mem known
      omega
    · exact (sound.ordered k d found).grows grows keys (mem_keys found)
  · obtain ⟨resolves, path, type, there, awaits⟩ := sound.waits w member
    exact ⟨grows.resolves resolves, path, type, grows.at_ there, awaits⟩

theorem keys_modify (s : Stack) (id : String) (f : Resource → Resource) :
    (s.modify id f).declared.keys = s.declared.keys := by
  simp [Stack.modify, OrderedMap.modify]

theorem sound_edit {id key : String} {value : Json} {d : DeclaredResource}
    {f : Resource → Resource} (sound : Sound t s) (found : s.declared.get? id = some d)
    (grown : GrowsTo t s d.resource key value)
    (same : f d.resource = d.resource.withProperty key value) : Sound t (s.modify id f) := by
  have grows := grows_modify found grown same
  have keys : (s.modify id f).declared.keys = s.declared.keys ++ [] := by simp [keys_modify]
  -- the edited resource, or one that stays as it is
  have cases : ∀ k e, (s.modify id f).declared.get? k = some e →
      (k = id ∧ e = ⟨d.path, d.resource.withProperty key value⟩) ∨
      s.declared.get? k = some e := by
    intro k e there
    rw [get?_modify, Option.map_eq_some_iff] at there
    obtain ⟨old, there, rfl⟩ := there
    by_cases here : k = id
    · subst here
      rw [found] at there
      cases there
      exact .inl ⟨rfl, by rw [if_pos rfl, same]⟩
    · exact .inr (by rw [if_neg here, there])
  refine ⟨fun k e there => ?_, fun k e there => ?_, fun k e there => ?_, fun w member => ?_⟩
  · rcases cases k e there with ⟨rfl, rfl⟩ | old
    · exact sound.named _ d found
    · exact sound.named k e old
  · rcases cases k e there with ⟨rfl, rfl⟩ | old
    · exact ((sound.fits _ d found).grown grown).grows grows
    · exact (sound.fits k e old).grows grows
  · rcases cases k e there with ⟨rfl, rfl⟩ | old
    · refine Ordered.grows (fun low untaken target needed => ?_) grows keys (mem_keys found)
      rcases mem_targets_grown grown needed with old | ⟨high, _⟩
      · exact sound.ordered _ d found low untaken target old
      · exact absurd low (Nat.ne_of_gt high)
    · exact (sound.ordered k e old).grows grows keys (mem_keys old)
  · obtain ⟨resolves, path, type, there, awaits⟩ := sound.waits w member
    exact ⟨grows.resolves resolves, path, type, grows.at_ there, awaits⟩

theorem sound_step (sound : Sound t s) (step : Step t s s') : Sound t s' := by
  have grows := step_grows step
  cases step with
  | declare named free fits => exact sound_declare sound named free fits
  | edit found grown same => exact sound_edit sound found grown same
  | wait waits awaits resolves =>
    refine ⟨sound.named, fun id d found => (sound.fits id d found).grows grows,
      fun id d found => (sound.ordered id d found).grows grows (List.append_nil _).symm
        (mem_keys found), fun w member => ?_⟩
    rcases List.mem_append.mp member with before | new
    · obtain ⟨resolved, path, type, there, awaited⟩ := sound.waits w before
      exact ⟨grows.resolves resolved, path, type, grows.at_ there, awaited⟩
    · cases List.mem_singleton.mp new
      exact ⟨grows.resolves resolves, _, _, grows.at_ waits, awaits⟩
  | keep declared waits leads =>
    have keys : s'.declared.keys = s.declared.keys ++ [] := by rw [declared, List.append_nil]
    refine ⟨fun id d found => sound.named id d (declared ▸ found),
      fun id d found => (sound.fits id d (declared ▸ found)).grows grows,
      fun id d found => (sound.ordered id d (declared ▸ found)).grows grows keys
        (mem_keys (declared ▸ found)), fun w member => ?_⟩
    obtain ⟨resolved, path, type, there, awaited⟩ := sound.waits w (waits ▸ member)
    exact ⟨grows.resolves resolved, path, type, grows.at_ there, awaited⟩

theorem built_sound (built : Built t s) : Sound t s := by
  obtain ⟨start, empty, quiet, steps⟩ := built
  have nothing : ∀ id d, start.declared.get? id ≠ some d := fun id d found => by
    rw [empty] at found
    cases found
  induction steps with
  | refl =>
    exact ⟨fun id d found => absurd found (nothing id d),
      fun id d found => absurd found (nothing id d),
      fun id d found => absurd found (nothing id d), by simp [quiet]⟩
  | tail _ last ih => exact sound_step ih last

end StackSynth
