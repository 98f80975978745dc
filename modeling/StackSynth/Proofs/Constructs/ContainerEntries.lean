import StackSynth.Proofs.Constructs.ContainerLists
import StackSynth.Proofs.Constructs.Containers

/-!
Entries of containers. An entry is told by its place in a list, and entries only ever come after
those that are there. What is appended in an entry by means of a handle changes that entry alone,
and what is added to a task definition gets an entry of its own.
-/
namespace StackSynth

namespace Stack

variable {s s' s'' : Stack}

/-- Each entry of a container is still where it was, and as it was. -/
def KeepsEntries (s s' : Stack) : Prop :=
  ∀ (c : Container) (entry : Json), c.entry? s = some entry → c.entry? s' = some entry

theorem keeps_entries_refl (s : Stack) : s.KeepsEntries s := fun _ _ found => found

theorem keeps_entries_trans (first : s.KeepsEntries s') (second : s'.KeepsEntries s'') :
    s.KeepsEntries s'' := fun c entry found => second c entry (first c entry found)

end Stack

namespace Container

variable {c d : Container} {s s' s'' : Stack} {key k : String} {fields : Fields}
  {items present : List Json}

/-- Where the entry is, whatever the name of the container. -/
def place (c : Container) : String × Nat := (c.taskDefinitionId, c.index)

theorem entry_of_place (same : d.place = c.place) (s : Stack) : d.entry? s = c.entry? s := by
  obtain ⟨task, index⟩ := Prod.mk.inj same
  rw [entry_eq, entry_eq, task, index]

theorem keeps_entries_of_amends (amends : s.Amends Resource.SameContainers s') :
    s.KeepsEntries s' := by
  intro c entry found
  rw [Container.entry?, Option.bind_eq_some_iff] at found
  obtain ⟨r, there, listed⟩ := found
  obtain ⟨r', there', same⟩ := amends c.taskDefinitionId r there
  rw [Container.entry?, there', Option.bind_some, same]
  exact listed

/-- At most the entry of the container has changed. -/
def Alone (c : Container) (s s' : Stack) : Prop :=
  ∀ d : Container, d.place ≠ c.place → d.entry? s' = d.entry? s

theorem alone_refl (c : Container) (s : Stack) : c.Alone s s := fun _ _ => rfl

theorem alone_trans (first : c.Alone s s') (second : c.Alone s' s'') : c.Alone s s'' :=
  fun d other => (second d other).trans (first d other)

/-! What is appended in an entry. -/

/-- The list that an entry has under a key; it is empty if there is nothing, and none if there is
something else. -/
def listIn (key : String) (fields : Fields) : Option (List Json) :=
  match Fields.get? key fields with
  | none => some []
  | some value => value.asArr?

theorem items_of_list_in (listed : listIn key fields = some present) :
    (((Json.obj fields).field? key).bind Json.asArr?).getD [] = present := by
  rw [listIn] at listed
  rw [Json.field?]
  cases found : Fields.get? key fields with
  | none =>
    rw [found] at listed
    exact Option.some.inj listed
  | some value =>
    rw [found] at listed
    dsimp only at listed
    rw [Option.bind_some, listed]
    rfl

theorem append_in_of_list (listed : listIn key fields = some present) (items : List Json) :
    appendIn key items fields = Fields.insert key (.arr (present ++ items)) fields := by
  unfold listIn at listed
  unfold appendIn
  cases found : Fields.get? key fields with
  | none =>
    rw [found] at listed
    cases listed
    rfl
  | some value =>
    rw [found] at listed
    cases value with
    | arr old =>
      cases listed
      rfl
    | _ => cases listed

theorem list_in_append (listed : listIn key fields = some present) (items : List Json) :
    listIn key (appendIn key items fields) = some (present ++ items) := by
  rw [append_in_of_list listed, listIn, Fields.get?_insert, if_pos rfl]
  rfl

theorem list_in_append_other (other : key ≠ k) :
    listIn k (appendIn key items fields) = listIn k fields := by
  rw [listIn, get?_append_in other, listIn]

/-- The stack with another entry for the container. -/
def withEntry (c : Container) (entry : Json) (s : Stack) : Stack :=
  s.modify c.taskDefinitionId fun r =>
    r.withProperty listKey (.arr ((listed r).set c.index entry))

theorem list_at_with_entry (c : Container) (entry : Json) (s : Stack) (id : String) :
    (c.withEntry entry s).listAt id listKey =
      if id = c.taskDefinitionId then (s.listAt id listKey).set c.index entry
      else s.listAt id listKey := by
  rw [withEntry, Stack.listAt, Stack.resource_modify, Stack.listAt]
  cases s.resource? id with
  | none => simp
  | some r =>
    by_cases here : id = c.taskDefinitionId
    · simp only [if_pos here, Option.map_some, Option.elim_some]
      exact r.list_at_with_list listKey _
    · simp only [if_neg here, Option.map_some, Option.elim_some]

theorem entry_with_entry {old : Json} (found : c.entry? s = some old) (entry : Json) :
    c.entry? (c.withEntry entry s) = some entry := by
  rw [entry_eq] at found
  obtain ⟨inside, -⟩ := List.getElem?_eq_some_iff.mp found
  rw [entry_eq, list_at_with_entry, if_pos rfl, List.getElem?_set_self inside]

theorem alone_with_entry (c : Container) (entry : Json) (s : Stack) :
    c.Alone s (c.withEntry entry s) := by
  intro d other
  rw [entry_eq, entry_eq, list_at_with_entry]
  by_cases here : d.taskDefinitionId = c.taskDefinitionId
  · have apart : c.index ≠ d.index := by
      intro same
      exact other (Prod.ext here same.symm)
    rw [if_pos here, List.getElem?_set_ne apart]
  · rw [if_neg here]

theorem run_edit_found (found : c.entry? s = some (.obj fields)) (f : Fields → Fields) :
    s.run (c.editEntry f) = (.ok (), c.withEntry (.obj (f fields)) s) := by
  rw [Container.entry?, Option.bind_eq_some_iff] at found
  obtain ⟨r, there, listed⟩ := found
  rw [editEntry, Stack.run_bind, Stack.run_get]
  simp only [there, listed]
  rw [Stack.run_edit, if_pos (Stack.contains_of_resource there)]
  rfl

/-- Values are appended to a list in the entry of the container, and nothing else changes: no other
field of the entry, no other entry, and nothing else of the stack. -/
structure Appends (c : Container) (key : String) (items : List Json) (s s' : Stack) : Prop where
  entry : ∃ fields present, c.entry? s = some (.obj fields) ∧ listIn key fields = some present ∧
    c.entry? s' = some (.obj (Fields.insert key (.arr (present ++ items)) fields))
  others : c.Alone s s'
  rest : ∃ entry, s' = c.withEntry entry s

theorem run_append (found : c.entry? s = some (.obj fields))
    (listed : listIn key fields = some present) (items : List Json) :
    ∃ s', s.run (c.editEntry (appendIn key items)) = (.ok (), s') ∧ c.Appends key items s s' ∧
      c.entry? s' = some (.obj (appendIn key items fields)) := by
  have now := entry_with_entry found (.obj (appendIn key items fields))
  refine ⟨_, run_edit_found found _, ⟨?_, c.alone_with_entry _ s, _, rfl⟩, now⟩
  rw [append_in_of_list listed] at now ⊢
  exact ⟨fields, present, found, listed, now⟩

end Container

/-! What a container is known by, and what its entry tells. -/

/-- A container that was added, with all that was asked for it since. -/
structure Added where
  handle : Container
  environment : List (String × Value) := []
  ports : List PortMapping := []

namespace Added

variable {a : Added} {c : Container} {s s' : Stack} {name : String} {value : Value}

def variableJson (entry : String × Value) : Json :=
  .obj [("Name", .str entry.1), ("Value", entry.2.toJson)]

/-- The names of the variables. -/
def names (a : Added) : List String := a.environment.map (·.1)

/-- The fields say what was asked for, and no more than that in the two lists. -/
structure Tells (a : Added) (fields : Fields) : Prop where
  name : Fields.get? "Name" fields = some (.str a.handle.name)
  environment : Container.listIn "Environment" fields = some (a.environment.map variableJson)
  ports : Container.listIn "PortMappings" fields = some (a.ports.map PortMapping.toJson)

/-- The handle leads to an entry that tells what was asked for; each variable has a name of its
own. -/
structure Attached (a : Added) (s : Stack) : Prop where
  entry : ∃ fields, a.handle.entry? s = some (.obj fields) ∧ a.Tells fields
  distinct : a.names.Nodup
  named : "" ∉ a.names

theorem Attached.of_entry (attached : a.Attached s)
    (same : a.handle.entry? s' = a.handle.entry? s) : a.Attached s' := by
  refine ⟨?_, attached.distinct, attached.named⟩
  rw [same]
  exact attached.entry

theorem Attached.kept (attached : a.Attached s) (keeps : s.KeepsEntries s') : a.Attached s' := by
  obtain ⟨fields, found, tells⟩ := attached.entry
  exact ⟨⟨fields, keeps a.handle _ found, tells⟩, attached.distinct, attached.named⟩

/-- What is set is what was asked for. -/
theorem Attached.environment_names (attached : a.Attached s) :
    a.handle.environmentNames s = a.names := by
  obtain ⟨fields, found, tells⟩ := attached.entry
  rw [Container.environmentNames, found, Option.bind_some,
    Container.items_of_list_in tells.environment, List.filterMap_map, names,
    ← List.filterMap_eq_map]
  rfl

/-- What may come of setting a variable. -/
inductive Setting (a : Added) (name : String) (value : Value) (s : Stack) :
    Outcome Unit × Stack → Prop
  | unnamed (empty : name = "") : Setting a name value s
      (.error (.invalidProps a.handle.name "environment variable name is empty"), s)
  | known (member : name ∈ a.names) : Setting a name value s
      (.error (.invalidProps a.handle.name s!"environment variable '{name}' is already set"), s)
  | set {s' : Stack} (nonempty : name ≠ "") (new : name ∉ a.names)
      (appends : a.handle.Appends "Environment" [variableJson (name, value)] s s')
      (attached : { a with environment := a.environment ++ [(name, value)] }.Attached s') :
      Setting a name value s (.ok (), s')

theorem Attached.setting (attached : a.Attached s) (name : String) (value : Value) :
    a.Setting name value s (s.run (a.handle.addEnvironment name value)) := by
  unfold Container.addEnvironment
  by_cases empty : name = ""
  · rw [if_pos (by rw [empty]; rfl)]
    exact .unnamed empty
  rw [if_neg (by rwa [String.isEmpty_iff]), Stack.run_bind, Stack.run_get]
  dsimp only
  rw [attached.environment_names]
  by_cases member : name ∈ a.names
  · rw [if_pos (List.contains_iff_mem.mpr member)]
    exact .known member
  rw [if_neg (by rwa [List.contains_iff_mem])]
  obtain ⟨fields, found, tells⟩ := attached.entry
  obtain ⟨s', ran, appends, now⟩ := Container.run_append found tells.environment
    [variableJson (name, value)]
  have tells' : Tells { a with environment := a.environment ++ [(name, value)] }
      (Container.appendIn "Environment" [variableJson (name, value)] fields) := by
    constructor
    · rw [Container.get?_append_in (by decide)]
      exact tells.name
    · rw [Container.list_in_append tells.environment, List.map_append]
      rfl
    · rw [Container.list_in_append_other (by decide)]
      exact tells.ports
  change a.Setting name value s (s.run (a.handle.editEntry
    (Container.appendIn "Environment" [variableJson (name, value)])))
  rw [ran]
  refine .set empty member appends ⟨⟨_, now, tells'⟩, ?_, ?_⟩
  · rw [names, List.map_append]
    exact Stack.nodup_append_new attached.distinct member
  · rw [names, List.map_append]
    exact fun last => (List.mem_append.mp last).elim attached.named fun same =>
      empty (List.mem_singleton.mp same).symm

theorem Attached.open_ports (attached : a.Attached s) (ports : List PortMapping) :
    ∃ s', s.run (a.handle.addPorts ports) = (.ok (), s') ∧
      a.handle.Appends "PortMappings" (ports.map PortMapping.toJson) s s' ∧
      { a with ports := a.ports ++ ports }.Attached s' := by
  obtain ⟨fields, found, tells⟩ := attached.entry
  obtain ⟨s', ran, appends, now⟩ := Container.run_append found tells.ports
    (ports.map PortMapping.toJson)
  have tells' : Tells { a with ports := a.ports ++ ports }
      (Container.appendIn "PortMappings" (ports.map PortMapping.toJson) fields) := by
    constructor
    · rw [Container.get?_append_in (by decide)]
      exact tells.name
    · rw [Container.list_in_append_other (by decide)]
      exact tells.environment
    · rw [Container.list_in_append tells.ports, List.map_append]
  exact ⟨s', ran, appends, ⟨_, now, tells'⟩, attached.distinct, attached.named⟩

/-! Adding a container. -/

theorem Setting.alone {result : Outcome Unit × Stack} (setting : a.Setting name value s result) :
    a.handle.Alone s result.2 := by
  cases setting with
  | unnamed _ => exact Container.alone_refl _ s
  | known _ => exact Container.alone_refl _ s
  | set _ _ appends _ => exact appends.others

/-- What comes of giving a container something: no other entry has changed, and if nothing was
refused the entry tells all of it. -/
structure Given (a : Added) (s : Stack) (result : Outcome Unit × Stack) : Prop where
  alone : a.handle.Alone s result.2
  attached : result.1 = .ok () → a.Attached result.2

theorem Given.after {result : Outcome Unit × Stack} (given : a.Given s' result)
    (alone : a.handle.Alone s s') : a.Given s result :=
  ⟨Container.alone_trans alone given.alone, given.attached⟩

/-- Variables are set one after the other, up to the first that is refused. -/
theorem Attached.set_all (attached : a.Attached s) (entries : List (String × Value)) :
    Given { a with environment := a.environment ++ entries } s
      (s.run (entries.forM fun entry => a.handle.addEnvironment entry.1 entry.2)) := by
  induction entries generalizing a s with
  | nil =>
    rw [List.append_nil]
    exact ⟨Container.alone_refl _ s, fun _ => attached⟩
  | cons entry rest ih =>
    have setting := attached.setting entry.1 entry.2
    have alone := setting.alone
    change Given _ s (s.run (a.handle.addEnvironment entry.1 entry.2 >>= fun _ =>
      rest.forM fun entry => a.handle.addEnvironment entry.1 entry.2))
    rw [Stack.run_bind]
    generalize s.run (a.handle.addEnvironment entry.1 entry.2) = result at setting alone
    cases setting with
    | unnamed _ => exact ⟨alone, fun done => nomatch done⟩
    | known _ => exact ⟨alone, fun done => nomatch done⟩
    | set _ _ _ attached' =>
      have later := ih attached'
      rw [List.append_assoc] at later
      exact later.after alone

/-- What a container has from the start is given to its entry alone. -/
theorem Attached.furnish (attached : Attached ⟨c, [], []⟩ s) (settings : ContainerSettings) :
    Given ⟨c, settings.environment.entries, settings.ports⟩ s
      (s.run (TaskDefinition.furnish c settings)) := by
  unfold TaskDefinition.furnish
  cases none : settings.ports.isEmpty with
  | true =>
    rw [List.isEmpty_iff.mp none]
    exact attached.set_all settings.environment.entries
  | false =>
    obtain ⟨s₁, ran, appends, attached'⟩ := attached.open_ports settings.ports
    rw [if_pos (by rfl), Stack.run_bind, ran]
    exact (attached'.set_all settings.environment.entries).after appends.others

end Added

namespace TaskDefinition

variable {t t' : TaskDefinition} {id : String} {settings : ContainerSettings} {s s' : Stack}
  {logging : Fields} {entry : Json}

theorem index_next (t : TaskDefinition) (id : String) (s : Stack) :
    (t.nextContainer id s).index = (s.listAt t.logicalId Container.listKey).length := by
  rw [nextContainer, Stack.listAt]
  cases s.resource? t.logicalId <;> rfl

/-- The place of the next container is still free. -/
theorem entry_next (t : TaskDefinition) (id : String) (s : Stack) :
    Container.entry? (t.nextContainer id s) s = none := by
  rw [Container.entry_eq, index_next]
  exact List.getElem?_eq_none (Nat.le_refl _)

/-- A new entry comes after all others, in the place of the next container. -/
theorem push_entry (there : s.contains t.logicalId = true) (id : String) (entry : Json) :
    let s' := s.modify t.logicalId (·.pushProperty Container.listKey entry)
    s.KeepsEntries s' ∧ Container.entry? (t.nextContainer id s) s' = some entry := by
  intro s'
  constructor
  · intro c old found
    rw [Container.entry_eq] at found ⊢
    obtain ⟨inside, -⟩ := List.getElem?_eq_some_iff.mp found
    rw [Stack.list_at_push there, List.getElem?_append_left inside]
    exact found
  · have place : (t.nextContainer id s).taskDefinitionId = t.logicalId := rfl
    rw [Container.entry_eq, index_next, place, Stack.list_at_push there, if_pos ⟨rfl, rfl⟩,
      List.getElem?_concat_length]

theorem tells_entry_for {c : Container} (name : c.name = id)
    (plain : ∀ entry ∈ logging, entry.1 = "LogConfiguration") :
    Added.Tells ⟨c, [], []⟩ (entryFor id settings logging) := by
  constructor
  · rw [get?_entry_for plain (by decide), if_pos rfl, name]
  · rw [Container.listIn, get?_entry_for plain (by decide)]
    rfl
  · rw [Container.listIn, get?_entry_for plain (by decide)]
    rfl

/-- What comes of adding a container: the entries that were there have not changed, and if it
succeeds the container has got an entry of its own, with all that it has from the start. -/
structure Adds (t : TaskDefinition) (id : String) (settings : ContainerSettings) (s : Stack)
    (result : Outcome (TaskDefinition × Container) × Stack) : Prop where
  keeps : s.KeepsEntries result.2
  definition : ∀ t' c, result.1 = .ok (t', c) → t' = t.grown settings c ∧ c.name = id ∧
    c.taskDefinitionId = t.logicalId
  new : ∀ t' c, result.1 = .ok (t', c) → c.entry? s = none ∧
    Added.Attached ⟨c, settings.environment.entries, settings.ports⟩ result.2

theorem adds_nothing {failure : Failure} (keeps : s.KeepsEntries s') :
    t.Adds id settings s (.error failure, s') :=
  ⟨keeps, (fun _ _ done => nomatch done), (fun _ _ done => nomatch done)⟩

theorem Adds.after {result : Outcome (TaskDefinition × Container) × Stack}
    (adds : t.Adds id settings s' result) (keeps : s.KeepsEntries s') :
    t.Adds id settings s result := by
  refine ⟨Stack.keeps_entries_trans keeps adds.keeps, adds.definition, ?_⟩
  intro t' c done
  obtain ⟨free, attached⟩ := adds.new t' c done
  refine ⟨?_, attached⟩
  cases found : c.entry? s with
  | none => rfl
  | some entry =>
    have still := keeps c entry found
    rw [free] at still
    cases still

theorem enter_adds (plain : ∀ entry ∈ logging, entry.1 = "LogConfiguration") (s : Stack) :
    t.Adds id settings s (s.run (t.enter id settings logging)) := by
  rw [enter, Stack.run_bind, Stack.run_get]
  dsimp only
  rw [Stack.run_bind, Stack.pushProperty, Stack.run_edit]
  cases there : s.contains t.logicalId with
  | false => exact adds_nothing (Stack.keeps_entries_refl s)
  | true =>
    rw [if_pos rfl]
    dsimp only
    obtain ⟨keeps, entered⟩ :=
      push_entry there id (.obj (entryFor id settings logging))
    have attached : Added.Attached ⟨t.nextContainer id s, [], []⟩ (s.modify t.logicalId
        (·.pushProperty Container.listKey (.obj (entryFor id settings logging)))) :=
      ⟨⟨_, entered, tells_entry_for rfl plain⟩, List.nodup_nil, List.not_mem_nil⟩
    have given := attached.furnish settings
    -- whatever is furnished, the place was free, so no entry that was there is at it
    have kept (s' : Stack) (alone : (t.nextContainer id s).Alone (s.modify t.logicalId
        (·.pushProperty Container.listKey (.obj (entryFor id settings logging)))) s') :
        s.KeepsEntries s' := by
      intro c entry found
      have other : c.place ≠ (t.nextContainer id s).place := by
        intro same
        rw [Container.entry_of_place same, entry_next] at found
        cases found
      rw [alone c other]
      exact keeps c entry found
    rw [Stack.run_bind]
    generalize Stack.run _ (furnish (t.nextContainer id s) settings) = result at given
    rcases result with ⟨failure | done, s'⟩
    · exact adds_nothing (kept s' given.alone)
    · refine ⟨kept s' given.alone, ?_, ?_⟩
      · rintro t' c done
        cases done
        exact ⟨rfl, rfl, rfl⟩
      · rintro t' c done
        cases done
        exact ⟨t.entry_next id s, given.attached rfl⟩

theorem add_container_adds (t : TaskDefinition) (id : String) (settings : ContainerSettings)
    (s : Stack) : t.Adds id settings s (s.run (t.addContainer id settings)) := by
  by_cases known : ∃ c ∈ t.essentials, c.name = id
  · obtain ⟨c, member, rfl⟩ := known
    rw [run_add_container_known member]
    exact adds_nothing (Stack.keeps_entries_refl s)
  · have new : ∀ c ∈ t.essentials, c.name ≠ id := fun c member same => known ⟨c, member, same⟩
    have keeps := Container.keeps_entries_of_amends
      (amends_containers (t.prepare_keeps_containers id settings) s)
    rw [add_container_eq new, Stack.run_bind]
    rcases outcome : s.run (t.prepare id settings) with ⟨failure | logging, s'⟩
    · rw [outcome] at keeps
      exact adds_nothing keeps
    · rw [outcome] at keeps
      exact (enter_adds (prepare_gives outcome) s').after keeps

end TaskDefinition

end StackSynth
