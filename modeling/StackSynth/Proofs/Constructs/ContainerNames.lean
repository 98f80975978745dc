import StackSynth.Proofs.Constructs.ContainerLists
import StackSynth.Proofs.Stack.Reached

/-!
The names under which a task definition lists its containers. Only essential containers are kept
with the definition, and a name is refused once one of those has it. So a name can be listed again
after a container that is not essential, and after one that was listed before adding it failed.
-/
namespace StackSynth

/-- The names of the containers that a task definition lists. -/
def Container.names (r : Resource) : List (Option Json) := (listed r).map (·.field? "Name")

/-- The containers are listed under the same names. -/
def Resource.SameNames (r r' : Resource) : Prop := Container.names r' = Container.names r

namespace Container

variable {r : Resource} {key : String}

theorem names_with_list (items : List Json) :
    names (r.withProperty listKey (.arr items)) = items.map (·.field? "Name") :=
  congrArg (List.map _) (r.list_at_with_list listKey items)

theorem names_push (r : Resource) (entry : Json) :
    names (r.pushProperty listKey entry) = names r ++ [entry.field? "Name"] := by
  have listed := r.list_at_push listKey listKey entry
  rw [if_pos rfl] at listed
  exact (congrArg (List.map _) listed).trans List.map_append

/-- An entry keeps its name while something is appended to another list in it. -/
theorem names_append {index : Nat} {fields : Fields}
    (found : (listed r)[index]? = some (.obj fields)) (other : key ≠ "Name") (items : List Json) :
    r.SameNames (r.withProperty listKey
      (.arr ((listed r).set index (.obj (appendIn key items fields))))) := by
  obtain ⟨inside, same⟩ := List.getElem?_eq_some_iff.mp found
  have inside' : index < (names r).length := by rwa [names, List.length_map]
  have name : (Json.obj (appendIn key items fields)).field? "Name" = (names r)[index] := by
    simp only [names, List.getElem_map, same]
    exact get?_append_in other
  rw [Resource.SameNames, names_with_list, List.map_set, name]
  exact List.set_getElem_self inside'

end Container

/-! What is done for a container besides its entry. -/

section Keeping

variable {α : Type}

/-- The names stay as they are in all lists of containers. -/
abbrev KeepsNames (m : Declaring α) : Prop := DoneBy (Deed.Amends Resource.SameNames) m

theorem keeps_names_of_containers {m : Declaring α} (keeps : KeepsContainers m) : KeepsNames m :=
  made_of_imp keeps fun _ amends => amends.imp fun _ _ same => congrArg (List.map _) same

theorem keeps_names_append {c : Container} {key : String} {items : List Json}
    (other : key ≠ "Name") : KeepsNames (c.editEntry (Container.appendIn key items)) := by
  apply done_by_append
  intro r fields found
  exact Container.names_append found other items

theorem Container.add_environment_keeps_names (c : Container) (name : String) (value : Value) :
    KeepsNames (c.addEnvironment name value) := by
  unfold addEnvironment
  apply made_of_unless
  apply made_of_bind made_of_get
  intro s
  apply made_of_unless
  exact keeps_names_append (by decide)

theorem TaskDefinition.furnish_keeps_names (c : Container) (settings : ContainerSettings) :
    KeepsNames (furnish c settings) := by
  have variables_keep : KeepsNames (settings.environment.entries.forM fun entry =>
      c.addEnvironment entry.1 entry.2) :=
    made_of_forM fun entry => c.add_environment_keeps_names entry.1 entry.2
  unfold furnish
  exact made_of_when (keeps_names_append (by decide)) variables_keep

/-- Whenever the action succeeds, it gives this result. -/
def Gives (result : α) (m : Declaring α) : Prop :=
  ∀ (s s' : Stack) (a : α), s.run m = (.ok a, s') → a = result

theorem gives_pure {result : α} : Gives result (pure result) := by
  intro s s' a given
  cases given
  rfl

theorem gives_bind {β : Type} {first : Declaring β} {rest : β → Declaring α} {result : α}
    (gives : ∀ b, Gives result (rest b)) : Gives result (first >>= rest) := by
  intro s s' a given
  obtain ⟨b, s₁, _, given⟩ := run_bind_ok given
  exact gives b s₁ s' a given

end Keeping

namespace TaskDefinition

variable {t : TaskDefinition} {s : Stack} {id : String} {settings : ContainerSettings}

/-- The definition is there, and lists its containers under these names. -/
def Lists (t : TaskDefinition) (s : Stack) (names : List (Option Json)) : Prop :=
  ∃ r, s.resource? t.logicalId = some r ∧ Container.names r = names

theorem Lists.after {α : Type} {m : Declaring α} {names : List (Option Json)}
    (lists : t.Lists s names) (keeps : KeepsNames m) : t.Lists (s.run m).2 names := by
  have amends := amends_done (P := Resource.SameNames) (fun _ => rfl)
    (fun _ _ _ first second => second.trans first) keeps (fun _ amends => amends) s
  obtain ⟨r, there, same⟩ := lists
  obtain ⟨r', there', kept⟩ := amends t.logicalId r there
  exact ⟨r', there', kept.trans same⟩

theorem lists_grown {c : Container} {names : List (Option Json)} :
    (t.grown settings c).Lists s names ↔ t.Lists s names := by
  rw [Lists, Lists, id_grown]

/-- What may come of adding a container to a list with these names. -/
inductive Adding (t : TaskDefinition) (names : List (Option Json)) (id : String)
    (settings : ContainerSettings) : Outcome (TaskDefinition × Container) × Stack → Prop
  /-- It fails before there is an entry. -/
  | failed {failure : Failure} {s' : Stack} (lists : t.Lists s' names) :
      Adding t names id settings (.error failure, s')
  /-- It fails after that; the definition does not know the container, but lists it. -/
  | abandoned {failure : Failure} {s' : Stack} (new : ∀ c ∈ t.essentials, c.name ≠ id)
      (lists : t.Lists s' (names ++ [some (.str id)])) :
      Adding t names id settings (.error failure, s')
  | added {c : Container} {s' : Stack} (new : ∀ c ∈ t.essentials, c.name ≠ id)
      (name : c.name = id) (lists : t.Lists s' (names ++ [some (.str id)])) :
      Adding t names id settings (.ok (t.grown settings c, c), s')

/-- From the entry on, a failure leaves it behind. -/
theorem adding_entry {entry : Json} {rest : PUnit → Declaring (TaskDefinition × Container)}
    {names : List (Option Json)} {c : Container} (lists : t.Lists s names)
    (new : ∀ c ∈ t.essentials, c.name ≠ id) (named : entry.field? "Name" = some (.str id))
    (own : c.name = id) (keeps : KeepsNames (rest ⟨⟩))
    (gives : Gives (t.grown settings c, c) (rest ⟨⟩)) :
    Adding t names id settings
      (s.run (Stack.pushProperty t.logicalId Container.listKey entry >>= rest)) := by
  obtain ⟨r, there, rfl⟩ := lists
  let entered := s.modify t.logicalId (·.pushProperty Container.listKey entry)
  have pushed : s.run (Stack.pushProperty t.logicalId Container.listKey entry) =
      (.ok (), entered) := by
    rw [Stack.pushProperty, Stack.run_edit, if_pos (Stack.contains_of_resource there)]
  have listed : t.Lists entered (Container.names r ++ [some (.str id)]) := by
    refine ⟨r.pushProperty Container.listKey entry, ?_, ?_⟩
    · rw [Stack.resource_modify, there, Option.map_some, if_pos rfl]
    · rw [Container.names_push, named]
  have after := listed.after keeps
  rw [Stack.run_bind, pushed]
  dsimp only
  rcases outcome : entered.run (rest ⟨⟩) with ⟨failure | result, s'⟩
  · rw [outcome] at after
    exact .abandoned new after
  · rw [outcome] at after
    rw [gives entered s' result outcome]
    exact .added new own after

/-- The names are those before the entry is added until it is, and then they stay with it. -/
theorem run_add_container_cases {names : List (Option Json)} (lists : t.Lists s names)
    (id : String) (settings : ContainerSettings) :
    Adding t names id settings (s.run (t.addContainer id settings)) := by
  by_cases known : t.essentials.any (·.name == id) = true
  · obtain ⟨c, member, same⟩ := List.any_eq_true.mp known
    obtain rfl := beq_iff_eq.mp same
    rw [run_add_container_known member]
    exact .failed lists
  have new : ∀ c ∈ t.essentials, c.name ≠ id := by
    intro c member same
    exact known (List.any_eq_true.mpr ⟨c, member, beq_iff_eq.mpr same⟩)
  rw [add_container_eq new, Stack.run_bind]
  have prepared := lists.after
    (keeps_names_of_containers (t.prepare_keeps_containers id settings))
  rcases outcome : s.run (t.prepare id settings) with ⟨failure | logging, s₁⟩
  · rw [outcome] at prepared
    exact .failed prepared
  · rw [outcome] at prepared
    have named : (Json.obj (entryFor id settings logging)).field? "Name" = some (.str id) :=
      get?_entry_for (prepare_gives outcome) (by decide)
    dsimp only
    rw [enter, Stack.run_bind, Stack.run_get]
    refine adding_entry (c := t.nextContainer id s₁) prepared new named rfl ?_ ?_
    · exact made_of_bind (furnish_keeps_names _ settings) fun _ => made_of_pure
    · exact gives_bind fun _ => gives_pure

/-- A definition starts with no containers. -/
theorem lists_of_declare {s₀ : Stack} {settings : TaskSettings}
    (declared : s₀.run (declare id settings) = (.ok t, s)) :
    t.Lists s [] ∧ t.essentials = [] := by
  obtain ⟨⟨r, there, none⟩, essentials⟩ := declare_gives declared
  exact ⟨⟨r, there, by rw [Container.names, none]; rfl⟩, essentials⟩

end TaskDefinition

/-! Runs of calls that each ask for a container. -/

/-- An entry of the list of containers. -/
structure ListedName where
  name : String
  /-- Whether the definition knows the container as an essential one. -/
  kept : Bool
  deriving DecidableEq

/-- A task definition, its stack, and how the entries of its list have come about. -/
structure Filling where
  task : TaskDefinition
  stack : Stack
  listed : List ListedName := []

namespace Filling

/-- How long the list of containers is on a stack. -/
def size (f : Filling) (s : Stack) : Nat :=
  (s.resource? f.task.logicalId).elim 0 fun r => (Container.listed r).length

/-- The entries, with one more if the list has grown. -/
def noted (f : Filling) (stack : Stack) (entry : ListedName) : List ListedName :=
  if f.size stack = f.size f.stack then f.listed else f.listed ++ [entry]

def add (f : Filling) (call : String × ContainerSettings) : Filling :=
  match f.stack.run (f.task.addContainer call.1 call.2) with
  | (.ok (task, _), stack) => ⟨task, stack, f.noted stack ⟨call.1, call.2.essential⟩⟩
  | (.error _, stack) => ⟨f.task, stack, f.noted stack ⟨call.1, false⟩⟩

def addAll (f : Filling) (calls : List (String × ContainerSettings)) : Filling := calls.foldl add f

/-- The entries are as told, and none of them has the name of an earlier one that is kept. -/
structure Sound (f : Filling) : Prop where
  names : f.task.Lists f.stack (f.listed.map fun entry => some (.str entry.name))
  essentials : f.task.essentials.map (·.name) = (f.listed.filter (·.kept)).map (·.name)
  apart : f.listed.Pairwise fun earlier later => earlier.name = later.name → earlier.kept = false

variable {f : Filling}

theorem size_of_lists {s : Stack} {names : List (Option Json)} (lists : f.task.Lists s names) :
    f.size s = names.length := by
  obtain ⟨r, there, rfl⟩ := lists
  rw [size, there, Container.names, List.length_map]
  rfl

theorem Sound.known_of_kept (sound : f.Sound) {entry : ListedName} (member : entry ∈ f.listed)
    (kept : entry.kept = true) : ∃ c ∈ f.task.essentials, c.name = entry.name := by
  have known : entry.name ∈ f.task.essentials.map (·.name) := by
    rw [sound.essentials]
    exact List.mem_map_of_mem (List.mem_filter.mpr ⟨member, kept⟩)
  exact List.mem_map.mp known

/-- A new entry is apart from those before it if no essential container has its name. -/
theorem Sound.apart_append (sound : f.Sound) {entry : ListedName}
    (new : ∀ c ∈ f.task.essentials, c.name ≠ entry.name) :
    (f.listed ++ [entry]).Pairwise fun earlier later =>
      earlier.name = later.name → earlier.kept = false := by
  rw [List.pairwise_append]
  refine ⟨sound.apart, List.pairwise_singleton _ _, ?_⟩
  intro earlier before later last same
  rw [List.mem_singleton] at last
  subst last
  by_contra kept
  rw [Bool.not_eq_false] at kept
  obtain ⟨c, member, named⟩ := sound.known_of_kept before kept
  exact new c member (named.trans same)

theorem Sound.noted_same (sound : f.Sound) {s : Stack} (entry : ListedName)
    (lists : f.task.Lists s (f.listed.map fun entry => some (.str entry.name))) :
    f.noted s entry = f.listed := by
  rw [noted, if_pos ((size_of_lists lists).trans (size_of_lists sound.names).symm)]

theorem Sound.noted_more (sound : f.Sound) {s : Stack} (entry : ListedName) {last : Option Json}
    (lists : f.task.Lists s ((f.listed.map fun entry => some (.str entry.name)) ++ [last])) :
    f.noted s entry = f.listed ++ [entry] := by
  have before := size_of_lists sound.names
  have after := size_of_lists lists
  rw [List.length_append, List.length_singleton] at after
  rw [noted, if_neg (by omega)]

theorem Sound.add (sound : f.Sound) (call : String × ContainerSettings) : (f.add call).Sound := by
  obtain ⟨id, settings⟩ := call
  have adding := TaskDefinition.run_add_container_cases sound.names id settings
  rw [Filling.add]
  dsimp only
  generalize f.stack.run (f.task.addContainer id settings) = result at adding ⊢
  cases adding with
  | failed lists =>
    dsimp only
    rw [sound.noted_same _ lists]
    exact ⟨lists, sound.essentials, sound.apart⟩
  | abandoned new lists =>
    dsimp only
    rw [sound.noted_more _ lists]
    refine ⟨?_, ?_, sound.apart_append new⟩
    · rwa [List.map_append]
    · rw [List.filter_append]
      simpa using sound.essentials
  | added new name lists =>
    dsimp only
    rw [sound.noted_more _ lists]
    refine ⟨?_, ?_, sound.apart_append new⟩
    · rw [List.map_append]
      exact TaskDefinition.lists_grown.mpr lists
    · rw [TaskDefinition.essentials_grown, List.map_append, List.filter_append, List.map_append,
        sound.essentials]
      cases settings.essential with
      | true => simp [name]
      | false => rfl

/-- By induction on the calls. -/
theorem Sound.add_all (sound : f.Sound) (calls : List (String × ContainerSettings)) :
    (f.addAll calls).Sound := by
  induction calls generalizing f with
  | nil => exact sound
  | cons call rest ih => exact ih (sound.add call)

theorem listed_add (f : Filling) (call : String × ContainerSettings) :
    ∃ more, (f.add call).listed.map (·.name) = f.listed.map (·.name) ++ more ∧
      more.Sublist [call.1] := by
  have noted (stack : Stack) (kept : Bool) : ∃ more,
      (f.noted stack ⟨call.1, kept⟩).map (·.name) = f.listed.map (·.name) ++ more ∧
        more.Sublist [call.1] := by
    rw [Filling.noted]
    split
    · exact ⟨[], (List.append_nil _).symm, List.nil_sublist _⟩
    · exact ⟨[call.1], List.map_append, List.Sublist.refl _⟩
  rw [Filling.add]
  split
  · exact noted _ _
  · exact noted _ _

theorem listed_add_all (f : Filling) (calls : List (String × ContainerSettings)) :
    ∃ more, (f.addAll calls).listed.map (·.name) = f.listed.map (·.name) ++ more ∧
      more.Sublist (calls.map (·.1)) := by
  induction calls generalizing f with
  | nil => exact ⟨[], (List.append_nil _).symm, List.nil_sublist _⟩
  | cons call rest ih =>
    obtain ⟨first, same, asked⟩ := f.listed_add call
    obtain ⟨later, same', asked'⟩ := ih (f.add call)
    refine ⟨first ++ later, ?_, asked.append asked'⟩
    rw [← List.append_assoc, ← same]
    exact same'

theorem Sound.nodup (sound : f.Sound) (kept : ∀ entry ∈ f.listed, entry.kept = true) {r : Resource}
    (there : f.stack.resource? f.task.logicalId = some r) : (Container.names r).Nodup := by
  obtain ⟨r', there', same⟩ := sound.names
  cases there.symm.trans there'
  rw [same, List.Nodup, List.pairwise_map]
  refine sound.apart.imp_of_mem ?_
  intro earlier later before _ apart named
  have dropped := apart (by simpa using named)
  rw [kept earlier before] at dropped
  cases dropped

theorem sound_of_declare {s₀ s : Stack} {id : String} {settings : TaskSettings}
    {task : TaskDefinition}
    (declared : s₀.run (TaskDefinition.declare id settings) = (.ok task, s)) :
    Sound ⟨task, s, []⟩ := by
  obtain ⟨lists, none⟩ := TaskDefinition.lists_of_declare declared
  exact ⟨lists, by rw [none]; rfl, List.Pairwise.nil⟩

/-- However often a task definition is asked for containers, whatever they are and whichever calls
fail: its list has the entries that those calls added, under the names asked for. An entry has the
name of an earlier one only if that is not kept with the definition. Those that are kept are the
essential ones whose call succeeded; where all are, the names are distinct. The name of one that is
kept is refused. -/
theorem container_names_of_calls {s₀ s : Stack} {id : String} {settings : TaskSettings}
    {task : TaskDefinition}
    (declared : s₀.run (TaskDefinition.declare id settings) = (.ok task, s))
    (calls : List (String × ContainerSettings)) :
    let f := (Filling.mk task s []).addAll calls
    f.Sound ∧ (f.listed.map (·.name)).Sublist (calls.map (·.1)) ∧
      ((∀ entry ∈ f.listed, entry.kept = true) →
        ∀ r, f.stack.resource? f.task.logicalId = some r → (Container.names r).Nodup) ∧
      ∀ entry ∈ f.listed, entry.kept = true → ∀ settings,
        f.stack.run (f.task.addContainer entry.name settings) =
          (.error (.invalidProps f.task.logicalId s!"container '{entry.name}' already exists"),
            f.stack) := by
  intro f
  have sound : f.Sound := (sound_of_declare declared).add_all calls
  refine ⟨sound, ?_, fun kept r there => sound.nodup kept there, ?_⟩
  · obtain ⟨more, same, asked⟩ := listed_add_all ⟨task, s, []⟩ calls
    rw [same]
    exact asked
  · intro entry member kept settings
    obtain ⟨c, essential, named⟩ := sound.known_of_kept member kept
    rw [← named]
    exact TaskDefinition.run_add_container_known essential settings f.stack

/-! A task definition on an otherwise empty stack. -/

def soleTask : TaskDefinition × Stack :=
  match blank.run (TaskDefinition.declare "T" {}) with
  | (.ok task, s) => (task, s)
  | (.error _, s) => (default, s)

def ofTask : Filling := ⟨soleTask.1, soleTask.2, []⟩

/-- A web server, which the task does not run without unless that is said. -/
def server (essential : Bool) : String × ContainerSettings :=
  ("web", { image := .registry "nginx", essential })

/-- What the runs below come to, found out by one evaluation for all of them. -/
theorem servers_evaluated :
    (blank.run (TaskDefinition.declare "T" {})).1.toOption.isSome = true ∧
      (ofTask.addAll [server true, server true]).listed = [⟨"web", true⟩] ∧
      (ofTask.addAll [server false, server false]).listed = [⟨"web", false⟩, ⟨"web", false⟩] := by
  decide +kernel

theorem of_task_declared : blank.run (TaskDefinition.declare "T" {}) =
    (.ok ofTask.task, ofTask.stack) := by
  have made := servers_evaluated.1
  unfold ofTask soleTask
  rcases outcome : blank.run (TaskDefinition.declare "T" {}) with ⟨failure | task, s⟩
  · rw [outcome] at made
    cases made
  · rfl

theorem essential_servers_listed_once :
    let f := ofTask.addAll [server true, server true]
    blank.run (TaskDefinition.declare "T" {}) = (.ok ofTask.task, ofTask.stack) ∧
      f.listed = [⟨"web", true⟩] ∧
      (∀ r, f.stack.resource? f.task.logicalId = some r → (Container.names r).Nodup) ∧
      ∀ settings, f.stack.run (f.task.addContainer "web" settings) =
        (.error (.invalidProps f.task.logicalId "container 'web' already exists"), f.stack) := by
  intro f
  have listed : f.listed = [⟨"web", true⟩] := servers_evaluated.2.1
  obtain ⟨-, -, nodup, refused⟩ :=
    container_names_of_calls of_task_declared [server true, server true]
  change (∀ entry ∈ f.listed, entry.kept = true) → _ at nodup
  change ∀ entry ∈ f.listed, entry.kept = true → _ at refused
  rw [listed] at nodup refused
  exact ⟨of_task_declared, listed, nodup (by simp), refused ⟨"web", true⟩ (by simp) rfl⟩

/-- A container that is not essential is listed as often as it is asked for. -/
theorem other_servers_listed_twice :
    let f := ofTask.addAll [server false, server false]
    ∃ r, f.stack.resource? f.task.logicalId = some r ∧
      Container.names r = [some (.str "web"), some (.str "web")] ∧ ¬ (Container.names r).Nodup := by
  intro f
  have listed : f.listed = [⟨"web", false⟩, ⟨"web", false⟩] := servers_evaluated.2.2
  have start : ofTask.Sound := sound_of_declare of_task_declared
  obtain ⟨r, there, names⟩ := (start.add_all [server false, server false]).names
  change Container.names r = f.listed.map _ at names
  rw [listed] at names
  refine ⟨r, there, names, ?_⟩
  rw [names]
  simp

end Filling

end StackSynth
