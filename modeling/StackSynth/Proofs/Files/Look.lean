import StackSynth.Files.Change

/-!
What stands at the places of a file tree, and that a change at one place leaves the others alone.
-/
namespace StackSynth

/-- What stands at a place. A directory shows without what is in it. -/
inductive Sight
  | directory
  | file (content : Bytes)
  | link (target : String)
  deriving DecidableEq, Repr

namespace Entry

def sight : Entry → Sight
  | dir _ => .directory
  | file content => .file content
  | link target => .link target

def look (e : Entry) (place : List String) : Option Sight := (e.at? place).map sight

/-- An entry with nothing below it, or none. -/
def Bare (e : Option Entry) : Prop := ∀ name, e.bind (child? name) = none

theorem at_cons (e : Entry) (name : String) (rest : List String) :
    e.at? (name :: rest) = (e.child? name).bind (at? rest) := rfl

theorem at_append (e : Entry) (front back : List String) :
    e.at? (front ++ back) = (e.at? front).bind (at? back) := by
  induction front generalizing e with
  | nil => rfl
  | cons name rest ih =>
    rw [List.cons_append, at_cons, at_cons, Option.bind_assoc]
    cases e.child? name with
    | none => rfl
    | some inner => exact ih inner

theorem at_below {e : Entry} {directory : List String} {entries : List (String × Entry)}
    (above : e.at? directory = some (.dir entries)) (name : String) :
    e.at? (directory ++ [name]) = (dir entries).child? name := by
  rw [at_append, above, Option.bind_some, at_cons]
  cases (dir entries).child? name <;> rfl

theorem look_directory_iff {e : Entry} {place : List String} :
    e.look place = some .directory ↔ ∃ entries, e.at? place = some (.dir entries) := by
  rw [look]
  cases e.at? place with
  | none => simp
  | some found => cases found <;> simp [sight]

theorem place_injective {directory : List String} {name other : String}
    (same : directory ++ [name] = directory ++ [other]) : name = other :=
  List.singleton_inj.mp (List.append_cancel_left same)

theorem bare_of_look {e : Entry} {place : List String} (plain : e.look place ≠ some .directory) :
    Bare (e.at? place) := by
  intro name
  rw [look] at plain
  cases stands : e.at? place with
  | none => rfl
  | some found =>
    cases found with
    | dir entries => exact absurd (by rw [stands]; rfl) plain
    | file content => rfl
    | link target => rfl

theorem bare_below {e : Option Entry} (bare : Bare e) (name : String) (rest : List String) :
    e.bind (at? (name :: rest)) = none := by
  cases e with
  | none => rfl
  | some e =>
    have none : e.child? name = none := bare name
    rw [Option.bind_some, at_cons, none, Option.bind_none]

theorem child_set_child (name other : String) (value : Option Entry)
    (entries : List (String × Entry)) :
    (dir (setChild name value entries)).child? other =
      if other = name then value else (dir entries).child? other := by
  simp only [child?]
  cases value with
  | none =>
    rw [setChild, List.find?_filter]
    by_cases same : other = name
    · rw [if_pos same, List.find?_eq_none.mpr (by simp [same]), Option.map_none]
    · rw [if_neg same]
      congr 2
      funext entry
      by_cases found : entry.1 = other
      · simp [found, same]
      · simp [found]
  | some e =>
    simp only [setChild]
    split
    · next taken =>
      rw [List.find?_map, Option.map_map]
      have finds : ((·.1 == other) ∘ fun entry : String × Entry =>
          if entry.1 == name then (name, e) else entry) = (·.1 == other) := by
        funext entry
        by_cases found : entry.1 = name <;> simp [found]
      rw [finds]
      by_cases same : other = name
      · obtain ⟨entry, member, called⟩ := List.any_eq_true.mp taken
        rw [if_pos same, same]
        cases found : entries.find? (·.1 == name) with
        | none => exact absurd called (List.find?_eq_none.mp found entry member)
        | some first =>
          have called := List.find?_some found
          simp only [Option.map_some, Function.comp_apply, called, if_true]
      · rw [if_neg same]
        cases found : entries.find? (·.1 == other) with
        | none => rfl
        | some first =>
          have called : first.1 = other := by simpa using List.find?_some found
          simp [called, same]
    · next free =>
      rw [List.find?_append]
      by_cases same : other = name
      · subst same
        have none : entries.find? (·.1 == other) = none := by
          rw [List.find?_eq_none]
          exact fun entry member called => free (List.any_eq_true.mpr ⟨entry, member, called⟩)
        simp [none]
      · have apart : (name == other) = false := beq_false_of_ne (Ne.symm same)
        simp [apart, same]

theorem update_cons {value : Option Entry} {name : String} {rest : List String}
    (more : rest ≠ []) (entries : List (String × Entry)) :
    update value (name :: rest) (dir entries) =
      match (dir entries).child? name with
      | some inner => dir (setChild name (some (update value rest inner)) entries)
      | none => dir entries := by
  cases rest with
  | nil => exact absurd rfl more
  | cons second rest => rfl

/-- A change at one place shows at that place only, if nothing was below it before and nothing is
below it after. By induction on the names that lead to the directory. -/
theorem look_update {e : Entry} {value : Option Entry} {directory : List String} {name : String}
    {entries : List (String × Entry)} (above : e.at? directory = some (.dir entries))
    (old : Bare ((dir entries).child? name)) (new : Bare value) (place : List String) :
    (update value (directory ++ [name]) e).look place =
      if place = directory ++ [name] then value.map sight else e.look place := by
  induction directory generalizing e place with
  | nil =>
    cases above
    rw [List.nil_append, update]
    cases place with
    | nil => rfl
    | cons first below =>
      rw [look, look, at_cons, at_cons, child_set_child]
      by_cases same : first = name
      · subst same
        cases below with
        | nil => cases value <;> simp [at?]
        | cons second below =>
          rw [if_pos rfl, bare_below new, bare_below old, if_neg (by simp)]
      · rw [if_neg same, if_neg (by simp [same])]
  | cons outer directory ih =>
    cases e with
    | file content => simp [at_cons, child?] at above
    | link target => simp [at_cons, child?] at above
    | dir outside =>
      obtain ⟨inner, found, above⟩ := Option.bind_eq_some_iff.mp above
      rw [List.cons_append, update_cons (by simp), found]
      cases place with
      | nil => rfl
      | cons first below =>
        have inside := ih above below
        rw [look] at inside
        rw [look, look, at_cons, at_cons, child_set_child]
        by_cases same : first = outer
        · rw [if_pos same, Option.bind_some, inside, same, found, Option.bind_some, look]
          simp
        · rw [if_neg same, if_neg (by simp [same])]

end Entry

namespace FileTree

def look (t : FileTree) (place : List String) : Option Sight := t.top.look place

theorem look_set {t : FileTree} {directory : List String} {name : String} {value : Option Entry}
    (above : t.look directory = some .directory)
    (old : t.look (directory ++ [name]) ≠ some .directory) (new : Entry.Bare value)
    (place : List String) :
    (t.set (directory ++ [name]) value).look place =
      if place = directory ++ [name] then value.map Entry.sight else t.look place := by
  obtain ⟨entries, stands⟩ := Entry.look_directory_iff.mp above
  have plain := Entry.bare_of_look old
  rw [Entry.at_below stands] at plain
  exact Entry.look_update stands plain new place

end FileTree

end StackSynth
