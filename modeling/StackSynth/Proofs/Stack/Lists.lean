import StackSynth.Proofs.Stack.Built

/-!
Lists among the properties of resources. What is pushed to a list comes after all that it has.
-/
namespace StackSynth

namespace Resource

variable {r : Resource} {key k : String} {value : Json} {items : List Json}

/-- The list that a resource has under a key; whatever is no list counts as an empty one. -/
def listAt (r : Resource) (key : String) : List Json :=
  ((r.property? key).bind Json.asArr?).getD []

theorem list_at_of_property (found : r.property? key = some (.arr items)) :
    r.listAt key = items := by
  rw [listAt, found]
  rfl

theorem property_of_list_at (listed : r.listAt key ≠ []) :
    r.property? key = some (.arr (r.listAt key)) := by
  cases found : r.property? key with
  | none => exact absurd (by rw [listAt, found]; rfl) listed
  | some value =>
    cases value with
    | arr items => rw [list_at_of_property found]
    | _ => exact absurd (by rw [listAt, found]; rfl) listed

theorem list_at_with_list (r : Resource) (key : String) (items : List Json) :
    (r.withProperty key (.arr items)).listAt key = items :=
  list_at_of_property (by rw [property_with_property, if_pos rfl])

theorem list_at_with_property (other : key ≠ k) (value : Json) :
    (r.withProperty key value).listAt k = r.listAt k := by
  rw [listAt, property_with_property, if_neg other, listAt]

theorem list_at_push (r : Resource) (key k : String) (value : Json) :
    (r.pushProperty key value).listAt k = r.listAt k ++ if key = k then [value] else [] := by
  by_cases here : key = k
  · subst here
    rw [if_pos rfl, pushProperty]
    split
    · next items found => rw [list_at_with_list, list_at_of_property found]
    · next other =>
      have empty : r.listAt key = [] := by
        by_contra listed
        exact other _ (property_of_list_at listed)
      rw [list_at_with_list, empty]
      rfl
  · obtain ⟨items, same, _⟩ := r.push_property_eq key value
    rw [if_neg here, List.append_nil, same, list_at_with_property here]

end Resource

namespace Stack

variable {s : Stack} {id k key : String} {r : Resource}

/-- The list that the resource of an id has under a key, if it is there. -/
def listAt (s : Stack) (id key : String) : List Json := (s.resource? id).elim [] (·.listAt key)

theorem list_at_of_resource (there : s.resource? id = some r) (key : String) :
    s.listAt id key = r.listAt key := by
  rw [listAt, there]
  rfl

theorem resource_of_list_at (listed : s.listAt id key ≠ []) :
    ∃ r, s.resource? id = some r ∧ r.property? key = some (.arr (s.listAt id key)) := by
  cases there : s.resource? id with
  | none => exact absurd (by rw [listAt, there]; rfl) listed
  | some r =>
    rw [list_at_of_resource there] at listed ⊢
    exact ⟨r, rfl, Resource.property_of_list_at listed⟩

/-- A new resource without a list leaves all lists as they are. -/
theorem list_at_insert (free : s.contains id = false) (path : List String)
    (empty : r.listAt key = []) : (s.insert id path r).listAt k key = s.listAt k key := by
  by_cases here : id = k
  · subst here
    rw [listAt, resource_insert, if_pos rfl, listAt, resource_none_iff.mpr free]
    exact empty
  · rw [listAt, resource_insert, if_neg here, listAt]

theorem list_at_push (there : s.contains id = true) (key : String) (value : Json)
    (k key' : String) : (s.modify id (·.pushProperty key value)).listAt k key' =
      s.listAt k key' ++ if id = k ∧ key = key' then [value] else [] := by
  rw [listAt, resource_modify, listAt]
  by_cases here : id = k
  · subst here
    cases found : s.resource? id with
    | none =>
      rw [resource_none_iff.mp found] at there
      cases there
    | some r => simp [Resource.list_at_push]
  · cases s.resource? k <;> simp [here, Ne.symm here]

end Stack

end StackSynth
