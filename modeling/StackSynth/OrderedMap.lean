/-!
Finite maps that keep the order in which their keys were first inserted. A repeated key keeps its
place and takes the new value, so the list of keys never repeats one.
-/
namespace StackSynth

structure OrderedMap (α : Type) where
  entries : List (String × α) := []
  distinct : (entries.map Prod.fst).Nodup := by simp

namespace OrderedMap

variable {α β : Type}

def empty : OrderedMap α := {}

instance : EmptyCollection (OrderedMap α) := ⟨empty⟩
instance : Inhabited (OrderedMap α) := ⟨empty⟩

@[ext] theorem ext {m n : OrderedMap α} (same : m.entries = n.entries) : m = n := by
  cases m; cases n; cases same; rfl

instance [DecidableEq α] : DecidableEq (OrderedMap α) := fun m n =>
  if same : m.entries = n.entries then isTrue (ext same)
  else isFalse fun equal => same (congrArg entries equal)

def keys (m : OrderedMap α) : List String := m.entries.map Prod.fst
def values (m : OrderedMap α) : List α := m.entries.map Prod.snd
def size (m : OrderedMap α) : Nat := m.entries.length
def isEmpty (m : OrderedMap α) : Bool := m.entries.isEmpty

def lookup (key : String) : List (String × α) → Option α
  | [] => none
  | (k, v) :: rest => if k = key then some v else lookup key rest

def get? (m : OrderedMap α) (key : String) : Option α := lookup key m.entries
def contains (m : OrderedMap α) (key : String) : Bool := (m.get? key).isSome

/-- Replaces the value at `key` where it stands, or appends the pair. -/
def put (key : String) (value : α) : List (String × α) → List (String × α)
  | [] => [(key, value)]
  | (k, v) :: rest => if k = key then (k, value) :: rest else (k, v) :: put key value rest

theorem lookup_cons (key k : String) (v : α) (rest : List (String × α)) :
    lookup key ((k, v) :: rest) = if k = key then some v else lookup key rest := rfl

theorem put_cons (key k : String) (value v : α) (rest : List (String × α)) :
    put key value ((k, v) :: rest) =
      if k = key then (k, value) :: rest else (k, v) :: put key value rest := rfl

theorem mem_keys_put {key k : String} {value : α} {entries : List (String × α)} :
    k ∈ (put key value entries).map Prod.fst ↔ k = key ∨ k ∈ entries.map Prod.fst := by
  induction entries with
  | nil => exact List.mem_cons
  | cons entry rest ih =>
    obtain ⟨k', v'⟩ := entry
    rw [put_cons]
    split
    · next same => subst same; simp
    · simp only [List.map_cons, List.mem_cons, ih]; grind

theorem nodup_keys_put {key : String} {value : α} {entries : List (String × α)}
    (distinct : (entries.map Prod.fst).Nodup) : ((put key value entries).map Prod.fst).Nodup := by
  induction entries with
  | nil => simp [put]
  | cons entry rest ih =>
    obtain ⟨k', v'⟩ := entry
    simp only [List.map_cons, List.nodup_cons] at distinct
    rw [put_cons]
    split
    · next same => simpa [List.nodup_cons] using distinct
    · next differs =>
      simp only [List.map_cons, List.nodup_cons, mem_keys_put]
      exact ⟨fun h => h.elim differs distinct.1, ih distinct.2⟩

def insert (m : OrderedMap α) (key : String) (value : α) : OrderedMap α :=
  ⟨put key value m.entries, nodup_keys_put m.distinct⟩

def ofList (entries : List (String × α)) : OrderedMap α :=
  entries.foldl (fun m entry => m.insert entry.1 entry.2) empty

/-- Changes every value and no key. -/
def mapValues (f : String → α → β) (m : OrderedMap α) : OrderedMap β :=
  ⟨m.entries.map fun entry => (entry.1, f entry.1 entry.2), by
    simpa [Function.comp_def] using m.distinct⟩

/-- Changes the value at `key`, if there is one. -/
def modify (m : OrderedMap α) (key : String) (f : α → α) : OrderedMap α :=
  m.mapValues fun k v => if k = key then f v else v

theorem mem_entries_of_lookup {key : String} {value : α} {entries : List (String × α)}
    (found : lookup key entries = some value) : (key, value) ∈ entries := by
  induction entries with
  | nil => cases found
  | cons entry rest ih =>
    obtain ⟨k, v⟩ := entry
    rw [lookup_cons] at found
    split at found
    · next same => cases found; subst same; exact List.mem_cons_self
    · exact List.mem_cons_of_mem _ (ih found)

theorem lookup_of_mem_entries {key : String} {value : α} {entries : List (String × α)}
    (distinct : (entries.map Prod.fst).Nodup) (member : (key, value) ∈ entries) :
    lookup key entries = some value := by
  induction entries with
  | nil => simp at member
  | cons entry rest ih =>
    obtain ⟨k, v⟩ := entry
    have ⟨fresh, distinct⟩ := List.nodup_cons.mp distinct
    rcases List.mem_cons.mp member with first | later
    · cases first
      rw [lookup_cons, if_pos rfl]
    · have apart : k ≠ key := fun same =>
        fresh (List.mem_map.mpr ⟨(key, value), later, same.symm⟩)
      rw [lookup_cons, if_neg apart]
      exact ih distinct later

theorem get?_eq_some_iff (m : OrderedMap α) (key : String) (value : α) :
    m.get? key = some value ↔ (key, value) ∈ m.entries :=
  ⟨mem_entries_of_lookup, lookup_of_mem_entries m.distinct⟩

theorem lookup_map_values (f : String → α → β) (key : String) (entries : List (String × α)) :
    lookup key (entries.map fun entry => (entry.1, f entry.1 entry.2)) =
      (lookup key entries).map (f key) := by
  induction entries with
  | nil => rfl
  | cons entry rest ih =>
    rw [List.map_cons, lookup_cons, lookup_cons]
    split
    · next same => subst same; rfl
    · exact ih

@[simp] theorem get?_mapValues (f : String → α → β) (m : OrderedMap α) (key : String) :
    (m.mapValues f).get? key = (m.get? key).map (f key) :=
  lookup_map_values f key m.entries

@[simp] theorem keys_mapValues (f : String → α → β) (m : OrderedMap α) :
    (m.mapValues f).keys = m.keys := by
  simp [keys, mapValues, Function.comp_def]

theorem mapValues_mapValues {γ : Type} (f : String → α → β) (h : String → β → γ)
    (m : OrderedMap α) :
    (m.mapValues f).mapValues h = m.mapValues fun key value => h key (f key value) := by
  apply ext
  simp [mapValues, Function.comp_def]

theorem contains_iff (m : OrderedMap α) (key : String) :
    m.contains key = true ↔ key ∈ m.keys := by
  rw [contains, Option.isSome_iff_exists, keys, List.mem_map]
  constructor
  · intro ⟨value, found⟩
    exact ⟨(key, value), (get?_eq_some_iff m key value).mp found, rfl⟩
  · intro ⟨⟨k, value⟩, member, same⟩
    exact ⟨value, (get?_eq_some_iff m key value).mpr (same ▸ member)⟩

@[simp] theorem contains_mapValues (f : String → α → β) (m : OrderedMap α) (key : String) :
    (m.mapValues f).contains key = m.contains key := by
  simp [contains]

theorem lookup_put (key k : String) (value : α) (entries : List (String × α)) :
    lookup k (put key value entries) = if key = k then some value else lookup k entries := by
  induction entries with
  | nil => rfl
  | cons entry rest ih =>
    obtain ⟨k', v'⟩ := entry
    rw [put_cons, lookup_cons]
    split
    · next same => subst same; rw [lookup_cons]; split <;> rfl
    · next differs =>
      rw [lookup_cons, ih]
      split
      · next here => rw [if_neg]; exact fun same => differs (here.trans same.symm)
      · rfl

@[simp] theorem get?_insert (m : OrderedMap α) (key k : String) (value : α) :
    (m.insert key value).get? k = if key = k then some value else m.get? k :=
  lookup_put key k value m.entries

theorem map_put (f : α → β) (key : String) (value : α) (entries : List (String × α)) :
    (put key value entries).map (fun entry => (entry.1, f entry.2)) =
      put key (f value) (entries.map fun entry => (entry.1, f entry.2)) := by
  induction entries with
  | nil => rfl
  | cons entry rest ih =>
    rw [put_cons, List.map_cons, put_cons]
    split
    · rfl
    · rw [List.map_cons, ih]

theorem mapValues_insert (f : α → β) (m : OrderedMap α) (key : String) (value : α) :
    (m.insert key value).mapValues (fun _ => f) =
      (m.mapValues fun _ => f).insert key (f value) :=
  ext (map_put f key value m.entries)

theorem put_fresh {key : String} {value : α} {entries : List (String × α)}
    (fresh : key ∉ entries.map Prod.fst) : put key value entries = entries ++ [(key, value)] := by
  induction entries with
  | nil => rfl
  | cons entry rest ih =>
    simp only [List.map_cons, List.mem_cons, not_or] at fresh
    rw [put_cons, if_neg (Ne.symm fresh.1), ih fresh.2, List.cons_append]

theorem entries_insert {m : OrderedMap α} {key : String} (fresh : m.contains key = false)
    (value : α) : (m.insert key value).entries = m.entries ++ [(key, value)] := by
  apply put_fresh
  intro member
  rw [(contains_iff m key).mpr member] at fresh
  cases fresh

end OrderedMap

end StackSynth
