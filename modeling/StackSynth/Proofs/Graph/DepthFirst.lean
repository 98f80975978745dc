import Mathlib.Data.List.Nodup
import StackSynth.Proofs.Graph.Calls

/-!
A depth-first search comes to an end with everything it has come to, and where no way leads back,
each id is done with only after all that follows it.
-/
namespace StackSynth.Traversal

variable {next : String → List String} {U : List String}

structure Sound (t : Traversal) : Prop where
  nodup : t.done.Nodup
  done_seen : t.done ⊆ t.seen

/-- An id that the search has come to and not yet done with. -/
def Open (t : Traversal) (id : String) : Prop := id ∈ t.seen ∧ id ∉ t.done

/-- What a visit leaves behind: no id is opened for good, and all that is new is from `U`. -/
structure Extends (U : List String) (t u : Traversal) : Prop where
  sound : u.Sound
  seen : t.seen ⊆ u.seen
  done : t.done ⊆ u.done
  same_open : ∀ id, u.Open id ↔ t.Open id
  origin : ∀ id ∈ u.seen, id ∈ t.seen ∨ id ∈ U

theorem extends_refl {t : Traversal} (sound : t.Sound) : Extends U t t :=
  ⟨sound, fun _ member => member, fun _ member => member, fun _ => Iff.rfl, fun _ => .inl⟩

theorem extends_trans {t u v : Traversal} (first : Extends U t u) (second : Extends U u v) :
    Extends U t v := by
  refine ⟨second.sound, List.Subset.trans first.seen second.seen,
    List.Subset.trans first.done second.done,
    fun id => (second.same_open id).trans (first.same_open id), ?_⟩
  intro id member
  rcases second.origin id member with middle | fresh
  · exact first.origin id middle
  · exact .inr fresh

def open_ (t : Traversal) (id : String) : Traversal := { t with seen := id :: t.seen }
def close (t : Traversal) (id : String) : Traversal := { t with done := id :: t.done }

/-- One id of a visit. -/
def enter (next : String → List String) (depth : Nat) (t : Traversal) (id : String) : Traversal :=
  if t.seen.contains id then t else (visit next depth (next id) (t.open_ id)).close id

theorem visit_succ (depth : Nat) (ids : List String) (t : Traversal) :
    visit next (depth + 1) ids t = ids.foldl (enter next depth) t := rfl

theorem enter_seen {depth : Nat} {t : Traversal} {id : String} (seen : id ∈ t.seen) :
    enter next depth t id = t := by
  simp [enter, seen]

theorem enter_unseen {depth : Nat} {t : Traversal} {id : String} (unseen : id ∉ t.seen) :
    enter next depth t id = (visit next depth (next id) (t.open_ id)).close id := by
  simp [enter, unseen]

theorem open_sound {t : Traversal} (sound : t.Sound) (id : String) : (t.open_ id).Sound :=
  ⟨sound.nodup, fun _ member => List.mem_cons_of_mem id (sound.done_seen member)⟩

theorem open_open_iff {t : Traversal} (sound : t.Sound) {id : String} (unseen : id ∉ t.seen)
    (v : String) : (t.open_ id).Open v ↔ v = id ∨ t.Open v := by
  have undone : id ∉ t.done := fun member => unseen (sound.done_seen member)
  simp only [Open, open_, List.mem_cons]
  constructor
  · rintro ⟨rfl | seen, later⟩
    · exact .inl rfl
    · exact .inr ⟨seen, later⟩
  · rintro (rfl | ⟨seen, later⟩)
    · exact ⟨.inl rfl, undone⟩
    · exact ⟨.inr seen, later⟩

theorem close_extends {t inner : Traversal} (sound : t.Sound) {id : String}
    (unseen : id ∉ t.seen) (member : id ∈ U) (visited : Extends U (t.open_ id) inner) :
    Extends U t (inner.close id) := by
  have opened : inner.Open id :=
    (visited.same_open id).mpr ((open_open_iff sound unseen id).mpr (.inl rfl))
  refine ⟨⟨List.nodup_cons.mpr ⟨opened.2, visited.sound.nodup⟩, ?_⟩, ?_, ?_, ?_, ?_⟩
  · exact List.cons_subset.mpr ⟨opened.1, visited.sound.done_seen⟩
  · exact fun v seen => visited.seen (List.mem_cons_of_mem id seen)
  · exact fun v done => List.mem_cons_of_mem id (visited.done done)
  · intro v
    have inner_open := (visited.same_open v).trans (open_open_iff sound unseen v)
    have closed : (inner.close id).Open v ↔ inner.Open v ∧ v ≠ id := by
      simp only [Open, close, List.mem_cons, not_or]
      exact ⟨fun ⟨seen, differs, later⟩ => ⟨⟨seen, later⟩, differs⟩,
        fun ⟨⟨seen, later⟩, differs⟩ => ⟨seen, differs, later⟩⟩
    rw [closed, inner_open]
    constructor
    · rintro ⟨rfl | before, differs⟩
      · exact absurd rfl differs
      · exact before
    · exact fun before => ⟨.inr before, fun same => unseen (same ▸ before.1)⟩
  · intro v seen
    rcases visited.origin v seen with old | fresh
    · rcases List.mem_cons.mp old with rfl | old
      · exact .inr member
      · exact .inl old
    · exact .inr fresh

theorem visit_extends (inside : ∀ v, next v ⊆ U) (depth : Nat) {ids : List String}
    (part : ids ⊆ U) {t : Traversal} (sound : t.Sound) : Extends U t (visit next depth ids t) := by
  induction depth generalizing ids t with
  | zero => exact extends_refl sound
  | succ depth deeper =>
    rw [visit_succ]
    induction ids generalizing t with
    | nil => exact extends_refl sound
    | cons id rest ih =>
      have ⟨member, others⟩ := List.cons_subset.mp part
      have entered : Extends U t (enter next depth t id) := by
        by_cases seen : id ∈ t.seen
        · rw [enter_seen seen]; exact extends_refl sound
        · rw [enter_unseen seen]
          exact close_extends sound seen member (deeper (inside id) (open_sound sound id))
      exact extends_trans entered (ih others entered.sound)

theorem visit_sees (inside : ∀ v, next v ⊆ U) (depth : Nat) {ids : List String} (part : ids ⊆ U)
    {t : Traversal} (sound : t.Sound) : ids ⊆ (visit next (depth + 1) ids t).seen := by
  rw [visit_succ]
  induction ids generalizing t with
  | nil => exact List.nil_subset _
  | cons id rest ih =>
    have ⟨member, others⟩ := List.cons_subset.mp part
    have entered : Extends U t (enter next depth t id) :=
      visit_extends inside (depth + 1) (List.cons_subset.mpr ⟨member, List.nil_subset U⟩) sound
    refine List.cons_subset.mpr ⟨?_, ih others entered.sound⟩
    have seen : id ∈ (enter next depth t id).seen := by
      by_cases seen : id ∈ t.seen
      · rw [enter_seen seen]; exact seen
      · rw [enter_unseen seen]
        exact (visit_extends inside depth (inside id) (open_sound sound id)).seen
          List.mem_cons_self
    exact (visit_extends inside (depth + 1) others entered.sound).seen seen

theorem empty_sound : Sound {} := ⟨by simp, by simp⟩

/-- A whole search does with all the ids it is given, and with nothing beyond `U`. -/
theorem search_done (inside : ∀ v, next v ⊆ U) (depth : Nat) (id : String) :
    id ∈ (visit next (depth + 1) U {}).done ↔ id ∈ U := by
  have part : U ⊆ U := fun _ member => member
  have whole := visit_extends inside (depth + 1) part empty_sound
  constructor
  · intro done
    exact (whole.origin id (whole.sound.done_seen done)).resolve_left (by simp)
  · intro member
    have seen := visit_sees inside depth part empty_sound member
    by_contra undone
    have opened := (whole.same_open id).mp ⟨seen, undone⟩
    simp [Open] at opened

/-- In a list of what was done with, the latest first, all that follows an id stands after it. -/
def Ordered (next : String → List String) : List String → Prop
  | [] => True
  | id :: earlier => next id ⊆ earlier ∧ Ordered next earlier

theorem ordered_closed {done : List String} (ordered : Ordered next done) {id : String}
    (member : id ∈ done) : next id ⊆ done := by
  induction done with
  | nil => simp at member
  | cons first earlier ih =>
    rcases List.mem_cons.mp member with rfl | later
    · exact List.subset_cons_of_subset _ ordered.1
    · exact List.subset_cons_of_subset _ (ih ordered.2 later)

/-- The ids of the universe that a search has not come to. -/
def unseen (U : List String) (t : Traversal) : Nat := (U.filter (· ∉ t.seen)).length

theorem unseen_mono {t u : Traversal} (seen : t.seen ⊆ u.seen) : unseen U u ≤ unseen U t := by
  apply List.Sublist.length_le
  apply List.monotone_filter_right
  intro id later
  simp only [decide_eq_true_eq] at later ⊢
  exact fun member => later (seen member)

theorem unseen_open_lt {t : Traversal} {id : String} (member : id ∈ U) (fresh : id ∉ t.seen) :
    unseen U (t.open_ id) < unseen U t := by
  have split : U.filter (· ∉ (t.open_ id).seen) = (U.filter (· ∉ t.seen)).filter (· ≠ id) := by
    rw [List.filter_filter]
    apply List.filter_congr
    intro v _
    simp [open_]
  simp only [unseen]
  rw [split]
  apply List.length_filter_lt_length_iff_exists.mpr
  exact ⟨id, by simp [member, fresh], by simp⟩

/-- The depth is enough for the ids not yet seen. All that is open leads to the ids that are
visited, so none of these can be open itself unless a way leads back. -/
theorem visit_ordered (inside : ∀ v, next v ⊆ U)
    (acyclic : ∀ v, ¬ Relation.TransGen (fun a b => b ∈ next a) v v) {depth : Nat}
    {ids : List String} (part : ids ⊆ U) {t : Traversal} (sound : t.Sound)
    (ordered : Ordered next t.done)
    (leads : ∀ u, t.Open u → ∀ v ∈ ids, Relation.TransGen (fun a b => b ∈ next a) u v)
    (budget : unseen U t < depth) :
    Ordered next (visit next depth ids t).done ∧ ids ⊆ (visit next depth ids t).done := by
  induction depth generalizing ids t with
  | zero => omega
  | succ depth deeper =>
    induction ids generalizing t with
    | nil => exact ⟨ordered, List.nil_subset _⟩
    | cons id rest ih =>
      have ⟨member, others⟩ := List.cons_subset.mp part
      have single : [id] ⊆ U := List.cons_subset.mpr ⟨member, List.nil_subset U⟩
      have entered : Extends U t (enter next depth t id) :=
        visit_extends inside (depth + 1) single sound
      have here : Ordered next (enter next depth t id).done ∧
          id ∈ (enter next depth t id).done := by
        by_cases seen : id ∈ t.seen
        · rw [enter_seen seen]
          refine ⟨ordered, ?_⟩
          -- an id that is still open would be reached from itself
          by_contra undone
          exact acyclic id (leads id ⟨seen, undone⟩ id List.mem_cons_self)
        · rw [enter_unseen seen]
          have smaller := unseen_open_lt member seen
          have onward : ∀ u, (t.open_ id).Open u → ∀ v ∈ next id,
              Relation.TransGen (fun a b => b ∈ next a) u v := by
            intro u opened v step
            rcases (open_open_iff sound seen u).mp opened with rfl | before
            · exact .single step
            · exact (leads u before id List.mem_cons_self).tail step
          obtain ⟨below, found⟩ :=
            deeper (inside id) (open_sound sound id) ordered onward (by omega)
          exact ⟨⟨found, below⟩, List.mem_cons_self⟩
      have rest_result := ih others entered.sound here.1
        (fun u opened v later =>
          leads u ((entered.same_open u).mp opened) v (List.mem_cons_of_mem id later))
        (Nat.lt_of_le_of_lt (unseen_mono entered.seen) budget)
      have kept := (visit_extends inside (depth + 1) others entered.sound).done
      exact ⟨rest_result.1, List.cons_subset.mpr ⟨kept here.2, rest_result.2⟩⟩

end StackSynth.Traversal
