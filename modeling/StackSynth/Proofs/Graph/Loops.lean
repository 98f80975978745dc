import Mathlib.Logic.Relation

/-!
Ways in a relation that grows by edges into one vertex, or out of it. A way in the grown relation is
an old one, or takes a new edge once: what comes between two visits of the vertex can be left out.
-/
namespace StackSynth

open Relation

variable {α : Type} {R S : α → α → Prop} {v a b : α} {N D : α → Prop}

/-- By induction on the way: an old edge goes on from either kind of way, and a new one starts over
at the vertex. -/
theorem way_into_iff (edges : ∀ a b, S a b ↔ R a b ∨ b = v ∧ N a) :
    TransGen S a b ↔
      TransGen R a b ∨ ∃ x, N x ∧ ReflTransGen R a x ∧ ReflTransGen R v b := by
  have old : R ≤ S := fun a b edge => (edges a b).mpr (.inl edge)
  constructor
  · intro way
    induction way with
    | single edge =>
      rcases (edges _ _).mp edge with before | ⟨rfl, new⟩
      · exact .inl (.single before)
      · exact .inr ⟨a, new, .refl, .refl⟩
    | tail _ edge ih =>
      rcases (edges _ _).mp edge with before | ⟨rfl, new⟩
      · rcases ih with way | ⟨x, entry, toward, onward⟩
        · exact .inl (way.tail before)
        · exact .inr ⟨x, entry, toward, onward.tail before⟩
      · rcases ih with way | ⟨x, entry, toward, _⟩
        · exact .inr ⟨_, new, way.to_reflTransGen, .refl⟩
        · exact .inr ⟨x, entry, toward, .refl⟩
  · rintro (way | ⟨x, entry, toward, onward⟩)
    · exact TransGen.mono old _ _ way
    · have crossing : S x v := (edges x v).mpr (.inr ⟨rfl, entry⟩)
      exact (TransGen.tail' (ReflTransGen.mono old _ _ toward) crossing).trans_left
        (ReflTransGen.mono old _ _ onward)

/-- The same for edges out of a vertex, which are edges into it from the other end. -/
theorem way_out_of_iff (edges : ∀ a b, S a b ↔ R a b ∨ a = v ∧ D b) :
    TransGen S a b ↔
      TransGen R a b ∨ ∃ y, D y ∧ ReflTransGen R a v ∧ ReflTransGen R y b := by
  have turned := way_into_iff (R := Function.swap R) (S := Function.swap S) (a := b) (b := a)
    fun a b => edges b a
  simp only [transGen_swap, reflTransGen_swap] at turned
  rw [turned]
  exact or_congr Iff.rfl (exists_congr fun y => and_congr Iff.rfl and_comm)

/-- Where a vertex that starts out without edges, or keeps those it goes out by, gets edges of both
kinds, a loop is one that was there before, or leads from the vertex to one of its new sources. -/
theorem loop_through_iff (edges : ∀ a b, S a b ↔ (R a b ∨ a = v ∧ D b) ∨ b = v ∧ N a)
    (apart : ∀ y, D y → ¬ ReflTransGen R y v) :
    (∃ a, TransGen S a a) ↔
      (∃ a, TransGen R a a) ∨
        ∃ x, N x ∧ (x = v ∨ TransGen R v x ∨ ∃ y, D y ∧ ReflTransGen R y x) := by
  let E : α → α → Prop := fun a b => R a b ∨ a = v ∧ D b
  have out_of := fun a b => way_out_of_iff (R := R) (S := E) (v := v) (D := D) (a := a) (b := b)
    fun _ _ => Iff.rfl
  have into := fun a => way_into_iff (R := E) (S := S) (v := v) (N := N) (a := a) (b := a)
    edges
  have onward : ∀ x, ReflTransGen E v x ↔
      x = v ∨ TransGen R v x ∨ ∃ y, D y ∧ ReflTransGen R y x := by
    intro x
    rw [reflTransGen_iff_eq_or_transGen, out_of]
    exact or_congr Iff.rfl (or_congr Iff.rfl (exists_congr fun y =>
      and_congr Iff.rfl (and_iff_right .refl)))
  -- the new edges out of the vertex alone close nothing, as no way leads back to it
  have unlooped : ∀ a, TransGen E a a → TransGen R a a := by
    intro a way
    rcases (out_of a a).mp way with old | ⟨y, new, toward, onward⟩
    · exact old
    · exact absurd (onward.trans toward) (apart y new)
  constructor
  · rintro ⟨a, way⟩
    rcases (into a).mp way with around | ⟨x, entry, toward, back⟩
    · exact .inl ⟨a, unlooped a around⟩
    · exact .inr ⟨x, entry, (onward x).mp (back.trans toward)⟩
  · rintro (⟨a, way⟩ | ⟨x, entry, reached⟩)
    · exact ⟨a, TransGen.mono (fun a b edge => (edges a b).mpr (.inl (.inl edge))) _ _ way⟩
    · exact ⟨x, (into x).mpr (.inr ⟨x, entry, .refl, (onward x).mpr reached⟩)⟩

end StackSynth
