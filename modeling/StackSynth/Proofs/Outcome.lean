import StackSynth.Failure

/-!
What a result that is no failure tells of the steps it was made in.
-/
namespace StackSynth.Outcome

variable {ε α β : Type}

theorem ok_of_result {o : Except ε α} {a : α} (result : o.toOption = some a) : o = .ok a := by
  cases o with
  | error e => cases result
  | ok b => rw [Option.some.inj result]

theorem bind_ok {o : Except ε α} {f : α → Except ε β} {b : β} (made : (o >>= f) = .ok b) :
    ∃ a, o = .ok a ∧ f a = .ok b := by
  cases o with
  | error e => cases made
  | ok a => exact ⟨a, rfl, made⟩

theorem unless_ok {stop : Prop} [Decidable stop] {e : ε} {rest : PUnit → Except ε β} {b : β}
    (made : (if stop then throw e >>= rest else rest ⟨⟩) = .ok b) :
    ¬ stop ∧ rest ⟨⟩ = .ok b := by
  by_cases stopped : stop
  · rw [if_pos stopped] at made
    cases made
  · rw [if_neg stopped] at made
    exact ⟨stopped, made⟩

/-- The results are those of the items, and of no others. -/
theorem outcomes_of_mapM {act : α → Except ε β} {items : List α} {results : List β}
    (done : items.mapM act = .ok results) :
    (∀ item ∈ items, ∃ b ∈ results, act item = .ok b) ∧
      ∀ b ∈ results, ∃ item ∈ items, act item = .ok b := by
  induction items generalizing results with
  | nil => cases done; simp
  | cons item rest ih =>
    rw [List.mapM_cons] at done
    obtain ⟨a, first, done⟩ := bind_ok done
    obtain ⟨more, others, done⟩ := bind_ok done
    cases done
    obtain ⟨complete, sound⟩ := ih others
    constructor
    · intro other member
      rcases List.mem_cons.mp member with rfl | later
      · exact ⟨a, List.mem_cons_self, first⟩
      · obtain ⟨b, listed, outcome⟩ := complete other later
        exact ⟨b, List.mem_cons_of_mem a listed, outcome⟩
    · intro b member
      rcases List.mem_cons.mp member with rfl | later
      · exact ⟨item, List.mem_cons_self, first⟩
      · obtain ⟨other, listed, outcome⟩ := sound b later
        exact ⟨other, List.mem_cons_of_mem item listed, outcome⟩

theorem mapM_ok {act : α → Except ε β} {items : List α} {g : α → β}
    (each : ∀ item ∈ items, act item = .ok (g item)) : items.mapM act = .ok (items.map g) := by
  induction items with
  | nil => rfl
  | cons item rest ih =>
    rw [List.forall_mem_cons] at each
    rw [List.mapM_cons, each.1, ih each.2]
    rfl

end StackSynth.Outcome
