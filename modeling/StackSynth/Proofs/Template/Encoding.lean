import StackSynth.Proofs.Json.Compact
import StackSynth.Template.Value

/-!
The two ways in which a value becomes JSON. Written directly, a value has the text that its tree has
on one line, and the tree is what is read back from there.
-/
namespace StackSynth.Value

open Json

mutual

theorem encode_eq : ∀ v : Value, v.encode = compactChars v.toJson
  | str _ | number _ | bool _ | ref _ | getAtt _ _ | getAzs _ | sub _ => rfl
  | join delimiter values => by
    simp only [encode, toJson, taggedText, pairText, compactChars, compactFields, compactItems,
      encode_items_eq values]
    rfl
  | select index source => by
    simp only [encode, toJson, taggedText, pairText, compactChars, compactFields, compactItems,
      encode_eq source]
    rfl
  | list items => by rw [encode, toJson, compactChars, encode_items_eq items]

theorem encode_items_eq : ∀ items : List Value, encodeItems items = compactItems (toJsons items)
  | [] => rfl
  | [item] => by rw [encodeItems, toJsons, toJsons, compactItems, encode_eq item]
  | item :: next :: rest => by
    have others := encode_items_eq (next :: rest)
    rw [toJsons] at others
    rw [encodeItems, toJsons, toJsons, JsonTree.compact_items_cons, encode_eq item, others]
    exact fun none => by cases none

end

mutual

/-- There is no binary number in a value, and its objects have one field each. -/
theorem json_regular : ∀ v : Value, v.toJson.Exact ∧ v.toJson.Sorted
  | str _ | number _ | bool _ => ⟨trivial, trivial⟩
  | ref _ | getAzs _ | sub _ => ⟨⟨trivial, trivial⟩, List.pairwise_singleton _ _, trivial, trivial⟩
  | getAtt _ _ =>
    ⟨⟨⟨trivial, trivial, trivial⟩, trivial⟩, List.pairwise_singleton _ _,
      ⟨trivial, trivial, trivial⟩, trivial⟩
  | join _ values => by
    obtain ⟨exact, sorted⟩ := json_items_regular values
    exact ⟨⟨⟨trivial, exact, trivial⟩, trivial⟩, List.pairwise_singleton _ _,
      ⟨trivial, sorted, trivial⟩, trivial⟩
  | select _ source => by
    obtain ⟨exact, sorted⟩ := json_regular source
    exact ⟨⟨⟨trivial, exact, trivial⟩, trivial⟩, List.pairwise_singleton _ _,
      ⟨trivial, sorted, trivial⟩, trivial⟩
  | list items => json_items_regular items

theorem json_items_regular : ∀ items : List Value,
    AllExact (toJsons items) ∧ AllSorted (toJsons items)
  | [] => ⟨trivial, trivial⟩
  | item :: rest => by
    obtain ⟨exact, sorted⟩ := json_regular item
    obtain ⟨others_exact, others_sorted⟩ := json_items_regular rest
    exact ⟨⟨exact, others_exact⟩, sorted, others_sorted⟩

end

/-- The text of a value is that of its tree, and the tree is read back from it unless it is nested
too deeply for a document; then nothing is. -/
theorem encode_agrees (v : Value) :
    String.ofList v.encode = v.toJson.compact ∧
      Json.ofText? (String.ofList v.encode) =
        if v.toJson.nesting ≤ JsonTree.depthLimit then some v.toJson else none := by
  have text : String.ofList v.encode = v.toJson.compact := by rw [encode_eq, Json.compact]
  obtain ⟨exact, sorted⟩ := json_regular v
  exact ⟨text, by rw [text, JsonTree.of_compact exact sorted]⟩

end StackSynth.Value
