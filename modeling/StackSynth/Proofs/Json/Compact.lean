import StackSynth.Proofs.Json.RoundTrip

/-!
Values on one line. Without binary numbers, a value is read back from its compact text exactly if it
is not nested too deeply; otherwise the text has no value.
-/
namespace StackSynth.JsonTree

open Json

/-- What stands on one line does not start with a blank, nor with what closes a list. -/
theorem compact_lead {v : Json} (exact : v.Exact) :
    ∃ c rest, compactChars v = c :: rest ∧ isBlank c = false ∧ c ≠ ']' := by
  cases v with
  | null | bool _ | int _ | float _ | str _ => exact value_lead exact 0
  | arr items => exact ⟨_, _, rfl, rfl, by decide⟩
  | obj fields => exact ⟨_, _, rfl, rfl, by decide⟩

theorem compact_items_cons (item next : Json) (rest : List Json) :
    compactItems (item :: next :: rest) =
      compactChars item ++ ',' :: compactItems (next :: rest) := rfl

theorem compact_fields_cons (key : String) (value : Json) (next : String × Json)
    (rest : List (String × Json)) : compactFields ((key, value) :: next :: rest) =
      quote key ++ ':' :: compactChars value ++ ',' :: compactFields (next :: rest) := rfl

theorem compact_items_lead (item : Json) (rest : List Json) (cs : List Char) :
    ∃ more, compactItems (item :: rest) ++ cs = compactChars item ++ more := by
  cases rest with
  | nil => exact ⟨cs, rfl⟩
  | cons next rest =>
    exact ⟨',' :: compactItems (next :: rest) ++ cs, by rw [compact_items_cons, List.append_assoc]⟩

theorem compact_fields_lead (field : String × Json) (rest : List (String × Json))
    (cs : List Char) : ∃ more, compactFields (field :: rest) ++ cs = '"' :: more := by
  cases rest with
  | nil => exact ⟨_, rfl⟩
  | cons next rest =>
    exact ⟨_, by rw [compact_fields_cons, quote, List.cons_append, List.cons_append]; rfl⟩

theorem read_compact_list (fuel : Nat) {item : Json} {rest : List Json} (exact : item.Exact)
    (cs : List Char) : readValue (fuel + 1) ('[' :: (compactItems (item :: rest) ++ cs)) =
      (readItems fuel (compactItems (item :: rest) ++ cs)).map fun read =>
        (.arr read.1, read.2) := by
  obtain ⟨more, same⟩ := compact_items_lead item rest cs
  obtain ⟨c, after, lead, solid, other⟩ := compact_lead exact
  rw [lead, List.cons_append] at same
  have whole : skipBlanks (compactItems (item :: rest) ++ cs) =
      compactItems (item :: rest) ++ cs := by
    rw [same]
    exact skip_nothing solid _
  have further : (skipBlanks (compactItems (item :: rest) ++ cs)).head? ≠ some ']' := by
    rw [whole, same]
    exact fun closed => other (Option.some.inj closed)
  rw [read_open_list fuel further, whole]

theorem read_compact_object (fuel : Nat) {field : String × Json} {rest : List (String × Json)}
    (cs : List Char) : readValue (fuel + 1) ('{' :: (compactFields (field :: rest) ++ cs)) =
      (readFields fuel (compactFields (field :: rest) ++ cs)).map fun read =>
        (.obj read.1, read.2) := by
  obtain ⟨more, same⟩ := compact_fields_lead field rest cs
  have whole : skipBlanks (compactFields (field :: rest) ++ cs) =
      compactFields (field :: rest) ++ cs := by
    rw [same]
    exact skip_nothing rfl _
  have further : (skipBlanks (compactFields (field :: rest) ++ cs)).head? ≠ some '}' := by
    rw [whole, same]
    exact fun closed => absurd (Option.some.inj closed) (by decide)
  rw [read_open_object fuel further, whole]

/-- A field is read up to what tells whether there are others. -/
theorem read_compact_key {fuel : Nat} {key : String} {value : Json} {cs : List Char}
    (read : readValue fuel (compactChars value ++ cs) = some (value.tree, cs)) :
    readFields (fuel + 1) (quote key ++ ':' :: compactChars value ++ cs) =
      match skipBlanks cs with
      | '}' :: left => some ([(some key, value.tree)], left)
      | ',' :: rest => do
        let (fields, left) ← readFields fuel rest
        return ((some key, value.tree) :: fields, left)
      | _ => none := by
  have lead : skipBlanks (quote key ++ ':' :: compactChars value ++ cs) =
      '"' :: (key.toList.flatMap escapeChar ++ '"' :: (':' :: (compactChars value ++ cs))) := by
    rw [quote]
    simp only [List.cons_append, List.append_assoc, List.nil_append]
    exact skip_nothing rfl _
  have colon : ∀ after, skipBlanks (':' :: after) = ':' :: after := fun _ => skip_nothing rfl _
  rw [readFields, lead]
  simp only [read_string, Option.bind_eq_bind, Option.bind_some, colon, read]
  rfl

mutual

/-- A value is read from its compact text, whatever follows, if the fuel is enough for its size. -/
theorem read_compact : ∀ (v : Json) (fuel : Nat) (rest : List Char), v.Exact → Ends rest →
    (compactChars v).length ≤ fuel →
    readValue fuel (compactChars v ++ rest) = some (v.tree, rest)
  | .null, fuel, rest, exact, ends, enough => read_value .null fuel 0 rest exact ends enough
  | .bool b, fuel, rest, exact, ends, enough => read_value (.bool b) fuel 0 rest exact ends enough
  | .int n, fuel, rest, exact, ends, enough => read_value (.int n) fuel 0 rest exact ends enough
  | .str s, fuel, rest, exact, ends, enough => read_value (.str s) fuel 0 rest exact ends enough
  | .arr items, 0, rest, _, _, enough => by simp [compactChars] at enough
  | .arr [], fuel + 1, rest, _, _, _ => rfl
  | .arr (item :: items), fuel + 1, rest, exact, _, enough => by
    rw [compactChars] at enough ⊢
    simp only [List.length_append, List.length_cons, List.length_nil] at enough
    have inner := read_compact_items item items fuel rest exact (by omega)
    have text : '[' :: compactItems (item :: items) ++ [']'] ++ rest =
        '[' :: (compactItems (item :: items) ++ ']' :: rest) := by simp
    rw [text, read_compact_list fuel exact.1, inner]
    rfl
  | .obj fields, 0, rest, _, _, enough => by simp [compactChars] at enough
  | .obj [], fuel + 1, rest, _, _, _ => rfl
  | .obj (field :: fields), fuel + 1, rest, exact, _, enough => by
    rw [compactChars] at enough ⊢
    simp only [List.length_append, List.length_cons, List.length_nil] at enough
    have inner := read_compact_fields field fields fuel rest exact (by omega)
    have text : '{' :: compactFields (field :: fields) ++ ['}'] ++ rest =
        '{' :: (compactFields (field :: fields) ++ '}' :: rest) := by simp
    rw [text, read_compact_object fuel, inner]
    rfl
termination_by structural _ fuel => fuel

theorem read_compact_items : ∀ (item : Json) (items : List Json) (fuel : Nat) (rest : List Char),
    AllExact (item :: items) → (compactItems (item :: items)).length < fuel →
    readItems fuel (compactItems (item :: items) ++ ']' :: rest) =
      some (trees (item :: items), rest)
  | item, items, 0, rest, _, enough => by omega
  | item, [], fuel + 1, rest, exact, enough => by
    rw [compactItems] at enough ⊢
    have read := read_compact item fuel (']' :: rest) exact.1 (ends_of_mark (by decide) _)
      (by omega)
    have closed : skipBlanks (']' :: rest) = ']' :: rest := skip_nothing rfl _
    simp only [readItems, read, Option.bind_eq_bind, Option.bind_some, closed]
    rfl
  | item, next :: more, fuel + 1, rest, exact, enough => by
    rw [compact_items_cons] at enough ⊢
    simp only [List.length_append, List.length_cons] at enough
    rw [List.append_assoc, List.cons_append]
    have read := read_compact item fuel (',' :: (compactItems (next :: more) ++ ']' :: rest))
      exact.1 (ends_of_mark (by decide) _) (by omega)
    have others := read_compact_items next more fuel rest exact.2 (by omega)
    have parted : ∀ cs, skipBlanks (',' :: cs) = ',' :: cs := fun _ => skip_nothing rfl _
    simp only [readItems, read, Option.bind_eq_bind, Option.bind_some, parted, others]
    rfl
termination_by structural _ _ fuel => fuel

theorem read_compact_fields : ∀ (field : String × Json) (fields : List (String × Json))
    (fuel : Nat) (rest : List Char), FieldsExact (field :: fields) →
    (compactFields (field :: fields)).length < fuel →
    readFields fuel (compactFields (field :: fields) ++ '}' :: rest) =
      some (fieldTrees (field :: fields), rest)
  | field, fields, 0, rest, _, enough => by omega
  | (key, value), [], fuel + 1, rest, exact, enough => by
    rw [compactFields] at enough ⊢
    simp only [List.length_append, List.length_cons] at enough
    have read := read_compact value fuel ('}' :: rest) exact.1 (ends_of_mark (by decide) _)
      (by omega)
    have closed : skipBlanks ('}' :: rest) = '}' :: rest := skip_nothing rfl _
    rw [read_compact_key read, closed]
    rfl
  | (key, value), next :: more, fuel + 1, rest, exact, enough => by
    rw [compact_fields_cons] at enough ⊢
    simp only [List.length_append, List.length_cons] at enough
    rw [List.append_assoc, List.cons_append]
    have read := read_compact value fuel (',' :: (compactFields (next :: more) ++ '}' :: rest))
      exact.1 (ends_of_mark (by decide) _) (by omega)
    have others := read_compact_fields next more fuel rest exact.2 (by omega)
    have parted : ∀ cs, skipBlanks (',' :: cs) = ',' :: cs := fun _ => skip_nothing rfl _
    rw [read_compact_key read, parted]
    simp only [others, Option.bind_eq_bind, Option.bind_some]
    rfl
termination_by structural _ _ fuel => fuel

end

theorem tree_of_compact {v : Json} (exact : v.Exact) : ofText? v.compact = some v.tree := by
  have ends : Ends [] := fun c none => by cases none
  have enough : (compactChars v).length ≤ 2 * (compactChars v).length + 2 := by omega
  have read := read_compact v _ [] exact ends enough
  rw [List.append_nil] at read
  simp only [ofText?, Json.compact, String.toList_ofList, read, Option.bind_eq_bind,
    Option.bind_some]
  rfl

mutual

/-- A tree that has a value is not nested deeper than it may be. -/
theorem nesting_of_value : ∀ (v w : Json) (depth : Nat), toJson? depth v.tree = some w →
    v.nesting ≤ depth
  | .null, _, _, _ => Nat.zero_le _
  | .bool _, _, _, _ => Nat.zero_le _
  | .int _, _, _, _ => Nat.zero_le _
  | .float _, _, _, _ => Nat.zero_le _
  | .str _, _, _, _ => Nat.zero_le _
  | .arr items, w, 0, found => by cases found
  | .arr items, w, depth + 1, found => by
    rw [tree, toJson?, Option.map_eq_some_iff] at found
    obtain ⟨values, inner, -⟩ := found
    exact Nat.succ_le_succ (nesting_of_values items values depth inner)
  | .obj fields, w, 0, found => by cases found
  | .obj fields, w, depth + 1, found => by
    rw [tree, toJson?, Option.map_eq_some_iff] at found
    obtain ⟨done, inner, -⟩ := found
    exact Nat.succ_le_succ (nesting_of_fields fields [] done depth inner)

theorem nesting_of_values : ∀ (items values : List Json) (depth : Nat),
    toJsonItems? depth (trees items) = some values → itemsNesting items ≤ depth
  | [], _, _, _ => Nat.zero_le _
  | item :: rest, values, depth, found => by
    simp only [trees, toJsonItems?, Option.bind_eq_bind, Option.bind_eq_some_iff] at found
    obtain ⟨value, first, others, later, -⟩ := found
    exact Nat.max_le.mpr ⟨nesting_of_value item value depth first,
      nesting_of_values rest others depth later⟩

theorem nesting_of_fields : ∀ (fields : List (String × Json)) (done all : Fields) (depth : Nat),
    toJsonFields? depth done (fieldTrees fields) = some all → fieldsNesting fields ≤ depth
  | [], _, _, _, _ => Nat.zero_le _
  | (key, item) :: rest, done, all, depth, found => by
    simp only [fieldTrees, toJsonFields?, Option.bind_eq_bind, Option.bind_some,
      Option.bind_eq_some_iff] at found
    obtain ⟨value, first, later⟩ := found
    exact Nat.max_le.mpr ⟨nesting_of_value item value depth first,
      nesting_of_fields rest _ all depth later⟩

end

/-- What is written on one line is read back, unless it is nested too deeply to be read at all. -/
theorem of_compact {v : Json} (exact : v.Exact) (sorted : v.Sorted) :
    Json.ofText? v.compact = if v.nesting ≤ depthLimit then some v else none := by
  rw [Json.ofText?, tree_of_compact exact, Option.bind_eq_bind, Option.bind_some]
  split
  · next shallow => exact value_of_tree v depthLimit exact sorted shallow
  · next deep =>
    rw [Option.eq_none_iff_forall_ne_some]
    exact fun w found => deep (nesting_of_value v w depthLimit found)

end StackSynth.JsonTree
