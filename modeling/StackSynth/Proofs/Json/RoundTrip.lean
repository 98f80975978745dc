import StackSynth.Proofs.Json.Scanning

/-!
Values without binary numbers are read back from the text they are written as. The text is read as a
tree first; the tree has a value if it is not nested too deeply.
-/
namespace StackSynth

namespace Json

mutual

/-- The tree that a value without binary numbers is read as once it is written. -/
def tree : Json → JsonTree
  | null | float _ => .null
  | bool b => .bool b
  | int n => .number (.ofInt n.val)
  | str s => .str (some s)
  | arr items => .arr (trees items)
  | obj fields => .obj (fieldTrees fields)

def trees : List Json → List JsonTree
  | [] => []
  | item :: rest => tree item :: trees rest

def fieldTrees : List (String × Json) → List (Option String × JsonTree)
  | [] => []
  | (key, value) :: rest => (some key, tree value) :: fieldTrees rest

end

mutual

/-- There is no binary number in a value. -/
def Exact : Json → Prop
  | float _ => False
  | arr items => AllExact items
  | obj fields => FieldsExact fields
  | _ => True

def AllExact : List Json → Prop
  | [] => True
  | item :: rest => Exact item ∧ AllExact rest

def FieldsExact : List (String × Json) → Prop
  | [] => True
  | (_, value) :: rest => Exact value ∧ FieldsExact rest

end

mutual

/-- How many lists and objects are around the innermost part of a value. -/
def nesting : Json → Nat
  | arr items => itemsNesting items + 1
  | obj fields => fieldsNesting fields + 1
  | _ => 0

def itemsNesting : List Json → Nat
  | [] => 0
  | item :: rest => max (nesting item) (itemsNesting rest)

def fieldsNesting : List (String × Json) → Nat
  | [] => 0
  | (_, value) :: rest => max (nesting value) (fieldsNesting rest)

end

end Json

namespace JsonTree

open Json

/-! From the text to the tree. -/

mutual

theorem read_value_skip (fuel : Nat) (cs : List Char) :
    readValue fuel (skipBlanks cs) = readValue fuel cs := by
  cases fuel with
  | zero => rfl
  | succ fuel => simp only [readValue, skip_twice]

theorem read_items_skip (fuel : Nat) (cs : List Char) :
    readItems fuel (skipBlanks cs) = readItems fuel cs := by
  cases fuel with
  | zero => rfl
  | succ fuel => simp only [readItems, read_value_skip]

theorem read_fields_skip (fuel : Nat) (cs : List Char) :
    readFields fuel (skipBlanks cs) = readFields fuel cs := by
  cases fuel with
  | zero => rfl
  | succ fuel => simp only [readFields, skip_twice]

end

theorem ends_of_mark {c : Char} (mark : c ∈ [',', '\n', ':', ']', '}']) (rest : List Char) :
    Ends (c :: rest) := by
  intro first same
  cases same
  simp only [List.mem_cons, List.not_mem_nil, or_false] at mark
  rcases mark with rfl | rfl | rfl | rfl | rfl <;> decide

theorem digit_cases : ∀ d < 10, Nat.digitChar d ∈
    ['0', '1', '2', '3', '4', '5', '6', '7', '8', '9'] := by decide

/-- What starts with a digit is read as a number. -/
theorem read_digits {fuel : Nat} {c : Char}
    (digit : c ∈ ['0', '1', '2', '3', '4', '5', '6', '7', '8', '9']) (cs : List Char) :
    readValue (fuel + 1) (c :: cs) =
      (readNumber false (c :: cs)).map fun read => (.number read.1, read.2) := by
  simp only [List.mem_cons, List.not_mem_nil, or_false] at digit
  rcases digit with rfl | rfl | rfl | rfl | rfl | rfl | rfl | rfl | rfl | rfl
  all_goals rfl

theorem to_digits_lead (n : Nat) : ∃ c rest, Nat.toDigits 10 n = c :: rest ∧
    c ∈ ['0', '1', '2', '3', '4', '5', '6', '7', '8', '9'] := by
  have first : ∃ d rest, NumberLiteral.decimals n = d :: rest := by
    by_cases zero : n = 0
    · subst zero
      exact ⟨0, [], NumberLiteral.decimals_small (by decide)⟩
    · obtain ⟨d, rest, same, -⟩ := NumberLiteral.decimals_lead zero
      exact ⟨d, rest, same⟩
  obtain ⟨d, rest, same⟩ := first
  refine ⟨_, _, by rw [NumberLiteral.to_digits_eq, same, List.map_cons], ?_⟩
  exact digit_cases d (NumberLiteral.decimals_lt n d (same ▸ List.mem_cons_self))

theorem read_int {fuel : Nat} (n : JsonInt) {rest : List Char} (ends : Ends rest) :
    readValue (fuel + 1) (intText n.val ++ rest) = some (.number (.ofInt n.val), rest) := by
  unfold intText
  by_cases negative : n.val < 0
  · have value : readValue (fuel + 1) ('-' :: Nat.toDigits 10 n.val.natAbs ++ rest) =
        (readNumber true (Nat.toDigits 10 n.val.natAbs ++ rest)).map fun read =>
          (.number read.1, read.2) := rfl
    rw [if_pos negative, value, read_number true _ ends, NumberLiteral.ofInt,
      decide_eq_true negative]
    rfl
  · obtain ⟨c, more, same, digit⟩ := to_digits_lead n.val.natAbs
    have value : readValue (fuel + 1) (Nat.toDigits 10 n.val.natAbs ++ rest) =
        (readNumber false (Nat.toDigits 10 n.val.natAbs ++ rest)).map fun read =>
          (.number read.1, read.2) := by
      rw [same]
      exact read_digits digit _
    rw [if_neg negative, value, read_number false _ ends, NumberLiteral.ofInt,
      decide_eq_false negative]
    rfl

theorem pretty_int (level : Nat) (n : JsonInt) : prettyChars level (.int n) = intText n.val := rfl

/-- The text of a value does not start with a blank, nor with what closes a list. -/
theorem value_lead {v : Json} (exact : v.Exact) (level : Nat) :
    ∃ c rest, prettyChars level v = c :: rest ∧ isBlank c = false ∧ c ≠ ']' := by
  cases v with
  | null => exact ⟨_, _, rfl, rfl, by decide⟩
  | bool b => cases b <;> exact ⟨_, _, rfl, rfl, by decide⟩
  | int n =>
    rw [pretty_int, intText]
    split
    · exact ⟨_, _, rfl, rfl, by decide⟩
    · obtain ⟨c, rest, same, digit⟩ := to_digits_lead n.val.natAbs
      refine ⟨c, rest, same, ?_⟩
      clear same
      simp only [List.mem_cons, List.not_mem_nil, or_false] at digit
      rcases digit with rfl | rfl | rfl | rfl | rfl | rfl | rfl | rfl | rfl | rfl <;> decide
  | float bits => exact exact.elim
  | str s => exact ⟨_, _, rfl, rfl, by decide⟩
  | arr items => cases items <;> exact ⟨_, _, rfl, rfl, by decide⟩
  | obj fields => cases fields <;> exact ⟨_, _, rfl, rfl, by decide⟩

theorem skip_to_value {v : Json} (exact : v.Exact) (level : Nat) (cs : List Char) :
    skipBlanks (prettyChars level v ++ cs) = prettyChars level v ++ cs := by
  obtain ⟨c, rest, same, solid, -⟩ := value_lead exact level
  rw [same]
  exact skip_nothing solid _

theorem pretty_items_one (level : Nat) (item : Json) :
    prettyItems level [item] = '\n' :: indentation level ++ prettyChars level item := rfl

theorem pretty_fields_one (level : Nat) (key : String) (value : Json) :
    prettyFields level [(key, value)] =
      '\n' :: indentation level ++ quote key ++ ':' :: ' ' :: prettyChars level value := rfl

theorem pretty_items_cons (level : Nat) (item next : Json) (rest : List Json) :
    prettyItems level (item :: next :: rest) = '\n' :: indentation level ++
      prettyChars level item ++ ',' :: prettyItems level (next :: rest) := rfl

theorem pretty_fields_cons (level : Nat) (key : String) (value : Json) (next : String × Json)
    (rest : List (String × Json)) : prettyFields level ((key, value) :: next :: rest) =
      '\n' :: indentation level ++ quote key ++ ':' :: ' ' :: prettyChars level value ++
        ',' :: prettyFields level (next :: rest) := rfl

/-- What is written of a list after its bracket starts with its first item. -/
theorem items_lead {item : Json} {rest : List Json} (level : Nat) (cs : List Char) :
    ∃ more, skipBlanks (prettyItems level (item :: rest) ++ cs) =
      skipBlanks (prettyChars level item ++ more) := by
  cases rest with
  | nil =>
    refine ⟨cs, ?_⟩
    rw [pretty_items_one, List.append_assoc]
    exact skip_indentation level _
  | cons next rest =>
    refine ⟨',' :: prettyItems level (next :: rest) ++ cs, ?_⟩
    rw [pretty_items_cons, List.append_assoc, List.append_assoc]
    exact skip_indentation level _

theorem read_open_list (fuel : Nat) {cs : List Char} (more : (skipBlanks cs).head? ≠ some ']') :
    readValue (fuel + 1) ('[' :: cs) =
      (readItems fuel (skipBlanks cs)).map fun read => (.arr read.1, read.2) := by
  have solid : skipBlanks ('[' :: cs) = '[' :: cs := skip_nothing rfl cs
  simp only [readValue, solid]
  split
  · next closed => exact absurd (congrArg List.head? closed) more
  · rfl

theorem read_value_list {fuel level : Nat} {item : Json} {rest : List Json} (exact : item.Exact)
    (cs : List Char) : readValue (fuel + 1) ('[' :: prettyItems level (item :: rest) ++ cs) =
      (readItems fuel (prettyItems level (item :: rest) ++ cs)).map fun read =>
        (.arr read.1, read.2) := by
  obtain ⟨more, same⟩ := items_lead level cs
  obtain ⟨c, after, lead, solid, other⟩ := value_lead exact level
  rw [skip_to_value exact, lead, List.cons_append] at same
  have further : (skipBlanks (prettyItems level (item :: rest) ++ cs)).head? ≠ some ']' := by
    rw [same]
    exact fun closed => other (Option.some.inj closed)
  rw [List.cons_append, read_open_list fuel further, read_items_skip]

/-- What is written of an object after its brace starts with its first key. -/
theorem fields_lead (key : String) (value : Json) (rest : List (String × Json)) (level : Nat)
    (cs : List Char) : ∃ more, skipBlanks (prettyFields level ((key, value) :: rest) ++ cs) =
      quote key ++ ':' :: ' ' :: prettyChars level value ++ more := by
  have lead : ∀ more, skipBlanks ('\n' :: indentation level ++ (quote key ++ more)) =
      quote key ++ more := fun more => by
    rw [skip_indentation]
    exact skip_nothing rfl _
  cases rest with
  | nil =>
    refine ⟨cs, ?_⟩
    rw [pretty_fields_one, List.append_assoc, List.append_assoc, List.append_assoc]
    exact lead _
  | cons next rest =>
    refine ⟨',' :: prettyFields level (next :: rest) ++ cs, ?_⟩
    rw [pretty_fields_cons, List.append_assoc, List.append_assoc, List.append_assoc,
      List.append_assoc]
    exact lead _

theorem read_open_object (fuel : Nat) {cs : List Char} (more : (skipBlanks cs).head? ≠ some '}') :
    readValue (fuel + 1) ('{' :: cs) =
      (readFields fuel (skipBlanks cs)).map fun read => (.obj read.1, read.2) := by
  have solid : skipBlanks ('{' :: cs) = '{' :: cs := skip_nothing rfl cs
  simp only [readValue, solid]
  split
  · next closed => exact absurd (congrArg List.head? closed) more
  · rfl

theorem read_value_object {fuel level : Nat} {field : String × Json} {rest : List (String × Json)}
    (cs : List Char) : readValue (fuel + 1) ('{' :: prettyFields level (field :: rest) ++ cs) =
      (readFields fuel (prettyFields level (field :: rest) ++ cs)).map fun read =>
        (.obj read.1, read.2) := by
  obtain ⟨more, same⟩ := fields_lead field.1 field.2 rest level cs
  have further : (skipBlanks (prettyFields level (field :: rest) ++ cs)).head? ≠ some '}' := by
    rw [same]
    exact fun closed => absurd (Option.some.inj closed) (by decide)
  rw [List.cons_append, read_open_object fuel further, read_fields_skip]

/-! An item or a field is read; what follows tells whether there are others. -/

theorem read_indented {fuel level : Nat} {v : Json} {cs : List Char}
    (read : readValue fuel (prettyChars level v ++ cs) = some (v.tree, cs)) :
    readValue fuel ('\n' :: indentation level ++ prettyChars level v ++ cs) =
      some (v.tree, cs) := by
  rw [← read_value_skip, List.append_assoc, skip_indentation, read_value_skip, read]

theorem read_last_item {fuel level outer : Nat} {item : Json} {rest : List Char}
    (read : readValue fuel (prettyChars level item ++ ('\n' :: indentation outer ++ ']' :: rest)) =
      some (item.tree, '\n' :: indentation outer ++ ']' :: rest)) :
    readItems (fuel + 1) ('\n' :: indentation level ++ prettyChars level item ++
      ('\n' :: indentation outer ++ ']' :: rest)) = some ([item.tree], rest) := by
  have closed : skipBlanks ('\n' :: indentation outer ++ ']' :: rest) = ']' :: rest := by
    rw [skip_indentation]
    exact skip_nothing rfl _
  simp only [readItems, read_indented read, Option.bind_eq_bind, Option.bind_some, closed]
  rfl

theorem read_more_items {fuel level : Nat} {item : Json} {items : List JsonTree}
    {rest left : List Char}
    (read : readValue fuel (prettyChars level item ++ ',' :: rest) = some (item.tree, ',' :: rest))
    (others : readItems fuel rest = some (items, left)) :
    readItems (fuel + 1) ('\n' :: indentation level ++ prettyChars level item ++ ',' :: rest) =
      some (item.tree :: items, left) := by
  have parted : skipBlanks (',' :: rest) = ',' :: rest := skip_nothing rfl _
  simp only [readItems, read_indented read, Option.bind_eq_bind, Option.bind_some, parted, others]
  rfl

theorem read_key {fuel level : Nat} {key : String} {value : Json} {cs : List Char}
    (read : readValue fuel (prettyChars level value ++ cs) = some (value.tree, cs)) :
    readFields (fuel + 1)
        ('\n' :: indentation level ++ quote key ++ ':' :: ' ' :: prettyChars level value ++ cs) =
      match skipBlanks cs with
      | '}' :: left => some ([(some key, value.tree)], left)
      | ',' :: rest => do
        let (fields, left) ← readFields fuel rest
        return ((some key, value.tree) :: fields, left)
      | _ => none := by
  have spaced : readValue fuel (' ' :: prettyChars level value ++ cs) = some (value.tree, cs) := by
    rw [← read, ← read_value_skip, ← read_value_skip fuel (prettyChars level value ++ cs)]
    rfl
  have lead : skipBlanks ('\n' :: indentation level ++ quote key ++
      ':' :: ' ' :: prettyChars level value ++ cs) = '"' :: (key.toList.flatMap escapeChar ++
        '"' :: (':' :: ' ' :: prettyChars level value ++ cs)) := by
    rw [List.append_assoc, List.append_assoc, skip_indentation, quote]
    simp only [List.cons_append, List.append_assoc, List.nil_append]
    exact skip_nothing rfl _
  have colon : ∀ after, skipBlanks (':' :: after) = ':' :: after := fun _ => skip_nothing rfl _
  rw [readFields, lead]
  simp only [read_string, Option.bind_eq_bind, Option.bind_some, List.cons_append, colon]
  rw [← List.cons_append, spaced]
  rfl

theorem read_last_field {fuel level outer : Nat} {key : String} {value : Json} {rest : List Char}
    (read : readValue fuel (prettyChars level value ++ ('\n' :: indentation outer ++ '}' :: rest)) =
      some (value.tree, '\n' :: indentation outer ++ '}' :: rest)) :
    readFields (fuel + 1) ('\n' :: indentation level ++ quote key ++
      ':' :: ' ' :: prettyChars level value ++ ('\n' :: indentation outer ++ '}' :: rest)) =
        some ([(some key, value.tree)], rest) := by
  have closed : skipBlanks ('\n' :: indentation outer ++ '}' :: rest) = '}' :: rest := by
    rw [skip_indentation]
    exact skip_nothing rfl _
  rw [read_key read, closed]
  rfl

theorem read_more_fields {fuel level : Nat} {key : String} {value : Json}
    {fields : List (Option String × JsonTree)} {rest left : List Char}
    (read : readValue fuel (prettyChars level value ++ ',' :: rest) =
      some (value.tree, ',' :: rest))
    (others : readFields fuel rest = some (fields, left)) :
    readFields (fuel + 1) ('\n' :: indentation level ++ quote key ++
      ':' :: ' ' :: prettyChars level value ++ ',' :: rest) =
        some ((some key, value.tree) :: fields, left) := by
  have parted : skipBlanks (',' :: rest) = ',' :: rest := skip_nothing rfl _
  rw [read_key read, parted]
  simp only [others, Option.bind_eq_bind, Option.bind_some]
  rfl

theorem text_positive {v : Json} (exact : v.Exact) (level : Nat) :
    0 < (prettyChars level v).length := by
  obtain ⟨c, rest, same, -⟩ := value_lead exact level
  rw [same, List.length_cons]
  omega

mutual

/-- A value is read from its text, whatever follows, if the fuel is enough for its length. -/
theorem read_value : ∀ (v : Json) (fuel level : Nat) (rest : List Char), v.Exact → Ends rest →
    (prettyChars level v).length ≤ fuel →
    readValue fuel (prettyChars level v ++ rest) = some (v.tree, rest)
  | v, 0, level, rest, exact, _, enough => by
    have positive := text_positive exact level
    omega
  | .null, fuel + 1, level, rest, _, _, _ => rfl
  | .bool true, fuel + 1, level, rest, _, _, _ => rfl
  | .bool false, fuel + 1, level, rest, _, _, _ => rfl
  | .int n, fuel + 1, level, rest, _, ends, _ => read_int n ends
  | .str s, fuel + 1, level, rest, _, _, _ => by
    have opened : readValue (fuel + 1) (quote s ++ rest) =
        (readString (s.toList.flatMap escapeChar ++ ['"'] ++ rest)).map fun read =>
          (.str read.1, read.2) := rfl
    rw [prettyChars, opened, List.append_assoc, List.singleton_append, read_string]
    rfl
  | .arr [], fuel + 1, level, rest, _, _, _ => rfl
  | .arr (item :: items), fuel + 1, level, rest, exact, _, enough => by
    rw [prettyChars] at enough ⊢
    · simp only [List.length_append, List.length_cons] at enough
      have inner := read_items item items fuel (level + 1) level rest exact (by omega)
      have text : '[' :: prettyItems (level + 1) (item :: items) ++ '\n' :: indentation level ++
          [']'] ++ rest = '[' :: prettyItems (level + 1) (item :: items) ++
            ('\n' :: indentation level ++ ']' :: rest) := by simp
      rw [text, read_value_list exact.1, inner]
      rfl
    all_goals exact fun none => by cases none
  | .obj [], fuel + 1, level, rest, _, _, _ => rfl
  | .obj (field :: fields), fuel + 1, level, rest, exact, _, enough => by
    rw [prettyChars] at enough ⊢
    · simp only [List.length_append, List.length_cons] at enough
      have inner := read_fields field fields fuel (level + 1) level rest exact (by omega)
      have text : '{' :: prettyFields (level + 1) (field :: fields) ++ '\n' :: indentation level ++
          ['}'] ++ rest = '{' :: prettyFields (level + 1) (field :: fields) ++
            ('\n' :: indentation level ++ '}' :: rest) := by simp
      rw [text, read_value_object, inner]
      rfl
    all_goals exact fun none => by cases none
termination_by structural _ fuel => fuel

theorem read_items : ∀ (item : Json) (items : List Json) (fuel level outer : Nat)
    (rest : List Char), AllExact (item :: items) →
    (prettyItems level (item :: items)).length ≤ fuel →
    readItems fuel (prettyItems level (item :: items) ++
      ('\n' :: indentation outer ++ ']' :: rest)) = some (trees (item :: items), rest)
  | item, [], 0, level, outer, rest, exact, enough => by
    simp [prettyItems] at enough
  | item, [], fuel + 1, level, outer, rest, exact, enough => by
    rw [prettyItems] at enough ⊢
    simp only [List.length_append, List.length_cons] at enough
    exact read_last_item (read_value item fuel level _ exact.1 (ends_of_mark (by decide) _)
      (by omega))
  | item, next :: more, 0, level, outer, rest, exact, enough => by
    simp [pretty_items_cons] at enough
  | item, next :: more, fuel + 1, level, outer, rest, exact, enough => by
    rw [pretty_items_cons] at enough ⊢
    simp only [List.length_append, List.length_cons] at enough
    have others := read_items next more fuel level outer rest exact.2 (by omega)
    rw [List.append_assoc]
    exact read_more_items (read_value item fuel level _ exact.1 (ends_of_mark (by decide) _)
      (by omega)) others
termination_by structural _ _ fuel => fuel

theorem read_fields : ∀ (field : String × Json) (fields : List (String × Json))
    (fuel level outer : Nat) (rest : List Char), FieldsExact (field :: fields) →
    (prettyFields level (field :: fields)).length ≤ fuel →
    readFields fuel (prettyFields level (field :: fields) ++
      ('\n' :: indentation outer ++ '}' :: rest)) = some (fieldTrees (field :: fields), rest)
  | (key, value), [], 0, level, outer, rest, exact, enough => by
    simp [prettyFields] at enough
  | (key, value), [], fuel + 1, level, outer, rest, exact, enough => by
    rw [prettyFields] at enough ⊢
    simp only [List.length_append, List.length_cons] at enough
    exact read_last_field (read_value value fuel level _ exact.1 (ends_of_mark (by decide) _)
      (by omega))
  | (key, value), next :: more, 0, level, outer, rest, exact, enough => by
    simp [pretty_fields_cons] at enough
  | (key, value), next :: more, fuel + 1, level, outer, rest, exact, enough => by
    rw [pretty_fields_cons] at enough ⊢
    simp only [List.length_append, List.length_cons] at enough
    have others := read_fields next more fuel level outer rest exact.2 (by omega)
    rw [List.append_assoc]
    exact read_more_fields (read_value value fuel level _ exact.1 (ends_of_mark (by decide) _)
      (by omega)) others
termination_by structural _ _ fuel => fuel

end

theorem tree_of_text {v : Json} (exact : v.Exact) : ofText? v.pretty = some v.tree := by
  have ends : Ends [] := fun c none => by cases none
  have enough : (prettyChars 0 v).length ≤ 2 * (prettyChars 0 v).length + 2 := by omega
  have read := read_value v _ 0 [] exact ends enough
  rw [List.append_nil] at read
  simp only [ofText?, Json.pretty, String.toList_ofList, read, Option.bind_eq_bind,
    Option.bind_some]
  rfl

/-! From the tree to the value. -/

/-- A key that comes after all others is entered last. -/
theorem insert_last {key : String} {value : Json} {done : Fields}
    (after : ∀ entry ∈ done, entry.1 < key) :
    Fields.insert key value done = done ++ [(key, value)] := by
  induction done with
  | nil => rfl
  | cons entry rest ih =>
    rw [List.forall_mem_cons] at after
    have other : entry.1 ≠ key := fun same => String.lt_irrefl key (same ▸ after.1)
    have before : ¬ key < entry.1 := fun lower => String.lt_asymm lower after.1
    rw [Fields.insert, if_neg other, if_neg before, ih after.2, List.cons_append]

mutual

/-- The tree of a value has that value, if it may be nested as deeply. -/
theorem value_of_tree : ∀ (v : Json) (depth : Nat), v.Exact → v.Sorted → v.nesting ≤ depth →
    toJson? depth v.tree = some v
  | .null, _, _, _, _ => rfl
  | .bool _, _, _, _, _ => rfl
  | .int n, _, _, _, _ => NumberLiteral.value_of_int n
  | .float _, _, exact, _, _ => exact.elim
  | .str _, _, _, _, _ => rfl
  | .arr items, 0, _, _, shallow => by simp [nesting] at shallow
  | .arr items, depth + 1, exact, sorted, shallow => by
    rw [nesting] at shallow
    rw [tree, toJson?, items_of_trees items depth exact sorted (by omega)]
    rfl
  | .obj fields, 0, _, _, shallow => by simp [nesting] at shallow
  | .obj fields, depth + 1, exact, sorted, shallow => by
    rw [nesting] at shallow
    rw [tree, toJson?, fields_of_trees fields depth [] exact sorted.2 (by omega) sorted.1]
    rfl

theorem items_of_trees : ∀ (items : List Json) (depth : Nat), AllExact items → AllSorted items →
    itemsNesting items ≤ depth → toJsonItems? depth (trees items) = some items
  | [], _, _, _, _ => rfl
  | item :: rest, depth, exact, sorted, shallow => by
    rw [itemsNesting] at shallow
    simp only [trees, toJsonItems?, value_of_tree item depth exact.1 sorted.1 (by omega),
      items_of_trees rest depth exact.2 sorted.2 (by omega), Option.bind_eq_bind,
      Option.bind_some]
    rfl

theorem fields_of_trees : ∀ (fields : List (String × Json)) (depth : Nat) (done : Fields),
    FieldsExact fields → FieldsSorted fields → fieldsNesting fields ≤ depth →
    Fields.Ascending (done ++ fields) →
    toJsonFields? depth done (fieldTrees fields) = some (done ++ fields)
  | [], _, done, _, _, _, _ => by rw [List.append_nil, fieldTrees, toJsonFields?]
  | (key, value) :: rest, depth, done, exact, sorted, shallow, ascending => by
    rw [fieldsNesting] at shallow
    have after : ∀ entry ∈ done, entry.1 < key := fun entry member =>
      (List.pairwise_append.mp ascending).2.2 entry member _ List.mem_cons_self
    have split : done ++ (key, value) :: rest = done ++ [(key, value)] ++ rest := by simp
    rw [split] at ascending ⊢
    simp only [fieldTrees, toJsonFields?, value_of_tree value depth exact.1 sorted.1 (by omega),
      Option.bind_eq_bind, Option.bind_some, insert_last after]
    exact fields_of_trees rest depth _ exact.2 sorted.2 (by omega) ascending

end

end JsonTree

end StackSynth
