import StackSynth.Proofs.Template.References
import StackSynth.Proofs.Text.Utf8

/-!
The placeholders of a substitution text. Every text is cut into them in one way only, and the
references of the text are those of the names that come out. A scan over the bytes of the text ends with
the same names and never cuts inside a character.
-/
namespace StackSynth.Substitution

/-- A text cut at its placeholders: for each of them what stands before it and its name, and what
stands behind the last one. -/
structure Cuts where
  placeholders : List (List Char × List Char)
  tail : List Char

namespace Cuts

/-- The cuts of a text with one more placeholder in front. -/
def behind (piece : List Char × List Char) (cuts : Cuts) : Cuts :=
  ⟨piece :: cuts.placeholders, cuts.tail⟩

def text (cuts : Cuts) : List Char :=
  (cuts.placeholders.flatMap fun (before, name) => before ++ '$' :: '{' :: (name ++ ['}'])) ++
    cuts.tail

def names (cuts : Cuts) : List (List Char) := cuts.placeholders.map Prod.snd

/-- No placeholder opens before its place, each of them ends as soon as it can, and one that opens in
the tail stays open. -/
structure Proper (cuts : Cuts) : Prop where
  plain : ∀ piece ∈ cuts.placeholders, ¬ ['$', '{'] <:+: piece.1
  closed : ∀ piece ∈ cuts.placeholders, '}' ∉ piece.2
  stays : ∀ before after, cuts.tail = before ++ '$' :: '{' :: after → '}' ∉ after

variable {cuts other : Cuts} {before name after : List Char}

theorem text_behind (piece : List Char × List Char) (cuts : Cuts) :
    (cuts.behind piece).text = piece.1 ++ '$' :: '{' :: (piece.2 ++ '}' :: cuts.text) := by
  simp [behind, text]

theorem proper_behind (piece : List Char × List Char) (cuts : Cuts) : (cuts.behind piece).Proper ↔
    (¬ ['$', '{'] <:+: piece.1) ∧ '}' ∉ piece.2 ∧ cuts.Proper := by
  constructor
  · intro ⟨plain, closed, stays⟩
    simp only [behind, List.forall_mem_cons] at plain closed
    exact ⟨plain.1, closed.1, plain.2, closed.2, stays⟩
  · intro ⟨plain, closed, rest⟩
    exact ⟨List.forall_mem_cons.mpr ⟨plain, rest.plain⟩,
      List.forall_mem_cons.mpr ⟨closed, rest.closed⟩, rest.stays⟩

/-- Behind the first opening stands what is behind any later one. -/
theorem suffix_of_first {before' after' : List Char} (plain : ¬ ['$', '{'] <:+: before)
    (same : before ++ '$' :: '{' :: after = before' ++ '$' :: '{' :: after') : after' <:+ after := by
  induction before generalizing before' with
  | nil =>
    match before', same with
    | [], same =>
      cases same
      exact List.suffix_refl _
    | [_], same => simp at same
    | _ :: _ :: rest, same =>
      simp only [List.nil_append, List.cons_append, List.cons.injEq] at same
      exact ⟨rest ++ ['$', '{'], by simp [same.2.2]⟩
  | cons c rest ih =>
    cases before' with
    | nil =>
      have opened : ['$', '{'] <+: c :: (rest ++ '$' :: '{' :: after) :=
        ⟨after', by rw [← List.cons_append, same]; rfl⟩
      exact absurd opened (Reference.not_opened_before plain _)
    | cons d rest' =>
      rw [List.cons_append, List.cons_append, List.cons.injEq] at same
      exact ih (fun inside => plain (inside.trans (List.suffix_cons c rest).isInfix)) same.2

theorem first_opening (text : List Char) : ¬ ['$', '{'] <:+: text ∨
    ∃ before after, text = before ++ '$' :: '{' :: after ∧ ¬ ['$', '{'] <:+: before := by
  induction text with
  | nil => exact .inl (by simp)
  | cons c rest ih =>
    by_cases opened : ['$', '{'] <+: c :: rest
    · obtain ⟨after, same⟩ := opened
      exact .inr ⟨[], after, same.symm, by simp⟩
    · rcases ih with none | ⟨before, after, same, plain⟩
      · exact .inl fun inside => (List.infix_cons_iff.mp inside).elim opened none
      · refine .inr ⟨c :: before, after, congrArg (c :: ·) same, fun inside => ?_⟩
        refine (List.infix_cons_iff.mp inside).elim (fun starts => opened ?_) plain
        rw [same]
        exact starts.trans (List.prefix_append (c :: before) _)

/-- By the length of the text: behind a placeholder a shorter one is left. -/
theorem exists_proper (text : List Char) : ∃ cuts : Cuts, cuts.Proper ∧ cuts.text = text := by
  rcases first_opening text with none | ⟨before, after, same, plain⟩
  · have never : ∀ before after, text = before ++ '$' :: '{' :: after → '}' ∉ after := by
      intro before after same
      exact absurd ⟨before, after, by simp [same]⟩ none
    exact ⟨⟨[], text⟩, ⟨by simp, by simp, never⟩, rfl⟩
  · cases cut : Text.splitOnce '}' after with
    | none =>
      have stays : ∀ front back, text = front ++ '$' :: '{' :: back → '}' ∉ back := by
        intro front back later closed
        have inside := (suffix_of_first plain (same.symm.trans later)).subset closed
        exact Text.split_once_eq_none_iff.mp cut inside
      exact ⟨⟨[], text⟩, ⟨by simp, by simp, stays⟩, rfl⟩
    | some found =>
      obtain ⟨name, rest⟩ := found
      obtain ⟨whole, closed⟩ := Text.split_once_eq_some_iff.mp cut
      have shorter : rest.length < text.length := by
        rw [same, whole]
        simp
        omega
      obtain ⟨cuts, proper, left⟩ := exists_proper rest
      refine ⟨cuts.behind (before, name), (proper_behind _ _).mpr ⟨plain, closed, proper⟩, ?_⟩
      rw [text_behind, left, same, whole]
termination_by text.length

theorem first_unique {before' after' : List Char} (plain : ¬ ['$', '{'] <:+: before)
    (plain' : ¬ ['$', '{'] <:+: before')
    (same : before ++ '$' :: '{' :: after = before' ++ '$' :: '{' :: after') :
    before = before' ∧ after = after' := by
  have back : after' = after := (suffix_of_first plain same).eq_of_length_le
    (suffix_of_first plain' same.symm).length_le
  rw [back] at same
  exact ⟨List.append_cancel_right same, back.symm⟩

theorem tail_ne_behind {tail : List Char} (proper : (Cuts.mk [] tail).Proper)
    (piece : List Char × List Char) (cuts : Cuts) : tail ≠ (cuts.behind piece).text := by
  intro same
  rw [text_behind] at same
  exact proper.stays _ _ same (by simp)

/-- By the placeholders: the first one of both is the same, and so is what is behind it. -/
theorem proper_unique (proper : cuts.Proper) (also : other.Proper)
    (same : cuts.text = other.text) : cuts = other := by
  obtain ⟨pieces, tail⟩ := cuts
  obtain ⟨pieces', tail'⟩ := other
  induction pieces generalizing pieces' with
  | nil =>
    cases pieces' with
    | nil => exact congrArg (Cuts.mk []) same
    | cons piece rest => exact absurd same (tail_ne_behind proper piece ⟨rest, tail'⟩)
  | cons piece rest ih =>
    cases pieces' with
    | nil => exact absurd same.symm (tail_ne_behind also piece ⟨rest, tail⟩)
    | cons piece' rest' =>
      obtain ⟨plain, closed, proper⟩ := (proper_behind piece ⟨rest, tail⟩).mp proper
      obtain ⟨plain', closed', also⟩ := (proper_behind piece' ⟨rest', tail'⟩).mp also
      have same : (behind piece ⟨rest, tail⟩).text = (behind piece' ⟨rest', tail'⟩).text := same
      rw [text_behind, text_behind] at same
      obtain ⟨before, behind⟩ := first_unique plain plain' same
      have cut := Text.split_once_first closed (Cuts.text ⟨rest, tail⟩)
      rw [behind, Text.split_once_first closed', Option.some.injEq, Prod.mk.injEq] at cut
      have left := ih proper rest' also cut.2.symm
      rw [Cuts.mk.injEq] at left
      rw [Prod.ext before cut.1.symm, left.1, left.2]

theorem references_of_proper (proper : cuts.Proper) :
    Reference.inSubstitution cuts.text = cuts.names.flatMap Reference.ofPlaceholder := by
  obtain ⟨pieces, tail⟩ := cuts
  induction pieces with
  | nil => exact Reference.in_substitution_open proper.stays
  | cons piece rest ih =>
    obtain ⟨plain, closed, proper⟩ := (proper_behind piece ⟨rest, tail⟩).mp proper
    have step := text_behind piece ⟨rest, tail⟩
    rw [behind] at step
    rw [step, Reference.in_substitution_placeholder plain closed, ih proper]
    rfl

end Cuts

/-- What a name refers to: what stands before its first point, and the attribute behind it. -/
inductive Denotes : List Char → Reference → Prop
  | whole {name : List Char} (plain : '.' ∉ name) : Denotes name ⟨String.ofList name, none⟩
  | dotted {target attr : List Char} (first : '.' ∉ target) :
      Denotes (target ++ '.' :: attr) ⟨String.ofList target, some (String.ofList attr)⟩

/-- Names that stand for themselves and names of parameters that every stack has do not count. -/
def Counts (name : List Char) : Prop := ¬ ['!'] <+: name ∧ ¬ ['A', 'W', 'S', ':', ':'] <+: name

instance : DecidablePred Counts := fun name => by
  unfold Counts
  infer_instance

theorem denotes_of_dotted (name : List Char) : Denotes name (Reference.ofDotted name) := by
  rw [Reference.ofDotted]
  split
  · next target attr cut =>
    obtain ⟨whole, first⟩ := Text.split_once_eq_some_iff.mp cut
    rw [whole]
    exact .dotted first
  · next missing => exact .whole (Text.split_once_eq_none_iff.mp missing)

theorem counts_iff {name : List Char} :
    ¬ Counts name ↔ name.head? = some '!' ∨ isPseudoParameter (String.ofList name) = true := by
  have escaped : ['!'] <+: name ↔ name.head? = some '!' := by
    cases name with
    | nil => simp
    | cons c rest => simp [List.cons_prefix_cons, eq_comm (a := c)]
  have pseudo : ['A', 'W', 'S', ':', ':'] <+: name ↔
      isPseudoParameter (String.ofList name) = true := by
    rw [isPseudoParameter, Text.startsWith, List.isPrefixOf_iff_prefix,
      String.toList_ofList (l := name)]
    exact Iff.rfl
  rw [Counts, not_and_or, not_not, not_not, escaped, pseudo]

theorem references_denoted (names : List (List Char)) :
    List.Forall₂ Denotes (names.filter (Counts ·)) (names.flatMap Reference.ofPlaceholder) := by
  induction names with
  | nil => exact .nil
  | cons name rest ih =>
    rw [List.flatMap_cons, Reference.ofPlaceholder]
    by_cases counted : Counts name
    · rw [if_neg (mt counts_iff.mpr (not_not.mpr counted)), List.filter_cons_of_pos (by simpa)]
      exact .cons (denotes_of_dotted name) ih
    · rw [if_pos (counts_iff.mp counted), List.filter_cons_of_neg (by simpa)]
      exact ih

/-! The scan over the bytes of a text. -/

/-- One round of the scan: the name of the next placeholder and what is left behind it, or nothing more
to find. There is no round where a text would be cut inside a character. -/
def round (rest : List UInt8) : Option (Option (List UInt8 × List UInt8)) :=
  match Utf8.place? (Utf8.encode ['$', '{']) rest with
  | none => some none
  | some start => do
    let after ← Utf8.from? rest (start + 2)
    match Utf8.place? (Utf8.encode ['}']) after with
    | none => some none
    | some stop => do
      let name ← Utf8.upTo? after stop
      let rest ← Utf8.from? after (stop + 1)
      return some (name, rest)

/-- All rounds to the end, with the names that they find. -/
inductive Scan : List UInt8 → List (List UInt8) → Prop
  | ended {rest : List UInt8} (last : round rest = some none) : Scan rest []
  | found {rest name after : List UInt8} {names : List (List UInt8)}
      (next : round rest = some (some (name, after))) (later : Scan after names) :
      Scan rest (name :: names)

section Rounds

variable {before name after tail : List Char}

theorem place_of_opening (plain : ¬ ['$', '{'] <:+: before) (after : List Char) :
    Utf8.place? (Utf8.encode ['$', '{']) (Utf8.encode (before ++ '$' :: '{' :: after)) =
      some (Utf8.encode before).length :=
  Utf8.place_first after (by simp) fun _ _ behind =>
    Reference.not_opened_before (fun inside => plain (inside.trans behind.isInfix)) _

/-- The place behind an opening is one where a text may be cut. -/
theorem from_opening (before after : List Char) :
    Utf8.from? (Utf8.encode (before ++ '$' :: '{' :: after)) ((Utf8.encode before).length + 2) =
      some (Utf8.encode after) := by
  have cut := Utf8.from_boundary (before ++ ['$', '{']) after
  rw [← Utf8.encode_append, List.append_assoc, Utf8.encode_append before ['$', '{'],
    List.length_append] at cut
  exact cut

theorem place_of_end (closed : '}' ∉ name) (after : List Char) :
    Utf8.place? (Utf8.encode ['}']) (Utf8.encode (name ++ '}' :: after)) =
      some (Utf8.encode name).length :=
  Utf8.place_first after (by simp) fun c rest behind ends =>
    closed ((List.cons_prefix_cons.mp ends).1 ▸ behind.subset List.mem_cons_self)

theorem from_end (name after : List Char) :
    Utf8.from? (Utf8.encode (name ++ '}' :: after)) ((Utf8.encode name).length + 1) =
      some (Utf8.encode after) := by
  have cut := Utf8.from_boundary (name ++ ['}']) after
  rw [← Utf8.encode_append, List.append_assoc, Utf8.encode_append name ['}'],
    List.length_append] at cut
  exact cut

theorem round_of_placeholder (plain : ¬ ['$', '{'] <:+: before) (closed : '}' ∉ name)
    (after : List Char) :
    round (Utf8.encode (before ++ '$' :: '{' :: (name ++ '}' :: after))) =
      some (some (Utf8.encode name, Utf8.encode after)) := by
  have taken : Utf8.upTo? (Utf8.encode (name ++ '}' :: after)) (Utf8.encode name).length =
      some (Utf8.encode name) := by
    rw [Utf8.encode_append]
    exact Utf8.up_to_boundary name ('}' :: after)
  rw [round, place_of_opening plain]
  simp only [from_opening, Option.bind_eq_bind, Option.bind_some, place_of_end closed, taken,
    from_end]
  rfl

theorem round_of_tail
    (stays : ∀ before after, tail = before ++ '$' :: '{' :: after → '}' ∉ after) :
    round (Utf8.encode tail) = some none := by
  rcases Cuts.first_opening tail with none | ⟨before, after, rfl, plain⟩
  · rw [round, Utf8.place_none (by simp) none]
  · have missing : Utf8.place? (Utf8.encode ['}']) (Utf8.encode after) = none :=
      Utf8.place_none (by simp) (mt (fun inside => inside.subset List.mem_cons_self)
        (stays before after rfl))
    rw [round, place_of_opening plain]
    simp only [from_opening, Option.bind_eq_bind, Option.bind_some, missing]

theorem scan_of_proper {cuts : Cuts} (proper : cuts.Proper) :
    Scan (Utf8.encode cuts.text) (cuts.names.map Utf8.encode) := by
  obtain ⟨pieces, tail⟩ := cuts
  induction pieces with
  | nil => exact .ended (round_of_tail proper.stays)
  | cons piece rest ih =>
    obtain ⟨plain, closed, proper⟩ := (Cuts.proper_behind piece ⟨rest, tail⟩).mp proper
    have step := round_of_placeholder plain closed (Cuts.text ⟨rest, tail⟩)
    rw [← Cuts.text_behind piece ⟨rest, tail⟩] at step
    exact .found step (ih proper)

end Rounds

/-- The rounds of a scan are all there is to find. -/
theorem scan_unique {rest : List UInt8} {names other : List (List UInt8)} (first : Scan rest names)
    (second : Scan rest other) : names = other := by
  induction first generalizing other with
  | ended last =>
    cases second with
    | ended _ => rfl
    | found next _ => cases last.symm.trans next
  | found next _ ih =>
    cases second with
    | ended last => cases last.symm.trans next
    | found next' later =>
      cases next.symm.trans next'
      rw [ih later]

/-- Every text is cut at its placeholders in one way. Its references are those of the names that count,
one for each and in their order, and the scan over its bytes ends with these names. -/
theorem placeholders_read (text : String) :
    ∃ cuts : Cuts, (cuts.Proper ∧ cuts.text = text.toList) ∧
      (∀ other : Cuts, other.Proper ∧ other.text = text.toList → other = cuts) ∧
      List.Forall₂ Denotes (cuts.names.filter (Counts ·))
        (Reference.inSubstitution text.toList) ∧
      ∀ names, Scan text.toUTF8.toList names ↔ names = cuts.names.map Utf8.encode := by
  obtain ⟨cuts, proper, whole⟩ := Cuts.exists_proper text.toList
  refine ⟨cuts, ⟨proper, whole⟩, ?_, ?_, fun names => ?_⟩
  · exact fun other ⟨also, same⟩ => Cuts.proper_unique also proper (same.trans whole.symm)
  · rw [← whole, Cuts.references_of_proper proper]
    exact references_denoted cuts.names
  · have scanned := scan_of_proper proper
    have bytes : text.toUTF8.toList = Utf8.encode text.toList := utf8_eq text
    rw [whole, ← bytes] at scanned
    exact ⟨fun other => scan_unique other scanned, fun same => same ▸ scanned⟩

end StackSynth.Substitution
