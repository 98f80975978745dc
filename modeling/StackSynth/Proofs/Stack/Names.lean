import StackSynth.Bootstrap
import StackSynth.Template.Reference
import StackSynth.LogicalId

/-!
Logical ids hold letters and digits only, and one of several components ends with a digit of a
digest. So no id of a resource is that of a parameter, be it the one of every template or one that
needs no declaration. Where the letters of two paths end differently, so do what their ids show.
-/
namespace StackSynth.LogicalId

theorem alphanumeric_of_digit {n : Nat} (digit : n < 16) :
    Text.isAsciiAlphanumeric (Nat.digitChar n).toUpper = true ∧ (Nat.digitChar n).toUpper ≠ 'n' := by
  have every : ∀ n < 16, Text.isAsciiAlphanumeric (Nat.digitChar n).toUpper = true ∧
      (Nat.digitChar n).toUpper ≠ 'n' := by decide
  exact every n digit

theorem digit_of_digest {c : Char} {components : List String} (member : c ∈ digestOf components) :
    Text.isAsciiAlphanumeric c = true ∧ c ≠ 'n' := by
  obtain ⟨lower, listed, rfl⟩ := List.mem_map.mp member
  have listed := List.mem_of_mem_take listed
  rw [Digest.hex, String.toList_ofList, List.mem_flatMap] at listed
  obtain ⟨byte, -, listed⟩ := listed
  rcases List.mem_cons.mp listed with rfl | listed
  · exact alphanumeric_of_digit (by have := byte.toNat_lt; omega)
  · cases List.mem_singleton.mp listed
    exact alphanumeric_of_digit (by omega)

theorem digest_length (components : List String) : (digestOf components).length = digestLength := by
  simp [digestOf, digestLength, Digest.hex, Digest.hexByte, Digest.Md5.digest, Digest.littleEndian]

theorem digest_ne_nil (components : List String) : digestOf components ≠ [] :=
  List.ne_nil_of_length_eq_add_one (digest_length components)

theorem readable_of_numbered {components other : List String}
    (same : numbered components = numbered other) : readable components = readable other := by
  have parts : readable components ++ digestOf components = readable other ++ digestOf other :=
    String.ofList_injective same
  exact (List.append_inj' parts (by rw [digest_length, digest_length])).1

/-- Paths that read differently have different ids, whatever their digests are. -/
theorem nodup_of_readable {paths : List (List String)} (read : (paths.map readable).Nodup) :
    (paths.map numbered).Nodup := by
  rw [List.Nodup, List.pairwise_map] at read ⊢
  exact read.imp fun differ same => differ (readable_of_numbered same)

/-- What there is to read of a path, however long it is. -/
def legible (components : List String) : List Char :=
  ((dropRepeats none components).filter (· ≠ hiddenFromReader)).flatMap alphanumerics

/-- An id that is shorter than the longest ones shows all that there is to read. -/
theorem legible_of_numbered {components other : List String}
    (same : numbered components = numbered other)
    (short : (readable other).length < readableLimit) : legible components = readable other := by
  have agree := readable_of_numbered same
  have all : (legible components).length < readableLimit := by
    rw [← agree, readable, ← legible, List.length_take] at short
    omega
  rw [← agree, readable, ← legible, List.take_of_length_le (Nat.le_of_lt all)]

/-- What is read of a path ends with its second component, if only the digest counts what follows. -/
theorem legible_ends (outer : String) {inner : String} {rest : List String}
    (shown : ¬ inner.toList <:+ hiddenFromReader.toList)
    (last : rest = [] ∨ rest = [hiddenFromReader]) :
    alphanumerics inner <:+ legible (outer :: inner :: rest) := by
  have unseen : ∀ kept, ((dropRepeats (some kept) rest).filter (· ≠ hiddenFromReader)) = [] := by
    intro kept
    rcases last with rfl | rfl
    · rfl
    · rw [dropRepeats]
      split <;> simp [dropRepeats]
  rw [legible, dropRepeats, dropRepeats]
  split
  · next repeated =>
    have ends := List.isSuffixOf_iff_suffix.mp repeated
    have visible : outer ≠ hiddenFromReader := by
      rintro rfl
      exact shown ends
    rw [List.filter_cons_of_pos (by simpa using visible), unseen, List.flatMap_singleton]
    exact ends.filter _
  · have visible : inner ≠ hiddenFromReader := by
      rintro rfl
      exact shown (List.suffix_refl _)
    have own : (inner :: dropRepeats (some inner) rest).filter (· ≠ hiddenFromReader) = [inner] := by
      rw [List.filter_cons_of_pos (by simpa using visible), unseen]
    rw [← List.singleton_append, List.filter_append, List.flatMap_append, own,
      List.flatMap_singleton]
    exact List.suffix_append _ _

theorem alphanumeric_of_numbered {c : Char} {components : List String}
    (member : c ∈ (numbered components).toList) : Text.isAsciiAlphanumeric c = true := by
  rw [numbered, String.toList_ofList] at member
  rcases List.mem_append.mp member with read | digit
  · obtain ⟨component, -, kept⟩ := List.mem_flatMap.mp (List.mem_of_mem_take read)
    exact (List.mem_filter.mp kept).2
  · exact (digit_of_digest digit).1

/-- What becomes of a path: nothing is left of it, or nothing of its only component, or that component
is its id, or the id is numbered. -/
theorem ofPath_cases (path : List String) :
    (visible path = [] ∧
      ofPath path = .error (.internal "Unable to allocate a logical id for an empty path")) ∨
    (∃ only, visible path = [only] ∧ alphanumerics only = [] ∧
      ofPath path = .error (.invalidProps only "construct id has no alphanumeric characters")) ∨
    (∃ only, visible path = [only] ∧ alphanumerics only ≠ [] ∧
      (alphanumerics only).length ≤ readableLimit ∧
      ofPath path = .ok (String.ofList (alphanumerics only))) ∨
    (visible path ≠ [] ∧
      (∀ only, visible path = [only] → readableLimit < (alphanumerics only).length) ∧
      ofPath path = .ok (numbered (visible path))) := by
  rw [ofPath]
  split
  · next none => exact .inl ⟨none, rfl⟩
  · next only alone =>
    by_cases empty : alphanumerics only = []
    · exact .inr (.inl ⟨only, alone, empty, if_pos empty⟩)
    · by_cases short : (alphanumerics only).length ≤ readableLimit
      · exact .inr (.inr (.inl ⟨only, alone, empty, short, (if_neg empty).trans (if_pos short)⟩))
      · refine .inr (.inr (.inr ⟨by simp [alone], fun other same => ?_, ?_⟩))
        · cases alone.symm.trans same
          exact Nat.not_le.mp short
        · exact ((if_neg empty).trans (if_neg short)).trans (by rw [alone])
  · next some several =>
    exact .inr (.inr (.inr ⟨some, fun only alone => absurd alone (several only), rfl⟩))

theorem alphanumeric_of_path {path : List String} {id : String} (named : ofPath path = .ok id)
    {c : Char} (member : c ∈ id.toList) : Text.isAsciiAlphanumeric c = true := by
  rcases ofPath_cases path with ⟨_, made⟩ | ⟨_, _, _, made⟩ | ⟨only, _, _, _, made⟩ | ⟨_, _, made⟩
  · cases named.symm.trans made
  · cases named.symm.trans made
  · cases named.symm.trans made
    rw [String.toList_ofList] at member
    exact (List.mem_filter.mp member).2
  · cases named.symm.trans made
    exact alphanumeric_of_numbered member

/-- What has a name of its own has one below every other name. -/
theorem ofPath_below {id : String} (shown : id ≠ hidden) (named : alphanumerics id ≠ [])
    (outer : String) : ∃ unique, ofPath [outer, id] = .ok unique := by
  by_cases outermost : outer = hidden
  · have only : visible [outer, id] = [id] := by simp [visible, outermost, shown]
    rw [ofPath, only]
    dsimp only
    rw [if_neg named]
    split <;> exact ⟨_, rfl⟩
  · have both : visible [outer, id] = [outer, id] := by simp [visible, outermost, shown]
    rw [ofPath, both]
    exact ⟨_, rfl⟩

/-- Below a path there is an id for two components that leave a trace. -/
theorem ofPath_inside (outer : List String) {name inner : String} (shown : name ≠ hidden)
    (seen : inner ≠ hidden) : ∃ unique, ofPath (outer ++ [name] ++ [inner]) = .ok unique := by
  have both : visible (outer ++ [name] ++ [inner]) = visible outer ++ [name, inner] := by
    simp [visible, shown, seen]
  have several : 2 ≤ (visible (outer ++ [name] ++ [inner])).length := by
    rw [both, List.length_append]
    exact Nat.le_add_left _ _
  rcases ofPath_cases (outer ++ [name] ++ [inner]) with ⟨none, _⟩ | ⟨only, alone, _⟩ |
    ⟨only, alone, _⟩ | ⟨_, _, made⟩
  · rw [none] at several
    cases several
  · rw [alone] at several
    exact absurd several (Nat.not_succ_le_self 1)
  · rw [alone] at several
    exact absurd several (Nat.not_succ_le_self 1)
  · exact ⟨_, made⟩

/-- Ids hold no colon, which the parameters of every stack do. -/
theorem not_pseudo_of_path {path : List String} {id : String} (named : ofPath path = .ok id) :
    isPseudoParameter id = false := by
  rw [← Bool.not_eq_true]
  intro pseudo
  have starts := List.isPrefixOf_iff_prefix.mp pseudo
  have colon : ':' ∈ id.toList := starts.subset (by decide)
  exact absurd (alphanumeric_of_path named colon) (by decide)

/-- The main resource of a construct is not called like the parameter of every template. -/
theorem not_parameter_of_path {base : List String} {id : String}
    (named : ofPath (base ++ [hiddenFromReader]) = .ok id) : id ≠ Bootstrap.versionParameter := by
  rintro rfl
  have shown : visible (base ++ [hiddenFromReader]) = visible base ++ [hiddenFromReader] := by
    rw [visible, List.filter_append]
    rfl
  rw [ofPath, shown] at named
  cases outer : visible base with
  | nil =>
    rw [outer] at named
    have read : String.ofList (alphanumerics hiddenFromReader) = "BootstrapVersion" :=
      Except.ok.inj named
    exact absurd read (by decide)
  | cons first rest =>
    rw [outer] at named
    have numbered_eq : numbered (first :: rest ++ [hiddenFromReader]) = "BootstrapVersion" := by
      cases rest <;> exact Except.ok.inj named
    -- the id ends with a digit of the digest, which no 'n' is
    have last : (readable (first :: rest ++ [hiddenFromReader]) ++
        digestOf (first :: rest ++ [hiddenFromReader])).getLast? = some 'n' := by
      rw [← String.toList_ofList (l := _ ++ _), ← numbered, numbered_eq]
      decide
    rw [List.getLast?_append, List.getLast?_eq_some_getLast (digest_ne_nil _), Option.some_or,
      Option.some.injEq] at last
    exact (digit_of_digest (last ▸ List.getLast_mem (digest_ne_nil _))).2 rfl

end StackSynth.LogicalId
