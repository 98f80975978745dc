import StackSynth.Proofs.Files.Walk
import StackSynth.Proofs.Text.Split

/-!
Changes to the entry of a directory that a path names by joining a name to the path of the directory.
-/
namespace StackSynth

/-- A name of an entry, and none of those that stay in place or lead upward. -/
structure EntryName (name : String) : Prop where
  filled : name ≠ ""
  whole : '/' ∉ name.toList
  moves : FileTree.isDots name = false

namespace Path

variable {base name : String}

theorem names_slash (front back : String) : names (front ++ "/" ++ back) = names front ++ names back := by
  have cut : (front ++ "/" ++ back).toList = front.toList ++ '/' :: back.toList := by simp
  rw [names, cut, Text.split_all_append, List.filter_append, List.map_append, names, names]

theorem names_entry (named : EntryName name) : names name = [name] := by
  have filled : name.toList ≠ [] := fun none => named.filled (String.toList_inj.mp none)
  simp [names, Text.split_all_whole named.whole, filled]

theorem relative_entry (named : EntryName name) : isAbsolute name = false := by
  rw [isAbsolute, beq_eq_false_iff_ne]
  exact fun first => named.whole (List.mem_of_mem_head? first)

theorem join_empty (name : String) : join "" name = name := by simp [join]

theorem names_join (named : EntryName name) : names (join base name) = names base ++ [name] := by
  rw [← names_entry named]
  by_cases none : base = ""
  · rw [none, join_empty]
    rfl
  simp only [join, relative_entry named, Bool.false_or, String.isEmpty_iff, if_neg none]
  split
  · next slash =>
    obtain ⟨front, cut⟩ := List.getLast?_eq_some_iff.mp (beq_iff_eq.mp slash)
    have cut : base = String.ofList front ++ "/" := by
      apply String.toList_inj.mp
      simp [cut]
    -- a slash at the end of a path adds no name
    have rest : names (String.ofList front ++ "/") = names (String.ofList front) := by
      have split := names_slash (String.ofList front) ""
      rw [String.append_empty] at split
      rw [split]
      exact List.append_nil _
    rw [cut, names_slash, rest]
  · exact names_slash base name

theorem absolute_join (named : EntryName name) : isAbsolute (join base name) = isAbsolute base := by
  by_cases none : base = ""
  · rw [none, join_empty, relative_entry named]
    rfl
  obtain ⟨first, rest, starts⟩ :=
    List.exists_cons_of_ne_nil fun empty => none (String.toList_inj.mp empty)
  simp only [join, relative_entry named, Bool.false_or, String.isEmpty_iff, if_neg none]
  split <;> simp [isAbsolute, starts]

theorem join_ends (base name : String) : ∃ front, join base name = front ++ name := by
  rw [join]
  split
  · exact ⟨"", by simp⟩
  split
  · exact ⟨base, rfl⟩
  · exact ⟨base ++ "/", rfl⟩

theorem slash_join (named : EntryName name) : endsWithSlash (join base name) = false := by
  obtain ⟨front, joined⟩ := join_ends base name
  obtain ⟨last, ends⟩ := Option.ne_none_iff_exists'.mp fun none =>
    named.filled (String.toList_inj.mp (List.getLast?_eq_none_iff.mp none))
  rw [joined, endsWithSlash, String.toList_append, List.getLast?_append, ends, Option.some_or,
    beq_eq_false_iff_ne]
  intro slash
  cases slash
  exact named.whole (List.mem_of_getLast? ends)

theorem steps_join (named : EntryName name) : steps (join base name) = names base ++ [name] := by
  rw [steps, slash_join named, names_join named]
  rfl

end Path

namespace FileTree

variable {t u : FileTree} {base name : String} {home : List String}

theorem start_join (named : EntryName name) : t.start (Path.join base name) = t.start base := by
  rw [start, start, Path.absolute_join named]

theorem look_child {entries : List (String × Entry)} (stands : t.top.at? home = some (.dir entries))
    (name : String) : t.look (home ++ [name]) = ((Entry.dir entries).child? name).map Entry.sight := by
  rw [look, Entry.look, Entry.at_below stands]

theorem found_of_led (led : t.directory? base = some home) : ∃ entries left,
    t.directoryFrom linkLimit (t.start base) (Path.names base) = .ok (home, entries, left) := by
  obtain ⟨left, way, stands⟩ := directory_iff.mp led
  obtain ⟨entries, there⟩ := Entry.look_directory_iff.mp stands
  exact ⟨entries, left, directory_from_iff.mpr ⟨way, there⟩⟩

theorem led_of_found {entries : List (String × Entry)} {left : Nat}
    (found : t.directoryFrom linkLimit (t.start base) (Path.names base) =
      .ok (home, entries, left)) : t.directory? base = some home := by
  rw [directory?, found]
  rfl

/-- The directory is found by the names before the last one, and there the entry decides. -/
theorem write_from_join {content : Bytes} {here : List String} (named : EntryName name)
    (depth links : Nat) : writeFrom content (depth + 1) links here (Path.join base name) t = (do
      let (directory, entries, links) ← t.directoryFrom links here (Path.names base)
      if Path.nameLimit < Text.byteLength name then .error .nameTooLong
      else match (Entry.dir entries).child? name, links with
        | some (.dir _), _ => .error .isDirectory
        | some (.link _), 0 => .error .tooManyLinks
        | some (.link target), links + 1 =>
          writeFrom content depth links (if Path.isAbsolute target then [] else directory) target t
        | _, _ => .ok (t.set (directory ++ [name]) (some (.file content)))) := by
  rw [writeFrom, Path.names_join named, List.reverse_append, List.reverse_singleton,
    List.singleton_append]
  dsimp only
  rw [List.reverse_reverse, named.moves, Path.slash_join named, Bool.or_self]
  rfl

theorem write_join {content : Bytes} (named : EntryName name)
    (text : textError? (Path.join base name) = none) :
    t.write (Path.join base name) content =
      writeFrom content (linkLimit + 1) linkLimit (t.start base) (Path.join base name) t := by
  rw [write, text, start_join named]

theorem rename_join {source : String} (named : EntryName name)
    (text : textError? (Path.join base name) = none) :
    t.rename (Path.join base source) (Path.join base name) = (do
      let place ← t.locate (Path.join base source) false
      let (directory, entries, _) ← t.directoryFrom linkLimit (t.start base) (Path.names base)
      match t.top.at? place, (Entry.dir entries).child? name with
      | none, _ => .error .notFound
      | some _, some (.dir _) => .error .isDirectory
      | some moved, _ => .ok ((t.set place none).set (directory ++ [name]) (some moved))) := by
  rw [rename, text, Path.names_join named, List.reverse_append, List.reverse_singleton,
    List.singleton_append]
  dsimp only
  rewrite [List.reverse_reverse, start_join named]
  rfl

section Entry

variable {top : Entry} {links : Nat} (named : EntryName name)
  (stands : top.look home = some .directory)

include named stands

/-- The last step of a walk, to an entry of the directory that it reached. -/
theorem walk_entry : walk top false links home [name] =
    if Path.nameLimit < Text.byteLength name then .error .nameTooLong
    else if top.look (home ++ [name]) = none then .error .notFound
    else .ok (home ++ [name], links) := by
  have moves := named.moves
  simp only [isDots, Bool.or_eq_false_iff, decide_eq_false_iff_not] at moves
  rw [walk_cons, stands]
  dsimp only
  rw [if_neg moves.1, if_neg moves.2]
  cases top.look (home ++ [name]) with
  | none => rfl
  | some sight => cases sight <;> simp [walk_nil]

theorem walk_entry_file {content : Bytes} (short : Text.byteLength name ≤ Path.nameLimit)
    (file : top.look (home ++ [name]) = some (.file content)) :
    walk top true links home [name] = .ok (home ++ [name], links) := by
  have moves := named.moves
  simp only [isDots, Bool.or_eq_false_iff, decide_eq_false_iff_not] at moves
  rw [walk_cons, stands]
  dsimp only
  rw [if_neg moves.1, if_neg moves.2, if_neg (Nat.not_lt.mpr short), file]
  exact walk_nil

end Entry

theorem locate_iff {place : List String} (named : EntryName name) :
    t.locate (Path.join base name) false = .ok place ↔
      textError? (Path.join base name) = none ∧ Text.byteLength name ≤ Path.nameLimit ∧
      ∃ home, t.directory? base = some home ∧ t.look (home ++ [name]) ≠ none ∧
        place = home ++ [name] := by
  rw [locate]
  cases text : textError? (Path.join base name) with
  | some e => simp
  | none =>
    simp only [FileTree.place, Path.steps_join named, start_join named,
      walk_append (List.cons_ne_nil name []), directory_iff]
    cases way : walk t.top true linkLimit (t.start base) (Path.names base) with
    | error e => simp [Except.bind, Except.map]
    | ok reached =>
      obtain ⟨home, left⟩ := reached
      simp only [Except.bind, true_and]
      constructor
      · intro found
        have stands : t.top.look home = some .directory := by
          rw [walk_cons] at found
          cases seen : t.top.look home with
          | none => rw [seen] at found; cases found
          | some sight => rw [seen] at found; cases sight <;> first | rfl | cases found
        rw [walk_entry named stands] at found
        by_cases long : Path.nameLimit < Text.byteLength name
        · rw [if_pos long] at found
          cases found
        by_cases absent : t.top.look (home ++ [name]) = none
        · rw [if_neg long, if_pos absent] at found
          cases found
        · rw [if_neg long, if_neg absent] at found
          cases found
          exact ⟨Nat.le_of_not_lt long, home, ⟨left, rfl, stands⟩, absent, rfl⟩
      · rintro ⟨short, place, ⟨again, reached, stands⟩, there, rfl⟩
        cases reached
        rw [walk_entry named stands, if_neg (Nat.not_lt.mpr short),
          if_neg (show ¬ t.top.look (home ++ [name]) = none from there)]
        rfl

/-- A file is written into the directory that the path leads to, if no link stands in its place. -/
theorem write_joined {content : Bytes} (named : EntryName name)
    (unlinked : ∀ home, t.directory? base = some home →
      ∀ target, t.look (home ++ [name]) ≠ some (.link target))
    (done : t.write (Path.join base name) content = .ok u) :
    ∃ home, t.directory? base = some home ∧ t.look (home ++ [name]) ≠ some .directory ∧
      u = t.set (home ++ [name]) (some (.file content)) := by
  cases text : textError? (Path.join base name) with
  | some e => rw [write, text] at done; cases done
  | none =>
    rw [write_join named text, write_from_join named] at done
    obtain ⟨⟨home, entries, left⟩, found, done⟩ := Outcome.bind_ok done
    have led := led_of_found found
    have seen := look_child (directory_from_iff.mp found).2 name
    refine ⟨home, led, ?_⟩
    dsimp only at done
    split at done
    · cases done
    cases child : (Entry.dir entries).child? name with
    | none =>
      rw [child] at done seen
      cases done
      exact ⟨by rw [seen]; simp, rfl⟩
    | some e =>
      rw [child] at done seen
      cases e with
      | dir inner => cases done
      | link target => exact absurd seen (unlinked home led target)
      | file former =>
        cases done
        exact ⟨by rw [seen]; simp [Entry.sight], rfl⟩

section Forward

variable {entries : List (String × Entry)} {left : Nat} {content : Bytes} (named : EntryName name)
  (short : Text.byteLength name ≤ Path.nameLimit)

include named short

theorem write_from_to {here : List String} {depth links : Nat}
    (found : t.directoryFrom links here (Path.names base) = .ok (home, entries, left))
    (free : Passive (t.look (home ++ [name]))) :
    writeFrom content (depth + 1) links here (Path.join base name) t =
      .ok (t.set (home ++ [name]) (some (.file content))) := by
  rw [look_child (directory_from_iff.mp found).2] at free
  rw [write_from_join named, found]
  simp only [bind, Except.bind, if_neg (Nat.not_lt.mpr short)]
  cases child : (Entry.dir entries).child? name with
  | none => rfl
  | some e =>
    rw [child] at free
    cases e with
    | file former => rfl
    | dir inner => exact absurd rfl (passive_not_directory free)
    | link target => exact absurd rfl (passive_not_link free target)

theorem write_to (text : textError? (Path.join base name) = none)
    (led : t.directory? base = some home) (free : Passive (t.look (home ++ [name]))) :
    t.write (Path.join base name) content =
      .ok (t.set (home ++ [name]) (some (.file content))) := by
  obtain ⟨entries, left, found⟩ := found_of_led led
  rw [write_join named text]
  exact write_from_to named short found free

/-- Where a link to a name beside it stands, the file of that name is written. -/
theorem write_through {target : String} (text : textError? (Path.join base name) = none)
    (targetNamed : EntryName target) (targetShort : Text.byteLength target ≤ Path.nameLimit)
    (found : t.directoryFrom linkLimit (t.start base) (Path.names base) =
      .ok (home, entries, left + 1))
    (link : t.look (home ++ [name]) = some (.link target))
    (free : Passive (t.look (home ++ [target]))) :
    t.write (Path.join base name) content =
      .ok (t.set (home ++ [target]) (some (.file content))) := by
  have stands := (directory_from_iff.mp found).2
  have again : t.directoryFrom left home (Path.names "") = .ok (home, entries, left) :=
    directory_from_iff.mpr ⟨walk_nil, stands⟩
  rw [look_child stands] at link
  obtain ⟨e, child, sight⟩ := Option.map_eq_some_iff.mp link
  cases e <;> cases sight
  rw [write_join named text, write_from_join named, found]
  simp only [bind, Except.bind, if_neg (Nat.not_lt.mpr short), child,
    Path.relative_entry targetNamed, if_neg Bool.false_ne_true]
  rw [← write_from_to targetNamed targetShort again free, Path.join_empty]
  rfl

end Forward

/-- A file takes the place of whatever but a directory has the new name. -/
theorem rename_joined {source : String} (named : EntryName name) (sourceNamed : EntryName source) :
    t.rename (Path.join base source) (Path.join base name) = .ok u ↔
      textError? (Path.join base source) = none ∧ textError? (Path.join base name) = none ∧
      Text.byteLength source ≤ Path.nameLimit ∧
      ∃ home moved, t.directory? base = some home ∧ t.top.at? (home ++ [source]) = some moved ∧
        t.look (home ++ [name]) ≠ some .directory ∧
        u = (t.set (home ++ [source]) none).set (home ++ [name]) (some moved) := by
  constructor
  · intro done
    have text : textError? (Path.join base name) = none := by
      obtain ⟨place, -, done⟩ := Outcome.bind_ok done
      cases text : textError? (Path.join base name) with
      | some e => rw [text] at done; cases done
      | none => rfl
    rw [rename_join named text] at done
    obtain ⟨place, located, done⟩ := Outcome.bind_ok done
    obtain ⟨sourceText, short, home, led, -, rfl⟩ := (locate_iff sourceNamed).mp located
    obtain ⟨⟨again, entries, left⟩, found, done⟩ := Outcome.bind_ok done
    cases led.symm.trans (led_of_found found)
    have seen := look_child (directory_from_iff.mp found).2 name
    refine ⟨sourceText, text, short, home, ?_⟩
    dsimp only at done
    cases there : t.top.at? (home ++ [source]) with
    | none => rw [there] at done; cases done
    | some moved =>
      refine ⟨moved, led, rfl, ?_⟩
      rw [there] at done
      cases child : (Entry.dir entries).child? name with
      | none =>
        rw [child] at done seen
        cases done
        exact ⟨by rw [seen]; simp, rfl⟩
      | some e =>
        rw [child] at done seen
        cases e <;> cases done <;> exact ⟨by rw [seen]; simp [Entry.sight], rfl⟩
  · rintro ⟨sourceText, text, short, home, moved, led, there, plain, rfl⟩
    obtain ⟨entries, left, found⟩ := found_of_led led
    have located : t.locate (Path.join base source) false = .ok (home ++ [source]) := by
      refine (locate_iff sourceNamed).mpr ⟨sourceText, short, home, led, ?_, rfl⟩
      rw [look, Entry.look, there]
      exact Option.some_ne_none _
    rw [look_child (directory_from_iff.mp found).2] at plain
    rw [rename_join named text, located, found]
    simp only [bind, Except.bind, there]
    cases child : (Entry.dir entries).child? name with
    | none => rfl
    | some e =>
      rw [child] at plain
      cases e with
      | dir inner => exact absurd rfl plain
      | file former => rfl
      | link target => rfl

/-- A file is read where the directory that the path leads to holds it. -/
theorem read_joined {content : Bytes} (named : EntryName name)
    (text : textError? (Path.join base name) = none) (short : Text.byteLength name ≤ Path.nameLimit)
    (led : t.directory? base = some home) (seen : t.look (home ++ [name]) = some (.file content)) :
    t.read (Path.join base name) = .ok content := by
  obtain ⟨left, way, stands⟩ := directory_iff.mp led
  have reached : t.locate (Path.join base name) true = .ok (home ++ [name]) := by
    rw [locate, text]
    simp only [place]
    rw [Path.steps_join named, start_join named, walk_append (List.cons_ne_nil name []), way]
    simp only [Except.bind]
    rw [walk_entry_file named stands short seen]
    rfl
  obtain ⟨e, there, sight⟩ := Option.map_eq_some_iff.mp seen
  rw [read, entry, reached]
  simp only [bind, Except.bind, there]
  cases e with
  | dir entries => cases sight
  | link target => cases sight
  | file held => cases sight; rfl

end FileTree

end StackSynth
