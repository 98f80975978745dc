import StackSynth.Proofs.Asset.Stream
import StackSynth.Proofs.Assembly.Publishing

/-!
Writing an assembly never leaves a part of a document in a file of the assembly, whichever of the
changes fails.
-/
namespace StackSynth.Assembly

open FileTree

/-- The documents with the names of their files, in the order in which they are written. -/
def namedDocuments (s : Stack) (d : Documents) : List (String × String) :=
  [(templateFile s, d.template), (assetsFile s, d.assets), (manifestFile, d.manifest)]

/-- The directory that the files go to: where the path leads once its directories are made. -/
def home? (directory : String) (t : FileTree) : Option (List String) :=
  match t.makeDirs directory with
  | (.ok (), made) => made.directory? directory
  | (.error _, _) => none

/-- What every call leaves. A file of the assembly is as it was, or holds its new document as a
whole; and nothing else differs but the temporary files and the directories that were missing. -/
structure Kept (directory : String) (documents : List (String × String)) (t u : FileTree) : Prop where
  files : ∀ home, home? directory t = some home → ∀ document ∈ documents,
    u.look (home ++ [document.1]) = t.look (home ++ [document.1]) ∨
    u.look (home ++ [document.1]) = some (.file (contentOf document.2)) ∨
    (t.look (home ++ [document.1]) = none ∧ u.look (home ++ [document.1]) = some .directory)
  others : ∀ place, u.look place = t.look place ∨
    (t.look place = none ∧ u.look place = some .directory) ∨
    ∃ home, home? directory t = some home ∧ ∃ document ∈ documents,
      place = home ++ [document.1] ∨ place = home ++ [temporary document.1]

/-- What a call leaves that succeeds. -/
structure Complete (directory : String) (documents : List (String × String)) (home : List String)
    (t u : FileTree) : Prop where
  led : home? directory t = some home
  files : ∀ document ∈ documents,
    u.look (home ++ [document.1]) = some (.file (contentOf document.2))
  cleared : ∀ document ∈ documents, u.look (home ++ [temporary document.1]) = none
  /-- A link with the name of the last file can be part of the path, and is lost then. -/
  readable : (∀ document ∈ documents.getLast?, ∀ target,
      t.look (home ++ [document.1]) ≠ some (.link target)) →
    ∀ document ∈ documents, u.read (Path.join directory document.1) = .ok (contentOf document.2)

section Names

variable {s : Stack}

theorem stack_name_whole (named : Stack.isName s.name = true) : '/' ∉ s.name.toList := by
  intro slash
  rw [Stack.isName, Bool.and_eq_true, List.all_eq_true] at named
  exact absurd (named.2 '/' slash) (by decide)

theorem template_file_list (s : Stack) :
    (templateFile s).toList = s.name.toList ++ ".template.json".toList := String.toList_append

theorem assets_file_list (s : Stack) :
    (assetsFile s).toList = s.name.toList ++ ".assets.json".toList := String.toList_append

theorem file_ends (d : Documents) : ∀ document ∈ namedDocuments s d,
    document.1.toList.getLast? = some 'n' := by
  simp [namedDocuments, template_file_list, assets_file_list, manifestFile]

theorem file_whole (named : Stack.isName s.name = true) (d : Documents) :
    ∀ document ∈ namedDocuments s d, '/' ∉ document.1.toList := by
  simp [namedDocuments, template_file_list, assets_file_list, manifestFile,
    stack_name_whole named]

theorem files_distinct (s : Stack) (d : Documents) :
    ((namedDocuments s d).map (·.1)).Nodup := by
  have template_assets : templateFile s ≠ assetsFile s := by
    intro same
    have lists := congrArg String.toList same
    rw [template_file_list, assets_file_list] at lists
    exact absurd (List.append_cancel_left lists) (by decide)
  have template_manifest : templateFile s ≠ manifestFile := by
    intro same
    have length := congrArg (fun name => name.toList.length) same
    simp [template_file_list, manifestFile] at length
  have assets_manifest : assetsFile s ≠ manifestFile := by
    intro same
    have lists : s.name.toList ++ ".assets.json".toList = "m".toList ++ "anifest.json".toList :=
      (assets_file_list s).symm.trans (congrArg String.toList same)
    have ends : ".assets.json".toList = "anifest.json".toList :=
      List.append_inj_right' lists (by decide)
    exact absurd ends (by decide)
  simp [namedDocuments, template_assets, template_manifest, assets_manifest]

theorem documents_separate (named : Stack.isName s.name = true) (d : Documents) :
    Separate (namedDocuments s d) := by
  constructor
  case named =>
    intro document listed
    have ends := file_ends d document listed
    constructor
    case filled => intro empty; simp [empty] at ends
    case whole => exact file_whole named d document listed
    case moves =>
      rw [isDots, Bool.or_eq_false_iff, decide_eq_false_iff_not, decide_eq_false_iff_not]
      constructor <;> intro dots <;> simp [dots] at ends
  case distinct => exact files_distinct s d
  case final =>
    intro one listed other _ same
    have ends := file_ends d one listed
    simp [same, temporary] at ends

end Names

section Call

variable {directory : String} {documents : List (String × String)} {home : List String}
  {t made u : FileTree}

theorem changes_eq (directory : String) (s : Stack) (d : Documents) : changes directory s d =
    .makeDirs directory :: publishAll directory (namedDocuments s d) := rfl

theorem home_of_made (done : t.makeDirs directory = (.ok (), made)) :
    home? directory t = made.directory? directory := by rw [home?, done]

theorem grown_kept (directory : String) (documents : List (String × String)) (grown : Grown t u) :
    Kept directory documents t u where
  files home _ document _ := by
    rcases grown.places (home ++ [document.1]) with same | new
    · exact .inl same
    · exact .inr (.inr new)
  others place := by
    rcases grown.places place with same | new
    · exact .inl same
    · exact .inr (.inl new)

/-- Where the directories are made and then the documents published, with or without success. -/
theorem touched_kept (separate : Separate documents) (grown : Grown t made)
    (leads : home? directory t = made.directory? directory)
    (touched : Touched directory documents made u) : Kept directory documents t u := by
  have before := grown_kept directory documents grown
  constructor
  case files =>
    intro home led document listed
    rcases touched.places (home ++ [document.1]) with same | ⟨-, again, led', changed⟩
    · rw [same]
      exact before.files home led document listed
    · cases led.symm.trans (leads.trans led')
      cases changed with
      | begun other listed' here passive =>
        exact absurd (Entry.place_injective here)
          (separate.final document listed other listed')
      | published other listed' here whole =>
        have called := Entry.place_injective here
        cases List.inj_on_of_nodup_map separate.distinct listed listed' called
        exact .inr (.inl whole)
  case others =>
    intro place
    rcases touched.places place with same | ⟨-, home, led, changed⟩
    · rw [same]
      exact before.others place
    · refine .inr (.inr ⟨home, leads.trans led, ?_⟩)
      cases changed with
      | begun document listed here passive => exact ⟨document, listed, .inr here⟩
      | published document listed here whole => exact ⟨document, listed, .inl here⟩

theorem published_complete {faults : List (Option Fault)} (separate : Separate documents)
    (grown : Grown t made) (leads : home? directory t = made.directory? directory)
    (unfollowed : Unfollowed directory documents made)
    (done : performWith faults (publishAll directory documents) made = (.ok (), u))
    (led : made.directory? directory = some home) :
    Complete directory documents home t u := by
  obtain ⟨-, published⟩ := publish_all_touched separate unfollowed done
  have whole : ∀ document ∈ documents, Published directory home document u := by
    intro document listed
    obtain ⟨again, led', whole⟩ := published rfl document listed
    cases led.symm.trans led'
    exact whole
  constructor
  case led => exact leads.trans led
  case files => exact fun document listed => (whole document listed).stands
  case cleared => exact fun document listed => (whole document listed).cleared
  case readable =>
    intro unlinked document listed
    have still := published_led separate unfollowed done led
      fun document last => grown_unlinked grown (unlinked document last)
    have whole := whole document listed
    exact read_joined (separate.named document listed) whole.text whole.short still whole.stands

end Call

/-- No link stands where a temporary file of the assembly goes. -/
def Unlinked (directory : String) (s : Stack) (t : FileTree) : Prop :=
  ∀ home, home? directory t = some home →
    ∀ name ∈ [templateFile s, assetsFile s, manifestFile],
      ∀ target, t.look (home ++ [temporary name]) ≠ some (.link target)

theorem documents_of_failed {s : Stack} {e : Failure} (failed : s.synthesize = .error e) :
    documents s = .error e := by
  rw [documents, failed]
  rfl

theorem documents_of_synthesized {s : Stack} {template : Template}
    (made : s.synthesize = .ok template) :
    ∃ d, documents s = .ok d ∧ d.template = template.render := by
  rw [documents, made]
  exact ⟨_, rfl, rfl⟩

/-- What the changes leave, made one after the other and each with the fault that befalls it. -/
theorem performed_changes {s : Stack} {d : Documents} {directory : String}
    {faults : List (Option Fault)} {t u : FileTree} {outcome : Outcome Unit}
    (named : Stack.isName s.name = true) (unlinked : Unlinked directory s t)
    (done : performWith faults (changes directory s d) t = (outcome, u)) :
    Kept directory (namedDocuments s d) t u ∧ (outcome = .ok () →
      ∃ home, Complete directory (namedDocuments s d) home t u) := by
  have separate := documents_separate named d
  have listed : ∀ document ∈ namedDocuments s d,
      document.1 ∈ [templateFile s, assetsFile s, manifestFile] := by
    simp [namedDocuments]
  rw [changes_eq, performWith] at done
  cases attempted : (Change.makeDirs directory).attempt (faults.headD none) t with
  | mk first made =>
  obtain ⟨grown, succeeded⟩ := attempt_make_dirs attempted
  rw [attempted] at done
  cases first with
  | error e =>
    cases done
    exact ⟨grown_kept directory _ grown, fun ok => absurd ok failed_ne_ok⟩
  | ok _ =>
    have leads := home_of_made (succeeded rfl)
    have unfollowed : Unfollowed directory (namedDocuments s d) made :=
      fun home led document member => grown_unlinked grown
        (unlinked home (leads.trans led) document.1 (listed document member))
    obtain ⟨touched, complete⟩ := publish_all_touched separate unfollowed done
    refine ⟨touched_kept separate grown leads touched, ?_⟩
    rintro rfl
    obtain ⟨home, led, -⟩ := complete rfl (templateFile s, d.template) List.mem_cons_self
    exact ⟨home, published_complete separate grown leads unfollowed done led⟩

section Sample

/-- A stack without resources. -/
def sampleStack : Stack where
  name := "Test"
  environment := ⟨"123456789012", "us-east-1"⟩

theorem sample_synthesized : ∃ template, sampleStack.synthesize = .ok template := ⟨_, rfl⟩

/-- A tree with one directory, which holds the entries. -/
def outTree (entries : List (String × Entry)) : FileTree := ⟨.dir [("out", .dir entries)], []⟩

variable {entries : List (String × Entry)} {name : String}

theorem out_at (entries : List (String × Entry)) :
    (outTree entries).top.at? ["out"] = some (.dir entries) := by
  simp [outTree, Entry.at?, Entry.child?]

theorem out_set (name : String) (value : Option Entry) :
    (outTree entries).set (["out"] ++ [name]) value =
      outTree (Entry.setChild name value entries) := by
  simp [outTree, FileTree.set, Entry.update, Entry.child?, Entry.setChild]

theorem out_found (entries : List (String × Entry)) :
    (outTree entries).directoryFrom linkLimit ((outTree entries).start "out") (Path.names "out") =
      .ok (["out"], entries, linkLimit) := by
  have start : (outTree entries).start "out" = [] := rfl
  have names : Path.names "out" = ["out"] := by decide
  have top : (outTree entries).top.look [] = some .directory := rfl
  have out : (outTree entries).top.look ([] ++ ["out"]) = some .directory :=
    Entry.look_directory_iff.mpr ⟨entries, out_at entries⟩
  rw [start, names]
  refine directory_from_iff.mpr ⟨?_, out_at entries⟩
  rw [walk_cons, top, out]
  dsimp only
  rw [if_neg (by decide), if_neg (by decide), if_neg (by decide)]
  exact walk_nil

theorem out_made (entries : List (String × Entry)) :
    (outTree entries).makeDirs "out" = (.ok (), outTree entries) := by cbv

theorem out_home (entries : List (String × Entry)) :
    home? "out" (outTree entries) = some ["out"] :=
  (home_of_made (out_made entries)).trans (led_of_found (out_found entries))

theorem out_look (name : String) : (outTree entries).look (["out"] ++ [name]) =
    ((Entry.dir entries).child? name).map Entry.sight := look_child (out_at entries) name

theorem child_free (free : (Entry.dir entries).child? name = none) :
    ∀ entry ∈ entries, entry.1 ≠ name := by
  intro entry member called
  rw [Entry.child?, Option.map_eq_none_iff, List.find?_eq_none] at free
  exact free entry member (beq_iff_eq.mpr called)

theorem set_child_free (free : (Entry.dir entries).child? name = none) (e : Entry) :
    Entry.setChild name (some e) entries = entries ++ [(name, e)] := by
  have none : ¬ entries.any (·.1 == name) = true := by
    rw [List.any_eq_true]
    rintro ⟨entry, member, called⟩
    exact child_free free entry member (beq_iff_eq.mp called)
  rw [Entry.setChild, if_neg none]

theorem set_child_undone (free : (Entry.dir entries).child? name = none) (e : Entry) :
    Entry.setChild name none (entries ++ [(name, e)]) = entries := by
  have kept : entries.filter (·.1 != name) = entries :=
    List.filter_eq_self.mpr fun entry member => bne_iff_ne.mpr (child_free free entry member)
  simp [Entry.setChild, kept]

/-- A document that is published where nothing has its name. -/
theorem out_published {rest : List Change} {text : String} (named : EntryName name)
    (textOk : textError? (Path.join "out" name) = none)
    (temporaryOk : textError? (Path.join "out" (temporary name)) = none)
    (short : Text.byteLength (temporary name) ≤ Path.nameLimit)
    (free : (Entry.dir entries).child? (temporary name) = none)
    (plain : (Entry.dir entries).child? name = none) :
    perform (publish (Path.join "out" name) text ++ rest) (outTree entries) =
      perform rest (outTree (entries ++ [(name, .file (contentOf text))])) := by
  have temporaryNamed := temporary_named named
  have begun : outTree (entries ++ [(temporary name, .file (contentOf text))]) =
      (outTree entries).set (["out"] ++ [temporary name]) (some (.file (contentOf text))) := by
    rw [out_set, set_child_free free]
  have written : (outTree entries).write (Path.join "out" (temporary name)) (contentOf text) =
      .ok (outTree (entries ++ [(temporary name, .file (contentOf text))])) := by
    rw [begun]
    refine write_to temporaryNamed short temporaryOk (led_of_found (out_found entries)) (.inl ?_)
    rw [out_look, free]
    rfl
  have renamed : (outTree (entries ++ [(temporary name, .file (contentOf text))])).rename
      (Path.join "out" (temporary name)) (Path.join "out" name) =
        .ok (outTree (entries ++ [(name, .file (contentOf text))])) := by
    refine (rename_joined named temporaryNamed).mpr ⟨temporaryOk, textOk, short, ["out"],
      .file (contentOf text), led_of_found (out_found _), ?_, ?_, ?_⟩
    · rw [Entry.at_below (out_at _), ← set_child_free free, Entry.child_set_child, if_pos rfl]
    · rw [out_look, ← set_child_free free, Entry.child_set_child, if_neg (temporary_ne name), plain]
      exact (Option.some_ne_none _).symm
    · rw [out_set, set_child_undone free, out_set, set_child_free plain]
  rw [publish, List.cons_append, perform, temporary_join named, Change.apply, ← contentOf, written]
  dsimp only [Change.apply.settle]
  rw [List.cons_append, perform, Change.apply, renamed]
  rfl

theorem changes_sample (d : Documents) : changes "out" sampleStack d =
    .makeDirs "out" ::
      (publish (Path.join "out" "Test.template.json") d.template ++
        (publish (Path.join "out" "Test.assets.json") d.assets ++
          (publish (Path.join "out" "manifest.json") d.manifest ++ []))) := rfl

theorem template_named : EntryName "Test.template.json" := ⟨by decide, by decide, by decide⟩

theorem assets_named : EntryName "Test.assets.json" := ⟨by decide, by decide, by decide⟩

theorem manifest_named : EntryName "manifest.json" := ⟨by decide, by decide, by decide⟩

theorem sample_performed (d : Documents) : perform (changes "out" sampleStack d) (outTree []) =
    (.ok (), outTree [("Test.template.json", .file (contentOf d.template)),
      ("Test.assets.json", .file (contentOf d.assets)),
      ("manifest.json", .file (contentOf d.manifest))]) := by
  rw [changes_sample, perform, Change.apply, out_made]
  dsimp only
  rw [out_published template_named (by decide) (by decide) (by decide) rfl rfl,
    out_published assets_named (by decide) (by decide) (by decide) rfl rfl,
    out_published manifest_named (by decide) (by decide) (by decide) rfl rfl]
  rfl

/-- A link at the name of a temporary file leads to the file of another document. -/
def linkedTree : FileTree := outTree [("Test.assets.json.tmp", .link "Test.template.json")]

theorem linked_published (template assets : String) (rest : List Change) :
    perform (publish (Path.join "out" "Test.assets.json") assets ++ rest)
      (outTree [("Test.assets.json.tmp", .link "Test.template.json"),
        ("Test.template.json", .file (contentOf template))]) =
      perform rest (outTree [("Test.template.json", .file (contentOf assets)),
        ("Test.assets.json", .link "Test.template.json")]) := by
  have temporaryNamed := temporary_named assets_named
  have written : (outTree [("Test.assets.json.tmp", .link "Test.template.json"),
      ("Test.template.json", .file (contentOf template))]).write
      (Path.join "out" (temporary "Test.assets.json")) (contentOf assets) =
        .ok (outTree [("Test.assets.json.tmp", .link "Test.template.json"),
          ("Test.template.json", .file (contentOf assets))]) := by
    rw [write_through temporaryNamed (by decide) (by decide) template_named (by decide)
      (out_found _) rfl (.inr ⟨contentOf template, rfl⟩), out_set]
    rfl
  have renamed : (outTree [("Test.assets.json.tmp", .link "Test.template.json"),
      ("Test.template.json", .file (contentOf assets))]).rename
      (Path.join "out" (temporary "Test.assets.json")) (Path.join "out" "Test.assets.json") =
        .ok (outTree [("Test.template.json", .file (contentOf assets)),
          ("Test.assets.json", .link "Test.template.json")]) :=
    (rename_joined assets_named temporaryNamed).mpr ⟨by decide, by decide, by decide, ["out"],
      .link "Test.template.json", led_of_found (out_found _), rfl,
      by rw [out_look]; exact (Option.some_ne_none _).symm, rfl⟩
  rw [publish, List.cons_append, perform, temporary_join assets_named, Change.apply, ← contentOf,
    written]
  dsimp only [Change.apply.settle]
  rw [List.cons_append, perform, Change.apply, renamed]
  rfl

theorem linked_performed (d : Documents) : perform (changes "out" sampleStack d) linkedTree =
    (.ok (), outTree [("Test.template.json", .file (contentOf d.assets)),
      ("Test.assets.json", .link "Test.template.json"),
      ("manifest.json", .file (contentOf d.manifest))]) := by
  rw [changes_sample, perform, linkedTree, Change.apply, out_made]
  dsimp only
  rw [out_published template_named (by decide) (by decide) (by decide) rfl rfl]
  rw [List.singleton_append, linked_published,
    out_published manifest_named (by decide) (by decide) (by decide) rfl rfl]
  rfl

theorem sample_paths (d : Documents) : (filesOf "out" sampleStack d).map (·.1) =
    ["out/Test.template.json", "out/Test.assets.json", "out/manifest.json"] := by
  simp only [filesOf, List.map_cons, List.map_nil]
  decide

theorem sample_write {t u : FileTree} {d : Documents} (made : documents sampleStack = .ok d)
    (performed : perform (changes "out" sampleStack d) t = (.ok (), u)) :
    write "out" sampleStack t =
      (.ok ["out/Test.template.json", "out/Test.assets.json", "out/manifest.json"], u) := by
  rw [write, made]
  dsimp only
  rw [performed, sample_paths]
  rfl

theorem pretty_starts (key : String) (value : Json) (rest : List (String × Json)) :
    ∃ after, (Json.obj ((key, value) :: rest)).pretty.toList =
      ['{', '\n', ' ', ' ', '"'] ++ key.toList.flatMap Json.escapeChar ++ after := by
  cases rest <;>
    simp [Json.pretty, Json.prettyChars, Json.prettyFields, Json.indentation, Json.quote,
      List.replicate]

/-- They begin with different keys. -/
theorem template_ne_assets {s : Stack} {d : Documents} (made : documents s = .ok d) :
    d.template ≠ d.assets := by
  obtain ⟨template, synthesized, made⟩ := Outcome.bind_ok made
  cases made
  intro same
  obtain ⟨_, first⟩ :=
    pretty_starts "AWSTemplateFormatVersion" (.str template.formatVersion) _
  obtain ⟨_, second⟩ := pretty_starts "version" (.str schemaVersion) _
  have lists := (first.symm.trans (congrArg String.toList same)).trans second
  simp [Json.escapeChar] at lists

theorem content_injective {one other : String} (same : contentOf one = contentOf other) :
    one = other := by
  have texts := congrArg String.toList (utf8_injective same)
  simp only [String.toList_append, List.append_left_inj] at texts
  exact String.toList_inj.mp texts

end Sample

/-- Nothing is touched if the stack cannot be synthesized. Otherwise, whichever change fails, each file
of the assembly is as it was or holds its new document as a whole, and if none fails all do. -/
theorem documents_written_whole (faults : List (Option Fault)) (directory : String) (s : Stack)
    (t : FileTree) (named : Stack.isName s.name = true) :
    writeWith [] directory s t = write directory s t ∧
    (∀ e, s.synthesize = .error e → writeWith faults directory s t = (.error e, t)) ∧
    ∀ template, s.synthesize = .ok template →
      ∃ d, documents s = .ok d ∧ d.template = template.render ∧
      ∀ outcome u, writeWith faults directory s t = (outcome, u) →
        (∀ paths, outcome = .ok paths →
          paths = [Path.join directory (templateFile s), Path.join directory (assetsFile s),
            Path.join directory manifestFile]) ∧
        (Unlinked directory s t →
          Kept directory (namedDocuments s d) t u ∧
          ∀ paths, outcome = .ok paths →
            ∃ home, Complete directory (namedDocuments s d) home t u) := by
  refine ⟨write_with_nil directory s t, fun e failed => ?_, fun template synthesized => ?_⟩
  · rw [writeWith, documents_of_failed failed]
  · obtain ⟨d, made, rendered⟩ := documents_of_synthesized synthesized
    refine ⟨d, made, rendered, fun outcome u done => ?_⟩
    rw [writeWith, made] at done
    cases performed : performWith faults (changes directory s d) t with
    | mk result left =>
    dsimp only at done
    rw [performed] at done
    cases done
    constructor
    · rintro paths returned
      cases result with
      | error e => cases returned
      | ok _ => cases returned; rfl
    · intro unlinked
      obtain ⟨kept, complete⟩ := performed_changes named unlinked performed
      refine ⟨kept, fun paths returned => complete ?_⟩
      cases result with
      | error e => cases returned
      | ok _ => rfl

theorem sample_written_whole : Stack.isName sampleStack.name = true ∧
    Unlinked "out" sampleStack (outTree []) ∧
    ∃ d u, documents sampleStack = .ok d ∧
      write "out" sampleStack (outTree []) =
        (.ok ["out/Test.template.json", "out/Test.assets.json", "out/manifest.json"], u) ∧
      Kept "out" (namedDocuments sampleStack d) (outTree []) u ∧
      ∃ home, Complete "out" (namedDocuments sampleStack d) home (outTree []) u := by
  have named : Stack.isName sampleStack.name = true := by decide
  have unlinked : Unlinked "out" sampleStack (outTree []) := by
    intro home led name _ target
    cases (out_home []).symm.trans led
    rw [out_look]
    exact (Option.some_ne_none _).symm
  obtain ⟨template, synthesized⟩ := sample_synthesized
  obtain ⟨asEver, -, succeeds⟩ :=
    documents_written_whole [] "out" sampleStack (outTree []) named
  obtain ⟨d, made, -, always⟩ := succeeds template synthesized
  have written := sample_write made (sample_performed d)
  obtain ⟨-, safe⟩ := always _ _ (asEver.trans written)
  obtain ⟨kept, complete⟩ := safe unlinked
  exact ⟨named, unlinked, d, _, made, written, kept, complete _ rfl⟩

/-- The template is lost although the call succeeds: its file holds the list of the assets. -/
theorem linked_temporary_overwrites_template : ∃ d u, documents sampleStack = .ok d ∧
    write "out" sampleStack linkedTree =
      (.ok ["out/Test.template.json", "out/Test.assets.json", "out/manifest.json"], u) ∧
    u.read "out/Test.template.json" = .ok (contentOf d.assets) ∧
    contentOf d.assets ≠ contentOf d.template := by
  obtain ⟨template, synthesized⟩ := sample_synthesized
  obtain ⟨d, made, -⟩ := documents_of_synthesized synthesized
  refine ⟨d, _, made, sample_write made (linked_performed d), ?_, fun same => ?_⟩
  · have path : Path.join "out" "Test.template.json" = "out/Test.template.json" := by decide
    rw [← path]
    exact read_joined template_named (by decide) (by decide) (led_of_found (out_found _)) rfl
  · exact template_ne_assets made (content_injective same).symm

end StackSynth.Assembly
