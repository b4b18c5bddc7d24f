import DispatchLayer.Proofs.Emission.Spelling
import DispatchLayer.Proofs.Run.Resolution
import DispatchLayer.Proofs.Run.Writes
import DispatchLayer.Proofs.Text.SnakeCase

/-!
# What is read back from the files

The header of a file names the module it was made for. The name is made of the name of a package,
which can be any text, and of names of directories, so it may hold a line feed, and then the header
is not a comment of one line. That is the only way in which it can go wrong: without a line feed in
one of the names, each file that a run has written unformatted is read back as exactly the tokens of
its artifact (`read_back_as_emitted`). With one, a file need not even consist of tokens
(`broken_header`).
-/

namespace DispatchLayer

open Code Token Emission

/-! ## Artifacts -/

/-- The tokens of an artifact are well spelled. -/
theorem wellSpelled_of_generate {c : Catalog} {moduleId astPath : String} {artifacts : Artifacts}
    (h : c.generate moduleId astPath = .ok artifacts) (kind : ArtifactKind) :
    WellSpelled (artifacts.ofKind kind).tokens := by
  obtain ⟨-, hvalid, ast, ha, hh, hv⟩ := of_generate h
  obtain ⟨leading, names, rfl, -, hnames⟩ := of_readAstPath ha
  have hp : ∀ n ∈ names, Scan.isSourceName n.toList = true := fun n hn => (hnames n hn).1
  have hk : ∀ k ∈ c.kinds.map KindNames.ofName, Spelled k :=
    fun k hk => spelled_of_validate (hvalid k hk)
  cases kind with
  | handlers =>
    show WellSpelled artifacts.handlers.tokens
    rw [hh]
    exact @wellSpelled_handlersTree ⟨leading, names⟩ _ hp hk
  | visitor =>
    show WellSpelled artifacts.visitor.tokens
    rw [hv]
    exact @wellSpelled_visitorTree ⟨leading, names⟩ _ hp hk

/-- **An unformatted artifact is read back**, if its module's name has no line feed. -/
theorem ofText?_render {a : Artifact} {moduleId text : String} (ht : WellSpelled a.tokens)
    (hh : a.header = Artifact.headerFor moduleId) (hid : '\n' ∉ moduleId.toList)
    (h : a.render false = .ok text) : Token.ofText? text = some a.tokens := by
  cases h
  -- The marker begins with the two slashes of a comment.
  have hcomment : a.header = "// " ++ ("Code generated by astv v" ++ generatorVersion ++
      " for module `" ++ moduleId ++ "`. DO NOT EDIT.") := by
    rw [hh, Artifact.headerFor, Artifact.marker]
    simp only [String.append_assoc]
    rfl
  have hcomment' : '\n' ∉ ("Code generated by astv v" ++ generatorVersion ++ " for module `" ++
      moduleId ++ "`. DO NOT EDIT.").toList := by simp [hid, generatorVersion]
  have hread := ofText?_of_legible hcomment' ht.legible ht.balanced
  rw [← hcomment] at hread
  show Token.ofText? (a.header ++ "\n\n" ++ (a.source ++ "\n")) = _
  rw [← String.append_assoc]
  exact hread

/-! ## Line feeds in names -/

/-- What a part holds, the whole holds. -/
theorem mem_intercalate_of_mem {sep w : List Char} {ws : List (List Char)} {c : Char} (hw : w ∈ ws)
    (hc : c ∈ w) : c ∈ List.intercalate sep ws := by
  induction ws with
  | nil => cases hw
  | cons v ws ih =>
    cases ws with
    | nil =>
      rw [List.intercalate_singleton, ← List.mem_singleton.1 hw]
      exact hc
    | cons v' ws =>
      rw [List.intercalate_cons_cons, List.append_assoc, List.mem_append]
      rcases List.mem_cons.1 hw with rfl | hw
      · exact Or.inl hc
      · exact Or.inr (List.mem_append_right _ (ih hw))

theorem newline_mem_headerFor {moduleId : String} :
    '\n' ∈ (Artifact.headerFor moduleId).toList ↔ '\n' ∈ moduleId.toList := by
  simp [Artifact.headerFor, Artifact.marker, generatorVersion]

theorem ModuleId.newline_mem_ofPackage {package : String} :
    '\n' ∈ (ofPackage package).toList ↔ '\n' ∈ package.toList := by
  unfold ofPackage
  rw [String.toList_ofList, List.mem_map]
  constructor
  · rintro ⟨c, hc, h⟩
    split at h
    · cases h
    · exact h ▸ hc
  · exact fun h => ⟨'\n', h, rfl⟩

/-- A name with a line feed gives the identifier one, and nothing else does. -/
theorem ModuleId.newline_mem_ofParts {package : String} {below : List String} :
    '\n' ∈ (ofParts package below).toList ↔
      '\n' ∈ package.toList ∨ ∃ name ∈ segments below, '\n' ∈ name.toList := by
  unfold ofParts
  rw [String.toList_intercalate, ← newline_mem_ofPackage]
  constructor
  · intro h
    rcases Text.mem_intercalate h with h | ⟨part, hp, h⟩
    · exact absurd h (by decide)
    · obtain ⟨name, hn, rfl⟩ := List.mem_map.1 hp
      rcases List.mem_cons.1 hn with rfl | hn
      · exact Or.inl h
      · exact Or.inr ⟨name, hn, h⟩
  · rintro (h | ⟨name, hn, h⟩)
    · exact mem_intercalate_of_mem (List.mem_map_of_mem List.mem_cons_self) h
    · exact mem_intercalate_of_mem (List.mem_map_of_mem (List.mem_cons_of_mem _ hn)) h

/-! ## Texts that cannot be read -/

/-- Reading cannot get past this text. -/
def Breaks (cs : List Char) : Prop := ∀ fuel done, scanPieces fuel done cs = none

theorem Breaks.here {c : Char} {cs : List Char} (h : scanPiece (c :: cs) = none) :
    Breaks (c :: cs) := by
  intro fuel done
  cases fuel with
  | zero => rfl
  | succ fuel =>
    rw [scanPieces, h]

theorem Breaks.later {c : Char} {cs rest : List Char} {ts : List Token}
    (h : scanPiece (c :: cs) = some (ts, rest)) (hrest : Breaks rest) : Breaks (c :: cs) := by
  intro fuel done
  cases fuel with
  | zero => rfl
  | succ fuel =>
    rw [scanPieces, h]
    exact hrest fuel _

/-- Behind the line feed of this header a text goes on that is no comment, and a grave accent begins
no token. -/
theorem ofText?_brokenHeader (rest : String) :
    Token.ofText? (Artifact.headerFor "a\nb" ++ rest) = none := by
  have hchars : (Artifact.headerFor "a\nb").toList = '/' :: '/' ::
      (" Code generated by astv v0.1.0 for module `a".toList ++
        '\n' :: 'b' :: '`' :: ". DO NOT EDIT.".toList) := by decide +kernel
  have hb : Breaks ((Artifact.headerFor "a\nb").toList ++ rest.toList) := by
    rw [hchars]
    exact .later (@rfl _ (some ([], _))) (.later (@rfl _ (some ([], _))) (.later rfl (.here rfl)))
  have hmark : dropByteOrderMark ((Artifact.headerFor "a\nb").toList ++ rest.toList) =
      (Artifact.headerFor "a\nb").toList ++ rest.toList := by
    rw [hchars]
    rfl
  unfold Token.ofText? Token.ofChars?
  rw [String.toList_append, hmark]
  dsimp only
  rw [hb]

/-! ## Files -/

namespace RunOptions

/-- What a run has written that looks up the module of its directory, does not format and ends well:
each file is the header for the module, an empty line and the source. -/
theorem files_of_run {o : RunOptions} {w : Workspace} {paths : List String}
    (hformat : o.format = false) (h : (outcome (o.run ModuleId.resolve) w).1 = .ok paths)
    (hne : w.tree.destination (o.pathOf .handlers) ≠ w.tree.destination (o.pathOf .visitor)) :
    ∃ moduleId artifacts,
      (outcome (ModuleId.resolve o.dir) (o.started w)).1 = .ok moduleId ∧
      (Catalog.resolve o.kinds).generate moduleId o.astPath = .ok artifacts ∧
      ∀ kind,
        let a := artifacts.ofKind kind
        (outcome (o.run ModuleId.resolve) w).2.tree.readText (o.pathOf kind) =
          .ok (a.header ++ "\n\n" ++ (a.source ++ "\n")) ∧
        a.header = Artifact.headerFor moduleId ∧ WellSpelled a.tokens := by
  have hdone := completed_of_run (v := (outcome (o.run ModuleId.resolve) w).2) (Prod.ext h rfl)
  rw [ModuleId.resolve_keepsTree o.dir (o.started w), started_tree] at hdone
  obtain ⟨done⟩ := hdone
  obtain ⟨artifacts, hg, hr⟩ := done.generated
  refine ⟨done.moduleId, artifacts, done.answered, hg, fun kind => ⟨?_,
    header_ofKind_of_generate hg kind, wellSpelled_of_generate hg kind⟩⟩
  -- An unformatted artifact is rendered as it stands.
  have htext := hr kind
  rw [hformat] at htext
  rw [done.readText (done.loc_ne hne) kind]
  exact congrArg Except.ok (Except.ok.inj htext).symm

/-- **Files are read back as they were emitted.** A run that looks up the module of its directory,
does not format and ends well leaves, where its two paths lead to different destinations, each file
with the header for the module, an empty line and the source. The header is a single line exactly
if neither the name of the package nor the name of a directory that counts has a line feed, and then
reading the file gives exactly the tokens of the artifact: the header adds none. -/
theorem read_back_as_emitted (o : RunOptions) (w : Workspace) (paths : List String)
    (hformat : o.format = false) (h : (outcome (o.run ModuleId.resolve) w).1 = .ok paths)
    (hne : w.tree.destination (o.pathOf .handlers) ≠ w.tree.destination (o.pathOf .visitor)) :
    ∃ top below manifest package artifacts,
      w.tree.canonicalize o.dir = .ok (top ++ below) ∧
      w.tree.readTextIn top ModuleId.manifestName = .ok manifest ∧
      Manifest.packageName? manifest = .ok (some package) ∧
      (outcome (ModuleId.resolve o.dir) (o.started w)).1 = .ok (ModuleId.ofParts package below) ∧
      (Catalog.resolve o.kinds).generate (ModuleId.ofParts package below) o.astPath =
        .ok artifacts ∧
      ∀ kind,
        let a := artifacts.ofKind kind
        let text := a.header ++ "\n\n" ++ (a.source ++ "\n")
        (outcome (o.run ModuleId.resolve) w).2.tree.readText (o.pathOf kind) = .ok text ∧
        a.header = Artifact.headerFor (ModuleId.ofParts package below) ∧
        ('\n' ∉ a.header.toList ↔
          '\n' ∉ package.toList ∧ ∀ name ∈ ModuleId.segments below, '\n' ∉ name.toList) ∧
        ('\n' ∉ a.header.toList → Token.ofText? text = some a.tokens) := by
  obtain ⟨moduleId, artifacts, answered, hg, hfiles⟩ := files_of_run hformat h hne
  obtain ⟨top, below, manifest, package, hdir, hm, hp, rfl⟩ :=
    ModuleId.resolve_spec (Prod.ext answered rfl)
  rw [started_tree] at hdir hm
  refine ⟨top, below, manifest, package, artifacts, hdir, hm, hp, answered, hg, fun kind => ?_⟩
  obtain ⟨htext, hheader, hspelled⟩ := hfiles kind
  refine ⟨htext, hheader, ?_, fun hn => ofText?_render hspelled hheader ?_ rfl⟩
  -- The fixed words of a header have no line feed, and no more has what joins the parts of a name.
  · rw [hheader, newline_mem_headerFor, ModuleId.newline_mem_ofParts]
    push Not
    rfl
  · rwa [hheader, newline_mem_headerFor] at hn

/-- A package of a given name, with a directory for the files. -/
def packaged (name : String) : FileTree :=
  { top := "/work"
    entries := [(["Cargo.toml"], .file ("[package]\nname = \"" ++ name ++ "\"\n").toUTF8),
      (["src"], .directory), (["src", "a-b"], .directory)] }

/-- A run in a directory below the sources of a package. -/
theorem read_back_as_emitted_below :
    let o : RunOptions := ⟨"src/a-b", ["Ident"], "syn", false⟩
    ∃ text tokens,
      (outcome (o.run ModuleId.resolve) ⟨packaged "my-crate", []⟩).2.tree.readText
        (o.pathOf .visitor) = .ok text ∧ Token.ofText? text = some tokens := by
  intro o
  obtain ⟨-, below, -, package, artifacts, -, -, -, hid, -, hfiles⟩ :=
    read_back_as_emitted o ⟨packaged "my-crate", []⟩
      ["src/a-b/handlers_gen.rs", "src/a-b/visitor_gen.rs"] rfl (by decide +kernel)
      (by decide +kernel)
  obtain ⟨ht, hh, -, hread⟩ := hfiles .visitor
  refine ⟨_, _, ht, hread ?_⟩
  have hname : (outcome (ModuleId.resolve o.dir) (o.started ⟨packaged "my-crate", []⟩)).1 =
      .ok "my_crate::a-b" := by decide +kernel
  rw [hh, newline_mem_headerFor, Except.ok.inj (hid.symm.trans hname)]
  decide

/-- A run in the sources of a package. -/
def inSources : RunOptions := ⟨"src", ["Ident"], "syn", false⟩

/-- A package whose name has a line feed. -/
def twoLined : Workspace := ⟨packaged "a\\nb", []⟩

/-- For a package whose name has a line feed the run ends well, and what it has written for the
handlers is no text of tokens. -/
theorem broken_header :
    (outcome (inSources.run ModuleId.resolve) twoLined).1 =
        .ok ["src/handlers_gen.rs", "src/visitor_gen.rs"] ∧
      ∃ text, (outcome (inSources.run ModuleId.resolve) twoLined).2.tree.readText
          (inSources.pathOf .handlers) = .ok text ∧ Token.ofText? text = none := by
  have hresult : (outcome (inSources.run ModuleId.resolve) twoLined).1 =
      .ok ["src/handlers_gen.rs", "src/visitor_gen.rs"] := by decide +kernel
  have hname : (outcome (ModuleId.resolve inSources.dir) (inSources.started twoLined)).1 =
      .ok "a\nb" := by decide +kernel
  obtain ⟨moduleId, artifacts, hid, -, hfiles⟩ :=
    files_of_run (o := inSources) (w := twoLined) rfl hresult (by decide +kernel)
  obtain ⟨ht, hh, -⟩ := hfiles .handlers
  have hbroken : Token.ofText? ((artifacts.ofKind .handlers).header ++ "\n\n" ++
      ((artifacts.ofKind .handlers).source ++ "\n")) = none := by
    rw [hh, Except.ok.inj (hid.symm.trans hname), String.append_assoc]
    exact ofText?_brokenHeader _
  exact ⟨hresult, _, ht, hbroken⟩

end RunOptions

end DispatchLayer
