import DispatchLayer.Proofs.Run.NearestManifest
import DispatchLayer.Proofs.Run.Stages

/-!
# The log of a run

Each stage of a run takes down what it has done (`eventsOf`); a stage that writes a file may have
warned before, and the warning stands even if the write fails (`warningsAt`). The log of a run is
what its stages take down one after the other, up to the first that has a fault (`Logged`).

The events of the middle level come from writes only, one from each that has gone through. So they
tell exactly which files have been written, in the order of the writes, wherever the run has broken
off (`log_cut_at_first_fault`).
-/

namespace DispatchLayer

/-- The file that an event says has been written, and its length. -/
def Event.size? : Event → Option (String × Nat)
  | .fileWritten path bytes => some (path, bytes)
  | _ => none

/-! ## Looking up the module -/

namespace ModuleId

/-- The workspace is as it was, or it has one more event: that the module is known, from the nearest
manifest. -/
inductive Noted (path : String) (w : Workspace) :
    Except ModuleIdError String → Workspace → Prop where
  | failed (e : ModuleIdError) : Noted path w (.error e) w
  | known {dir top : Location} (id : String) (h : w.tree.LeadsTo path dir)
      (hn : NearestManifest w.tree dir top) :
      Noted path w (.ok id)
        (w.noted (.moduleResolved id (w.tree.pathText (top ++ ["Cargo.toml"]))))

/-- **What looking up a module takes down**: nothing if it fails, else the one event. -/
theorem resolve_noted (path : String) (w : Workspace) :
    let looked := outcome (resolve (m := StateM Workspace) path) w
    Noted path w looked.1 looked.2 := by
  cases hc : w.tree.canonicalize path with
  | error e =>
    rw [outcome_resolve_of_error (outcome_directoryAt_of_error hc)]
    exact .failed _
  | ok dir =>
    cases hdir : w.tree.isDirectory dir with
    | false =>
      have hd := outcome_directoryAt_of_ok hc
      rw [hdir] at hd
      rw [outcome_resolve_of_error hd]
      exact .failed _
    | true =>
      have h : w.tree.LeadsTo path dir := ⟨hc, hdir⟩
      rcases exists_nearest w.tree dir with ⟨top, hn⟩ | hn
      · obtain ⟨loc, content, hm⟩ := hn.manifest
        rw [outcome_resolve_of_nearest h hn hm]
        -- Whether there is an identifier is settled by the content of the manifest.
        cases idFrom (w.tree.pathText (top ++ ["Cargo.toml"])) (dir.drop top.length) content with
        | error e => exact .failed e
        | ok id => exact .known id h hn
      · rw [outcome_resolve_of_no_manifest h hn]
        exact .failed _

end ModuleId

/-! ## Putting artifacts in place -/

namespace Run

/-- The warning about a file that is about to be replaced, if there has to be one. -/
def warnings (t : FileTree) (path : String) : List Event :=
  match t.readText path with
  | .ok old => if Artifact.isGenerated old then [] else [.replacing path]
  | .error _ => []

/-- What is taken down once an artifact is in place. -/
def reports (dir moduleId : String) (artifact : ArtifactKind × String) : List Event :=
  let path := Pathname.join dir artifact.1.fileName
  [.fileWritten path artifact.2.toUTF8.size, .artifactWritten artifact.1 path moduleId]

/-- What is taken down while artifacts are put in place, up to the first that cannot be written. -/
def placingEvents (dir moduleId : String) : List (ArtifactKind × String) → FileTree → List Event
  | [], _ => []
  | artifact :: rest, t =>
    let path := Pathname.join dir artifact.1.fileName
    warnings t path ++
      match t.writeText path artifact.2 with
      | .error _ => []
      | .ok after => reports dir moduleId artifact ++ placingEvents dir moduleId rest after

/-- The tree with artifacts written into a directory, one after the other. -/
def writeAll (dir : String) : List (ArtifactKind × String) → FileTree → Except FileError FileTree
  | [], t => .ok t
  | artifact :: rest, t => do
    writeAll dir rest (← t.writeText (Pathname.join dir artifact.1.fileName) artifact.2)

theorem writeAll_singleton (dir : String) (artifact : ArtifactKind × String) (t : FileTree) :
    writeAll dir [artifact] t =
      t.writeText (Pathname.join dir artifact.1.fileName) artifact.2 :=
  bind_pure _

/-- The events tell of these artifacts, and of no others, that they have been written: of each by an
event of the middle level with its path and the module, and by one with the length of the file. -/
structure Tells (dir moduleId : String) (events : List Event)
    (files : List (ArtifactKind × String)) : Prop where
  infos : (events.filter fun e => e.level = .info) =
    files.map fun file => .artifactWritten file.1 (Pathname.join dir file.1.fileName) moduleId
  sizes : events.filterMap Event.size? =
    files.map fun file => (Pathname.join dir file.1.fileName, file.2.toUTF8.size)

variable {dir moduleId : String} {events later : List Event}
  {files rest : List (ArtifactKind × String)}

theorem Tells.nil : Tells dir moduleId [] [] := ⟨rfl, rfl⟩

theorem Tells.append (h : Tells dir moduleId events files) (hl : Tells dir moduleId later rest) :
    Tells dir moduleId (events ++ later) (files ++ rest) where
  infos := by rw [List.filter_append, List.map_append, h.infos, hl.infos]
  sizes := by rw [List.filterMap_append, List.map_append, h.sizes, hl.sizes]

theorem tells_warnings (t : FileTree) (path : String) :
    Tells dir moduleId (warnings t path) [] := by
  unfold warnings
  split
  · split
    · exact .nil
    · exact ⟨rfl, rfl⟩
  · exact .nil

theorem tells_reports (artifact : ArtifactKind × String) :
    Tells dir moduleId (reports dir moduleId artifact) [artifact] := ⟨rfl, rfl⟩

theorem warned_log (path : String) (w : Workspace) :
    (warned path w).log = w.log ++ warnings w.tree path := by
  unfold warned warnings
  cases w.tree.readText path with
  | error e => simp
  | ok old =>
    cases hg : Artifact.isGenerated old with
    | true => simp [hg]
    | false => simp [hg, Workspace.noted]

theorem written_log (artifact : ArtifactKind × String) (after : FileTree) (w : Workspace) :
    (written dir moduleId artifact after w).log =
      w.log ++ (warnings w.tree (Pathname.join dir artifact.1.fileName) ++
        reports dir moduleId artifact) := by
  show (warned _ w).log ++ [_] ++ [_] = _
  rw [warned_log]
  simp [reports]

/-- **What is taken down** while artifacts are put in place, whatever the artifacts. -/
theorem placing_log (artifacts : List (ArtifactKind × String)) (w : Workspace) :
    (outcome (artifacts.mapM (place dir moduleId)) w).2.log =
      w.log ++ placingEvents dir moduleId artifacts w.tree := by
  induction artifacts generalizing w with
  | nil => exact (List.append_nil _).symm
  | cons artifact rest ih =>
    rw [List.mapM_cons, outcome_bind, outcome_place, placingEvents]
    cases w.tree.writeText (Pathname.join dir artifact.1.fileName) artifact.2 with
    | error e =>
      dsimp only
      rw [warned_log, List.append_nil]
    | ok after =>
      have hrest := ih (written dir moduleId artifact after w)
      rw [written_tree, written_log] at hrest
      dsimp only
      -- What is given at the end takes nothing down.
      rw [outcome_bind]
      generalize outcome (rest.mapM (place dir moduleId)) _ = result at hrest ⊢
      obtain ⟨answer, v⟩ := result
      cases answer with
      | error e => simpa using hrest
      | ok paths => simpa [outcome_pure] using hrest

/-- **What has been written** when artifacts are put in place: all of them, or those before the
first that cannot be written. The events tell of these. -/
theorem placing_writes (dir moduleId : String) (artifacts : List (ArtifactKind × String))
    (w : Workspace) :
    let out := outcome (artifacts.mapM (place dir moduleId)) w
    ∃ files rest, artifacts = files ++ rest ∧ writeAll dir files w.tree = .ok out.2.tree ∧
      Tells dir moduleId (placingEvents dir moduleId artifacts w.tree) files ∧
      ((∃ paths, out.1 = .ok paths ∧ rest = []) ∨
        ∃ failed later fe, out.1 = .error (.artifact failed.1 (.file fe)) ∧
          rest = failed :: later) := by
  induction artifacts generalizing w with
  | nil => exact ⟨[], [], rfl, rfl, .nil, Or.inl ⟨[], rfl, rfl⟩⟩
  | cons artifact artifacts ih =>
    have hwarn : Tells dir moduleId
        (warnings w.tree (Pathname.join dir artifact.1.fileName)) [] := tells_warnings _ _
    rw [List.mapM_cons, outcome_bind, outcome_place, placingEvents]
    cases hw : w.tree.writeText (Pathname.join dir artifact.1.fileName) artifact.2 with
    -- A write that fails may have warned, and nothing after it is tried.
    | error e =>
      refine ⟨[], artifact :: artifacts, rfl, ?_, hwarn.append .nil,
        Or.inr ⟨artifact, artifacts, e, rfl, rfl⟩⟩
      simp [writeAll]
    | ok after =>
      obtain ⟨files, rest, hsplit, hall, htells, hend⟩ := ih (written dir moduleId artifact after w)
      rw [written_tree] at hall htells
      dsimp only
      rw [outcome_bind]
      generalize outcome (artifacts.mapM (place dir moduleId)) _ = result at hall hend ⊢
      have hfiles : writeAll dir (artifact :: files) w.tree = .ok result.2.tree := by
        rw [writeAll, hw]
        exact hall
      refine ⟨artifact :: files, rest, by rw [hsplit, List.cons_append], ?_,
        hwarn.append ((tells_reports artifact).append htells), ?_⟩
      · obtain ⟨answer, v⟩ := result
        cases answer with
        | error e => exact hfiles
        | ok paths => exact hfiles
      · obtain ⟨answer, v⟩ := result
        rcases hend with ⟨paths, rfl, hrest⟩ | ⟨failed, later, fe, rfl, hrest⟩
        · exact Or.inl ⟨_, rfl, hrest⟩
        · exact Or.inr ⟨failed, later, fe, rfl, hrest⟩

end Run

namespace RunOptions

variable (o : RunOptions)

/-! ## What each stage takes down -/

/-- The tree that a stage finds, given the tree before the first write. -/
def treeAt (moduleId : String) (t : FileTree) : Stage → FileTree
  | .write .visitor => o.withHandlers moduleId t
  | _ => t

/-- What a stage takes down before it can fail. -/
def warningsAt (moduleId : String) (t : FileTree) : Stage → List Event
  | .write kind => Run.warnings (o.treeAt moduleId t (.write kind)) (o.pathOf kind)
  | _ => []

/-- What a stage takes down when it has gone through. What the look-up of the module takes down is
the resolver's own. -/
def eventsOf (moduleId : String) : Stage → List Event
  | .catalog =>
    [.catalogLowered (Plan.kindsOf (Plan.verdicts (Catalog.resolve o.kinds))).length]
  | .names => [.artifactsEmitted]
  | .write kind =>
    match o.text? moduleId kind with
    | none => []
    | some text => Run.reports o.dir moduleId (kind, text)
  | _ => []

/-- What the stages take down one after the other, up to the first that has a fault. -/
def eventsThrough (moduleId : String) (t : FileTree) : List Stage → List Event
  | [] => []
  | stage :: rest =>
    o.warningsAt moduleId t stage ++
      match o.faultAt (.ok moduleId) t stage with
      | some _ => []
      | none => o.eventsOf moduleId stage ++ eventsThrough moduleId t rest

/-- What a stage that goes through takes down in all. -/
def eventsAt (moduleId : String) (t : FileTree) (stage : Stage) : List Event :=
  o.warningsAt moduleId t stage ++ o.eventsOf moduleId stage

/-- The events of a run for a module, after the module has been looked up: those of all stages, or
those of the stages before the first that has a fault, which may still have warned. -/
inductive Logged (moduleId : String) (t : FileTree) :
    Except RunError (List String) → List Event → Prop where
  | complete {paths : List String}
      (h : ∀ stage ∈ Stage.all, o.faultAt (.ok moduleId) t stage = none) :
      Logged moduleId t (.ok paths) (Stage.all.flatMap (o.eventsAt moduleId t))
  | cut {before after : List Stage} {stage : Stage} {e : RunError}
      (hs : Stage.all = before ++ stage :: after)
      (hb : ∀ earlier ∈ before, o.faultAt (.ok moduleId) t earlier = none)
      (he : o.faultAt (.ok moduleId) t stage = some e) :
      Logged moduleId t (.error e)
        (before.flatMap (o.eventsAt moduleId t) ++ o.warningsAt moduleId t stage)

variable {o} {moduleId : String} {t : FileTree}

theorem eventsThrough_append (before after : List Stage) :
    o.eventsThrough moduleId t (before ++ after) =
      o.eventsThrough moduleId t before ++
        match before.findSome? (o.faultAt (.ok moduleId) t) with
        | some _ => []
        | none => o.eventsThrough moduleId t after := by
  induction before with
  | nil => rfl
  | cons stage before ih =>
    rw [List.cons_append, eventsThrough, eventsThrough, List.findSome?_cons, ih]
    cases o.faultAt (.ok moduleId) t stage with
    | some e => simp
    | none => simp

theorem eventsThrough_of_faultless {before : List Stage} (after : List Stage)
    (h : ∀ stage ∈ before, o.faultAt (.ok moduleId) t stage = none) :
    o.eventsThrough moduleId t (before ++ after) =
      before.flatMap (o.eventsAt moduleId t) ++ o.eventsThrough moduleId t after := by
  induction before with
  | nil => rfl
  | cons stage before ih =>
    rw [List.forall_mem_cons] at h
    rw [List.cons_append, eventsThrough, h.1, List.flatMap_cons, eventsAt]
    dsimp only
    rw [ih h.2]
    simp only [List.append_assoc]

/-- The events up to the first fault are those of a run that ends with it. -/
theorem logged_eventsThrough {answer : Except RunError (List String)}
    (h : ∀ e, answer = .error e ↔ o.firstFault (.ok moduleId) t = some e) :
    o.Logged moduleId t answer (o.eventsThrough moduleId t Stage.all) := by
  unfold firstFault at h
  cases answer with
  | ok paths =>
    have hnone : ∀ stage ∈ Stage.all, o.faultAt (.ok moduleId) t stage = none := by
      rw [← List.findSome?_eq_none_iff, Option.eq_none_iff_forall_ne_some]
      intro e he
      cases (h e).2 he
    have hall := eventsThrough_of_faultless [] hnone
    rw [List.append_nil, eventsThrough, List.append_nil] at hall
    rw [hall]
    exact .complete hnone
  | error e =>
    obtain ⟨before, stage, after, hs, he, hb⟩ := List.findSome?_eq_some_iff.1 ((h e).1 rfl)
    rw [hs, eventsThrough_of_faultless _ hb, eventsThrough, he, List.append_nil]
    exact .cut hs hb he

/-! ## The stages that make the texts -/

/-- A stage whose events are not about writes. -/
theorem eventsThrough_cons_silent {stage : Stage} {rest : List Stage}
    (hw : o.warningsAt moduleId t stage = []) (he : o.eventsOf moduleId stage = []) :
    o.eventsThrough moduleId t (stage :: rest) =
      match o.faultAt (.ok moduleId) t stage with
      | some _ => []
      | none => o.eventsThrough moduleId t rest := by
  rw [eventsThrough, hw, he]
  rfl

/-- Formatting takes nothing down. -/
theorem eventsThrough_format :
    o.eventsThrough moduleId t [.format .handlers, .format .visitor] = [] := by
  rw [eventsThrough_cons_silent rfl rfl]
  split
  · rfl
  · rw [eventsThrough_cons_silent rfl rfl]
    split
    · rfl
    · rfl

theorem eventsThrough_making :
    o.eventsThrough moduleId t makingStages =
      o.eventsThrough moduleId t [.catalog, .astPath, .names] := by
  show o.eventsThrough moduleId t
    ([.catalog, .astPath, .names] ++ [.format .handlers, .format .visitor]) = _
  rw [eventsThrough_append, eventsThrough_format]
  split
  · exact List.append_nil _
  · exact List.append_nil _

/-- The events after the module is known: those of making the texts, and if that has gone through
those of the two writes. -/
theorem eventsThrough_all :
    o.eventsThrough moduleId t Stage.all =
      o.eventsThrough moduleId t [.catalog, .astPath, .names] ++
        match makingStages.findSome? (o.faultAt (.ok moduleId) t) with
        | some _ => []
        | none => o.eventsThrough moduleId t [.write .handlers, .write .visitor] := by
  show o.eventsThrough moduleId t
    (.moduleId :: (makingStages ++ [.write .handlers, .write .visitor])) = _
  rw [eventsThrough_cons_silent rfl rfl]
  show o.eventsThrough moduleId t (makingStages ++ [.write .handlers, .write .visitor]) = _
  rw [eventsThrough_append, eventsThrough_making]

/-- The attempt to make the artifacts takes down what the catalog, the path and the names do. -/
theorem emitting_log (o : RunOptions) (moduleId : String) (t : FileTree) (w : Workspace) :
    (Run.emitting (Catalog.resolve o.kinds) moduleId o.astPath w).log =
      w.log ++ o.eventsThrough moduleId t [.catalog, .astPath, .names] := by
  simp only [eventsThrough, warningsAt, eventsOf, faultAt, Except.toOption, Option.bind_some]
  unfold Run.emitting catalogFault? astPathFault? nameFault? Catalog.generate Catalog.lower
  cases CatalogErrors.ofList? (Plan.errorsOf (Plan.verdicts (Catalog.resolve o.kinds))) with
  | some es => simp
  | none =>
    simp only [Except.mapError, bind, Except.bind, DispatchPlan.emit]
    cases Emission.readAstPath o.astPath with
    | error e => simp [Workspace.noted]
    | ok ast =>
      dsimp only
      cases Emission.handlers ast _ with
      | error e => simp [Workspace.noted]
      | ok handlers =>
        dsimp only
        cases Emission.visitor ast _ with
        | error e => simp [Workspace.noted]
        | ok visitor => simp [Workspace.noted, pure, Except.pure]

/-- None of these events is about a write. -/
theorem tells_making (o : RunOptions) (moduleId : String) (t : FileTree) :
    Run.Tells o.dir moduleId (o.eventsThrough moduleId t [.catalog, .astPath, .names]) [] := by
  have hcatalog : Run.Tells o.dir moduleId (o.eventsOf moduleId .catalog) [] := ⟨rfl, rfl⟩
  have hnames : Run.Tells o.dir moduleId (o.eventsOf moduleId .names) [] := ⟨rfl, rfl⟩
  simp only [eventsThrough, warningsAt, List.nil_append, List.append_nil]
  split
  · exact .nil
  · show Run.Tells o.dir moduleId _ ([] ++ [])
    refine hcatalog.append ?_
    split
    · exact .nil
    · split
      · exact .nil
      · exact hnames

/-! ## The stages that write -/

/-- The two stages that write take down what putting both artifacts in place does. -/
theorem eventsThrough_writes {handlers visitor : String}
    (hh : o.text? moduleId .handlers = some handlers)
    (hv : o.text? moduleId .visitor = some visitor) :
    o.eventsThrough moduleId t [.write .handlers, .write .visitor] =
      Run.placingEvents o.dir moduleId [(.handlers, handlers), (.visitor, visitor)] t := by
  simp only [eventsThrough, warningsAt, treeAt, eventsOf, faultAt, Except.toOption,
    Option.bind_some, hh, hv, Run.placingEvents, List.append_nil]
  rw [writeFault?_eq _ _ handlers, writeFault?_eq _ _ visitor]
  unfold withHandlers pathOf
  rw [hh]
  dsimp only
  cases t.writeText (Pathname.join o.dir ArtifactKind.handlers.fileName) handlers with
  | error fe => rfl
  | ok first =>
    dsimp only [faultOf_ok]
    cases first.writeText (Pathname.join o.dir ArtifactKind.visitor.fileName) visitor with
    | error fe => rfl
    | ok second => rfl

/-! ## The log of a run -/

/-- The artifacts that have been written by a run that ends so. -/
def kindsWritten : Except RunError (List String) → List ArtifactKind
  | .ok _ => [.handlers, .visitor]
  | .error (.artifact .visitor (.file _)) => [.handlers]
  | .error _ => []

/-- What a run for a module has written, and what its events tell of that. -/
structure Wrote (o : RunOptions) (moduleId : String) (before after : FileTree)
    (events : List Event) (files : List (ArtifactKind × String)) : Prop where
  made : ∀ file ∈ files, o.text? moduleId file.1 = some file.2
  written : Run.writeAll o.dir files before = .ok after
  told : Run.Tells o.dir moduleId events files

section Run

variable {resolve : String → ExceptT ModuleIdError (StateM Workspace) String} {w v : Workspace}

theorem outcome_run_of_error {e : ModuleIdError}
    (h : outcome (resolve o.dir) (o.started w) = (.error e, v)) :
    outcome (o.run resolve) w = (.error (.moduleId e), v) := by
  rw [outcome_run, h]

/-- A run for a module takes down what its stages do, up to the first fault. -/
theorem run_log (h : outcome (resolve o.dir) (o.started w) = (.ok moduleId, v)) :
    (outcome (o.run resolve) w).2.log = v.log ++ o.eventsThrough moduleId v.tree Stage.all := by
  rw [outcome_run, h]
  dsimp only
  rw [eventsThrough_all, ← List.append_assoc, ← emitting_log]
  rcases texts_eq o moduleId v.tree with ⟨e, hf, ht, -⟩ | ⟨hf, handlers, visitor, hh, hv, ht⟩
  · rw [hf, ht]
    exact (List.append_nil _).symm
  · rw [hf, ht]
    dsimp only
    rw [Run.placing_log, Run.emitting_tree, eventsThrough_writes hh hv]

/-- A run for a module has written what its events tell of: both artifacts, or the handlers, or
nothing. -/
theorem run_wrote (h : outcome (resolve o.dir) (o.started w) = (.ok moduleId, v)) :
    let out := outcome (o.run resolve) w
    ∃ files, o.Wrote moduleId v.tree out.2.tree (o.eventsThrough moduleId v.tree Stage.all) files ∧
      files.map Prod.fst = kindsWritten out.1 := by
  have hmaking := tells_making o moduleId v.tree
  rw [outcome_run, h]
  dsimp only
  rw [eventsThrough_all]
  rcases texts_eq o moduleId v.tree with ⟨e, hf, ht, hne⟩ | ⟨hf, handlers, visitor, hh, hv, ht⟩
  -- No texts: nothing is written, and the error is none of a write.
  · rw [hf, ht]
    refine ⟨[], ⟨by simp, ?_, hmaking.append .nil⟩, ?_⟩
    · dsimp only
      rw [Run.emitting_tree]
      rfl
    · unfold kindsWritten
      split
      next h => cases h
      next fe h =>
        cases h
        exact absurd rfl (hne _ fe)
      · rfl
  · rw [hf, ht]
    dsimp only
    -- With both texts made, all that is left is to put them in place.
    obtain ⟨files, rest, hsplit, hall, htells, hend⟩ :=
      Run.placing_writes o.dir moduleId [(.handlers, handlers), (.visitor, visitor)]
        (Run.emitting (Catalog.resolve o.kinds) moduleId o.astPath v)
    rw [Run.emitting_tree] at hall htells
    rw [eventsThrough_writes hh hv]
    refine ⟨files, ⟨?_, hall, hmaking.append htells⟩, ?_⟩
    · intro file hfile
      have hmem : file ∈ [(ArtifactKind.handlers, handlers), (.visitor, visitor)] := by
        rw [hsplit]
        exact List.mem_append_left _ hfile
      rcases List.mem_pair.1 hmem with rfl | rfl
      · exact hh
      · exact hv
    · rcases hend with ⟨paths, ho, rfl⟩ | ⟨failed, later, fe, ho, rfl⟩
      · rw [ho, ← List.append_nil files, ← hsplit]
        rfl
      · rw [ho]
        -- The one that has failed is the first or the second.
        match files, hsplit with
        | [], hsplit =>
          cases hsplit
          rfl
        | [_], hsplit =>
          cases hsplit
          rfl
        | _ :: _ :: files, hsplit => simp at hsplit

end Run

/-- **The log of a run is cut at the first fault, and tells what has been written.** Whatever the
tree, the options and the resolver: first the catalog is taken down, then whatever the resolver
takes down. If it finds no module, that is all. For a module the events of the stages follow, those
of all stages if the run ends well, and otherwise those before the stage at which it fails; that one
may still have warned. The files written are the handlers and the visitor, only the handlers if the
visitor cannot be written, and none if the run fails before. The events of the middle level tell of
exactly these, in this order, with their paths and the module, and so do those with the lengths of
the files. The resolver of packages takes down one event if it finds a module, and nothing if not. -/
theorem log_cut_at_first_fault (o : RunOptions)
    (resolve : String → ExceptT ModuleIdError (StateM Workspace) String) (w : Workspace) :
    let found := outcome (resolve o.dir) (o.started w)
    let out := outcome (o.run resolve) w
    (o.started w).log = w.log ++
        [.catalogResolved (Catalog.resolve o.kinds).size (Catalog.resolve o.kinds).source] ∧
      (∀ e, found.1 = .error e → out = (.error (.moduleId e), found.2)) ∧
      (∀ moduleId, found.1 = .ok moduleId →
        ∃ events files, out.2.log = found.2.log ++ events ∧
          o.Logged moduleId found.2.tree out.1 events ∧
          o.Wrote moduleId found.2.tree out.2.tree events files ∧
          files.map Prod.fst = kindsWritten out.1) ∧
      ∀ path v,
        let looked := outcome (ModuleId.resolve (m := StateM Workspace) path) v
        ModuleId.Noted path v looked.1 looked.2 := by
  intro found out
  refine ⟨rfl, ?_, ?_, ModuleId.resolve_noted⟩
  · intro e he
    exact outcome_run_of_error (Prod.ext he rfl)
  · intro moduleId hid
    have hfound : outcome (resolve o.dir) (o.started w) = (.ok moduleId, found.2) :=
      Prod.ext hid rfl
    obtain ⟨files, hwrote, hkinds⟩ := run_wrote hfound
    refine ⟨_, files, run_log hfound, logged_eventsThrough ?_, hwrote, hkinds⟩
    intro e
    have hends := (run_endsWith o resolve w e).1
    rwa [hfound] at hends

/-- A package with a file of another origin where the handlers should be written, and a directory
where the visitor should be. -/
def crowded : FileTree :=
  ⟨"/w", [(["Cargo.toml"], .file "[package]\nname = \"tree\"\n".toUTF8), (["out"], .directory),
    (["out", "handlers_gen.rs"], .file "fn main".toUTF8),
    (["out", "visitor_gen.rs"], .directory)]⟩

/-- The handlers are written and told of, with a warning, although the run fails afterwards. -/
theorem log_cut_at_first_fault_crowded :
    let o : RunOptions := ⟨"out", ["Ident"], "syn", false⟩
    let out := outcome (o.run ModuleId.resolve) ⟨crowded, []⟩
    out.1 = .error (.artifact .visitor (.file .isDirectory)) ∧
      ∃ text events, crowded.writeText "out/handlers_gen.rs" text = .ok out.2.tree ∧
        out.2.log = [.catalogResolved 1 .explicit,
          .moduleResolved "tree::out" "/w/Cargo.toml"] ++ events ∧
        (events.filter fun e => e.level = .info) =
          [.artifactWritten .handlers "out/handlers_gen.rs" "tree::out"] ∧
        events.filterMap Event.size? = [("out/handlers_gen.rs", text.toUTF8.size)] := by
  intro o out
  have hid : (outcome (ModuleId.resolve (m := StateM Workspace) o.dir)
      (o.started ⟨crowded, []⟩)).1 = .ok "tree::out" := by
    decide +kernel
  have hbefore : (outcome (ModuleId.resolve (m := StateM Workspace) o.dir)
      (o.started ⟨crowded, []⟩)).2.log =
        [.catalogResolved 1 .explicit, .moduleResolved "tree::out" "/w/Cargo.toml"] := by
    decide +kernel
  have htree := ModuleId.resolve_keepsTree o.dir (o.started ⟨crowded, []⟩)
  have hfails : out.1 = .error (.artifact .visitor (.file .isDirectory)) :=
    (run_endsWith o ModuleId.resolve ⟨crowded, []⟩ _).1.2 (by decide +kernel)
  obtain ⟨-, -, hknown, -⟩ := log_cut_at_first_fault o ModuleId.resolve ⟨crowded, []⟩
  obtain ⟨events, files, hlog, -, hwrote, hkinds⟩ := hknown _ hid
  have hlog' : out.2.log = [.catalogResolved 1 .explicit,
      .moduleResolved "tree::out" "/w/Cargo.toml"] ++ events := by
    rw [← hbefore]
    exact hlog
  have hone : files.map Prod.fst = [.handlers] := by
    rw [hkinds]
    show kindsWritten out.1 = _
    rw [hfails]
    rfl
  obtain ⟨⟨kind, text⟩, rfl, rfl⟩ := List.map_eq_singleton_iff.1 hone
  have hpath : Pathname.join o.dir ArtifactKind.handlers.fileName = "out/handlers_gen.rs" := by
    decide +kernel
  have hwritten := hwrote.written
  have hinfos := hwrote.told.infos
  have hsizes := hwrote.told.sizes
  simp only [List.map_cons, List.map_nil, hpath] at hinfos hsizes
  rw [htree, Run.writeAll_singleton] at hwritten
  dsimp only at hwritten
  rw [hpath] at hwritten
  exact ⟨hfails, text, events, hwritten, hlog', hinfos, hsizes⟩

end RunOptions

end DispatchLayer
