import DispatchLayer.Proofs.Run.Stages

/-!
# What a run writes

A run that ends well has written two files and touched nothing else. The paths it gives are those of
the two artifacts in the directory it was given; what stands at their destinations afterwards are
the texts of the artifacts, whatever was there before; and every other entry of the tree, links on
the way to the destinations included, is as it was (`writes_both_and_nothing_else`).

The two paths must lead to different destinations. Links can lead them to one, and then the visitor
overwrites the handlers.
-/

namespace DispatchLayer.RunOptions

variable {o : RunOptions}

/-- What a run that ends well has done: it has made both texts for a module, and has put each at its
destination, one after the other. -/
structure Completed (o : RunOptions) (answer : Except ModuleIdError String) (before after : FileTree)
    (paths : List String) where
  moduleId : String
  text : ArtifactKind → String
  loc : ArtifactKind → Location
  answered : answer = .ok moduleId
  made : ∀ kind, o.text? moduleId kind = some (text kind)
  leads : ∀ kind, before.destination (o.pathOf kind) = .ok (loc kind)
  paths_eq : paths = [o.pathOf .handlers, o.pathOf .visitor]
  after_eq : after =
    (before.set (loc .handlers) (.file (text .handlers).toUTF8)).set (loc .visitor)
      (.file (text .visitor).toUTF8)

theorem completed_of_writes {moduleId handlers visitor : String} {w v : Workspace}
    {paths : List String} (hh : o.text? moduleId .handlers = some handlers)
    (hv : o.text? moduleId .visitor = some visitor)
    (h : outcome ([(ArtifactKind.handlers, handlers), (.visitor, visitor)].mapM
      (Run.place o.dir moduleId)) w = (.ok paths, v)) :
    Nonempty (o.Completed (.ok moduleId) w.tree v.tree paths) := by
  rw [Run.outcome_place_pair] at h
  cases hd : w.tree.writeText (Pathname.join o.dir ArtifactKind.handlers.fileName) handlers with
  | error fe =>
    rw [hd] at h
    cases h
  | ok first =>
    rw [hd] at h
    dsimp only at h
    cases hd' : first.writeText (Pathname.join o.dir ArtifactKind.visitor.fileName) visitor with
    | error fe =>
      rw [hd'] at h
      cases h
    | ok second =>
      rw [hd'] at h
      cases h
      obtain ⟨here, hp, rfl⟩ := FileTree.writeText_eq_ok_iff.1 hd
      obtain ⟨there, hq, rfl⟩ := FileTree.writeText_eq_ok_iff.1 hd'
      -- The first write has moved no destination.
      rw [FileTree.destination_set_eq_ok_iff (FileTree.destination_spec hp)] at hq
      refine ⟨moduleId, fun kind => kind.rec handlers visitor, fun kind => kind.rec here there, rfl,
        ?_, ?_, rfl, rfl⟩
      · intro kind
        cases kind with
        | handlers => exact hh
        | visitor => exact hv
      · intro kind
        cases kind with
        | handlers => exact hp
        | visitor => exact hq

theorem completed_of_run {resolve : String → ExceptT ModuleIdError (StateM Workspace) String}
    {w v : Workspace} {paths : List String} (h : outcome (o.run resolve) w = (.ok paths, v)) :
    Nonempty (o.Completed (outcome (resolve o.dir) (o.started w)).1
      (outcome (resolve o.dir) (o.started w)).2.tree v.tree paths) := by
  rw [outcome_run] at h
  generalize outcome (resolve o.dir) (o.started w) = found at h ⊢
  obtain ⟨answer, u⟩ := found
  cases answer with
  | error e => cases h
  | ok moduleId =>
    dsimp only at h ⊢
    rcases texts_eq o moduleId u.tree with ⟨e, -, ht, -⟩ | ⟨-, handlers, visitor, hh, hv, ht⟩
    · rw [ht] at h
      cases h
    · rw [ht] at h
      have hc := completed_of_writes hh hv h
      rwa [Run.emitting_tree] at hc

theorem text?_eq_some_iff {moduleId text : String} {kind : ArtifactKind} :
    o.text? moduleId kind = some text ↔
      ∃ artifacts, (Catalog.resolve o.kinds).generate moduleId o.astPath = .ok artifacts ∧
        (artifacts.ofKind kind).render o.format = .ok text := by
  unfold text? artifacts?
  cases (Catalog.resolve o.kinds).generate moduleId o.astPath with
  | error e => simp [Except.toOption]
  | ok artifacts =>
    simp only [Except.toOption, Option.bind_some, Except.ok.injEq, exists_eq_left']
    cases (artifacts.ofKind kind).render o.format with
    | error e => simp
    | ok text => simp

namespace Completed

variable {answer : Except ModuleIdError String} {before after : FileTree} {paths : List String}
  {loc : Location}

/-- Both texts are renderings of what one generation has made. -/
theorem generated (done : o.Completed answer before after paths) :
    ∃ artifacts, (Catalog.resolve o.kinds).generate done.moduleId o.astPath = .ok artifacts ∧
      ∀ kind, (artifacts.ofKind kind).render o.format = .ok (done.text kind) := by
  obtain ⟨artifacts, hg, -⟩ := text?_eq_some_iff.1 (done.made .handlers)
  refine ⟨artifacts, hg, fun kind => ?_⟩
  obtain ⟨artifacts', hg', hr⟩ := text?_eq_some_iff.1 (done.made kind)
  rw [hg] at hg'
  cases hg'
  exact hr

theorem writable (done : o.Completed answer before after paths) (kind : ArtifactKind) :
    before.Writable (done.loc kind) :=
  FileTree.destination_spec (done.leads kind)

theorem loc_ne (done : o.Completed answer before after paths)
    (hne : before.destination (o.pathOf .handlers) ≠ before.destination (o.pathOf .visitor)) :
    done.loc .handlers ≠ done.loc .visitor := by
  intro he
  exact hne (by rw [done.leads, done.leads, he])

/-- Each text stands at its destination, if there are two of them. -/
theorem lookup_loc (done : o.Completed answer before after paths)
    (hne : done.loc .handlers ≠ done.loc .visitor) (kind : ArtifactKind) :
    after.lookup (done.loc kind) = some (.file (done.text kind).toUTF8) := by
  have hw := done.writable
  obtain ⟨moduleId, text, loc, answered, made, leads, paths_eq, rfl⟩ := done
  cases kind with
  | handlers =>
    refine (FileTree.lookup_set_of_ne _ hne _).trans ?_
    exact FileTree.lookup_set_self _ (hw _).ne_nil _
  | visitor => exact FileTree.lookup_set_self _ (hw _).ne_nil _

/-- Reading a path afterwards gives its text, if there are two destinations. -/
theorem readText (done : o.Completed answer before after paths)
    (hne : done.loc .handlers ≠ done.loc .visitor) (kind : ArtifactKind) :
    after.readText (o.pathOf kind) = .ok (done.text kind) := by
  obtain ⟨moduleId, text, loc, answered, made, leads, paths_eq, rfl⟩ := done
  obtain ⟨hh, hv, -⟩ := FileTree.readText_set_set (a := text .handlers) (b := text .visitor)
    (leads .handlers) (leads .visitor) hne
  cases kind with
  | handlers => exact hh
  | visitor => exact hv

/-- What stands elsewhere has not changed. -/
theorem lookup_of_ne (done : o.Completed answer before after paths)
    (hne : ∀ kind, loc ≠ done.loc kind) : after.lookup loc = before.lookup loc := by
  rw [done.after_eq, FileTree.lookup_set_of_ne _ (hne _), FileTree.lookup_set_of_ne _ (hne _)]

/-- A link stands at neither destination, so it has not changed. -/
theorem lookup_link (done : o.Completed answer before after paths) {target : String}
    (hl : before.lookup loc = some (.link target)) : after.lookup loc = some (.link target) := by
  rw [done.lookup_of_ne fun kind he => (done.writable kind).not_link target (he ▸ hl)]
  exact hl

theorem top_eq (done : o.Completed answer before after paths) : after.top = before.top := by
  rw [done.after_eq]
  rfl

end Completed

/-- Texts that can be made one by one are the texts of the run. -/
theorem texts_of_text? {moduleId handlers visitor : String}
    (hh : o.text? moduleId .handlers = some handlers)
    (hv : o.text? moduleId .visitor = some visitor) :
    o.texts moduleId = .ok [(.handlers, handlers), (.visitor, visitor)] := by
  obtain ⟨artifacts, hg, hrh⟩ := text?_eq_some_iff.1 hh
  obtain ⟨artifacts', hg', hrv⟩ := text?_eq_some_iff.1 hv
  rw [hg] at hg'
  cases hg'
  have hkh := kind_ofKind_of_generate hg .handlers
  have hkv := kind_ofKind_of_generate hg .visitor
  simp only [Artifacts.ofKind] at hrh hrv hkh hkv
  unfold texts
  rw [hg]
  simp only [Artifacts.toList, List.mapM_cons, List.mapM_nil, Artifact.rendered, hrh, hrv, hkh, hkv,
    bind, Except.bind, pure, Except.pure]

/-- **A run ends well exactly if it has done all that a run has to do.** -/
theorem run_eq_ok_iff {resolve : String → ExceptT ModuleIdError (StateM Workspace) String}
    {w : Workspace} {paths : List String} {after : FileTree} :
    ((outcome (o.run resolve) w).1 = .ok paths ∧ (outcome (o.run resolve) w).2.tree = after) ↔
      Nonempty (o.Completed (outcome (resolve o.dir) (o.started w)).1
        (outcome (resolve o.dir) (o.started w)).2.tree after paths) := by
  constructor
  · rintro ⟨h, rfl⟩
    exact completed_of_run (Prod.ext h rfl)
  · rintro ⟨⟨moduleId, text, loc, answered, made, leads, rfl, rfl⟩⟩
    rw [outcome_run]
    generalize outcome (resolve o.dir) (o.started w) = found at answered leads ⊢
    obtain ⟨answer, u⟩ := found
    cases answered
    dsimp only at leads ⊢
    rw [texts_of_text? (made .handlers) (made .visitor)]
    dsimp only
    -- Each write finds its destination, the second also after the first.
    have hh : u.tree.writeText (o.pathOf .handlers) (text .handlers) =
        .ok (u.tree.set (loc .handlers) (.file (text .handlers).toUTF8)) :=
      FileTree.writeText_eq_ok_iff.2 ⟨_, leads .handlers, rfl⟩
    have hv : (u.tree.set (loc .handlers) (.file (text .handlers).toUTF8)).writeText
        (o.pathOf .visitor) (text .visitor) = .ok ((u.tree.set (loc .handlers)
          (.file (text .handlers).toUTF8)).set (loc .visitor) (.file (text .visitor).toUTF8)) := by
      refine FileTree.writeText_eq_ok_iff.2 ⟨loc .visitor, ?_, rfl⟩
      apply (FileTree.destination_set_eq_ok_iff (FileTree.destination_spec (leads .handlers))).2
      exact leads .visitor
    unfold pathOf at hh hv
    rw [Run.outcome_place_pair]
    simp only [Run.emitting_tree, hh, hv]
    exact ⟨rfl, rfl⟩

/-- **Both files and nothing else.** Whatever the tree, the options and the resolver: if a run ends
well and its two paths lead to different destinations, it gives those two paths, the handlers' first;
reading them afterwards gives the texts of the two artifacts, which stand as files where a file or
nothing stood before; all other entries of the tree are as the resolver has left them, and no link
has changed. A resolver that only reads, as the resolver of packages does, has left the tree as it
was. -/
theorem writes_both_and_nothing_else (o : RunOptions)
    (resolve : String → ExceptT ModuleIdError (StateM Workspace) String) (w : Workspace)
    (paths : List String) (h : (outcome (o.run resolve) w).1 = .ok paths)
    (hne : (outcome (resolve o.dir) (o.started w)).2.tree.destination (o.pathOf .handlers) ≠
      (outcome (resolve o.dir) (o.started w)).2.tree.destination (o.pathOf .visitor)) :
    let found := outcome (resolve o.dir) (o.started w)
    let before := found.2.tree
    let after := (outcome (o.run resolve) w).2.tree
    paths = [Pathname.join o.dir "handlers_gen.rs", Pathname.join o.dir "visitor_gen.rs"] ∧
      (∃ moduleId artifacts, ∃ text : ArtifactKind → String, ∃ loc : ArtifactKind → Location,
        found.1 = .ok moduleId ∧
        (Catalog.resolve o.kinds).generate moduleId o.astPath = .ok artifacts ∧
        (∀ kind, (artifacts.ofKind kind).render o.format = .ok (text kind) ∧
          after.readText (o.pathOf kind) = .ok (text kind)) ∧
        (∀ kind, before.destination (o.pathOf kind) = .ok (loc kind) ∧ before.Writable (loc kind) ∧
          after.lookup (loc kind) = some (.file (text kind).toUTF8)) ∧
        ∀ other, (∀ kind, other ≠ loc kind) → after.lookup other = before.lookup other) ∧
      (∀ loc target, before.lookup loc = some (.link target) →
        after.lookup loc = some (.link target)) ∧
      after.top = before.top ∧
      (KeepsTree (resolve o.dir) → before = w.tree) ∧
      KeepsTree (ModuleId.resolve (m := StateM Workspace) o.dir) := by
  intro found before after
  obtain ⟨done⟩ := completed_of_run (v := (outcome (o.run resolve) w).2) (Prod.ext h rfl)
  have hloc := done.loc_ne hne
  obtain ⟨artifacts, hg, hr⟩ := done.generated
  refine ⟨done.paths_eq, ⟨done.moduleId, artifacts, done.text, done.loc, done.answered, hg,
    fun kind => ?_, fun kind => ?_, fun other ho => done.lookup_of_ne ho⟩,
    fun loc target hl => done.lookup_link hl, done.top_eq, fun hk => hk _,
    ModuleId.resolve_keepsTree o.dir⟩
  · exact ⟨hr kind, done.readText hloc kind⟩
  · exact ⟨done.leads kind, done.writable kind, done.lookup_loc hloc kind⟩

/-- A tree with an old file where the handlers should be written, in a directory that is reached by
a link, and a link to nowhere where the visitor should be. -/
def linked : FileTree :=
  { top := "/top"
    entries := [(["real"], .directory), (["out"], .link "real"), (["elsewhere"], .directory),
      (["real", "handlers_gen.rs"], .file "old text".toUTF8),
      (["real", "visitor_gen.rs"], .link "../elsewhere/made.rs")] }

/-- A run that replaces a file and creates another through a link. -/
theorem writes_both_and_nothing_else_linked :
    let o : RunOptions := ⟨"out", ["Ident"], "syn", false⟩
    let after := (outcome (o.run fun _ => pure "m") ⟨linked, []⟩).2.tree
    (∃ text, after.readText (o.pathOf .visitor) = .ok text) ∧
      after.lookup ["real", "visitor_gen.rs"] = some (.link "../elsewhere/made.rs") := by
  intro o after
  have h := writes_both_and_nothing_else o (fun _ => pure "m") ⟨linked, []⟩
    ["out/handlers_gen.rs", "out/visitor_gen.rs"] (by decide +kernel) (by decide +kernel)
  obtain ⟨-, ⟨_, _, text, _, -, -, hr, -⟩, hl, -⟩ := h
  exact ⟨⟨text .visitor, (hr .visitor).2⟩, hl _ _ (by decide +kernel)⟩

end DispatchLayer.RunOptions
