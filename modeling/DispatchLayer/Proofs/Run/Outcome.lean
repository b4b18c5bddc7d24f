import DispatchLayer.Run

/-!
# Runs over file trees, stage by stage

What a run does to a file tree, as a function of what its stages give. A computation over a
workspace has an `outcome`: what it gives, and the workspace it leaves. The outcome of a run is
settled by the answer of the module resolver, the text of both artifacts, and two writes
(`outcome_run`, `outcome_place`); nothing else of the run touches the tree.
-/

namespace DispatchLayer

variable {ε δ α β : Type}

/-- The workspace with a further event. -/
def Workspace.noted (w : Workspace) (e : Event) : Workspace := { w with log := w.log ++ [e] }

@[simp] theorem Workspace.noted_tree (w : Workspace) (e : Event) : (w.noted e).tree = w.tree := rfl

/-- What a computation gives, and the workspace it leaves. -/
def outcome (x : ExceptT ε (StateM Workspace) α) (w : Workspace) : Except ε α × Workspace :=
  x.run.run w

/-! ## Outcomes of compound computations -/

theorem outcome_pure (a : α) (w : Workspace) :
    outcome (pure a : ExceptT ε (StateM Workspace) α) w = (.ok a, w) := rfl

theorem outcome_bind (x : ExceptT ε (StateM Workspace) α)
    (f : α → ExceptT ε (StateM Workspace) β) (w : Workspace) :
    outcome (x >>= f) w =
      match outcome x w with
      | (.ok a, w') => outcome (f a) w'
      | (.error e, w') => (.error e, w') := by
  show (ExceptT.bind x f).run.run w = _
  unfold outcome
  simp only [ExceptT.bind, ExceptT.run, ExceptT.mk, StateT.run_bind]
  rcases StateT.run x w with ⟨r, w'⟩
  cases r with
  | ok a => rfl
  | error e => rfl

theorem outcome_bind_of_ok {x : ExceptT ε (StateM Workspace) α}
    {f : α → ExceptT ε (StateM Workspace) β} {w w' : Workspace} {a : α}
    (h : outcome x w = (.ok a, w')) : outcome (x >>= f) w = outcome (f a) w' := by
  rw [outcome_bind, h]

theorem outcome_bind_of_error {x : ExceptT ε (StateM Workspace) α}
    {f : α → ExceptT ε (StateM Workspace) β} {w w' : Workspace} {e : ε}
    (h : outcome x w = (.error e, w')) : outcome (x >>= f) w = (.error e, w') := by
  rw [outcome_bind, h]

/-- What came before the answer of a compound computation. -/
theorem outcome_bind_eq_ok {x : ExceptT ε (StateM Workspace) α}
    {f : α → ExceptT ε (StateM Workspace) β} {w v : Workspace} {b : β}
    (h : outcome (x >>= f) w = (.ok b, v)) :
    ∃ a u, outcome x w = (.ok a, u) ∧ outcome (f a) u = (.ok b, v) := by
  rw [outcome_bind] at h
  generalize outcome x w = result at h ⊢
  obtain ⟨answer, u⟩ := result
  cases answer with
  | error e => cases h
  | ok a => exact ⟨a, u, rfl, h⟩

theorem outcome_lift (x : StateM Workspace α) (w : Workspace) :
    outcome (liftM x : ExceptT ε (StateM Workspace) α) w = (.ok (x.run w).1, (x.run w).2) := rfl

theorem mapError_ok (f : ε → δ) (a : α) : (Except.ok a : Except ε α).mapError f = .ok a := rfl

theorem outcome_adapt (f : ε → δ) (x : ExceptT ε (StateM Workspace) α) (w : Workspace) :
    outcome (x.adapt f) w = ((outcome x w).1.mapError f, (outcome x w).2) := by
  unfold outcome ExceptT.adapt
  simp only [ExceptT.run, ExceptT.mk, StateT.run_map]
  rfl

theorem outcome_note (e : Event) (w : Workspace) :
    outcome (liftM (Host.note (m := StateM Workspace) e) : ExceptT ε (StateM Workspace) Unit) w =
      (.ok (), w.noted e) := rfl

/-! ## Outcomes of the parts of a run -/

namespace Run

/-- The workspace after the look at what a file is about to replace. -/
def warned (path : String) (w : Workspace) : Workspace :=
  match w.tree.readText path with
  | .ok old => if Artifact.isGenerated old then w else w.noted (.replacing path)
  | .error _ => w

@[simp] theorem warned_tree (path : String) (w : Workspace) : (warned path w).tree = w.tree := by
  unfold warned
  split
  · split
    · rfl
    · rfl
  · rfl

theorem outcome_writeText (path text : String) (w : Workspace) :
    outcome (ExceptT.mk (Host.writeText (m := StateM Workspace) path text)) w =
      match w.tree.writeText path text with
      | .ok after => (.ok (), { w with tree := after })
      | .error e => (.error e, w) := by
  unfold outcome
  rw [ExceptT.run_mk]
  simp only [Host.writeText, StateT.run_bind, StateT.run_get, pure_bind]
  cases w.tree.writeText path text with
  | error e => rfl
  | ok after => rfl

theorem outcome_persist (dir : String) (kind : ArtifactKind) (text : String) (w : Workspace) :
    outcome (persist dir kind text) w =
      match w.tree.writeText (Pathname.join dir kind.fileName) text with
      | .ok after =>
        (.ok (Pathname.join dir kind.fileName),
          { warned (Pathname.join dir kind.fileName) w with tree := after }.noted
            (.fileWritten (Pathname.join dir kind.fileName) text.utf8ByteSize))
      | .error e => (.error e, warned (Pathname.join dir kind.fileName) w) := by
  unfold persist
  generalize Pathname.join dir kind.fileName = path
  -- After the look at what stands there, all that is left is the write.
  have rest : ∀ v : Workspace, v.tree = w.tree →
      outcome (do
        ExceptT.mk (Host.writeText (m := StateM Workspace) path text)
        Host.note (m := StateM Workspace) (.fileWritten path text.utf8ByteSize)
        return path) v =
      match w.tree.writeText path text with
      | .ok after => (.ok path,
          { v with tree := after }.noted (.fileWritten path text.utf8ByteSize))
      | .error e => (.error e, v) := by
    intro v hv
    rw [outcome_bind, outcome_writeText, hv]
    cases w.tree.writeText path text with
    | error e => rfl
    | ok after => rfl
  have h := rest (warned path w) (warned_tree path w)
  unfold warned at h ⊢
  show outcome (match w.tree.readText path with | .ok old => _ | .error _ => _) w = _
  cases hr : w.tree.readText path with
  | error e =>
    simp only [hr] at h
    exact h
  | ok old =>
    simp only [hr] at h ⊢
    cases ho : Artifact.isGenerated old with
    | true =>
      simp only [ho, if_true] at h ⊢
      exact h
    | false =>
      simp only [ho, Bool.false_eq_true, if_false] at h ⊢
      rw [outcome_bind_of_ok (outcome_note _ _)]
      exact h

/-- The workspace after a text has been written, with the tree that the write gives. -/
def written (dir moduleId : String) (artifact : ArtifactKind × String) (after : FileTree)
    (w : Workspace) : Workspace :=
  let path := Pathname.join dir artifact.1.fileName
  (({ warned path w with tree := after }).noted (.fileWritten path artifact.2.utf8ByteSize)).noted
    (.artifactWritten artifact.1 path moduleId)

@[simp] theorem written_tree (dir moduleId : String) (artifact : ArtifactKind × String)
    (after : FileTree) (w : Workspace) : (written dir moduleId artifact after w).tree = after := rfl

/-- **Putting an artifact in place** is one write. -/
theorem outcome_place (dir moduleId : String) (artifact : ArtifactKind × String) (w : Workspace) :
    outcome (place dir moduleId artifact) w =
      match w.tree.writeText (Pathname.join dir artifact.1.fileName) artifact.2 with
      | .ok after =>
        (.ok (Pathname.join dir artifact.1.fileName), written dir moduleId artifact after w)
      | .error e =>
        (.error (.artifact artifact.1 (.file e)),
          warned (Pathname.join dir artifact.1.fileName) w) := by
  have hp := outcome_persist dir artifact.1 artifact.2 w
  unfold place
  rw [outcome_bind, outcome_adapt, hp]
  cases w.tree.writeText (Pathname.join dir artifact.1.fileName) artifact.2 with
  | error e => rfl
  | ok after => rfl

/-- The workspace after the attempt to make the artifacts of a catalog. -/
def emitting (catalog : Catalog) (moduleId astPath : String) (w : Workspace) : Workspace :=
  match catalog.lower moduleId astPath with
  | .error _ => w
  | .ok plan =>
    match plan.emit with
    | .error _ => w.noted (.catalogLowered plan.kinds.length)
    | .ok _ => (w.noted (.catalogLowered plan.kinds.length)).noted .artifactsEmitted

@[simp] theorem emitting_tree (catalog : Catalog) (moduleId astPath : String) (w : Workspace) :
    (emitting catalog moduleId astPath w).tree = w.tree := by
  unfold emitting
  split
  · rfl
  · split
    · rfl
    · rfl

theorem outcome_emitted (catalog : Catalog) (moduleId astPath : String) (w : Workspace) :
    outcome (emitted catalog moduleId astPath) w =
      ((catalog.generate moduleId astPath).mapError .generate,
        emitting catalog moduleId astPath w) := by
  unfold emitted emitting Catalog.generate
  cases hl : catalog.lower moduleId astPath with
  | error es => rfl
  | ok plan =>
    show outcome (liftM (Host.note (m := StateM Workspace) _) >>= fun _ => _) w =
      (plan.emit.mapError RunError.generate,
        match plan.emit with
        | .error _ => w.noted (.catalogLowered plan.kinds.length)
        | .ok _ => (w.noted (.catalogLowered plan.kinds.length)).noted .artifactsEmitted)
    rw [outcome_bind_of_ok (outcome_note _ _)]
    cases plan.emit with
    | error e => rfl
    | ok artifacts => rfl

theorem outcome_place_pair (dir moduleId : String) (a b : ArtifactKind × String) (w : Workspace) :
    outcome ([a, b].mapM (place dir moduleId)) w =
      match w.tree.writeText (Pathname.join dir a.1.fileName) a.2 with
      | .error e =>
        (.error (.artifact a.1 (.file e)), warned (Pathname.join dir a.1.fileName) w)
      | .ok first =>
        match first.writeText (Pathname.join dir b.1.fileName) b.2 with
        | .error e =>
          (.error (.artifact b.1 (.file e)),
            warned (Pathname.join dir b.1.fileName) (written dir moduleId a first w))
        | .ok second =>
          (.ok [Pathname.join dir a.1.fileName, Pathname.join dir b.1.fileName],
            written dir moduleId b second (written dir moduleId a first w)) := by
  simp only [List.mapM_cons, List.mapM_nil]
  rw [outcome_bind, outcome_place]
  cases w.tree.writeText (Pathname.join dir a.1.fileName) a.2 with
  | error e => rfl
  | ok first =>
    dsimp only
    rw [outcome_bind, outcome_bind, outcome_place, written_tree]
    cases first.writeText (Pathname.join dir b.1.fileName) b.2 with
    | error e => rfl
    | ok second => rfl

end Run

/-! ## The outcome of a run -/

namespace RunOptions

/-- The texts of both artifacts, in the order in which they are written. -/
def texts (o : RunOptions) (moduleId : String) : Except RunError (List (ArtifactKind × String)) :=
  match (Catalog.resolve o.kinds).generate moduleId o.astPath with
  | .error e => .error (.generate e)
  | .ok artifacts => artifacts.toList.mapM (Artifact.rendered o.format)

/-- The workspace in which the module of a run is looked up. -/
def started (o : RunOptions) (w : Workspace) : Workspace :=
  w.noted (.catalogResolved (Catalog.resolve o.kinds).size (Catalog.resolve o.kinds).source)

@[simp] theorem started_tree (o : RunOptions) (w : Workspace) : (o.started w).tree = w.tree := rfl

/-- **The outcome of a run.** After the module has been looked up, both texts are made without a
look at the tree, and then they are put in place. -/
theorem outcome_run (o : RunOptions) (resolve : String → ExceptT ModuleIdError (StateM Workspace) String)
    (w : Workspace) :
    outcome (o.run resolve) w =
      match outcome (resolve o.dir) (o.started w) with
      | (.error e, v) => (.error (.moduleId e), v)
      | (.ok moduleId, v) =>
        match o.texts moduleId with
        | .error e => (.error e, Run.emitting (Catalog.resolve o.kinds) moduleId o.astPath v)
        | .ok texts =>
          outcome (texts.mapM (Run.place o.dir moduleId))
            (Run.emitting (Catalog.resolve o.kinds) moduleId o.astPath v) := by
  unfold RunOptions.run
  rw [outcome_bind_of_ok (outcome_note _ _), outcome_bind, outcome_adapt]
  unfold started
  rcases outcome (resolve o.dir) _ with ⟨answer, v⟩
  cases answer with
  | error e => rfl
  | ok moduleId =>
    rw [mapError_ok]
    dsimp only
    rw [outcome_bind, Run.outcome_emitted]
    unfold texts
    cases (Catalog.resolve o.kinds).generate moduleId o.astPath with
    | error e => rfl
    | ok artifacts =>
      rw [mapError_ok]
      dsimp only
      cases artifacts.toList.mapM (Artifact.rendered o.format) with
      | error e => rfl
      | ok texts => rfl

end RunOptions

end DispatchLayer
