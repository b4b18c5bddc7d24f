import DispatchLayer.Proofs.Run.Regeneration

/-!
# Texts without a run

The texts of both artifacts can be made from a catalog without a run: the artifacts are generated,
and each is rendered (`Catalog.texts`). A run for a known module does the same and writes the texts.
Said for all hosts at once (`run_eq_texts`): a run takes down events, and then it either fails with
what the texts fail with, or puts exactly these texts in place, the handlers' first. Over file trees
its failures are therefore those of the texts, and those of the two writes (`run_agrees_with_texts`).
-/

namespace DispatchLayer

/-! ## The texts of a catalog -/

/-- Why the texts of a catalog's artifacts cannot be made. -/
inductive TextError where
  | generate (error : GenerateError)
  | format (kind : ArtifactKind) (error : FormatError)
  deriving DecidableEq, Repr

/-- The error with which a run fails for it. -/
def TextError.inRun : TextError → RunError
  | .generate e => .generate e
  | .format kind e => .artifact kind (.format e)

/-- The texts of both artifacts of a catalog: the artifacts are generated, then the handlers are
rendered, and then the visitor. -/
def Catalog.texts (c : Catalog) (moduleId astPath : String) (format : Bool) :
    Except TextError (String × String) := do
  let artifacts ← (c.generate moduleId astPath).mapError .generate
  let handlers ← (artifacts.handlers.render format).mapError (.format .handlers)
  let visitor ← (artifacts.visitor.render format).mapError (.format .visitor)
  return (handlers, visitor)

/-- The texts with the kinds of their artifacts, in the order in which they are written. -/
def forWriting (texts : String × String) : List (ArtifactKind × String) :=
  [(.handlers, texts.1), (.visitor, texts.2)]

/-- The answer of a run as far as it is settled by the texts. -/
def settledBy (texts : Except TextError (String × String)) :
    Except RunError (List (ArtifactKind × String)) :=
  match texts with
  | .error e => .error e.inRun
  | .ok texts => .ok (forWriting texts)

/-- Making the artifacts first and rendering all of them comes to the texts of the catalog. -/
theorem settledBy_texts (c : Catalog) (moduleId astPath : String) (format : Bool) :
    settledBy (c.texts moduleId astPath format) =
      match c.generate moduleId astPath with
      | .error e => .error (.generate e)
      | .ok artifacts => artifacts.toList.mapM (Artifact.rendered format) := by
  unfold Catalog.texts
  cases hg : c.generate moduleId astPath with
  | error e => rfl
  | ok artifacts =>
    have hh := RunOptions.kind_ofKind_of_generate hg .handlers
    have hv := RunOptions.kind_ofKind_of_generate hg .visitor
    simp only [Artifacts.ofKind] at hh hv
    simp only [Artifacts.toList, List.mapM_cons, List.mapM_nil, Artifact.rendered, hh, hv,
      mapError_ok, bind, Except.bind]
    cases artifacts.handlers.render format with
    | error e => rfl
    | ok handlers =>
      cases artifacts.visitor.render format with
      | error e => rfl
      | ok visitor => rfl

/-! ## Runs in any host -/

section Hosts

variable {m : Type → Type} [Monad m] [Host m] {ε δ α β : Type}

/-- Take down events. -/
def announce : List Event → ExceptT ε m Unit
  | [] => return ()
  | e :: events => do
    Host.note (m := m) e
    announce events

/-- The events of making the artifacts, up to where it fails. -/
def emissionEvents (c : Catalog) (moduleId astPath : String) : List Event :=
  match c.lower moduleId astPath with
  | .error _ => []
  | .ok plan =>
    match plan.emit with
    | .error _ => [.catalogLowered plan.kinds.length]
    | .ok _ => [.catalogLowered plan.kinds.length, .artifactsEmitted]

/-- The events of a run for a known module, up to the first write. -/
def RunOptions.eventsBefore (o : RunOptions) (moduleId : String) : List Event :=
  .catalogResolved (Catalog.resolve o.kinds).size (Catalog.resolve o.kinds).source ::
    emissionEvents (Catalog.resolve o.kinds) moduleId o.astPath

variable [LawfulMonad m]

omit [Host m] in
theorem throw_bind (e : ε) (f : α → ExceptT ε m β) : throw e >>= f = throw e := by
  apply ExceptT.ext
  simp

omit [Host m] in
theorem adapt_pure (f : ε → δ) (a : α) : (pure a : ExceptT ε m α).adapt f = pure a := by
  show Except.mapError f <$> (pure (.ok a) : m (Except ε α)) = pure (.ok a)
  rw [map_pure, mapError_ok]

/-- Making the artifacts stage by stage, as a run does, comes to generating them. -/
theorem emitted_eq (c : Catalog) (moduleId astPath : String) :
    (Run.emitted c moduleId astPath : ExceptT RunError m Artifacts) = (do
      announce (emissionEvents c moduleId astPath)
      match c.generate moduleId astPath with
      | .error e => throw (.generate e)
      | .ok artifacts => return artifacts) := by
  unfold Run.emitted emissionEvents Catalog.generate
  cases c.lower moduleId astPath with
  | error es =>
    simp only [announce, pure_bind]
    rfl
  | ok plan =>
    have hemit : ((Except.ok plan).mapError GenerateError.catalog >>= DispatchPlan.emit) =
        plan.emit := rfl
    rw [hemit]
    dsimp only
    cases plan.emit with
    | error e => simp only [announce, bind_assoc, pure_bind]
    | ok artifacts => simp only [announce, bind_assoc, pure_bind]

/-- **A run makes the texts and puts them in place**, in every host. -/
theorem run_eq_texts (o : RunOptions) (moduleId : String) :
    (o.run fun _ => pure moduleId : ExceptT RunError m (List String)) = (do
      announce (o.eventsBefore moduleId)
      match (Catalog.resolve o.kinds).texts moduleId o.astPath o.format with
      | .error e => throw e.inRun
      | .ok texts => (forWriting texts).mapM (Run.place o.dir moduleId)) := by
  have h := settledBy_texts (Catalog.resolve o.kinds) moduleId o.astPath o.format
  unfold RunOptions.run RunOptions.eventsBefore
  dsimp only
  rw [adapt_pure, pure_bind, emitted_eq]
  simp only [announce, bind_assoc]
  congr 1
  funext _
  congr 1
  funext _
  -- The events are the same; what is left is settled by the texts.
  generalize (Catalog.resolve o.kinds).texts moduleId o.astPath o.format = texts at h ⊢
  cases hg : (Catalog.resolve o.kinds).generate moduleId o.astPath with
  | error e =>
    rw [hg] at h
    rw [throw_bind]
    cases texts with
    | error e' =>
      have he : e'.inRun = .generate e := Except.error.inj h
      show throw (RunError.generate e) = throw e'.inRun
      rw [he]
    | ok texts => cases h
  | ok artifacts =>
    rw [hg] at h
    dsimp only at h
    rw [pure_bind, ← h]
    cases texts with
    | error e => rfl
    | ok texts => rfl

end Hosts

/-! ## Runs over file trees -/

theorem TextError.inRun_eq_generate_iff {e : TextError} {e' : GenerateError} :
    e.inRun = .generate e' ↔ e = .generate e' := by
  cases e with
  | generate e => simp [inRun]
  | format kind e => simp [inRun]

theorem TextError.inRun_eq_format_iff {e : TextError} {kind : ArtifactKind} {e' : FormatError} :
    e.inRun = .artifact kind (.format e') ↔ e = .format kind e' := by
  cases e with
  | generate e => simp [inRun]
  | format kind e => simp [inRun]

namespace RunOptions

theorem texts_eq_settledBy (o : RunOptions) (moduleId : String) :
    o.texts moduleId =
      settledBy ((Catalog.resolve o.kinds).texts moduleId o.astPath o.format) := by
  rw [settledBy_texts]
  rfl

/-- A run for a known module fails with what its texts fail with, or at one of the two writes. -/
theorem error_of_run_known {o : RunOptions} {moduleId : String} {w : Workspace} {e : RunError}
    (he : ∀ kind fe, e ≠ .artifact kind (.file fe)) :
    (outcome (o.run fun _ => pure moduleId) w).1 = .error e ↔
      ∃ e', (Catalog.resolve o.kinds).texts moduleId o.astPath o.format = .error e' ∧
        e'.inRun = e := by
  rw [outcome_run_known, texts_eq_settledBy]
  cases (Catalog.resolve o.kinds).texts moduleId o.astPath o.format with
  | error e' => simp [settledBy]
  | ok texts =>
    simp only [settledBy, forWriting, reduceCtorEq, false_and, exists_false, iff_false]
    rw [Run.outcome_place_pair]
    intro h
    split at h
    · exact he _ _ (Except.error.inj h).symm
    · split at h
      · exact he _ _ (Except.error.inj h).symm
      · cases h

/-- **A run agrees with the texts.** Over every file tree a run for a known module fails to generate
exactly if the texts cannot be generated, with the same error, and fails to format an artifact
exactly if it cannot be formatted for the texts, again with the same error. In every host the run
takes down events and then fails with the error of the texts, or puts in place exactly these texts,
the handlers' first. -/
theorem run_agrees_with_texts (o : RunOptions) (moduleId : String) :
    let texts := (Catalog.resolve o.kinds).texts moduleId o.astPath o.format
    (∀ w : Workspace,
      let answer := (outcome (o.run fun _ => pure moduleId) w).1
      (∀ e, answer = .error (.generate e) ↔ texts = .error (.generate e)) ∧
        ∀ kind e, answer = .error (.artifact kind (.format e)) ↔ texts = .error (.format kind e)) ∧
    ∀ (m : Type → Type) [Monad m] [LawfulMonad m] [Host m],
      (o.run fun _ => pure moduleId : ExceptT RunError m (List String)) = (do
        announce (o.eventsBefore moduleId)
        match texts with
        | .error e => throw e.inRun
        | .ok made =>
          [(ArtifactKind.handlers, made.1), (.visitor, made.2)].mapM (Run.place o.dir moduleId)) := by
  intro texts
  refine ⟨fun w => ⟨fun e => ?_, fun kind e => ?_⟩, fun m _ _ _ => ?_⟩
  · rw [error_of_run_known (by simp)]
    simp only [TextError.inRun_eq_generate_iff, exists_eq_right]
    rfl
  · rw [error_of_run_known (by simp)]
    simp only [TextError.inRun_eq_format_iff, exists_eq_right]
    rfl
  · rw [run_eq_texts]
    rfl

/-- A run over a file tree whose texts can be made. -/
theorem run_agrees_with_texts_made :
    let o : RunOptions := ⟨"out", ["Ident"], "syn", false⟩
    ∃ handlers visitor,
      (Catalog.resolve o.kinds).texts "m" o.astPath o.format = .ok (handlers, visitor) ∧
        (o.run fun _ => pure "m" : ExceptT RunError (StateM Workspace) (List String)) = (do
          announce (o.eventsBefore "m")
          [(ArtifactKind.handlers, handlers), (.visitor, visitor)].mapM
            (Run.place o.dir "m")) := by
  intro o
  have hmade : ((Catalog.resolve o.kinds).texts "m" o.astPath o.format).isOk = true := by
    decide +kernel
  clear_value o
  have hrun := (run_agrees_with_texts o "m").2 (StateM Workspace)
  cases ht : (Catalog.resolve o.kinds).texts "m" o.astPath o.format with
  | error e =>
    rw [ht] at hmade
    cases hmade
  | ok texts =>
    rw [ht] at hrun
    exact ⟨texts.1, texts.2, rfl, hrun⟩

end RunOptions

end DispatchLayer
