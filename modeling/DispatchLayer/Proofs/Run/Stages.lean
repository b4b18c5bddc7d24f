import DispatchLayer.Proofs.Emission.Completion
import DispatchLayer.Proofs.FileTree.Destination
import DispatchLayer.Proofs.Run.Resolution

/-!
# Where a run fails

The stages of a run are looked at one by one: what is wrong with a stage is said without the other
stages (`faultAt`), so several stages can have a fault at once. A run fails exactly if some stage
has a fault, and it fails with the fault of the first such stage (`fails_at_first_fault`). All stages
but the last leave the tree alone when they fail; a visitor that cannot be written leaves the
handlers written, and nothing else.
-/

namespace DispatchLayer

/-- A stage of a run that can fail. -/
inductive Stage where
  /-- The module is looked up. -/
  | moduleId
  /-- The catalog is lowered. -/
  | catalog
  /-- The path of the node types is read. -/
  | astPath
  /-- The tokens of both artifacts are made from the names. -/
  | names
  | format (kind : ArtifactKind)
  | write (kind : ArtifactKind)
  deriving DecidableEq, Repr

/-- The stages in their order. Nothing is written before both artifacts have been formatted. -/
def Stage.all : List Stage :=
  [.moduleId, .catalog, .astPath, .names, .format .handlers, .format .visitor, .write .handlers,
    .write .visitor]

/-- The artifact of a kind. -/
def Artifacts.ofKind (a : Artifacts) : ArtifactKind → Artifact
  | .handlers => a.handlers
  | .visitor => a.visitor

/-- The fault that an error stands for. -/
def faultOf {ε α : Type} (f : ε → RunError) : Except ε α → Option RunError
  | .error e => some (f e)
  | .ok _ => none

@[simp] theorem faultOf_error {ε α : Type} (f : ε → RunError) (e : ε) :
    faultOf f (.error e : Except ε α) = some (f e) := rfl

@[simp] theorem faultOf_ok {ε α : Type} (f : ε → RunError) (a : α) :
    faultOf f (.ok a : Except ε α) = none := rfl

namespace RunOptions

variable (o : RunOptions)

/-! ## Stage by stage -/

/-- The artifacts of a run for a module, if all of them can be made. -/
def artifacts? (moduleId : String) : Option Artifacts :=
  ((Catalog.resolve o.kinds).generate moduleId o.astPath).toOption

/-- The text of an artifact for a module, if it can be made. -/
def text? (moduleId : String) (kind : ArtifactKind) : Option String :=
  (o.artifacts? moduleId).bind fun a => ((a.ofKind kind).render o.format).toOption

/-- The path an artifact is written to. -/
def pathOf (kind : ArtifactKind) : String := Pathname.join o.dir kind.fileName

/-- Everything that is wrong with the catalog. -/
def catalogFault? : Option RunError :=
  (CatalogErrors.ofList? (Plan.errorsOf (Plan.verdicts (Catalog.resolve o.kinds)))).map fun es =>
    .generate (.catalog es)

/-- What is wrong with the path of the node types. -/
def astPathFault? : Option RunError :=
  faultOf (fun e => .generate (.astPath e)) (Emission.readAstPath o.astPath)

/-- The string at which emission breaks off. -/
def nameFault? (moduleId : String) : Option RunError :=
  match (Catalog.resolve o.kinds).generate moduleId o.astPath with
  | .error (.name e) => some (.generate (.name e))
  | _ => none

/-- Why the source of an artifact cannot be formatted. -/
def formatFault? (moduleId : String) (kind : ArtifactKind) : Option RunError :=
  (o.artifacts? moduleId).bind fun a =>
    faultOf (fun e => .artifact kind (.format e)) ((a.ofKind kind).render o.format)

/-- Why an artifact cannot be written. -/
def writeFault? (t : FileTree) (kind : ArtifactKind) : Option RunError :=
  faultOf (fun e => .artifact kind (.file e)) (t.destination (o.pathOf kind))

/-- The tree after the handlers have been written, if they can be. -/
def withHandlers (moduleId : String) (t : FileTree) : FileTree :=
  match o.text? moduleId .handlers with
  | none => t
  | some text =>
    match t.writeText (o.pathOf .handlers) text with
    | .error _ => t
    | .ok after => after

/-- What is wrong with a stage, given the answer about the module and the tree at that time. -/
def faultAt (answer : Except ModuleIdError String) (t : FileTree) : Stage → Option RunError
  | .moduleId => faultOf .moduleId answer
  | .catalog => o.catalogFault?
  | .astPath => o.astPathFault?
  | .names => answer.toOption.bind o.nameFault?
  | .format kind => answer.toOption.bind fun moduleId => o.formatFault? moduleId kind
  | .write .handlers => o.writeFault? t .handlers
  | .write .visitor =>
    answer.toOption.bind fun moduleId => o.writeFault? (o.withHandlers moduleId t) .visitor

/-- The first fault of a run. -/
def firstFault (answer : Except ModuleIdError String) (t : FileTree) : Option RunError :=
  Stage.all.findSome? (o.faultAt answer t)

/-- What a run that fails has done to the tree: nothing, unless the visitor could not be written;
then the handlers have been. -/
def LeftBy (answer : Except ModuleIdError String) (before after : FileTree) : RunError → Prop
  | .artifact .visitor (.file _) =>
    ∃ moduleId text, answer = .ok moduleId ∧ o.text? moduleId .handlers = some text ∧
      before.writeText (o.pathOf .handlers) text = .ok after
  | _ => after = before

/-! ## The stages that make the texts -/

variable {o}

/-- Where a generation ends: at the catalog, at the path, at a name, or with both artifacts. -/
theorem generate_cases (o : RunOptions) (moduleId : String) :
    (∃ es, o.catalogFault? = some (.generate (.catalog es)) ∧
        (Catalog.resolve o.kinds).generate moduleId o.astPath = .error (.catalog es)) ∨
      o.catalogFault? = none ∧
        ((∃ e, o.astPathFault? = some (.generate (.astPath e)) ∧
            (Catalog.resolve o.kinds).generate moduleId o.astPath = .error (.astPath e)) ∨
          o.astPathFault? = none ∧
            ((∃ e, (Catalog.resolve o.kinds).generate moduleId o.astPath = .error (.name e)) ∨
              ∃ a, (Catalog.resolve o.kinds).generate moduleId o.astPath = .ok a)) := by
  unfold catalogFault? astPathFault? Catalog.generate Catalog.lower
  cases CatalogErrors.ofList? (Plan.errorsOf (Plan.verdicts (Catalog.resolve o.kinds))) with
  | some es => exact Or.inl ⟨es, rfl, rfl⟩
  | none =>
    refine Or.inr ⟨rfl, ?_⟩
    simp only [Except.mapError, bind, Except.bind, DispatchPlan.emit]
    cases Emission.readAstPath o.astPath with
    | error e => exact Or.inl ⟨e, rfl, rfl⟩
    | ok ast =>
      refine Or.inr ⟨rfl, ?_⟩
      dsimp only
      cases Emission.handlers ast _ with
      | error e => exact Or.inl ⟨e, rfl⟩
      | ok handlers =>
        dsimp only
        cases Emission.visitor ast _ with
        | error e => exact Or.inl ⟨e, rfl⟩
        | ok visitor => exact Or.inr ⟨⟨handlers, visitor⟩, rfl⟩

/-- Generated artifacts are of the kinds they are given as. -/
theorem kind_ofKind_of_generate {c : Catalog} {moduleId astPath : String} {a : Artifacts}
    (h : c.generate moduleId astPath = .ok a) (kind : ArtifactKind) :
    (a.ofKind kind).kind = kind := by
  obtain ⟨-, -, ast, -, hh, hv⟩ := Emission.of_generate h
  cases kind with
  | handlers => exact congrArg Artifact.kind hh
  | visitor => exact congrArg Artifact.kind hv

/-- The header of a generated artifact is the one for its module. -/
theorem header_ofKind_of_generate {c : Catalog} {moduleId astPath : String} {a : Artifacts}
    (h : c.generate moduleId astPath = .ok a) (kind : ArtifactKind) :
    (a.ofKind kind).header = Artifact.headerFor moduleId := by
  obtain ⟨-, -, ast, -, hh, hv⟩ := Emission.of_generate h
  cases kind with
  | handlers => exact congrArg Artifact.header hh
  | visitor => exact congrArg Artifact.header hv

/-- The stages between the look-up of the module and the first write. -/
def makingStages : List Stage :=
  [.catalog, .astPath, .names, .format .handlers, .format .visitor]

/-- The texts of a run fail with the first fault of the stages that make them, and those stages do
not look at the tree. -/
theorem texts_eq (o : RunOptions) (moduleId : String) (t : FileTree) :
    (∃ e, makingStages.findSome? (o.faultAt (.ok moduleId) t) = some e ∧
        o.texts moduleId = .error e ∧ ∀ kind fe, e ≠ .artifact kind (.file fe)) ∨
      makingStages.findSome? (o.faultAt (.ok moduleId) t) = none ∧
        ∃ handlers visitor, o.text? moduleId .handlers = some handlers ∧
          o.text? moduleId .visitor = some visitor ∧
          o.texts moduleId = .ok [(.handlers, handlers), (.visitor, visitor)] := by
  unfold texts text? makingStages
  simp only [List.findSome?_cons, List.findSome?_nil, faultAt, Except.toOption, Option.bind_some]
  unfold nameFault? formatFault? artifacts?
  rcases generate_cases o moduleId with ⟨es, hc, hg⟩ | ⟨hc, ⟨e, ha, hg⟩ | ⟨ha, ⟨e, hg⟩ | ⟨a, hg⟩⟩⟩
  · rw [hc, hg]
    exact Or.inl ⟨_, rfl, rfl, fun _ _ h => by cases h⟩
  · rw [hc, ha, hg]
    exact Or.inl ⟨_, rfl, rfl, fun _ _ h => by cases h⟩
  · rw [hc, ha, hg]
    exact Or.inl ⟨_, rfl, rfl, fun _ _ h => by cases h⟩
  · rw [hc, ha, hg]
    have hh := kind_ofKind_of_generate hg .handlers
    have hv := kind_ofKind_of_generate hg .visitor
    simp only [Artifacts.ofKind, Except.toOption, Option.bind_some, Artifacts.toList,
      List.mapM_cons, List.mapM_nil, Artifact.rendered] at hh hv ⊢
    rw [hh, hv]
    cases a.handlers.render o.format with
    | error e => exact Or.inl ⟨_, rfl, rfl, fun _ _ h => by cases h⟩
    | ok handlers =>
      cases a.visitor.render o.format with
      | error e => exact Or.inl ⟨_, rfl, rfl, fun _ _ h => by cases h⟩
      | ok visitor => exact Or.inr ⟨rfl, handlers, visitor, rfl, rfl, rfl⟩

/-! ## Failing runs -/

theorem firstFault_of_ok (o : RunOptions) (moduleId : String) (t : FileTree) :
    o.firstFault (.ok moduleId) t =
      (makingStages.findSome? (o.faultAt (.ok moduleId) t)).or
        ((o.writeFault? t .handlers).or
          (o.writeFault? (o.withHandlers moduleId t) .visitor)) := by
  -- The stages in three parts: the look-up, the making, and the two writes.
  show List.findSome? _ ([Stage.moduleId] ++ makingStages ++
    [Stage.write .handlers, .write .visitor]) = _
  rw [List.findSome?_append, List.findSome?_append]
  simp only [List.findSome?_cons, List.findSome?_nil, faultAt, faultOf_ok, Option.none_or,
    Except.toOption, Option.bind_some]
  cases o.writeFault? t .handlers with
  | some e => rfl
  | none =>
    cases o.writeFault? (o.withHandlers moduleId t) .visitor with
    | some e => rfl
    | none => rfl

theorem LeftBy.of_not_file {answer : Except ModuleIdError String} {t : FileTree} {e : RunError}
    (h : ∀ fe, e ≠ .artifact .visitor (.file fe)) : o.LeftBy answer t t e := by
  unfold LeftBy
  split
  next fe => exact absurd rfl (h fe)
  · rfl

/-- What a run, or the rest of one, gives if `fault?` is all that can be wrong with it. -/
def EndsWith (o : RunOptions) (answer : Except ModuleIdError String) (before : FileTree)
    (fault? : Option RunError) (out : Except RunError (List String) × Workspace) : Prop :=
  ∀ e, (out.1 = .error e ↔ fault? = some e) ∧
    (out.1 = .error e → o.LeftBy answer before out.2.tree e)

theorem EndsWith.of_error {answer : Except ModuleIdError String} {before : FileTree} {e : RunError}
    {w : Workspace} (h : o.LeftBy answer before w.tree e) :
    o.EndsWith answer before (some e) (.error e, w) := by
  intro e'
  refine ⟨by simp, fun he => ?_⟩
  cases he
  exact h

theorem EndsWith.of_ok (answer : Except ModuleIdError String) (before : FileTree)
    (paths : List String) (w : Workspace) : o.EndsWith answer before none (.ok paths, w) :=
  fun _ => ⟨by simp, fun h => by cases h⟩

/-- Whatever the text, it cannot be written exactly if the path has no destination. -/
theorem writeFault?_eq (t : FileTree) (kind : ArtifactKind) (text : String) :
    o.writeFault? t kind =
      faultOf (fun e => .artifact kind (.file e)) (t.writeText (o.pathOf kind) text) := by
  unfold writeFault? FileTree.writeText FileTree.write
  cases t.destination (o.pathOf kind) with
  | error e => rfl
  | ok loc => rfl

/-- The two writes: both texts are in place, or one of the last two stages has a fault. -/
theorem writes_endWith {moduleId handlers visitor : String} {w : Workspace}
    (hh : o.text? moduleId .handlers = some handlers) :
    o.EndsWith (.ok moduleId) w.tree
      ((o.writeFault? w.tree .handlers).or
        (o.writeFault? (o.withHandlers moduleId w.tree) .visitor))
      (outcome ([(ArtifactKind.handlers, handlers), (.visitor, visitor)].mapM
        (Run.place o.dir moduleId)) w) := by
  rw [Run.outcome_place_pair, writeFault?_eq _ _ handlers, writeFault?_eq _ _ visitor]
  unfold withHandlers pathOf
  rw [hh]
  dsimp only
  cases hd : w.tree.writeText (Pathname.join o.dir ArtifactKind.handlers.fileName) handlers with
  | error fe =>
    refine .of_error ?_
    rw [Run.warned_tree]
    exact .of_not_file fun _ h => by cases h
  | ok first =>
    dsimp only [faultOf_ok, Option.none_or]
    cases first.writeText (Pathname.join o.dir ArtifactKind.visitor.fileName) visitor with
    | error fe =>
      refine .of_error ?_
      rw [Run.warned_tree, Run.written_tree]
      exact ⟨moduleId, handlers, rfl, hh, hd⟩
    | ok second => exact .of_ok _ _ _ _

theorem run_endsWith (o : RunOptions)
    (resolve : String → ExceptT ModuleIdError (StateM Workspace) String) (w : Workspace) :
    let found := outcome (resolve o.dir) (o.started w)
    o.EndsWith found.1 found.2.tree (o.firstFault found.1 found.2.tree)
      (outcome (o.run resolve) w) := by
  rw [outcome_run]
  dsimp only
  generalize outcome (resolve o.dir) (o.started w) = found
  obtain ⟨answer, v⟩ := found
  cases answer with
  | error e => exact .of_error (.of_not_file fun _ h => by cases h)
  | ok moduleId =>
    dsimp only
    rw [firstFault_of_ok]
    rcases texts_eq o moduleId v.tree with ⟨e, hf, ht, hne⟩ | ⟨hf, handlers, visitor, hh, -, ht⟩
    · rw [hf, ht]
      refine .of_error ?_
      rw [Run.emitting_tree]
      exact .of_not_file fun fe => hne _ fe
    · rw [hf, ht, Option.none_or]
      -- Making the texts has not touched the tree.
      rw [← Run.emitting_tree (Catalog.resolve o.kinds) moduleId o.astPath v]
      exact writes_endWith hh

/-- A tree with a directory where the visitor should be written. -/
def occupied : FileTree :=
  ((FileTree.empty "/top").set ["out"] .directory).set ["out", "visitor_gen.rs"] .directory

/-- **A run fails at the first fault, and leaves the tree alone.** Whatever the tree, the options and
the resolver: the run fails exactly if some stage has a fault, with the fault of the first such
stage. The tree is then what the resolver has left, unless the visitor could not be written; in that
case it is that tree with the handlers' text written, and nothing else. A resolver that only reads,
as the resolver of packages does, has left the tree as it was. -/
theorem fails_at_first_fault (o : RunOptions)
    (resolve : String → ExceptT ModuleIdError (StateM Workspace) String) (w : Workspace) :
    let found := outcome (resolve o.dir) (o.started w)
    let out := outcome (o.run resolve) w
    (∀ e, out.1 = .error e ↔ o.firstFault found.1 found.2.tree = some e) ∧
      (∀ e, out.1 = .error e → o.LeftBy found.1 found.2.tree out.2.tree e) ∧
      (KeepsTree (resolve o.dir) → found.2.tree = w.tree) ∧
      KeepsTree (ModuleId.resolve (m := StateM Workspace) o.dir) := by
  have h := run_endsWith o resolve w
  exact ⟨fun e => (h e).1, fun e => (h e).2, fun hk => hk _, ModuleId.resolve_keepsTree o.dir⟩

/-- A run that gets as far as the handlers. -/
theorem fails_at_first_fault_occupied :
    let o : RunOptions := ⟨"out", ["Ident"], "syn", false⟩
    let out := outcome (o.run fun _ => pure "m") ⟨occupied, []⟩
    out.1 = .error (.artifact .visitor (.file .isDirectory)) ∧
      ∃ moduleId text, o.text? moduleId .handlers = some text ∧
        occupied.writeText (o.pathOf .handlers) text = .ok out.2.tree := by
  intro o out
  have h := fails_at_first_fault o (fun _ => pure "m") ⟨occupied, []⟩
  have he : out.1 = .error (.artifact .visitor (.file .isDirectory)) :=
    (h.1 _).2 (by decide +kernel)
  obtain ⟨moduleId, text, -, ht, hw⟩ := h.2.1 _ he
  exact ⟨he, moduleId, text, ht, hw⟩

end RunOptions

end DispatchLayer
