import DispatchLayer.Artifact.Render
import DispatchLayer.Proofs.Emission.Syntax.Setting
import DispatchLayer.Proofs.Plan.Ruling
import DispatchLayer.Proofs.Run.ReadBack

/-!
# Formatting the artifacts

The source of an artifact is read from its text as it is from its tokens, and what is read can be
set on lines; so both artifacts are formatted (`formats_unless_try`). The one exception is a path of
the node types that begins with the word `try`: it is accepted as a path, but no type begins with
it, so the types of the kinds cannot be read.
-/

namespace DispatchLayer

open Code Token Emission

/-! ## Source files as text -/

/-- The line of well spelled tokens is read back. -/
theorem ofChars?_line {ts : List Token} (h : WellSpelled ts)
    (hm : (line ts).toList.head? ≠ some '\ufeff') : Token.ofChars? (line ts).toList = some ts := by
  have hpieces := piecesOf_lineFrom h.legible none .nil .nil
  rw [List.append_nil, List.append_nil, ← lineChars_eq_lineFrom] at hpieces
  have hchars : (line ts).toList = lineChars ts := String.toList_ofList
  rw [hchars] at hm ⊢
  exact ofChars?_of_piecesOf hpieces h.balanced hm

variable {items : List Item} {f : SourceFile} {a : Artifact} {reason : ReadError} {text : String}

/-- The text of a file that permits unused items is read as its tokens are. It names no interpreter:
a blank follows the number sign that it begins with. -/
theorem ofText?_line (h : WellSpelled (SourceFile.mk none [allowUnused] items).spell) :
    SourceFile.ofText? (line (SourceFile.mk none [allowUnused] items).spell) =
      (SourceFile.ofTokens? (SourceFile.mk none [allowUnused] items).spell).map
        fun f => { f with interpreter := none } := by
  obtain ⟨more, hmore⟩ : ∃ more,
      (line (SourceFile.mk none [allowUnused] items).spell).toList = '#' :: ' ' :: more :=
    ⟨_, String.toList_ofList⟩
  have hread := ofChars?_line h (by simp [hmore])
  have hsplit : splitInterpreter (dropByteOrderMark ('#' :: ' ' :: more)) =
      (none, '#' :: ' ' :: more) := rfl
  unfold SourceFile.ofText?
  rw [hmore] at hread ⊢
  rw [hsplit]
  dsimp only
  rw [hread]

/-! ## Rendering -/

namespace Artifact

/-- The text of an artifact whose source is read and can be set on lines. -/
theorem render_formatted (hread : SourceFile.ofText? a.source = .ok f)
    (hset : f.print = .ok text) : a.render true = .ok (a.header ++ "\n\n" ++ text) := by
  have hbody : a.body true = .ok text := by
    show formatSource a.source = _
    unfold formatSource
    rw [hread]
    dsimp only
    rw [hset]
    rfl
  unfold render
  rw [hbody]
  rfl

/-- The source of an artifact is read as its tokens are. -/
theorem ofText?_source (hs : WellSpelled a.tokens)
    (ht : a.tokens = (SourceFile.mk none [allowUnused] items).spell) :
    SourceFile.ofText? a.source =
      (SourceFile.ofTokens? a.tokens).map fun f => { f with interpreter := none } := by
  unfold source
  rw [ht] at hs ⊢
  exact ofText?_line hs

/-- An artifact whose source cannot be read is not formatted. -/
theorem render_unreadable (hread : SourceFile.ofText? a.source = .error reason) :
    a.render true = .error (.unreadable reason a.source) := by
  have hbody : a.body true = .error (.unreadable reason a.source) := by
    show formatSource a.source = _
    unfold formatSource
    rw [hread]
  unfold render
  rw [hbody]
  rfl

end Artifact

/-! ## Paths that lead to no type -/

/-- Whether a path begins with the word `try`, without colons before it. -/
def Code.Path.beginsWithTry : Path → Bool
  | .mk false (.name n :: _) => n == "try"
  | _ => false

namespace Emission

/-- A path that does not begin with `try` leads to a type of each kind. -/
theorem typePath_of_not_beginsWithTry {leading : Bool} {names : List String} {n : String}
    (h : (Path.ofNames leading names).beginsWithTry = false) (hne : names ≠ [])
    (hnames : ∀ m ∈ names, Reader.isSegmentName m = true) (hn : Keyword.isReserved n = false) :
    Reader.TypePath leading names n := by
  refine ⟨forall_mem_snoc hnames (Reader.isSegmentName_plain hn), ?_⟩
  rintro rfl
  cases names with
  | nil => exact absurd rfl hne
  | cons m names =>
    have hm : (m == "try") = false := h
    simpa using hm

/-- A path that begins with `try`. -/
theorem exists_names_of_beginsWithTry {leading : Bool} {names : List String}
    (h : (Path.ofNames leading names).beginsWithTry = true) :
    ∃ more, Path.ofNames leading names = Path.ofNames false ("try" :: more) := by
  cases leading with
  | true => cases h
  | false =>
    cases names with
    | nil => cases h
    | cons m names =>
      obtain rfl : m = "try" := eq_of_beq h
      exact ⟨names, rfl⟩

/-- What a generation that gives artifacts has made them of: an accepted path, and kinds whose names
are no keywords. -/
structure MadeOf (artifacts : Artifacts) (kinds : List KindNames) (leading : Bool)
    (names : List String) : Prop where
  names_ne_nil : names ≠ []
  segments : ∀ n ∈ names, Reader.isSegmentName n = true
  plain : ∀ k ∈ kinds, Plain k
  handlers : artifacts.handlers.tokens = (handlersTree (Path.ofNames leading names) kinds).spell
  visitor : artifacts.visitor.tokens = (visitorTree (Path.ofNames leading names) kinds).spell

theorem madeOf_of_generate {c : Catalog} {moduleId astPath : String} {ast : Path}
    {artifacts : Artifacts} (h : c.generate moduleId astPath = .ok artifacts)
    (ha : readAstPath astPath = .ok ast) :
    ∃ leading names, ast = Path.ofNames leading names ∧
      MadeOf artifacts (c.kinds.map KindNames.ofName) leading names := by
  obtain ⟨hk, -, ast', ha', hh, hv⟩ := of_generate h
  obtain rfl : ast' = ast := Except.ok.inj (ha'.symm.trans ha)
  obtain ⟨leading, names, rfl, hne, hnames⟩ := of_readAstPath ha
  exact ⟨leading, names, rfl, hne, fun n hn => (hnames n hn).2,
    List.forall_mem_map.2 fun name hm => plain_ofName (hk.alone name hm),
    congrArg Artifact.tokens hh, congrArg Artifact.tokens hv⟩

variable {artifacts : Artifacts} {kinds : List KindNames} {leading : Bool} {names : List String}

/-- The source of an artifact made of a path that does not begin with `try` is read and set. -/
theorem MadeOf.formats (h : MadeOf artifacts kinds leading names)
    (htry : (Path.ofNames leading names).beginsWithTry = false ∨ kinds = [])
    (hs : ∀ kind, WellSpelled (artifacts.ofKind kind).tokens) (kind : ArtifactKind) :
    ∃ f text, SourceFile.ofText? (artifacts.ofKind kind).source = .ok f ∧ f.print = .ok text := by
  -- Without kinds no type is ever spelled, whatever the path.
  have htypes : ∀ k ∈ kinds, Reader.TypePath leading names k.name := by
    intro k hm
    rcases htry with htry | rfl
    · exact typePath_of_not_beginsWithTry htry h.names_ne_nil h.segments (h.plain k hm).name
    · cases hm
  cases kind with
  | handlers =>
    obtain ⟨text, hset⟩ := print_handlersTree leading names kinds
    have hread : SourceFile.ofText? artifacts.handlers.source = _ :=
      Artifact.ofText?_source (hs .handlers) h.handlers
    rw [h.handlers, ofTokens?_handlersTree h.plain htypes] at hread
    exact ⟨_, text, hread, hset⟩
  | visitor =>
    obtain ⟨text, hset⟩ := print_readVisitorTree leading names kinds
    have hread : SourceFile.ofText? artifacts.visitor.source = _ :=
      Artifact.ofText?_source (hs .visitor) h.visitor
    rw [h.visitor, ofTokens?_visitorTree h.plain htypes] at hread
    exact ⟨_, text, hread, hset⟩

/-- With a path that begins with `try` and a kind, the handlers cannot be read. -/
theorem MadeOf.unreadable (h : MadeOf artifacts kinds leading names)
    (htry : (Path.ofNames leading names).beginsWithTry = true) (hkinds : kinds ≠ [])
    (hs : WellSpelled artifacts.handlers.tokens) :
    ∃ reason, SourceFile.ofText? artifacts.handlers.source = .error reason := by
  obtain ⟨k, rest, rfl⟩ := List.exists_cons_of_ne_nil hkinds
  obtain ⟨more, hmore⟩ := exists_names_of_beginsWithTry htry
  have hread := Artifact.ofText?_source hs h.handlers
  obtain ⟨reason, hreason⟩ :=
    @ofTokens?_handlersTree_try more rest k (h.plain k List.mem_cons_self)
  rw [h.handlers, hmore, hreason] at hread
  exact ⟨reason, hread⟩

/-- **Both artifacts are formatted**, unless the path of the node types begins with `try` and there
are kinds. Then the handlers cannot be read, and formatting reports that with their source. -/
theorem formats_unless_try {c : Catalog} {moduleId astPath : String} {ast : Path}
    {artifacts : Artifacts} (h : c.generate moduleId astPath = .ok artifacts)
    (ha : readAstPath astPath = .ok ast) :
    (ast.beginsWithTry = false ∨ c.kinds = [] → ∀ kind,
      let a := artifacts.ofKind kind
      ∃ f text, SourceFile.ofText? a.source = .ok f ∧ f.print = .ok text ∧
        a.render true = .ok (a.header ++ "\n\n" ++ text)) ∧
      (ast.beginsWithTry = true → c.kinds ≠ [] →
        ∃ reason, SourceFile.ofText? artifacts.handlers.source = .error reason ∧
          artifacts.handlers.render true =
            .error (.unreadable reason artifacts.handlers.source)) := by
  have hs := wellSpelled_of_generate h
  obtain ⟨leading, names, rfl, hmade⟩ := madeOf_of_generate h ha
  constructor
  · intro htry kind
    obtain ⟨f, text, hread, hset⟩ := hmade.formats (htry.imp_right (by simp)) hs kind
    exact ⟨f, text, hread, hset, Artifact.render_formatted hread hset⟩
  · intro htry hkinds
    obtain ⟨reason, hread⟩ := hmade.unreadable htry (by simpa using hkinds) (hs .handlers)
    exact ⟨reason, hread, Artifact.render_unreadable hread⟩

theorem exists_of_isOk {ε α : Type} {x : Except ε α} (h : x.isOk = true) : ∃ a, x = .ok a := by
  cases x with
  | error e => cases h
  | ok a => exact ⟨a, rfl⟩

/-- Paths with the word `try` behind colons and behind another name, and the same word with no kind
behind it. -/
theorem formats_unless_try_behind :
    (∃ artifacts, (Catalog.explicit ["Ident"]).generate "m" "::try::syn" = .ok artifacts ∧
      ∀ kind, ∃ text, (artifacts.ofKind kind).render true = .ok text) ∧
    ∃ artifacts, (Catalog.explicit []).generate "m" "try" = .ok artifacts ∧
      ∀ kind, ∃ text, (artifacts.ofKind kind).render true = .ok text := by
  have hbehind : readAstPath "::try::syn" = .ok (Path.ofNames true ["try", "syn"]) :=
    readAstPath_of_plainPath? (q := ⟨true, ["try", "syn"]⟩) (by decide +kernel)
  have htry : readAstPath "try" = .ok (Path.single "try") :=
    readAstPath_of_plainPath? (q := ⟨false, ["try"]⟩) (by decide +kernel)
  obtain ⟨artifacts, hg⟩ := exists_of_isOk
    (show ((Catalog.explicit ["Ident"]).generate "m" "::try::syn").isOk = true by decide +kernel)
  obtain ⟨empty, he⟩ := exists_of_isOk
    (show ((Catalog.explicit []).generate "m" "try").isOk = true by decide +kernel)
  refine ⟨⟨artifacts, hg, fun kind => ?_⟩, empty, he, fun kind => ?_⟩
  · obtain ⟨-, text, -, -, hr⟩ := (formats_unless_try hg hbehind).1 (Or.inl rfl) kind
    exact ⟨_, hr⟩
  · obtain ⟨-, text, -, -, hr⟩ := (formats_unless_try he htry).1 (Or.inr rfl) kind
    exact ⟨_, hr⟩

/-- The path `try` is accepted and the artifacts are made, but the handlers are not formatted. -/
theorem handlers_unreadable_at_try :
    readAstPath "try" = .ok (Path.single "try") ∧
      ∃ artifacts, (Catalog.explicit ["A"]).generate "m" "try" = .ok artifacts ∧
        ∃ reason, artifacts.handlers.render true =
          .error (.unreadable reason artifacts.handlers.source) := by
  have htry : readAstPath "try" = .ok (Path.single "try") :=
    readAstPath_of_plainPath? (q := ⟨false, ["try"]⟩) (by decide +kernel)
  obtain ⟨artifacts, hg⟩ := exists_of_isOk
    (show ((Catalog.explicit ["A"]).generate "m" "try").isOk = true by decide +kernel)
  obtain ⟨leading, names, hp, hmade⟩ := madeOf_of_generate hg htry
  obtain ⟨reason, hread⟩ := hmade.unreadable (by rw [← hp]; rfl) (List.cons_ne_nil _ _)
    (wellSpelled_of_generate hg .handlers)
  exact ⟨htry, artifacts, hg, reason, Artifact.render_unreadable hread⟩

end Emission

end DispatchLayer
