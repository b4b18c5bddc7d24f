import DispatchLayer.Emission
import DispatchLayer.Proofs.Emission.Names
import DispatchLayer.Proofs.Emission.Tree

/-!
# When emission completes

A lowered catalog need not be emitted: lowering lets kinds pass whose names spell no name tokens,
such as `_1`, whose method would be `1`. Emission of a lowered catalog completes exactly if all its
kinds are `Emittable`, and breaks off at a name otherwise (`completes_iff_emittable`).
-/

namespace DispatchLayer.Emission

open Code Name

/-! ## Accepted paths -/

/-- A path without generic arguments is made of its names. -/
theorem eq_ofNames_of_asPlain? {p : Path} {q : PlainPath} (h : p.asPlain? = some q) :
    p = Path.ofNames q.leading q.names := by
  obtain ⟨leading, segments⟩ := p
  obtain ⟨names, hn, rfl⟩ := Option.map_eq_some_iff.1 h
  have hs : segments = names.map Segment.name := by
    -- Segment by segment: one with arguments would have given no name.
    simp only [Path.segments] at hn
    clear h
    induction segments generalizing names with
    | nil =>
      cases hn
      rfl
    | cons s segments ih =>
      rw [List.mapM_cons, Option.bind_eq_bind, Option.bind_eq_some_iff] at hn
      obtain ⟨n, hs, hn⟩ := hn
      rw [Option.bind_eq_bind, Option.bind_eq_some_iff] at hn
      obtain ⟨rest, hrest, hn⟩ := hn
      cases hn
      cases s with
      | name n' =>
        cases hs
        rw [List.map_cons, ih rest hrest]
      | angle => cases hs
      | paren => cases hs
  rw [hs]
  rfl

/-- The plain path that a text is accepted as. -/
def plainPath? (path : String) : Option PlainPath :=
  (readAstPath path).toOption.bind Path.asPlain?

theorem readAstPath_of_plainPath? {path : String} {q : PlainPath} (h : plainPath? path = some q) :
    readAstPath path = .ok (Path.ofNames q.leading q.names) := by
  unfold plainPath? at h
  cases hr : readAstPath path with
  | error e =>
    rw [hr] at h
    cases h
  | ok p =>
    rw [hr] at h
    rw [eq_ofNames_of_asPlain? h]

theorem readAstPath_syn : readAstPath "syn" = .ok (Path.single "syn") :=
  readAstPath_of_plainPath? (q := ⟨false, ["syn"]⟩) (by decide +kernel)

/-! ## The names that are checked -/

/-- The names of the handlers file are the kinds, their traits and their methods. -/
theorem mem_handlersNames {kinds : List KindNames} {n : String} :
    n ∈ handlersNames kinds ↔ ∃ k ∈ kinds, n ∈ [k.name, k.handlerTrait, k.method] := by
  simp only [handlersNames, List.mem_append, List.mem_flatMap, List.mem_cons, List.not_mem_nil,
    or_false, or_self]
  constructor
  · rintro (⟨k, hk, h⟩ | ⟨k, hk, h | h | h⟩)
    · exact ⟨k, hk, Or.inl h⟩
    · exact ⟨k, hk, Or.inr (Or.inl h)⟩
    · exact ⟨k, hk, Or.inr (Or.inr h)⟩
    · exact ⟨k, hk, Or.inl h⟩
  · rintro ⟨k, hk, h | h | h⟩
    · exact Or.inr ⟨k, hk, Or.inr (Or.inr h)⟩
    · exact Or.inr ⟨k, hk, Or.inl h⟩
    · exact Or.inr ⟨k, hk, Or.inr (Or.inl h)⟩

/-- The names of the visitor file are all names of the kinds. -/
theorem mem_visitorNames {kinds : List KindNames} {n : String} :
    n ∈ visitorNames kinds ↔ ∃ k ∈ kinds, n ∈ namesOf k := by
  simp only [visitorNames, namesOf, List.mem_append, List.mem_flatMap, List.mem_cons,
    List.not_mem_nil, or_false]
  constructor
  · rintro ((⟨k, hk, h⟩ | ⟨k, hk, h⟩) | (⟨k, hk, h⟩ | ⟨k, hk, h⟩) | ⟨k, hk, h⟩)
    all_goals exact ⟨k, hk, by tauto⟩
  · rintro ⟨k, hk, h | h | h | h | h⟩
    · exact Or.inl (Or.inl ⟨k, hk, Or.inr (Or.inr h)⟩)
    · exact Or.inl (Or.inl ⟨k, hk, Or.inl h⟩)
    · exact Or.inl (Or.inl ⟨k, hk, Or.inr (Or.inl h)⟩)
    · exact Or.inl (Or.inr ⟨k, hk, Or.inl h⟩)
    · exact Or.inr (Or.inl (Or.inl ⟨k, hk, Or.inl h⟩))

section Files

variable {names : List String} {ast : Path}

/-- The handlers file of lowered kinds is made exactly if all of them can be emitted. -/
theorem handlersFile_isOk_iff (hash : ∀ name ∈ names, '#' ∉ name.toList) :
    (∃ f, handlersFile ast (names.map KindNames.ofName) = .ok f) ↔
      ∀ name ∈ names, Emittable name := by
  rw [(emits_handlersFile ast _).isOk_iff]
  constructor
  · intro hall name hm
    have hk := List.mem_map_of_mem (f := KindNames.ofName) hm
    refine emittable_of_validate (hash name hm) (hall _ ?_) (hall _ ?_)
    · exact mem_handlersNames.2 ⟨_, hk, by simp [KindNames.ofName]⟩
    · exact mem_handlersNames.2 ⟨_, hk, by simp⟩
  · intro hall n hn
    obtain ⟨k, hk, hn⟩ := mem_handlersNames.1 hn
    obtain ⟨name, hm, rfl⟩ := List.mem_map.1 hk
    -- The names of the handlers file are the first three of all names of the kind.
    refine validate_of_emittable (hash name hm) (hall name hm) n ?_
    unfold namesOf
    exact List.mem_append_left [_, _] hn

/-- The visitor file of lowered kinds is made exactly if all of them can be emitted. -/
theorem visitorFile_isOk_iff (hash : ∀ name ∈ names, '#' ∉ name.toList) :
    (∃ f, visitorFile ast (names.map KindNames.ofName) = .ok f) ↔
      ∀ name ∈ names, Emittable name := by
  rw [(emits_visitorFile ast _).isOk_iff]
  constructor
  · intro hall name hm
    refine (validate_names_iff (hash name hm)).1 fun n hn => hall n ?_
    exact mem_visitorNames.2 ⟨_, List.mem_map_of_mem (f := KindNames.ofName) hm, hn⟩
  · intro hall n hn
    obtain ⟨k, hk, hn⟩ := mem_visitorNames.1 hn
    obtain ⟨name, hm, rfl⟩ := List.mem_map.1 hk
    exact validate_of_emittable (hash name hm) (hall name hm) n hn

end Files

/-! ## Completion -/

theorem map_eq_ok_iff {ε α β : Type} {x : Except ε α} {f : α → β} {b : β} :
    x.map f = .ok b ↔ ∃ a, x = .ok a ∧ f a = b := by
  cases x with
  | error e => simp [Except.map]
  | ok a => simp [Except.map]

theorem map_isOk_iff {ε α β : Type} {x : Except ε α} {f : α → β} :
    (∃ b, x.map f = .ok b) ↔ ∃ a, x = .ok a := by
  constructor
  · rintro ⟨b, h⟩
    obtain ⟨a, ha, -⟩ := map_eq_ok_iff.1 h
    exact ⟨a, ha⟩
  · rintro ⟨a, ha⟩
    exact ⟨f a, map_eq_ok_iff.2 ⟨a, ha, rfl⟩⟩

/-- The steps of a generation that gives artifacts. -/
theorem generate_eq_ok_iff {c : Catalog} {moduleId astPath : String} {artifacts : Artifacts} :
    c.generate moduleId astPath = .ok artifacts ↔
      ∃ plan ast, c.lower moduleId astPath = .ok plan ∧ readAstPath plan.astPath = .ok ast ∧
        handlers ast plan = .ok artifacts.handlers ∧ visitor ast plan = .ok artifacts.visitor := by
  unfold Catalog.generate
  constructor
  · intro h
    simp only [bind, Except.bind, Except.mapError] at h
    cases hl : c.lower moduleId astPath with
    | error es => simp [hl] at h
    | ok plan =>
      simp only [hl, DispatchPlan.emit, bind, Except.bind, Except.mapError] at h
      cases hp : readAstPath plan.astPath with
      | error e => simp [hp] at h
      | ok ast =>
        simp only [hp] at h
        cases hh : handlers ast plan with
        | error e => simp [hh] at h
        | ok ha =>
          cases hv : visitor ast plan with
          | error e => simp [hh, hv] at h
          | ok va =>
            simp only [hh, hv, pure, Except.pure, Except.ok.injEq] at h
            subst h
            exact ⟨plan, ast, rfl, hp, hh, hv⟩
  · rintro ⟨plan, ast, hl, hp, hh, hv⟩
    simp only [hl, DispatchPlan.emit, hp, hh, hv, bind, Except.bind, Except.mapError]
    rfl

/-- **What artifacts are made of.** The kinds of the catalog are admissible and all their names are
name tokens, and the artifacts are the two trees of these kinds with the header for the module. -/
theorem of_generate {c : Catalog} {moduleId astPath : String} {artifacts : Artifacts}
    (h : c.generate moduleId astPath = .ok artifacts) :
    Plan.Admissible c.kinds ∧
      (∀ k ∈ c.kinds.map KindNames.ofName, ∀ n ∈ namesOf k, validate n = .ok ()) ∧
      ∃ ast, readAstPath astPath = .ok ast ∧
        artifacts.handlers =
          toArtifact .handlers moduleId (handlersTree ast (c.kinds.map KindNames.ofName)) ∧
        artifacts.visitor =
          toArtifact .visitor moduleId (visitorTree ast (c.kinds.map KindNames.ofName)) := by
  obtain ⟨plan, ast, hl, ha, hh, hv⟩ := generate_eq_ok_iff.1 h
  obtain ⟨hk, rfl⟩ := Plan.lower_eq_ok_iff.1 hl
  obtain ⟨hf, hhandlers, heh⟩ := map_eq_ok_iff.1 hh
  obtain ⟨vf, hvisitor, hev⟩ := map_eq_ok_iff.1 hv
  obtain ⟨-, rfl⟩ := (emits_handlersFile _ _).eq_ok_iff.1 hhandlers
  -- The visitor file is checked for all names, those of the handlers file among them.
  obtain ⟨hvalid, rfl⟩ := (emits_visitorFile _ _).eq_ok_iff.1 hvisitor
  exact ⟨hk, fun k hk n hn => hvalid n (mem_visitorNames.2 ⟨k, hk, hn⟩), ast, ha, heh.symm,
    hev.symm⟩

/-- A lowered catalog with a path that can be read has both artifacts, or generation breaks off at a
name. -/
theorem generate_breaks_off_iff {c : Catalog} {moduleId astPath : String} {plan : DispatchPlan}
    {ast : Path} (hl : c.lower moduleId astPath = .ok plan)
    (ha : readAstPath plan.astPath = .ok ast) :
    (∃ e, c.generate moduleId astPath = .error (.name e)) ↔
      ¬ ((∃ a, handlers ast plan = .ok a) ∧ ∃ a, visitor ast plan = .ok a) := by
  have hg : c.generate moduleId astPath = plan.emit := by
    unfold Catalog.generate
    rw [hl]
    rfl
  rw [hg]
  simp only [DispatchPlan.emit, ha, bind, Except.bind, Except.mapError]
  cases handlers ast plan with
  | error e => simp
  | ok h =>
    cases visitor ast plan with
    | error e => simp
    | ok v => simp [pure, Except.pure]

/-- **When emission completes.** For a catalog that is lowered and a path that can be read, the
names of a kind are name tokens exactly if the kind is emittable; both artifacts are made exactly if
all kinds are emittable; and generation breaks off at a name exactly if some kind is not. -/
theorem completes_iff_emittable {c : Catalog} {moduleId astPath : String} {plan : DispatchPlan}
    {ast : Path} (hl : c.lower moduleId astPath = .ok plan) (ha : readAstPath astPath = .ok ast) :
    (∀ name ∈ c.kinds,
      (∀ n ∈ namesOf (KindNames.ofName name), validate n = .ok ()) ↔ Emittable name) ∧
      ((∃ a, handlers ast plan = .ok a) ↔ ∀ name ∈ c.kinds, Emittable name) ∧
      ((∃ a, visitor ast plan = .ok a) ↔ ∀ name ∈ c.kinds, Emittable name) ∧
      ((∃ e, c.generate moduleId astPath = .error (.name e)) ↔
        ∃ name ∈ c.kinds, ¬ Emittable name) := by
  obtain ⟨hk, rfl⟩ := Plan.lower_eq_ok_iff.1 hl
  have hash : ∀ name ∈ c.kinds, '#' ∉ name.toList :=
    fun name hm => Plan.no_hash_of_standsAlone (hk.alone name hm)
  have hh : (∃ a, handlers ast ⟨moduleId, astPath, c.kinds.map KindNames.ofName⟩ = .ok a) ↔
      ∀ name ∈ c.kinds, Emittable name :=
    map_isOk_iff.trans (handlersFile_isOk_iff hash)
  have hv : (∃ a, visitor ast ⟨moduleId, astPath, c.kinds.map KindNames.ofName⟩ = .ok a) ↔
      ∀ name ∈ c.kinds, Emittable name :=
    map_isOk_iff.trans (visitorFile_isOk_iff hash)
  -- Both artifacts ask for the same, so generation breaks off where one of them does.
  refine ⟨fun name hm => validate_names_iff (hash name hm), hh, hv, ?_⟩
  rw [generate_breaks_off_iff hl ha, hh, hv, and_self]
  simp

/-- A catalog that is emitted, and a further kind with which it is not. -/
theorem completes_iff_emittable_lone_digit :
    (∃ a, handlers (Path.single "syn")
        ⟨"m", "syn", ["Ident", "Type"].map KindNames.ofName⟩ = .ok a) ∧
      ∃ e, (Catalog.explicit ["Ident", "Type", "_1"]).generate "m" "syn" = .error (.name e) := by
  have h : (Catalog.explicit ["Ident", "Type"]).lower "m" "syn" =
      .ok ⟨"m", "syn", ["Ident", "Type"].map KindNames.ofName⟩ :=
    Plan.lower_eq_ok_iff.2 ⟨by decide +kernel, rfl⟩
  have h' : (Catalog.explicit ["Ident", "Type", "_1"]).lower "m" "syn" =
      .ok ⟨"m", "syn", ["Ident", "Type", "_1"].map KindNames.ofName⟩ :=
    Plan.lower_eq_ok_iff.2 ⟨by decide +kernel, rfl⟩
  obtain ⟨-, hh, -, -⟩ := completes_iff_emittable h readAstPath_syn
  obtain ⟨-, -, -, hb⟩ := completes_iff_emittable h' readAstPath_syn
  exact ⟨hh.2 (by decide +kernel), hb.2 ⟨"_1", by simp [Catalog.explicit], by decide +kernel⟩⟩

/-- A kind that is lowered and cannot be emitted: its method would be `1`. -/
theorem generate_lone_digit :
    (Catalog.explicit ["_1"]).lower "m" "syn" = .ok ⟨"m", "syn", [KindNames.ofName "_1"]⟩ ∧
      readAstPath "syn" = .ok (Path.single "syn") ∧
      (Catalog.explicit ["_1"]).generate "m" "syn" = .error (.name .number) := by
  have hl : (Catalog.explicit ["_1"]).lower "m" "syn" =
      .ok ⟨"m", "syn", [KindNames.ofName "_1"]⟩ :=
    Plan.lower_eq_ok_iff.2 ⟨by decide +kernel, rfl⟩
  -- The kind and its trait pass the check, the method does not.
  have hn : validateAll (handlersNames [KindNames.ofName "_1"]) = .error .number := by
    decide +kernel
  have hf : handlersFile (Path.single "syn") [KindNames.ofName "_1"] = .error .number := by
    rw [emits_handlersFile, hn]
    rfl
  refine ⟨hl, readAstPath_syn, ?_⟩
  unfold Catalog.generate
  rw [hl]
  simp only [DispatchPlan.emit, readAstPath_syn, handlers, hf, bind, Except.bind, Except.mapError,
    Except.map]

end DispatchLayer.Emission
