import DispatchLayer.Proofs.Run.Writes

/-!
# Running again

A run whose module is known can be made once more on the tree it has left: it ends in the same way,
with the same paths or the same error, and changes nothing more (`regeneration_idempotent`). This
holds for all trees, also where the two paths are links to each other or to nothing yet, and for
runs that have failed half way. The texts that a run writes begin with the marker of the generator
(`isGenerated_of_text?`), so a run that ended well finds only files of its own when it is made
again, and does not warn.
-/

namespace DispatchLayer

/-! ## Texts of the generator -/

theorem Artifact.isGenerated_append (rest : String) : isGenerated (marker ++ rest) = true := by
  unfold isGenerated
  rw [String.toList_append, List.isPrefixOf_iff_prefix]
  exact List.prefix_append _ _

/-- Whatever follows it, a header marks the text as generated. -/
theorem Artifact.isGenerated_of_render {a : Artifact} {moduleId text : String} {format : Bool}
    (hh : a.header = headerFor moduleId) (h : a.render format = .ok text) :
    isGenerated text = true := by
  unfold render at h
  cases hb : a.body format with
  | error e =>
    rw [hb] at h
    cases h
  | ok body =>
    rw [hb] at h
    cases h
    rw [hh]
    unfold headerFor
    simp only [String.append_assoc]
    exact isGenerated_append _

theorem RunOptions.isGenerated_of_text? {o : RunOptions} {moduleId text : String}
    {kind : ArtifactKind} (h : o.text? moduleId kind = some text) :
    Artifact.isGenerated text = true := by
  obtain ⟨artifacts, hg, hr⟩ := text?_eq_some_iff.1 h
  exact Artifact.isGenerated_of_render (header_ofKind_of_generate hg kind) hr

/-! ## Runs without a warning -/

namespace Workspace

/-- Events have been added, and none of them says that a file of another origin is replaced. -/
def Unwarned (before after : Workspace) : Prop :=
  ∃ events, after.log = before.log ++ events ∧ ∀ path, Event.replacing path ∉ events

theorem Unwarned.trans {u v w : Workspace} (h : u.Unwarned v) (h' : v.Unwarned w) :
    u.Unwarned w := by
  obtain ⟨es, he, hn⟩ := h
  obtain ⟨es', he', hn'⟩ := h'
  refine ⟨es ++ es', ?_, ?_⟩
  · rw [he', he, List.append_assoc]
  · intro path hm
    rcases List.mem_append.1 hm with hm | hm
    · exact hn path hm
    · exact hn' path hm

theorem unwarned_of_log_eq {w v : Workspace} (h : v.log = w.log) : w.Unwarned v := by
  refine ⟨[], ?_, ?_⟩
  · rw [h, List.append_nil]
  · intro path
    exact List.not_mem_nil

theorem Unwarned.noted {w v : Workspace} {e : Event} (h : w.Unwarned v)
    (he : ∀ path, .replacing path ≠ e) : w.Unwarned (v.noted e) := by
  apply h.trans
  refine ⟨[e], rfl, ?_⟩
  intro path hm
  exact he path (List.mem_singleton.1 hm)

end Workspace

open Workspace

namespace Run

variable {dir moduleId : String} {w : Workspace}

/-- A file with a text of the generator is replaced without a warning. -/
theorem unwarned_written {artifact : ArtifactKind × String} {old : String} {t : FileTree}
    (ht : w.tree = t) (h : t.Holds (Pathname.join dir artifact.1.fileName) old)
    (hg : Artifact.isGenerated old = true) (after : FileTree) :
    w.Unwarned (written dir moduleId artifact after w) := by
  have hw : warned (Pathname.join dir artifact.1.fileName) w = w := by
    unfold warned
    rw [ht, h.readText]
    dsimp only
    rw [hg, if_pos rfl]
  unfold written
  dsimp only
  rw [hw]
  apply Unwarned.noted
  · apply Unwarned.noted
    · exact unwarned_of_log_eq rfl
    · exact fun path => nofun
  · exact fun path => nofun

theorem unwarned_emitting (catalog : Catalog) (moduleId astPath : String) (w : Workspace) :
    w.Unwarned (emitting catalog moduleId astPath w) := by
  unfold emitting
  split
  · exact unwarned_of_log_eq rfl
  · split
    · apply Unwarned.noted
      · exact unwarned_of_log_eq rfl
      · exact fun path => nofun
    · apply Unwarned.noted
      · apply Unwarned.noted
        · exact unwarned_of_log_eq rfl
        · exact fun path => nofun
      · exact fun path => nofun

/-- The second time, the two writes end as they did the first time. If both went through, they
replace nothing but texts of their own. -/
theorem place_pair_again {a b : ArtifactKind × String} {v : Workspace}
    (hv : v.tree = (outcome ([a, b].mapM (place dir moduleId)) w).2.tree)
    (ha : Artifact.isGenerated a.2 = true) (hb : Artifact.isGenerated b.2 = true) :
    let first := outcome ([a, b].mapM (place dir moduleId)) w
    let second := outcome ([a, b].mapM (place dir moduleId)) v
    second.1 = first.1 ∧ second.2.tree = first.2.tree ∧
      ∀ paths, first.1 = .ok paths → v.Unwarned second.2 := by
  rw [outcome_place_pair] at hv ⊢
  rw [outcome_place_pair]
  cases hp : w.tree.writeText (Pathname.join dir a.1.fileName) a.2 with
  | error e =>
    -- Nothing has been written, and nothing is.
    simp only [hp, warned_tree] at hv ⊢
    rw [hv, hp]
    exact ⟨rfl, by rw [warned_tree, hv], fun _ h => by cases h⟩
  | ok first =>
    cases hq : first.writeText (Pathname.join dir b.1.fileName) b.2 with
    | error e =>
      -- The first text is in place, and the second cannot be put where it belongs.
      simp only [hp, hq, warned_tree, written_tree] at hv ⊢
      rw [hv, FileTree.writeText_again hp]
      dsimp only
      rw [hq]
      exact ⟨rfl, by rw [warned_tree, written_tree], fun _ h => by cases h⟩
    | ok second =>
      simp only [hp, hq, written_tree] at hv ⊢
      obtain ⟨third, hthird, hlast⟩ := FileTree.writeText_pair_again hp hq
      rw [hv, hthird]
      dsimp only
      rw [hlast]
      refine ⟨rfl, rfl, fun _ _ => ?_⟩
      -- Each file that is replaced holds one of the two texts.
      have hheld := (FileTree.holds_of_writeText hp).after_writeText hq
      have hheld' := (FileTree.holds_of_writeText hq).after_writeText hthird
      have hfirst : v.Unwarned (written dir moduleId a third v) := by
        rcases hheld with h | h
        · exact unwarned_written hv h ha third
        · exact unwarned_written hv h hb third
      -- The second write finds what the first has left.
      apply hfirst.trans
      rcases hheld' with h | h
      · exact unwarned_written (written_tree ..) h hb second
      · exact unwarned_written (written_tree ..) h ha second

end Run

namespace RunOptions

/-- The outcome of a run for a known module. -/
theorem outcome_run_known (o : RunOptions) (moduleId : String) (w : Workspace) :
    outcome (o.run fun _ => pure moduleId) w =
      match o.texts moduleId with
      | .error e =>
        (.error e, Run.emitting (Catalog.resolve o.kinds) moduleId o.astPath (o.started w))
      | .ok texts =>
        outcome (texts.mapM (Run.place o.dir moduleId))
          (Run.emitting (Catalog.resolve o.kinds) moduleId o.astPath (o.started w)) := by
  rw [outcome_run]
  rfl

/-- A run without a fault ends well. -/
theorem exists_ok_of_firstFault {o : RunOptions} {moduleId : String} {w : Workspace}
    (h : o.firstFault (.ok moduleId) w.tree = none) :
    ∃ paths, (outcome (o.run fun _ => pure moduleId) w).1 = .ok paths := by
  cases hr : (outcome (o.run fun _ => pure moduleId) w).1 with
  | ok paths => exact ⟨paths, rfl⟩
  | error e =>
    have hsome : o.firstFault (.ok moduleId) w.tree = some e :=
      (run_endsWith o (fun _ => pure moduleId) w e).1.1 hr
    rw [h] at hsome
    cases hsome

/-- A tree in which the visitor's path is a link to the handlers' path, and that is a link to a file
that is not there. -/
def crossed : FileTree :=
  { top := "/top"
    entries := [(["out"], .directory), (["out", "handlers_gen.rs"], .link "../made.rs"),
      (["out", "visitor_gen.rs"], .link "handlers_gen.rs")] }

/-- **A run can be made again.** Whatever the tree, the options and the module: a second run on what
the first has left gives the same paths or the same error, and leaves the tree as the first has left
it. If the first run ended well, the second warns about no file of another origin. -/
theorem regeneration_idempotent (o : RunOptions) (moduleId : String) (w : Workspace) :
    let first := outcome (o.run fun _ => pure moduleId) w
    let second := outcome (o.run fun _ => pure moduleId) first.2
    second.1 = first.1 ∧ second.2.tree = first.2.tree ∧
      ∀ paths, first.1 = .ok paths → first.2.Unwarned second.2 := by
  intro first second
  have hfirst : first = _ := outcome_run_known o moduleId w
  have hsecond : second = _ := outcome_run_known o moduleId first.2
  rcases texts_eq o moduleId w.tree with ⟨e, -, ht, -⟩ | ⟨-, handlers, visitor, hh, hv, ht⟩
  · -- No texts, then as now.
    rw [ht] at hfirst hsecond
    rw [hsecond, hfirst]
    refine ⟨rfl, ?_, fun _ h => by cases h⟩
    rw [Run.emitting_tree, started_tree]
  · rw [ht] at hfirst hsecond
    dsimp only at hfirst hsecond
    obtain ⟨hanswer, htree, hquiet⟩ := Run.place_pair_again (v :=
        Run.emitting (Catalog.resolve o.kinds) moduleId o.astPath (o.started first.2))
      (by rw [Run.emitting_tree, started_tree, hfirst])
      (isGenerated_of_text? hh) (isGenerated_of_text? hv)
    rw [← hfirst, ← hsecond] at hanswer htree hquiet
    refine ⟨hanswer, htree, fun paths hp => ?_⟩
    have hstart : first.2.Unwarned (o.started first.2) :=
      (unwarned_of_log_eq rfl).noted fun path => nofun
    apply hstart.trans
    apply Unwarned.trans (Run.unwarned_emitting _ moduleId o.astPath _)
    exact hquiet paths hp

/-- Both texts go to one file, which the first run creates and the second replaces. -/
theorem regeneration_idempotent_crossed :
    let o : RunOptions := ⟨"out", ["Ident"], "syn", false⟩
    let first := outcome (o.run fun _ => pure "m") ⟨crossed, []⟩
    let second := outcome (o.run fun _ => pure "m") first.2
    (∃ paths, first.1 = .ok paths) ∧ second.1 = first.1 ∧ second.2.tree = first.2.tree ∧
      first.2.Unwarned second.2 := by
  intro o
  have hfault : o.firstFault (.ok "m") crossed = none := by decide +kernel
  clear_value o
  obtain ⟨paths, hfirst⟩ := exists_ok_of_firstFault (w := ⟨crossed, []⟩) hfault
  obtain ⟨hanswer, htree, hquiet⟩ := regeneration_idempotent o "m" ⟨crossed, []⟩
  exact ⟨⟨paths, hfirst⟩, hanswer, htree, hquiet paths hfirst⟩

end RunOptions

end DispatchLayer
