import DispatchLayer.Program
import DispatchLayer.Proofs.Run.Writes

/-!
# How the command ends

The command ends in one of six ways, and each has its own exit code, output and effect on the file
tree (`Ending`): it shows the help text, reports a misuse, shows its version, lists the two files it
has written, reports a failed run, or breaks off where emission does. Every command line ends in one
of these ways over every tree (`run_ends`). So the exit code, together with the command line, tells
what stands on the output and what has become of the tree (`exit_code_settles_effects`).
-/

namespace DispatchLayer

/-- The run has not failed but broken off: a string has spelled no name, or source could be read and
not be set. -/
def RunError.breaksOff : RunError → Bool
  | .generate (.name _) => true
  | .artifact _ (.format (.refused _)) => true
  | _ => false

namespace Program

open CommandLine

/-- The command line asks for a run. -/
def AsksForRun (arguments : List String) (c : CommandLine) : Prop :=
  parse arguments = .ok c ∧ c.version = false

/-- The run that a command line asks for, from a workspace on. -/
def runOf (c : CommandLine) (w : Workspace) : Except RunError (List String) × Workspace :=
  outcome (c.runOptions.run ModuleId.resolve) w

/-- The path of an artifact's file. -/
def pathFor (c : CommandLine) (kind : ArtifactKind) : String := Pathname.join c.dir kind.fileName

/-- The lines on the files written. -/
def listing (c : CommandLine) : String :=
  "written: " ++ pathFor c .handlers ++ "\nwritten: " ++ pathFor c .visitor ++ "\n"

/-- Both artifacts have been written: their texts can be made for the module that is found, and the
tree is the one before with each text at the destination of its path. -/
def WritesBoth (c : CommandLine) (w : Workspace) (after : FileTree) : Prop :=
  Nonempty (c.runOptions.Completed
    (outcome (ModuleId.resolve c.dir) (c.runOptions.started w)).1 w.tree after
    [pathFor c .handlers, pathFor c .visitor])

/-- The ways in which the command ends, each with what it leaves behind. -/
inductive Ending (arguments : List String) (w : Workspace) : Output × Workspace → Prop
  | help (h : parse arguments = .error .help) :
      Ending arguments w (⟨⟨0⟩, Help.text, ""⟩, w)
  | misuse (m : Misuse) (h : parse arguments = .error (.misuse m)) :
      Ending arguments w (⟨⟨2⟩, "", m.message⟩, w)
  | version (c : CommandLine) (h : parse arguments = .ok c) (hv : c.version = true) :
      Ending arguments w (⟨⟨0⟩, "astv 0.1.0\n", ""⟩, w)
  | written (c : CommandLine) (h : AsksForRun arguments c) (after : Workspace)
      (hr : runOf c w = (.ok [pathFor c .handlers, pathFor c .visitor], after)) :
      Ending arguments w (⟨⟨0⟩, listing c, ""⟩, after)
  | failed (c : CommandLine) (h : AsksForRun arguments c) (e : RunError) (after : Workspace)
      (hr : runOf c w = (.error e, after)) (hb : e.breaksOff = false) :
      Ending arguments w (⟨⟨1⟩, "", lines (unformatted e ++ ["Error: " ++ e.message])⟩, after)
  | brokenOff (c : CommandLine) (h : AsksForRun arguments c) (e : RunError) (after : Workspace)
      (report : String) (hr : runOf c w = (.error e, after)) (hb : e.breaksOff = true) :
      Ending arguments w (⟨⟨101⟩, "", report⟩, after)

/-! ## The parts of the command -/

theorem run_of_error {arguments : List String} {s : Stop} (h : parse arguments = .error s)
    (w : Workspace) :
    (Program.run (m := StateM Workspace) arguments).run w = (outputOfStop s, w) := by
  unfold Program.run
  rw [h]
  rfl

theorem run_of_version {arguments : List String} {c : CommandLine} (h : parse arguments = .ok c)
    (hv : c.version = true) (w : Workspace) :
    (Program.run (m := StateM Workspace) arguments).run w =
      (⟨.success, lines [commandName ++ " " ++ generatorVersion], ""⟩, w) := by
  unfold Program.run
  rw [h]
  dsimp only
  rw [if_pos hv]
  rfl

theorem run_of_asksForRun {arguments : List String} {c : CommandLine} (h : AsksForRun arguments c)
    (w : Workspace) :
    (Program.run (m := StateM Workspace) arguments).run w =
      (outputOf (runOf c w).1, (runOf c w).2) := by
  unfold Program.run
  rw [h.1]
  dsimp only
  rw [if_neg (by simp [h.2])]
  rfl

theorem outputOf_failed {e : RunError} (hb : e.breaksOff = false) :
    outputOf (.error e) = ⟨⟨1⟩, "", lines (unformatted e ++ ["Error: " ++ e.message])⟩ := by
  cases e with
  | moduleId e => rfl
  | generate e =>
    cases e with
    | catalog es => rfl
    | astPath e => rfl
    | name n => cases hb
  | artifact kind e =>
    cases e with
    | file e => rfl
    | format e =>
      cases e with
      | unreadable reason source => rfl
      | refused complaint => cases hb

theorem outputOf_brokenOff {e : RunError} (hb : e.breaksOff = true) :
    ∃ report, outputOf (.error e) = ⟨⟨101⟩, "", report⟩ := by
  cases e with
  | moduleId e => cases hb
  | generate e =>
    cases e with
    | catalog es => cases hb
    | astPath e => cases hb
    | name n => exact ⟨_, rfl⟩
  | artifact kind e =>
    cases e with
    | file e => cases hb
    | format e =>
      cases e with
      | unreadable reason source => cases hb
      | refused complaint => exact ⟨_, rfl⟩

theorem outputOf_written (c : CommandLine) :
    outputOf (.ok [pathFor c .handlers, pathFor c .visitor]) = ⟨⟨0⟩, listing c, ""⟩ := by
  have hlines : lines ["written: " ++ pathFor c .handlers, "written: " ++ pathFor c .visitor] =
      listing c := by
    simp [lines, listing, ← String.toList_inj]
  show (⟨⟨0⟩, lines _, ""⟩ : Output) = _
  rw [← hlines]
  rfl

/-! ## The run and the tree -/

/-- A run that ends well has written both artifacts, and only such a run has. -/
theorem writesBoth_iff {c : CommandLine} {w : Workspace} {after : FileTree} :
    WritesBoth c w after ↔
      (runOf c w).1 = .ok [pathFor c .handlers, pathFor c .visitor] ∧
        (runOf c w).2.tree = after := by
  unfold WritesBoth runOf
  rw [RunOptions.run_eq_ok_iff, ModuleId.resolve_keepsTree]
  rfl

/-- A run that ends well gives the paths of the two files. -/
theorem paths_of_runOf {c : CommandLine} {w : Workspace} {paths : List String}
    (h : (runOf c w).1 = .ok paths) : paths = [pathFor c .handlers, pathFor c .visitor] := by
  obtain ⟨done⟩ := RunOptions.completed_of_run (v := (runOf c w).2) (Prod.ext h rfl)
  exact done.paths_eq

/-- A run that does not end well has changed the tree only if the visitor could not be written. -/
theorem tree_of_runOf_eq_error {c : CommandLine} {w after : Workspace} {e : RunError}
    (h : runOf c w = (.error e, after)) :
    after.tree = w.tree ∨ ∃ fe, e = .artifact .visitor (.file fe) := by
  have hends := (RunOptions.run_endsWith c.runOptions ModuleId.resolve w e).2
  unfold runOf at h
  rw [h, ModuleId.resolve_keepsTree] at hends
  have hleft := hends rfl
  unfold RunOptions.LeftBy at hleft
  split at hleft
  next fe => exact Or.inr ⟨fe, rfl⟩
  · exact Or.inl hleft

/-! ## All endings -/

/-- **The command ends in one of the six ways.** -/
theorem run_ends (arguments : List String) (w : Workspace) :
    Ending arguments w ((Program.run (m := StateM Workspace) arguments).run w) := by
  cases hp : parse arguments with
  | error s =>
    rw [run_of_error hp]
    cases s with
    | help => exact .help hp
    | misuse m => exact .misuse m hp
  | ok c =>
    cases hv : c.version with
    | true =>
      rw [run_of_version hp hv]
      exact .version c hp hv
    | false =>
      have hc : AsksForRun arguments c := ⟨hp, hv⟩
      rw [run_of_asksForRun hc]
      cases hr : (runOf c w).1 with
      | ok paths =>
        obtain rfl := paths_of_runOf hr
        rw [outputOf_written]
        exact .written c hc _ (Prod.ext hr rfl)
      | error e =>
        cases hb : e.breaksOff with
        | false =>
          rw [outputOf_failed hb]
          exact .failed c hc e _ (Prod.ext hr rfl) hb
        | true =>
          obtain ⟨report, ho⟩ := outputOf_brokenOff hb
          rw [ho]
          exact .brokenOff c hc e _ report (Prod.ext hr rfl) hb

/-! ## What the exit code tells -/

section

variable {arguments : List String} {w : Workspace} {ended : Output × Workspace}

/-- At most one run is asked for. -/
theorem AsksForRun.exists_iff {c : CommandLine} (h : AsksForRun arguments c)
    {P : CommandLine → Prop} : (∃ c', AsksForRun arguments c' ∧ P c') ↔ P c := by
  constructor
  · rintro ⟨c', hc', hP⟩
    have he := h.1.symm.trans hc'.1
    cases he
    exact hP
  · exact fun hP => ⟨c, h, hP⟩

theorem not_asksForRun_of_error {s : CommandLine.Stop} (h : parse arguments = .error s)
    (c : CommandLine) : ¬ AsksForRun arguments c := by
  simp [AsksForRun, h]

theorem not_asksForRun_of_version {c : CommandLine} (h : parse arguments = .ok c)
    (hv : c.version = true) (c' : CommandLine) : ¬ AsksForRun arguments c' := by
  rintro ⟨hp, hf⟩
  rw [h] at hp
  cases hp
  simp [hv] at hf

theorem Ending.code_eq_two_iff (h : Ending arguments w ended) :
    ended.1.exitCode.code = 2 ↔ ∃ m, parse arguments = .error (.misuse m) := by
  cases h with
  | help h => simp [h]
  | misuse m h => simp [h]
  | version c h hv => simp [h]
  | written c h after hr => simp [h.1]
  | failed c h e after hr hb => simp [h.1]
  | brokenOff c h e after report hr hb => simp [h.1]

theorem Ending.code_eq_one_iff (h : Ending arguments w ended) :
    ended.1.exitCode.code = 1 ↔ ∃ c, AsksForRun arguments c ∧
      ∃ e, (runOf c w).1 = .error e ∧ e.breaksOff = false := by
  cases h with
  | help h => simp [not_asksForRun_of_error h]
  | misuse m h => simp [not_asksForRun_of_error h]
  | version c h hv => simp [not_asksForRun_of_version h hv]
  | written c h after hr => simp [h.exists_iff, hr]
  | failed c h e after hr hb => simp [h.exists_iff, hr, hb]
  | brokenOff c h e after report hr hb => simp [h.exists_iff, hr, hb]

theorem Ending.code_eq_zero_iff (h : Ending arguments w ended) :
    ended.1.exitCode.code = 0 ↔ parse arguments = .error .help ∨
      (∃ c, parse arguments = .ok c ∧ c.version = true) ∨
      ∃ c, AsksForRun arguments c ∧ WritesBoth c w ended.2.tree := by
  cases h with
  | help h => simp [h]
  | misuse m h => simp [h, not_asksForRun_of_error h]
  | version c h hv => simp [h, hv]
  | written c h after hr => simp [h.exists_iff, writesBoth_iff, hr]
  | failed c h e after hr hb => simp [h.exists_iff, writesBoth_iff, hr, h.1, h.2]
  | brokenOff c h e after report hr hb => simp [h.exists_iff, writesBoth_iff, hr, h.1, h.2]

/-- Only a run that ends well prints a list, and only on the two files. -/
theorem Ending.standard_eq (h : Ending arguments w ended) :
    (ended.1.exitCode.code ≠ 0 → ended.1.standard = "") ∧
      ∀ c, AsksForRun arguments c → ended.1.exitCode.code = 0 → ended.1.standard = listing c := by
  cases h with
  | help h => exact ⟨fun hn => absurd rfl hn, fun c hc => absurd hc (not_asksForRun_of_error h c)⟩
  | misuse m h => exact ⟨fun _ => rfl, fun c hc => absurd hc (not_asksForRun_of_error h c)⟩
  | version c h hv =>
    exact ⟨fun hn => absurd rfl hn, fun c' hc => absurd hc (not_asksForRun_of_version h hv c')⟩
  | written c h after hr =>
    refine ⟨fun hn => absurd rfl hn, fun c' hc _ => ?_⟩
    have he := h.1.symm.trans hc.1
    cases he
    rfl
  | failed c h e after hr hb => exact ⟨fun _ => rfl, fun _ _ hz => by simp at hz⟩
  | brokenOff c h e after report hr hb => exact ⟨fun _ => rfl, fun _ _ hz => by simp at hz⟩

/-- The tree changes only if files have been written. -/
theorem Ending.of_tree_ne (h : Ending arguments w ended) (hne : ended.2.tree ≠ w.tree) :
    ∃ c, AsksForRun arguments c ∧ (ended.1.exitCode.code = 0 ∨ ended.1.exitCode.code = 1 ∧
      ∃ fe, (runOf c w).1 = .error (.artifact .visitor (.file fe))) := by
  cases h with
  | help h => exact absurd rfl hne
  | misuse m h => exact absurd rfl hne
  | version c h hv => exact absurd rfl hne
  | written c h after hr => exact ⟨c, h, .inl rfl⟩
  -- A run that fails leaves something behind only if it fails at the visitor.
  | failed c h e after hr hb =>
    obtain ⟨fe, rfl⟩ := (tree_of_runOf_eq_error hr).resolve_left hne
    exact ⟨c, h, .inr ⟨rfl, fe, by rw [hr]⟩⟩
  | brokenOff c h e after report hr hb =>
    -- A run that breaks off has not come to the visitor's file.
    obtain ⟨fe, rfl⟩ := (tree_of_runOf_eq_error hr).resolve_left hne
    cases hb

theorem Ending.code_of_other (h : Ending arguments w ended) (h0 : ended.1.exitCode.code ≠ 0)
    (h1 : ended.1.exitCode.code ≠ 1) (h2 : ended.1.exitCode.code ≠ 2) :
    ended.1.exitCode.code = 101 ∧ ∃ c, AsksForRun arguments c ∧
      ∃ e, (runOf c w).1 = .error e ∧ e.breaksOff = true := by
  cases h with
  | help h => exact absurd rfl h0
  | misuse m h => exact absurd rfl h2
  | version c h hv => exact absurd rfl h0
  | written c h after hr => exact absurd rfl h0
  | failed c h e after hr hb => exact absurd rfl h1
  | brokenOff c h e after report hr hb => exact ⟨rfl, c, h, e, by rw [hr], hb⟩

end

/-- **The exit code tells what has been done.** Whatever the arguments and the tree:
* the code is 2 exactly if the arguments are misused, 1 exactly if a run was asked for and has
  failed, and 0 exactly for the help text, for the version, or if a run was asked for and both
  artifacts stand in the tree; any other code is 101, of a run that has broken off;
* with a code other than 0 nothing is printed on the standard output, and a run that ends with 0
  prints the two paths, the handlers' first;
* the help text and the version come without a look at the tree, whatever else is asked for;
* the tree has changed only if a run has ended with 0, or with 1 since the visitor could not be
  written. -/
theorem exit_code_settles_effects (arguments : List String) (w : Workspace) :
    let ended := (Program.run (m := StateM Workspace) arguments).run w
    let code := ended.1.exitCode.code
    (code = 2 ↔ ∃ m, parse arguments = .error (.misuse m)) ∧
      (code = 1 ↔ ∃ c, AsksForRun arguments c ∧
        ∃ e, (runOf c w).1 = .error e ∧ e.breaksOff = false) ∧
      (code = 0 ↔ parse arguments = .error .help ∨
        (∃ c, parse arguments = .ok c ∧ c.version = true) ∨
        ∃ c, AsksForRun arguments c ∧ WritesBoth c w ended.2.tree) ∧
      (code ≠ 0 → code ≠ 1 → code ≠ 2 → code = 101 ∧ ∃ c, AsksForRun arguments c ∧
        ∃ e, (runOf c w).1 = .error e ∧ e.breaksOff = true) ∧
      (code ≠ 0 → ended.1.standard = "") ∧
      (∀ c, AsksForRun arguments c → code = 0 → ended.1.standard =
        "written: " ++ Pathname.join c.dir "handlers_gen.rs" ++
          "\nwritten: " ++ Pathname.join c.dir "visitor_gen.rs" ++ "\n") ∧
      (parse arguments = .error .help → ended = (⟨⟨0⟩, Help.text, ""⟩, w)) ∧
      (∀ c, parse arguments = .ok c → c.version = true →
        ended = (⟨⟨0⟩, "astv 0.1.0\n", ""⟩, w)) ∧
      (ended.2.tree ≠ w.tree → ∃ c, AsksForRun arguments c ∧ (code = 0 ∨ code = 1 ∧
        ∃ fe, (runOf c w).1 = .error (.artifact .visitor (.file fe)))) := by
  intro ended code
  have h : Ending arguments w ended := run_ends arguments w
  exact ⟨h.code_eq_two_iff, h.code_eq_one_iff, h.code_eq_zero_iff, h.code_of_other, h.standard_eq.1,
    h.standard_eq.2, fun hp => run_of_error hp w, fun c hp hv => run_of_version hp hv w,
    h.of_tree_ne⟩

/-- A package with a directory where the visitor should be written. -/
def packaged : FileTree :=
  { top := "/top"
    entries := [(["Cargo.toml"], .file "[package]\nname = \"m\"\n".toUTF8), (["out"], .directory),
      (["out", "visitor_gen.rs"], .directory)] }

/-- A run that leaves the handlers behind and prints nothing. -/
theorem exit_code_settles_effects_packaged :
    let ended := (Program.run (m := StateM Workspace) ["--dir", "out", "--ast=Ident"]).run
      ⟨packaged, []⟩
    ended.1.exitCode.code = 1 ∧ ended.1.standard = "" ∧ ended.2.tree ≠ packaged ∧
      ∃ c, AsksForRun ["--dir", "out", "--ast=Ident"] c ∧
        ∃ fe, (runOf c ⟨packaged, []⟩).1 = .error (.artifact .visitor (.file fe)) := by
  let c : CommandLine := ⟨"out", some "Ident", "syn", false, false⟩
  have hc : AsksForRun ["--dir", "out", "--ast=Ident"] c := ⟨by decide +kernel, rfl⟩
  have hfailed : (runOf c ⟨packaged, []⟩).1 = .error (.artifact .visitor (.file .isDirectory)) := by
    decide +kernel
  have hleft : (runOf c ⟨packaged, []⟩).2.tree.lookup ["out", "handlers_gen.rs"] ≠
      packaged.lookup ["out", "handlers_gen.rs"] := by
    decide +kernel
  have hended := run_of_asksForRun hc ⟨packaged, []⟩
  have h := exit_code_settles_effects ["--dir", "out", "--ast=Ident"] ⟨packaged, []⟩
  clear_value c
  generalize (Program.run (m := StateM Workspace) ["--dir", "out", "--ast=Ident"]).run
    ⟨packaged, []⟩ = ended at hended h ⊢
  obtain ⟨-, hone, -, -, hs, -, -, -, ht⟩ := h
  have hne : ended.2.tree ≠ packaged := by
    intro he
    rw [hended] at he
    exact hleft (by rw [he])
  have hcode : ended.1.exitCode.code = 1 := hone.2 ⟨c, hc, _, hfailed, rfl⟩
  obtain ⟨c', hc', h0 | ⟨-, hfe⟩⟩ := ht hne
  · exact absurd (hcode.symm.trans h0) (by decide)
  · exact ⟨hcode, hs fun h0 => absurd (hcode.symm.trans h0) (by decide), hne, c', hc', hfe⟩

end Program

end DispatchLayer
