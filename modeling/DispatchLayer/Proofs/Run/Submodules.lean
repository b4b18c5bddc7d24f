import DispatchLayer.Proofs.FileTree.Subdirectory
import DispatchLayer.Proofs.Run.NearestManifest

/-!
# Identifiers of subdirectories

Identifiers are compositional: from a directory to one in it without a manifest of its own, the
identifier gains the name of the subdirectory. The nearest manifest stays the same on the way down
(`NearestManifest.concat`), so what is below it gains a name. A name is left out only if it is `src`
and the first one below the manifest, that is, on the first step down from the manifest's own
directory (`identifiers_compose`); this holds for one step and for any number of them (`Descends`).
File trees bound the length of a name and of a pathname that is opened, but not how deep a location
may lie, so no step down fails for its depth.
-/

namespace DispatchLayer

open FileTree Pathname

/-- A pathname to a directory leads on to a directory in it. -/
theorem FileTree.LeadsTo.join {t : FileTree} {path name : String} {dir : Location}
    (h : t.LeadsTo path dir) (hname : IsEntryName name)
    (hl : t.lookup (dir ++ [name]) = some .directory) :
    t.LeadsTo (Pathname.join path name) (dir ++ [name]) := by
  obtain ⟨hc, hd⟩ := h
  have hdir : t.lookup dir = some .directory := by
    simpa [isDirectory] using hd
  constructor
  · exact canonicalize_eq_ok_iff.2 (place_join hdir hname hl (canonicalize_eq_ok_iff.1 hc))
  · simp [isDirectory, hl]

namespace ModuleId

variable {t : FileTree} {dir top : Location}

/-! ## On the way down -/

/-- **The nearest manifest stays the nearest** in a subdirectory without one. -/
theorem NearestManifest.concat {name : String} (h : NearestManifest t dir top)
    (hn : ¬ HasManifest t (dir ++ [name])) : NearestManifest t (dir ++ [name]) top where
  above := h.above.trans (List.prefix_append _ _)
  manifest := h.manifest
  nearest := by
    intro other ho hm
    rcases List.prefix_concat_iff.1 ho with rfl | ho
    · exact absurd hm hn
    · exact h.nearest other ho hm

/-- The names lead down from a directory through directories, not links, none of which has a
manifest. -/
inductive Descends (t : FileTree) : Location → List String → Prop
  | here (dir : Location) : Descends t dir []
  | down {dir : Location} {name : String} {names : List String} (hname : IsEntryName name)
      (hl : t.lookup (dir ++ [name]) = some .directory) (hn : ¬ HasManifest t (dir ++ [name]))
      (h : Descends t (dir ++ [name]) names) : Descends t dir (name :: names)

/-- Step by step, the names lead down from the directory, and no step leaves the manifest behind. -/
theorem Descends.reaches {names : List String} (h : Descends t dir names) {path : String}
    (hp : t.LeadsTo path dir) (ht : NearestManifest t dir top) :
    t.LeadsTo (names.foldl Pathname.join path) (dir ++ names) ∧
      NearestManifest t (dir ++ names) top := by
  induction h generalizing path with
  | here dir =>
    rw [List.append_nil]
    exact ⟨hp, ht⟩
  | @down dir name names hname hl hn _ ih =>
    rw [List.append_cons]
    exact ih (hp.join hname hl) (ht.concat hn)

/-! ## What the identifier gains -/

/-- Of the names behind others, a leading `src` counts for nothing only if there are no others. -/
theorem segments_append (below names : List String) :
    segments (below ++ names) =
      segments below ++ if below = [] ∧ names.head? = some "src" then names.tail else names := by
  cases below with
  | nil =>
    by_cases h : names.head? = some "src"
    · obtain ⟨rest, rfl⟩ := List.head?_eq_some_iff.1 h
      rfl
    · rw [if_neg fun hc => h hc.2]
      exact segments_eq_iff.2 (Or.inr ⟨h, rfl⟩)
  | cons first below =>
    rw [if_neg (by simp)]
    by_cases h : first = "src"
    · subst h
      rfl
    · have hhead : ∀ rest : List String, (first :: rest).head? ≠ some "src" := by
        intro rest hrest
        exact h (Option.some.inj hrest)
      -- Nothing is left out of names that begin with another one.
      have hlong : segments (first :: below ++ names) = first :: below ++ names :=
        segments_eq_iff.2 (Or.inr ⟨hhead _, rfl⟩)
      have hshort : segments (first :: below) = first :: below :=
        segments_eq_iff.2 (Or.inr ⟨hhead _, rfl⟩)
      rw [hlong, hshort]

/-- What is joined already can be joined with the rest. -/
theorem intercalate_cons_append (sep first : String) (names more : List String) :
    sep.intercalate (first :: (names ++ more)) =
      sep.intercalate (sep.intercalate (first :: names) :: more) := by
  cases more with
  | nil => simp
  | cons next more =>
    have hnames : first :: names ≠ [] := List.cons_ne_nil _ _
    have hmore : next :: more ≠ [] := List.cons_ne_nil _ _
    rw [← List.cons_append, String.intercalate_append_of_ne_nil hnames hmore,
      String.intercalate_cons_of_ne_nil hmore]

/-- **The rule for a directory settles that for those below it**, as long as they have no manifest of
their own. -/
theorem Answered.descend {path id : String} (h : Answered t path (.ok id))
    (hp : t.LeadsTo path dir) :
    ∃ top, NearestManifest t dir top ∧ ∀ names, Descends t dir names →
      Answered t (names.foldl Pathname.join path)
        (.ok ("::".intercalate
          (id :: if top = dir ∧ names.head? = some "src" then names.tail else names))) := by
  cases h with
  | @named top below segs loc content text package h hn hm hu he hs =>
    have hdir : dir = top ++ below := by
      have hc := hp.1.symm.trans h.1
      cases hc
      rfl
    subst hdir
    refine ⟨top, hn, fun names hd => ?_⟩
    obtain ⟨hleads, hnearest⟩ := hd.reaches hp hn
    rw [List.append_assoc] at hleads hnearest
    -- The directory is the manifest's own exactly if there is nothing between the two.
    have hown : top = top ++ below ↔ below = [] := List.self_eq_append_right
    have hsegments : segments below = segs := segments_eq_iff.2 hs
    have hanswer := Answered.named hleads hnearest hm hu he (segments_eq_iff.1 rfl)
    rw [segments_append, hsegments, intercalate_cons_append] at hanswer
    simp only [hown]
    exact hanswer

/-- **Identifiers are compositional.** For every tree and every pathname of a directory that has an
identifier: a directory in it that is no link and has no manifest has an identifier too, the same
with the name of that directory behind it; only if the directory is that of the nearest manifest
and the name is `src`, it is the same identifier. So for any number of steps down, all names are put
behind the identifier, but for a `src` that is the first below the manifest. -/
theorem identifiers_compose {w : Workspace} {path id : String}
    (hp : w.tree.LeadsTo path dir)
    (hid : (outcome (resolve (m := StateM Workspace) path) w).1 = .ok id) :
    ∃ top, NearestManifest w.tree dir top ∧
      (∀ name, IsEntryName name → w.tree.lookup (dir ++ [name]) = some .directory →
        ¬ HasManifest w.tree (dir ++ [name]) →
          (outcome (resolve (m := StateM Workspace) (Pathname.join path name)) w).1 =
            .ok (if top = dir ∧ name = "src" then id else id ++ "::" ++ name)) ∧
      ∀ names, Descends w.tree dir names →
        (outcome (resolve (m := StateM Workspace) (names.foldl Pathname.join path)) w).1 =
          .ok ("::".intercalate
            (id :: if top = dir ∧ names.head? = some "src" then names.tail else names)) := by
  have hanswered := answered_resolve path w
  rw [hid] at hanswered
  obtain ⟨top, hn, hdescend⟩ := hanswered.descend hp
  have hbelow : ∀ names, Descends w.tree dir names →
      (outcome (resolve (m := StateM Workspace) (names.foldl Pathname.join path)) w).1 =
        .ok ("::".intercalate
          (id :: if top = dir ∧ names.head? = some "src" then names.tail else names)) :=
    fun names hd => (hdescend names hd).eq_resolve
  refine ⟨top, hn, fun name hname hl hm => ?_, hbelow⟩
  -- One step is the shortest way down but none.
  have hstep := hbelow [name] (.down hname hl hm (.here _))
  rw [List.foldl_cons, List.foldl_nil] at hstep
  rw [hstep]
  by_cases h : top = dir ∧ name = "src"
  · rw [if_pos h, if_pos ⟨h.1, congrArg some h.2⟩]
    rfl
  · rw [if_neg h, if_neg fun hc => h ⟨hc.1, Option.some.inj hc.2⟩]
    rfl

/-- A package with a `src` inside its `src`, where a directory stands in the place of a manifest. -/
def twofold : FileTree :=
  ⟨"/w", [(["pkg"], .directory),
    (["pkg", "Cargo.toml"], .file "[package]\nname = \"my-pkg\"\n".toUTF8),
    (["pkg", "src"], .directory), (["pkg", "src", "src"], .directory),
    (["pkg", "src", "src", "Cargo.toml"], .directory)]⟩

/-- The first `src` is left out, and the second is not. -/
theorem identifiers_compose_twofold :
    let w : Workspace := ⟨twofold, []⟩
    let resolved := fun dir => (outcome (resolve (m := StateM Workspace) (twofold.pathText dir)) w).1
    resolved ["pkg"] = .ok "my_pkg" ∧ resolved ["pkg", "src"] = .ok "my_pkg" ∧
      resolved ["pkg", "src", "src"] = .ok "my_pkg::src" := by
  intro w resolved
  have hp : twofold.LeadsTo (twofold.pathText ["pkg"]) ["pkg"] := by
    constructor
    · decide +kernel
    · rfl
  have hid : resolved ["pkg"] = .ok "my_pkg" := by decide +kernel
  have hfirst : Pathname.join (twofold.pathText ["pkg"]) "src" =
      twofold.pathText ["pkg", "src"] := by
    decide +kernel
  have hsecond : Pathname.join (twofold.pathText ["pkg", "src"]) "src" =
      twofold.pathText ["pkg", "src", "src"] := by
    decide +kernel
  have hname : IsEntryName "src" :=
    ⟨by decide, by decide, by decide, by decide, by decide, by decide⟩
  -- Of the three directories only the first has a manifest.
  have hmanifest : HasManifest twofold ["pkg"] := isFileIn_iff.1 (by decide +kernel)
  have hnone : ∀ dir ∈ [["pkg", "src"], ["pkg", "src", "src"]], ¬ HasManifest twofold dir := by
    simp only [← isFileIn_iff]
    decide +kernel
  obtain ⟨top, hn, hstep, hdescend⟩ := identifiers_compose (w := w) hp hid
  have htop : top = ["pkg"] := hn.unique ⟨List.prefix_rfl, hmanifest, fun _ ho _ => ho⟩ |>.symm
  refine ⟨hid, ?_, ?_⟩
  · have h := hstep "src" hname rfl (hnone _ (by simp))
    rw [hfirst, if_pos ⟨htop, rfl⟩] at h
    exact h
  · have h := hdescend ["src", "src"]
      (.down hname rfl (hnone _ (by simp)) (.down hname rfl (hnone _ (by simp)) (.here _)))
    rw [List.foldl_cons, List.foldl_cons, List.foldl_nil, hfirst, hsecond, if_pos ⟨htop, rfl⟩] at h
    exact h

end ModuleId

end DispatchLayer
