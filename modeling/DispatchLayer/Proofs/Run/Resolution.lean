import DispatchLayer.Proofs.Run.Outcome

/-!
# Looking up a module

Looking up the module of a directory reads the tree and leaves it alone (`resolve_keepsTree`). An
identifier that is found is made of the name in a manifest above the directory and of the names of
the directories below that manifest (`resolve_spec`).
-/

namespace DispatchLayer

variable {ε δ α β : Type}

/-! ## Computations that leave the tree alone -/

/-- Whatever the workspace, the computation leaves the tree as it is. -/
def KeepsTree (x : ExceptT ε (StateM Workspace) α) : Prop :=
  ∀ w, (outcome x w).2.tree = w.tree

namespace KeepsTree

theorem of_pure (a : α) : KeepsTree (pure a : ExceptT ε (StateM Workspace) α) := fun _ => rfl

theorem of_throw (e : ε) : KeepsTree (throw e : ExceptT ε (StateM Workspace) α) := fun _ => rfl

theorem of_note (e : Event) :
    KeepsTree (liftM (Host.note (m := StateM Workspace) e) : ExceptT ε (StateM Workspace) Unit) :=
  fun _ => rfl

/-- A computation that reads its answer off the workspace. -/
theorem of_read {x : StateM Workspace α} (h : ∀ w, (x.run w).2 = w) :
    KeepsTree (liftM x : ExceptT ε (StateM Workspace) α) := by
  intro w
  show (x.run w).2.tree = w.tree
  rw [h]

theorem bind {x : ExceptT ε (StateM Workspace) α} {f : α → ExceptT ε (StateM Workspace) β}
    (hx : KeepsTree x) (hf : ∀ a, KeepsTree (f a)) : KeepsTree (x >>= f) := by
  intro w
  have h := hx w
  rw [outcome_bind]
  generalize outcome x w = result at h ⊢
  obtain ⟨answer, v⟩ := result
  cases answer with
  | error e => exact h
  | ok a => exact (hf a v).trans h

end KeepsTree

namespace ModuleId

theorem run_firstWithManifest (dirs : List Location) (w : Workspace) :
    StateT.run (firstWithManifest (m := StateM Workspace) dirs) w =
      (dirs.find? fun dir => w.tree.isFileIn dir manifestName, w) := by
  induction dirs with
  | nil => rfl
  | cons dir dirs ih =>
    show StateT.run (if w.tree.isFileIn dir manifestName then _ else _) w = _
    rw [List.find?_cons]
    cases w.tree.isFileIn dir manifestName with
    | true => rfl
    | false => exact ih

theorem packageIn_keepsTree (dir : Location) (manifest : String) :
    KeepsTree (packageIn (m := StateM Workspace) dir manifest) := by
  unfold packageIn
  refine .bind (.of_read fun _ => rfl) fun answer => ?_
  split
  · exact .of_throw _
  · split
    · exact .of_throw _
    · exact .of_throw _
    · exact .of_pure _

theorem directoryAt_keepsTree (path : String) :
    KeepsTree (directoryAt (m := StateM Workspace) path) := by
  unfold directoryAt
  refine .bind (.of_read fun _ => rfl) fun answer => ?_
  split
  · exact .of_throw _
  · refine .bind (.of_read fun _ => rfl) fun isDirectory => ?_
    split
    · exact .of_pure _
    · exact .of_throw _

/-- **Looking up a module reads only.** -/
theorem resolve_keepsTree (path : String) :
    KeepsTree (resolve (m := StateM Workspace) path) := by
  unfold resolve
  refine .bind (directoryAt_keepsTree path) fun dir => ?_
  refine .bind (.of_read fun w => by rw [run_firstWithManifest]) fun found => ?_
  split
  · exact .bind (.of_read fun _ => rfl) fun _ => .of_throw _
  · refine .bind (.of_read fun _ => rfl) fun manifest => ?_
    refine .bind (packageIn_keepsTree _ _) fun package => ?_
    exact .bind (.of_note _) fun _ => .of_pure _

theorem prefix_of_mem_upwards {loc : Location} {names : List String}
    (h : loc ∈ upwards names) : loc <+: names.reverse := by
  induction names with
  | nil =>
    rw [List.mem_singleton.1 h]
    exact List.nil_prefix
  | cons name above ih =>
    rcases List.mem_cons.1 h with rfl | h
    · exact List.prefix_rfl
    · rw [List.reverse_cons]
      exact (ih h).trans (List.prefix_append _ _)

theorem prefix_of_mem_selfAndAbove {loc dir : Location} (h : loc ∈ selfAndAbove dir) :
    loc <+: dir := by
  have hp := prefix_of_mem_upwards h
  rwa [List.reverse_reverse] at hp

theorem outcome_packageIn_eq_ok {dir : Location} {manifest name : String} {w v : Workspace}
    (h : outcome (packageIn (m := StateM Workspace) dir manifest) w = (.ok name, v)) :
    ∃ text, w.tree.readTextIn dir manifestName = .ok text ∧
      Manifest.packageName? text = .ok (some name) := by
  unfold packageIn at h
  obtain ⟨answer, u, ha, h⟩ := outcome_bind_eq_ok h
  cases ha
  split at h
  · cases h
  next text ht =>
    split at h
    · cases h
    · cases h
    next package hp =>
      cases h
      exact ⟨text, ht, hp⟩

theorem outcome_directoryAt_eq_ok {path : String} {dir : Location} {w v : Workspace}
    (h : outcome (directoryAt (m := StateM Workspace) path) w = (.ok dir, v)) :
    w.tree.canonicalize path = .ok dir := by
  unfold directoryAt at h
  obtain ⟨answer, u, ha, h⟩ := outcome_bind_eq_ok h
  cases ha
  split at h
  · cases h
  next found hc =>
    obtain ⟨isDirectory, u', -, h⟩ := outcome_bind_eq_ok h
    split at h
    · cases h
      exact hc
    · cases h

/-- **What an identifier is made of**: the name in a manifest, and the names of the directories from
there down. -/
theorem resolve_spec {path id : String} {w v : Workspace}
    (h : outcome (resolve (m := StateM Workspace) path) w = (.ok id, v)) :
    ∃ top below text package, w.tree.canonicalize path = .ok (top ++ below) ∧
      w.tree.readTextIn top manifestName = .ok text ∧
      Manifest.packageName? text = .ok (some package) ∧ id = ofParts package below := by
  unfold resolve at h
  obtain ⟨dir, u, hd, h⟩ := outcome_bind_eq_ok h
  obtain ⟨found, u', hf, h⟩ := outcome_bind_eq_ok h
  rw [outcome_lift, run_firstWithManifest] at hf
  cases hf
  have hu := directoryAt_keepsTree path w
  rw [hd] at hu
  generalize hfind : (selfAndAbove dir).find? _ = found at h
  cases found with
  | none =>
    obtain ⟨_, _, -, h⟩ := outcome_bind_eq_ok h
    cases h
  | some top =>
    obtain ⟨manifest, u₁, hm, h⟩ := outcome_bind_eq_ok h
    cases hm
    obtain ⟨package, u₂, hp, h⟩ := outcome_bind_eq_ok h
    obtain ⟨-, u₃, -, h⟩ := outcome_bind_eq_ok h
    cases h
    -- The manifest is found in the directory or above it, so the directory is below the manifest.
    obtain ⟨below, rfl⟩ := prefix_of_mem_selfAndAbove (List.mem_of_find?_eq_some hfind)
    obtain ⟨text, ht, hn⟩ := outcome_packageIn_eq_ok hp
    refine ⟨top, below, text, package, outcome_directoryAt_eq_ok hd, ?_, hn, ?_⟩
    · rw [← hu]
      exact ht
    · rw [List.drop_left]

end ModuleId

end DispatchLayer
