import DispatchLayer.Proofs.FileTree.Destination
import DispatchLayer.Proofs.Run.Resolution
import Mathlib.Data.List.Nodup

/-!
# The manifest that decides

A directory is looked up in two steps: the pathname is freed of links, and the manifest is sought
from the directory upwards. Of all the directories above (the directory itself included) that have a
manifest, the nearest decides, whatever is in it; the others are not read (`Answered`). So the answer
is settled by the directory, by which manifest is the nearest, and by the content of that manifest
(`resolve_by_nearest_manifest`).

The rest of a file tree can change without a change of the answer. What pathnames are led by are
directories and links, so trees that differ in files only (`FileTree.SameWays`) lead them to the same
places, unless the end of the way is itself a file that has changed.
-/

namespace DispatchLayer

namespace FileTree

variable {t t' : FileTree} {loc : Location}

/-! ## Trees with the same directories and links -/

/-- The trees have the same directories and links. Where one has a file, the other has any file, or
nothing. -/
structure SameWays (t t' : FileTree) : Prop where
  top : t'.top = t.top
  entries : ∀ loc, t'.lookup loc = t.lookup loc ∨ t.Writable loc ∧ t'.Writable loc

/-- A file that is put where a file or nothing stands leaves the ways as they are. -/
theorem SameWays.set (h : t.SameWays t') (hw : t'.Writable loc) (content : ByteArray) :
    t.SameWays (t'.set loc (.file content)) where
  top := h.top
  entries := by
    intro other
    by_cases he : other = loc
    -- At the location itself both trees have a file, or nothing in the old one.
    · subst he
      have hset : (t'.set other (.file content)).Writable other :=
        Or.inr ⟨content, lookup_set_self t' hw.ne_nil _⟩
      rcases h.entries other with hsame | ⟨hold, -⟩
      · have hold : t.Writable other := by
          simpa [Writable, hsame] using hw
        exact Or.inr ⟨hold, hset⟩
      · exact Or.inr ⟨hold, hset⟩
    · rw [Writable, Writable, lookup_set_of_ne t' he]
      exact h.entries other

theorem sameWays_refl (t : FileTree) : t.SameWays t where
  top := rfl
  entries := fun _ => Or.inl rfl

section Ways

variable (h : t.SameWays t')

include h

/-- Only files are different. -/
theorem SameWays.lookup_eq (hn : ¬ t.Writable loc) : t'.lookup loc = t.lookup loc := by
  rcases h.entries loc with he | ⟨hw, -⟩
  · exact he
  · exact absurd hw hn

theorem SameWays.lookup_directory (hd : t.lookup loc = some .directory) :
    t'.lookup loc = some .directory := by
  rw [← hd]
  apply h.lookup_eq
  intro hw
  have hnot := hw.isDirectory
  simp [isDirectory, hd] at hnot

theorem SameWays.lookup_link {target : String} (hl : t.lookup loc = some (.link target)) :
    t'.lookup loc = some (.link target) := by
  rw [← hl]
  apply h.lookup_eq
  intro hw
  exact hw.not_link target hl

theorem SameWays.startOf (here : Location) (p : Pathname) : t'.startOf here p = t.startOf here p := by
  simp only [FileTree.startOf, h.top]

variable (hl : t'.lookup loc = t.lookup loc)

include hl

/-- **Names lead to the same place** in both trees, if the entry there is the same. -/
theorem SameWays.walk {creating slash : Bool} {n : Nat} {names : List String} {here : Location}
    {p : Place} (hw : t.Walk creating n here names slash p) (hp : p = .found loc) :
    t'.Walk creating n here names slash p := by
  induction hw with
  | arrived => exact .arrived
  | stay _ ih => exact .stay (ih hp)
  | up _ ih => exact .up (ih hp)
  | free => cases hp
  | file he hc =>
    -- A file can only be the end of the way; before it there are directories and links.
    cases hp
    exact .file he (hl.trans hc)
  | down he hd _ ih => exact .down he (h.lookup_directory hd) (ih hp)
  | link he ht hst _ ih =>
    exact .link he (h.lookup_link ht) ((h.startOf _ _).trans hst) (ih hp)

theorem SameWays.placeIn_found {dir : Location} {name : String}
    (hf : t.placeIn dir name = .ok (.found loc)) : t'.placeIn dir name = .ok (.found loc) :=
  (h.walk hl (walk_of_followLinks hf) rfl).followLinks_eq

theorem SameWays.place_found {creating : Bool} {text : String}
    (hf : t.place creating text = .ok (.found loc)) :
    t'.place creating text = .ok (.found loc) := by
  obtain ⟨ht, start, names, hst, hw⟩ := place_eq_ok_iff.1 hf
  exact place_eq_ok_iff.2 ⟨ht, start, names, (h.startOf _ _).trans hst, h.walk hl hw rfl⟩

end Ways

theorem canonicalize_eq_ok_iff {text : String} :
    t.canonicalize text = .ok loc ↔ t.place false text = .ok (.found loc) := by
  unfold canonicalize
  cases t.place false text with
  | error e => simp [bind, Except.bind]
  | ok p =>
    cases p with
    | found l => simp [bind, Except.bind, pure, Except.pure]
    | free dir name => simp [bind, Except.bind, throw, throwThe, MonadExceptOf.throw]

/-- The pathname leads to a directory. -/
def LeadsTo (t : FileTree) (path : String) (dir : Location) : Prop :=
  t.canonicalize path = .ok dir ∧ t.isDirectory dir = true

/-- **A change of files moves no directory.** -/
theorem SameWays.leadsTo (h : t.SameWays t') {path : String} {dir : Location}
    (hp : t.LeadsTo path dir) : t'.LeadsTo path dir := by
  obtain ⟨hc, hd⟩ := hp
  have hdir : t.lookup dir = some .directory := by
    simpa [isDirectory] using hd
  have hdir' := h.lookup_directory hdir
  constructor
  · apply canonicalize_eq_ok_iff.2
    exact h.place_found (hdir'.trans hdir.symm) (canonicalize_eq_ok_iff.1 hc)
  · simp [isDirectory, hdir']

end FileTree

namespace ModuleId

variable {t t' : FileTree} {dir top : Location} {content : ByteArray}

/-! ## The nearest manifest -/

/-- The directory has a manifest with this content: its `Cargo.toml` is a regular file or leads to
one, at the location. -/
def ManifestAt (t : FileTree) (dir loc : Location) (content : ByteArray) : Prop :=
  t.placeIn dir "Cargo.toml" = .ok (.found loc) ∧ t.lookup loc = some (.file content)

/-- The directory has a manifest. -/
def HasManifest (t : FileTree) (dir : Location) : Prop := ∃ loc content, ManifestAt t dir loc content

/-- Of the directories above a directory that have a manifest, this one is the nearest. -/
structure NearestManifest (t : FileTree) (dir top : Location) : Prop where
  above : top <+: dir
  manifest : HasManifest t top
  nearest : ∀ other, other <+: dir → HasManifest t other → other <+: top

theorem isFileIn_iff : t.isFileIn dir manifestName = true ↔ HasManifest t dir := by
  unfold FileTree.isFileIn HasManifest ManifestAt manifestName
  cases t.placeIn dir "Cargo.toml" with
  | error e => simp
  | ok p =>
    cases p with
    | free d name => simp [FileTree.Place.entry?]
    | found loc =>
      simp only [FileTree.Place.entry?, Except.ok.injEq, FileTree.Place.found.injEq]
      constructor
      · intro h
        split at h
        next content hl => exact ⟨loc, content, rfl, hl⟩
        · cases h
      · rintro ⟨other, content, rfl, hl⟩
        rw [hl]

/-- The text of a manifest is that of the file it leads to. -/
theorem readTextIn_of_manifestAt {loc : Location} (h : ManifestAt t dir loc content) :
    t.readTextIn dir manifestName = FileTree.decode content := by
  obtain ⟨hp, hl⟩ := h
  have hc : t.contentAt (.found loc) = .ok content := by
    simp only [FileTree.contentAt, FileTree.Place.entry?, hl]
  show (t.placeIn dir "Cargo.toml" >>= fun p => t.contentAt p >>= FileTree.decode) = _
  rw [hp]
  show (t.contentAt (.found loc) >>= FileTree.decode) = _
  rw [hc]
  rfl

/-- The first hit on the way up is the nearest. -/
theorem find?_upwards_eq_some_iff {p : Location → Bool} {names : List String} :
    (upwards names).find? p = some top ↔
      (top <+: names.reverse ∧ p top = true) ∧
        ∀ other, other <+: names.reverse → p other = true → other <+: top := by
  induction names with
  | nil =>
    show List.find? p [[]] = some top ↔ _
    simp only [List.find?_singleton, List.reverse_nil, List.prefix_nil]
    constructor
    · intro h
      split at h
      next hp =>
        cases h
        refine ⟨⟨rfl, hp⟩, ?_⟩
        rintro other rfl -
        exact List.prefix_rfl
      · cases h
    · rintro ⟨⟨rfl, hp⟩, -⟩
      rw [if_pos hp]
  | cons name above ih =>
    show List.find? p ((name :: above).reverse :: upwards above) = some top ↔ _
    rw [List.find?_cons]
    cases hp : p (name :: above).reverse with
    | true =>
      constructor
      · intro h
        cases h
        exact ⟨⟨List.prefix_rfl, hp⟩, fun other ho _ => ho⟩
      -- A hit in the directory itself is below every other hit.
      · rintro ⟨⟨ht, -⟩, hnearest⟩
        have hself := hnearest _ List.prefix_rfl hp
        exact congrArg some (hself.eq_of_length_le ht.length_le)
    | false =>
      -- The directory itself is no hit, so everything is said about those above it.
      have hstep : ∀ other, p other = true →
          (other <+: (name :: above).reverse ↔ other <+: above.reverse) := by
        intro other ho
        rw [List.reverse_cons, List.prefix_concat_iff]
        constructor
        · rintro (rfl | hother)
          · rw [List.reverse_cons, ho] at hp
            cases hp
          · exact hother
        · exact Or.inr
      show List.find? p (upwards above) = some top ↔ _
      rw [ih]
      constructor
      · rintro ⟨⟨ht, htop⟩, hnearest⟩
        exact ⟨⟨(hstep top htop).2 ht, htop⟩,
          fun other ho hother => hnearest other ((hstep other hother).1 ho) hother⟩
      · rintro ⟨⟨ht, htop⟩, hnearest⟩
        exact ⟨⟨(hstep top htop).1 ht, htop⟩,
          fun other ho hother => hnearest other ((hstep other hother).2 ho) hother⟩

theorem find?_selfAndAbove_iff :
    (selfAndAbove dir).find? (fun d => t.isFileIn d manifestName) = some top ↔
      NearestManifest t dir top := by
  unfold selfAndAbove
  rw [find?_upwards_eq_some_iff, List.reverse_reverse]
  simp only [isFileIn_iff]
  constructor
  · rintro ⟨⟨ha, hm⟩, hn⟩
    exact ⟨ha, hm, hn⟩
  · intro h
    exact ⟨⟨h.above, h.manifest⟩, h.nearest⟩

theorem NearestManifest.unique {other : Location} (h : NearestManifest t dir top)
    (ho : NearestManifest t dir other) : other = top := by
  have hbelow := h.nearest other ho.above ho.manifest
  have habove := ho.nearest top h.above h.manifest
  exact hbelow.eq_of_length_le habove.length_le

theorem mem_selfAndAbove {other : Location} (h : other <+: dir) :
    other ∈ selfAndAbove dir := by
  have hup : ∀ names : List String, ∀ d : Location, d <+: names.reverse → d ∈ upwards names := by
    intro names
    induction names with
    | nil =>
      intro d hd
      exact List.mem_singleton.2 (List.prefix_nil.1 hd)
    | cons name above ih =>
      intro d hd
      rw [List.reverse_cons, List.prefix_concat_iff] at hd
      rcases hd with rfl | hd
      · exact List.mem_cons.2 (Or.inl (List.reverse_cons).symm)
      · exact List.mem_cons.2 (Or.inr (ih d hd))
  exact hup dir.reverse other (by rwa [List.reverse_reverse])

theorem find?_selfAndAbove_eq_none_iff :
    (selfAndAbove dir).find? (fun d => t.isFileIn d manifestName) = none ↔
      ∀ other, other <+: dir → ¬ HasManifest t other := by
  rw [List.find?_eq_none]
  constructor
  · intro h other ho hm
    exact h other (mem_selfAndAbove ho) (isFileIn_iff.2 hm)
  · intro h other ho hfile
    exact h other (prefix_of_mem_selfAndAbove ho) (isFileIn_iff.1 hfile)

/-! ## The rule -/

/-- **The rule for a pathname**: what a lookup answers. Where there is a directory, the nearest
manifest decides, and no other is read. -/
inductive Answered (t : FileTree) (path : String) : Except ModuleIdError String → Prop
  | nowhere {e : FileError} (h : t.canonicalize path = .error e) :
      Answered t path (.error (.unreadable path e))
  | noDirectory {loc : Location} (h : t.canonicalize path = .ok loc)
      (hd : t.isDirectory loc = false) : Answered t path (.error (.notDirectory path))
  | noManifest {dir : Location} (h : t.LeadsTo path dir)
      (hn : ∀ other, other <+: dir → ¬ HasManifest t other) :
      Answered t path (.error (.noManifest (t.pathText dir)))
  | notText {dir top loc : Location} {content : ByteArray} (h : t.LeadsTo path dir)
      (hn : NearestManifest t dir top) (hm : ManifestAt t top loc content)
      (hu : String.fromUTF8? content = none) :
      Answered t path (.error (.unreadable (t.pathText (top ++ ["Cargo.toml"])) .notText))
  | malformed {dir top loc : Location} {content : ByteArray} {text : String} {e : ManifestError}
      (h : t.LeadsTo path dir) (hn : NearestManifest t dir top)
      (hm : ManifestAt t top loc content) (hu : String.fromUTF8? content = some text)
      (he : Manifest.packageName? text = .error e) :
      Answered t path (.error (.manifest (t.pathText (top ++ ["Cargo.toml"])) e))
  | noPackage {dir top loc : Location} {content : ByteArray} {text : String}
      (h : t.LeadsTo path dir) (hn : NearestManifest t dir top)
      (hm : ManifestAt t top loc content) (hu : String.fromUTF8? content = some text)
      (he : Manifest.packageName? text = .ok none) :
      Answered t path (.error (.noPackage (t.pathText (top ++ ["Cargo.toml"]))))
  | named {top below segments loc : Location} {content : ByteArray} {text name : String}
      (h : t.LeadsTo path (top ++ below)) (hn : NearestManifest t (top ++ below) top)
      (hm : ManifestAt t top loc content) (hu : String.fromUTF8? content = some text)
      (he : Manifest.packageName? text = .ok (some name))
      (hs : below = "src" :: segments ∨ below.head? ≠ some "src" ∧ below = segments) :
      Answered t path
        (.ok ("::".intercalate ((name.map fun c => if c = '-' then '_' else c) :: segments)))

theorem ofPackage_eq_map (name : String) :
    ofPackage name = name.map fun c => if c = '-' then '_' else c := by
  apply String.toList_injective
  rw [ofPackage, String.toList_ofList, String.toList_map]

/-- One `src` right below the manifest is left out, and nothing else. -/
theorem segments_eq_iff {below rest : List String} :
    segments below = rest ↔ below = "src" :: rest ∨ below.head? ≠ some "src" ∧ below = rest := by
  unfold segments
  split
  next names =>
    constructor
    · rintro rfl
      exact Or.inl rfl
    · rintro (h | ⟨h, -⟩)
      · exact (List.cons.inj h).2
      · exact absurd rfl h
  next hne =>
    constructor
    · rintro rfl
      refine Or.inr ⟨?_, rfl⟩
      intro h
      obtain ⟨tail, ht⟩ := List.head?_eq_some_iff.1 h
      exact hne tail ht
    · rintro (h | ⟨-, h⟩)
      · exact absurd h (hne rest)
      · exact h

/-! ## The lookup and the rule -/

section Lookup

variable {path : String} {w : Workspace}

/-- What the content of a manifest says of a directory this far below it. -/
def idFrom (manifest : String) (below : Location) (content : ByteArray) :
    Except ModuleIdError String :=
  match String.fromUTF8? content with
  | none => .error (.unreadable manifest .notText)
  | some text =>
    match Manifest.packageName? text with
    | .error e => .error (.manifest manifest e)
    | .ok none => .error (.noPackage manifest)
    | .ok (some name) => .ok (ofParts name below)

theorem run_canonicalize (path : String) (w : Workspace) :
    StateT.run (Host.canonicalize (m := StateM Workspace) path) w =
      (w.tree.canonicalize path, w) := rfl

theorem run_isDirectory (dir : Location) (w : Workspace) :
    StateT.run (Host.isDirectory (m := StateM Workspace) dir) w = (w.tree.isDirectory dir, w) := rfl

theorem run_readTextIn (dir : Location) (name : String) (w : Workspace) :
    StateT.run (Host.readTextIn (m := StateM Workspace) dir name) w =
      (w.tree.readTextIn dir name, w) := rfl

theorem outcome_directoryAt_of_error {e : FileError} (h : w.tree.canonicalize path = .error e) :
    outcome (directoryAt (m := StateM Workspace) path) w = (.error (.unreadable path e), w) := by
  rw [directoryAt, outcome_bind, outcome_lift, run_canonicalize, h]
  rfl

theorem outcome_directoryAt_of_ok (h : w.tree.canonicalize path = .ok dir) :
    outcome (directoryAt (m := StateM Workspace) path) w =
      (if w.tree.isDirectory dir then .ok dir else .error (.notDirectory path), w) := by
  rw [directoryAt, outcome_bind, outcome_lift, run_canonicalize, h]
  dsimp only
  rw [outcome_bind, outcome_lift, run_isDirectory]
  dsimp only
  cases w.tree.isDirectory dir with
  | true => rfl
  | false => rfl

theorem outcome_directoryAt (h : w.tree.LeadsTo path dir) :
    outcome (directoryAt (m := StateM Workspace) path) w = (.ok dir, w) := by
  rw [outcome_directoryAt_of_ok h.1, h.2]
  rfl

theorem outcome_resolve_of_error {e : ModuleIdError}
    (h : outcome (directoryAt (m := StateM Workspace) path) w = (.error e, w)) :
    outcome (resolve (m := StateM Workspace) path) w = (.error e, w) := by
  unfold resolve
  rw [outcome_bind_of_error h]

/-- The name in a manifest is read off its content, and nothing is taken down. -/
theorem outcome_packageIn {loc : Location} (hm : ManifestAt w.tree top loc content)
    (manifest : String) (below : Location) :
    ∃ answer, outcome (packageIn (m := StateM Workspace) top manifest) w = (answer, w) ∧
      answer.map (fun package => ofParts package below) = idFrom manifest below content := by
  have hread := readTextIn_of_manifestAt hm
  unfold FileTree.decode at hread
  unfold packageIn idFrom
  rw [outcome_bind, outcome_lift, run_readTextIn, hread]
  cases String.fromUTF8? content with
  | none => exact ⟨_, rfl, rfl⟩
  | some text =>
    dsimp only
    cases Manifest.packageName? text with
    | error e => exact ⟨_, rfl, rfl⟩
    | ok name? =>
      cases name? with
      | none => exact ⟨_, rfl, rfl⟩
      | some name => exact ⟨_, rfl, rfl⟩

theorem outcome_resolve_of_no_manifest (h : w.tree.LeadsTo path dir)
    (hn : ∀ other, other <+: dir → ¬ HasManifest w.tree other) :
    outcome (resolve (m := StateM Workspace) path) w =
      (.error (.noManifest (w.tree.pathText dir)), w) := by
  unfold resolve
  rw [outcome_bind_of_ok (outcome_directoryAt h), outcome_bind, outcome_lift, run_firstWithManifest,
    find?_selfAndAbove_eq_none_iff.2 hn]
  rfl

/-- The workspace after a lookup that has come to a manifest: an identifier is taken down. -/
def lookedUp (manifest : String) (w : Workspace) : Except ModuleIdError String → Workspace
  | .ok id => w.noted (.moduleResolved id manifest)
  | .error _ => w

theorem outcome_resolve_of_nearest {loc : Location} (h : w.tree.LeadsTo path dir)
    (hn : NearestManifest w.tree dir top) (hm : ManifestAt w.tree top loc content) :
    let manifest := w.tree.pathText (top ++ ["Cargo.toml"])
    let answer := idFrom manifest (dir.drop top.length) content
    outcome (resolve (m := StateM Workspace) path) w = (answer, lookedUp manifest w answer) := by
  intro manifest answer
  obtain ⟨package?, hp, hanswer⟩ :
      ∃ package?, outcome (packageIn (m := StateM Workspace) top manifest) w = (package?, w) ∧
        package?.map (fun package => ofParts package (dir.drop top.length)) = answer :=
    outcome_packageIn hm _ _
  unfold resolve
  rw [outcome_bind_of_ok (outcome_directoryAt h), outcome_bind, outcome_lift, run_firstWithManifest,
    find?_selfAndAbove_iff.2 hn]
  show outcome (packageIn top manifest >>= _) w = (answer, lookedUp manifest w answer)
  rw [outcome_bind, hp, ← hanswer]
  cases package? with
  | error e => rfl
  | ok package => rfl

/-- Some directory is the nearest with a manifest, or there is none. -/
theorem exists_nearest (t : FileTree) (dir : Location) :
    (∃ top, NearestManifest t dir top) ∨ ∀ other, other <+: dir → ¬ HasManifest t other := by
  cases hf : (selfAndAbove dir).find? fun d => t.isFileIn d manifestName with
  | some top => exact Or.inl ⟨top, find?_selfAndAbove_iff.1 hf⟩
  | none => exact Or.inr (find?_selfAndAbove_eq_none_iff.1 hf)

/-- What is read off the nearest manifest falls under the rule. -/
theorem answered_idFrom {below loc : Location} (h : t.LeadsTo path (top ++ below))
    (hn : NearestManifest t (top ++ below) top) (hm : ManifestAt t top loc content) :
    Answered t path (idFrom (t.pathText (top ++ ["Cargo.toml"])) below content) := by
  unfold idFrom
  cases hu : String.fromUTF8? content with
  | none => exact .notText h hn hm hu
  | some text =>
    dsimp only
    cases he : Manifest.packageName? text with
    | error e => exact .malformed h hn hm hu he
    | ok name? =>
      cases name? with
      | none => exact .noPackage h hn hm hu he
      | some name =>
        dsimp only
        rw [ofParts, ofPackage_eq_map]
        exact .named h hn hm hu he (segments_eq_iff.1 rfl)

/-- The lookup falls under the rule. -/
theorem answered_resolve (path : String) (w : Workspace) :
    Answered w.tree path (outcome (resolve (m := StateM Workspace) path) w).1 := by
  cases hc : w.tree.canonicalize path with
  | error e =>
    rw [outcome_resolve_of_error (outcome_directoryAt_of_error hc)]
    exact .nowhere hc
  | ok dir =>
    cases hdir : w.tree.isDirectory dir with
    | false =>
      have hd := outcome_directoryAt_of_ok hc
      rw [hdir] at hd
      rw [outcome_resolve_of_error hd]
      exact .noDirectory hc hdir
    | true =>
      have h : w.tree.LeadsTo path dir := ⟨hc, hdir⟩
      rcases exists_nearest w.tree dir with ⟨top, hn⟩ | hn
      · obtain ⟨loc, content, hm⟩ := hn.manifest
        obtain ⟨below, rfl⟩ := hn.above
        rw [outcome_resolve_of_nearest h hn hm, List.drop_left]
        exact answered_idFrom h hn hm
      · rw [outcome_resolve_of_no_manifest h hn]
        exact .noManifest h hn

/-- No other answer falls under the rule. -/
theorem Answered.eq_resolve {answer : Except ModuleIdError String}
    (h : Answered w.tree path answer) :
    (outcome (resolve (m := StateM Workspace) path) w).1 = answer := by
  cases h with
  | nowhere h => rw [outcome_resolve_of_error (outcome_directoryAt_of_error h)]
  | noDirectory h hd =>
    have hdir := outcome_directoryAt_of_ok h
    rw [hd] at hdir
    rw [outcome_resolve_of_error hdir]
  | noManifest h hn => rw [outcome_resolve_of_no_manifest h hn]
  | notText h hn hm hu =>
    rw [outcome_resolve_of_nearest h hn hm]
    simp only [idFrom, hu]
  | malformed h hn hm hu he =>
    rw [outcome_resolve_of_nearest h hn hm]
    simp only [idFrom, hu, he]
  | noPackage h hn hm hu he =>
    rw [outcome_resolve_of_nearest h hn hm]
    simp only [idFrom, hu, he]
  | named h hn hm hu he hs =>
    rw [outcome_resolve_of_nearest h hn hm, List.drop_left]
    simp only [idFrom, hu, he, ofParts, ofPackage_eq_map, segments_eq_iff.2 hs]

/-- The pathname of a location begins with that of the top directory. -/
theorem pathText_congr (h : t'.top = t.top) (loc : Location) : t'.pathText loc = t.pathText loc := by
  simp only [FileTree.pathText, h]

/-- **What the answer depends on**: the directory, its nearest manifest, and the content of that. -/
theorem resolve_congr {path' : String} {v : Workspace} {loc loc' : Location}
    (htop : v.tree.top = w.tree.top) (h : w.tree.LeadsTo path dir) (h' : v.tree.LeadsTo path' dir)
    (hn : NearestManifest w.tree dir top) (hn' : NearestManifest v.tree dir top)
    (hm : ManifestAt w.tree top loc content) (hm' : ManifestAt v.tree top loc' content) :
    (outcome (resolve (m := StateM Workspace) path') v).1 =
      (outcome (resolve (m := StateM Workspace) path) w).1 := by
  rw [outcome_resolve_of_nearest h hn hm, outcome_resolve_of_nearest h' hn' hm',
    pathText_congr htop]

/-- **A change elsewhere changes no answer.** The manifest stays the nearest one, with its content,
while files other than it are written, replaced and deleted, as long as no nearer directory comes to
have a manifest. -/
theorem NearestManifest.of_sameWays {loc : Location} (hn : NearestManifest t dir top)
    (hm : ManifestAt t top loc content) (hways : t.SameWays t')
    (hsame : t'.lookup loc = t.lookup loc)
    (hnearer : ∀ other, other <+: dir → top <+: other → HasManifest t' other → other = top) :
    NearestManifest t' dir top ∧ ManifestAt t' top loc content := by
  have hm' : ManifestAt t' top loc content := by
    obtain ⟨hp, hl⟩ := hm
    exact ⟨hways.placeIn_found hsame hp, hsame.trans hl⟩
  refine ⟨⟨hn.above, ⟨loc, content, hm'⟩, ?_⟩, hm'⟩
  intro other ho hmanifest
  -- Of two directories above one, one is above the other.
  rcases List.prefix_or_prefix_of_prefix ho hn.above with hbelow | habove
  · exact hbelow
  · have hothertop := hnearer other ho habove hmanifest
    exact hothertop ▸ List.prefix_rfl

end Lookup

/-- **The nearest manifest decides.** Every lookup is answered by the rule, and by nothing else. So
for a pathname that leads to a directory the answer depends on the directory, on the nearest manifest
above it and on the content of that manifest: two trees that agree in these give the same answer,
whatever pathname leads to the directory. In particular files other than that manifest can be
written, replaced or deleted without a change of the answer, as long as no nearer directory comes to
have a manifest. -/
theorem resolve_by_nearest_manifest :
    (∀ path (w : Workspace) answer,
      Answered w.tree path answer ↔
        (outcome (resolve (m := StateM Workspace) path) w).1 = answer) ∧
    (∀ path path' (w v : Workspace) dir top loc loc' content, v.tree.top = w.tree.top →
      w.tree.LeadsTo path dir → v.tree.LeadsTo path' dir →
      NearestManifest w.tree dir top → NearestManifest v.tree dir top →
      ManifestAt w.tree top loc content → ManifestAt v.tree top loc' content →
        (outcome (resolve (m := StateM Workspace) path') v).1 =
          (outcome (resolve (m := StateM Workspace) path) w).1) ∧
    ∀ path (w v : Workspace) dir top loc content, w.tree.LeadsTo path dir →
      NearestManifest w.tree dir top → ManifestAt w.tree top loc content →
      w.tree.SameWays v.tree → v.tree.lookup loc = w.tree.lookup loc →
      (∀ other, other <+: dir → top <+: other → HasManifest v.tree other → other = top) →
        (outcome (resolve (m := StateM Workspace) path) v).1 =
          (outcome (resolve (m := StateM Workspace) path) w).1 := by
  refine ⟨?_, ?_, ?_⟩
  · intro path w answer
    constructor
    · intro h
      exact h.eq_resolve
    · rintro rfl
      exact answered_resolve path w
  · intro path path' w v dir top loc loc' content htop h h' hn hn' hm hm'
    exact resolve_congr htop h h' hn hn' hm hm'
  · intro path w v dir top loc content h hn hm hways hsame hnearer
    obtain ⟨hn', hm'⟩ := hn.of_sameWays hm hways hsame hnearer
    exact resolve_congr hways.top h (hways.leadsTo h) hn hn' hm hm'

/-- A package inside another. Its manifest is a link, the two directories below it have a directory
and a dangling link in the place of one, and a link leads there. -/
def nested : FileTree :=
  ⟨"/w", [(["Cargo.toml"], .file "[package]\nname = \"outer\"\n".toUTF8),
    (["crates"], .directory),
    (["crates", "shared.toml"], .file "[package]\nname = \"my-inner\"\n".toUTF8),
    (["crates", "inner"], .directory),
    (["crates", "inner", "Cargo.toml"], .link "../shared.toml"),
    (["crates", "inner", "src"], .directory),
    (["crates", "inner", "src", "Cargo.toml"], .directory),
    (["crates", "inner", "src", "a"], .directory),
    (["crates", "inner", "src", "a", "Cargo.toml"], .link "nowhere"),
    (["here"], .link "crates/inner/src")]⟩

/-- The manifest farther away is broken, and the answer for a directory of the inner package is what
it was. -/
theorem resolve_by_nearest_manifest_nested :
    let w : Workspace := ⟨nested, []⟩
    let v : Workspace := ⟨nested.set ["Cargo.toml"] (.file "[package".toUTF8), []⟩
    (outcome (resolve (m := StateM Workspace) "/w/here/./a") w).1 = .ok "my_inner::a" ∧
      (outcome (resolve (m := StateM Workspace) "/w/here/./a") v).1 = .ok "my_inner::a" := by
  intro w v
  have hleads : w.tree.LeadsTo "/w/here/./a" ["crates", "inner", "src", "a"] := by
    constructor
    · decide +kernel
    · rfl
  have hmanifest : ManifestAt w.tree ["crates", "inner"] ["crates", "shared.toml"]
      "[package]\nname = \"my-inner\"\n".toUTF8 := by
    constructor
    · decide +kernel
    · rfl
  have hnearest : NearestManifest w.tree ["crates", "inner", "src", "a"] ["crates", "inner"] := by
    apply find?_selfAndAbove_iff.1
    decide +kernel
  have hways : w.tree.SameWays v.tree :=
    (FileTree.sameWays_refl nested).set (Or.inr ⟨_, rfl⟩) _
  have hnearer : ∀ other, other <+: ["crates", "inner", "src", "a"] → ["crates", "inner"] <+: other →
      HasManifest v.tree other → other = ["crates", "inner"] := by
    have hnone : ∀ other ∈ selfAndAbove ["crates", "inner", "src", "a"],
        ["crates", "inner"] <+: other → v.tree.isFileIn other manifestName = true →
          other = ["crates", "inner"] := by
      decide +kernel
    intro other ho hbelow hm
    exact hnone other (mem_selfAndAbove ho) hbelow (isFileIn_iff.2 hm)
  obtain ⟨-, -, hframe⟩ := resolve_by_nearest_manifest
  have hanswer : (outcome (resolve (m := StateM Workspace) "/w/here/./a") w).1 =
      .ok "my_inner::a" := by
    decide +kernel
  refine ⟨hanswer, ?_⟩
  rw [← hanswer]
  exact hframe _ w v _ _ _ _ hleads hnearest hmanifest hways rfl hnearer

end ModuleId

end DispatchLayer
