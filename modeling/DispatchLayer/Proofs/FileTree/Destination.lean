import DispatchLayer.Proofs.FileTree.Walk

/-!
# Where writing writes

Writing to a pathname sets one location, the destination. Nothing but a file can stand there before
the write (`destination_spec`), reading the pathname afterwards gives what was written
(`readText_of_destination`), and no link on any way is touched: a file that is put at a destination
moves no other destination (`destination_set`). A pathname that had a destination keeps it, and one
that had none gets none. So a write that went through goes through again, and two writes made once
more leave the tree that the first two have left (`writeText_pair_again`).
-/

namespace DispatchLayer.FileTree

variable {t : FileTree} {loc : Location} {content : ByteArray}

/-- A file or nothing stands at a location. -/
def Writable (t : FileTree) (loc : Location) : Prop :=
  t.lookup loc = none ∨ ∃ content, t.lookup loc = some (.file content)

theorem Writable.ne_nil (h : t.Writable loc) : loc ≠ [] := by
  rintro rfl
  rcases h with h | ⟨content, h⟩
  · cases h
  · cases h

theorem Writable.isDirectory (h : t.Writable loc) : t.isDirectory loc = false := by
  unfold FileTree.isDirectory
  rcases h with h | ⟨content, h⟩
  · rw [h]
    rfl
  · rw [h]
    rfl

theorem Writable.not_link (h : t.Writable loc) (target : String) :
    t.lookup loc ≠ some (.link target) := by
  rcases h with h | ⟨content, h⟩
  · rw [h]
    simp
  · rw [h]
    simp

/-! ## What a pathname leads to -/

/-- A directory stands at a location and at all locations on the way to it. -/
def Standing (t : FileTree) (here : Location) : Prop :=
  ∀ n, t.lookup (here.take n) = some .directory

theorem standing_nil : t.Standing [] := by
  intro n
  rw [List.take_nil]
  rfl

theorem Standing.lookup {here : Location} (h : t.Standing here) :
    t.lookup here = some .directory := by
  simpa using h here.length

theorem Standing.dropLast {here : Location} (h : t.Standing here) : t.Standing here.dropLast := by
  intro n
  rw [List.dropLast_eq_take, List.take_take]
  exact h _

theorem Standing.concat {here : Location} {name : String} (h : t.Standing here)
    (hd : t.lookup (here ++ [name]) = some .directory) : t.Standing (here ++ [name]) := by
  intro n
  rcases Nat.lt_or_ge here.length n with hn | hn
  · rw [List.take_of_length_le (by rw [List.length_append]; exact hn)]
    exact hd
  · rw [List.take_append_of_le_length hn]
    exact h n

theorem Standing.startOf {here dir : Location} {p : Pathname} {names : List String}
    (h : t.Standing here) (hs : t.startOf here p = .ok (dir, names)) : t.Standing dir := by
  unfold FileTree.startOf at hs
  split at hs
  · -- An absolute pathname starts in the top directory.
    dsimp only at hs
    split at hs
    · cases hs
      exact standing_nil
    · cases hs
  · cases hs
    exact h

/-- What can be said about the place a pathname leads to. -/
def Place.Sound (t : FileTree) : Place → Prop
  | .found loc => t.lookup loc = some .directory ∨ ∃ content, t.lookup loc = some (.file content)
  | .free dir name => t.lookup (dir ++ [name]) = none

theorem Walk.sound {creating slash : Bool} {n : Nat} {here : Location} {names : List String}
    {p : Place} (h : t.Walk creating n here names slash p) (hs : t.Standing here) : p.Sound t := by
  induction h with
  | arrived => exact Or.inl hs.lookup
  | stay _ ih => exact ih hs
  | up _ ih => exact ih hs.dropLast
  | free _ hl => exact hl
  | file _ hl => exact Or.inr ⟨_, hl⟩
  | down _ hl _ ih => exact ih (hs.concat hl)
  | link _ _ hst _ ih => exact ih (hs.startOf hst)

theorem place_sound {creating : Bool} {text : String} {p : Place}
    (h : t.place creating text = .ok p) : p.Sound t := by
  obtain ⟨-, start, names, hst, hw⟩ := place_eq_ok_iff.1 h
  exact hw.sound (standing_nil.startOf hst)

/-! ## Reading instead of writing -/

theorem Enters.reading {name : String} {rest : List String} {slash : Bool}
    (h : Enters true name rest slash) : Enters false name rest slash :=
  { h with allowed := by rw [Bool.false_and, Bool.false_and] }

/-- Creating refuses some names; the others lead on in the same way. -/
theorem Walk.reading {slash : Bool} {n : Nat} {here : Location} {names : List String} {p : Place}
    (h : t.Walk true n here names slash p) : t.Walk false n here names slash p := by
  induction h with
  | arrived => exact .arrived
  | stay _ ih => exact .stay ih
  | up _ ih => exact .up ih
  | free he hl => exact .free he.reading hl
  | file he hl => exact .file he.reading hl
  | down he hl _ ih => exact .down he.reading hl ih
  | link he hl hst _ ih => exact .link he.reading hl hst ih

/-- A pathname leads to the same place whether something is to be created there or not, unless
creating is refused. -/
theorem place_of_creating {text : String} {p : Place} (h : t.place true text = .ok p) :
    t.place false text = .ok p := by
  obtain ⟨ht, start, names, hst, hw⟩ := place_eq_ok_iff.1 h
  exact place_eq_ok_iff.2 ⟨ht, start, names, hst, hw.reading⟩

/-! ## Destinations -/

theorem destination_eq_ok_iff {text : String} :
    t.destination text = .ok loc ↔
      openError? text = none ∧
        ((t.place true text = .ok (.found loc) ∧ t.isDirectory loc = false) ∨
          ∃ dir name, t.place true text = .ok (.free dir name) ∧ dir ++ [name] = loc) := by
  unfold destination
  cases openError? text with
  | some e => simp [bind, Except.bind, throw, throwThe, MonadExceptOf.throw]
  | none =>
    cases t.place true text with
    | error e => simp [bind, Except.bind]
    | ok p =>
      cases p with
      | found l =>
        cases hd : t.isDirectory l with
        | true =>
          simp only [bind, Except.bind, hd, throw, throwThe, MonadExceptOf.throw]
          simp
          rintro rfl
          exact hd
        | false =>
          simp only [bind, Except.bind, hd, pure, Except.pure]
          simp
          rintro rfl
          exact hd
      | free dir name =>
        simp only [bind, Except.bind, pure, Except.pure]
        constructor
        · intro he
          exact ⟨trivial, Or.inr ⟨dir, name, rfl, Except.ok.inj he⟩⟩
        · rintro ⟨-, ⟨he, -⟩ | ⟨_, _, he, rfl⟩⟩
          · cases he
          · cases he
            rfl

/-- **Only files are written.** Before a write a file or nothing stands at the destination. -/
theorem destination_spec {text : String} (h : t.destination text = .ok loc) : t.Writable loc := by
  obtain ⟨-, ⟨hp, hd⟩ | ⟨dir, name, hp, rfl⟩⟩ := destination_eq_ok_iff.1 h
  · rcases place_sound hp with hl | hl
    · unfold isDirectory at hd
      rw [hl] at hd
      cases hd
    · exact Or.inr hl
  · exact Or.inl (place_sound hp)

theorem decode_toUTF8 (text : String) : decode text.toUTF8 = .ok text := by
  have h : String.fromUTF8? text.toUTF8 = some text := dif_pos text.isValidUTF8
  unfold decode
  rw [h]

/-- Reading a pathname reads the file at its destination, if there is one. -/
theorem readText_eq_of_destination {path : String} (h : t.destination path = .ok loc) :
    t.readText path =
      match t.lookup loc with
      | some (.file content) => decode content
      | _ => .error .notFound := by
  unfold readText
  obtain ⟨ho, ⟨hp, hd⟩ | ⟨dir, name, hp, rfl⟩⟩ := destination_eq_ok_iff.1 h
  · have hfile : ∃ content, t.lookup loc = some (.file content) := by
      rcases place_sound hp with hl | hl
      · simp [isDirectory, hl] at hd
      · exact hl
    obtain ⟨content, hl⟩ := hfile
    have hc : t.contentAt (.found loc) = .ok content := by
      simp only [contentAt, Place.entry?, hl]
    rw [ho, place_of_creating hp, hl]
    simp only [bind, Except.bind, hc]
  · -- Nothing stands at a place that is free.
    have hl : t.lookup (dir ++ [name]) = none := place_sound hp
    rw [ho, place_of_creating hp, hl]
    rfl

/-- Reading a pathname gives the text of the file at its destination. -/
theorem readText_of_destination {path text : String} (h : t.destination path = .ok loc)
    (hf : t.lookup loc = some (.file text.toUTF8)) : t.readText path = .ok text := by
  rw [readText_eq_of_destination h, hf]
  exact decode_toUTF8 text

/-! ## After a write -/

section AfterWrite

/-- The same place, once a file stands at a location. -/
def Place.withFile (loc : Location) : Place → Place
  | .found l => .found l
  | .free dir name => if dir ++ [name] = loc then .found loc else .free dir name

/-- How the answer for a pathname can change when a file is put at a location: what was free there
has been found, and a way on through it fails as a way through a file. -/
def Follows (loc : Location) (before after : Except FileError Place) : Prop :=
  after = before.map (Place.withFile loc) ∨
    before = .error .notFound ∧ after = .error .notDirectory

theorem lookup_set_writable (h : t.Writable loc) (other : Location) :
    (t.set loc (.file content)).lookup other =
      if other = loc then some (.file content) else t.lookup other := by
  split
  next he =>
    rw [he]
    exact lookup_set_self t h.ne_nil _
  next he => exact lookup_set_of_ne t he _

theorem isDirectory_set (h : t.Writable loc) (other : Location) :
    (t.set loc (.file content)).isDirectory other = t.isDirectory other := by
  by_cases he : other = loc
  · rw [he, h.isDirectory]
    unfold FileTree.isDirectory
    rw [lookup_set_self t h.ne_nil]
    rfl
  · unfold FileTree.isDirectory
    rw [lookup_set_of_ne t he]

/-- A name that leads over the location itself: it was free or a file there, and is a file now. -/
theorem follows_enter (hw : t.Writable loc) {n : Nat} {here : Location} {name : String}
    {rest : List String} {slash : Bool} (he : Enters true name rest slash)
    (hloc : here ++ [name] = loc) :
    Follows loc (t.followLinks true n here (name :: rest) slash)
      ((t.set loc (.file content)).followLinks true n here (name :: rest) slash) := by
  have hslash : (rest.isEmpty && slash) = false := by
    rw [← Bool.true_and (rest.isEmpty && slash), ← Bool.and_assoc]
    exact he.allowed
  rw [followLinks_enter he, followLinks_enter he, lookup_set_writable hw, if_pos hloc, hloc]
  rcases hw with hl | ⟨old, hl⟩
  · rw [hl]
    cases rest with
    | nil =>
      have hslash : slash = false := hslash
      rw [hslash]
      refine Or.inl ?_
      show Except.ok (Place.found loc) = .ok (if here ++ [name] = loc then _ else _)
      rw [if_pos hloc]
    | cons next rest => exact Or.inr ⟨rfl, rfl⟩
  · rw [hl]
    refine Or.inl ?_
    dsimp only
    split
    · rfl
    · rfl

theorem followLinks_set (hw : t.Writable loc) :
    ∀ (n : Nat) (names : List String) (here : Location) (slash : Bool),
      Follows loc (t.followLinks true n here names slash)
        ((t.set loc (.file content)).followLinks true n here names slash) := by
  intro n
  -- A link takes one of those that may be followed; any other name leaves fewer names.
  induction n using Nat.strongRecOn with
  | ind n links =>
  intro names
  induction names with
  | nil =>
    intro here slash
    rw [followLinks_nil, followLinks_nil]
    exact Or.inl rfl
  | cons name rest ih =>
    intro here slash
    rcases name_cases true name rest slash with rfl | rfl | ⟨e, herror⟩ | he
    · rw [followLinks_here, followLinks_here]
      exact ih here slash
    · rw [followLinks_above, followLinks_above]
      exact ih here.dropLast slash
    · rw [herror, herror]
      exact Or.inl rfl
    -- Only at the location written do the two trees give different entries.
    by_cases hloc : here ++ [name] = loc
    · exact follows_enter hw he hloc
    rw [followLinks_enter he, followLinks_enter he, lookup_set_writable hw, if_neg hloc]
    cases t.lookup (here ++ [name]) with
    | none =>
      refine Or.inl ?_
      dsimp only
      split
      · exact congrArg Except.ok (if_neg hloc).symm
      · rfl
    | some entry =>
      cases entry with
      | file old =>
        refine Or.inl ?_
        dsimp only
        split
        · rfl
        · rfl
      | directory => exact ih _ _
      | link target =>
        -- Where a link starts depends on the top directory alone.
        show Follows loc (t.followTarget true n here target rest slash)
          ((t.set loc (.file content)).followTarget true n here target rest slash)
        unfold followTarget
        rw [show (t.set loc (.file content)).startOf here (Pathname.ofText target) =
          t.startOf here (Pathname.ofText target) from rfl]
        cases t.startOf here (Pathname.ofText target) with
        | error e => exact Or.inl rfl
        | ok start =>
          cases n with
          | zero => exact Or.inl rfl
          | succ n => exact links n (Nat.lt_succ_self n) _ _ _

theorem place_set (content : ByteArray) (hw : t.Writable loc) (text : String) :
    Follows loc (t.place true text) ((t.set loc (.file content)).place true text) := by
  unfold place
  cases Pathname.textError? text with
  | some e => exact Or.inl rfl
  | none =>
    show Follows loc (t.startOf [] (Pathname.ofText text) >>= _)
      (t.startOf [] (Pathname.ofText text) >>= _)
    cases t.startOf [] (Pathname.ofText text) with
    | error e => exact Or.inl rfl
    | ok start => exact followLinks_set hw _ _ _ _

/-- **A write moves no destination.** Once a file has been put where a file or nothing stood, every
pathname leads to the same location as before, or to none before and none after. -/
theorem destination_set (content : ByteArray) (hw : t.Writable loc) (text : String) :
    (t.set loc (.file content)).destination text = t.destination text ∨
      t.destination text = .error .notFound ∧
        (t.set loc (.file content)).destination text = .error .notDirectory := by
  unfold destination
  cases openError? text with
  | some e => exact Or.inl rfl
  | none =>
    rcases place_set content hw text with h | ⟨hb, ha⟩
    · refine Or.inl ?_
      show ((t.set loc (.file content)).place true text >>= _) = (t.place true text >>= _)
      rw [h]
      cases t.place true text with
      | error e => rfl
      | ok p =>
        cases p with
        | found l =>
          simp [Except.map, Place.withFile, bind, Except.bind, isDirectory_set hw]
        | free dir name =>
          -- What was free at the location is a file now, and a file is a destination too.
          by_cases he : dir ++ [name] = loc
          · have hd : (t.set loc (.file content)).isDirectory loc = false := by
              unfold isDirectory
              rw [lookup_set_self t hw.ne_nil]
              rfl
            simp [Except.map, Place.withFile, bind, Except.bind, he, hd, pure, Except.pure]
          · simp [Except.map, Place.withFile, bind, Except.bind, he]
    · refine Or.inr ⟨?_, ?_⟩
      · show (t.place true text >>= _) = _
        rw [hb]
        rfl
      · show ((t.set loc (.file content)).place true text >>= _) = _
        rw [ha]
        rfl

theorem destination_set_eq_ok_iff (hw : t.Writable loc) {text : String} {other : Location} :
    (t.set loc (.file content)).destination text = .ok other ↔ t.destination text = .ok other := by
  rcases destination_set content hw text with h | ⟨hb, ha⟩
  · rw [h]
  · rw [hb, ha]
    simp

end AfterWrite

/-! ## Writing texts -/

theorem writeText_eq_ok_iff {path text : String} {after : FileTree} :
    t.writeText path text = .ok after ↔
      ∃ loc, t.destination path = .ok loc ∧ after = t.set loc (.file text.toUTF8) := by
  unfold writeText write
  cases t.destination path with
  | error e => simp [bind, Except.bind]
  | ok loc => simp [bind, Except.bind, pure, Except.pure, eq_comm]

/-- **Two writes.** After files have been put at the destinations of two pathnames, reading each
pathname gives its own text, and all other locations have kept their entries. -/
theorem readText_set_set {p q a b : String} {here there : Location}
    (hp : t.destination p = .ok here) (hq : t.destination q = .ok there) (hne : here ≠ there) :
    let after := (t.set here (.file a.toUTF8)).set there (.file b.toUTF8)
    after.readText p = .ok a ∧ after.readText q = .ok b ∧
      ∀ other, other ≠ here → other ≠ there → after.lookup other = t.lookup other := by
  have hw := destination_spec hp
  have hq' : (t.set here (.file a.toUTF8)).destination q = .ok there :=
    (destination_set_eq_ok_iff hw).2 hq
  have hw' := destination_spec hq'
  refine ⟨readText_of_destination
      ((destination_set_eq_ok_iff hw').2 ((destination_set_eq_ok_iff hw).2 hp)) ?_,
    readText_of_destination ((destination_set_eq_ok_iff hw').2 hq') ?_, fun other ho ho' => ?_⟩
  · rw [lookup_set_of_ne _ hne, lookup_set_self t hw.ne_nil]
  · exact lookup_set_self _ hw'.ne_nil _
  · rw [lookup_set_of_ne _ ho', lookup_set_of_ne t ho]

/-! ## Writing once more -/

theorem setEntry_setEntry (loc : Location) (old e : Entry) (l : List (Location × Entry)) :
    setEntry loc e (setEntry loc old l) = setEntry loc e l := by
  induction l with
  | nil => simp [setEntry]
  | cons p rest ih =>
    obtain ⟨here, there⟩ := p
    by_cases h : here = loc
    · simp [setEntry, h]
    · simp [setEntry, h, ih]

theorem setEntry_eq_self {e : Entry} {l : List (Location × Entry)} (h : l.lookup loc = some e) :
    setEntry loc e l = l := by
  induction l with
  | nil => cases h
  | cons p rest ih =>
    obtain ⟨here, old⟩ := p
    by_cases hh : here = loc
    · subst hh
      rw [List.lookup_cons_self] at h
      cases h
      simp [setEntry]
    · have hne : (loc == here) = false := by simpa using fun he => hh he.symm
      rw [List.lookup_cons, hne] at h
      rw [setEntry, if_neg hh, ih h]

/-- Of two entries put at one location the second counts. -/
theorem set_set (t : FileTree) (loc : Location) (old e : Entry) :
    (t.set loc old).set loc e = t.set loc e := by
  unfold FileTree.set
  rw [setEntry_setEntry]

/-- Putting an entry where it is changes nothing. -/
theorem set_eq_self (hne : loc ≠ []) {e : Entry} (h : t.lookup loc = some e) :
    t.set loc e = t := by
  have hl : t.entries.lookup loc = some e := by
    cases loc with
    | nil => exact absurd rfl hne
    | cons name names => exact h
  unfold FileTree.set
  rw [setEntry_eq_self hl]

theorem set_pair_again (t : FileTree) {here there : Location} (hh : here ≠ []) (ht : there ≠ [])
    (a b : Entry) :
    (((t.set here a).set there b).set here a).set there b = (t.set here a).set there b := by
  by_cases hne : here = there
  · rw [hne, set_set, set_set]
  · have ha : ((t.set here a).set there b).lookup here = some a := by
      rw [lookup_set_of_ne _ hne, lookup_set_self t hh]
    rw [set_eq_self hh ha]
    apply set_eq_self ht
    exact lookup_set_self _ ht b

/-- **A write that went through goes through again**, and changes nothing more. -/
theorem writeText_again {path text : String} {after : FileTree}
    (h : t.writeText path text = .ok after) : after.writeText path text = .ok after := by
  obtain ⟨loc, hd, rfl⟩ := writeText_eq_ok_iff.1 h
  have hw := destination_spec hd
  apply writeText_eq_ok_iff.2
  refine ⟨loc, (destination_set_eq_ok_iff hw).2 hd, ?_⟩
  rw [set_set]

/-- **Two writes that went through go through again**, and leave what they have left before, also
where the second has overwritten the first. -/
theorem writeText_pair_again {p q a b : String} {first second : FileTree}
    (hp : t.writeText p a = .ok first) (hq : first.writeText q b = .ok second) :
    ∃ third, second.writeText p a = .ok third ∧ third.writeText q b = .ok second := by
  obtain ⟨here, hhere, rfl⟩ := writeText_eq_ok_iff.1 hp
  obtain ⟨there, hthere, rfl⟩ := writeText_eq_ok_iff.1 hq
  have hw := destination_spec hhere
  have hw' := destination_spec hthere
  -- Neither write has moved a destination.
  have hagain : ((t.set here (.file a.toUTF8)).set there (.file b.toUTF8)).destination p =
      .ok here := by
    apply (destination_set_eq_ok_iff hw').2
    exact (destination_set_eq_ok_iff hw).2 hhere
  have hagain' : ((t.set here (.file a.toUTF8)).set there (.file b.toUTF8)).destination q =
      .ok there := (destination_set_eq_ok_iff hw').2 hthere
  refine ⟨_, writeText_eq_ok_iff.2 ⟨here, hagain, rfl⟩, writeText_eq_ok_iff.2 ⟨there, ?_, ?_⟩⟩
  · exact (destination_set_eq_ok_iff (destination_spec hagain)).2 hagain'
  · exact (set_pair_again t hw.ne_nil hw'.ne_nil _ _).symm

/-! ## What a pathname holds -/

/-- The pathname leads to a file with this text. -/
def Holds (t : FileTree) (path text : String) : Prop :=
  ∃ loc, t.destination path = .ok loc ∧ t.lookup loc = some (.file text.toUTF8)

theorem Holds.readText {path text : String} (h : t.Holds path text) : t.readText path = .ok text := by
  obtain ⟨loc, hd, hl⟩ := h
  exact readText_of_destination hd hl

theorem holds_of_writeText {path text : String} {after : FileTree}
    (h : t.writeText path text = .ok after) : after.Holds path text := by
  obtain ⟨loc, hd, rfl⟩ := writeText_eq_ok_iff.1 h
  have hw := destination_spec hd
  exact ⟨loc, (destination_set_eq_ok_iff hw).2 hd, lookup_set_self t hw.ne_nil _⟩

/-- After a write elsewhere a pathname holds what it did, or, if both lead to one file, what has been
written. -/
theorem Holds.after_writeText {p q a b : String} {after : FileTree} (h : t.Holds p a)
    (hq : t.writeText q b = .ok after) : after.Holds p a ∨ after.Holds p b := by
  obtain ⟨here, hd, hl⟩ := h
  obtain ⟨there, hd', rfl⟩ := writeText_eq_ok_iff.1 hq
  have hw := destination_spec hd'
  have hagain : (t.set there (.file b.toUTF8)).destination p = .ok here :=
    (destination_set_eq_ok_iff hw).2 hd
  by_cases he : here = there
  · right
    refine ⟨here, hagain, ?_⟩
    rw [he]
    exact lookup_set_self t hw.ne_nil _
  · left
    refine ⟨here, hagain, ?_⟩
    rw [lookup_set_of_ne t he]
    exact hl

end DispatchLayer.FileTree
