import DispatchLayer.FileTree

/-!
# Walks

Names are followed one at a time. The names `.` and `..` stay and go up, and some names are refused
whatever the tree holds (`name_cases`); every other name is looked up, and `followLinks_enter` says
what comes of it.

A walk is the way of names that lead to a place, with one constructor for each kind of step. Names
are followed to a place exactly along a walk (`followLinks_eq_ok_iff`), and a pathname is followed
along the walk of its names (`place_eq_ok_iff`). So what holds of all pathnames that lead somewhere
is shown by induction on walks.
-/

namespace DispatchLayer.FileTree

variable {t : FileTree} {creating slash : Bool} {n : Nat} {here : Location} {name : String}
  {names rest : List String} {p : Place}

/-! ## One name -/

/-- A name that is looked up in the directory reached so far. -/
structure Enters (creating : Bool) (name : String) (rest : List String) (slash : Bool) : Prop where
  ne_here : name ≠ "."
  ne_above : name ≠ ".."
  allowed : (creating && rest.isEmpty && slash) = false
  not_long : Pathname.isTooLong name = false

/-- Where a link leads on, with the names behind it. -/
def followTarget (t : FileTree) (creating : Bool) (n : Nat) (here : Location) (target : String)
    (rest : List String) (slash : Bool) : Except FileError Place :=
  match t.startOf here (Pathname.ofText target), n with
  | .error e, _ => .error e
  | .ok _, 0 => .error .tooManyLinks
  | .ok (start, names), n + 1 =>
    t.followLinks creating n start (names ++ rest)
      (slash || rest.isEmpty && (Pathname.ofText target).wantsDirectory)

theorem followLinks_nil : t.followLinks creating n here [] slash = .ok (.found here) := by
  cases n with
  | zero => rfl
  | succ n => rfl

theorem followLinks_here :
    t.followLinks creating n here ("." :: rest) slash = t.followLinks creating n here rest slash := by
  cases n with
  | zero => rfl
  | succ n => rfl

theorem followLinks_above : t.followLinks creating n here (".." :: rest) slash =
    t.followLinks creating n here.dropLast rest slash := by
  cases n with
  | zero => rfl
  | succ n => rfl

/-- What comes of a name that is looked up. -/
theorem followLinks_enter (h : Enters creating name rest slash) :
    t.followLinks creating n here (name :: rest) slash =
      match t.lookup (here ++ [name]) with
      | none => if rest.isEmpty then .ok (.free here name) else .error .notFound
      | some (.file _) =>
        if rest.isEmpty && !slash then .ok (.found (here ++ [name])) else .error .notDirectory
      | some .directory => t.followLinks creating n (here ++ [name]) rest slash
      | some (.link target) => t.followTarget creating n here target rest slash := by
  have hslash : ¬ (creating && rest.isEmpty && slash) = true := Bool.eq_false_iff.1 h.allowed
  have hlong : ¬ Pathname.isTooLong name = true := Bool.eq_false_iff.1 h.not_long
  cases n with
  | _ =>
    rw [followLinks, follow, if_neg h.ne_here, if_neg h.ne_above, if_neg hslash, if_neg hlong]
    cases t.lookup (here ++ [name]) with
    | none => rfl
    | some entry =>
      cases entry with
      | link target =>
        dsimp only [followTarget]
        cases t.startOf here (Pathname.ofText target) with
        | error e => rfl
        | ok s => rfl
      | _ => rfl

/-- A name stays, goes up, is refused in every tree, or is looked up. -/
theorem name_cases (creating : Bool) (name : String) (rest : List String) (slash : Bool) :
    name = "." ∨ name = ".." ∨
      (∃ e, ∀ (t : FileTree) n here,
        t.followLinks creating n here (name :: rest) slash = .error e) ∨
      Enters creating name rest slash := by
  by_cases hhere : name = "."
  · exact Or.inl hhere
  by_cases habove : name = ".."
  · exact Or.inr (Or.inl habove)
  by_cases hslash : (creating && rest.isEmpty && slash) = true
  · refine Or.inr (Or.inr (Or.inl ⟨.isDirectory, fun t n here => ?_⟩))
    cases n with
    | _ => rw [followLinks, follow, if_neg hhere, if_neg habove, if_pos hslash]
  by_cases hlong : Pathname.isTooLong name = true
  · refine Or.inr (Or.inr (Or.inl ⟨.nameTooLong, fun t n here => ?_⟩))
    cases n with
    | _ => rw [followLinks, follow, if_neg hhere, if_neg habove, if_neg hslash, if_pos hlong]
  · exact Or.inr (Or.inr (Or.inr ⟨hhere, habove, Bool.eq_false_iff.2 hslash,
      Bool.eq_false_iff.2 hlong⟩))

/-! ## The way to a place -/

/-- How names lead from a directory to a place, through at most so many links. -/
inductive Walk (t : FileTree) (creating : Bool) :
    Nat → Location → List String → Bool → Place → Prop
  | arrived {n : Nat} {here : Location} {slash : Bool} : Walk t creating n here [] slash (.found here)
  | stay {n : Nat} {here : Location} {rest : List String} {slash : Bool} {p : Place}
    (h : Walk t creating n here rest slash p) : Walk t creating n here ("." :: rest) slash p
  | up {n : Nat} {here : Location} {rest : List String} {slash : Bool} {p : Place}
    (h : Walk t creating n here.dropLast rest slash p) : Walk t creating n here (".." :: rest) slash p
  | free {n : Nat} {here : Location} {name : String} {slash : Bool}
    (he : Enters creating name [] slash) (hl : t.lookup (here ++ [name]) = none) :
    Walk t creating n here [name] slash (.free here name)
  | file {n : Nat} {here : Location} {name : String} {content : ByteArray}
    (he : Enters creating name [] false) (hl : t.lookup (here ++ [name]) = some (.file content)) :
    Walk t creating n here [name] false (.found (here ++ [name]))
  | down {n : Nat} {here : Location} {name : String} {rest : List String} {slash : Bool} {p : Place}
    (he : Enters creating name rest slash) (hl : t.lookup (here ++ [name]) = some .directory)
    (h : Walk t creating n (here ++ [name]) rest slash p) :
    Walk t creating n here (name :: rest) slash p
  | link {n : Nat} {here start : Location} {name target : String} {names rest : List String}
    {slash : Bool} {p : Place} (he : Enters creating name rest slash)
    (hl : t.lookup (here ++ [name]) = some (.link target))
    (hs : t.startOf here (Pathname.ofText target) = .ok (start, names))
    (h : Walk t creating n start (names ++ rest)
      (slash || rest.isEmpty && (Pathname.ofText target).wantsDirectory) p) :
    Walk t creating (n + 1) here (name :: rest) slash p

theorem Walk.followLinks_eq (h : t.Walk creating n here names slash p) :
    t.followLinks creating n here names slash = .ok p := by
  induction h with
  | arrived => exact followLinks_nil
  | stay _ ih => exact followLinks_here.trans ih
  | up _ ih => exact followLinks_above.trans ih
  | free he hl =>
    rw [followLinks_enter he, hl]
    rfl
  | file he hl =>
    rw [followLinks_enter he, hl]
    rfl
  | down he hl _ ih =>
    rw [followLinks_enter he, hl]
    exact ih
  | link he hl hs _ ih =>
    rw [followLinks_enter he, hl]
    dsimp only [followTarget]
    rw [hs]
    exact ih

/-- A link leads to a place only if there is a start for the names of its target. -/
theorem followTarget_eq_ok {target : String}
    (h : t.followTarget creating n here target rest slash = .ok p) :
    ∃ m start names, n = m + 1 ∧ t.startOf here (Pathname.ofText target) = .ok (start, names) ∧
      t.followLinks creating m start (names ++ rest)
        (slash || rest.isEmpty && (Pathname.ofText target).wantsDirectory) = .ok p := by
  unfold followTarget at h
  cases hs : t.startOf here (Pathname.ofText target) with
  | error e =>
    rw [hs] at h
    cases h
  | ok s =>
    rw [hs] at h
    cases n with
    | zero => cases h
    | succ m => exact ⟨m, s.1, s.2, rfl, rfl, h⟩

theorem walk_of_followLinks : ∀ {n : Nat} {names : List String} {here : Location} {slash : Bool},
    t.followLinks creating n here names slash = .ok p → t.Walk creating n here names slash p := by
  intro n
  -- Links are used up one by one; between two of them the names are.
  induction n using Nat.strongRecOn with
  | ind n links =>
  intro names
  induction names with
  | nil =>
    intro here slash h
    rw [followLinks_nil] at h
    cases h
    exact .arrived
  | cons name rest ih =>
    intro here slash h
    rcases name_cases creating name rest slash with rfl | rfl | ⟨e, he⟩ | he
    · exact .stay (ih (followLinks_here.symm.trans h))
    · exact .up (ih (followLinks_above.symm.trans h))
    · rw [he] at h
      cases h
    · rw [followLinks_enter he] at h
      cases hl : t.lookup (here ++ [name]) with
      | none =>
        simp only [hl] at h
        cases rest with
        | nil =>
          cases h
          exact .free he hl
        | cons next rest => cases h
      | some entry =>
        cases entry with
        | file content =>
          simp only [hl] at h
          cases rest with
          | nil =>
            cases slash with
            | false =>
              cases h
              exact .file he hl
            | true => cases h
          | cons next rest => cases h
        | directory =>
          simp only [hl] at h
          exact .down he hl (ih h)
        | link target =>
          simp only [hl] at h
          obtain ⟨m, start, names, rfl, hs, hm⟩ := followTarget_eq_ok h
          exact .link he hl hs (links m (Nat.lt_succ_self m) hm)

/-- **Names are followed along walks**, and only along walks. -/
theorem followLinks_eq_ok_iff :
    t.followLinks creating n here names slash = .ok p ↔ t.Walk creating n here names slash p :=
  ⟨walk_of_followLinks, Walk.followLinks_eq⟩

/-- A pathname leads to a place if it can be one and its names have a start and a walk. -/
theorem place_eq_ok_iff {text : String} :
    t.place creating text = .ok p ↔
      Pathname.textError? text = none ∧ ∃ start names,
        t.startOf [] (Pathname.ofText text) = .ok (start, names) ∧
        t.Walk creating maxLinks start names (Pathname.ofText text).wantsDirectory p := by
  unfold place
  cases Pathname.textError? text with
  | some e => simp
  | none =>
    dsimp only
    cases hs : t.startOf [] (Pathname.ofText text) with
    | error e => simp [bind, Except.bind]
    | ok s =>
      simp only [bind, Except.bind, followLinks_eq_ok_iff, true_and, Except.ok.injEq]
      constructor
      · exact fun h => ⟨s.1, s.2, rfl, h⟩
      · rintro ⟨start, names, rfl, h⟩
        exact h

end DispatchLayer.FileTree
