import DispatchLayer.Proofs.FileTree.Destination
import DispatchLayer.Proofs.Text.Fields

/-!
# Going down one directory

A name put behind a pathname leads from where the pathname led: if the pathname leads to a directory
and the name is that of a directory in it, the longer pathname leads to that directory
(`place_join`), whatever links the pathname goes through, and whether or not it ends in a slash.
-/

namespace DispatchLayer

/-- **A name of an entry**: what a directory can hold something under. -/
structure Pathname.IsEntryName (name : String) : Prop where
  ne_empty : name ≠ ""
  ne_here : name ≠ "."
  ne_above : name ≠ ".."
  no_slash : '/' ∉ name.toList
  no_nul : '\x00' ∉ name.toList
  not_long : isTooLong name = false

namespace Pathname

variable {dir name : String}

/-- There is one slash before the name: the pathname's own, or a new one. -/
theorem toList_join (hdir : dir ≠ "") (name : String) :
    ∃ front, (join dir name).toList = front ++ '/' :: name.toList ∧
      (dir.toList = front ∨ dir.toList = front ++ ['/']) := by
  have hempty : dir.isEmpty = false := by
    rw [Bool.eq_false_iff]
    intro h
    exact hdir (String.isEmpty_iff.1 h)
  unfold join
  rw [hempty, if_neg (by simp)]
  split
  next h =>
    obtain ⟨front, hfront⟩ := List.getLast?_eq_some_iff.1 (eq_of_beq h)
    refine ⟨front, ?_, Or.inr hfront⟩
    rw [String.toList_append, hfront, List.append_assoc]
    rfl
  next h =>
    refine ⟨dir.toList, ?_, Or.inl rfl⟩
    rw [String.toList_append, String.toList_append, List.append_assoc]
    rfl

/-- An empty piece is no name, so it does not matter whether the pathname ended in a slash. -/
theorem names_join (hdir : dir ≠ "") (hname : IsEntryName name) :
    (ofText (join dir name)).names = (ofText dir).names ++ [name] := by
  have hlast : ([String.ofList name.toList].filter fun p => !p.isEmpty) = [name] := by
    simp [hname.ne_empty]
  obtain ⟨front, hjoin, rfl | hfront⟩ := toList_join hdir name
  · simp only [ofText, hjoin, Text.fields_append_sep, Text.fields_of_not_mem hname.no_slash,
      List.map_append, List.filter_append, List.map_cons, List.map_nil, hlast]
  · have hnothing : Text.fields '/' (front ++ ['/']) = Text.fields '/' front ++ [[]] :=
      Text.fields_append_sep front []
    simp only [ofText, hjoin, hfront, hnothing, Text.fields_append_sep,
      Text.fields_of_not_mem hname.no_slash, List.map_append, List.filter_append, List.map_cons,
      List.map_nil, hlast]
    simp

/-- **A name behind a pathname** is one name more, and no slash follows it. -/
theorem ofText_join (hdir : dir ≠ "") (hname : IsEntryName name) :
    ofText (join dir name) = ⟨(ofText dir).absolute, (ofText dir).names ++ [name], false⟩ := by
  have hnames := names_join hdir hname
  have hne : dir.toList ≠ [] := fun h => hdir (String.toList_eq_nil_iff.1 h)
  obtain ⟨front, hjoin, hfront⟩ := toList_join hdir name
  have habsolute : (join dir name).toList.head? = dir.toList.head? := by
    rw [hjoin]
    rcases hfront with rfl | hfront
    · cases hd : dir.toList with
      | nil => exact absurd hd hne
      | cons c front => rfl
    · rw [hfront]
      cases front with
      | nil => rfl
      | cons c front => rfl
  have hend : ((join dir name).toList.getLast? == some '/') = false := by
    rw [hjoin, beq_eq_false_iff_ne]
    intro h
    -- The last character is one of the name, or the slash if the name were empty.
    obtain ⟨before, hb⟩ := List.getLast?_eq_some_iff.1 h
    rcases List.eq_nil_or_concat name.toList with hn | ⟨chars, last, hn⟩
    · exact hname.ne_empty (String.toList_eq_nil_iff.1 hn)
    · rw [hn, List.concat_eq_append, ← List.cons_append, ← List.append_assoc] at hb
      have hlast := List.singleton_inj.1 (List.append_inj' hb rfl).2
      apply hname.no_slash
      rw [hn, hlast]
      simp
  unfold ofText at hnames ⊢
  rw [habsolute, hend]
  simp only at hnames ⊢
  rw [hnames]

theorem textError?_eq_none_iff {text : String} :
    textError? text = none ↔ '\x00' ∉ text.toList ∧ text ≠ "" := by
  unfold textError?
  by_cases hnul : '\x00' ∈ text.toList
  · simp [hnul]
  · by_cases hempty : text = ""
    · simp [hempty]
    · simp [hnul, hempty]

theorem textError?_join (hdir : textError? dir = none) (hname : IsEntryName name) :
    textError? (join dir name) = none := by
  obtain ⟨hnul, hne⟩ := textError?_eq_none_iff.1 hdir
  obtain ⟨front, hjoin, hfront⟩ := toList_join hne name
  have hfront : '\x00' ∉ front := by
    rcases hfront with rfl | hfront
    · exact hnul
    · rw [hfront, List.mem_append, not_or] at hnul
      exact hnul.1
  refine textError?_eq_none_iff.2 ⟨?_, ?_⟩
  · rw [hjoin]
    simp [hfront, hname.no_nul]
  · intro h
    rw [h] at hjoin
    simp at hjoin

end Pathname

namespace FileTree

open Pathname

variable {t : FileTree} {dir : Location} {name : String}

/-- Where the names start is settled by the first of them. -/
theorem startOf_concat {here start : Location} {p : Pathname} {names : List String}
    (h : t.startOf here p = .ok (start, names)) (slash : Bool) :
    t.startOf here ⟨p.absolute, p.names ++ [name], slash⟩ = .ok (start, names ++ [name]) := by
  unfold startOf at h ⊢
  dsimp only at h ⊢
  cases habs : p.absolute with
  | false =>
    rw [habs] at h
    cases h
    rfl
  | true =>
    rw [habs] at h
    simp only [if_true] at h ⊢
    split at h
    next hprefix =>
      cases h
      rw [List.isPrefixOf_iff_prefix] at hprefix
      have hlonger := hprefix.trans (List.prefix_append _ [name])
      rw [if_pos (List.isPrefixOf_iff_prefix.2 hlonger),
        List.drop_append_of_le_length hprefix.length_le]
    · cases h

/-- With a further name behind it no name is refused for a slash. -/
theorem Enters.concat {first : String} {rest : List String} {slash : Bool}
    (h : Enters false first rest slash) (name : String) :
    Enters false first (rest ++ [name]) false :=
  { h with allowed := by rw [Bool.false_and, Bool.false_and] }

section Directory

variable (hdir : t.lookup dir = some .directory) (hname : IsEntryName name)
  (hl : t.lookup (dir ++ [name]) = some .directory)

include hdir hname hl

/-- **Names that lead to a directory lead on from there.** -/
theorem Walk.concat {n : Nat} {names : List String} {here : Location} {slash : Bool} {p : Place}
    (h : t.Walk false n here names slash p) (hp : p = .found dir) :
    t.Walk false n here (names ++ [name]) false (.found (dir ++ [name])) := by
  have hlast : ∀ {slash}, Enters false name [] slash :=
    ⟨hname.ne_here, hname.ne_above, rfl, hname.not_long⟩
  induction h with
  | arrived =>
    cases hp
    exact .down hlast hl .arrived
  | stay _ ih => exact .stay (ih hp)
  | up _ ih => exact .up (ih hp)
  | free => cases hp
  | file he hc =>
    -- The end of the way is a directory, so no file can be on it.
    cases hp
    rw [hc] at hdir
    cases hdir
  | down he hd _ ih => exact .down (he.concat name) hd (ih hp)
  | @link _ _ _ _ target _ rest _ _ he ht hst _ ih =>
    have hmore := ih hp
    rw [List.append_assoc] at hmore
    have hslash : (false || (rest ++ [name]).isEmpty && (ofText target).wantsDirectory) = false := by
      simp
    rw [List.cons_append]
    refine .link (he.concat name) ht hst ?_
    rwa [hslash]

/-- **A pathname leads on to a subdirectory.** -/
theorem place_join {path : String} (hp : t.place false path = .ok (.found dir)) :
    t.place false (join path name) = .ok (.found (dir ++ [name])) := by
  obtain ⟨ht, start, names, hst, hw⟩ := place_eq_ok_iff.1 hp
  have hne := (textError?_eq_none_iff.1 ht).2
  refine place_eq_ok_iff.2 ⟨textError?_join ht hname, start, names ++ [name], ?_, ?_⟩
  · rw [ofText_join hne hname]
    exact startOf_concat hst false
  · rw [ofText_join hne hname]
    exact hw.concat hdir hname hl rfl

end Directory

end FileTree

end DispatchLayer
