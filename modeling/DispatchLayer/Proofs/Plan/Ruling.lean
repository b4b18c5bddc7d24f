import DispatchLayer.Plan
import Mathlib.Data.List.Nodup

/-!
# The verdict on an entry, read off the entries before it

Lowering goes through a catalog with two collections at its side: the names that were good on their
own account, and the snake-case forms of the kinds accepted. `ruling` gives the verdict on an entry
from the list of the entries before it and nothing else. The collections agree with that list all
along (`Taken.Tracks`), so the two verdicts are the same at every index (`verdicts_getElem?`).

A catalog is lowered exactly if its entries are good on their own account, their snake-case forms
are pairwise different, and none of the forms is the catch-all's (`lower_eq_ok_iff`).
-/

namespace DispatchLayer.Plan

/-- Nothing is wrong with an entry on its own account. -/
def standsAlone (name : String) : Bool :=
  !name.isEmpty && !name.toList.contains '#' && isPlainName name && !Naming.isReservedKind name

/-- The snake-case form that the catch-all's slot leaves to no kind. -/
def defaultForm : String := "default"

/-- The first entry that is good on its own account and has a given snake-case form. -/
def holder? (before : List String) (form : String) : Option String :=
  before.find? fun name => standsAlone name && Text.snakeCase name == form

/-- The verdict on an entry, given the entries before it. -/
def ruling (before : List String) (index : Nat) (name : String) : Except CatalogError KindNames :=
  match entryError? index name with
  | some e => .error e
  | none =>
    if name ∈ before then .error (.duplicate index name)
    else if Text.snakeCase name = defaultForm then .error (.reserved index name)
    else
      match holder? before (Text.snakeCase name) with
      | some other => .error (.nameCollision index name other (Text.snakeCase name))
      | none => .ok (KindNames.ofName name)

theorem entryError?_eq_none_iff {index : Nat} {name : String} :
    entryError? index name = none ↔ standsAlone name = true := by
  unfold entryError? standsAlone
  cases name.isEmpty with
  | true => simp
  | false =>
    cases name.toList.contains '#' with
    | true => simp
    | false =>
      cases isPlainName name with
      | false => simp
      | true => simp

/-- The catch-all's slot belongs to one snake-case form. -/
theorem slot_eq_defaultSlot_iff {name : String} :
    (KindNames.ofName name).slot = Naming.defaultSlot ↔ Text.snakeCase name = defaultForm := by
  show "h_" ++ Text.snakeCase name = "h_" ++ "default" ↔ Text.snakeCase name = "default"
  constructor
  · intro h
    have hl := congrArg String.toList h
    rw [String.toList_append, String.toList_append, List.append_right_inj] at hl
    exact String.toList_injective hl
  · intro h
    rw [h]

/-! ## Holders -/

theorem holder?_append (before : List String) (name form : String) :
    holder? (before ++ [name]) form =
      (holder? before form).or
        (if standsAlone name && Text.snakeCase name == form then some name else none) := by
  unfold holder?
  rw [List.find?_append, List.find?_singleton]

theorem holder?_append_of_ne {before : List String} {name form : String}
    (h : Text.snakeCase name ≠ form) : holder? (before ++ [name]) form = holder? before form := by
  rw [holder?_append]
  simp [h]

theorem holder?_append_of_not_standsAlone {before : List String} {name form : String}
    (h : standsAlone name = false) : holder? (before ++ [name]) form = holder? before form := by
  rw [holder?_append]
  simp [h]

/-- A form that is held stays with its holder. -/
theorem holder?_append_of_some {before : List String} {name form other : String}
    (h : holder? before form = some other) : holder? (before ++ [name]) form = some other := by
  rw [holder?_append, h]
  rfl

theorem holder?_eq_none_iff {before : List String} {form : String} :
    holder? before form = none ↔
      ∀ name ∈ before, standsAlone name = true → Text.snakeCase name ≠ form := by
  unfold holder?
  rw [List.find?_eq_none]
  simp

/-! ## The collections follow the entries -/

/-- The two collections after some entries, said in terms of the entries. The form of the catch-all
is left open: no kind of that form is accepted, and it is never looked up. -/
structure Taken.Tracks (taken : Taken) (before : List String) : Prop where
  mem_names : ∀ name, name ∈ taken.names ↔ name ∈ before ∧ standsAlone name = true
  lookup_forms : ∀ form, form ≠ defaultForm → taken.forms.lookup form = holder? before form

theorem tracks_nil : Taken.Tracks ⟨[], []⟩ [] where
  mem_names := by simp
  lookup_forms := by
    intro form _
    rfl

section Step

variable {taken : Taken} {before : List String} {index : Nat} {name : String}

theorem verdict_eq_ruling (ht : taken.Tracks before) :
    verdict taken index name = ruling before index name := by
  unfold verdict ruling
  cases he : entryError? index name with
  | some e => rfl
  | none =>
    have ha := entryError?_eq_none_iff.1 he
    have hm : taken.names.contains name = true ↔ name ∈ before := by
      rw [List.contains_iff_mem, ht.mem_names]
      simp [ha]
    simp only [hm, slot_eq_defaultSlot_iff]
    by_cases hd : Text.snakeCase name = defaultForm
    · rw [if_pos hd, if_pos hd]
    · have hl := ht.lookup_forms _ hd
      cases hh : holder? before (Text.snakeCase name) with
      | some other => simp only [if_neg hd, hl, hh]
      | none => simp only [if_neg hd, hl, hh]

/-- What becomes of the collections at an entry that is good on its own account: its name is among
the names, and its form is added exactly if it is accepted. -/
theorem after_of_standsAlone (ha : standsAlone name = true) :
    (∀ n, n ∈ (taken.after index name).names ↔ n = name ∨ n ∈ taken.names) ∧
      (taken.after index name).forms =
        match verdict taken index name with
        | .ok _ => (Text.snakeCase name, name) :: taken.forms
        | .error _ => taken.forms := by
  have he : entryError? index name = none := entryError?_eq_none_iff.2 ha
  have hn : ∀ n, n ∈ (if taken.names.contains name then taken.names else name :: taken.names) ↔
      n = name ∨ n ∈ taken.names := by
    intro n
    by_cases hc : name ∈ taken.names
    · rw [if_pos (List.contains_iff_mem.2 hc)]
      constructor
      · exact Or.inr
      · rintro (rfl | h)
        · exact hc
        · exact h
    · rw [if_neg (by simpa using hc), List.mem_cons]
  unfold Taken.after
  rw [he]
  -- The names are kept for a refused entry too; only the forms look at the verdict.
  cases verdict taken index name with
  | ok k => exact ⟨hn, rfl⟩
  | error e => exact ⟨hn, rfl⟩

theorem after_of_not_standsAlone (ha : standsAlone name = false) :
    taken.after index name = taken := by
  unfold Taken.after
  cases he : entryError? index name with
  | some e => rfl
  | none => simp [entryError?_eq_none_iff.1 he] at ha

/-- The forms after an entry that is good on its own account. -/
theorem lookup_forms_after (ht : taken.Tracks before) (ha : standsAlone name = true)
    {form : String} (hf : form ≠ defaultForm) :
    (taken.after index name).forms.lookup form = holder? (before ++ [name]) form := by
  have he : entryError? index name = none := entryError?_eq_none_iff.2 ha
  rw [(after_of_standsAlone ha).2, verdict_eq_ruling ht]
  by_cases hs : Text.snakeCase name = form
  · subst hs
    cases hh : holder? before (Text.snakeCase name) with
    | some other =>
      -- The form is taken: whatever the refusal is, nothing is added.
      have hr : ∃ e, ruling before index name = .error e := by
        unfold ruling
        rw [he, hh]
        by_cases hm : name ∈ before <;> simp [hm, hf]
      obtain ⟨e, hr⟩ := hr
      rw [hr, holder?_append_of_some hh]
      exact (ht.lookup_forms _ hf).trans hh
    | none =>
      -- A name listed before would hold the form itself, so the entry is accepted.
      have hm : name ∉ before := fun hm => holder?_eq_none_iff.1 hh name hm ha rfl
      have hr : ruling before index name = .ok (KindNames.ofName name) := by
        unfold ruling
        simp only [he, hh, if_neg hm, if_neg hf]
      rw [hr, holder?_append, hh]
      simp [ha]
  · rw [holder?_append_of_ne hs, ← ht.lookup_forms _ hf]
    -- Whether the entry is accepted or not, this form is not the one it brings.
    cases ruling before index name with
    | error e => rfl
    | ok k =>
      have hne : (form == Text.snakeCase name) = false := by simp [Ne.symm hs]
      simp only [List.lookup_cons, hne]

/-- **Each entry keeps the collections in step with the entries.** -/
theorem tracks_after (ht : taken.Tracks before) (index : Nat) (name : String) :
    (taken.after index name).Tracks (before ++ [name]) := by
  cases ha : standsAlone name with
  | false =>
    rw [after_of_not_standsAlone ha]
    constructor
    · intro n
      rw [ht.mem_names, List.mem_append, List.mem_singleton]
      constructor
      · rintro ⟨hm, hn⟩
        exact ⟨Or.inl hm, hn⟩
      · rintro ⟨hm | rfl, hn⟩
        · exact ⟨hm, hn⟩
        · simp [ha] at hn
    · intro form hf
      rw [holder?_append_of_not_standsAlone ha]
      exact ht.lookup_forms form hf
  | true =>
    constructor
    · intro n
      rw [(after_of_standsAlone ha).1, ht.mem_names, List.mem_append, List.mem_singleton]
      constructor
      · rintro (rfl | ⟨hm, hn⟩)
        · exact ⟨Or.inr rfl, ha⟩
        · exact ⟨Or.inl hm, hn⟩
      · rintro ⟨hm | rfl, hn⟩
        · exact Or.inr ⟨hm, hn⟩
        · exact Or.inl rfl
    · intro form hf
      exact lookup_forms_after ht ha hf

end Step

theorem verdictsFrom_getElem? {taken : Taken} {before : List String} (ht : taken.Tracks before)
    (rest : List String) (i : Nat) :
    (verdictsFrom taken before.length rest)[i]? =
      rest[i]?.map (ruling (before ++ rest.take i) (before.length + i)) := by
  -- The collections move on with the entries; that they track them is what carries over.
  induction rest generalizing taken before i with
  | nil => rfl
  | cons name rest ih =>
    unfold verdictsFrom
    cases i with
    | zero => simp [verdict_eq_ruling ht]
    | succ i =>
      have key := ih (tracks_after ht before.length name) i
      rw [List.length_append, List.length_singleton] at key
      simp only [List.getElem?_cons_succ, List.take_succ_cons]
      rw [key, List.append_assoc, List.singleton_append, Nat.add_assoc, Nat.add_comm 1 i]

/-- **The verdict at an index looks at the entries before it and at nothing else.** -/
theorem verdicts_getElem? (c : Catalog) (i : Nat) :
    (verdicts c)[i]? = c.kinds[i]?.map (ruling (c.kinds.take i) i) := by
  have h := verdictsFrom_getElem? tracks_nil c.kinds i
  simpa [verdicts] using h

/-! ## Catalogs that are lowered -/

/-- What the entries of a catalog have to be for the catalog to be lowered. -/
structure Admissible (kinds : List String) : Prop where
  alone : ∀ name ∈ kinds, standsAlone name = true
  forms_nodup : (kinds.map Text.snakeCase).Nodup
  no_default : ∀ name ∈ kinds, Text.snakeCase name ≠ defaultForm

theorem admissible_iff {kinds : List String} :
    Admissible kinds ↔ (∀ name ∈ kinds, standsAlone name = true) ∧
      (kinds.map Text.snakeCase).Nodup ∧ ∀ name ∈ kinds, Text.snakeCase name ≠ defaultForm :=
  ⟨fun h => ⟨h.alone, h.forms_nodup, h.no_default⟩, fun ⟨h1, h2, h3⟩ => ⟨h1, h2, h3⟩⟩

instance (kinds : List String) : Decidable (Admissible kinds) :=
  decidable_of_iff _ admissible_iff.symm

theorem ruling_eq_ok_iff {before : List String} {index : Nat} {name : String} {k : KindNames} :
    ruling before index name = .ok k ↔
      k = KindNames.ofName name ∧ standsAlone name = true ∧ name ∉ before ∧
        Text.snakeCase name ≠ defaultForm ∧ holder? before (Text.snakeCase name) = none := by
  unfold ruling
  cases he : entryError? index name with
  | some e =>
    have ha : standsAlone name ≠ true := fun ha => by
      simp [entryError?_eq_none_iff.2 ha] at he
    simp [ha]
  | none =>
    have ha := entryError?_eq_none_iff.1 he
    by_cases hm : name ∈ before
    · simp [hm]
    · by_cases hd : Text.snakeCase name = defaultForm
      · simp [hm, hd]
      · cases holder? before (Text.snakeCase name) with
        | some other => simp [hm, hd]
        | none => simp [hm, hd, ha, eq_comm]

/-- Every entry of an admissible catalog is accepted. -/
theorem Admissible.ruling {kinds : List String} (h : Admissible kinds) {i : Nat} {name : String}
    (hi : kinds[i]? = some name) :
    ruling (kinds.take i) i name = .ok (KindNames.ofName name) := by
  obtain ⟨hlt, rfl⟩ := List.getElem?_eq_some_iff.1 hi
  -- Distinct forms leave no earlier entry with the form of this one.
  have hforms : ∀ n ∈ kinds.take i, Text.snakeCase n ≠ Text.snakeCase kinds[i] := by
    intro n hn
    obtain ⟨j, hj, rfl⟩ := List.mem_take_iff_getElem.1 hn
    have hp := List.pairwise_iff_getElem.1 h.forms_nodup j i (by simp; omega) (by simpa) (by omega)
    simpa using hp
  refine ruling_eq_ok_iff.2 ⟨rfl, h.alone _ (List.getElem_mem hlt), ?_, ?_, ?_⟩
  · exact fun hm => hforms _ hm rfl
  · exact h.no_default _ (List.getElem_mem hlt)
  · exact holder?_eq_none_iff.2 fun n hn _ => hforms n hn

/-- A catalog whose entries are all accepted is admissible. -/
theorem admissible_of_rulings {kinds : List String}
    (h : ∀ i name, kinds[i]? = some name → ∃ k, Plan.ruling (kinds.take i) i name = .ok k) :
    Admissible kinds := by
  have hr : ∀ i (hi : i < kinds.length), standsAlone kinds[i] = true ∧
      Text.snakeCase kinds[i] ≠ defaultForm ∧
        holder? (kinds.take i) (Text.snakeCase kinds[i]) = none := by
    intro i hi
    obtain ⟨k, hk⟩ := h i kinds[i] (List.getElem?_eq_getElem hi)
    obtain ⟨-, ha, -, hd, hh⟩ := ruling_eq_ok_iff.1 hk
    exact ⟨ha, hd, hh⟩
  constructor
  · intro name hm
    obtain ⟨i, hi, rfl⟩ := List.getElem_of_mem hm
    exact (hr i hi).1
  · -- Of two entries with one form, the later one would have found the earlier as its holder.
    refine List.pairwise_iff_getElem.2 fun i j hi hj hij => ?_
    rw [List.length_map] at hi hj
    rw [List.getElem_map, List.getElem_map]
    have hmem : kinds[i] ∈ kinds.take j := List.mem_take_iff_getElem.2 ⟨i, by omega, rfl⟩
    exact holder?_eq_none_iff.1 (hr j hj).2.2 _ hmem (hr i hi).1
  · intro name hm
    obtain ⟨i, hi, rfl⟩ := List.getElem_of_mem hm
    exact (hr i hi).2.1

theorem errorsOf_eq_nil_iff {vs : List (Except CatalogError KindNames)} :
    errorsOf vs = [] ↔ ∀ v ∈ vs, ∃ k, v = .ok k := by
  unfold errorsOf
  rw [List.filterMap_eq_nil_iff]
  constructor
  · intro h v hv
    cases v with
    | ok k => exact ⟨k, rfl⟩
    | error e => simpa using h _ hv
  · intro h v hv
    obtain ⟨k, rfl⟩ := h v hv
    rfl

theorem Admissible.verdicts {c : Catalog} (h : Admissible c.kinds) :
    verdicts c = c.kinds.map fun name => .ok (KindNames.ofName name) := by
  apply List.ext_getElem?
  intro i
  rw [verdicts_getElem?, List.getElem?_map]
  cases hi : c.kinds[i]? with
  | none => rfl
  | some name =>
    rw [Option.map_some, Option.map_some, h.ruling hi]

theorem errorsOf_verdicts_eq_nil_iff {c : Catalog} :
    errorsOf (verdicts c) = [] ↔ Admissible c.kinds := by
  rw [errorsOf_eq_nil_iff]
  constructor
  · intro h
    refine admissible_of_rulings fun i name hi => ?_
    have hv : (Plan.verdicts c)[i]? = some (Plan.ruling (c.kinds.take i) i name) := by
      rw [verdicts_getElem?, hi]
      rfl
    exact h _ (List.mem_of_getElem? hv)
  · intro h v hv
    rw [h.verdicts] at hv
    obtain ⟨name, -, rfl⟩ := List.mem_map.1 hv
    exact ⟨_, rfl⟩

/-- **Which catalogs are lowered, and to what.** -/
theorem lower_eq_ok_iff {c : Catalog} {moduleId astPath : String} {plan : DispatchPlan} :
    c.lower moduleId astPath = .ok plan ↔
      Admissible c.kinds ∧ plan = ⟨moduleId, astPath, c.kinds.map KindNames.ofName⟩ := by
  unfold Catalog.lower CatalogErrors.ofList?
  by_cases h : Admissible c.kinds
  · have hk : kindsOf (verdicts c) = c.kinds.map KindNames.ofName := by
      rw [h.verdicts]
      unfold kindsOf
      rw [List.filterMap_map]
      show List.filterMap (fun name => some (KindNames.ofName name)) c.kinds = _
      rw [List.filterMap_eq_map']
    simp [errorsOf_verdicts_eq_nil_iff.2 h, hk, h, eq_comm]
  · have he : (errorsOf (verdicts c)).isEmpty = false := by
      rw [List.isEmpty_eq_false_iff]
      exact fun hn => h (errorsOf_verdicts_eq_nil_iff.1 hn)
    simp [he, h]

end DispatchLayer.Plan
