import DispatchLayer.Proofs.Plan.Classification

/-!
# Repairing a catalog by deletion

The entries that the pass accepts are a catalog that is lowered (`admissible_accepted`). That the
refused ones are gone makes no difference to them. An entry is judged by those entries before it that
are good on their own account, and a refused one among them has the form of the catch-all, or that of
an earlier entry which was accepted and is still there.

So the errors of a catalog are about every entry that has to go, and deleting these entries leaves
nothing to report (`lower_without_refused`).
-/

namespace DispatchLayer

/-- The catalog without the entries at some indices. -/
def Catalog.without (c : Catalog) (indices : List Nat) : Catalog :=
  ⟨(c.kinds.zipIdx.filter fun entry => entry.2 ∉ indices).map Prod.fst, c.source⟩

namespace Plan

/-- Whether the pass accepts an entry, given with its index. -/
def accepts (kinds : List String) (entry : String × Nat) : Bool :=
  (ruling (kinds.take entry.2) entry.2 entry.1).isOk

/-- The entries that the pass accepts, in their order. -/
def accepted (kinds : List String) : List String :=
  (kinds.zipIdx.filter (accepts kinds)).map Prod.fst

section Accepted

variable {kinds : List String}

theorem getElem?_of_mem_zipIdx {entry : String × Nat} (h : entry ∈ kinds.zipIdx) :
    kinds[entry.2]? = some entry.1 :=
  List.mem_zipIdx_iff_getElem?.1 h

theorem accepts_iff {entry : String × Nat} :
    accepts kinds entry = true ↔
      standsAlone entry.1 = true ∧ entry.1 ∉ kinds.take entry.2 ∧
        Text.snakeCase entry.1 ≠ defaultForm ∧
        holder? (kinds.take entry.2) (Text.snakeCase entry.1) = none := by
  unfold accepts
  constructor
  · intro h
    cases hr : ruling (kinds.take entry.2) entry.2 entry.1 with
    | error e => simp [hr, Except.isOk, Except.toBool] at h
    | ok k => exact (ruling_eq_ok_iff.1 hr).2
  · intro h
    rw [ruling_eq_ok_iff.2 ⟨rfl, h⟩]
    rfl

/-- What is accepted is accepted with the names derived from it. -/
theorem ruling_of_accepts {entry : String × Nat} (h : accepts kinds entry = true) :
    ruling (kinds.take entry.2) entry.2 entry.1 = .ok (KindNames.ofName entry.1) :=
  ruling_eq_ok_iff.2 ⟨rfl, accepts_iff.1 h⟩

theorem mem_accepted_iff {name : String} :
    name ∈ accepted kinds ↔ ∃ i, kinds[i]? = some name ∧ accepts kinds (name, i) = true := by
  unfold accepted
  constructor
  · intro h
    obtain ⟨entry, hm, rfl⟩ := List.mem_map.1 h
    obtain ⟨hz, ha⟩ := List.mem_filter.1 hm
    exact ⟨entry.2, getElem?_of_mem_zipIdx hz, ha⟩
  · rintro ⟨i, hi, ha⟩
    refine List.mem_map.2 ⟨(name, i), ?_, rfl⟩
    exact List.mem_filter.2 ⟨List.mem_zipIdx_iff_getElem?.2 hi, ha⟩

/-- An accepted entry has not the form of any accepted entry before it. -/
theorem pairwise_forms_of_accepts :
    (kinds.zipIdx.filter (accepts kinds)).Pairwise fun a b =>
      Text.snakeCase a.1 ≠ Text.snakeCase b.1 := by
  have hlt : (kinds.zipIdx.filter (accepts kinds)).Pairwise fun a b => a.2 < b.2 := by
    refine List.Pairwise.filter _ ?_
    rw [List.pairwise_iff_getElem]
    intro i j hi hj hij
    rw [List.getElem_zipIdx, List.getElem_zipIdx]
    simpa using hij
  refine hlt.imp_of_mem fun {a b} ha hb hab => ?_
  obtain ⟨haz, haa⟩ := List.mem_filter.1 ha
  obtain ⟨hbz, hba⟩ := List.mem_filter.1 hb
  -- The earlier entry is among those that the later one was judged by.
  have hmem : a.1 ∈ kinds.take b.2 := by
    obtain ⟨hlt, hget⟩ := List.getElem?_eq_some_iff.1 (getElem?_of_mem_zipIdx haz)
    exact List.mem_take_iff_getElem.2 ⟨a.2, by omega, hget⟩
  obtain ⟨-, -, -, hholder⟩ := accepts_iff.1 hba
  exact holder?_eq_none_iff.1 hholder a.1 hmem (accepts_iff.1 haa).1

/-- **The accepted entries are a catalog of which every entry is accepted.** -/
theorem admissible_accepted (kinds : List String) : Admissible (accepted kinds) where
  alone := by
    intro name hm
    obtain ⟨i, -, ha⟩ := mem_accepted_iff.1 hm
    exact (accepts_iff.1 ha).1
  forms_nodup := by
    unfold accepted
    rw [List.map_map, List.Nodup, List.pairwise_map]
    exact pairwise_forms_of_accepts
  no_default := by
    intro name hm
    obtain ⟨i, -, ha⟩ := mem_accepted_iff.1 hm
    exact (accepts_iff.1 ha).2.2.1

end Accepted

/-! ## The accepted entries and the verdicts -/

theorem verdicts_eq_map_zipIdx (c : Catalog) :
    verdicts c = c.kinds.zipIdx.map fun entry =>
      ruling (c.kinds.take entry.2) entry.2 entry.1 := by
  apply List.ext_getElem?
  intro i
  rw [verdicts_getElem?, List.getElem?_map, List.getElem?_zipIdx, Option.map_map]
  simp [Function.comp_def]

/-- The kinds among the verdicts are those of the accepted entries. -/
theorem kindsOf_verdicts (c : Catalog) :
    kindsOf (verdicts c) = (accepted c.kinds).map KindNames.ofName := by
  unfold kindsOf accepted
  rw [verdicts_eq_map_zipIdx, List.filterMap_map, List.map_map, ← List.filterMap_eq_map,
    List.filterMap_filter]
  refine List.filterMap_congr fun entry _ => ?_
  cases ha : accepts c.kinds entry with
  | true => simp [Function.comp_apply, ruling_of_accepts ha]
  | false =>
    unfold accepts at ha
    cases hr : ruling (c.kinds.take entry.2) entry.2 entry.1 with
    | error e => simp [Function.comp_apply, hr]
    | ok k => simp [hr, Except.isOk, Except.toBool] at ha

/-- The errors are about the refused entries, in their order. -/
theorem indices_errorsOf_verdicts (c : Catalog) :
    (errorsOf (verdicts c)).map CatalogError.index =
      (c.kinds.zipIdx.filter fun entry => !accepts c.kinds entry).map Prod.snd := by
  rw [errorsOf, verdicts_eq_map_zipIdx, List.filterMap_map, List.map_filterMap,
    ← List.filterMap_eq_map, List.filterMap_filter]
  apply List.filterMap_congr
  intro entry _
  cases hr : ruling (c.kinds.take entry.2) entry.2 entry.1 with
  | ok k => simp [accepts, hr, Except.isOk, Except.toBool]
  | error e => simp [accepts, hr, Except.isOk, Except.toBool, index_of_ruling hr]

/-- An index is that of an error exactly if the entry there is refused. -/
theorem mem_indices_errorsOf_iff {c : Catalog} {entry : String × Nat}
    (h : entry ∈ c.kinds.zipIdx) :
    entry.2 ∈ (errorsOf (verdicts c)).map CatalogError.index ↔ accepts c.kinds entry = false := by
  rw [indices_errorsOf_verdicts, List.mem_map]
  constructor
  · rintro ⟨other, hm, hi⟩
    obtain ⟨hz, ha⟩ := List.mem_filter.1 hm
    -- There is one entry at the index.
    have hname := getElem?_of_mem_zipIdx hz
    rw [hi, getElem?_of_mem_zipIdx h] at hname
    obtain rfl : entry = other := Prod.ext (Option.some.inj hname) hi.symm
    simpa using ha
  · intro ha
    exact ⟨entry, List.mem_filter.2 ⟨h, by simp [ha]⟩, rfl⟩

/-- What is left without the refused entries are the accepted ones. -/
theorem without_refused (c : Catalog) :
    (c.without ((errorsOf (verdicts c)).map CatalogError.index)).kinds = accepted c.kinds := by
  apply congrArg (List.map Prod.fst)
  apply List.filter_congr
  intro entry hm
  have key := mem_indices_errorsOf_iff hm
  cases ha : accepts c.kinds entry with
  | true => simp [key, ha]
  | false => simp [key, ha]

/-- **One round of deletion repairs a catalog.** Without exactly the entries that the errors of a
catalog are about, the catalog is lowered. The plan has the names of the entries left, in their
order, and they are the names these entries were accepted with the first time: nothing that was
accepted depended on a refused entry, and no error was hidden by another. -/
theorem lower_without_refused {c : Catalog} {moduleId astPath : String} {es : CatalogErrors}
    (h : c.lower moduleId astPath = .error es) :
    (c.without (es.errors.map CatalogError.index)).lower moduleId astPath =
        .ok ⟨moduleId, astPath,
          (c.without (es.errors.map CatalogError.index)).kinds.map KindNames.ofName⟩ ∧
      (c.without (es.errors.map CatalogError.index)).kinds.map KindNames.ofName =
        kindsOf (verdicts c) := by
  obtain ⟨-, herrors⟩ := lower_eq_error_iff.1 h
  have hkept : (c.without (es.errors.map CatalogError.index)).kinds = accepted c.kinds := by
    rw [herrors]
    exact without_refused c
  constructor
  · refine lower_eq_ok_iff.2 ⟨?_, rfl⟩
    rw [hkept]
    exact admissible_accepted c.kinds
  · rw [hkept]
    exact (kindsOf_verdicts c).symm

/-- A list in which a refused entry comes before, between and after accepted ones. -/
def damaged : Catalog := .explicit ["DEFAULT", "ExprCall", "", "Expr_Call", "Default", "Type"]

/-- Deleting the four refused entries of a list leaves two that are accepted. -/
theorem lower_without_refused_damaged :
    damaged.lower "m" "syn" = .error ⟨[.reserved 0 "DEFAULT", .emptyEntry 2,
        .nameCollision 3 "Expr_Call" "ExprCall" "expr_call", .reserved 4 "Default"]⟩ ∧
      (damaged.without [0, 2, 3, 4]).kinds = ["ExprCall", "Type"] ∧
      (damaged.without [0, 2, 3, 4]).lower "m" "syn" =
        .ok ⟨"m", "syn", ["ExprCall", "Type"].map KindNames.ofName⟩ := by
  have hl : damaged.lower "m" "syn" = .error ⟨[.reserved 0 "DEFAULT", .emptyEntry 2,
      .nameCollision 3 "Expr_Call" "ExprCall" "expr_call", .reserved 4 "Default"]⟩ := by
    decide +kernel
  exact ⟨hl, rfl, (lower_without_refused hl).1⟩

end Plan

end DispatchLayer
