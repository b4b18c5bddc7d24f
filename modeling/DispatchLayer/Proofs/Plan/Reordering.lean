import DispatchLayer.Proofs.Plan.Repair
import Mathlib.Data.List.Perm.Lattice

/-!
# The order of a catalog

Entries are judged by the entries before them, so in another order other entries may be refused. How
many are refused is the same in every order. The forms of the accepted entries are pairwise
different, and they are the forms, other than the catch-all's, of the entries that are good on their
own account (`mem_forms_accepted_iff`). That description does not mention the order. So every order
accepts one entry for each of these forms, and refuses all others (`lower_reordered`).
-/

namespace DispatchLayer

/-- The entries that errors are about. -/
def Catalog.blamed (c : Catalog) (es : CatalogErrors) : List String :=
  es.errors.filterMap fun e => c.kinds[e.index]?

namespace Plan

/-- The entries that the pass refuses, in their order. -/
def refused (kinds : List String) : List String :=
  (kinds.zipIdx.filter fun entry => !accepts kinds entry).map Prod.fst

section Orders

variable {kinds kinds' : List String}

/-- **One entry for each form.** The forms of the accepted entries, said without their order: the
first entry of a form is accepted whatever stands before it. -/
theorem mem_forms_accepted_iff {form : String} :
    form ∈ (accepted kinds).map Text.snakeCase ↔
      form ≠ defaultForm ∧
        ∃ name ∈ kinds, standsAlone name = true ∧ Text.snakeCase name = form := by
  constructor
  · intro h
    obtain ⟨name, hm, rfl⟩ := List.mem_map.1 h
    obtain ⟨i, hi, ha⟩ := mem_accepted_iff.1 hm
    obtain ⟨hs, -, hd, -⟩ := accepts_iff.1 ha
    exact ⟨hd, name, List.mem_of_getElem? hi, hs, rfl⟩
  · rintro ⟨hd, name, hm, hs, hform⟩
    cases hh : holder? kinds form with
    | none => exact absurd hform (holder?_eq_none_iff.1 hh name hm hs)
    | some first =>
      obtain ⟨hfirst, front, back, hsplit, hfront⟩ := List.find?_eq_some_iff_append.1 hh
      simp only [Bool.and_eq_true, beq_iff_eq] at hfirst
      obtain ⟨halone, rfl⟩ := hfirst
      have hnone : holder? front (Text.snakeCase first) = none := by
        apply holder?_eq_none_iff.2
        intro n hn ha hf
        simpa [ha, hf] using hfront n hn
      -- No entry of that form stands before the first one, and so not the same name either.
      have hnot : first ∉ front := by
        intro hn
        exact holder?_eq_none_iff.1 hnone first hn halone rfl
      apply List.mem_map.2
      refine ⟨first, mem_accepted_iff.2 ⟨front.length, ?_, accepts_iff.2 ⟨halone, ?_⟩⟩, rfl⟩
      · simp [hsplit]
      · simp only [hsplit, List.take_left]
        exact ⟨hnot, hd, hnone⟩

/-- The same forms are accepted in every order. -/
theorem perm_forms_accepted (h : kinds.Perm kinds') :
    ((accepted kinds).map Text.snakeCase).Perm ((accepted kinds').map Text.snakeCase) := by
  apply (List.perm_ext_iff_of_nodup (admissible_accepted kinds).forms_nodup
    (admissible_accepted kinds').forms_nodup).2
  intro form
  simp only [mem_forms_accepted_iff, h.mem_iff]

/-- Every entry is either accepted or refused. -/
theorem perm_accepted_append_refused (kinds : List String) :
    (accepted kinds ++ refused kinds).Perm kinds := by
  have hsplit := (List.filter_append_perm (accepts kinds) kinds.zipIdx).map Prod.fst
  rw [List.map_append, List.zipIdx_map_fst] at hsplit
  exact hsplit

/-- As many entries of each form are refused in every order. -/
theorem perm_forms_refused (h : kinds.Perm kinds') :
    ((refused kinds).map Text.snakeCase).Perm ((refused kinds').map Text.snakeCase) := by
  -- All entries have the same forms in both orders, and so have the accepted ones.
  have hall := (perm_accepted_append_refused kinds).trans
    (h.trans (perm_accepted_append_refused kinds').symm)
  have hforms := hall.map Text.snakeCase
  rw [List.map_append, List.map_append] at hforms
  have hswap := (perm_forms_accepted h).symm.append_right ((refused kinds).map Text.snakeCase)
  exact (List.perm_append_left_iff _).1 (hswap.trans hforms)

theorem Admissible.perm (h : kinds.Perm kinds') (hk : Admissible kinds) : Admissible kinds' where
  alone := by
    intro name hm
    exact hk.alone name (h.mem_iff.2 hm)
  forms_nodup := (h.map Text.snakeCase).nodup_iff.1 hk.forms_nodup
  no_default := by
    intro name hm
    exact hk.no_default name (h.mem_iff.2 hm)

end Orders

/-! ## The errors of a catalog and its refused entries -/

/-- The errors are about the refused entries, and each about one of them. -/
theorem blamed_eq_refused {c : Catalog} {es : CatalogErrors}
    (h : es.errors = errorsOf (verdicts c)) :
    c.blamed es = refused c.kinds ∧ es.size = (refused c.kinds).length := by
  have hindices := indices_errorsOf_verdicts c
  rw [← h] at hindices
  constructor
  · have hblamed : c.blamed es = (es.errors.map CatalogError.index).filterMap (c.kinds[·]?) := by
      rw [List.filterMap_map]
      rfl
    rw [hblamed, hindices, List.filterMap_map, refused, ← List.filterMap_eq_map]
    apply List.filterMap_congr
    intro entry hm
    exact getElem?_of_mem_zipIdx (List.mem_of_mem_filter hm)
  · have hlength := congrArg List.length hindices
    simpa [refused, CatalogErrors.size] using hlength

/-- **The order of a catalog only matters for the order of what is made of it.** Of two catalogs with
the same entries in different orders both are lowered or none is. If they are lowered, the kinds of
one plan are those of the other, rearranged as the entries are. If they are not, there are as many
errors for one as for the other, and they blame entries of the same snake-case forms; only which of
the entries of a form is blamed depends on the order. -/
theorem lower_reordered {c c' : Catalog} (h : c.kinds.Perm c'.kinds) (moduleId astPath : String) :
    ((∃ plan, c.lower moduleId astPath = .ok plan) ↔
        ∃ plan, c'.lower moduleId astPath = .ok plan) ∧
      (∀ plan plan', c.lower moduleId astPath = .ok plan → c'.lower moduleId astPath = .ok plan' →
        plan.kinds.Perm plan'.kinds ∧
          ∀ σ : Nat → Nat, (∀ i < c'.kinds.length, c'.kinds[i]? = c.kinds[σ i]?) →
            ∀ i < plan'.kinds.length, plan'.kinds[i]? = plan.kinds[σ i]?) ∧
      ∀ es es', c.lower moduleId astPath = .error es → c'.lower moduleId astPath = .error es' →
        es.size = es'.size ∧
          ((c.blamed es).map Text.snakeCase).Perm ((c'.blamed es').map Text.snakeCase) := by
  refine ⟨?_, ?_, ?_⟩
  · constructor
    · rintro ⟨plan, hl⟩
      exact ⟨_, lower_eq_ok_iff.2 ⟨(lower_eq_ok_iff.1 hl).1.perm h, rfl⟩⟩
    · rintro ⟨plan, hl⟩
      exact ⟨_, lower_eq_ok_iff.2 ⟨(lower_eq_ok_iff.1 hl).1.perm h.symm, rfl⟩⟩
  · intro plan plan' hl hl'
    obtain ⟨-, rfl⟩ := lower_eq_ok_iff.1 hl
    obtain ⟨-, rfl⟩ := lower_eq_ok_iff.1 hl'
    refine ⟨h.map KindNames.ofName, ?_⟩
    intro σ hσ i hi
    rw [List.length_map] at hi
    simp only [List.getElem?_map, hσ i hi]
  · intro es es' hl hl'
    -- The errors are about the refused entries, which have the same forms in both orders.
    obtain ⟨hb, hs⟩ := blamed_eq_refused (lower_eq_error_iff.1 hl).2
    obtain ⟨hb', hs'⟩ := blamed_eq_refused (lower_eq_error_iff.1 hl').2
    have hforms := perm_forms_refused h
    constructor
    · have hlength := hforms.length_eq
      rw [List.length_map, List.length_map] at hlength
      rw [hs, hs', hlength]
    · rw [hb, hb']
      exact hforms

/-- Two kinds with one form, and a reserved one. In either order two entries are refused, but of the
two kinds it is the one that comes later. -/
theorem lower_reordered_collision :
    let c := Catalog.explicit ["ExprCall", "Other", "Expr_Call"]
    let c' := Catalog.explicit ["Expr_Call", "ExprCall", "Other"]
    ∃ es es', c.lower "m" "syn" = .error es ∧ c'.lower "m" "syn" = .error es' ∧
      es.size = es'.size ∧ c.blamed es = ["Other", "Expr_Call"] ∧
        c'.blamed es' = ["ExprCall", "Other"] := by
  intro c c'
  have hl : c.lower "m" "syn" = .error ⟨[.reserved 1 "Other",
      .nameCollision 2 "Expr_Call" "ExprCall" "expr_call"]⟩ := by
    decide +kernel
  have hl' : c'.lower "m" "syn" = .error ⟨[.nameCollision 1 "ExprCall" "Expr_Call" "expr_call",
      .reserved 2 "Other"]⟩ := by
    decide +kernel
  have hperm : c.kinds.Perm c'.kinds := by decide
  obtain ⟨-, -, herrors⟩ := lower_reordered hperm "m" "syn"
  exact ⟨_, _, hl, hl', (herrors _ _ hl hl').1, rfl, rfl⟩

end Plan

end DispatchLayer
