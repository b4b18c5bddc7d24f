import DispatchLayer.Proofs.Plan.Ruling
import DispatchLayer.Proofs.Text.SnakeCase

/-!
# The derived names of a plan

Lowering compares snake-case forms and nothing else, and refuses the form of the catch-all. All
columns of a plan are distinct because of it (`derived_names_distinct`): the names because equal
names have equal forms, the slots and registration methods because a common front part is put before
the form, and the methods because a keyword's spelling can be taken back.

Taking it back (`Keyword.bareWord`) rests on what a snake-case form cannot look like: it holds no
hash sign and does not end in an underscore (`Keyword.Unmarked`), so the two marks that a keyword is
given stay visible.
-/

namespace DispatchLayer

namespace Keyword

/-- A word on which the marks of escaping would show. -/
structure Unmarked (word : String) : Prop where
  no_hash : '#' ∉ word.toList
  no_line : word.toList.getLast? ≠ some '_'

theorem unmarked_snakeCase (name : String) : Unmarked (Text.snakeCase name) where
  no_hash := by
    unfold Text.snakeCase
    rw [String.toList_ofList]
    exact Text.hash_not_mem_snakeChars name.toList
  no_line := by
    unfold Text.snakeCase
    rw [String.toList_ofList]
    exact Text.getLast?_snakeChars name.toList

/-- The three ways in which a word is spelled. -/
theorem escape_cases (word : String) :
    (word ∈ neverRaw ∧ escape word = word ++ "_") ∨
      (word ∉ neverRaw ∧ word ∈ escaped ∧ escape word = "r#" ++ word) ∨
        (word ∉ neverRaw ∧ word ∉ escaped ∧ escape word = word) := by
  unfold escape isKeyword
  by_cases hn : word ∈ neverRaw
  · simp [hn]
  · by_cases he : word ∈ escaped
    · simp [hn, he]
    · simp [hn, he]

/-- The word behind its spelling: a raw mark or an underscore at the end is taken away. -/
def bareWord (spelling : List Char) : List Char :=
  if '#' ∈ spelling then spelling.drop 2
  else if spelling.getLast? = some '_' then spelling.dropLast
  else spelling

/-- **Escaping can be taken back** from the words that bear no marks of their own. -/
theorem bareWord_escape {word : String} (h : Unmarked word) :
    bareWord (escape word).toList = word.toList := by
  unfold bareWord
  rcases escape_cases word with ⟨-, he⟩ | ⟨-, -, he⟩ | ⟨-, -, he⟩
  · -- The underscore at the end is the mark, for the word has no hash sign to mislead.
    have hh : '#' ∉ word.toList ++ ['_'] := by simp [h.no_hash]
    rw [he, String.toList_append]
    show (if '#' ∈ word.toList ++ ['_'] then _ else _) = _
    rw [if_neg hh, if_pos (by simp)]
    exact List.dropLast_concat
  · rw [he, String.toList_append]
    exact if_pos (by simp)
  · rw [he, if_neg h.no_hash, if_neg h.no_line]

theorem escape_inj {a b : String} (ha : Unmarked a) (hb : Unmarked b)
    (h : escape a = escape b) : a = b := by
  apply String.toList_injective
  rw [← bareWord_escape ha, ← bareWord_escape hb, h]

end Keyword

namespace Plan

theorem not_reserved_of_standsAlone {name : String} (h : standsAlone name = true) :
    name ≠ "Default" ∧ name ≠ Naming.otherVariant := by
  unfold standsAlone Naming.isReservedKind Naming.reservedKinds at h
  simp only [Bool.and_eq_true, Bool.not_eq_true', List.contains_eq_mem, decide_eq_false_iff_not,
    List.mem_cons, List.not_mem_nil, or_false, not_or] at h
  exact h.2

theorem no_hash_of_standsAlone {name : String} (h : standsAlone name = true) :
    '#' ∉ name.toList := by
  unfold standsAlone at h
  simp only [Bool.and_eq_true, Bool.not_eq_true', List.contains_eq_mem,
    decide_eq_false_iff_not] at h
  exact h.1.1.2

/-- A part in front of the names keeps them apart. -/
theorem nodup_prefixed {names : List String} (front : String) (h : names.Nodup) :
    (names.map (front ++ ·)).Nodup := by
  refine h.map fun a b hab => String.toList_injective ?_
  have hl := congrArg String.toList hab
  rwa [String.toList_append, String.toList_append, List.append_right_inj] at hl

theorem append_handler_inj {a b : String} (h : a ++ "Handler" = b ++ "Handler") : a = b := by
  have hl := congrArg String.toList h
  rw [String.toList_append, String.toList_append, List.append_left_inj] at hl
  exact String.toList_injective hl

/-- A registration method is none of the fixed methods that do not begin like one. -/
theorem registerOf_ne {snake fixed : String} (h : fixed.toList.head? ≠ some 'o') :
    Naming.registerOf snake ≠ fixed := by
  rintro rfl
  apply h
  unfold Naming.registerOf
  rw [String.toList_append]
  rfl

theorem map_name_ofName (kinds : List String) :
    (kinds.map KindNames.ofName).map KindNames.name = kinds := by
  rw [List.map_map]
  exact List.map_id kinds

section Columns

variable {kinds : List String} (h : Admissible kinds)

include h

theorem Admissible.names_nodup : kinds.Nodup := h.forms_nodup.of_map

theorem Admissible.handlerTraits_nodup :
    ((kinds.map KindNames.ofName).map KindNames.handlerTrait).Nodup := by
  have e : KindNames.handlerTrait ∘ KindNames.ofName = Naming.handlerTrait := rfl
  rw [List.map_map, e]
  exact h.names_nodup.map fun _ _ hab => append_handler_inj hab

theorem Admissible.methods_nodup :
    ((kinds.map KindNames.ofName).map KindNames.method).Nodup := by
  have e : KindNames.method ∘ KindNames.ofName = Keyword.escape ∘ Text.snakeCase := by
    funext name
    simp only [Function.comp, KindNames.ofName]
  rw [List.map_map, e, ← List.map_map]
  -- Escaping is injective on snake-case forms only, not on all words.
  refine List.Nodup.map_on ?_ h.forms_nodup
  intro a ha b hb hab
  obtain ⟨m, -, rfl⟩ := List.mem_map.1 ha
  obtain ⟨n, -, rfl⟩ := List.mem_map.1 hb
  exact Keyword.escape_inj (Keyword.unmarked_snakeCase m) (Keyword.unmarked_snakeCase n) hab

theorem Admissible.slots_nodup : ((kinds.map KindNames.ofName).map KindNames.slot).Nodup := by
  have e : KindNames.slot ∘ KindNames.ofName = ("h_" ++ ·) ∘ Text.snakeCase := rfl
  rw [List.map_map, e, ← List.map_map]
  exact nodup_prefixed "h_" h.forms_nodup

theorem Admissible.registerFns_nodup :
    ((kinds.map KindNames.ofName).map KindNames.registerFn).Nodup := by
  have e : KindNames.registerFn ∘ KindNames.ofName = ("on_" ++ ·) ∘ Text.snakeCase := rfl
  rw [List.map_map, e, ← List.map_map]
  exact nodup_prefixed "on_" h.forms_nodup

/-- No derived name is one that the generated code has anyway. -/
theorem Admissible.not_fixed {name : String} (hm : name ∈ kinds) :
    name ≠ Naming.otherVariant ∧ Naming.handlerTrait name ≠ Naming.defaultTrait ∧
      Naming.slotOf (Text.snakeCase name) ≠ Naming.defaultSlot ∧
        Naming.registerOf (Text.snakeCase name) ≠ Naming.defaultRegister := by
  obtain ⟨hd, ho⟩ := not_reserved_of_standsAlone (h.alone name hm)
  refine ⟨ho, ?_, ?_, ?_⟩
  · -- The fixed trait would be the trait of a kind `Default`, which is reserved.
    intro ht
    exact hd (append_handler_inj (b := "Default") ht)
  · intro hs
    exact h.no_default name hm (slot_eq_defaultSlot_iff.1 hs)
  · intro hr
    have hl := congrArg String.toList hr
    unfold Naming.registerOf at hl
    rw [String.toList_append] at hl
    have hd : "on_".toList ++ (Text.snakeCase name).toList =
      "on_".toList ++ defaultForm.toList := hl
    rw [List.append_right_inj] at hd
    exact h.no_default name hm (String.toList_injective hd)

end Columns

/-- **Derived names never clash.** In the plan of a catalog that is lowered, the names, the handler
traits, the methods as they are spelled, the slots and the registration methods are pairwise
distinct, and none of them is a name that the generated code uses for the catch-all or for the
visitor itself. -/
theorem derived_names_distinct {c : Catalog} {moduleId astPath : String} {plan : DispatchPlan}
    (h : c.lower moduleId astPath = .ok plan) :
    (plan.kinds.map KindNames.name).Nodup ∧ (plan.kinds.map KindNames.handlerTrait).Nodup ∧
      (plan.kinds.map KindNames.method).Nodup ∧ (plan.kinds.map KindNames.slot).Nodup ∧
      (plan.kinds.map KindNames.registerFn).Nodup ∧
      ∀ k ∈ plan.kinds, k.name ≠ Naming.otherVariant ∧ k.handlerTrait ≠ Naming.defaultTrait ∧
        k.slot ≠ Naming.defaultSlot ∧
        k.registerFn ∉ [Naming.defaultRegister, "new", "visit", "has_handler_for"] := by
  obtain ⟨hk, rfl⟩ := lower_eq_ok_iff.1 h
  refine ⟨?_, hk.handlerTraits_nodup, hk.methods_nodup, hk.slots_nodup, hk.registerFns_nodup, ?_⟩
  · rw [map_name_ofName]
    exact hk.names_nodup
  · intro k hm
    obtain ⟨name, hname, rfl⟩ := List.mem_map.1 hm
    obtain ⟨ho, ht, hs, hr⟩ := hk.not_fixed hname
    refine ⟨ho, ht, hs, ?_⟩
    simp only [List.mem_cons, List.not_mem_nil, or_false, not_or]
    exact ⟨hr, registerOf_ne (by decide), registerOf_ne (by decide), registerOf_ne (by decide)⟩

/-- Kinds whose methods are spelled with marks, next to kinds that come close to them. -/
theorem derived_names_distinct_keywords :
    (Catalog.explicit ["Type", "RType", "Crate", "Self_", "DefaultType"]).lower "m" "syn" =
        .ok ⟨"m", "syn", ["Type", "RType", "Crate", "Self_", "DefaultType"].map KindNames.ofName⟩ ∧
      ((["Type", "RType", "Crate", "Self_", "DefaultType"].map KindNames.ofName).map
        KindNames.method).Nodup := by
  have h : (Catalog.explicit ["Type", "RType", "Crate", "Self_", "DefaultType"]).lower "m" "syn" =
      .ok ⟨"m", "syn", ["Type", "RType", "Crate", "Self_", "DefaultType"].map KindNames.ofName⟩ :=
    lower_eq_ok_iff.2 ⟨by decide +kernel, rfl⟩
  exact ⟨h, (derived_names_distinct h).2.2.1⟩

end Plan

end DispatchLayer
