import DispatchLayer.Proofs.Emission.Completion

/-!
# Derived names and keywords

Two lists of keywords meet in the generated code. The reader's list decides which kinds are names at
all; the list of words that generated names are protected against (`Keyword.escaped`) decides how a
method is spelled, and nothing else is spelled with its help. The second list has a word that the
first has not, `gen`. So all names derived from the kinds of a lowered catalog keep clear of the
keywords, with one exception: the kind `gen` itself, as a variant and as the name of its own type
(`derived_names_clear_iff`).

No trait, slot or registration method can be a keyword because no keyword has the part that such a
name begins or ends with.
-/

namespace DispatchLayer

namespace Keyword

/-- The name is not taken for a keyword: a plain name is none, and a raw one has a raw form. -/
structure Clear (name : String) : Prop where
  plain : ∀ word, Name.splitRaw name = (false, word) → word ∉ escaped
  raw : ∀ word, Name.splitRaw name = (true, word) → word ∉ neverRaw

theorem clear_iff_of_no_hash {name : String} (h : '#' ∉ name.toList) :
    Clear name ↔ name ∉ escaped := by
  have hs := Name.splitRaw_of_no_hash h
  constructor
  · intro hc
    exact hc.plain name hs
  · intro hk
    constructor
    · intro word hw
      rw [hs] at hw
      cases hw
      exact hk
    · intro word hw
      rw [hs] at hw
      cases hw

theorem clear_raw_of_not_mem {word : String} (h : word ∉ neverRaw) : Clear ("r#" ++ word) := by
  constructor
  · intro w hw
    rw [splitRaw_raw] at hw
    cases hw
  · intro w hw
    rw [splitRaw_raw] at hw
    cases hw
    exact h

/-- **Escaping keeps clear of keywords.** -/
theorem clear_escape {word : String} (h : '#' ∉ word.toList) : Clear (escape word) := by
  rcases escape_cases word with ⟨hn, he⟩ | ⟨hn, -, he⟩ | ⟨-, hk, he⟩
  · -- Each of the words without a raw form is looked at with the underscore behind it.
    have hlist : ∀ word ∈ neverRaw, word ++ "_" ∉ escaped := by decide
    rw [he, clear_iff_of_no_hash (by simp [h])]
    exact hlist word hn
  · rw [he]
    exact clear_raw_of_not_mem hn
  · rw [he, clear_iff_of_no_hash h]
    exact hk

/-- A front part that no keyword has keeps names clear of keywords. -/
theorem clear_append_of_front {front rest : String} (hash : '#' ∉ (front ++ rest).toList)
    (hf : ∀ word ∈ escaped, ¬ front.toList <+: word.toList) : Clear (front ++ rest) := by
  rw [clear_iff_of_no_hash hash]
  intro hk
  apply hf _ hk
  rw [String.toList_append]
  exact List.prefix_append _ _

/-- An end part that no keyword has keeps names clear of keywords. -/
theorem clear_append_of_end {front rest : String} (hash : '#' ∉ (front ++ rest).toList)
    (hf : ∀ word ∈ escaped, ¬ rest.toList <:+ word.toList) : Clear (front ++ rest) := by
  rw [clear_iff_of_no_hash hash]
  intro hk
  apply hf _ hk
  rw [String.toList_append]
  exact List.suffix_append _ _

/-- The reader takes no keyword for a name, but for one. -/
theorem eq_gen_of_isPlainName :
    ∀ word ∈ escaped, Plan.isPlainName word = true → word = "gen" := by
  decide +kernel

end Keyword

namespace Emission

open Keyword

/-! ## The names of a kind -/

section Kind

variable {name : String}

/-- A kind is a keyword only if it is the one that the reader takes for a name. -/
theorem clear_name_iff (h : Plan.standsAlone name = true) : Clear name ↔ name ≠ "gen" := by
  have hp : Plan.isPlainName name = true := by
    unfold Plan.standsAlone at h
    simp only [Bool.and_eq_true] at h
    exact h.1.2
  rw [clear_iff_of_no_hash (Plan.no_hash_of_standsAlone h)]
  constructor
  · rintro hk rfl
    exact hk (by decide)
  · intro hne hk
    exact hne (eq_gen_of_isPlainName name hk hp)

theorem clear_handlerTrait (h : '#' ∉ name.toList) : Clear (Naming.handlerTrait name) :=
  clear_append_of_end (by simp [h]) (by decide +kernel)

theorem clear_slotOf : Clear (Naming.slotOf (Text.snakeCase name)) :=
  clear_append_of_front (by simp [hash_not_mem_snakeCase]) (by decide +kernel)

theorem clear_registerOf : Clear (Naming.registerOf (Text.snakeCase name)) :=
  clear_append_of_front (by simp [hash_not_mem_snakeCase]) (by decide +kernel)

end Kind

/-! ## The names of a plan -/

/-- All names of a kind are clear of keywords exactly if the kind is not `gen`. -/
theorem clear_names_iff {name : String} (h : Plan.standsAlone name = true) :
    (∀ n ∈ namesOf (KindNames.ofName name), Clear n) ↔ name ≠ "gen" := by
  rw [← clear_name_iff h]
  -- The kind itself is among its names; all others are clear of keywords anyway.
  simp only [namesOf, KindNames.ofName, List.forall_mem_cons]
  constructor
  · intro hall
    exact hall.1
  · intro hname
    refine ⟨hname, clear_handlerTrait (Plan.no_hash_of_standsAlone h), ?_, clear_slotOf,
      clear_registerOf, by simp⟩
    exact clear_escape hash_not_mem_snakeCase

/-- Names of the kinds, all kinds among them, are clear of keywords exactly if `gen` is no kind. -/
theorem forall_clear_iff {kinds names : List String} (h : Plan.Admissible kinds)
    (hsub : ∀ n ∈ names, ∃ name ∈ kinds, n ∈ namesOf (KindNames.ofName name))
    (hkinds : ∀ name ∈ kinds, name ∈ names) : (∀ n ∈ names, Clear n) ↔ "gen" ∉ kinds := by
  constructor
  · intro hall hg
    exact (clear_name_iff (h.alone _ hg)).1 (hall _ (hkinds _ hg)) rfl
  · intro hg n hn
    obtain ⟨name, hname, hnk⟩ := hsub n hn
    refine (clear_names_iff (h.alone name hname)).2 ?_ n hnk
    rintro rfl
    exact hg hname

theorem forall_clear_handlersNames_iff {kinds : List String} (h : Plan.Admissible kinds) :
    (∀ n ∈ handlersNames (kinds.map KindNames.ofName), Clear n) ↔ "gen" ∉ kinds := by
  apply forall_clear_iff h
  · intro n hn
    obtain ⟨k, hk, hnk⟩ := mem_handlersNames.1 hn
    have hall : n ∈ namesOf k := List.mem_append_left [k.slot, k.registerFn] hnk
    obtain ⟨name, hname, rfl⟩ := List.mem_map.1 hk
    exact ⟨name, hname, hall⟩
  · intro name hname
    exact mem_handlersNames.2 ⟨_, List.mem_map_of_mem hname, List.mem_cons_self⟩

theorem forall_clear_visitorNames_iff {kinds : List String} (h : Plan.Admissible kinds) :
    (∀ n ∈ visitorNames (kinds.map KindNames.ofName), Clear n) ↔ "gen" ∉ kinds := by
  apply forall_clear_iff h
  · intro n hn
    obtain ⟨k, hk, hnk⟩ := mem_visitorNames.1 hn
    obtain ⟨name, hname, rfl⟩ := List.mem_map.1 hk
    exact ⟨name, hname, hnk⟩
  · intro name hname
    exact mem_visitorNames.2 ⟨_, List.mem_map_of_mem hname, List.mem_cons_self⟩

/-- **Which derived names are keywords.** In the plan of a catalog that is lowered, every trait,
method, slot and registration method is clear of keywords: it is none of them, or a raw name that
has a raw form. A variant is clear of them exactly if its kind is not `gen`. So the names that each
of the two files is made with are all clear of keywords exactly if `gen` is not among the kinds. -/
theorem derived_names_clear_iff {c : Catalog} {moduleId astPath : String} {plan : DispatchPlan}
    (h : c.lower moduleId astPath = .ok plan) :
    (∀ k ∈ plan.kinds, (Clear k.name ↔ k.name ≠ "gen") ∧ Clear k.handlerTrait ∧ Clear k.method ∧
      Clear k.slot ∧ Clear k.registerFn) ∧
      ((∀ n ∈ handlersNames plan.kinds, Clear n) ↔ "gen" ∉ c.kinds) ∧
      ((∀ n ∈ visitorNames plan.kinds, Clear n) ↔ "gen" ∉ c.kinds) := by
  obtain ⟨hk, rfl⟩ := Plan.lower_eq_ok_iff.1 h
  refine ⟨fun k hm => ?_, forall_clear_handlersNames_iff hk, forall_clear_visitorNames_iff hk⟩
  obtain ⟨name, hname, rfl⟩ := List.mem_map.1 hm
  have ha := hk.alone name hname
  refine ⟨clear_name_iff ha, clear_handlerTrait (Plan.no_hash_of_standsAlone ha), ?_, clear_slotOf,
    clear_registerOf⟩
  simp only [KindNames.ofName]
  exact clear_escape hash_not_mem_snakeCase

/-- Kinds whose snake-case forms are keywords, and the kind that is one itself. -/
theorem derived_names_clear_iff_beside_gen :
    (∀ n ∈ visitorNames (["Type", "Crate", "Gen"].map KindNames.ofName), Clear n) ∧
      ¬ ∀ n ∈ visitorNames (["Type", "Crate", "gen"].map KindNames.ofName), Clear n := by
  have h : (Catalog.explicit ["Type", "Crate", "Gen"]).lower "m" "syn" =
      .ok ⟨"m", "syn", ["Type", "Crate", "Gen"].map KindNames.ofName⟩ :=
    Plan.lower_eq_ok_iff.2 ⟨by decide +kernel, rfl⟩
  have h' : (Catalog.explicit ["Type", "Crate", "gen"]).lower "m" "syn" =
      .ok ⟨"m", "syn", ["Type", "Crate", "gen"].map KindNames.ofName⟩ :=
    Plan.lower_eq_ok_iff.2 ⟨by decide +kernel, rfl⟩
  have hclear := (derived_names_clear_iff h).2.2
  have hclear' := (derived_names_clear_iff h').2.2
  exact ⟨hclear.2 (by decide), fun hall => hclear'.1 hall (by decide)⟩

/-- A kind that is lowered and emitted under a keyword: its variant is the plain name `gen`, while
its method is spelled as a raw name. -/
theorem lower_gen_not_clear :
    (Catalog.explicit ["gen"]).lower "m" "syn" = .ok ⟨"m", "syn", [KindNames.ofName "gen"]⟩ ∧
      ((Catalog.explicit ["gen"]).generate "m" "syn").isOk = true ∧
      (KindNames.ofName "gen").method = "r#gen" ∧
      (KindNames.ofName "gen").name ∈ handlersNames [KindNames.ofName "gen"] ∧
      ¬ Clear (KindNames.ofName "gen").name := by
  have hl : (Catalog.explicit ["gen"]).lower "m" "syn" =
      .ok ⟨"m", "syn", [KindNames.ofName "gen"]⟩ :=
    Plan.lower_eq_ok_iff.2 ⟨by decide +kernel, rfl⟩
  refine ⟨hl, by decide +kernel, by decide +kernel, ?_, ?_⟩
  · exact mem_handlersNames.2 ⟨_, List.mem_cons_self, List.mem_cons_self⟩
  · show ¬ Clear "gen"
    rw [clear_iff_of_no_hash (by decide)]
    decide

end Emission

end DispatchLayer
