import DispatchLayer.Proofs.Plan.Ruling

/-!
# How the entries of a catalog are classified

`Classified` is the rule by which an entry is accepted or refused, said in terms of the list: it
mentions the entry, its index and the entries before it, and no collection that a pass over the list
would keep. The rule gives one verdict on every entry, and it is the verdict of lowering
(`classified_iff`). So a catalog is lowered exactly if the rule accepts every entry, and otherwise
the errors are the rule's refusals, one for each refused entry and in the order of the entries
(`lower_classifies_entries`).
-/

namespace DispatchLayer.Plan

/-! ## The rule -/

/-- To the reader of tokens the text is one name, and not a keyword. -/
def IsOneName (text : String) : Prop :=
  ∃ name, Token.ofText? text = some [.ident name] ∧ name ∉ Keyword.reserved

/-- The entry passes the checks that look at nothing but the entry. -/
structure PassesAlone (name : String) : Prop where
  ne_empty : name ≠ ""
  no_hash : '#' ∉ name.toList
  one_name : IsOneName name
  not_fixed : ¬ (name = "Default" ∨ name = "Other")

/-- The first entry that passes the checks on its own and has a given snake-case form. -/
def IsFirstOf (before : List String) (form other : String) : Prop :=
  (PassesAlone other ∧ Text.snakeCase other = form) ∧
    ∃ front back, before = front ++ other :: back ∧
      ∀ name ∈ front, PassesAlone name → Text.snakeCase name ≠ form

/-- **The rule for an entry**, given the entries before it. The cases exclude each other: each holds
where none of those above it does. -/
inductive Classified (before : List String) (index : Nat) (name : String) :
    Except CatalogError KindNames → Prop
  | empty (h : name = "") : Classified before index name (.error (.emptyEntry index))
  | malformed (hne : name ≠ "") (h : '#' ∈ name.toList ∨ ¬ IsOneName name) :
      Classified before index name (.error (.invalidIdent index name))
  | fixed (hne : name ≠ "") (hh : '#' ∉ name.toList) (ho : IsOneName name)
      (h : name = "Default" ∨ name = "Other") :
      Classified before index name (.error (.reserved index name))
  | repeated (hp : PassesAlone name) (h : name ∈ before) :
      Classified before index name (.error (.duplicate index name))
  | catchAll (hp : PassesAlone name) (hm : name ∉ before) (h : Text.snakeCase name = "default") :
      Classified before index name (.error (.reserved index name))
  | collides (other : String) (hp : PassesAlone name) (hm : name ∉ before)
      (hd : Text.snakeCase name ≠ "default") (h : IsFirstOf before (Text.snakeCase name) other) :
      Classified before index name
        (.error (.nameCollision index name other (Text.snakeCase name)))
  | accepted (hp : PassesAlone name) (hm : name ∉ before) (hd : Text.snakeCase name ≠ "default")
      (h : ∀ n ∈ before, PassesAlone n → Text.snakeCase n ≠ Text.snakeCase name) :
      Classified before index name (.ok (KindNames.ofName name))

/-! ## The checks on an entry alone -/

theorem isPlainName_iff {text : String} : isPlainName text = true ↔ IsOneName text := by
  unfold isPlainName IsOneName Keyword.isReserved
  constructor
  · intro h
    split at h
    next name hl => exact ⟨name, hl, by simpa using h⟩
    · cases h
  · rintro ⟨name, hl, hr⟩
    rw [hl]
    simpa using hr

theorem isReservedKind_iff {name : String} :
    Naming.isReservedKind name = true ↔ name = "Default" ∨ name = "Other" := by
  simp [Naming.isReservedKind, Naming.reservedKinds, Naming.otherVariant]

theorem passesAlone_iff {name : String} : PassesAlone name ↔ standsAlone name = true := by
  have key : standsAlone name = true ↔
      name ≠ "" ∧ '#' ∉ name.toList ∧ IsOneName name ∧ ¬ (name = "Default" ∨ name = "Other") := by
    rw [← isPlainName_iff, ← isReservedKind_iff]
    simp [standsAlone, and_assoc]
  rw [key]
  constructor
  · intro h
    exact ⟨h.ne_empty, h.no_hash, h.one_name, h.not_fixed⟩
  · rintro ⟨hne, hh, ho, hf⟩
    exact ⟨hne, hh, ho, hf⟩

theorem holder?_eq_some_iff {before : List String} {form other : String} :
    holder? before form = some other ↔ IsFirstOf before form other := by
  unfold holder? IsFirstOf
  rw [List.find?_eq_some_iff_append]
  simp only [passesAlone_iff, Bool.and_eq_true, beq_iff_eq, Bool.not_eq_true',
    Bool.and_eq_false_imp, beq_eq_false_iff_ne, ne_eq]

section Rule

variable {before : List String} {index : Nat} {name : String} {v : Except CatalogError KindNames}

theorem entryError?_of_malformed (hne : name ≠ "") (h : '#' ∈ name.toList ∨ ¬ IsOneName name) :
    entryError? index name = some (.invalidIdent index name) := by
  have he : name.isEmpty = false := by simpa using hne
  have hb : (name.toList.contains '#' || !isPlainName name) = true := by
    simpa [← isPlainName_iff] using h
  unfold entryError?
  rw [he, if_neg (by simp), if_pos hb]

theorem entryError?_of_fixed (hne : name ≠ "") (hh : '#' ∉ name.toList) (ho : IsOneName name)
    (h : name = "Default" ∨ name = "Other") :
    entryError? index name = some (.reserved index name) := by
  have he : name.isEmpty = false := by simpa using hne
  have hb : ¬ (name.toList.contains '#' || !isPlainName name) = true := by
    simp [hh, isPlainName_iff.2 ho]
  unfold entryError?
  rw [he, if_neg (by simp), if_neg hb, if_pos (isReservedKind_iff.2 h)]

theorem entryError?_of_passesAlone (hp : PassesAlone name) : entryError? index name = none :=
  entryError?_eq_none_iff.2 (passesAlone_iff.1 hp)

/-! ## The rule and the pass over the entries -/

/-- The verdict of the pass falls under the rule. -/
theorem classified_ruling (before : List String) (index : Nat) (name : String) :
    Classified before index name (ruling before index name) := by
  unfold ruling
  by_cases hp : PassesAlone name
  · rw [entryError?_of_passesAlone hp]
    dsimp only
    -- What is left is decided by the entries before it, in the order of the checks.
    by_cases hm : name ∈ before
    · rw [if_pos hm]
      exact .repeated hp hm
    rw [if_neg hm]
    by_cases hd : Text.snakeCase name = defaultForm
    · rw [if_pos hd]
      exact .catchAll hp hm hd
    rw [if_neg hd]
    cases hh : holder? before (Text.snakeCase name) with
    | some other => exact .collides other hp hm hd (holder?_eq_some_iff.1 hh)
    | none =>
      refine .accepted hp hm hd fun n hn hpn => ?_
      exact holder?_eq_none_iff.1 hh n hn (passesAlone_iff.1 hpn)
  · -- One of the four checks fails; the first that does gives the verdict.
    by_cases hne : name = ""
    · subst hne
      exact .empty rfl
    by_cases hb : '#' ∈ name.toList ∨ ¬ IsOneName name
    · rw [entryError?_of_malformed hne hb]
      exact .malformed hne hb
    rw [not_or, not_not] at hb
    obtain ⟨hh, ho⟩ := hb
    have hf : name = "Default" ∨ name = "Other" := by
      by_contra hf
      exact hp ⟨hne, hh, ho, hf⟩
    rw [entryError?_of_fixed hne hh ho hf]
    exact .fixed hne hh ho hf

/-- No other verdict falls under the rule. -/
theorem Classified.eq_ruling (h : Classified before index name v) :
    ruling before index name = v := by
  unfold ruling
  cases h with
  | empty h =>
    subst h
    rfl
  | malformed hne h => rw [entryError?_of_malformed hne h]
  | fixed hne hh ho h => rw [entryError?_of_fixed hne hh ho h]
  | repeated hp h => simp only [entryError?_of_passesAlone hp, if_pos h]
  | catchAll hp hm h =>
    have hd : Text.snakeCase name = defaultForm := h
    simp only [entryError?_of_passesAlone hp, if_neg hm, if_pos hd]
  | collides other hp hm hd h =>
    have hd' : Text.snakeCase name ≠ defaultForm := hd
    simp only [entryError?_of_passesAlone hp, if_neg hm, if_neg hd', holder?_eq_some_iff.2 h]
  | accepted hp hm hd h =>
    have hd' : Text.snakeCase name ≠ defaultForm := hd
    have hn : holder? before (Text.snakeCase name) = none :=
      holder?_eq_none_iff.2 fun n hn ha => h n hn (passesAlone_iff.2 ha)
    simp only [entryError?_of_passesAlone hp, if_neg hm, if_neg hd', hn]

/-- **The rule gives one verdict**, that of the pass over the entries. -/
theorem classified_iff : Classified before index name v ↔ v = ruling before index name := by
  constructor
  · intro h
    exact h.eq_ruling.symm
  · rintro rfl
    exact classified_ruling before index name

/-- A refusal names the entry it refuses. -/
theorem index_of_ruling {e : CatalogError} (h : ruling before index name = .error e) :
    e.index = index := by
  have hc := classified_ruling before index name
  rw [h] at hc
  cases hc with
  | empty => rfl
  | malformed => rfl
  | fixed => rfl
  | repeated => rfl
  | catchAll => rfl
  | collides => rfl

end Rule

/-! ## The errors of a catalog -/

/-- The errors are the refusals among the verdicts. -/
theorem mem_errorsOf_iff {e : CatalogError} {vs : List (Except CatalogError KindNames)} :
    e ∈ errorsOf vs ↔ .error e ∈ vs := by
  unfold errorsOf
  rw [List.mem_filterMap]
  constructor
  · rintro ⟨v, hv, he⟩
    cases v with
    | ok k => cases he
    | error e' =>
      cases he
      exact hv
  · intro h
    exact ⟨_, h, rfl⟩

theorem mem_errorsOf_verdicts {c : Catalog} {e : CatalogError} :
    e ∈ errorsOf (verdicts c) ↔
      ∃ name, c.kinds[e.index]? = some name ∧
        Classified (c.kinds.take e.index) e.index name (.error e) := by
  rw [mem_errorsOf_iff, List.mem_iff_getElem?]
  simp only [verdicts_getElem?, Option.map_eq_some_iff, classified_iff]
  constructor
  · rintro ⟨i, name, hi, hr⟩
    obtain rfl := index_of_ruling hr
    exact ⟨name, hi, hr.symm⟩
  · rintro ⟨name, hi, hr⟩
    exact ⟨e.index, name, hi, hr.symm⟩

/-- **The errors are in the order of the entries**, and no entry has two. -/
theorem pairwise_errorsOf_verdicts (c : Catalog) :
    (errorsOf (verdicts c)).Pairwise fun a b => a.index < b.index := by
  -- Said of the verdicts first: the error at a place has the place as its index.
  have hv : (verdicts c).Pairwise fun v v' =>
      ∀ a b, v = .error a → v' = .error b → a.index < b.index := by
    rw [List.pairwise_iff_getElem]
    intro i j hi hj hij a b ha hb
    have index_eq : ∀ (k : Nat) (hk : k < (verdicts c).length) (e : CatalogError),
        (verdicts c)[k] = .error e → e.index = k := by
      intro k hk e he
      have hk' := verdicts_getElem? c k
      rw [List.getElem?_eq_getElem hk, he] at hk'
      obtain ⟨name, -, hr⟩ := Option.map_eq_some_iff.1 hk'.symm
      exact index_of_ruling hr
    rw [index_eq i hi a ha, index_eq j hj b hb]
    exact hij
  unfold errorsOf
  refine hv.filterMap _ fun v v' hvv' a ha b hb => ?_
  cases v with
  | ok k => cases ha
  | error a' =>
    cases v' with
    | ok k => cases hb
    | error b' =>
      cases ha
      cases hb
      exact hvv' a b rfl rfl

/-- Errors in the order of their indices are settled by which errors there are. -/
theorem eq_of_pairwise_index {as bs : List CatalogError}
    (ha : as.Pairwise fun a b => a.index < b.index) (hb : bs.Pairwise fun a b => a.index < b.index)
    (h : ∀ e, e ∈ as ↔ e ∈ bs) : as = bs := by
  have hne : ∀ {a b : CatalogError}, a.index < b.index → a ≠ b := by
    rintro a b hlt rfl
    exact Nat.lt_irrefl _ hlt
  have hperm : as.Perm bs := (List.perm_ext_iff_of_nodup (ha.imp hne) (hb.imp hne)).2 h
  refine hperm.eq_of_pairwise (fun a b _ _ hab hba => ?_) ha hb
  exact absurd hab (Nat.lt_asymm hba)

theorem lower_eq_error_iff {c : Catalog} {moduleId astPath : String} {es : CatalogErrors} :
    c.lower moduleId astPath = .error es ↔
      es.errors ≠ [] ∧ es.errors = errorsOf (verdicts c) := by
  unfold Catalog.lower CatalogErrors.ofList?
  cases he : errorsOf (verdicts c) with
  | nil => simp
  | cons e rest =>
    simp only [List.isEmpty_cons, Bool.false_eq_true, if_false, Except.error.injEq]
    constructor
    · rintro rfl
      simp
    · rintro ⟨-, h⟩
      rw [← h]

/-- The rule accepts all entries of the admissible catalogs, and of no others. -/
theorem admissible_iff_classified {kinds : List String} :
    Admissible kinds ↔ ∀ i name, kinds[i]? = some name →
      Classified (kinds.take i) i name (.ok (KindNames.ofName name)) := by
  constructor
  · intro h i name hi
    exact classified_iff.2 (h.ruling hi).symm
  · intro h
    exact admissible_of_rulings fun i name hi => ⟨_, (h i name hi).eq_ruling⟩

/-- **Lowering classifies every entry by the rule and by nothing else.** Every entry has one verdict
under the rule. A catalog is lowered exactly if all of its entries are accepted, and its plan has
the names of each entry, in order. Otherwise the errors are exactly the refusals under the rule, one
for each refused entry, with strictly increasing indices. -/
theorem lower_classifies_entries (c : Catalog) (moduleId astPath : String) :
    (∀ i name, c.kinds[i]? = some name → ∃! v, Classified (c.kinds.take i) i name v) ∧
      (∀ plan, c.lower moduleId astPath = .ok plan ↔
        (∀ i name, c.kinds[i]? = some name →
          Classified (c.kinds.take i) i name (.ok (KindNames.ofName name))) ∧
        plan = ⟨moduleId, astPath, c.kinds.map KindNames.ofName⟩) ∧
      ∀ es, c.lower moduleId astPath = .error es ↔
        es.errors ≠ [] ∧ (es.errors.Pairwise fun a b => a.index < b.index) ∧
          ∀ e, e ∈ es.errors ↔ ∃ name, c.kinds[e.index]? = some name ∧
            Classified (c.kinds.take e.index) e.index name (.error e) := by
  refine ⟨fun i name _ => ?_, fun plan => ?_, fun es => ?_⟩
  · exact ⟨_, classified_ruling _ _ _, fun v hv => hv.eq_ruling.symm⟩
  · rw [← admissible_iff_classified]
    exact lower_eq_ok_iff
  · rw [lower_eq_error_iff]
    refine and_congr_right fun _ => ?_
    constructor
    · intro h
      rw [h]
      exact ⟨pairwise_errorsOf_verdicts c, fun e => mem_errorsOf_verdicts⟩
    · rintro ⟨hp, hm⟩
      apply eq_of_pairwise_index hp (pairwise_errorsOf_verdicts c)
      intro e
      rw [hm, mem_errorsOf_verdicts]

/-- A list in which entries that are refused come between entries that use up a form. -/
def mixed : Catalog :=
  .explicit ["ExprCall", "", "Expr_Call", "DEFAULT", "ExprCall", "a#b", "expr_call", "Default",
    "Expr_Call"]

/-- The refusals in a mixed list: a refused entry can still be repeated, but holds no form. -/
theorem lower_classifies_entries_mixed :
    mixed.lower "m" "syn" = .error ⟨[.emptyEntry 1,
        .nameCollision 2 "Expr_Call" "ExprCall" "expr_call", .reserved 3 "DEFAULT",
        .duplicate 4 "ExprCall", .invalidIdent 5 "a#b",
        .nameCollision 6 "expr_call" "ExprCall" "expr_call", .reserved 7 "Default",
        .duplicate 8 "Expr_Call"]⟩ ∧
      Classified (mixed.kinds.take 6) 6 "expr_call"
        (.error (.nameCollision 6 "expr_call" "ExprCall" "expr_call")) := by
  have hl : mixed.lower "m" "syn" = .error ⟨[.emptyEntry 1,
      .nameCollision 2 "Expr_Call" "ExprCall" "expr_call", .reserved 3 "DEFAULT",
      .duplicate 4 "ExprCall", .invalidIdent 5 "a#b",
      .nameCollision 6 "expr_call" "ExprCall" "expr_call", .reserved 7 "Default",
      .duplicate 8 "Expr_Call"]⟩ := by
    decide +kernel
  obtain ⟨-, -, herrors⟩ := lower_classifies_entries mixed "m" "syn"
  obtain ⟨-, -, hmem⟩ := (herrors _).1 hl
  obtain ⟨name, hi, hc⟩ :=
    (hmem (.nameCollision 6 "expr_call" "ExprCall" "expr_call")).1 (by simp)
  cases hi
  exact ⟨hl, hc⟩

end DispatchLayer.Plan
