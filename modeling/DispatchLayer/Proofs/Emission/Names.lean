import DispatchLayer.Emission.NodeType
import DispatchLayer.Proofs.Plan.Distinct

/-!
# Which derived names spell name tokens

Lowering asks whether a kind is one name to the reader of tokens, which passes over blanks and
comments; emission checks the derived names character by character. The two questions differ.
`Emittable` is the condition on a kind under which all five of its names are name tokens
(`validate_names_iff`): the kind has nothing around it, and its first letter or numeral can begin an
identifier, since the method begins with it.
-/

namespace DispatchLayer

open Unicode Scan

namespace Name

/-- No number begins like an identifier. -/
theorem isNameStart_of_isDigit {c : Char} (h : c.isDigit = true) : isNameStart c = false := by
  -- Ten characters are looked at one by one.
  have hlist : ∀ n : Fin 10, isNameStart (Char.ofNat (48 + n)) = false := by decide
  simp only [Char.isDigit, Bool.and_eq_true, decide_eq_true_eq, UInt32.le_iff_toNat_le] at h
  have hlo : 48 ≤ c.toNat := h.1
  have hhi : c.toNat ≤ 57 := h.2
  have hc := hlist ⟨c.toNat - 48, by omega⟩
  have hn : 48 + (c.toNat - 48) = c.toNat := by omega
  rwa [hn, Char.ofNat_toNat] at hc

theorem isIdentifier_cons {c : Char} {cs : List Char} :
    isIdentifier (c :: cs) = true ↔ isNameStart c = true ∧ ∀ d ∈ cs, isXidContinue d = true := by
  unfold isIdentifier
  rw [Bool.and_eq_true, List.all_eq_true]
  rfl

/-- All characters of an identifier can stand inside of one. -/
theorem isXidContinue_of_isIdentifier {cs : List Char} (h : isIdentifier cs = true) :
    ∀ c ∈ cs, isXidContinue c = true := by
  cases cs with
  | nil => simp
  | cons c cs =>
    obtain ⟨hc, hcs⟩ := isIdentifier_cons.1 h
    intro d hd
    rcases List.mem_cons.1 hd with rfl | hd
    · unfold isNameStart at hc
      rcases Bool.or_eq_true_iff.1 hc with hl | hs
      · rw [eq_of_beq hl]
        decide
      · exact isXidContinue_of_isXidStart hs
    · exact hcs d hd

/-- An identifier stays one when identifier characters follow it. -/
theorem isIdentifier_append {cs more : List Char} (h : isIdentifier cs = true)
    (hm : more.all isXidContinue = true) : isIdentifier (cs ++ more) = true := by
  rw [List.all_eq_true] at hm
  cases cs with
  | nil => exact absurd h (by decide)
  | cons c cs =>
    obtain ⟨hc, hcs⟩ := isIdentifier_cons.1 h
    refine isIdentifier_cons.2 ⟨hc, fun d hd => ?_⟩
    rcases List.mem_append.1 hd with hd | hd
    · exact hcs d hd
    · exact hm d hd

theorem check_eq_ok_iff {name : String} :
    check name = .ok () ↔ isIdentifier name.toList = true := by
  unfold check
  cases hl : name.toList with
  | nil =>
    have he : name.isEmpty = true := by rw [String.toList_eq_nil_iff.1 hl]; rfl
    simp [he, isIdentifier]
  | cons c cs =>
    have he : name.isEmpty = false := by
      rw [Bool.eq_false_iff]
      intro h
      rw [String.isEmpty_iff.1 h] at hl
      exact absurd hl (by simp)
    rw [he, if_neg (by simp)]
    cases hd : (c :: cs).all Char.isDigit with
    | true =>
      have hc : isNameStart c = false :=
        isNameStart_of_isDigit (List.all_eq_true.1 hd c (by simp))
      simp [isIdentifier, hc]
    | false =>
      rw [if_neg (by simp)]
      cases isIdentifier (c :: cs) with
      | true => simp
      | false => simp

theorem splitRaw_of_no_hash {name : String} (h : '#' ∉ name.toList) :
    splitRaw name = (false, name) := by
  unfold splitRaw
  split
  · next rest hl =>
    rw [hl] at h
    simp at h
  · rfl

/-- Without the sign of a raw name, a name token is an identifier. -/
theorem validate_eq_ok_iff {name : String} (h : '#' ∉ name.toList) :
    validate name = .ok () ↔ isIdentifier name.toList = true := by
  unfold validate
  rw [splitRaw_of_no_hash h]
  exact check_eq_ok_iff

end Name

namespace Keyword

open Name

/-- The words with marks are identifiers, and those written as raw names have a raw form. -/
theorem isIdentifier_of_mem_escaped :
    ∀ word ∈ escaped,
      isIdentifier word.toList = true ∧ (word ∉ neverRaw → word ∉ notRaw) := by
  decide

theorem mem_escaped_of_mem_neverRaw : ∀ word ∈ neverRaw, word ∈ escaped := by
  decide

theorem splitRaw_raw (word : String) : splitRaw ("r#" ++ word) = (true, word) := by
  unfold splitRaw
  rw [String.toList_append]
  show (true, String.ofList word.toList) = _
  rw [String.ofList_toList]

/-- **Escaping makes no name of what is none**, and spoils no name: the words with marks are
identifiers before and after. -/
theorem validate_escape_iff {word : String} (h : '#' ∉ word.toList) :
    validate (escape word) = .ok () ↔ isIdentifier word.toList = true := by
  -- In the first two cases both sides hold, by the list of words with marks.
  rcases escape_cases word with ⟨hn, he⟩ | ⟨hn, hk, he⟩ | ⟨-, -, he⟩
  · have hi := (isIdentifier_of_mem_escaped word (mem_escaped_of_mem_neverRaw word hn)).1
    have hm : isIdentifier (word ++ "_").toList = true := by
      rw [String.toList_append]
      exact isIdentifier_append hi (by decide)
    rw [he, validate_eq_ok_iff (by simp [h])]
    exact iff_of_true hm hi
  · obtain ⟨hi, hr⟩ := isIdentifier_of_mem_escaped word hk
    have hv : validate ("r#" ++ word) = .ok () := by
      unfold validate
      rw [splitRaw_raw]
      simp [check_eq_ok_iff.2 hi, hr hn]
    rw [he]
    exact iff_of_true hv hi
  · rw [he]
    exact validate_eq_ok_iff h

end Keyword

namespace Emission

open Name

/-- **The kinds that can be emitted**: identifiers, with nothing around them, whose first letter or
numeral can begin an identifier itself. -/
def Emittable (name : String) : Prop :=
  isIdentifier name.toList = true ∧ (name.toList.find? isAlphanumeric).any isXidStart = true

instance (name : String) : Decidable (Emittable name) :=
  inferInstanceAs (Decidable (_ ∧ _))

/-- The names that the parts of a kind's code are checked for. -/
def namesOf (k : KindNames) : List String :=
  [k.name, k.handlerTrait, k.method, k.slot, k.registerFn]

section Kind

variable {name : String}

theorem hash_not_mem_snakeCase : '#' ∉ (Text.snakeCase name).toList :=
  (Keyword.unmarked_snakeCase name).no_hash

theorem all_isXidContinue_snakeCase (h : isIdentifier name.toList = true) :
    (Text.snakeCase name).toList.all isXidContinue = true := by
  unfold Text.snakeCase
  rw [String.toList_ofList, List.all_eq_true]
  exact Text.isXidContinue_snakeChars (isXidContinue_of_isIdentifier h)

/-- The snake-case form of an identifier is one exactly if it has something to begin with. -/
theorem isIdentifier_snakeCase_iff (h : isIdentifier name.toList = true) :
    isIdentifier (Text.snakeCase name).toList = true ↔
      (name.toList.find? isAlphanumeric).any isXidStart = true := by
  have hcont := all_isXidContinue_snakeCase h
  unfold Text.snakeCase at hcont ⊢
  rw [String.toList_ofList] at hcont ⊢
  rw [List.all_eq_true] at hcont
  rcases Text.snakeChars_cases (isXidContinue_of_isIdentifier h) with
    ⟨hf, hs⟩ | ⟨c, d, tail, hf, hs, hline, hstart⟩
  · rw [hf, hs]
    simp [isIdentifier]
  · rw [hs] at hcont
    rw [hf, hs, isIdentifier_cons, Option.any_some, ← hstart]
    unfold isNameStart
    rw [Bool.or_eq_true_iff, beq_iff_eq]
    -- A name token may also begin with an underscore, but no snake-case form does.
    constructor
    · rintro ⟨h | h, -⟩
      · exact absurd h hline
      · exact h
    · intro h
      exact ⟨Or.inr h, fun e he => hcont e (List.mem_cons_of_mem _ he)⟩

/-- The part in front makes any snake-case form of an identifier an identifier. -/
theorem validate_prefixed {front : String} (hf : isIdentifier front.toList = true)
    (hash : '#' ∉ front.toList) (h : isIdentifier name.toList = true) :
    validate (front ++ Text.snakeCase name) = .ok () := by
  have hh : '#' ∉ (front ++ Text.snakeCase name).toList := by
    rw [String.toList_append, List.mem_append, not_or]
    exact ⟨hash, hash_not_mem_snakeCase⟩
  rw [validate_eq_ok_iff hh, String.toList_append]
  exact isIdentifier_append hf (all_isXidContinue_snakeCase h)

/-- The first name and the method of a kind are enough to tell whether it can be emitted. -/
theorem emittable_of_validate (h : '#' ∉ name.toList) (hname : validate name = .ok ())
    (hmethod : validate (KindNames.ofName name).method = .ok ()) : Emittable name := by
  have hid : isIdentifier name.toList = true := (validate_eq_ok_iff h).1 hname
  simp only [KindNames.ofName] at hmethod
  rw [Keyword.validate_escape_iff hash_not_mem_snakeCase] at hmethod
  exact ⟨hid, (isIdentifier_snakeCase_iff hid).1 hmethod⟩

/-- All names of a kind that can be emitted are name tokens. -/
theorem validate_of_emittable (h : '#' ∉ name.toList) (he : Emittable name) :
    ∀ n ∈ namesOf (KindNames.ofName name), validate n = .ok () := by
  obtain ⟨hid, hstart⟩ := he
  intro n hn
  simp only [namesOf, KindNames.ofName, List.mem_cons, List.not_mem_nil, or_false] at hn
  rcases hn with rfl | rfl | rfl | rfl | rfl
  · exact (validate_eq_ok_iff h).2 hid
  · -- The trait goes on with characters of identifiers.
    have hh : '#' ∉ (name ++ "Handler").toList := by simp [h]
    refine (validate_eq_ok_iff hh).2 ?_
    rw [String.toList_append]
    exact isIdentifier_append hid (by decide)
  · -- Only the method asks for more than that the kind is an identifier.
    rw [Keyword.validate_escape_iff hash_not_mem_snakeCase]
    exact (isIdentifier_snakeCase_iff hid).2 hstart
  · exact validate_prefixed (by decide) (by decide) hid
  · exact validate_prefixed (by decide) (by decide) hid

/-- **All names of a kind are name tokens exactly if the kind can be emitted.** -/
theorem validate_names_iff (h : '#' ∉ name.toList) :
    (∀ n ∈ namesOf (KindNames.ofName name), validate n = .ok ()) ↔ Emittable name := by
  constructor
  · intro hall
    refine emittable_of_validate h (hall name ?_) (hall _ ?_)
    · simp [namesOf, KindNames.ofName]
    · simp [namesOf]
  · exact validate_of_emittable h

end Kind

end Emission

end DispatchLayer
