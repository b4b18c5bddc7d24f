import DispatchLayer.Proofs.Plan.Classification
import DispatchLayer.Proofs.Text.Fields
import DispatchLayer.Proofs.Text.Trim

/-!
# Lists of kinds

A list of kinds is a text with commas. `Lists` says which entries a text lists, from the side of the
writer: a blank text lists nothing, and otherwise the entries stand between commas with any white
space around them. Reading a text gives the entries that it lists and no others
(`parseKinds_eq_iff`), so what is written in this way is read back.

The fields between the commas keep their places: the entry at an index is the field at that index,
trimmed. Lowering counts entries from the same zero, so it reports an empty entry exactly where a
field is blank (`parseKinds_trims_fields`).
-/

namespace DispatchLayer.Catalog

open Text

/-! ## Fields and entries -/

/-- The fields of a text: pieces without a comma, at least one, with commas between them. -/
structure CommaFields (text : String) (pieces : List String) : Prop where
  ne_nil : pieces ≠ []
  no_comma : ∀ piece ∈ pieces, ',' ∉ piece.toList
  joined : ",".intercalate pieces = text

/-- A text that can be an entry: one that trimming leaves alone, without a comma. -/
structure IsEntry (entry : String) : Prop where
  trimmed : IsTrimmed entry.toList
  no_comma : ',' ∉ entry.toList

/-- Which entries a text lists. The list of one empty entry is written by no text: what would be
its text is blank. -/
inductive Lists : String → List String → Prop
  | nothing {text : String} (h : IsBlank text.toList) : Lists text []
  | fields {entries pieces : List String} (he : ∀ e ∈ entries, IsEntry e) (hne : entries ≠ [])
      (hone : entries ≠ [""])
      (h : List.Forall₂ (fun piece entry => Pads piece.toList entry.toList) pieces entries) :
      Lists (",".intercalate pieces) entries

theorem commaFields_iff {text : String} {pieces : List String} :
    CommaFields text pieces ↔ fields ',' text.toList = pieces.map String.toList := by
  have hjoin : ",".intercalate pieces = text ↔
      joinFields ',' (pieces.map String.toList) = text.toList := by
    rw [← String.toList_inj, String.toList_intercalate]
    rfl
  rw [fields_eq_iff, ← hjoin]
  constructor
  · intro h
    refine ⟨by simpa using h.ne_nil, ?_, h.joined⟩
    intro f hf
    obtain ⟨piece, hp, rfl⟩ := List.mem_map.1 hf
    exact h.no_comma piece hp
  · rintro ⟨hne, hc, hj⟩
    exact ⟨by simpa using hne, fun piece hp => hc _ (List.mem_map_of_mem hp), hj⟩

/-- **Every text has its fields**, and no other pieces are its fields. -/
theorem existsUnique_commaFields (text : String) : ∃! pieces, CommaFields text pieces := by
  refine ⟨(fields ',' text.toList).map String.ofList, ?_, ?_⟩
  · show CommaFields text _
    rw [commaFields_iff, List.map_map]
    simp [Function.comp_def]
  · intro pieces h
    rw [commaFields_iff.1 h, List.map_map]
    simp [Function.comp_def]

/-- The comma is no white space. -/
theorem not_isWhiteSpace_comma : Unicode.isWhiteSpace ',' = false := by decide

theorem trim_eq_iff {piece entry : String} :
    trim piece = entry ↔ Pads piece.toList entry.toList ∧ IsTrimmed entry.toList := by
  rw [← trimChars_eq_iff, ← String.toList_inj, trim, String.toList_ofList]

theorem trim_eq_empty_iff {piece : String} : trim piece = "" ↔ IsBlank piece.toList := by
  rw [← trimChars_eq_nil_iff, ← String.toList_inj, trim, String.toList_ofList]
  rfl

/-- What trimming leaves of a field can be an entry. -/
theorem isEntry_trim {piece : String} (h : ',' ∉ piece.toList) : IsEntry (trim piece) := by
  obtain ⟨hpads, htrimmed⟩ := trim_eq_iff.1 (rfl : trim piece = trim piece)
  exact ⟨htrimmed, fun hc => h (hpads.mem hc)⟩

/-- White space around an entry brings no comma. -/
theorem IsEntry.no_comma_of_pads {piece entry : String} (he : IsEntry entry)
    (h : Pads piece.toList entry.toList) : ',' ∉ piece.toList := by
  intro hc
  exact he.no_comma (h.mem_core hc not_isWhiteSpace_comma)

/-- A blank text is one field. -/
theorem CommaFields.eq_singleton {text : String} {pieces : List String}
    (h : CommaFields text pieces) (hb : IsBlank text.toList) : pieces = [text] := by
  have hc : ',' ∉ text.toList := by
    intro hm
    simpa [not_isWhiteSpace_comma] using hb _ hm
  refine (existsUnique_commaFields text).unique h ⟨by simp, ?_, by simp⟩
  intro piece hp
  obtain rfl := List.mem_singleton.1 hp
  exact hc

/-! ## Reading -/

theorem parseKinds_of_isBlank {text : String} (h : IsBlank text.toList) : parseKinds text = [] := by
  unfold parseKinds
  rw [trimChars_eq_nil_iff.2 h]
  rfl

/-- **Reading goes field by field**, unless the text is blank. -/
theorem parseKinds_of_commaFields {text : String} {pieces : List String}
    (h : CommaFields text pieces) (hb : ¬ IsBlank text.toList) :
    parseKinds text = pieces.map trim := by
  have hne : (trimChars text.toList).isEmpty = false := by
    rw [List.isEmpty_eq_false_iff]
    exact fun he => hb (trimChars_eq_nil_iff.1 he)
  unfold parseKinds
  rw [hne, if_neg (by simp), commaFields_iff.1 h, List.map_map]
  rfl

theorem parseKinds_eq_nil_iff {text : String} : parseKinds text = [] ↔ IsBlank text.toList := by
  constructor
  · intro h
    by_contra hb
    obtain ⟨pieces, hp, -⟩ := existsUnique_commaFields text
    rw [parseKinds_of_commaFields hp hb, List.map_eq_nil_iff] at h
    exact hp.ne_nil h
  · exact parseKinds_of_isBlank

/-- **Each entry is its field, trimmed.** -/
theorem forall₂_parseKinds {text : String} {pieces : List String} (h : CommaFields text pieces)
    (hb : ¬ IsBlank text.toList) :
    List.Forall₂ (fun piece entry => Pads piece.toList entry.toList ∧ IsTrimmed entry.toList)
      pieces (parseKinds text) := by
  rw [parseKinds_of_commaFields h hb, List.forall₂_map_right_iff, List.forall₂_same]
  intro piece _
  exact trim_eq_iff.1 rfl

/-- No text is read as one empty entry: it would be a single blank field, and so blank. -/
theorem parseKinds_ne_singleton_empty (text : String) : parseKinds text ≠ [""] := by
  intro hone
  have hb : ¬ IsBlank text.toList := by
    intro hb
    rw [parseKinds_of_isBlank hb] at hone
    cases hone
  obtain ⟨pieces, hp, -⟩ := existsUnique_commaFields text
  rw [parseKinds_of_commaFields hp hb, List.map_eq_singleton_iff] at hone
  obtain ⟨piece, rfl, hpiece⟩ := hone
  have hj := hp.joined
  rw [String.intercalate_singleton] at hj
  subst hj
  exact hb (trim_eq_empty_iff.1 hpiece)

theorem isEntry_of_mem_parseKinds {text entry : String} (h : entry ∈ parseKinds text) :
    IsEntry entry := by
  have hb : ¬ IsBlank text.toList := by
    intro hb
    rw [parseKinds_of_isBlank hb] at h
    exact absurd h List.not_mem_nil
  obtain ⟨pieces, hp, -⟩ := existsUnique_commaFields text
  rw [parseKinds_of_commaFields hp hb] at h
  obtain ⟨piece, hm, rfl⟩ := List.mem_map.1 h
  exact isEntry_trim (hp.no_comma piece hm)

/-- Every text lists the entries that are read from it. -/
theorem lists_parseKinds (text : String) : Lists text (parseKinds text) := by
  by_cases hb : IsBlank text.toList
  · rw [parseKinds_of_isBlank hb]
    exact .nothing hb
  · obtain ⟨pieces, hp, -⟩ := existsUnique_commaFields text
    have key : Lists (",".intercalate pieces) (parseKinds text) := by
      refine .fields (fun e he => isEntry_of_mem_parseKinds he) ?_
        (parseKinds_ne_singleton_empty text) ((forall₂_parseKinds hp hb).imp fun _ _ h => h.1)
      rw [Ne, parseKinds_eq_nil_iff]
      exact hb
    rw [hp.joined] at key
    exact key

/-- Trimming takes away the white space around entries, in which there was no comma. -/
theorem map_trim_of_pads {pieces entries : List String}
    (h : List.Forall₂ (fun piece entry => Pads piece.toList entry.toList) pieces entries)
    (he : ∀ e ∈ entries, IsEntry e) :
    pieces.map trim = entries ∧ ∀ piece ∈ pieces, ',' ∉ piece.toList := by
  induction h with
  | nil => exact ⟨rfl, by simp⟩
  | @cons piece entry pieces entries hpads _ ih =>
    have hentry := he entry List.mem_cons_self
    obtain ⟨htrim, hcomma⟩ := ih fun e hm => he e (List.mem_cons_of_mem entry hm)
    constructor
    · rw [List.map_cons, trim_eq_iff.2 ⟨hpads, hentry.trimmed⟩, htrim]
    · intro p hp
      rcases List.mem_cons.1 hp with rfl | hp
      · exact hentry.no_comma_of_pads hpads
      · exact hcomma p hp

/-- What a text lists is read from it. -/
theorem Lists.parseKinds_eq {text : String} {entries : List String} (h : Lists text entries) :
    parseKinds text = entries := by
  cases h with
  | nothing h => exact parseKinds_of_isBlank h
  | @fields entries pieces he hne hone h =>
    obtain ⟨htrim, hcomma⟩ := map_trim_of_pads h he
    have hp : CommaFields (",".intercalate pieces) pieces := by
      refine ⟨?_, hcomma, rfl⟩
      rintro rfl
      exact hne htrim.symm
    have hb : ¬ IsBlank (",".intercalate pieces).toList := by
      -- A blank text would be one blank field, and its entry the empty one.
      intro hb
      have hone' := hp.eq_singleton hb
      rw [← htrim, hone'] at hone
      exact hone (by rw [List.map_singleton, trim_eq_empty_iff.2 hb])
    rw [parseKinds_of_commaFields hp hb, htrim]

/-- **Reading gives what the text lists**, and nothing else. -/
theorem parseKinds_eq_iff {text : String} {entries : List String} :
    parseKinds text = entries ↔ Lists text entries := by
  constructor
  · rintro rfl
    exact lists_parseKinds text
  · exact Lists.parseKinds_eq

/-- Entries are listed by the plain text: with commas between them and no white space around. -/
theorem lists_intercalate {entries : List String} (he : ∀ e ∈ entries, IsEntry e)
    (hne : entries ≠ []) (hone : entries ≠ [""]) : Lists (",".intercalate entries) entries := by
  refine .fields he hne hone (List.forall₂_same.2 ?_)
  intro entry _
  exact pads_self entry.toList

/-- **Entries that some text lists are listed by the plain one.** -/
theorem Lists.intercalate {text : String} {entries : List String} (h : Lists text entries) :
    Lists (",".intercalate entries) entries := by
  cases h with
  | nothing h =>
    apply Lists.nothing
    rw [String.intercalate_nil]
    intro c hc
    exact absurd hc List.not_mem_nil
  | fields he hne hone h => exact lists_intercalate he hne hone

/-! ## Empty entries -/

/-- **Lowering reports an empty entry where there is one**, whatever else is wrong. -/
theorem emptyEntry_reported_iff {c : Catalog} {moduleId astPath : String} {i : Nat} :
    (∃ es, c.lower moduleId astPath = .error es ∧ .emptyEntry i ∈ es.errors) ↔
      c.kinds[i]? = some "" := by
  have hmem : CatalogError.emptyEntry i ∈ Plan.errorsOf (Plan.verdicts c) ↔
      c.kinds[i]? = some "" := by
    rw [Plan.mem_errorsOf_verdicts]
    constructor
    · rintro ⟨name, hi, hc⟩
      cases hc with
      | empty h =>
        subst h
        exact hi
    · intro hi
      exact ⟨"", hi, .empty rfl⟩
  constructor
  · rintro ⟨es, hl, he⟩
    rw [(Plan.lower_eq_error_iff.1 hl).2] at he
    exact hmem.1 he
  · intro hi
    have he := hmem.2 hi
    exact ⟨⟨Plan.errorsOf (Plan.verdicts c)⟩,
      Plan.lower_eq_error_iff.2 ⟨List.ne_nil_of_mem he, rfl⟩, he⟩

/-- An entry is empty exactly if the field at its place is blank. -/
theorem getElem?_parseKinds_eq_empty_iff {text : String} {pieces : List String}
    (h : CommaFields text pieces) (hb : ¬ IsBlank text.toList) {i : Nat} :
    (parseKinds text)[i]? = some "" ↔ ∃ piece, pieces[i]? = some piece ∧ IsBlank piece.toList := by
  rw [parseKinds_of_commaFields h hb, List.getElem?_map, Option.map_eq_some_iff]
  simp only [trim_eq_empty_iff]

/-- **Reading a list of kinds.** A text is read as no entries exactly if it is blank. Otherwise
there is one entry for each of its fields, which are uniquely determined, and the entry is the
field without the white space around it.

So entries that are written with commas between them, and any white space around them, are read
back; what is read can be written with commas and is read again; and lowering what is read reports
an empty entry at an index exactly if the field at that index is blank. -/
theorem parseKinds_trims_fields (text : String) :
    (parseKinds text = [] ↔ IsBlank text.toList) ∧
      (∃! pieces, CommaFields text pieces) ∧
      (¬ IsBlank text.toList → ∀ pieces, CommaFields text pieces →
        List.Forall₂ (fun piece entry => Pads piece.toList entry.toList ∧ IsTrimmed entry.toList)
          pieces (parseKinds text) ∧
        ∀ moduleId astPath i,
          (∃ es, (explicit (parseKinds text)).lower moduleId astPath = .error es ∧
            .emptyEntry i ∈ es.errors) ↔
          ∃ piece, pieces[i]? = some piece ∧ IsBlank piece.toList) ∧
      (∀ entries pieces, (∀ e ∈ entries, IsTrimmed e.toList ∧ ',' ∉ e.toList) → entries ≠ [] →
        entries ≠ [""] →
        List.Forall₂ (fun piece entry => Pads piece.toList entry.toList) pieces entries →
        parseKinds (",".intercalate pieces) = entries) ∧
      parseKinds (",".intercalate (parseKinds text)) = parseKinds text := by
  refine ⟨parseKinds_eq_nil_iff, existsUnique_commaFields text, ?_, ?_,
    (lists_parseKinds text).intercalate.parseKinds_eq⟩
  · intro hb pieces hp
    refine ⟨forall₂_parseKinds hp hb, fun moduleId astPath i => ?_⟩
    rw [emptyEntry_reported_iff]
    exact getElem?_parseKinds_eq_empty_iff hp hb
  · intro entries pieces he hne hone h
    exact (Lists.fields (fun e hm => ⟨(he e hm).1, (he e hm).2⟩) hne hone h).parseKinds_eq

/-- Four fields with white space around some of them, of which the second is blank. -/
def spacedFields : List String := ["\u00a0Ident ", "\t\u3000", "\u2003a#b", "Ident"]

/-- Entries with white space of several kinds around them are read back, and the empty one among
them is reported at its place. -/
theorem parseKinds_trims_fields_spaced :
    ¬ IsBlank (",".intercalate spacedFields).toList ∧
      CommaFields (",".intercalate spacedFields) spacedFields ∧
      parseKinds (",".intercalate spacedFields) = ["Ident", "", "a#b", "Ident"] ∧
      ∃ es, (explicit ["Ident", "", "a#b", "Ident"]).lower "m" "syn" = .error es ∧
        .emptyEntry 1 ∈ es.errors := by
  have hb : ¬ IsBlank (",".intercalate spacedFields).toList := by decide
  have hp : CommaFields (",".intercalate spacedFields) spacedFields := ⟨by decide, by decide, rfl⟩
  have hentries : ∀ e ∈ ["Ident", "", "a#b", "Ident"], trim e = e ∧ ',' ∉ e.toList := by decide
  obtain ⟨-, -, hfields, hwritten, -⟩ := parseKinds_trims_fields (",".intercalate spacedFields)
  have hread := hwritten ["Ident", "", "a#b", "Ident"] spacedFields
    (fun e hm => ⟨(trim_eq_iff.1 (hentries e hm).1).2, (hentries e hm).2⟩) (by decide) (by decide)
    (.cons (trim_eq_iff.1 (by decide)).1 (.cons (trim_eq_iff.1 (by decide)).1
      (.cons (trim_eq_iff.1 (by decide)).1 (.cons (pads_self _) .nil))))
  have hreported := ((hfields hb _ hp).2 "m" "syn" 1).2 ⟨"\t\u3000", rfl, by decide⟩
  rw [hread] at hreported
  exact ⟨hb, hp, hread, hreported⟩

end DispatchLayer.Catalog
