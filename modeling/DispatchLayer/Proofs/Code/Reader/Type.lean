import DispatchLayer.Code.Build
import DispatchLayer.Proofs.Code.Reader.Path

/-!
# Reading types

A type is read back in front of anything that could not be more of it (`EndsTy`). Where two lists of
generic arguments close one after the other, the first closing bracket is joint with the second one,
so what is said of a type covers both of its spellings (`closed`). Types are read back from a depth
of nesting on that follows from their parts (`TyReads`, `ArgReads`).
-/

namespace DispatchLayer.Code.Reader

open Token

variable {ts mid rest more : List Token} {n w : String} {g : Grammar}

/-! ## What follows a type -/

/-- Whether the tokens cannot be taken for more of a type. -/
def endsTy : List Token → Bool
  | [] => true
  | .ident _ :: _ => true
  | .closing _ :: _ => true
  | .opening d :: _ => d = .brace
  | .punct c s :: _ => [',', '>', ';', '='].contains c || (c == ':' && s == .alone)
  | .literal _ :: _ => false

/-- What a type could go on with does not follow. -/
structure EndsTy (ts : List Token) : Prop where
  segment : startsSegment ts = false
  arguments : startsArguments false ts = false
  bang : startsBang ts = false
  plus : startsOp ['+'] ts = false
  parens : startsParenArguments ts = false
  arrow : startsOp ['-', '>'] ts = false

theorem endsTy_spec (h : endsTy rest = true) : EndsTy rest := by
  cases rest with
  | nil => exact ⟨rfl, rfl, rfl, rfl, rfl, rfl⟩
  | cons t rest =>
    cases t with
    | ident n => exact ⟨rfl, rfl, rfl, rfl, rfl, rfl⟩
    | closing d => exact ⟨rfl, rfl, rfl, rfl, rfl, rfl⟩
    | literal text => cases h
    | opening d =>
      obtain rfl := of_decide_eq_true h
      exact ⟨rfl, rfl, rfl, rfl, rfl, rfl⟩
    | punct c s =>
      simp only [endsTy, List.contains_cons, List.contains_nil, Bool.or_false, Bool.or_eq_true,
        Bool.and_eq_true, beq_iff_eq] at h
      rcases h with (rfl | rfl | rfl | rfl) | ⟨rfl, rfl⟩
      · cases s with
        | _ => exact ⟨rfl, rfl, rfl, rfl, rfl, rfl⟩
      · cases s with
        | _ => exact ⟨rfl, rfl, rfl, rfl, rfl, rfl⟩
      · cases s with
        | _ => exact ⟨rfl, rfl, rfl, rfl, rfl, rfl⟩
      · cases s with
        | _ => exact ⟨rfl, rfl, rfl, rfl, rfl, rfl⟩
      · exact ⟨rfl, rfl, rfl, rfl, rfl, rfl⟩

/-! ## Closing brackets in a row -/

/-- Tokens whose last closing angle bracket has another one behind it, or not. -/
def closed (j : Bool) (ts : List Token) : List Token := if j then joinCloser ts else ts

theorem closed_append (j : Bool) {ts more : List Token} (h : more ≠ []) :
    closed j (ts ++ more) = ts ++ closed j more := by
  cases j with
  | false => rfl
  | true => exact joinCloser_append h

theorem closed_cons (j : Bool) (t : Token) {ts : List Token} (h : ts ≠ []) :
    closed j (t :: ts) = t :: closed j ts := @closed_append j [t] ts h

theorem closed_ident (j : Bool) (n : String) : closed j [.ident n] = [.ident n] := by
  cases j with
  | _ => rfl

theorem closed_ident_cons (j : Bool) (n : String) (ts : List Token) :
    ∃ us, closed j (.ident n :: ts) = .ident n :: us := by
  cases ts with
  | nil => exact ⟨[], closed_ident j n⟩
  | cons t ts => exact ⟨_, closed_cons j _ (by simp)⟩

theorem closed_angled (j : Bool) (ts : List Token) :
    closed j (angled ts) =
      mark '<' :: (joinCloser ts ++ [Token.punct '>' (if j then .joint else .alone)]) := by
  show closed j ((mark '<' :: joinCloser ts) ++ [mark '>']) = _
  rw [closed_append j (by simp)]
  cases j with
  | _ => rfl

/-! ## Types -/

/-- Whether the tokens begin with a name or a mark of those that types begin with here. -/
def opensTy : List Token → Bool
  | .ident n :: _ => !(["true", "false", "mut"].contains n)
  | .punct c _ :: _ => c == ':' || c == '&'
  | _ => false

/-- From a depth on the type is read, in front of anything that could not be more of it; `plus` tells
whether it is read where bounds with `+` may follow. -/
structure TyReads (plus : Bool) (d : Nat) (t : Ty) : Prop where
  opens : opensTy t.spell = true
  takes : ∀ j n rest, d ≤ n → endsTy rest = true →
    Takes ((Grammar.ofDepth (n + 1)).ty plus) (closed j t.spell ++ rest) rest t

/-- The same for an argument in angle brackets. -/
structure ArgReads (d : Nat) (a : GenericArg) : Prop where
  opens : startsOp ['>'] a.spell = false ∧ a.spell ≠ []
  takes : ∀ j n rest, d ≤ n → (startsOp [','] rest = true ∨ startsOp ['>'] rest = true) →
    Takes (genericArg (Grammar.ofDepth n)) (closed j a.spell ++ rest) rest a

/-- What a type begins with that is a path. -/
structure OpensPath (ts : List Token) : Prop where
  ty : opensTy ts = true
  binder : startsWord "for" ts = false
  parens : startsGroup .paren ts = false
  function : startsAnyWord ["fn", "unsafe", "extern"] ts = false
  path : startsPath ts = true
  unqualified : startsOp ['<'] ts = false

theorem opensPath_ident (h : isSegmentName n = true) (ht : n ≠ "try") :
    OpensPath (.ident n :: ts) := by
  have hwords : ∀ w ∈ ["true", "false", "mut"], isSegmentName w = false := by decide
  have hty : opensTy (.ident n :: ts) = true := by
    show (!(["true", "false", "mut"].contains n)) = true
    rw [Bool.not_eq_true', Bool.eq_false_iff]
    intro hm
    rw [hwords n (List.contains_iff_mem.1 hm)] at h
    cases h
  cases hn : Keyword.isReserved n with
  | false =>
    refine ⟨hty, startsWord_plain hn (by decide), rfl,
      startsAnyWord_plain hn (by decide), ?_, rfl⟩
    unfold startsPath
    rw [startsName_plain hn]
    rfl
  | true =>
    have hm := mem_pathWords_of_isSegmentName h ht hn
    simp only [pathWords, List.mem_cons, List.not_mem_nil, or_false] at hm
    rcases hm with rfl | rfl | rfl | rfl
    · exact ⟨hty, rfl, rfl, rfl, rfl, rfl⟩
    · exact ⟨hty, rfl, rfl, rfl, rfl, rfl⟩
    · exact ⟨hty, rfl, rfl, rfl, rfl, rfl⟩
    · exact ⟨hty, rfl, rfl, rfl, rfl, rfl⟩

theorem opensPath_colons : OpensPath (colons ++ ts) := ⟨rfl, rfl, rfl, rfl, rfl, rfl⟩

theorem takes_binder?_not (h : startsWord "for" ts = false) : Takes (binder? g) ts ts none := by
  refine Takes.ahead ?_
  rw [h]
  exact takes_pure

theorem OpensPath.takes_ty {plus : Bool} {t : Ty} (h : OpensPath ts)
    (ht : Takes (pathType g plus none) ts rest t) : Takes (typeWith g plus) ts rest t := by
  refine (takes_binder?_not h.binder).bind (Takes.ahead ?_)
  rw [if_neg (by simp), h.parens, h.function, h.path]
  exact ht

/-- A path whose last segment may have arguments is a type. -/
theorem takes_pathType {plus leading : Bool} {ss : List Segment} {spell : Segment → List Token}
    (hne : ss ≠ []) (hseg : ∀ s ∈ ss, SegmentReads (angleArguments g) false (spell s) s)
    (hrest : EndsTy rest) (hf : ss.length ≤ g.fuel)
    (hangle : startsOp ['<'] (colonsIf leading ++ separatedBy colons (ss.map spell) ++ rest) = false) :
    Takes (pathType g plus none)
      (colonsIf leading ++ separatedBy colons (ss.map spell) ++ rest) rest
      (Ty.ofPath (.mk leading ss)) := by
  have hp : Takes (pathWith g (angleArguments g) false)
      (colonsIf leading ++ separatedBy colons (ss.map spell) ++ rest) rest (.mk leading ss) :=
    takes_pathWith hne hseg hrest.segment hrest.arguments hf
  have hq : Takes (qpath g false)
      (colonsIf leading ++ separatedBy colons (ss.map spell) ++ rest) rest
      (.plain (.mk leading ss)) :=
    (takes_op?_not hangle).bind (hp.bind takes_pure)
  refine hq.bind (Takes.ahead ?_)
  dsimp only
  rw [hrest.bang]
  cases (Path.mk leading ss).asPlain? with
  | _ =>
    refine Takes.ahead ?_
    rw [hrest.plus, Bool.and_false]
    exact takes_pure

/-- From a depth on the segment is read as the last one of a path in a type. -/
def SegmentReadsAt (d : Nat) (s : Segment) : Prop :=
  ∀ j n, d ≤ n →
    SegmentReads (angleArguments (Grammar.ofDepth n)) false (closed j s.spell) s

theorem segmentReadsAt_name (d : Nat) (h : isSegmentName n = true) :
    SegmentReadsAt d (.name n) := by
  intro j k _
  have hs : closed j (Segment.name n).spell = [.ident n] := closed_ident j n
  rw [hs]
  exact segmentReads_name _ false h

variable {leading : Bool} {names : List String} {last : Segment} {d : Nat}

/-- The tokens of a path of names up to its last segment, and what follows them. -/
def pathUpTo (leading : Bool) (names : List String) (ts : List Token) : List Token :=
  colonsIf leading ++ ((names.flatMap fun n => .ident n :: colons) ++ ts)

theorem pathUpTo_append (more : List Token) :
    pathUpTo leading names ts ++ more = pathUpTo leading names (ts ++ more) := by
  unfold pathUpTo
  rw [List.append_assoc, List.append_assoc]

theorem closed_pathUpTo (j : Bool) (h : ts ≠ []) :
    closed j (pathUpTo leading names ts) = pathUpTo leading names (closed j ts) := by
  unfold pathUpTo
  rw [closed_append j (by simp [h]), closed_append j h]

/-- The tokens of a path, however its last segment is spelled. -/
theorem spell_path (spell : Segment → List Token) (hs : ∀ n, spell (.name n) = [.ident n]) :
    colonsIf leading ++ separatedBy colons ((names.map Segment.name ++ [last]).map spell) =
      pathUpTo leading names (spell last) := by
  unfold pathUpTo
  rw [List.map_append, List.map_singleton, separatedBy_concat, List.map_map, List.flatMap_map]
  simp only [Function.comp, hs, List.singleton_append]

theorem spell_pathEnding (leading : Bool) (names : List String) (last : Segment) :
    (Path.mk leading (names.map Segment.name ++ [last])).spell =
      pathUpTo leading names last.spell := by
  show colonsIf leading ++ separatedBy colons (spellSegments _) = _
  rw [spellSegments_eq_map]
  exact spell_path Segment.spell fun _ => rfl

/-- The names of a path that can begin a type, up to its last segment, which is called `m`. A path
that begins with `try` is none. -/
structure TypePath (leading : Bool) (names : List String) (m : String) : Prop where
  segments : ∀ n ∈ names ++ [m], isSegmentName n = true
  head : leading = false → (names ++ [m]).head? ≠ some "try"

theorem TypePath.opens (h : TypePath leading names n) :
    OpensPath (pathUpTo leading names (.ident n :: ts)) := by
  cases leading with
  | true => exact opensPath_colons
  | false =>
    have hhead := h.head rfl
    cases names with
    | nil => exact opensPath_ident (h.segments n (by simp)) (by simpa using hhead)
    | cons m names => exact opensPath_ident (h.segments m (by simp)) (by simpa using hhead)

/-- **Paths are types**, if they can begin one. The last segment may have arguments. -/
theorem tyReads_path (plus : Bool) (h : TypePath leading names n) (hl : SegmentReadsAt d last)
    (hn : ∃ ts, last.spell = .ident n :: ts) (hd : names.length < d) :
    TyReads plus d (Ty.ofPath (.mk leading (names.map Segment.name ++ [last]))) := by
  obtain ⟨ts, hts⟩ := hn
  constructor
  · rw [spell_tyOfPath, spell_pathEnding, hts]
    exact h.opens.ty
  · intro j k rest hk hrest
    have hseg : ∀ s ∈ names.map Segment.name ++ [last],
        SegmentReads (angleArguments (Grammar.ofDepth k)) false (closed j s.spell) s := by
      intro s hs
      rcases List.mem_append.1 hs with hs | hs
      · obtain ⟨m, hm, rfl⟩ := List.mem_map.1 hs
        exact segmentReadsAt_name d (h.segments m (by simp [hm])) j k hk
      · rw [List.mem_singleton.1 hs]
        exact hl j k hk
    -- Only the brackets of the last segment can have another one behind them.
    have htokens : colonsIf leading ++ separatedBy colons
        ((names.map Segment.name ++ [last]).map fun s => closed j s.spell) =
        pathUpTo leading names (closed j last.spell) :=
      spell_path (fun s => closed j s.spell) fun n => closed_ident j n
    have hopens : OpensPath (pathUpTo leading names (closed j last.spell) ++ rest) := by
      obtain ⟨us, hus⟩ := closed_ident_cons j n ts
      rw [hts, hus, pathUpTo_append, List.cons_append]
      exact h.opens
    rw [spell_tyOfPath, spell_pathEnding, closed_pathUpTo j (by rw [hts]; simp), ← htokens]
    rw [← htokens] at hopens
    have hf : (names.map Segment.name ++ [last]).length ≤ (Grammar.ofDepth k).fuel := by
      rw [fuel_ofDepth, List.length_append, List.length_map, List.length_singleton]
      omega
    exact hopens.takes_ty
      (takes_pathType (by simp) hseg (endsTy_spec hrest) hf hopens.unqualified)

/-! ## Arguments in angle brackets -/

theorem exists_of_startsOp {c : Char} (h : startsOp [c] ts = true) :
    ∃ s more, ts = .punct c s :: more := by
  cases ts with
  | nil => cases h
  | cons t ts =>
    cases t with
    | punct d s =>
      obtain rfl := of_decide_eq_true h
      exact ⟨s, ts, rfl⟩
    | ident n => cases h
    | literal text => cases h
    | opening d => cases h
    | closing d => cases h

/-- What follows an argument: a comma, or the bracket that closes the list. -/
theorem endsArg_cases (h : startsOp [','] ts = true ∨ startsOp ['>'] ts = true) :
    ∃ c s more, ts = .punct c s :: more ∧ (c = ',' ∨ c = '>') := by
  rcases h with h | h
  · obtain ⟨s, more, rfl⟩ := exists_of_startsOp h
    exact ⟨_, s, more, rfl, Or.inl rfl⟩
  · obtain ⟨s, more, rfl⟩ := exists_of_startsOp h
    exact ⟨_, s, more, rfl, Or.inr rfl⟩

/-- What is known of tokens that begin like a type, however they go on. -/
structure OpensTy (ts : List Token) : Prop where
  lifetime : startsLifetime ts = false
  literal : startsLiteral ts = false
  group : ∀ d, startsGroup d ts = false
  closer : startsOp ['>'] ts = false
  inside : isEnd ts = false
  mutable : startsWord "mut" ts = false

theorem opensTy_spec (h : opensTy ts = true) : OpensTy ts := by
  cases ts with
  | nil => cases h
  | cons t ts =>
    cases t with
    | ident n =>
      simp only [opensTy, List.contains_cons, List.contains_nil, Bool.or_false, Bool.not_eq_true',
        Bool.or_eq_false_iff, beq_eq_false_iff_ne] at h
      exact ⟨rfl, by simp [startsLiteral, h], fun _ => rfl, rfl, rfl, by simp [startsWord, h]⟩
    | punct c s =>
      simp only [opensTy, Bool.or_eq_true, beq_iff_eq] at h
      rcases h with rfl | rfl
      · exact ⟨rfl, rfl, fun _ => rfl, rfl, rfl, rfl⟩
      · exact ⟨rfl, rfl, fun _ => rfl, rfl, rfl, rfl⟩
    | literal text => cases h
    | opening d => cases h
    | closing d => cases h

theorem opensTy_append (h : opensTy ts = true) (more : List Token) :
    opensTy (ts ++ more) = true := by
  cases ts with
  | nil => cases h
  | cons t ts =>
    cases t with
    | _ => exact h

theorem opensTy_closed (h : opensTy ts = true) (j : Bool) : opensTy (closed j ts) = true := by
  cases ts with
  | nil => cases h
  | cons t ts =>
    by_cases hts : ts = []
    · subst hts
      cases t with
      | ident n =>
        rw [closed_ident]
        exact h
      | punct c s =>
        simp only [opensTy, Bool.or_eq_true, beq_iff_eq] at h
        cases j with
        | false => simpa [closed, opensTy] using h
        | true =>
          rcases h with rfl | rfl
          · rfl
          · rfl
      | literal text => cases h
      | opening d => cases h
      | closing d => cases h
    · rw [closed_cons j t hts]
      cases t with
      | _ => exact h

theorem argReads_lifetime (d : Nat) (n : String) : ArgReads d (.lifetime n) := by
  refine ⟨⟨rfl, by simp [GenericArg.spell, Token.lifetime]⟩, fun j k rest _ hrest => ?_⟩
  have hs : closed j (GenericArg.lifetime n).spell = Token.lifetime n := by
    cases j with
    | _ => rfl
  have hplus : startsOp ['+'] rest = false := by
    obtain ⟨c, s, more, rfl, rfl | rfl⟩ := endsArg_cases hrest
    · rfl
    · rfl
  rw [hs]
  refine Takes.ahead ?_
  rw [if_pos (by show (true && !startsOp ['+'] rest) = true; rw [hplus]; rfl)]
  exact (takes_lifetime n).bind takes_pure

/-- A type as an argument: nothing is bound to it. -/
theorem TyReads.arg {t : Ty} (h : TyReads true d t) : ArgReads (d + 1) (.type t) := by
  have hopens := opensTy_spec h.opens
  refine ⟨⟨hopens.closer, ?_⟩, fun j k rest hk hrest => ?_⟩
  · intro hnil
    have ho := h.opens
    rw [show t.spell = [] from hnil] at ho
    cases ho
  · obtain ⟨k, rfl⟩ := Nat.exists_eq_add_of_lt (Nat.lt_of_lt_of_le (Nat.succ_pos d) hk)
    rw [Nat.zero_add] at hk ⊢
    have hends : endsTy rest = true := by
      obtain ⟨c, s, more, rfl, rfl | rfl⟩ := endsArg_cases hrest
      · rfl
      · rfl
    have ho := opensTy_spec (opensTy_append (opensTy_closed h.opens j) rest)
    rw [show (GenericArg.type t).spell = t.spell from rfl]
    refine Takes.ahead ?_
    rw [ho.lifetime, ho.literal, ho.group .brace]
    refine (h.takes j k rest (Nat.le_of_succ_le_succ hk) hends).bind ?_
    -- Neither an equals sign nor a colon follows.
    unfold afterArgument
    cases bindable? t with
    | none => exact takes_pure
    | some s =>
      obtain ⟨c, s, more, rfl, rfl | rfl⟩ := endsArg_cases hrest
      · exact (takes_op?_not rfl).bind ((takes_op?_not rfl).bind takes_pure)
      · exact (takes_op?_not rfl).bind ((takes_op?_not rfl).bind takes_pure)

theorem startsOp_closed (c : Char) (j : Bool) (h : ts ≠ []) (more : List Token) :
    startsOp [c] (closed j ts ++ more) = startsOp [c] ts := by
  obtain ⟨t, us, rfl⟩ := List.exists_cons_of_ne_nil h
  by_cases hus : us = []
  · subst hus
    cases j with
    | false => cases t <;> rfl
    | true =>
      cases t with
      | punct d s =>
        obtain ⟨s', us', hs'⟩ := joinCloser_punct d s []
        rw [closed, if_pos rfl, hs']
        rfl
      | _ => rfl
  · rw [closed_cons j t hus]
    cases t <;> rfl

/-- One argument between angle brackets. -/
theorem takes_angleArguments {a : GenericArg} {s : Spacing} (h : ArgReads d a) (hd : 1 < d)
    {k : Nat} (hk : d ≤ k) :
    Takes (angleArguments (Grammar.ofDepth k))
      (mark '<' :: (closed true a.spell ++ .punct '>' s :: rest)) rest [a] := by
  have hitem : ∀ b ∈ [a], ∀ more, (startsOp [','] more = true ∨ startsOp ['>'] more = true) →
      startsOp ['>'] (closed true b.spell ++ more) = false ∧
        Takes (genericArg (Grammar.ofDepth k)) (closed true b.spell ++ more) more b := by
    intro b hb more hmore
    rw [List.mem_singleton.1 hb]
    exact ⟨(startsOp_closed '>' true h.opens.2 more).trans h.opens.1, h.takes true k more hk hmore⟩
  have hfuel : [a].length < (Grammar.ofDepth k).fuel := by
    rw [fuel_ofDepth]
    exact Nat.lt_of_lt_of_le hd hk
  have hrest : startsOp [','] (.punct '>' s :: rest) = true ∨
      startsOp ['>'] (.punct '>' s :: rest) = true := Or.inr rfl
  have hlist := takes_commaList hitem (fun more => ⟨Or.inl rfl, rfl⟩) hrest rfl hfuel
  exact (takes_op rfl).bind (hlist.bind ((takes_op rfl).bind takes_pure))

/-- A name with one argument in angle brackets, as a segment of a type. -/
theorem segmentReadsAt_angle {a : GenericArg} (hn : Keyword.isReserved n = false)
    (h : ArgReads d a) (hd : 1 < d) : SegmentReadsAt d (.angle n false [a]) := by
  intro j k hk
  have hs : closed j (Segment.angle n false [a]).spell =
      .ident n :: mark '<' ::
        (closed true a.spell ++ [Token.punct '>' (if j then .joint else .alone)]) := by
    show closed j (.ident n :: angled a.spell) = _
    rw [closed_cons j _ (by simp [angled]), closed_angled]
    rfl
  rw [hs]
  refine ⟨⟨n, _, rfl⟩, fun rest _ => ?_⟩
  rw [List.cons_append, List.cons_append, List.append_assoc, List.singleton_append]
  refine takes_segment_plain hn ?_
  rw [if_pos (by rfl)]
  exact (takes_op?_not rfl).bind ((takes_angleArguments h hd hk).bind takes_pure)

/-! ## References -/

theorem takes_lifetime?_not (h : startsLifetime ts = false) : Takes lifetime? ts ts none := by
  refine Takes.ahead ?_
  rw [h]
  exact takes_pure

theorem takes_lifetime? (n : String) : Takes lifetime? (Token.lifetime n ++ rest) rest (some n) :=
  fun _ => rfl

/-- A type behind a sign for references. -/
theorem TyReads.reference {t : Ty} (plus : Bool) (life : Option String) (mutable : Bool)
    (h : TyReads false d t) : TyReads plus (d + 1) (.reference life mutable t) := by
  refine ⟨rfl, fun j k rest hk hrest => ?_⟩
  have hne : t.spell ≠ [] := by
    intro hnil
    have ho := h.opens
    rw [hnil] at ho
    cases ho
  obtain ⟨k, rfl⟩ := Nat.exists_eq_add_of_lt (Nat.lt_of_lt_of_le (Nat.succ_pos d) hk)
  rw [Nat.zero_add] at hk ⊢
  have hs : closed j (Ty.reference life mutable t).spell ++ rest =
      mark '&' :: (spellLifetime? life ++ (wordIf mutable "mut" ++ (closed j t.spell ++ rest))) := by
    show closed j ((mark '&' :: spellLifetime? life ++ wordIf mutable "mut") ++ t.spell) ++ rest = _
    rw [closed_append j hne, List.append_assoc, List.append_assoc]
    rfl
  have hinner := h.takes j k rest (Nat.le_of_succ_le_succ hk) hrest
  have ho := opensTy_spec (opensTy_append (opensTy_closed h.opens j) rest)
  have hmutable : Takes (word? "mut") (wordIf mutable "mut" ++ (closed j t.spell ++ rest))
      (closed j t.spell ++ rest) mutable := by
    cases mutable with
    | true => exact takes_word? "mut"
    | false => exact takes_word?_not ho.mutable
  have hlife : Takes lifetime?
      (spellLifetime? life ++ (wordIf mutable "mut" ++ (closed j t.spell ++ rest)))
      (wordIf mutable "mut" ++ (closed j t.spell ++ rest)) life := by
    cases life with
    | some l => exact takes_lifetime? l
    | none =>
      refine takes_lifetime?_not ?_
      cases mutable with
      | true => rfl
      | false => exact ho.lifetime
  rw [hs]
  -- Beyond the binder, which is not there, only the sign itself fits.
  refine Takes.bind (takes_binder?_not rfl) (Takes.ahead ?_)
  exact (takes_drop 1).bind (hlife.bind (hmutable.bind (hinner.bind takes_pure)))

/-- A type is read by a grammar that is deep enough. -/
theorem TyReads.reads {plus : Bool} {t : Ty} (h : TyReads plus d t) (hg : Deep (d + 1) g)
    (hrest : endsTy rest = true) : Takes (g.ty plus) (t.spell ++ rest) rest t := by
  obtain ⟨n, hn, rfl⟩ := hg
  cases n with
  | zero => exact absurd hn (Nat.not_succ_le_zero d)
  | succ n => exact h.takes false n rest (Nat.le_of_succ_le_succ hn) hrest

end DispatchLayer.Code.Reader
