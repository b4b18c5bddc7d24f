import DispatchLayer.Proofs.Code.Reader.Bound
import DispatchLayer.Proofs.Code.Reader.Expr

/-!
# Reading patterns

A pattern is a name, the wildcard, or a path with one pattern in parentheses behind it. Names are
read in front of anything that would not make them the beginning of something longer (`EndsName`).
-/

namespace DispatchLayer.Code.Reader

open Token

variable {ts rest : List Token} {n w : String} {g : Grammar} {d : Nat} {p : Pat}

/-! ## Names -/

/-- What does not make a name the beginning of a longer pattern. -/
structure EndsName (ts : List Token) : Prop where
  colons : startsOp [':', ':'] ts = false
  bang : startsOp ['!'] ts = false
  group : ∀ d, startsGroup d ts = false
  range : startsOp ['.', '.'] ts = false
  whole : startsOp ['@'] ts = false

theorem startsLiteral_plain (hn : Keyword.isReserved n = false) :
    startsLiteral (.ident n :: ts) = false := by
  have ht : n ≠ "true" := by
    rintro rfl
    exact absurd hn (by decide)
  have hf : n ≠ "false" := by
    rintro rfl
    exact absurd hn (by decide)
  simp [startsLiteral, ht, hf]

theorem takes_pat_name (hg : Deep 1 g) (hn : Keyword.isReserved n = false) (hrest : EndsName rest) :
    Takes g.pat (.ident n :: rest) rest (Pat.name n) := by
  obtain ⟨g', -, rfl⟩ := hg.below
  have hword : ∀ {w}, Keyword.isReserved w = true → startsWord w (.ident n :: rest) = false :=
    fun hw => startsWord_plain hn hw
  have hwords : ∀ {ws}, ws.all Keyword.isReserved = true →
      startsAnyWord ws (.ident n :: rest) = false := fun hws => startsAnyWord_plain hn hws
  have hlong : startsLongPattern (.ident n :: rest) = false := by
    unfold startsLongPattern
    show (_ && (startsOp [':', ':'] rest || startsOp ['!'] rest || startsGroup .brace rest ||
      startsGroup .paren rest || startsOp ['.', '.'] rest) || startsWord "self" _ && _ || false ||
      false || _) = false
    rw [startsName_plain hn, hrest.colons, hrest.bang, hrest.group, hrest.group, hrest.range,
      hword (by decide), hwords (by decide +kernel)]
    rfl
  have hname : Takes (namePattern g') (.ident n :: rest) rest (Pat.name n) := by
    have hself : Takes (nameOr "self") (.ident n :: rest) rest n := by
      refine Takes.ahead ?_
      rw [hword (by decide)]
      exact takes_name hn
    exact (takes_word?_not (hword (by decide))).bind
      ((takes_word?_not (hword (by decide))).bind
        (hself.bind ((takes_op?_not hrest.whole).bind takes_pure)))
  -- A plain name begins no other form of pattern.
  refine Takes.ahead ?_
  rw [hlong, hword (w := "_") (by decide), hword (w := "box") (by decide +kernel),
    startsLiteral_plain hn, hword (w := "const") (by decide), startsName_plain hn,
    Bool.or_true]
  exact hname

/-! ## Alternatives -/

/-- No bar follows a pattern. -/
theorem takes_alternatives (hbar : startsOp ['|'] ts = false) (h : Takes g.pat ts rest p)
    (hrest : startsOp ['|'] rest = false) : Takes (alternatives g) ts rest p := by
  refine (takes_op?_not hbar).bind (h.bind (Takes.ahead ?_))
  rw [if_neg (by simp [hrest])]
  exact takes_pure

/-! ## Patterns in parentheses -/

/-- From a depth on the pattern is read in front of a closing parenthesis. -/
structure PatReads (d : Nat) (p : Pat) : Prop where
  bar : ∀ more, startsOp ['|'] (p.spell ++ more) = false
  inside : ∀ more, isEnd (p.spell ++ more) = false
  takes : ∀ g rest, Deep d g →
    Takes g.pat (p.spell ++ .closing .paren :: rest) (.closing .paren :: rest) p

theorem PatReads.mono {d' : Nat} (h : PatReads d p) (hd : d ≤ d') : PatReads d' p :=
  { h with takes := fun g rest hg => h.takes g rest (hg.mono hd) }

theorem patReads_wild : PatReads 1 .wild := by
  refine ⟨fun _ => rfl, fun _ => rfl, fun g rest hg => ?_⟩
  obtain ⟨g', -, rfl⟩ := hg.below
  exact fun _ => rfl

theorem patReads_name (hn : Keyword.isReserved n = false) : PatReads 1 (Pat.name n) :=
  ⟨fun _ => rfl, fun _ => rfl, fun _ _ hg => takes_pat_name hg hn ⟨rfl, rfl, fun _ => rfl, rfl, rfl⟩⟩

/-- A name and whatever comes behind it is read as a path first. -/
theorem startsLongPattern_wrap {names : List String} (hw : Keyword.isReserved w = false) :
    startsLongPattern ((Path.ofNames false (w :: names)).spell ++ .opening .paren :: rest) = true := by
  have hname : ∀ ts, startsName (.ident w :: ts) = true := fun _ => startsName_plain hw
  unfold startsLongPattern
  cases names with
  | nil =>
    show (startsName (.ident w :: _) && _ || _ || _ || _ || _) = true
    rw [hname]
    rfl
  | cons n names =>
    show (startsName (.ident w :: _) && _ || _ || _ || _ || _) = true
    rw [hname]
    rfl

/-- A single pattern in the parentheses of a longer one. -/
theorem takes_patterns_single (hg : Deep (d + 1) g) (hp : PatReads d p) :
    Takes (patterns g) (p.spell ++ .closing .paren :: rest) (.closing .paren :: rest) [p] := by
  have htakes := hp.takes g rest (hg.mono (Nat.le_succ d))
  obtain ⟨fuel, hfuel⟩ := Nat.exists_eq_add_of_le' hg.fuel
  unfold patterns
  rw [hfuel]
  refine takes_repeat_done (Takes.ahead ?_) (Nat.succ_pos _)
  rw [hp.inside]
  exact (takes_alternatives (hp.bar _) htakes rfl).bind (Takes.ahead takes_pure)

/-- One pattern in parentheses behind a path. -/
theorem takes_pat_wrap {names : List String} (hg : Deep (d + 2) g) (hp : PatReads d p)
    (h : ∀ n ∈ w :: names, Keyword.isReserved n = false) (hd : names.length ≤ d) :
    Takes g.pat ((Pat.wrap (w :: names) p).spell ++ rest) rest (Pat.wrap (w :: names) p) := by
  obtain ⟨g', hg', rfl⟩ := hg.below
  have hpath : Takes (qpath g' true)
      ((Path.ofNames false (w :: names)).spell ++
        .opening .paren :: (p.spell ++ .closing .paren :: rest))
      (.opening .paren :: (p.spell ++ .closing .paren :: rest))
      (.plain (Path.ofNames false (w :: names))) :=
    takes_qpath_names (by simp) (fun n hn => isSegmentName_plain (h n hn))
      (Nat.le_trans (Nat.succ_le_succ hd) hg'.fuel) rfl rfl
  have hspell : (Pat.wrap (w :: names) p).spell ++ rest =
      (Path.ofNames false (w :: names)).spell ++
        .opening .paren :: (p.spell ++ .closing .paren :: rest) := by
    show ((Path.ofNames false (w :: names)).spell ++
      Token.opening .paren :: (p.spell ++ [Token.closing .paren])) ++ rest = _
    simp
  rw [hspell]
  show Takes (patternWith g') _ _ _
  refine Takes.ahead ?_
  rw [if_pos (startsLongPattern_wrap (h w List.mem_cons_self))]
  refine hpath.bind (Takes.ahead ?_)
  cases macroPath? (.plain (Path.ofNames false (w :: names))) with
  | _ => exact (takes_grouped .paren (takes_patterns_single hg' hp)).bind takes_pure

end DispatchLayer.Code.Reader
