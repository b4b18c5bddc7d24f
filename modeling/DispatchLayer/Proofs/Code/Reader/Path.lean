import DispatchLayer.Code.Reader
import DispatchLayer.Proofs.Code.Reader.Basic
import DispatchLayer.Proofs.Code.WellSpelled
import DispatchLayer.Proofs.Token.Joint

/-!
# Reading names and paths

A segment of a path is called by a name, or by one of the words for a module or a type
(`isSegmentName`). A path is taken in front of anything that could be neither a further segment nor
arguments of the last one (`takes_pathWith`). Conversely, a path without arguments that was read is
spelled by the tokens it was read from (`of_pathWith`).
-/

namespace DispatchLayer.Code.Reader

open Token

variable {α β : Type} {ts mid rest more : List Token} {n w : String} {g : Grammar} {d : Nat}

/-! ## Names -/

theorem startsWord_plain (hn : Keyword.isReserved n = false) (hw : Keyword.isReserved w = true) :
    startsWord w (.ident n :: ts) = false := by
  refine decide_eq_false ?_
  rintro rfl
  rw [hw] at hn
  cases hn

theorem startsAnyWord_plain {ws : List String} (hn : Keyword.isReserved n = false)
    (hws : ws.all Keyword.isReserved = true) : startsAnyWord ws (.ident n :: ts) = false := by
  rw [List.all_eq_true] at hws
  exact List.any_eq_false.2 fun w hw => Bool.eq_false_iff.1 (startsWord_plain hn (hws w hw))

theorem startsName_plain (hn : Keyword.isReserved n = false) :
    startsName (.ident n :: ts) = true := by
  show (!Keyword.isReserved n) = true
  rw [hn]
  rfl

theorem startsOp_ident (c : Char) (cs : List Char) : startsOp (c :: cs) (.ident n :: ts) = false := by
  cases cs with
  | nil => rfl
  | cons d cs => rfl

/-- What a segment of a path can be called. -/
def isSegmentName (n : String) : Bool :=
  moduleWords.contains n || n == "Self" || !Keyword.isReserved n

/-- Where a segment is called by no name of its own, it is called by a word for a module or a type.
-/
theorem mem_pathWords_of_isSegmentName (h : isSegmentName n = true) (ht : n ≠ "try")
    (hn : Keyword.isReserved n = true) : n ∈ pathWords := by
  simp only [isSegmentName, moduleWords, hn, List.contains_cons, List.contains_nil, Bool.or_eq_true,
    beq_iff_eq, Bool.not_true, Bool.or_false, ht, or_false] at h
  rcases h with (rfl | rfl | rfl) | rfl
  all_goals decide

/-! ## Depth -/

theorem fuel_ofDepth (n : Nat) : (Grammar.ofDepth n).fuel = n := by
  induction n with
  | zero => rfl
  | succ n ih => exact congrArg (· + 1) ih

/-- The grammar is that of a nesting depth, at least `d`. -/
def Deep (d : Nat) (g : Grammar) : Prop := ∃ n, d ≤ n ∧ g = Grammar.ofDepth n

theorem Deep.mono {d' : Nat} (h : Deep d g) (hd : d' ≤ d) : Deep d' g := by
  obtain ⟨n, hn, rfl⟩ := h
  exact ⟨n, Nat.le_trans hd hn, rfl⟩

theorem Deep.fuel (h : Deep d g) : d ≤ g.fuel := by
  obtain ⟨n, hn, rfl⟩ := h
  rwa [fuel_ofDepth]

theorem Deep.below (h : Deep (d + 1) g) : ∃ g', Deep d g' ∧ g = g'.above := by
  obtain ⟨n, hn, rfl⟩ := h
  cases n with
  | zero => exact absurd hn (Nat.not_succ_le_zero d)
  | succ n => exact ⟨Grammar.ofDepth n, ⟨n, Nat.le_of_succ_le_succ hn, rfl⟩, rfl⟩

/-- The depths that a reader goes through on fixed tokens. -/
theorem Deep.exists_repeat (h : Deep d g) (k : Nat) (hk : k ≤ d) :
    ∃ g', g = Nat.repeat Grammar.above k g' := by
  induction k generalizing d g with
  | zero => exact ⟨g, rfl⟩
  | succ k ih =>
    obtain ⟨d, rfl⟩ := Nat.exists_eq_add_of_le' (Nat.le_trans (Nat.succ_le_succ (Nat.zero_le k)) hk)
    obtain ⟨g', hg', rfl⟩ := h.below
    obtain ⟨g'', rfl⟩ := ih hg' (Nat.le_of_succ_le_succ hk)
    exact ⟨g'', rfl⟩

/-! ## Segments -/

/-- A segment that is a name. -/
theorem takes_segmentWith (arguments : Reader (List GenericArg)) {inExpr : Bool}
    (h : isSegmentName n = true) (hargs : startsArguments inExpr rest = false) :
    Takes (segmentWith arguments inExpr) (.ident n :: rest) rest (.name n) := by
  refine Takes.ahead ?_
  split
  · exact (takes_anyName n).bind takes_pure
  · next hm =>
    -- Beyond the words for modules, the name is read with `Self` in the place of one.
    have hname : Takes (nameOr "Self") (.ident n :: rest) rest n := by
      refine Takes.ahead ?_
      split
      · exact takes_anyName n
      · next hs =>
        refine takes_name ?_
        rw [← Bool.not_eq_true']
        refine (Bool.or_eq_true_iff.1 h).resolve_left fun hs' => ?_
        rcases Bool.or_eq_true_iff.1 hs' with hs' | hs'
        · refine hm (List.any_eq_true.2 ⟨n, List.contains_iff_mem.1 hs', startsWord_self n⟩)
        · rw [eq_of_beq hs'] at hs
          exact hs (startsWord_self "Self")
    refine hname.bind (Takes.ahead ?_)
    rw [hargs]
    exact takes_pure

/-- A name of its own, and perhaps arguments behind it. -/
theorem takes_segment_plain {arguments : Reader (List GenericArg)} {inExpr : Bool} {s : Segment}
    (hn : Keyword.isReserved n = false)
    (h : Takes (if startsArguments inExpr ts then do
        let turbofish ← op? [':', ':']
        return .angle n turbofish (← arguments)
      else return .name n) ts rest s) :
    Takes (segmentWith arguments inExpr) (.ident n :: ts) rest s := by
  have hm : startsAnyWord moduleWords (.ident n :: ts) = false :=
    startsAnyWord_plain hn (by decide)
  have hs : startsWord "Self" (.ident n :: ts) = false := startsWord_plain hn (by decide)
  have hname : Takes (nameOr "Self") (.ident n :: ts) ts n := by
    refine Takes.ahead ?_
    rw [hs]
    exact takes_name hn
  refine Takes.ahead ?_
  rw [hm]
  exact hname.bind (Takes.ahead h)

/-! ## Paths -/

section Paths

variable {arguments : Reader (List GenericArg)} {inExpr : Bool} {spell : Segment → List Token}

theorem separatedBy_concat (op : List Token) (tss : List (List Token)) (t : List Token) :
    separatedBy op (tss ++ [t]) = tss.flatMap (· ++ op) ++ t := by
  induction tss with
  | nil => rfl
  | cons u tss ih =>
    have hne : tss ++ [t] ≠ [] := by simp
    obtain ⟨v, vs, hv⟩ := List.exists_cons_of_ne_nil hne
    rw [List.cons_append, List.flatMap_cons, List.append_assoc, ← ih, hv]
    rfl

theorem separatedBy_cons (op t : List Token) (tss : List (List Token)) :
    separatedBy op (t :: tss) = t ++ tss.flatMap (op ++ ·) := by
  induction tss generalizing t with
  | nil => exact (List.append_nil t).symm
  | cons u tss ih =>
    show t ++ op ++ separatedBy op (u :: tss) = _
    rw [ih, List.flatMap_cons, List.append_assoc, List.append_assoc]

/-- A segment is taken, however it is spelled, if nothing follows that would be its arguments. -/
structure SegmentReads (arguments : Reader (List GenericArg)) (inExpr : Bool) (ts : List Token)
    (s : Segment) : Prop where
  begins : ∃ n more, ts = .ident n :: more
  takes : ∀ rest, startsArguments inExpr rest = false →
    Takes (segmentWith arguments inExpr) (ts ++ rest) rest s

theorem segmentReads_name (arguments : Reader (List GenericArg)) (inExpr : Bool)
    (h : isSegmentName n = true) : SegmentReads arguments inExpr [.ident n] (.name n) :=
  ⟨⟨n, [], rfl⟩, fun _ hargs => takes_segmentWith arguments h hargs⟩

/-- What follows a segment is the rest, or the colons before the next one. -/
theorem startsArguments_segments {ss : List Segment}
    (hseg : ∀ s ∈ ss, SegmentReads arguments inExpr (spell s) s)
    (hargs : startsArguments inExpr rest = false) :
    startsArguments inExpr (ss.flatMap (fun s => colons ++ spell s) ++ rest) = false := by
  cases ss with
  | nil => exact hargs
  | cons u ss =>
    obtain ⟨⟨m, us, hu⟩, -⟩ := hseg u (by simp)
    rw [List.flatMap_cons, hu, List.append_assoc, List.append_assoc]
    cases inExpr with
    | _ => rfl

/-- Further segments, each with colons before it. -/
theorem takes_segmentsWith {ss : List Segment} (first : Segment)
    (hseg : ∀ s ∈ ss, SegmentReads arguments inExpr (spell s) s)
    (hrest : startsSegment rest = false) (hargs : startsArguments inExpr rest = false)
    (hf : ss.length < g.fuel) :
    Takes (segmentsWith g arguments inExpr first)
      (ss.flatMap (fun s => colons ++ spell s) ++ rest) rest (first :: ss) := by
  change Takes _ _ rest ([first].reverse ++ ss)
  refine takes_gatherFrom (fun _ us => ∀ u ∈ us, u ∈ ss)
    (fun us => us.flatMap (fun s => colons ++ spell s) ++ rest) (fun done us hus => ?_)
    (fun _ hu => hu) hf
  cases us with
  | nil =>
    refine Or.inl (Takes.ahead ?_)
    rw [List.flatMap_nil, List.nil_append, if_neg (Bool.eq_false_iff.1 hrest), List.append_nil]
    exact takes_pure
  | cons u us =>
    have hus' : ∀ s ∈ us, s ∈ ss := fun s hs => hus s (List.mem_cons_of_mem u hs)
    obtain ⟨⟨n, ts, hs⟩, ht⟩ := hseg u (hus u List.mem_cons_self)
    have hargs' := startsArguments_segments (fun s hs => hseg s (hus' s hs)) hargs
    refine Or.inr ⟨u, us, rfl, hus', Takes.ahead ?_⟩
    rw [List.flatMap_cons, List.append_assoc, List.append_assoc, if_pos (by rw [hs]; rfl)]
    exact (takes_drop 2).bind ((ht _ hargs').bind takes_pure)

theorem takes_pathWith {leading : Bool} {ss : List Segment} (hne : ss ≠ [])
    (hseg : ∀ s ∈ ss, SegmentReads arguments inExpr (spell s) s)
    (hrest : startsSegment rest = false) (hargs : startsArguments inExpr rest = false)
    (hf : ss.length ≤ g.fuel) :
    Takes (pathWith g arguments inExpr)
      (colonsIf leading ++ separatedBy colons (ss.map spell) ++ rest) rest (.mk leading ss) := by
  cases ss with
  | nil => exact absurd rfl hne
  | cons first ss =>
    obtain ⟨⟨n, ts, hs⟩, ht⟩ := hseg first (by simp)
    have hmore : ∀ s ∈ ss, SegmentReads arguments inExpr (spell s) s :=
      fun s h => hseg s (by simp [h])
    have hfirst := ht _ (startsArguments_segments hmore hargs)
    rw [List.map_cons, separatedBy_cons, List.flatMap_map, List.append_assoc, List.append_assoc]
    suffices h : Takes (op? [':', ':'])
        (colonsIf leading ++ (spell first ++ (ss.flatMap (fun s => colons ++ spell s) ++ rest)))
        (spell first ++ (ss.flatMap (fun s => colons ++ spell s) ++ rest)) leading from
      h.bind (hfirst.bind ((takes_segmentsWith first hmore hrest hargs hf).bind takes_pure))
    cases leading with
    | true => exact takes_op? rfl
    | false =>
      refine takes_op?_not ?_
      rw [hs]
      rfl

/-- A path of names. -/
theorem takes_pathWith_names (leading : Bool) {names : List String} (hne : names ≠ [])
    (h : ∀ n ∈ names, isSegmentName n = true) (hrest : startsSegment rest = false)
    (hargs : startsArguments inExpr rest = false) (hf : names.length ≤ g.fuel) :
    Takes (pathWith g arguments inExpr) ((Path.ofNames leading names).spell ++ rest) rest
      (Path.ofNames leading names) := by
  have hseg : ∀ s ∈ names.map Segment.name, SegmentReads arguments inExpr s.spell s :=
    List.forall_mem_map.2 fun n hn => segmentReads_name _ inExpr (h n hn)
  have hp : Takes (pathWith g arguments inExpr)
      (colonsIf leading ++ separatedBy colons ((names.map Segment.name).map Segment.spell) ++ rest)
      rest (.mk leading (names.map Segment.name)) :=
    takes_pathWith (by simpa using hne) hseg hrest hargs (by simpa using hf)
  rwa [← spellSegments_eq_map] at hp

end Paths

/-! ## What was read -/

section Read

variable {i i' : Input}

theorem of_bind {r : Reader α} {f : α → Reader β} {b : β} (h : (r >>= f) i = .ok (b, i')) :
    ∃ a j, r i = .ok (a, j) ∧ f a j = .ok (b, i') := by
  cases hr : r i with
  | error e =>
    have he : (r >>= f) i = .error e := by
      show (r i >>= fun p => f p.1 p.2) = _
      rw [hr]
      rfl
    rw [he] at h
    cases h
  | ok p =>
    obtain ⟨a, j⟩ := p
    have hj : (r >>= f) i = f a j := by
      show (r i >>= fun p => f p.1 p.2) = _
      rw [hr]
      rfl
    exact ⟨a, j, rfl, hj ▸ h⟩

theorem of_anyName (h : anyName i = .ok (n, i')) : i.tokens = .ident n :: i'.tokens := by
  obtain ⟨ts, j, hts, h⟩ := of_bind h
  cases hts
  cases hi : i.tokens with
  | nil =>
    rw [hi] at h
    cases h
  | cons t rest =>
    rw [hi] at h
    cases t with
    | ident m =>
      cases h
      show _ = _ :: i.tokens.drop 1
      rw [hi]
      rfl
    | _ => cases h

theorem of_name (h : name i = .ok (n, i')) :
    i.tokens = .ident n :: i'.tokens ∧ Keyword.isReserved n = false := by
  obtain ⟨ts, j, hts, h⟩ := of_bind h
  cases hts
  cases hi : i.tokens with
  | nil =>
    rw [hi] at h
    cases h
  | cons t rest =>
    rw [hi] at h
    cases t with
    | ident m =>
      dsimp only at h
      split at h
      · cases h
      · next hm =>
        cases h
        refine ⟨?_, Bool.eq_false_iff.2 hm⟩
        show _ = _ :: i.tokens.drop 1
        rw [hi]
        rfl
    | _ => cases h

variable {arguments : Reader (List GenericArg)} {inExpr : Bool}

theorem startsWord_eq {w : String} {ts rest : List Token} (h : startsWord w ts = true)
    (hts : ts = .ident n :: rest) : n = w := by
  rw [hts] at h
  exact of_decide_eq_true h

theorem of_segmentWith (h : segmentWith arguments inExpr i = .ok (.name n, i')) :
    i.tokens = .ident n :: i'.tokens ∧ isSegmentName n = true := by
  obtain ⟨ts, j, hts, h⟩ := of_bind h
  cases hts
  split at h
  · next hm =>
    obtain ⟨m, j, hn, h⟩ := of_bind h
    cases h
    have ht := of_anyName hn
    obtain ⟨w, hw, hs⟩ := List.any_eq_true.1 hm
    obtain rfl := startsWord_eq hs ht
    refine ⟨ht, ?_⟩
    unfold isSegmentName
    rw [List.contains_iff_mem.2 hw]
    rfl
  · obtain ⟨m, j, hn, h⟩ := of_bind h
    obtain ⟨ts, k, hts, h⟩ := of_bind h
    cases hts
    split at h
    · obtain ⟨turbofish, k, -, h⟩ := of_bind h
      obtain ⟨as, k, -, h⟩ := of_bind h
      cases h
    · cases h
      obtain ⟨ts, k, hts, hn⟩ := of_bind hn
      cases hts
      split at hn
      · next hs =>
        have ht := of_anyName hn
        obtain rfl := startsWord_eq hs ht
        exact ⟨ht, by decide⟩
      · obtain ⟨ht, hr⟩ := of_name hn
        refine ⟨ht, ?_⟩
        unfold isSegmentName
        rw [hr, Bool.not_false, Bool.or_true]

theorem exists_of_startsColons {ts : List Token} (h : startsOp [':', ':'] ts = true) :
    ∃ s more, ts = .punct ':' .joint :: .punct ':' s :: more := by
  cases ts with
  | nil => cases h
  | cons t ts =>
    cases t with
    | punct c s =>
      cases s with
      | alone => cases h
      | joint =>
        obtain ⟨hc, h⟩ := Bool.and_eq_true_iff.1 h
        obtain rfl := of_decide_eq_true hc
        cases ts with
        | nil => cases h
        | cons u us =>
          cases u with
          | punct d s =>
            obtain rfl := of_decide_eq_true h
            exact ⟨s, us, rfl⟩
          | _ => cases h
    | _ => cases h

/-- In front of a name, two colons are as they are spelled. -/
theorem eq_colons {ts us : List Token} (hchain : ts.IsChain Apart)
    (h : startsOp [':', ':'] ts = true) (hn : ts.drop 2 = .ident n :: us) :
    ts = colons ++ .ident n :: us := by
  obtain ⟨s, more, rfl⟩ := exists_of_startsColons h
  obtain rfl : more = .ident n :: us := hn
  cases s with
  | alone => rfl
  | joint =>
    have hlast := (List.isChain_cons_cons.1 (List.isChain_cons_cons.1 hchain).2).1
    exact absurd rfl (hlast rfl n)

/-- The segments read after some others: those that are names are spelled by the tokens. -/
theorem of_segmentsWith {fuel : Nat} {done ss : List Segment}
    (h : repeatStep (fun (done : List Segment) => do
      if startsSegment (← ahead) then
        drop 2
        return .ok ((← segmentWith arguments inExpr) :: done)
      else return .error done.reverse) fuel done i = .ok (ss, i')) :
    ∃ more, ss = done.reverse ++ more ∧ ∀ names : List String, more = names.map .name →
      i.tokens.IsChain Apart →
        i.tokens = names.flatMap (fun n => colons ++ [.ident n]) ++ i'.tokens ∧
          ∀ n ∈ names, isSegmentName n = true := by
  -- Round by round: the tokens behind a colon pair and a name are again a chain.
  induction fuel generalizing i done with
  | zero => cases h
  | succ fuel ih =>
    obtain ⟨next, j, hnext, h⟩ := of_bind h
    obtain ⟨ts, k, hts, hnext⟩ := of_bind hnext
    cases hts
    split at hnext
    · next hsegment =>
      obtain ⟨u, k, hdrop, hnext⟩ := of_bind hnext
      cases hdrop
      obtain ⟨s, k, hs, hnext⟩ := of_bind hnext
      cases hnext
      obtain ⟨more, rfl, hmore⟩ := ih h
      refine ⟨s :: more, by simp, fun names hnames hchain => ?_⟩
      cases names with
      | nil => cases hnames
      | cons m names =>
        rw [List.map_cons, List.cons.injEq] at hnames
        obtain ⟨rfl, hnames⟩ := hnames
        obtain ⟨ht, hm⟩ := of_segmentWith hs
        have hcolons := eq_colons hchain (Bool.and_eq_true_iff.1 hsegment).1 ht
        rw [hcolons] at hchain
        obtain ⟨hrest, hsegments⟩ := hmore names hnames hchain.tail.tail.tail
        refine ⟨?_, List.forall_mem_cons.2 ⟨hm, hsegments⟩⟩
        rw [hcolons, hrest, List.flatMap_cons, List.append_assoc, List.append_assoc]
        rfl
    · cases hnext
      cases h
      refine ⟨[], by simp, fun names hnames _ => ?_⟩
      obtain rfl := List.map_eq_nil_iff.1 hnames.symm
      exact ⟨rfl, List.forall_mem_nil _⟩

theorem spell_ofNames_cons (leading : Bool) (m : String) (names : List String) :
    (Path.ofNames leading (m :: names)).spell =
      colonsIf leading ++ .ident m :: names.flatMap fun n => colons ++ [.ident n] := by
  show colonsIf leading ++ separatedBy colons (spellSegments ((m :: names).map .name)) = _
  rw [spellSegments_eq_map, List.map_map, List.map_cons, separatedBy_cons, List.flatMap_map]
  rfl

theorem of_run {r : Reader α} {ts : List Token} {a : α} (h : run r ts = .ok a) :
    ∃ rest, rest.tokens = [] ∧ r ⟨ts, none⟩ = .ok (a, rest) := by
  unfold run at h
  cases hr : StateT.run r ⟨ts, none⟩ with
  | error e =>
    rw [hr] at h
    cases h
  | ok p =>
    obtain ⟨b, tokens, leftover⟩ := p
    rw [hr] at h
    cases leftover with
    | some d => cases h
    | none =>
      cases tokens with
      | cons t ts => cases h
      | nil =>
        cases h
        exact ⟨_, rfl, hr⟩

/-- **A path that was read without arguments is spelled by the tokens.** -/
theorem of_pathWith {g : Grammar} {leading : Bool} {names : List String}
    (h : pathWith g arguments inExpr i = .ok (Path.ofNames leading names, i'))
    (hchain : i.tokens.IsChain Apart) :
    names ≠ [] ∧ i.tokens = (Path.ofNames leading names).spell ++ i'.tokens ∧
      ∀ n ∈ names, isSegmentName n = true := by
  obtain ⟨b, j, hb, h⟩ := of_bind h
  obtain ⟨first, k, hfirst, h⟩ := of_bind h
  obtain ⟨ss, l, hss, h⟩ := of_bind h
  have hp : Path.mk b ss = Path.mk leading (names.map .name) := congrArg Prod.fst (Except.ok.inj h)
  have hl : l = i' := congrArg Prod.snd (Except.ok.inj h)
  obtain ⟨rfl, rfl⟩ : b = leading ∧ ss = names.map .name := by
    rw [Path.mk.injEq] at hp
    exact hp
  obtain ⟨more, hmore, hnames⟩ := of_segmentsWith hss
  cases names with
  | nil => cases hmore
  | cons m names =>
    rw [List.map_cons] at hmore
    obtain ⟨rfl, rfl⟩ := List.cons.inj hmore
    obtain ⟨ht, hm⟩ := of_segmentWith hfirst
    have hi : i.tokens = colonsIf b ++ .ident m :: k.tokens := by
      obtain ⟨ts, i₀, hts, hb⟩ := of_bind hb
      cases hts
      split at hb
      · next hcolons =>
        cases hb
        exact eq_colons hchain hcolons ht
      · cases hb
        exact ht
    rw [hi] at hchain
    have hk := (List.isChain_append.1 hchain).2.1.tail
    obtain ⟨hrest, hsegments⟩ := hnames names rfl hk
    refine ⟨by simp, ?_, List.forall_mem_cons.2 ⟨hm, hsegments⟩⟩
    rw [hi, hrest, hl, spell_ofNames_cons, List.append_assoc, List.cons_append]

end Read

end DispatchLayer.Code.Reader
