import DispatchLayer.Code.Reader.Basic
import DispatchLayer.Code.Spelling
import Mathlib.Data.List.Basic

/-!
# What readers take

A reader takes tokens from the front of its input: `Takes r ts rest a` says that it takes the tokens
down to a rest and gives a value. What a compound reader takes follows from what its steps take, one
after the other; a question about the tokens ahead takes nothing. A list with separators is taken if
each of its items is, in front of what can follow it there (`takes_commaList`, `takes_itemsToEnd`).
-/

namespace DispatchLayer.Code.Reader

open Token

variable {α β σ : Type} {ts mid rest : List Token} {a : α} {b : β}

/-- The reader takes the tokens down to a rest and gives a value. -/
def Takes (r : Reader α) (ts rest : List Token) (a : α) : Prop :=
  ∀ leftover, r ⟨ts, leftover⟩ = .ok (a, ⟨rest, leftover⟩)

/-! ## Steps -/

theorem takes_pure : Takes (pure a) ts ts a := fun _ => rfl

theorem Takes.bind {r : Reader α} {f : α → Reader β} (h : Takes r ts mid a)
    (hf : Takes (f a) mid rest b) : Takes (r >>= f) ts rest b := by
  intro leftover
  show (r ⟨ts, leftover⟩ >>= fun p => f p.1 p.2) = _
  rw [h leftover]
  exact hf leftover

/-- What a reader does first, up to where another reader goes on. -/
theorem Takes.of_steps {r r' : Reader α} (h' : Takes r' mid rest a)
    (h : ∀ leftover, r ⟨ts, leftover⟩ = r' ⟨mid, leftover⟩) : Takes r ts rest a :=
  fun leftover => (h leftover).trans (h' leftover)

theorem Takes.map {r : Reader α} (f : α → β) (h : Takes r ts rest a) :
    Takes (f <$> r) ts rest (f a) :=
  Takes.bind (f := fun a => pure (f a)) h takes_pure

/-- One of two readers, and what comes after either of them. -/
theorem Takes.bind_ite {c : Prop} [Decidable c] {r r' : Reader α} {f : α → Reader β}
    (h : Takes (if c then r else r') ts mid a) (hf : Takes (f a) mid rest b) :
    Takes (if c then r >>= f else r' >>= f) ts rest b := by
  split at h
  · next hc =>
    rw [if_pos hc]
    exact h.bind hf
  · next hc =>
    rw [if_neg hc]
    exact h.bind hf

/-- A look at the tokens ahead. -/
theorem Takes.ahead {f : List Token → Reader β} (hf : Takes (f ts) ts rest b) :
    Takes (Reader.ahead >>= f) ts rest b := Takes.bind (r := Reader.ahead) (fun _ => rfl) hf

/-- A look at the whole input. -/
theorem Takes.get {f : Input → Reader β} (hf : ∀ leftover, Takes (f ⟨ts, leftover⟩) ts rest b) :
    Takes (MonadState.get >>= f) ts rest b := fun leftover => hf leftover leftover

theorem takes_drop (n : Nat) : Takes (drop n) ts (ts.drop n) () := fun _ => rfl

theorem takes_op {cs : List Char} (h : startsOp cs ts = true) :
    Takes (op cs) ts (ts.drop cs.length) () := by
  refine Takes.ahead ?_
  rw [if_pos h]
  exact takes_drop _

theorem takes_op? {cs : List Char} (h : startsOp cs ts = true) :
    Takes (op? cs) ts (ts.drop cs.length) true := by
  refine Takes.ahead ?_
  rw [if_pos h]
  exact (takes_drop _).bind takes_pure

theorem takes_op?_not {cs : List Char} (h : startsOp cs ts = false) :
    Takes (op? cs) ts ts false := by
  refine Takes.ahead ?_
  rw [h]
  exact takes_pure

@[simp] theorem startsWord_self (w : String) : startsWord w (.ident w :: rest) = true :=
  decide_eq_true rfl

theorem takes_word (w : String) : Takes (word w) (.ident w :: rest) rest () := by
  refine Takes.ahead ?_
  rw [if_pos (startsWord_self w)]
  exact takes_drop 1

theorem takes_word? (w : String) : Takes (word? w) (.ident w :: rest) rest true := by
  refine Takes.ahead ?_
  rw [if_pos (startsWord_self w)]
  exact (takes_drop 1).bind takes_pure

theorem takes_word?_not {w : String} (h : startsWord w ts = false) : Takes (word? w) ts ts false := by
  refine Takes.ahead ?_
  rw [h]
  exact takes_pure

theorem takes_name {n : String} (h : Keyword.isReserved n = false) :
    Takes name (.ident n :: rest) rest n := by
  refine Takes.ahead ?_
  dsimp only
  rw [h]
  exact (takes_drop 1).bind takes_pure

theorem takes_anyName (n : String) : Takes anyName (.ident n :: rest) rest n := fun _ => rfl

theorem takes_lifetime (n : String) : Takes lifetime (Token.lifetime n ++ rest) rest n :=
  fun _ => rfl

@[simp] theorem startsGroup_self (d : Delimiter) : startsGroup d (.opening d :: ts) = true :=
  decide_eq_true rfl

theorem takes_grouped (d : Delimiter) {inside : Reader α}
    (h : Takes inside ts (.closing d :: rest) a) :
    Takes (grouped d inside) (.opening d :: ts) rest a := by
  refine Takes.ahead ?_
  rw [if_pos (startsGroup_self d)]
  exact (takes_drop 1).bind (h.bind (Takes.bind (r := leave d) (fun _ => rfl) takes_pure))

/-- The tokens that a reader has taken do not matter where they are not used. -/
theorem Takes.withTokens {r : Reader α} {f : α × List Token → Reader β} (h : Takes r ts mid a)
    (hf : ∀ tokens, Takes (f (a, tokens)) mid rest b) :
    Takes (Reader.withTokens r >>= f) ts rest b := by
  have hr : Takes (Reader.withTokens r) ts mid (a, between ts mid) :=
    Takes.ahead (h.bind (Takes.ahead takes_pure))
  exact hr.bind (hf _)

/-! ## Failures -/

/-- The reader fails on the tokens. -/
def Fails (r : Reader α) (ts : List Token) : Prop :=
  ∀ leftover, ∃ e, r ⟨ts, leftover⟩ = .error e

theorem Fails.bind {r : Reader α} (h : Fails r ts) (f : α → Reader β) : Fails (r >>= f) ts := by
  intro leftover
  obtain ⟨e, he⟩ := h leftover
  refine ⟨e, ?_⟩
  show (r ⟨ts, leftover⟩ >>= fun p => f p.1 p.2) = _
  rw [he]
  rfl

theorem Takes.bind_fails {r : Reader α} {f : α → Reader β} (h : Takes r ts mid a)
    (hf : Fails (f a) mid) : Fails (r >>= f) ts := by
  intro leftover
  obtain ⟨e, he⟩ := hf leftover
  refine ⟨e, ?_⟩
  show (r ⟨ts, leftover⟩ >>= fun p => f p.1 p.2) = _
  rw [h leftover]
  exact he

theorem Fails.ahead {f : List Token → Reader β} (hf : Fails (f ts) ts) :
    Fails (Reader.ahead >>= f) ts :=
  Takes.bind_fails (r := Reader.ahead) (fun _ => rfl) hf

theorem fails_word {w : String} (h : startsWord w ts = false) : Fails (word w) ts := by
  refine Fails.ahead ?_
  rw [h]
  exact fun _ => ⟨_, rfl⟩

theorem Fails.map {r : Reader α} (h : Fails r ts) (f : α → β) : Fails (f <$> r) ts :=
  h.bind fun a => pure (f a)

/-- What a reader does first, up to where another reader fails. -/
theorem Fails.of_steps {r r' : Reader α} (h' : Fails r' mid)
    (h : ∀ leftover, r ⟨ts, leftover⟩ = r' ⟨mid, leftover⟩) : Fails r ts := by
  intro leftover
  rw [h leftover]
  exact h' leftover

theorem fails_grouped (d : Delimiter) {inside : Reader α} (h : Fails inside ts) :
    Fails (grouped d inside) (.opening d :: ts) := by
  refine Fails.ahead ?_
  rw [if_pos (startsGroup_self d)]
  exact (takes_drop 1).bind_fails (h.bind _)

theorem Fails.withTokens {r : Reader α} (h : Fails r ts) (f : α × List Token → Reader β) :
    Fails (Reader.withTokens r >>= f) ts :=
  Fails.bind (r := Reader.withTokens r) (Fails.ahead (h.bind _)) f

theorem Fails.run {r : Reader α} (h : Fails r ts) : ∃ e, run r ts = .error e := by
  obtain ⟨e, he⟩ := h none
  refine ⟨e, ?_⟩
  unfold Reader.run
  show (r ⟨ts, none⟩ >>= fun p => _) = _
  rw [he]
  rfl

/-- A reader that fails takes nothing where that is allowed. -/
theorem takes_attempt_none {r : Reader α} (h : Fails r ts) : Takes (attempt r) ts ts none := by
  intro leftover
  obtain ⟨e, he⟩ := h.bind (fun a => pure (some a)) leftover
  show (tryCatch ((some <$> r) ⟨ts, leftover⟩) fun _ => _) = _
  rw [show (some <$> r) ⟨ts, leftover⟩ = .error e from he]
  rfl

/-! ## Loops -/

variable {step : σ → Reader (Except α σ)} {s s' : σ} {fuel : Nat}

theorem takes_repeat_done (h : Takes (step s) ts rest (.error a)) (hf : 0 < fuel) :
    Takes (repeatStep step fuel s) ts rest a := by
  obtain ⟨fuel, rfl⟩ := Nat.exists_eq_add_of_lt hf
  rw [Nat.zero_add]
  exact h.bind takes_pure

theorem takes_repeat_more (h : Takes (step s) ts mid (.ok s'))
    (hmore : Takes (repeatStep step fuel s') mid rest a) :
    Takes (repeatStep step (fuel + 1) s) ts rest a :=
  h.bind hmore

/-- **Loops that gather a list.** A step either ends the loop with all that is left, or takes the
first that is left. What is taken is kept in reverse order, and `ready` relates it to what is left. -/
theorem takes_gatherFrom (ready : List α → List α → Prop) (text : List α → List Token)
    {step : List α → Reader (Except (List α) (List α))}
    (hstep : ∀ done as, ready done as →
      Takes (step done) (text as) rest (.error (done.reverse ++ as)) ∨
        ∃ a more, as = a :: more ∧ ready (a :: done) more ∧
          Takes (step done) (text as) (text more) (.ok (a :: done)))
    {done as : List α} (h : ready done as) (hf : as.length < fuel) :
    Takes (repeatStep step fuel done) (text as) rest (done.reverse ++ as) := by
  induction as generalizing done fuel with
  | nil =>
    rcases hstep done [] h with hlast | ⟨a, more, hcons, -⟩
    · exact takes_repeat_done hlast hf
    · cases hcons
  | cons a as ih =>
    rcases hstep done (a :: as) h with hlast | ⟨b, more, hcons, hready, hnext⟩
    · exact takes_repeat_done hlast (Nat.zero_lt_of_lt hf)
    · cases hcons
      obtain ⟨fuel, rfl⟩ := Nat.exists_eq_succ_of_ne_zero (Nat.ne_zero_of_lt hf)
      have hmore := ih hready (Nat.lt_of_succ_lt_succ hf)
      rw [List.reverse_cons, List.append_assoc, List.singleton_append] at hmore
      exact takes_repeat_more hnext hmore

theorem takes_gather (ready : List α → List α → Prop) (text : List α → List Token)
    {step : List α → Reader (Except (List α) (List α))}
    (hstep : ∀ done as, ready done as →
      Takes (step done) (text as) rest (.error (done.reverse ++ as)) ∨
        ∃ a more, as = a :: more ∧ ready (a :: done) more ∧
          Takes (step done) (text as) (text more) (.ok (a :: done)))
    {as : List α} (h : ready [] as) (hf : as.length < fuel) :
    Takes (repeatStep step fuel []) (text as) rest as :=
  takes_gatherFrom ready text hstep h hf

theorem fails_repeat (h : Fails (step s) ts) : Fails (repeatStep step fuel s) ts := by
  cases fuel with
  | zero => exact fun _ => ⟨_, rfl⟩
  | succ fuel => exact h.bind _

theorem fails_commaList {stop : List Token → Bool} {item : Reader α} (hstop : stop ts = false)
    (h : Fails item ts) : Fails (commaList fuel stop item) ts := by
  refine fails_repeat (Fails.ahead ?_)
  rw [if_neg (Bool.eq_false_iff.1 hstop)]
  exact h.bind _

theorem fails_itemsToEnd {item : Reader α} (hend : isEnd ts = false) (h : Fails item ts) :
    Fails (itemsToEnd fuel item) ts := by
  refine fails_repeat (Fails.ahead ?_)
  rw [if_neg (Bool.eq_false_iff.1 hend)]
  exact h.bind _

/-! ## Lists -/

section Lists

variable {item : Reader α} {spell : α → List Token} {follows : List Token → Prop}

/-- Items with commas between them, where each of them is taken in front of what can follow it. -/
theorem takes_commaList {stop : List Token → Bool} {as : List α}
    (hitem : ∀ a ∈ as, ∀ more, follows more →
      stop (spell a ++ more) = false ∧ Takes item (spell a ++ more) more a)
    (hcomma : ∀ more, follows (mark ',' :: more) ∧ stop (mark ',' :: more) = false)
    (hrest : follows rest) (hstop : stop rest = true) (hf : as.length < fuel) :
    Takes (commaList fuel stop item) (commaSeparated (as.map spell) ++ rest) rest as := by
  refine takes_gather (fun _ bs => ∀ b ∈ bs, b ∈ as) (fun bs => commaSeparated (bs.map spell) ++ rest)
    (fun done bs hbs => ?_) (fun _ hb => hb) hf
  match bs with
  | [] =>
    refine Or.inl (Takes.ahead ?_)
    rw [List.map_nil, commaSeparated, List.nil_append, if_pos hstop, List.append_nil]
    exact takes_pure
  -- The last item ends the loop: the end follows it, and no comma.
  | [b] =>
    obtain ⟨hno, ht⟩ := hitem b (hbs b List.mem_cons_self) rest hrest
    refine Or.inl (Takes.ahead ?_)
    rw [List.map_singleton, commaSeparated, if_neg (Bool.eq_false_iff.1 hno)]
    refine ht.bind (Takes.ahead ?_)
    rw [if_pos hstop, List.reverse_cons]
    exact takes_pure
  | b :: c :: bs =>
    have hsplit : commaSeparated ((b :: c :: bs).map spell) ++ rest =
        spell b ++ mark ',' :: (commaSeparated ((c :: bs).map spell) ++ rest) := by
      simp [commaSeparated]
    obtain ⟨hno, ht⟩ := hitem b (hbs b List.mem_cons_self)
      (mark ',' :: (commaSeparated ((c :: bs).map spell) ++ rest)) (hcomma _).1
    refine Or.inr ⟨b, c :: bs, rfl, fun a ha => hbs a (List.mem_cons_of_mem b ha), Takes.ahead ?_⟩
    rw [hsplit, if_neg (Bool.eq_false_iff.1 hno)]
    refine ht.bind (Takes.ahead ?_)
    rw [if_neg (Bool.eq_false_iff.1 (hcomma _).2)]
    exact (takes_op rfl).bind takes_pure

/-- Items one after the other up to the end of the brackets. -/
theorem takes_itemsToEnd {as : List α}
    (hitem : ∀ a ∈ as, ∀ more, follows more → follows (spell a ++ more) ∧
      isEnd (spell a ++ more) = false ∧ Takes item (spell a ++ more) more a)
    (hrest : follows rest) (hend : isEnd rest = true) (hf : as.length < fuel) :
    Takes (itemsToEnd fuel item) (as.flatMap spell ++ rest) rest as := by
  have hfollows : ∀ {bs : List α}, (∀ b ∈ bs, b ∈ as) → follows (bs.flatMap spell ++ rest) := by
    intro bs hbs
    induction bs with
    | nil => exact hrest
    | cons b bs ih =>
      rw [List.flatMap_cons, List.append_assoc]
      exact (hitem b (hbs b (by simp)) _ (ih fun c hc => hbs c (by simp [hc]))).1
  refine takes_gather (fun _ bs => ∀ b ∈ bs, b ∈ as) (fun bs => bs.flatMap spell ++ rest)
    (fun done bs hbs => ?_) (fun _ hb => hb) hf
  cases bs with
  | nil =>
    refine Or.inl (Takes.ahead ?_)
    rw [List.flatMap_nil, List.nil_append, if_pos hend, List.append_nil]
    exact takes_pure
  | cons b bs =>
    have hbs' : ∀ c ∈ bs, c ∈ as := fun c hc => hbs c (List.mem_cons_of_mem b hc)
    obtain ⟨-, hno, ht⟩ := hitem b (hbs b List.mem_cons_self) _ (hfollows hbs')
    refine Or.inr ⟨b, bs, rfl, hbs', Takes.ahead ?_⟩
    rw [List.flatMap_cons, List.append_assoc, if_neg (Bool.eq_false_iff.1 hno)]
    exact ht.bind takes_pure

end Lists

end DispatchLayer.Code.Reader
