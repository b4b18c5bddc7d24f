import DispatchLayer.Program
import DispatchLayer.Proofs.Catalog.KindList
import DispatchLayer.Proofs.Table
import Mathlib.Data.List.Perm.Basic

/-!
# Command lines that are written

One argument gives an option: the long name after two hyphens and, for an option with a value, an
equals sign and the value as it is (`Key.argument`). The name ends at the first equals sign, and no
name holds one, so the value is read back whatever its characters are (`readLong_argument`).

Arguments that give different options are read to the end, each taken down with its value
(`readAll_arguments`). What is then asked for depends on which options were given and not on their
order. So the arguments that are written for the options of a run, in any order, ask for this run
(`written_options_read_back`).
-/

namespace DispatchLayer.CommandLine

open Text

/-! ## One argument -/

/-- The argument that gives an option, with the value if there is one. -/
def Key.argument (key : Key) : Option String → String
  | some value => "--" ++ key.long ++ "=" ++ value
  | none => "--" ++ key.long

/-- What one argument can give: an option other than the call for help, with a value exactly if it
takes one. The value for the directory is not empty. -/
structure Givable (entry : Key × Option String) : Prop where
  not_help : entry.1 ≠ .help
  value_iff : entry.2.isSome = entry.1.takesValue
  dir_value : entry ≠ (.dir, some "")

theorem Key.equals_not_mem_long (key : Key) : '=' ∉ key.long.toList := by
  cases key <;> decide

theorem Key.long_toList_ne_nil (key : Key) : key.long.toList ≠ [] := by
  cases key <;> decide

theorem Key.ofLong?_long (key : Key) : Key.ofLong? key.long = some key := by
  cases key <;> decide

section SplitLong

variable {name : List Char}

theorem ne_equals_of_mem (h : '=' ∉ name) : ∀ c ∈ name, (c != '=') = true := by
  intro c hc
  rw [bne_iff_ne]
  rintro rfl
  exact h hc

/-- The name ends at the first equals sign, and the value is all that comes after it. -/
theorem splitLong_append (h : '=' ∉ name) (value : List Char) :
    splitLong (name ++ '=' :: value) =
      .long (String.ofList name) (some (String.ofList value)) := by
  have hname := ne_equals_of_mem h
  unfold splitLong
  rw [List.takeWhile_append_of_pos hname, List.dropWhile_append_of_pos hname]
  simp

theorem splitLong_of_not_mem (h : '=' ∉ name) :
    splitLong name = .long (String.ofList name) none := by
  have hname := ne_equals_of_mem h
  unfold splitLong
  rw [List.takeWhile_eq_self_iff.2 hname, List.dropWhile_eq_nil_iff.2 hname]

end SplitLong

/-- Two hyphens with something after them are a long option. -/
theorem Shape.of_hyphens {argument : String} {cs : List Char} (hne : cs ≠ [])
    (h : argument.toList = '-' :: '-' :: cs) : Shape.of argument = splitLong cs := by
  obtain ⟨c, rest, rfl⟩ := List.exists_cons_of_ne_nil hne
  unfold Shape.of
  rw [h]
  rfl

/-- **An argument shows the option it gives**, and its value as it is. -/
theorem Shape.of_argument (key : Key) (value : Option String) :
    Shape.of (key.argument value) = .long key.long value := by
  cases value with
  | none =>
    rw [Shape.of_hyphens key.long_toList_ne_nil (by simp [Key.argument]),
      splitLong_of_not_mem key.equals_not_mem_long, String.ofList_toList]
  | some value =>
    have hne : key.long.toList ++ '=' :: value.toList ≠ [] := by simp
    rw [Shape.of_hyphens hne (by simp [Key.argument]),
      splitLong_append key.equals_not_mem_long, String.ofList_toList, String.ofList_toList]

/-! ## All arguments -/

namespace Progress

variable {given : List (Key × Option String)} {key : Key} {value : Option String}

theorem record_of_givable {p : Progress} (hg : Givable (key, value)) (hn : key ∉ p.keys) :
    p.record key value = ({ p with given := p.given ++ [(key, value)] }, none) := by
  have hvalue : (key.takesValue && value.isNone) = false := by
    rw [← hg.value_iff]
    cases value with
    | none => rfl
    | some v => rfl
  have hkeys : p.keys.contains key = false := by simpa using hn
  have hdir : ¬ (key = .dir && value = some "") = true := by
    rw [Bool.and_eq_true, decide_eq_true_eq, decide_eq_true_eq]
    rintro ⟨rfl, rfl⟩
    exact hg.dir_value rfl
  unfold record
  rw [hvalue, hkeys]
  simp only [Bool.false_eq_true, if_false]
  rw [if_neg hdir]

theorem take_of_givable (hg : Givable (key, value)) (hn : key ∉ given.map Prod.fst) :
    take ⟨given, none⟩ key value = .ok ⟨given ++ [(key, value)], none⟩ := by
  have hrecord := record_of_givable (p := ⟨given, none⟩) hg hn
  -- Nothing is pending, so nothing has to be settled first.
  have hsettled : settled ⟨given, none⟩ = .ok ⟨given, none⟩ := rfl
  unfold take
  simp only [hsettled, hrecord, if_neg hg.not_help, bind, Except.bind]
  rfl

/-- **An argument is taken down as it was written.** -/
theorem readLong_argument (hg : Givable (key, value)) (hn : key ∉ given.map Prod.fst) :
    readLong ⟨given, none⟩ key.long value = .ok ⟨given ++ [(key, value)], none⟩ := by
  have htake := take_of_givable hg hn
  have hvalue := hg.value_iff
  unfold readLong
  rw [key.ofLong?_long]
  cases value with
  | none =>
    have htakes : key.takesValue = false := hvalue.symm
    simp only [htakes, htake, Bool.false_eq_true, if_false]
  | some v =>
    have htakes : key.takesValue = true := hvalue.symm
    simp only [htakes, htake, if_true]

/-- **Arguments that give different options are read to the end.** -/
theorem readAll_arguments {entries : List (Key × Option String)}
    (hg : ∀ entry ∈ entries, Givable entry) (hn : ((given ++ entries).map Prod.fst).Nodup) :
    readAll ⟨given, none⟩ (entries.map fun entry => entry.1.argument entry.2) =
      .ok ⟨given ++ entries, none⟩ := by
  -- The options taken down so far move on with the arguments.
  induction entries generalizing given with
  | nil =>
    rw [List.append_nil]
    rfl
  | cons entry rest ih =>
    obtain ⟨key, value⟩ := entry
    have hsplit : given ++ (key, value) :: rest = given ++ [(key, value)] ++ rest := by simp
    have hfresh : key ∉ given.map Prod.fst := by
      intro hm
      rw [List.map_append, List.nodup_append] at hn
      exact hn.2.2 key hm key (by simp) rfl
    have hread := readLong_argument (hg (key, value) List.mem_cons_self) hfresh
    rw [hsplit] at hn ⊢
    have hrest := ih (fun e he => hg e (List.mem_cons_of_mem _ he)) hn
    rw [List.map_cons]
    unfold readAll
    rw [Shape.of_argument]
    simp only [hread, bind, Except.bind]
    exact hrest

/-! ## What has been given -/

theorem value?_of_mem (hn : (given.map Prod.fst).Nodup) (hm : (key, value) ∈ given) :
    value? ⟨given, none⟩ key = value := by
  have hl := Table.lookup_eq_of_mem hn (key, value) hm
  unfold value?
  rw [hl]
  rfl

theorem value?_of_not_mem (hm : key ∉ given.map Prod.fst) : value? ⟨given, none⟩ key = none := by
  have hl : given.lookup key = none := by
    rw [List.lookup_eq_none_iff]
    intro entry he
    rw [bne_iff_ne]
    rintro rfl
    exact hm (List.mem_map_of_mem he)
  unfold value?
  rw [hl]
  rfl

/-- The value of an option does not depend on the order in which options were given. -/
theorem value?_perm {given' : List (Key × Option String)} (h : given'.Perm given)
    (hn : (given.map Prod.fst).Nodup) (key : Key) :
    value? ⟨given', none⟩ key = value? ⟨given, none⟩ key := by
  have hn' : (given'.map Prod.fst).Nodup := (h.map Prod.fst).nodup_iff.2 hn
  by_cases hm : key ∈ given.map Prod.fst
  · obtain ⟨entry, he, rfl⟩ := List.mem_map.1 hm
    rw [value?_of_mem hn he, value?_of_mem hn' (h.mem_iff.2 he)]
  · have hm' : key ∉ given'.map Prod.fst := fun hm' => hm ((h.map Prod.fst).mem_iff.1 hm')
    rw [value?_of_not_mem hm, value?_of_not_mem hm']

theorem has_perm {given' : List (Key × Option String)} (h : given'.Perm given) (key : Key) :
    has ⟨given', none⟩ key = has ⟨given, none⟩ key :=
  (h.map Prod.fst).contains_eq

end Progress

/-- What the options given ask for. -/
def asked (given : List (Key × Option String)) : CommandLine where
  dir := Progress.value ⟨given, none⟩ .dir
  ast := Progress.value? ⟨given, none⟩ .ast
  astPath := Progress.value ⟨given, none⟩ .astPath
  format := Progress.has ⟨given, none⟩ .format
  version := Progress.has ⟨given, none⟩ .version

/-- **Different options are read whatever their order is**, and ask for the same in every order. -/
theorem parse_arguments {entries : List (Key × Option String)} {arguments : List String}
    (hg : ∀ entry ∈ entries, Givable entry) (hn : (entries.map Prod.fst).Nodup)
    (h : arguments.Perm (entries.map fun entry => entry.1.argument entry.2)) :
    parse arguments = .ok (asked entries) := by
  -- The order of the arguments is one of the options that they give.
  have hcomp := congrFun (congrFun (List.eq_map_comp_perm
    fun entry : Key × Option String => entry.1.argument entry.2) arguments) entries
  obtain ⟨given, rfl, hperm⟩ : Relation.Comp _ _ arguments entries := hcomp.mpr h
  have hg' : ∀ entry ∈ given, Givable entry := fun entry he => hg entry (hperm.mem_iff.1 he)
  have hn' : (given.map Prod.fst).Nodup := (hperm.map Prod.fst).nodup_iff.2 hn
  have hread : Progress.start.readAll (given.map fun entry => entry.1.argument entry.2) =
      .ok ⟨given, none⟩ := Progress.readAll_arguments hg' hn'
  have hasked : asked given = asked entries := by
    simp only [asked, Progress.value, Progress.value?_perm hperm hn, Progress.has_perm hperm]
  rw [← hasked]
  unfold parse
  rw [hread]
  rfl

/-! ## The options of a run -/

/-- The arguments that give the kinds: the list with commas, and for no kinds a blank text or no
argument at all. -/
inductive KindsArguments : List String → List String → Prop
  | joined {kinds : List String} (h : kinds ≠ []) :
      KindsArguments kinds ["--ast=" ++ ",".intercalate kinds]
  | blank {text : String} (h : IsBlank text.toList) : KindsArguments [] ["--ast=" ++ text]
  | leftOut : KindsArguments [] []

/-- The arguments that are written for the options of a run, in any order. -/
def WrittenFor (o : RunOptions) (arguments : List String) : Prop :=
  ∃ kinds, KindsArguments o.kinds kinds ∧
    arguments.Perm (["--dir=" ++ o.dir] ++ kinds ++ ["--ast-path=" ++ o.astPath] ++
      if o.format then ["--format"] else [])

/-- The options given for a run, with the text for the kinds. -/
def optionsOf (o : RunOptions) (text : Option String) : List (Key × Option String) :=
  [(.dir, some o.dir)] ++ text.toList.map (fun t => (.ast, some t)) ++
    [(.astPath, some o.astPath)] ++ if o.format then [(.format, none)] else []

theorem kinds_of_ast_eq_some {c : CommandLine} {text : String} (h : c.ast = some text) :
    c.kinds = Catalog.parseKinds text := by
  unfold kinds
  rw [h]

theorem kinds_of_ast_eq_none {c : CommandLine} (h : c.ast = none) : c.kinds = [] := by
  unfold kinds
  rw [h]

/-- **The kinds are read back** from the argument that gives them. -/
theorem KindsArguments.exists_text {kinds arguments : List String}
    (h : KindsArguments kinds arguments) (he : ∀ k ∈ kinds, Catalog.IsEntry k)
    (hone : kinds ≠ [""]) :
    ∃ text : Option String,
      arguments = text.toList.map (fun t => "--ast=" ++ t) ∧
        ∀ c : CommandLine, c.ast = text → c.kinds = kinds := by
  cases h with
  | joined hne =>
    refine ⟨some (",".intercalate kinds), rfl, fun c hc => ?_⟩
    rw [kinds_of_ast_eq_some hc, (Catalog.lists_intercalate he hne hone).parseKinds_eq]
  | @blank text hb =>
    refine ⟨some text, rfl, fun c hc => ?_⟩
    rw [kinds_of_ast_eq_some hc, Catalog.parseKinds_of_isBlank hb]
  | leftOut => exact ⟨none, rfl, fun c hc => kinds_of_ast_eq_none hc⟩

section Options

variable {o : RunOptions} {text : Option String}

theorem givable_optionsOf (hdir : o.dir ≠ "") : ∀ entry ∈ optionsOf o text, Givable entry := by
  intro entry he
  simp only [optionsOf, List.mem_append, List.mem_singleton, List.mem_map] at he
  rcases he with ((rfl | ⟨t, -, rfl⟩) | rfl) | he
  · exact ⟨by simp, rfl, by simpa using hdir⟩
  · exact ⟨by simp, rfl, by simp⟩
  · exact ⟨by simp, rfl, by simp⟩
  · split at he
    · obtain rfl := List.mem_singleton.1 he
      exact ⟨by simp, rfl, by simp⟩
    · exact absurd he List.not_mem_nil

theorem nodup_optionsOf : ((optionsOf o text).map Prod.fst).Nodup := by
  unfold optionsOf
  cases text with
  | none => cases o.format <;> simp
  | some t => cases o.format <;> simp

theorem map_argument_optionsOf :
    ((optionsOf o text).map fun entry => entry.1.argument entry.2) =
      ["--dir=" ++ o.dir] ++ text.toList.map (fun t => "--ast=" ++ t) ++
        ["--ast-path=" ++ o.astPath] ++ if o.format then ["--format"] else [] := by
  have hdir : Key.dir.argument (some o.dir) = "--dir=" ++ o.dir := rfl
  have hpath : Key.astPath.argument (some o.astPath) = "--ast-path=" ++ o.astPath := rfl
  have hast : ∀ t, Key.ast.argument (some t) = "--ast=" ++ t := fun t => rfl
  have hformat : Key.format.argument none = "--format" := rfl
  unfold optionsOf
  cases o.format with
  | false => simp [hdir, hpath, hast]
  | true => simp [hdir, hpath, hast, hformat]

theorem asked_optionsOf :
    asked (optionsOf o text) = ⟨o.dir, text, o.astPath, o.format, false⟩ := by
  unfold optionsOf
  cases text with
  | none => cases o.format <;> rfl
  | some t => cases o.format <;> rfl

end Options

/-- **The options of a run can be written and are read back.** Let the directory not be empty, and
the kinds be trimmed, without commas, and not one empty kind alone. Whatever characters the values
have and in whatever order the arguments stand, they are accepted, and the run they ask for has
exactly the options they were written for. -/
theorem written_options_read_back {o : RunOptions} {arguments : List String} (hdir : o.dir ≠ "")
    (hkinds : ∀ k ∈ o.kinds, IsTrimmed k.toList ∧ ',' ∉ k.toList) (hone : o.kinds ≠ [""])
    (h : WrittenFor o arguments) :
    ∃ c, parse arguments = .ok c ∧ c.version = false ∧ c.runOptions = o := by
  obtain ⟨kinds, hk, hperm⟩ := h
  have he : ∀ k ∈ o.kinds, Catalog.IsEntry k := fun k hm => ⟨(hkinds k hm).1, (hkinds k hm).2⟩
  obtain ⟨text, rfl, hread⟩ := hk.exists_text he hone
  rw [← map_argument_optionsOf] at hperm
  have hparse := parse_arguments (givable_optionsOf hdir) nodup_optionsOf hperm
  rw [asked_optionsOf] at hparse
  refine ⟨_, hparse, rfl, ?_⟩
  unfold runOptions
  rw [hread _ rfl]

/-- Options whose values look like options, and kinds with blanks inside and an empty one. -/
def oddOptions : RunOptions := ⟨"-d =x", ["--format", "", "a b", "="], "--dir=..", true⟩

/-- The arguments for these options, in the opposite order. -/
def oddArguments : List String :=
  ["--format", "--ast-path=--dir=..", "--ast=--format,,a b,=", "--dir=-d =x"]

/-- Values that look like options are read back. -/
theorem written_options_read_back_odd :
    WrittenFor oddOptions oddArguments ∧
      ∃ c, parse oddArguments = .ok c ∧ c.version = false ∧ c.runOptions = oddOptions := by
  have hkinds : ∀ k ∈ oddOptions.kinds, trim k = k ∧ ',' ∉ k.toList := by decide
  have hw : WrittenFor oddOptions oddArguments := ⟨_, .joined (by decide), by decide⟩
  refine ⟨hw, written_options_read_back (by decide) (fun k hm => ?_) (by decide) hw⟩
  exact ⟨(Catalog.trim_eq_iff.1 (hkinds k hm).1).2, (hkinds k hm).2⟩

end DispatchLayer.CommandLine
