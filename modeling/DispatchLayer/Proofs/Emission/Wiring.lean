import DispatchLayer.Proofs.Emission.VisitorOutline
import DispatchLayer.Proofs.Table

/-!
# The two artifacts fit together

The tokens of the two artifacts are read back (`HandlersOutline`, `VisitorOutline`) and compared
kind by kind: all that is declared for a kind speaks of the same type, trait, method and field
(`KindWired`), and every list of declarations is that of the catalog, in its order (`Wired`). This
holds of whatever is generated (`artifacts_wired`). The type of a kind is given by the tokens of the
path that the catalog is generated for, with the kind behind them.

Looking entries up by name needs the derived names to be distinct, which is what makes a catalog
admissible.
-/

namespace DispatchLayer.Emission

open Code Plan Token

/-! ## What it means -/

/-- The tokens of a kind's own type: its name behind the path. -/
def ownTokens (path : List Token) (name : String) : List Token :=
  path ++ [.punct ':' .joint, .punct ':' .alone, .ident name]

/-- All that is declared for a kind belongs together. Nodes hold its own type for their lifetime,
handlers are given it for a call. -/
structure KindWired (own : List Token) (k : KindNames) (h : HandlersOutline) (v : VisitorOutline) :
    Prop where
  payload : ∃ t, h.variants.lookup k.name = some t ∧ capturesOf "& 'ast $" t = some [own]
  conversion : ∃ t, h.conversions.filter (·.variant == k.name) = [⟨k.name, t, t⟩] ∧
    capturesOf "& 'ast $" t = some [own]
  contract : ∃ t, h.traits.lookup (k.name ++ "Handler") = some [⟨k.method, t⟩] ∧
    capturesOf "& $" t = some [own]
  shared : ∃ t, v.shared.lookup (k.name ++ "Handler") = some [⟨k.method, t⟩] ∧
    capturesOf "& $" t = some [own]
  slot : ∃ t, v.slots.lookup k.slot = some t ∧
    capturesOf "Option<Box<dyn $ + 'h>>" t = some [[.ident (k.name ++ "Handler")]]
  registration : ∃ t, v.registrations.lookup k.registerFn = some ⟨t, k.slot⟩ ∧
    capturesOf "impl $ + 'h" t = some [[.ident (k.name ++ "Handler")]]
  presence : v.presence.arms.lookup k.name = some (some k.slot)
  dispatch : v.dispatch.arms.lookup k.name = some (some ⟨k.slot, k.method⟩)
  label : h.labels.lookup k.name = some k.name

/-- So does what is declared for the nodes without a kind and for the catch-all. The arms of these
nodes test nothing and call nothing, and both distinctions fall back on the field of the catch-all. -/
structure RestWired (h : HandlersOutline) (v : VisitorOutline) : Prop where
  payload : ∃ t, h.variants.lookup "Other" = some t ∧
    capturesOf "& 'ast dyn ::std::any::Any" t = some []
  contract : ∃ t, h.traits.lookup "DefaultHandler" = some [⟨"handle", t⟩] ∧
    capturesOf "Node< '_>" t = some []
  shared : ∃ t, v.shared.lookup "DefaultHandler" = some [⟨"handle", t⟩] ∧
    capturesOf "Node< '_>" t = some []
  slot : ∃ t, v.slots.lookup "h_default" = some t ∧
    capturesOf "Option<Box<dyn $ + 'h>>" t = some [[.ident "DefaultHandler"]]
  registration : ∃ t, v.registrations.lookup "on_default" = some ⟨t, "h_default"⟩ ∧
    capturesOf "impl $ + 'h" t = some [[.ident "DefaultHandler"]]
  presence : v.presence.arms.lookup "Other" = some none
  presence_fallback : v.presence.fallback = "h_default"
  dispatch : v.dispatch.arms.lookup "Other" = some none
  dispatch_fallback : v.dispatch.fallback = ⟨"h_default", "handle"⟩
  label : h.labels.lookup "Other" = some "Other"

/-- A list of declarations: one for each kind, in order, and a last one, each under its own key. -/
structure InOrder (kinds : List String) (key : String → String) (last : String)
    (keys : List String) : Prop where
  order : keys = kinds.map key ++ [last]
  once : keys.Nodup

/-- The lists of declarations are those of the catalog, and each kind is wired. -/
structure Wired (path : List Token) (kinds : List String) (h : HandlersOutline)
    (v : VisitorOutline) : Prop where
  variants : InOrder kinds id "Other" (h.variants.map Prod.fst)
  labels : InOrder kinds id "Other" (h.labels.map Prod.fst)
  presence : InOrder kinds id "Other" (v.presence.arms.map Prod.fst)
  dispatch : InOrder kinds id "Other" (v.dispatch.arms.map Prod.fst)
  /-- The texts that the literals stand for. -/
  texts : InOrder kinds id "Other" (h.labels.map Prod.snd)
  conversions : h.conversions.map (·.variant) = kinds
  traits : InOrder kinds (· ++ "Handler") "DefaultHandler" (h.traits.map Prod.fst)
  shared : InOrder kinds (· ++ "Handler") "DefaultHandler" (v.shared.map Prod.fst)
  slots : InOrder kinds (fun n => (KindNames.ofName n).slot) "h_default" (v.slots.map Prod.fst)
  registrations : InOrder kinds (fun n => (KindNames.ofName n).registerFn) "on_default"
    (v.registrations.map Prod.fst)
  kind : ∀ name ∈ kinds, KindWired (ownTokens path name) (KindNames.ofName name) h v
  rest : RestWired h v

/-! ## Types -/

def heldForm : List Token := [mark '&', .punct '\'' .joint, .ident "ast", mark '$']

def givenForm : List Token := [mark '&', mark '$']

def slotTyForm : List Token :=
  [.ident "Option", mark '<', .ident "Box", mark '<', .ident "dyn", mark '$', mark '+',
    .punct '\'' .joint, .ident "h", .punct '>' .joint, mark '>']

def handlerTyForm : List Token :=
  [.ident "impl", mark '$', mark '+', .punct '\'' .joint, .ident "h"]

/-- The texts of the types have these tokens. -/
structure TypeForms : Prop where
  held : Token.ofText? "& 'ast $" = some heldForm
  given : Token.ofText? "& $" = some givenForm
  slot : Token.ofText? "Option<Box<dyn $ + 'h>>" = some slotTyForm
  handler : Token.ofText? "impl $ + 'h" = some handlerTyForm
  any : Token.ofText? "& 'ast dyn ::std::any::Any" = some (nodeRef anyTy).spell
  anyNode : Token.ofText? "Node< '_>" = some anyNodeTy.spell

theorem typeForms : TypeForms := by
  constructor
  all_goals decide +kernel

/-- A place at the end of a form takes all that is left. -/
theorem fits_end (ts : List Token) : fits [mark '$'] [ts] = true := by
  simp [fits, fill, isPlace, mark]

theorem capturesOf_nodeRef (t : Ty) : capturesOf "& 'ast $" (nodeRef t).spell = some [t.spell] := by
  have hspell : (nodeRef t).spell = fill heldForm [t.spell] :=
    congrArg (heldForm.dropLast ++ ·) (List.append_nil t.spell).symm
  rw [hspell]
  exact capturesOf_fill typeForms.held [t.spell] (fits_end t.spell)

theorem capturesOf_ref (t : Ty) : capturesOf "& $" (Ty.ref t).spell = some [t.spell] := by
  have hspell : (Ty.ref t).spell = fill givenForm [t.spell] :=
    congrArg (givenForm.dropLast ++ ·) (List.append_nil t.spell).symm
  rw [hspell]
  exact capturesOf_fill typeForms.given [t.spell] (fits_end t.spell)

theorem capturesOf_slotTy (traitName : String) :
    capturesOf "Option<Box<dyn $ + 'h>>" (slotTy traitName).spell = some [[.ident traitName]] :=
  capturesOf_fill typeForms.slot [[.ident traitName]] rfl

theorem capturesOf_handlerTy (traitName : String) :
    capturesOf "impl $ + 'h" (handlerTy traitName).spell = some [[.ident traitName]] :=
  capturesOf_fill typeForms.handler [[.ident traitName]] rfl

theorem capturesOf_self {form : String} {ts : List Token} (h : Token.ofText? form = some ts)
    (hf : fits ts [] = true) (hs : fill ts [] = ts) : capturesOf form ts = some [] := by
  have hfill := capturesOf_fill h [] hf
  rwa [hs] at hfill

/-- A kind's own type is spelled as the path is, with the kind behind it. -/
theorem spell_ownTy {names : List String} (hne : names ≠ []) (leading : Bool) (k : KindNames) :
    (ownTy (Path.ofNames leading names) k).spell =
      ownTokens (Path.ofNames leading names).spell k.name := by
  obtain ⟨m, names, rfl⟩ := List.exists_cons_of_ne_nil hne
  have hextend : (ownTy (Path.ofNames leading (m :: names)) k).spell =
      (Path.ofNames leading (m :: (names ++ [k.name]))).spell := by
    show (Code.Path.mk leading ((m :: names).map .name ++ [k.name].map .name)).spell = _
    rw [← List.map_append]
    rfl
  rw [hextend, Reader.spell_ofNames_cons, Reader.spell_ofNames_cons, List.flatMap_append]
  unfold ownTokens
  rw [List.append_assoc]
  rfl

/-! ## The columns with their fixed names -/

/-- A column of the plan, and a name that no kind has there. -/
theorem column_nodup {kinds : List String} {column : KindNames → String} {fixed : String}
    (h : ((kinds.map KindNames.ofName).map column).Nodup)
    (hne : ∀ name ∈ kinds, column (KindNames.ofName name) ≠ fixed) :
    ((kinds.map KindNames.ofName).map column ++ [fixed]).Nodup := by
  rw [List.nodup_append]
  refine ⟨h, List.nodup_singleton fixed, ?_⟩
  intro a ha b hb
  obtain ⟨k, hk, rfl⟩ := List.mem_map.1 ha
  obtain ⟨name, hm, rfl⟩ := List.mem_map.1 hk
  rw [List.mem_singleton.1 hb]
  exact hne name hm

section Columns

variable {kinds : List String} (h : Admissible kinds)

include h

theorem variants_nodup : ((kinds.map KindNames.ofName).map KindNames.name ++ ["Other"]).Nodup := by
  refine column_nodup ?_ fun _ hm => (h.not_fixed hm).1
  rw [map_name_ofName]
  exact h.names_nodup

theorem traits_nodup :
    ((kinds.map KindNames.ofName).map KindNames.handlerTrait ++ ["DefaultHandler"]).Nodup :=
  column_nodup h.handlerTraits_nodup fun _ hm => (h.not_fixed hm).2.1

theorem slots_nodup :
    ((kinds.map KindNames.ofName).map KindNames.slot ++ ["h_default"]).Nodup :=
  column_nodup h.slots_nodup fun _ hm => (h.not_fixed hm).2.2.1

theorem registerFns_nodup :
    ((kinds.map KindNames.ofName).map KindNames.registerFn ++ ["on_default"]).Nodup :=
  column_nodup h.registerFns_nodup fun _ hm => (h.not_fixed hm).2.2.2

end Columns

/-! ## The outlines are wired -/

section Outlines

variable {path : List Token} {own : KindNames → Ty} {kinds : List String}

/-- A column of the plan that ends in a fixed name, none of them twice. -/
theorem inOrder_column {key : KindNames → String} {fixed : String}
    (h : ((kinds.map KindNames.ofName).map key ++ [fixed]).Nodup) :
    InOrder kinds (fun n => key (KindNames.ofName n)) fixed
      ((kinds.map KindNames.ofName).map key ++ [fixed]) :=
  ⟨congrArg (· ++ [fixed]) List.map_map, h⟩

theorem inOrder_table {β : Type} {key : KindNames → String} {value : KindNames → β}
    {fixed : String} {rest : β} (h : ((kinds.map KindNames.ofName).map key ++ [fixed]).Nodup) :
    InOrder kinds (fun n => key (KindNames.ofName n)) fixed
      ((Table.endedBy fixed rest key value (kinds.map KindNames.ofName)).map Prod.fst) := by
  rw [Table.keys_endedBy]
  exact inOrder_column h

/-- Of distinct kinds, each has one conversion. -/
theorem filter_conversions (own : KindNames → Ty) (h : kinds.Nodup) {name : String}
    (hm : name ∈ kinds) :
    (HandlersOutline.ofKinds own (kinds.map KindNames.ofName)).conversions.filter
      (·.variant == name) = [⟨name, (nodeRef (own (KindNames.ofName name))).spell,
        (nodeRef (own (KindNames.ofName name))).spell⟩] := by
  simp only [HandlersOutline.ofKinds]
  rw [List.map_map, List.filter_map]
  have hf : kinds.filter (· == name) = [name] := by
    rw [List.filter_beq, List.count_eq_one_of_mem h hm]
    rfl
  exact congrArg (List.map _) hf

theorem kindWired_ofKinds (hown : ∀ k, (own k).spell = ownTokens path k.name) (h : Admissible kinds)
    {name : String} (hm : name ∈ kinds) :
    KindWired (ownTokens path name) (KindNames.ofName name)
      (.ofKinds own (kinds.map KindNames.ofName)) (.ofKinds own (kinds.map KindNames.ofName)) := by
  have hk := List.mem_map_of_mem (f := KindNames.ofName) hm
  have hheld := capturesOf_nodeRef (own (KindNames.ofName name))
  have hgiven := capturesOf_ref (own (KindNames.ofName name))
  rw [hown] at hheld hgiven
  exact {
    payload := ⟨_, Table.lookup_key (variants_nodup h) hk, hheld⟩
    conversion := ⟨_, filter_conversions own h.names_nodup hm, hheld⟩
    contract := ⟨_, Table.lookup_key (traits_nodup h) hk, hgiven⟩
    shared := ⟨_, Table.lookup_key (traits_nodup h) hk, hgiven⟩
    slot := ⟨_, Table.lookup_key (slots_nodup h) hk, capturesOf_slotTy _⟩
    registration := ⟨_, Table.lookup_key (registerFns_nodup h) hk, capturesOf_handlerTy _⟩
    presence := Table.lookup_key (variants_nodup h) hk
    dispatch := Table.lookup_key (variants_nodup h) hk
    label := Table.lookup_key (variants_nodup h) hk }

theorem restWired_ofKinds (own : KindNames → Ty) (h : Admissible kinds) :
    RestWired (.ofKinds own (kinds.map KindNames.ofName))
      (.ofKinds own (kinds.map KindNames.ofName)) := by
  have hany := capturesOf_self typeForms.any rfl rfl
  have hnode := capturesOf_self typeForms.anyNode rfl rfl
  exact {
    payload := ⟨_, Table.lookup_fixed (variants_nodup h), hany⟩
    contract := ⟨_, Table.lookup_fixed (traits_nodup h), hnode⟩
    shared := ⟨_, Table.lookup_fixed (traits_nodup h), hnode⟩
    slot := ⟨_, Table.lookup_fixed (slots_nodup h), capturesOf_slotTy _⟩
    registration := ⟨_, Table.lookup_fixed (registerFns_nodup h), capturesOf_handlerTy _⟩
    presence := Table.lookup_fixed (variants_nodup h)
    presence_fallback := rfl
    dispatch := Table.lookup_fixed (variants_nodup h)
    dispatch_fallback := rfl
    label := Table.lookup_fixed (variants_nodup h) }

theorem wired_ofKinds (hown : ∀ k, (own k).spell = ownTokens path k.name) (h : Admissible kinds) :
    Wired path kinds (.ofKinds own (kinds.map KindNames.ofName))
      (.ofKinds own (kinds.map KindNames.ofName)) := by
  have hvariants := variants_nodup h
  have htraits := traits_nodup h
  -- The literals decode to the kinds, so the texts are the column of the variants again.
  have htexts : InOrder kinds id "Other"
      ((Table.endedBy "Other" "Other" KindNames.name KindNames.name
        (kinds.map KindNames.ofName)).map Prod.snd) := by
    rw [Table.values_endedBy]
    exact inOrder_column hvariants
  have hconversions : ((kinds.map KindNames.ofName).map fun k => Conversion.variant
      ⟨k.name, (nodeRef (own k)).spell, (nodeRef (own k)).spell⟩) = kinds := map_name_ofName kinds
  exact {
    variants := inOrder_table hvariants
    labels := inOrder_table hvariants
    presence := inOrder_table hvariants
    dispatch := inOrder_table hvariants
    texts := htexts
    conversions := List.map_map.trans hconversions
    traits := inOrder_table htraits
    shared := inOrder_table htraits
    slots := inOrder_table (slots_nodup h)
    registrations := inOrder_table (registerFns_nodup h)
    kind := fun _ hm => kindWired_ofKinds hown h hm
    rest := restWired_ofKinds own h }

end Outlines

/-! ## The artifacts -/

section Artifacts

variable {c : Catalog} {moduleId astPath : String} {artifacts : Artifacts}

/-- No trait of a kind is called `for`, which is too short. -/
theorem handlerTrait_ne_for (name : String) : (KindNames.ofName name).handlerTrait ≠ "for" := by
  intro h
  have hlength := congrArg String.length h
  have happend : (name ++ "Handler").length = name.length + 7 := String.length_append name "Handler"
  change (name ++ "Handler").length = 3 at hlength
  omega

/-- What the readers find in the artifacts of a catalog. -/
theorem outlines_of_generate (h : c.generate moduleId astPath = .ok artifacts) :
    Admissible c.kinds ∧ ∃ path own, Token.ofText? astPath = some path ∧
      (∀ k : KindNames, Ty.spell (own k) = ownTokens path k.name) ∧
      HandlersOutline.read? artifacts.handlers.tokens =
        some (.ofKinds own (c.kinds.map KindNames.ofName)) ∧
      VisitorOutline.read? artifacts.visitor.tokens =
        some (.ofKinds own (c.kinds.map KindNames.ofName)) := by
  obtain ⟨hk, hvalid, ast, hast, hh, hv⟩ := of_generate h
  obtain ⟨leading, names, rfl, hne, -⟩ := of_readAstPath hast
  have hown := isPathTy_ownTy leading names
  have hslot : ∀ k ∈ c.kinds.map KindNames.ofName, spellMember k.slot = .ident k.slot :=
    fun k hm => spellMember_of_isSourceName (spelled_of_validate (hvalid k hm)).slot
  refine ⟨hk, _, _, ofText?_of_readAstPath hast, spell_ownTy hne leading, ?_, ?_⟩
  · rw [hh]
    exact read?_handlersTree _ _ hown
  · rw [hv]
    exact read?_visitorTree _ hown (List.forall_mem_map.2 fun n _ => handlerTrait_ne_for n) hslot

/-- **The two artifacts are wired together.** Whatever is generated for a catalog, the tokens of the
two artifacts can be read, and what they declare belongs together kind by kind: once for each kind,
in the order of the catalog, and for the path that was given. -/
theorem artifacts_wired (h : c.generate moduleId astPath = .ok artifacts) :
    ∃ path ho vo, Token.ofText? astPath = some path ∧
      HandlersOutline.read? artifacts.handlers.tokens = some ho ∧
      VisitorOutline.read? artifacts.visitor.tokens = some vo ∧ Wired path c.kinds ho vo := by
  obtain ⟨hk, path, own, hpath, hown, hh, hv⟩ := outlines_of_generate h
  exact ⟨path, _, _, hpath, hh, hv, wired_ofKinds hown hk⟩

end Artifacts

/-- A catalog with a kind that is a keyword in lower case. Its method is spelled as a raw name, in
the trait, for shared handlers and where it is called; its other names are not. -/
theorem artifacts_wired_keyword :
    ∃ artifacts, (Catalog.explicit ["Ident", "Type"]).generate "m" "syn" = .ok artifacts ∧
      ∃ ho vo held given slot handler,
        HandlersOutline.read? artifacts.handlers.tokens = some ho ∧
        VisitorOutline.read? artifacts.visitor.tokens = some vo ∧
        Token.ofText? "& 'ast syn::Type" = some held ∧ Token.ofText? "&syn::Type" = some given ∧
        Token.ofText? "Option<Box<dyn TypeHandler + 'h>>" = some slot ∧
        Token.ofText? "impl TypeHandler + 'h" = some handler ∧
        ho.variants.map Prod.fst = ["Ident", "Type", "Other"] ∧
        ho.variants.lookup "Type" = some held ∧ ho.labels.lookup "Type" = some "Type" ∧
        ho.conversions.filter (·.variant == "Type") = [⟨"Type", held, held⟩] ∧
        ho.traits.lookup "TypeHandler" = some [⟨"r#type", given⟩] ∧
        vo.shared.lookup "TypeHandler" = some [⟨"r#type", given⟩] ∧
        vo.slots.lookup "h_type" = some slot ∧
        vo.registrations.lookup "on_type" = some ⟨handler, "h_type"⟩ ∧
        vo.presence.arms.lookup "Type" = some (some "h_type") ∧
        vo.presence.fallback = "h_default" ∧
        vo.dispatch.arms.lookup "Type" = some (some ⟨"h_type", "r#type"⟩) ∧
        vo.dispatch.fallback = ⟨"h_default", "handle"⟩ := by
  have hl : (Catalog.explicit ["Ident", "Type"]).lower "m" "syn" =
      .ok ⟨"m", "syn", ["Ident", "Type"].map KindNames.ofName⟩ :=
    lower_eq_ok_iff.2 ⟨by decide +kernel, rfl⟩
  have hh := ((emits_handlersFile (Path.single "syn")
    (["Ident", "Type"].map KindNames.ofName)).eq_ok_iff).2 ⟨by decide +kernel, rfl⟩
  have hv := ((emits_visitorFile (Path.single "syn")
    (["Ident", "Type"].map KindNames.ofName)).eq_ok_iff).2 ⟨by decide +kernel, rfl⟩
  have hg : (Catalog.explicit ["Ident", "Type"]).generate "m" "syn" = .ok
      ⟨toArtifact .handlers "m" (handlersTree (Path.single "syn") _),
        toArtifact .visitor "m" (visitorTree (Path.single "syn") _)⟩ :=
    generate_eq_ok_iff.2 ⟨_, _, hl, readAstPath_syn, map_eq_ok_iff.2 ⟨_, hh, rfl⟩,
      map_eq_ok_iff.2 ⟨_, hv, rfl⟩⟩
  obtain ⟨path, ho, vo, hpath, hho, hvo, hw⟩ := artifacts_wired hg
  obtain rfl : path = [.ident "syn"] := Option.some.inj (hpath.symm.trans (by decide +kernel))
  have hk := hw.kind "Type" (by simp [Catalog.explicit])
  have hnames : KindNames.ofName "Type" =
      ⟨"Type", "TypeHandler", "r#type", "h_type", "on_type"⟩ := by
    decide +kernel
  have htrait : "Type" ++ "Handler" = "TypeHandler" := by decide
  rw [hnames] at hk
  -- Each type is the form of it, with what stands in the place.
  obtain ⟨held, hpayload, hheld⟩ := hk.payload
  obtain ⟨source, hconversion, hsource⟩ := hk.conversion
  obtain ⟨given, hcontract, hgiven⟩ := hk.contract
  obtain ⟨input, hshared, hinput⟩ := hk.shared
  obtain ⟨slot, hslot, hslotTy⟩ := hk.slot
  obtain ⟨handler, hregistration, hhandler⟩ := hk.registration
  rw [htrait] at hcontract hshared hslotTy hhandler
  obtain rfl := eq_fill_of_capturesOf typeForms.held hheld
  obtain rfl := eq_fill_of_capturesOf typeForms.held hsource
  obtain rfl := eq_fill_of_capturesOf typeForms.given hgiven
  obtain rfl := eq_fill_of_capturesOf typeForms.given hinput
  obtain rfl := eq_fill_of_capturesOf typeForms.slot hslotTy
  obtain rfl := eq_fill_of_capturesOf typeForms.handler hhandler
  exact ⟨_, hg, ho, vo, _, _, _, _, hho, hvo, by decide +kernel, by decide +kernel,
    by decide +kernel, by decide +kernel, hw.variants.order, hpayload, hk.label, hconversion,
    hcontract, hshared, hslot, hregistration, hk.presence, hw.rest.presence_fallback, hk.dispatch,
    hw.rest.dispatch_fallback⟩

end DispatchLayer.Emission
