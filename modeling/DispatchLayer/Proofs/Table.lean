import Mathlib.Data.List.Nodup

/-!
# Tables

A table is a list of entries, each with a key. Where no two entries have the same key, each is found
by its key (`lookup_eq_of_mem`); so in a table with one entry for each member of a list and a last
one (`endedBy`), these entries are found.
-/

namespace DispatchLayer.Table

variable {α β κ : Type}

/-- In a list of entries with different keys, each entry is found by its key. -/
theorem lookup_eq_of_mem [DecidableEq κ] {entries : List (κ × β)}
    (h : (entries.map Prod.fst).Nodup) (entry : κ × β) (hm : entry ∈ entries) :
    entries.lookup entry.1 = some entry.2 := by
  induction entries with
  | nil => exact absurd hm List.not_mem_nil
  | cons first rest ih =>
    rw [List.map_cons, List.nodup_cons] at h
    obtain ⟨key, value⟩ := first
    rcases List.mem_cons.1 hm with rfl | hm
    · rw [List.lookup_cons, beq_self_eq_true]
    · have hne : (entry.1 == key) = false :=
        beq_eq_false_iff_ne.2 fun he => h.1 (List.mem_map.2 ⟨entry, hm, he⟩)
      rw [List.lookup_cons, hne]
      exact ih h.2 hm

/-- A table with one entry for each member of a list, and a last one. -/
def endedBy (fixed : κ) (rest : β) (key : α → κ) (value : α → β) (as : List α) : List (κ × β) :=
  as.map (fun a => (key a, value a)) ++ [(fixed, rest)]

variable {fixed : κ} {rest : β} {key : α → κ} {value : α → β} {as : List α}

theorem keys_endedBy :
    (endedBy fixed rest key value as).map Prod.fst = as.map key ++ [fixed] := by
  unfold endedBy
  rw [List.map_append, List.map_map]
  rfl

theorem values_endedBy :
    (endedBy fixed rest key value as).map Prod.snd = as.map value ++ [rest] := by
  unfold endedBy
  rw [List.map_append, List.map_map]
  rfl

section Lookup

variable [DecidableEq κ] (h : (as.map key ++ [fixed]).Nodup)

include h

theorem lookup_key {a : α} (ha : a ∈ as) :
    (endedBy fixed rest key value as).lookup (key a) = some (value a) :=
  lookup_eq_of_mem (keys_endedBy ▸ h) (key a, value a)
    (List.mem_append_left _ (List.mem_map_of_mem ha))

theorem lookup_fixed : (endedBy fixed rest key value as).lookup fixed = some rest :=
  lookup_eq_of_mem (keys_endedBy ▸ h) (fixed, rest)
    (List.mem_append_right _ (List.mem_singleton_self _))

end Lookup

end DispatchLayer.Table
