import DispatchLayer.Proofs.FileTree.Destination
import DispatchLayer.Proofs.Run.Outcome
import Mathlib.Data.List.Nodup

/-!
# Which files are replaced with a warning

Before a text is written, the pathname is read, and a text that does not begin with the marker of the
generator is replaced with a warning. What is read is the file that the write replaces, so a write
that goes through has warned exactly if a file stood at its destination, its bytes were text, and
they did not begin with the marker (`warns_iff_foreign_text`). The marker is looked for in the
characters, which comes to looking for it in the bytes (`isGenerated_iff`).

A file that is no text cannot be read, and so it is replaced without a warning although it does not
begin with the marker either (`replaces_bytes_unwarned`).
-/

namespace DispatchLayer

/-! ## Texts and bytes -/

/-- The bytes begin with those of the marker. -/
def Artifact.BeginsWithMarker (content : ByteArray) : Prop :=
  ∃ rest, content = marker.toUTF8 ++ rest

/-- A text begins with the marker exactly if its bytes do: no byte of the marker can be part of
another character. -/
theorem Artifact.isGenerated_iff {text : String} :
    isGenerated text = true ↔ BeginsWithMarker text.toUTF8 := by
  unfold isGenerated
  rw [List.isPrefixOf_iff_prefix]
  constructor
  · rintro ⟨rest, hr⟩
    have ht : text = marker ++ String.ofList rest := by
      apply String.toList_injective
      rw [String.toList_append, String.toList_ofList, hr]
    refine ⟨(String.ofList rest).toUTF8, ?_⟩
    rw [ht]
    exact String.toByteArray_append
  · rintro ⟨rest, hr⟩
    apply List.isPrefix_of_utf8Encode_append_eq_utf8Encode rest
    rw [String.utf8Encode_toList, String.utf8Encode_toList]
    exact hr.symm

theorem FileTree.decode_of_valid {content : ByteArray} (h : content.IsValidUTF8) :
    decode content = .ok (String.fromUTF8 content h) := by
  unfold decode String.fromUTF8?
  rw [dif_pos h]

theorem FileTree.decode_of_not_valid {content : ByteArray} (h : ¬ content.IsValidUTF8) :
    decode content = .error .notText := by
  unfold decode String.fromUTF8?
  rw [dif_neg h]

/-! ## What a write replaces -/

/-- A file stands at the location, and its bytes are text that does not begin with the marker. -/
def FileTree.HasForeignText (t : FileTree) (loc : Location) : Prop :=
  ∃ content, t.lookup loc = some (.file content) ∧ content.IsValidUTF8 ∧
    ¬ Artifact.BeginsWithMarker content

namespace Run

variable {w v : Workspace} {loc : Location} {path : String}

theorem warned_of_foreign (hd : w.tree.destination path = .ok loc)
    (h : w.tree.HasForeignText loc) : warned path w = w.noted (.replacing path) := by
  obtain ⟨content, hl, hv, hm⟩ := h
  have hg : Artifact.isGenerated (String.fromUTF8 content hv) = false := by
    rw [Bool.eq_false_iff]
    intro hg
    exact hm (Artifact.isGenerated_iff.1 hg)
  unfold warned
  rw [FileTree.readText_eq_of_destination hd, hl]
  dsimp only
  simp only [FileTree.decode_of_valid hv, hg, Bool.false_eq_true, if_false]

theorem warned_of_not_foreign (hd : w.tree.destination path = .ok loc)
    (h : ¬ w.tree.HasForeignText loc) : warned path w = w := by
  unfold warned
  rw [FileTree.readText_eq_of_destination hd]
  rcases FileTree.destination_spec hd with hl | ⟨content, hl⟩
  · rw [hl]
  · rw [hl]
    dsimp only
    by_cases hv : content.IsValidUTF8
    · -- The text is there to be read, so it can only be one with the marker.
      have hm : Artifact.BeginsWithMarker content := by
        by_contra hm
        exact h ⟨content, hl, hv, hm⟩
      have hg : Artifact.isGenerated (String.fromUTF8 content hv) = true :=
        Artifact.isGenerated_iff.2 hm
      simp only [FileTree.decode_of_valid hv, hg, if_true]
    · simp only [FileTree.decode_of_not_valid hv]

/-- **Which files are replaced with a warning.** A write of an artifact's text that goes through has
put the text at the destination of its path, and has warned before, exactly if a file stood there
whose bytes are text and do not begin with the marker. Nothing else has been taken down but the
write. -/
theorem warns_iff_foreign_text {dir text : String} {kind : ArtifactKind}
    (h : outcome (persist dir kind text) w = (.ok path, v)) :
    path = Pathname.join dir kind.fileName ∧
      ∃ loc warnings, w.tree.destination path = .ok loc ∧
        v.tree = w.tree.set loc (.file text.toUTF8) ∧
        v.log = w.log ++ warnings ++ [.fileWritten path text.utf8ByteSize] ∧
        (warnings = [] ∨ warnings = [.replacing path]) ∧
        (.replacing path ∈ warnings ↔ w.tree.HasForeignText loc) := by
  rw [outcome_persist] at h
  cases hw : w.tree.writeText (Pathname.join dir kind.fileName) text with
  | error e =>
    rw [hw] at h
    cases h
  | ok after =>
    rw [hw] at h
    cases h
    obtain ⟨loc, hd, rfl⟩ := FileTree.writeText_eq_ok_iff.1 hw
    refine ⟨rfl, loc, ?_⟩
    by_cases hf : w.tree.HasForeignText loc
    · rw [warned_of_foreign hd hf]
      exact ⟨[.replacing _], hd, rfl, rfl, Or.inr rfl, iff_of_true List.mem_cons_self hf⟩
    · rw [warned_of_not_foreign hd hf]
      refine ⟨[], hd, rfl, ?_, Or.inl rfl, iff_of_false List.not_mem_nil hf⟩
      rw [List.append_nil]
      rfl

/-- A tree with a file of another origin, reached by a link, and a file that is no text. -/
def foreign : FileTree :=
  { top := "/top"
    entries := [(["handlers_gen.rs"], .link "old.rs"), (["old.rs"], .file "fn main".toUTF8),
      (["visitor_gen.rs"], .file ⟨#[0xff]⟩)] }

/-- A file that is replaced through a link, with a warning. -/
theorem warns_iff_foreign_text_linked :
    let replaced := outcome (persist "." .handlers "new") ⟨foreign, []⟩
    replaced.1 = .ok "./handlers_gen.rs" ∧
      foreign.lookup ["old.rs"] = some (.file "fn main".toUTF8) ∧
      ¬ Artifact.BeginsWithMarker "fn main".toUTF8 ∧
      Event.replacing "./handlers_gen.rs" ∈ replaced.2.log := by
  intro replaced
  have hpath : replaced.1 = .ok "./handlers_gen.rs" := by decide +kernel
  have hloc : foreign.destination "./handlers_gen.rs" = .ok ["old.rs"] := by decide +kernel
  have hold : foreign.lookup ["old.rs"] = some (.file "fn main".toUTF8) := by decide +kernel
  have hmarker : ¬ Artifact.BeginsWithMarker "fn main".toUTF8 := by
    rw [← Artifact.isGenerated_iff]
    decide +kernel
  obtain ⟨-, loc, warnings, hd, -, hlog, -, hw⟩ :=
    warns_iff_foreign_text (w := ⟨foreign, []⟩) (v := replaced.2) (Prod.ext hpath rfl)
  have he := hd.symm.trans hloc
  cases he
  have hmem : Event.replacing "./handlers_gen.rs" ∈ warnings :=
    hw.2 ⟨_, hold, String.isValidUTF8 _, hmarker⟩
  refine ⟨hpath, hold, hmarker, ?_⟩
  rw [hlog]
  exact List.mem_append_left _ (List.mem_append_right _ hmem)

/-- **A file that is no text is replaced without a warning**, although it does not begin with the
marker. -/
theorem replaces_bytes_unwarned :
    (outcome (persist "." .visitor "new") ⟨foreign, []⟩).1 = .ok "./visitor_gen.rs" ∧
      foreign.destination "./visitor_gen.rs" = .ok ["visitor_gen.rs"] ∧
      foreign.lookup ["visitor_gen.rs"] = some (.file ⟨#[0xff]⟩) ∧
      ¬ Artifact.BeginsWithMarker ⟨#[0xff]⟩ ∧
      (outcome (persist "." .visitor "new") ⟨foreign, []⟩).2.log =
        [.fileWritten "./visitor_gen.rs" 3] := by
  refine ⟨by decide +kernel, by decide +kernel, by decide +kernel, ?_, by decide +kernel⟩
  -- One byte is too few to begin with the marker.
  rintro ⟨rest, hr⟩
  have hsize := congrArg ByteArray.size hr
  rw [ByteArray.size_append] at hsize
  have hone : (ByteArray.mk #[0xff]).size = 1 := rfl
  have hmarker : Artifact.marker.toUTF8.size = 25 := by decide +kernel
  omega

end Run

end DispatchLayer
