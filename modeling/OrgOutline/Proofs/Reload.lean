import OrgOutline.File
import OrgOutline.Proofs.Loaded

/-!
# Saved documents

A file holds the object of a document behind its schema version. Main statements: what is read back from the object in a file
is the document settled, if its timestamps have dates (`Document.outcome_ofFile_toFile`), and whatever is read from a file,
all that is inside can be saved and read again (`Document.ensures_ofFile`).
-/

namespace OrgOutline
namespace Document

open Run (Ensures)

/-- A document in which everything keeps its form comes back from the object in its file with its timestamps settled, if they
have dates. -/
theorem outcome_ofFile_toFile {d : Document} (hr : ∀ y ∈ (Record.document d).within, y.Storable) :
    (ofFile false true d.toFile).outcome = orWrongKind (Record.document d).isDated (d.mapTimestamps Timestamp.settle) := by
  have hh : ∀ h ∈ d.headings, ComesBack false (Record.document d).Quiet .heading h := by
    intro h hh
    have hc : Record.heading h ∈ (Record.document d).children := by simp [Record.children, hh]
    exact comesBack (by simp) (.heading h) (fun y hy => hr y (Record.mem_within_of_mem_children hc hy))
      (fun hq => hq.child hc) .heading h rfl
  have hl : ofFile false true d.toFile = assembleDocument (("schema_version", .int schemaVersion) :: d.members)
      (fun s name => loadAt false s name (("schema_version", .int schemaVersion) :: d.members)) := by
    cases d
    rfl
  have hm : ∀ name ∈ ["headers", "todo_keyword_sets", "file_config_lines", "lines_before_headings"],
      List.lookup name (("schema_version", Json.int schemaVersion) :: d.members) = d.members.lookup name := by
    intro name hname
    rw [Json.lookup_cons, if_neg]
    rintro rfl
    simp at hname
  rw [hl, (gives_assembleDocument hh hm).outcome]

/-- Whatever a document is read from, all that is inside keeps its form. -/
theorem ensures_ofFile (strict checked : Bool) (data : Json) :
    Ensures (fun d => ∀ y ∈ (Record.document d).within, y.Storable) (ofFile strict checked data) := by
  refine (Ensures.trivial _).bind fun members _ => (Ensures.trivial _).bind fun _ _ => ?_
  split
  · have hl : ∀ (t : Shape) (name : String),
        Ensures (fun xs => ∀ x ∈ xs, t.Sound strict x) (loadAt strict t name members) := by
      intro t name
      rw [loadAt_eq]
      split
      · exact (ensures_load_loadEach strict _).2 t
      · exact Ensures.pure (List.forall_mem_nil _)
    exact (ensures_assembleDocument hl).mono fun _ hd y hy => (hd y hy).storable
  · exact Ensures.fail _

end Document
end OrgOutline
