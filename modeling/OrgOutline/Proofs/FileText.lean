import OrgOutline.Proofs.Exact
import OrgOutline.Proofs.Reload

/-!
# Documents in files, there and back

A well-typed document comes back from the JSON text of its file, whatever the indentation. Writing has a limit on integers, so
this is so for the documents in which no integer has more than `digitLimit` digits; the others are not written
(`Document.ofFileText_toFileText`).
-/

namespace OrgOutline

/-- The value asks for a single line, or for an indentation by an integer of 64 bits. -/
def Json.IsIndent (v : Json) : Prop := v = .null ∨ ∃ n : Int, v = .int n ∧ -2 ^ 63 ≤ n ∧ n < 2 ^ 63

theorem Json.IsIndent.toIndent_isOk {v : Json} (h : v.IsIndent) : ∃ indent, v.toIndent = .ok indent := by
  rcases h with rfl | ⟨n, rfl, hlow, hhigh⟩
  · exact ⟨none, rfl⟩
  · have hfits : ¬ (n < -wordLimit ∨ wordLimit ≤ n) := by
      rw [wordLimit]
      omega
    refine ⟨some n.toNat, ?_⟩
    simp only [toIndent, isNull, toCount, asInt?, if_neg hfits]
    rfl

/-- An integer that does not fit into 64 bits is no indentation. -/
theorem Json.toIndent_of_not_isIndent {n : Int} (h : ¬ (Json.int n).IsIndent) : (Json.int n).toIndent = .error .outOfRange := by
  have hlarge : n < -wordLimit ∨ wordLimit ≤ n := by
    rw [wordLimit]
    by_contra hfits
    exact h (.inr ⟨n, rfl, by omega, by omega⟩)
  simp only [toIndent, isNull, toCount, asInt?, if_pos hlarge]
  rfl

theorem Json.hasLong_iff {v : Json} : v.hasLong = true ↔ ∃ n ∈ v.integers, 10 ^ digitLimit ≤ n.natAbs := by
  simp only [hasLong, List.any_eq_true, isLong_iff]

/-- A value with an integer of too many digits is not written. -/
theorem Json.write_of_hasLong {v : Json} (h : v.hasLong = true) (indent : Indent) :
    v.write indent = .error .tooManyDigitsShown := by
  rw [write, checkShown, if_pos (by rw [List.any_cons, h, Bool.true_or])]
  rfl

theorem Json.write_of_not_hasLong {v : Json} (h : v.hasLong = false) (indent : Indent) :
    v.write indent = .ok (v.layout indent) := by
  rw [write, checkShown, if_neg (by rw [List.any_cons, h, List.any_nil]; decide)]
  rfl

namespace Document

variable {d : Document}

/-- The object in the file of a well-typed document is exact. -/
theorem exact_toFile (typed : d.WellTyped) (named : (Record.document d).NamesUnknowns)
    (payloads : (Record.document d).ExactPayloads) : d.toFile.Exact := by
  have h : (Json.obj d.members).Exact := by
    have h := Record.exact_encode typed named payloads
    rwa [Record.encode] at h
  cases d
  refine Json.exact_obj_cons.2 ⟨?_, Json.exact_int _, h⟩
  simp [members]

/-- A well-typed document comes back from the object in its file. -/
theorem outcome_ofFile_toFile_of_wellTyped (typed : d.WellTyped) (named : (Record.document d).NamesUnknowns) :
    (ofFile false true d.toFile).outcome = .ok d := by
  rw [outcome_ofFile_toFile (Record.storable_of_wellTyped typed named), Record.isDated_of_wellTyped typed]
  exact congrArg Except.ok (Record.document.inj (Record.settled_of_wellTyped typed))

/-- What is laid out for the file of a well-typed document without integers of too many digits is read as the document. -/
theorem outcome_ofFileText_layout (typed : d.WellTyped) (named : (Record.document d).NamesUnknowns)
    (payloads : (Record.document d).ExactPayloads) (short : d.toFile.hasLong = false) (indent : Json.Indent) :
    (ofFileText false true (d.toFile.layout indent)).outcome = .ok d := by
  obtain ⟨hf, hw⟩ := exact_toFile typed named payloads
  have hfind : d.toFile.integers.find? isLong = none := by
    rw [List.find?_eq_none]
    exact List.any_eq_false.1 short
  rw [ofFileText, Json.read_layout indent hf hw, hfind]
  exact outcome_ofFile_toFile_of_wellTyped typed named

/-- A document with an integer of too many digits is not written. -/
theorem toFileText_of_hasLong (long : d.toFile.hasLong = true) {v : Json} (hv : v.IsIndent) :
    d.toFileText v = .error .tooManyDigitsShown := by
  obtain ⟨indent, hi⟩ := hv.toIndent_isOk
  rw [toFileText, hi]
  exact Json.write_of_hasLong long indent

/-! ## Statements -/

/-- A well-typed document whose unrecognized parts are named and have exact payloads is written with every indentation of 64 bits,
and reading the text gives the document back, if no integer in it has more than `digitLimit` digits. If there is such an integer,
the document is not written, and neither is it with a larger indentation. -/
theorem ofFileText_toFileText (d : Document) (typed : d.WellTyped) (named : (Record.document d).NamesUnknowns)
    (payloads : (Record.document d).ExactPayloads) (v : Json) (asked : v = .null ∨ ∃ n : Int, v = .int n) :
    (v.IsIndent → (∀ n ∈ d.toFile.integers, n.natAbs < 10 ^ digitLimit) →
        ∃ text, d.toFileText v = .ok text ∧ (ofFileText false true text).outcome = .ok d) ∧
      (v.IsIndent → (∃ n ∈ d.toFile.integers, 10 ^ digitLimit ≤ n.natAbs) → d.toFileText v = .error .tooManyDigitsShown) ∧
      (¬ v.IsIndent → d.toFileText v = .error .outOfRange) := by
  refine ⟨fun hv short => ?_, fun hv long => ?_, fun hv => ?_⟩
  · obtain ⟨indent, hi⟩ := hv.toIndent_isOk
    have hshort : d.toFile.hasLong = false := by
      rw [← Bool.not_eq_true, Json.hasLong_iff]
      rintro ⟨n, hn, hlong⟩
      exact not_lt.2 hlong (short n hn)
    refine ⟨d.toFile.layout indent, ?_, outcome_ofFileText_layout typed named payloads hshort indent⟩
    rw [toFileText, hi]
    exact Json.write_of_not_hasLong hshort indent
  · exact toFileText_of_hasLong (Json.hasLong_iff.2 long) hv
  · rcases asked with rfl | ⟨n, rfl⟩
    · exact absurd (.inl rfl) hv
    · rw [toFileText, Json.toIndent_of_not_isIndent hv]
      rfl

/-- The document of the example comes back from its file text, indented by two spaces. -/
theorem ofFileText_toFileText_sample :
    sampleDocument.WellTyped ∧ (Record.document sampleDocument).NamesUnknowns ∧
      (Record.document sampleDocument).ExactPayloads ∧ (Json.int 2).IsIndent ∧
      (∀ n ∈ sampleDocument.toFile.integers, n.natAbs < 10 ^ digitLimit) ∧
      ∃ text, sampleDocument.toFileText (.int 2) = .ok text ∧ (ofFileText false true text).outcome = .ok sampleDocument := by
  have typed : sampleDocument.WellTyped := by decide
  have payloads : (Record.document sampleDocument).ExactPayloads := by
    intro kind payload h
    obtain ⟨rfl, rfl⟩ := eq_of_unrecognized_mem_sampleDocument h
    simp
  have short : ∀ n ∈ sampleDocument.toFile.integers, n.natAbs < 10 ^ digitLimit := by
    have hten : ∀ n ∈ sampleDocument.toFile.integers, n.natAbs < 10 := by decide
    exact fun n hn => (hten n hn).trans_le (Nat.le_self_pow (by decide) 10)
  have hindent : (Json.int 2).IsIndent := .inr ⟨2, rfl, by decide, by decide⟩
  obtain ⟨back, -, -⟩ :=
    ofFileText_toFileText sampleDocument typed namesUnknowns_sampleDocument payloads (.int 2) (.inr ⟨2, rfl⟩)
  exact ⟨typed, namesUnknowns_sampleDocument, payloads, hindent, short, back hindent short⟩

/-! ## Integers that are too long -/

/-- A document with a cookie that holds an integer. -/
def ofCookie (n : Int) : Document where
  headings := [{
    level := .int 1, title := { text := .str "T" }, planning := [], properties := [], logbook := [], body := .str ""
    description := [.percentage (.int n)] }]
  keywordSets := []
  configLines := []
  firstLines := []

theorem unrecognized_notMem_ofCookie (n : Int) : (Record.document (ofCookie n)).Quiet := by
  intro kind payload
  simp [Record.within, ofCookie, Document.within, withinHeadings, Heading.within, withinProperties, withinParts]

/-- A document with an integer of 4301 digits is not written, whatever the indentation, and neither is any document with an
indentation below the integers of 64 bits. -/
theorem ofFileText_toFileText_long :
    (ofCookie (10 ^ digitLimit)).WellTyped ∧ (Record.document (ofCookie (10 ^ digitLimit))).Quiet ∧
      (∀ v : Json, v.IsIndent → (ofCookie (10 ^ digitLimit)).toFileText v = .error .tooManyDigitsShown) ∧
      (ofCookie 1).WellTyped ∧ (Record.document (ofCookie 1)).Quiet ∧
      (ofCookie 1).toFileText (.int (-2 ^ 63 - 1)) = .error .outOfRange := by
  have typed : ∀ n, (ofCookie n).WellTyped := fun _ => List.all_eq_true.1 rfl
  have hlong : (ofCookie (10 ^ digitLimit)).toFile.hasLong = true := by
    have integers : ∀ n, (ofCookie n).toFile.integers = [1, 1, n] := fun _ => rfl
    rw [Json.hasLong, integers]
    exact List.any_eq_true.2 ⟨10 ^ digitLimit, by simp, isLong_ten_pow⟩
  exact ⟨typed _, unrecognized_notMem_ofCookie _, fun v hv => toFileText_of_hasLong hlong hv, typed _,
    unrecognized_notMem_ofCookie _, rfl⟩

end Document
end OrgOutline
