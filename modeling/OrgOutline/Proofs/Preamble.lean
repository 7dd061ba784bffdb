import OrgOutline.Proofs.Outline
import OrgOutline.Proofs.Typed

/-!
# The lines before the headings

The preamble of a document consists of the configuration lines, the lines that declare keywords and the lines before the first
heading. Main statements: these lines and no others are written, in this order and each ended by a newline, except that an empty
line comes in the place of lines before the first heading that are missing, and none where it would be alone
(`Document.preamble_of_wellTyped`); and a document is exported as its preamble, which is all that is exported of it without its
headings, and behind it the headings as each of them is exported on its own (`Document.lines_export_preamble`).
-/

namespace OrgOutline

/-! ## Lines of preambles -/

namespace Text

theorem unlines_eq_nil_iff {ls : List Text} : unlines ls = [] ↔ ls = [] ∨ ls = [[]] := by
  constructor
  · intro h
    cases ls with
    | nil => exact Or.inl rfl
    | cons l ls =>
      cases ls with
      | nil => exact Or.inr (by simpa [unlines] using h)
      | cons l' ls => simp [unlines, List.intercalate_cons_cons] at h
  · rintro (rfl | rfl) <;> rfl

theorem flatMap_newline_eq_nil_iff {ls : List Text} : ls.flatMap (· ++ ['\n']) = [] ↔ ls = [] := by
  cases ls <;> simp

end Text

/-- The lines of a preamble with given lines that declare something and given lines before the first heading. -/
def preambleLines (declared first : List Text) : List Text :=
  if declared = [] ∧ (first = [] ∨ first = [[]]) then [] else declared ++ if first = [] then [[]] else first

section

variable {declared first : List Text}

theorem preambleLines_eq_nil_iff : preambleLines declared first = [] ↔ declared = [] ∧ (first = [] ∨ first = [[]]) := by
  unfold preambleLines
  split
  · rename_i h
    exact iff_of_true rfl h
  · rename_i h
    refine iff_of_false (fun hnil => ?_) h
    obtain ⟨-, hfirst⟩ := List.append_eq_nil_iff.1 hnil
    split at hfirst
    · exact List.cons_ne_nil _ _ hfirst
    · exact absurd hfirst ‹_›

theorem newline_not_mem_of_mem_preambleLines (hdeclared : ∀ l ∈ declared, '\n' ∉ l) (hfirst : ∀ l ∈ first, '\n' ∉ l) :
    ∀ l ∈ preambleLines declared first, '\n' ∉ l := by
  unfold preambleLines
  split
  · exact List.forall_mem_nil _
  · refine List.forall_mem_append.2 ⟨hdeclared, ?_⟩
    split
    · exact List.forall_mem_singleton.2 List.not_mem_nil
    · exact hfirst

/-- The lines of a preamble, each ended by a newline, are the lines that declare something, each ended by a newline, and the lines
before the first heading, with a newline behind them all unless there is nothing in front of it. -/
theorem flatMap_preambleLines {text : Text} (h : text = declared.flatMap (· ++ ['\n']) ++ Text.unlines first) :
    (preambleLines declared first).flatMap (· ++ ['\n']) = if text.isEmpty then [] else text ++ ['\n'] := by
  have hempty : text.isEmpty = true ↔ declared = [] ∧ (first = [] ∨ first = [[]]) := by
    rw [List.isEmpty_iff, h, List.append_eq_nil_iff, Text.flatMap_newline_eq_nil_iff, Text.unlines_eq_nil_iff]
  by_cases hnone : declared = [] ∧ (first = [] ∨ first = [[]])
  · rw [preambleLines, if_pos hnone, if_pos (hempty.2 hnone)]
    rfl
  · rw [preambleLines, if_neg hnone, if_neg (mt hempty.1 hnone), h, List.flatMap_append, List.append_assoc]
    -- Without lines before the first heading, the newline behind the text ends an empty line.
    by_cases hnil : first = []
    · rw [if_pos hnil, hnil]
      rfl
    · rw [if_neg hnil, Text.flatMap_newline hnil]

end

/-! ## The preamble -/

namespace Document

theorem closedLines_eq_ok {ls : List Json} (h : ls.all Json.isString = true) :
    closedLines ls = .ok ((ls.map Json.shown).flatMap (· ++ ['\n'])) := by
  unfold closedLines
  split
  · rename_i hnil
    rw [List.isEmpty_iff.1 hnil]
    rfl
  · rename_i hne
    rw [Text.flatMap_newline (by simpa using hne), Json.join_of_all_isString h]
    rfl

/-- All sets of keywords are declared, unless there is no first one or it is built in. -/
theorem map_shown_keywordLines (d : Document) : d.keywordLines.map Json.shown =
    if d.keywordSets.head?.all (·.builtIn.isSet) then [] else d.keywordSets.map (·.line.shown) := by
  have hbuiltIn : d.usesBuiltInKeywords = d.keywordSets.head?.all (·.builtIn.isSet) := by
    unfold usesBuiltInKeywords
    cases d.keywordSets <;> rfl
  rw [keywordLines, hbuiltIn]
  split
  · rfl
  · exact List.map_map

/-- The lines that declare the keywords of a well-typed document are strings. -/
theorem all_isString_keywordLines {d : Document} (typed : d.WellTyped) : d.keywordLines.all Json.isString = true := by
  unfold keywordLines
  split
  · rfl
  · refine List.all_eq_true.2 ?_
    intro line hline
    obtain ⟨k, hk, rfl⟩ := List.mem_map.1 hline
    have htyped : k.isTyped = true := (Record.WellTyped.of_mem_children (c := .keywordSet k) typed
      (List.mem_append_right _ (List.mem_map_of_mem hk))).fieldsTyped
    exact (Bool.and_eq_true_iff.1 (Bool.and_eq_true_iff.1 htyped).1).2

/-- The preamble of a well-typed document is its lines, each ended by a newline. -/
theorem preamble_of_wellTyped {d : Document} (typed : d.WellTyped) : d.preamble =
    .ok ((preambleLines ((d.configLines ++ d.keywordLines).map Json.shown) (d.firstLines.map Json.shown)).flatMap
      (· ++ ['\n'])) := by
  obtain ⟨hconfig, hfirst⟩ := Bool.and_eq_true_iff.1 (Record.WellTyped.fieldsTyped typed)
  rw [preamble, closedLines_eq_ok hconfig, closedLines_eq_ok (all_isString_keywordLines typed),
    Json.join_of_all_isString hfirst, flatMap_preambleLines rfl, List.map_append, List.flatMap_append]
  rfl

end Document

/-! ## Documents -/

/-- Headings are written as their texts one after another, or fail as the first heading that fails. -/
theorem outcome_writeHeadings (s : Setup) (hs : List Heading) :
    (writeHeadings s hs).outcome = (hs.mapM fun h => (Heading.write s true .null h).outcome).map List.flatten := by
  induction hs with
  | nil => rfl
  | cons h hs ih =>
    rw [writeHeadings, List.mapM_cons, Run.outcome_bind]
    cases (h.write s true .null).outcome with
    | error e => rfl
    | ok text =>
      show (writeHeadings s hs >>= _).outcome = _
      rw [Run.outcome_bind, ih]
      cases hs.mapM (fun h => (Heading.write s true .null h).outcome) with
      | error e => rfl
      | ok texts => rfl

namespace Document

/-- The document without its headings. -/
def withoutHeadings (d : Document) : Document := { d with headings := [] }

/-- A document is exported as its preamble and then its headings, each as it is exported on its own. -/
theorem outcome_export_of_preamble (c : Collaborators) (o : Option Options) (d : Document) {preamble : Text}
    (h : d.preamble = .ok preamble) : (d.export c (o.map .own)).outcome =
      (d.headings.mapM fun h => ((Record.heading h).exportHeading c (o.map .own) true .null).outcome).map
        (preamble ++ ·.flatten) := by
  obtain ⟨s, hs⟩ : ∃ s, (c.setup .document (o.map .own)).outcome = .ok s := by
    cases o <;> exact ⟨_, rfl⟩
  simp only [Record.outcome_exportHeading hs]
  rw [Document.export, Run.bind_ok hs, write, Run.bind_ok rfl, Run.bind_ok (a := preamble) h]
  show (writeHeadings s d.headings >>= _).outcome = _
  rw [Run.outcome_bind, outcome_writeHeadings]
  cases d.headings.mapM (fun h => (Heading.write s true .null h).outcome) with
  | error e => rfl
  | ok texts => rfl

/-- The preamble of a well-typed document whose preamble lines are not broken, which is what is exported of the document without
its headings. It is empty exactly if there are no configuration lines and no lines that declare keywords, and no line before the
first heading but an empty one; otherwise these lines follow each other in this order, with an empty line where there are none
before the first heading, and a newline ends the last one. The document is exported as its preamble and behind it the text of
each heading in order, unless a heading cannot be exported, and the first of these texts starts a line. -/
theorem lines_export_preamble (c : Collaborators) (o : Option Options) (d : Document) (typed : d.WellTyped)
    (oneLine : ∀ l ∈ d.configLines ++ d.keywordLines ++ d.firstLines, '\n' ∉ l.shown) :
    let config := d.configLines.map Json.shown
    let keywords := if d.keywordSets.head?.all (·.builtIn.isSet) then [] else d.keywordSets.map (·.line.shown)
    let first := d.firstLines.map Json.shown
    let written := config ++ keywords ++ if first = [] then [[]] else first
    let options := o.map OptionSet.own
    ∃ preamble : Text, (d.withoutHeadings.export c options).outcome = .ok preamble ∧
      (preamble = [] ↔ config = [] ∧ keywords = [] ∧ (first = [] ∨ first = [[]])) ∧
      (preamble ≠ [] → preamble.lines = written ++ [[]]) ∧
      (d.export c options).outcome =
        (d.headings.mapM fun h => ((Record.heading h).exportHeading c options true .null).outcome).map
          (preamble ++ ·.flatten) ∧
      ∀ texts : List Text,
        (preamble ++ texts.flatten).lines = (if preamble = [] then [] else written) ++ Text.lines texts.flatten := by
  intro config keywords first written options
  have hdeclared : (d.configLines ++ d.keywordLines).map Json.shown = config ++ keywords := by
    rw [List.map_append, map_shown_keywordLines]
  obtain ⟨hnewline, hnewline'⟩ := List.forall_mem_append.1 oneLine
  have hnewline : ∀ l ∈ config ++ keywords, '\n' ∉ l := hdeclared ▸ List.forall_mem_map.2 hnewline
  have hnewline' : ∀ l ∈ first, '\n' ∉ l := List.forall_mem_map.2 hnewline'
  let preamble : Text := (preambleLines (config ++ keywords) first).flatMap (· ++ ['\n'])
  have hpreamble : d.preamble = .ok preamble := by rw [preamble_of_wellTyped typed, hdeclared]
  have hempty : preamble = [] ↔ config ++ keywords = [] ∧ (first = [] ∨ first = [[]]) :=
    Text.flatMap_newline_eq_nil_iff.trans preambleLines_eq_nil_iff
  have hbehind : ∀ rest : Text, (preamble ++ rest).lines = (if preamble = [] then [] else written) ++ rest.lines := by
    intro rest
    have hwritten : preambleLines (config ++ keywords) first = if preamble = [] then [] else written :=
      if_congr hempty.symm rfl rfl
    rw [Text.lines_flatMap_newline_append (newline_not_mem_of_mem_preambleLines hnewline hnewline'), hwritten]
  have hwithout : (d.withoutHeadings.export c options).outcome = .ok preamble :=
    (outcome_export_of_preamble c o d.withoutHeadings hpreamble).trans (congrArg Except.ok (List.append_nil preamble))
  refine ⟨preamble, hwithout, ?_, ?_, outcome_export_of_preamble c o d hpreamble, fun texts => hbehind texts.flatten⟩
  · rw [hempty, List.append_eq_nil_iff, and_assoc]
  · intro hne
    have hlines := hbehind []
    rwa [List.append_nil, if_neg hne] at hlines

/-- A document of which all lines before the heading but one are empty, and that has none between the keywords and the heading. -/
def declaringDocument : Document where
  headings := [{
    level := .int 1, title := { text := .str "A" }, planning := [], properties := [], logbook := [], body := .str "",
    description := [] }]
  keywordSets := [⟨[.str "TODO", .str "DONE"], .str "#+TODO: TODO | DONE", .bool false⟩, ⟨[], .str "", .bool true⟩]
  configLines := [.str ""]
  firstLines := []

/-- No empty line is lost, and one more stands in front of the heading. -/
theorem lines_export_preamble_declared :
    let preamble : Text := "\n#+TODO: TODO | DONE\n\n\n".toList
    declaringDocument.WellTyped ∧
      (∀ l ∈ declaringDocument.configLines ++ declaringDocument.keywordLines ++ declaringDocument.firstLines,
        '\n' ∉ l.shown) ∧
      (declaringDocument.withoutHeadings.export {} none).outcome = .ok preamble ∧
      preamble.lines = [[], "#+TODO: TODO | DONE".toList, [], [], []] ∧
      (declaringDocument.export {} none).outcome = .ok (preamble ++ "* A\n".toList) := by
  intro preamble
  have typed : declaringDocument.WellTyped := by decide
  have oneLine : ∀ l ∈ declaringDocument.configLines ++ declaringDocument.keywordLines ++ declaringDocument.firstLines,
      '\n' ∉ l.shown := by
    intro l hl
    have hmem : l ∈ [.str "", .str "#+TODO: TODO | DONE", .str ""] := hl
    simp only [List.mem_cons, List.not_mem_nil, or_false] at hmem
    rcases hmem with rfl | rfl | rfl <;> decide
  obtain ⟨text, hwithout, -, hlines, hexport, -⟩ := lines_export_preamble {} none declaringDocument typed oneLine
  obtain rfl : preamble = text := Except.ok.inj hwithout
  exact ⟨typed, oneLine, hwithout, hlines (by decide), hexport⟩

end Document
end OrgOutline
