import OrgOutline.Proofs.Outline
import OrgOutline.Proofs.SideBySide

/-!
# Empty tags

Tags that are empty strings are left out when the line of a heading is written, so putting some between the tags of a heading
changes nothing as long as there is a tag (`InsertsEmpty.visibleTags_eq`). Whether there are tags at all is asked before the
empty ones are left out: a heading without tags gets the two colons around no tag as soon as it is given an empty one. Main
statement: putting empty tags between the tags of a heading puts these marks behind its line and changes nothing else, neither
with nor without its stars nor in the export of a document with the heading (`Heading.exportWith_withTags`).
-/

namespace OrgOutline

open Run (Related)

/-- The second list is the first one with empty strings put anywhere between its elements. -/
inductive InsertsEmpty : List Json → List Json → Prop where
  | nil : InsertsEmpty [] []
  | keep (tag : Json) {tags tags' : List Json} : InsertsEmpty tags tags' → InsertsEmpty (tag :: tags) (tag :: tags')
  | insert {tags tags' : List Json} : InsertsEmpty tags tags' → InsertsEmpty tags (.str "" :: tags')

namespace InsertsEmpty

variable {tags tags' : List Json}

theorem filter_isSet (h : InsertsEmpty tags tags') : tags'.filter Json.isSet = tags.filter Json.isSet := by
  induction h with
  | nil => rfl
  | keep tag _ ih => rw [List.filter_cons, List.filter_cons, ih]
  | insert _ ih => exact ih

/-- No tag goes away. -/
theorem eq_nil (h : InsertsEmpty tags tags') (hnil : tags' = []) : tags = [] := by
  subst hnil
  cases h
  rfl

end InsertsEmpty

namespace Title

/-- A title with other tags. -/
def withTags (t : Title) (tags : List Json) : Title := { t with tags }

/-- What giving a title other tags of which the new ones are empty puts behind its line: the colons around no tag, unless there
were tags before or there are none now. -/
def marksGained (t : Title) (tags : List Json) : Text := if t.tags = [] ∧ tags ≠ [] then [':', ':'] else []

theorem marksGained_eq_nil_iff {t : Title} {tags : List Json} : t.marksGained tags = [] ↔ (t.tags = [] → tags = []) := by
  unfold marksGained
  split
  · rename_i h
    exact iff_of_false (List.cons_ne_nil _ _) fun himp => h.2 (himp h.1)
  · rename_i h
    exact iff_of_true rfl fun hnil => not_not.1 fun hne => h ⟨hnil, hne⟩

variable {t : Title} {tags : List Json}

theorem visibleTags_withTags (h : InsertsEmpty t.tags tags) : (t.withTags tags).visibleTags = t.visibleTags :=
  h.filter_isSet

/-- The tags are looked for before the empty ones are left out. -/
theorem tagText_withTags (h : InsertsEmpty t.tags tags) :
    (t.withTags tags).tagText = t.tagText.map (· ++ t.marksGained tags) := by
  have hvisible := visibleTags_withTags h
  rw [tagText, tagText, hvisible]
  by_cases hnew : tags = []
  · have hold : t.tags = [] := h.eq_nil hnew
    simp [withTags, marksGained, hnew, hold, Except.map]
  · by_cases hold : t.tags = []
    · have hnone : t.visibleTags = [] := by rw [visibleTags, hold, List.filter_nil]
      simp [withTags, marksGained, hnew, hold, hnone, Json.join, Except.map]
    · have hmarks : t.marksGained tags = [] := marksGained_eq_nil_iff.2 fun hnil => absurd hnil hold
      simp only [withTags, List.isEmpty_iff, hnew, hold, if_false, hmarks, List.append_nil]
      cases Json.join [':'] t.visibleTags <;> rfl

theorem spacedText_withTags (h : InsertsEmpty t.tags tags) :
    (t.withTags tags).spacedText = t.spacedText.map (· ++ t.marksGained tags) := by
  have hshown : Json.checkShown [(t.withTags tags).keyword, (t.withTags tags).text] = Json.checkShown [t.keyword, t.text] := rfl
  rw [spacedText, spacedText, tagText_withTags h, hshown]
  cases Json.checkShown [t.keyword, t.text] with
  | error e => rfl
  | ok _ =>
    cases t.tagText with
    | error e => rfl
    | ok text => exact congrArg Except.ok (List.append_assoc _ text _).symm

end Title

namespace Heading

/-- A heading with other tags. -/
def withTags (h : Heading) (tags : List Json) : Heading := { h with title := h.title.withTags tags }

/-- The same text with marks behind the line of a heading. -/
def GainsMarks (h : Heading) (marks t t' : Text) : Prop :=
  ∃ line before behind, h.line = .ok line ∧ t = before ++ line ++ '\n' :: behind ∧
    t' = before ++ (line ++ marks) ++ '\n' :: behind

variable {h : Heading} {marks t t' : Text}

theorem GainsMarks.prepend (u : Text) (hg : h.GainsMarks marks t t') : h.GainsMarks marks (u ++ t) (u ++ t') := by
  obtain ⟨line, before, behind, hline, rfl, rfl⟩ := hg
  exact ⟨line, u ++ before, behind, hline, by simp only [List.append_assoc], by simp only [List.append_assoc]⟩

theorem GainsMarks.postpend (u : Text) (hg : h.GainsMarks marks t t') : h.GainsMarks marks (t ++ u) (t' ++ u) := by
  obtain ⟨line, before, behind, hline, rfl, rfl⟩ := hg
  exact ⟨line, before, behind ++ u, hline, List.append_assoc _ _ _, List.append_assoc _ _ _⟩

/-- The text stays the same only if there are no marks to gain. -/
theorem GainsMarks.eq_iff (hg : h.GainsMarks marks t t') : t = t' ↔ marks = [] := by
  obtain ⟨line, before, behind, -, rfl, rfl⟩ := hg
  rw [List.append_left_inj, List.append_right_inj, List.self_eq_append_right]

variable {tags : List Json}

theorem line_withTags (hins : InsertsEmpty h.title.tags tags) :
    (h.withTags tags).line = h.line.map (· ++ h.title.marksGained tags) := by
  have hstars : (h.withTags tags).stars = h.stars := rfl
  have htext : (h.withTags tags).title.spacedText = _ := Title.spacedText_withTags hins
  rw [line, line, hstars, htext]
  cases h.stars with
  | error e => rfl
  | ok stars =>
    cases h.title.spacedText with
    | error e => rfl
    | ok text => exact congrArg Except.ok (List.append_assoc stars text _).symm

/-- The space that goes with the stars stands in front of the title, so the marks stay where they are. -/
theorem bareLine_withTags (hins : InsertsEmpty h.title.tags tags) :
    (h.withTags tags).bareLine = h.bareLine.map (· ++ h.title.marksGained tags) := by
  have htext : (h.withTags tags).title.spacedText = _ := Title.spacedText_withTags hins
  rw [bareLine, bareLine, htext]
  cases hspaced : h.title.spacedText with
  | error e => rfl
  | ok text =>
    rw [Title.spacedText_eq hspaced]
    rfl

/-! ## Exports -/

variable {s : Setup}

theorem related_openingText (hins : InsertsEmpty h.title.tags tags) :
    Related (h.GainsMarks (h.title.marksGained tags)) (.ofExcept (h.openingText true))
      (.ofExcept ((h.withTags tags).openingText true)) := by
  refine Related.ofExcept ?_
  rw [openingText, openingText, line_withTags hins]
  cases hline : h.line with
  | error e => exact rfl
  | ok line => exact ⟨line, [], [], hline, rfl, rfl⟩

theorem related_write_withTags (hins : InsertsEmpty h.title.tags tags) (flush : Json) :
    Related (h.GainsMarks (h.title.marksGained tags)) (h.write s true flush) ((h.withTags tags).write s true flush) := by
  have hindentation : (h.withTags tags).indentation = h.indentation := rfl
  rw [write, write, hindentation]
  refine Related.bind_self _ fun indentation _ => ?_
  refine (related_openingText hins).bind fun opening opening' hopening => ?_
  refine Related.bind_self (writePlanning s indentation h.planning) fun planning _ => ?_
  refine Related.bind_self (writeProperties s h.properties) fun properties _ => ?_
  refine Related.bind_self (writeLogbook s _ h.logbook) fun logbook _ => ?_
  refine Related.bind_self (.ofExcept (bodyText h.body)) fun body _ => ?_
  exact Related.pure ((((hopening.postpend planning).postpend _).postpend _).postpend body)

theorem related_writeHeadings_withTags (hins : InsertsEmpty h.title.tags tags) (before behind : List Heading) :
    Related (h.GainsMarks (h.title.marksGained tags)) (writeHeadings s (before ++ h :: behind))
      (writeHeadings s (before ++ h.withTags tags :: behind)) := by
  induction before with
  | nil =>
    rw [List.nil_append, List.nil_append, writeHeadings, writeHeadings]
    refine (related_write_withTags hins .null).bind fun t t' ht => ?_
    exact Related.bind_self (writeHeadings s behind) fun rest _ => Related.pure (ht.postpend rest)
  | cons first before ih =>
    rw [List.cons_append, List.cons_append, writeHeadings, writeHeadings]
    refine Related.bind_self (first.write s true .null) fun text _ => ?_
    exact ih.bind fun t t' ht => Related.pure (ht.prepend text)

theorem related_writeDocument_withTags (hins : InsertsEmpty h.title.tags tags) (d : Document) (before behind : List Heading) :
    Related (h.GainsMarks (h.title.marksGained tags)) (Document.write s { d with headings := before ++ h :: behind })
      (Document.write s { d with headings := before ++ h.withTags tags :: behind }) := by
  have hlength : (before ++ h.withTags tags :: behind).length = (before ++ h :: behind).length := by
    simp only [List.length_append, List.length_cons]
  simp only [Document.write, hlength]
  refine Related.bind_self _ fun _ _ => ?_
  refine Related.bind_self (.ofExcept (Document.preamble d)) fun preamble _ => ?_
  exact (related_writeHeadings_withTags hins before behind).bind fun t t' ht => Related.pure (ht.prepend preamble)

/-- Empty strings put between the tags of a heading leave its line as it is, with and without its stars, and the export of a
document with the heading, apart from two colons behind the line; and these come where there were no tags before, so that it is
exactly then that the text is another one. -/
theorem exportWith_withTags (h : Heading) (tags : List Json) (hins : InsertsEmpty h.title.tags tags) :
    (∀ withStars, (Record.heading (h.withTags tags)).headingLine withStars =
      ((Record.heading h).headingLine withStars).map (· ++ h.title.marksGained tags)) ∧
    ∀ (g : GivenCollaborators) (options : Option OptionSet) (overrides : Members) (d : Document) (before behind : List Heading),
      Related (fun t t' => h.GainsMarks (h.title.marksGained tags) t t' ∧ (t = t' ↔ (h.title.tags = [] → tags = [])))
        (Document.exportWith g options overrides { d with headings := before ++ h :: behind })
        (Document.exportWith g options overrides { d with headings := before ++ h.withTags tags :: behind }) := by
  refine ⟨?_, ?_⟩
  · rintro (_ | _)
    · exact bareLine_withTags hins
    · exact line_withTags hins
  · intro g options overrides d before behind
    refine Related.bind_self (.ofExcept (g.override overrides)) fun given _ => ?_
    refine Related.bind_self (OptionSet.override options (optionOverrides overrides)) fun optionSet _ => ?_
    refine Related.bind_self (given.complete.setup .document optionSet) fun s _ => ?_
    refine (related_writeDocument_withTags hins d before behind).mono fun t t' ht => ⟨ht, ?_⟩
    exact ht.eq_iff.trans Title.marksGained_eq_nil_iff

/-- A heading without tags. -/
def untagged : Heading where
  level := .int 1
  title := { text := .str "T" }
  planning := []
  properties := []
  logbook := []
  body := .str ""
  description := []

/-- A document of one heading. -/
def alone (h : Heading) : Document where
  headings := [h]
  keywordSets := []
  configLines := []
  firstLines := []

/-- An empty tag shows in a heading that has no other one, but not in one that has. -/
theorem exportWith_withTags_untagged : InsertsEmpty untagged.title.tags [.str ""] ∧
    (Record.heading untagged).headingLine true = .ok "* T".toList ∧
    (Record.heading (untagged.withTags [.str ""])).headingLine true = .ok "* T::".toList ∧
    ((alone untagged).exportWith {} none []).outcome ≠ ((alone (untagged.withTags [.str ""])).exportWith {} none []).outcome ∧
    InsertsEmpty (untagged.withTags [.str "a"]).title.tags [.str "", .str "a", .str ""] ∧
    ((alone (untagged.withTags [.str "a"])).exportWith {} none []).outcome =
      ((alone (untagged.withTags [.str "", .str "a", .str ""])).exportWith {} none []).outcome := by
  have hnone : InsertsEmpty untagged.title.tags [.str ""] := .insert .nil
  have hone : InsertsEmpty (untagged.withTags [.str "a"]).title.tags [.str "", .str "a", .str ""] :=
    .insert (.keep _ (.insert .nil))
  obtain ⟨hline, hexport⟩ := exportWith_withTags untagged [.str ""] hnone
  obtain ⟨-, hexport'⟩ := exportWith_withTags (untagged.withTags [.str "a"]) [.str "", .str "a", .str ""] hone
  refine ⟨hnone, rfl, hline true, ?_, hone, ?_⟩
  · have hrelated := (hexport {} none [] (alone untagged) [] []).outcome
    have hold : ((alone untagged).exportWith {} none []).outcome = .ok "* T\n".toList := rfl
    have hnew : ((alone (untagged.withTags [.str ""])).exportWith {} none []).outcome = .ok "* T::\n".toList := rfl
    intro hsame
    have htext := Except.ok.inj (hold.symm.trans (hsame.trans hnew))
    exact absurd (hrelated.2.1 htext rfl) (List.cons_ne_nil _ _)
  · have hrelated := (hexport' {} none [] (alone untagged) [] []).outcome
    exact congrArg Except.ok (hrelated.2.2 fun hnil => absurd hnil (List.cons_ne_nil _ _))

end Heading
end OrgOutline
