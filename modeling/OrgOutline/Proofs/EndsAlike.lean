import OrgOutline.Proofs.Rearranged
import OrgOutline.Proofs.SideBySide
import OrgOutline.Record.Same

/-!
# Runs that end alike

Two runs end alike (`Run.EndsAlike`) when both fail for the same cause, which may be told with values that differ, or both succeed
with results that are related. Runs that are put together of such runs are such runs (`Run.EndsAlike.bind`). Main statements:
records without running text are loaded alike, as the same, from rearranged values (`endsAlike_loadTimestamp`,
`endsAlike_loadTitle` and so on).
-/

namespace OrgOutline

variable {α β γ δ : Type}

/-- The cause of a fault without the value at fault. -/
def Fault.cause : Fault → Fault
  | .invalid (.bareLinkKind _) => .invalid (.bareLinkKind .null)
  | .invalid (.checkboxState _) => .invalid (.checkboxState .null)
  | .unknownLogEntry _ => .unknownLogEntry .null
  | f => f

namespace Run

/-- Two runs that fail for the same cause or end with related results. -/
def EndsAlike (R : α → β → Prop) (x : Run α) (y : Run β) : Prop :=
  RelatedOutcomes R (x.outcome.mapError Fault.cause) (y.outcome.mapError Fault.cause)

namespace EndsAlike

variable {R : α → β → Prop} {Q : γ → δ → Prop} {x : Run α} {y : Run β}

theorem pure {a : α} {b : β} (h : R a b) : EndsAlike R (pure a) (pure b) := h

theorem fail {f g : Fault} (h : f.cause = g.cause) : EndsAlike R (fail f) (fail g) := h

/-- Faults of the same cause whose messages can be put together on both sides, or on neither. -/
theorem refuse {f g : Fault} (h : f.cause = g.cause)
    (hshown : f.shownValues.any Json.hasLong = g.shownValues.any Json.hasLong) : EndsAlike R (refuse f) (refuse g) := by
  rw [Run.refuse, Run.refuse, Fault.told, Fault.told, hshown]
  split
  · exact fail rfl
  · exact fail h

theorem mono {R' : α → β → Prop} (h : EndsAlike R x y) (hR : ∀ a b, R a b → R' a b) : EndsAlike R' x y :=
  RelatedOutcomes.mono h hR

/-- What follows two runs that end alike ends alike if it does so for related results. -/
theorem bind {f : α → Run γ} {g : β → Run δ} (h : EndsAlike R x y) (hf : ∀ a b, R a b → EndsAlike Q (f a) (g b)) :
    EndsAlike Q (x >>= f) (y >>= g) := by
  obtain ⟨ns, o⟩ := x
  obtain ⟨ms, o'⟩ := y
  cases o with
  | ok a =>
    cases o' with
    | ok b => exact hf a b h
    | error e => exact h.elim
  | error e =>
    cases o' with
    | ok b => exact h.elim
    | error e' => exact h

theorem map {f : α → γ} {g : β → δ} (h : EndsAlike R x y) (hf : ∀ a b, R a b → Q (f a) (g b)) :
    EndsAlike Q (f <$> x) (g <$> y) := by
  rw [map_eq_pure_bind, map_eq_pure_bind]
  exact h.bind fun a b hab => pure (hf a b hab)

/-- A run ends as it does, if its result is related to itself. -/
theorem self {S : α → α → Prop} {x : Run α} (h : ∀ a, x.outcome = .ok a → S a a) : EndsAlike S x x := by
  unfold EndsAlike
  cases hx : x.outcome with
  | ok a => exact h a hx
  | error e => exact rfl

end EndsAlike
end Run

open Run (EndsAlike)

/-! ## Members -/

namespace Role.Rearranged

variable {role r : Role} {v w : Json} {ms ns : Members} {key : String}

theorem ofScalar (hv : v.isScalar = true) (hlist : role.isKeptList = false) : role.Rearranged v v := by
  cases v with
  | arr items => nomatch hv
  | obj members => nomatch hv
  | _ => exact ⟨trivial, trivial, by simp [Role.rearranged, hlist, Json.sameScalar]⟩

theorem nil : role.Rearranged (.arr []) (.arr []) := ⟨trivial, trivial, rfl⟩

/-- A field that may be missing is rearranged if its default is. -/
theorem field {d : Json} (h : role.Rearranged (.obj ms) (.obj ns)) (hr : role.member ms key = some r) (hd : r.Rearranged d d) :
    r.Rearranged (field ms key d) (field ns key d) := by
  unfold OrgOutline.field
  rcases h.member hr with ⟨hms, hns⟩ | ⟨v, w, hms, hns, hvw⟩
  · rw [hms, hns]
    exact hd
  · rw [hms, hns]
    exact hvw

/-- A field that is kept is the same. -/
theorem same_field {d : Json} (h : role.Rearranged (.obj ms) (.obj ns)) (hr : role.member ms key = some .kept)
    (hd : d.isScalar = true) : (OrgOutline.field ms key d).same (OrgOutline.field ns key d) = true :=
  (h.field hr (ofScalar hd rfl)).same

theorem required (h : role.Rearranged (.obj ms) (.obj ns)) (hr : role.member ms key = some r) :
    EndsAlike r.Rearranged (required ms key) (required ns key) := by
  unfold OrgOutline.required
  rcases h.member hr with ⟨hms, hns⟩ | ⟨v, w, hms, hns, hvw⟩
  · rw [hms, hns]
    exact EndsAlike.fail rfl
  · rw [hms, hns]
    exact EndsAlike.pure hvw

end Role.Rearranged

/-! ## Values of one form -/

section Forms

variable {role : Role} {v w : Json}

theorem Role.Rearranged.isScalar_eq (h : role.Rearranged v w) : v.isScalar = w.isScalar := by
  obtain ⟨xs, ys, rfl, rfl, -⟩ | ⟨ms, ns, rfl, rfl, -⟩ | ⟨rfl, -⟩ := h.forms <;> rfl

theorem Role.Rearranged.isNull_eq (h : role.Rearranged v w) : v.isNull = w.isNull := by
  obtain ⟨xs, ys, rfl, rfl, -⟩ | ⟨ms, ns, rfl, rfl, -⟩ | ⟨rfl, -⟩ := h.forms <;> rfl

/-- An object of which nothing is missing is empty when it is rearranged if it was empty before. -/
theorem Role.Rearranged.isEmpty_eq {ms ns : Members} (h : role.Rearranged (.obj ms) (.obj ns)) (hf : role.fields? ms = none) :
    ms.isEmpty = ns.isEmpty := by
  have hkeys := (h.toKept hf).mem_keys_iff
  cases ms with
  | nil =>
    cases ns with
    | nil => rfl
    | cons n ns => exact absurd ((hkeys n.1).2 List.mem_cons_self) List.not_mem_nil
  | cons m ms =>
    cases ns with
    | nil => exact absurd ((hkeys m.1).1 List.mem_cons_self) List.not_mem_nil
    | cons n ns => rfl

theorem Role.Rearranged.isSet_eq (h : kept.Rearranged v w) : v.isSet = w.isSet := by
  obtain ⟨xs, ys, rfl, rfl, hitems⟩ | ⟨ms, ns, rfl, rfl, -⟩ | ⟨rfl, -⟩ := h.forms
  · cases hitems <;> rfl
  · rw [Json.isSet, Json.isSet, h.isEmpty_eq rfl]
  · rfl

/-- What goes through the members of a value that must be an object. -/
theorem Role.Rearranged.membersOf (f : Fault) (h : role.Rearranged v w) :
    EndsAlike (fun ms ns => role.Rearranged (.obj ms) (.obj ns)) (membersOf f v) (membersOf f w) := by
  obtain ⟨xs, ys, rfl, rfl, -⟩ | ⟨ms, ns, rfl, rfl, -⟩ | ⟨rfl, hs, -⟩ := h.forms
  · exact EndsAlike.fail rfl
  · exact EndsAlike.pure h
  · cases w with
    | obj members => nomatch hs
    | _ => exact EndsAlike.fail rfl

/-- What going through two lists meets: elements that are rearranged in order, or keys or characters on both sides. -/
def Role.Met (role : Role) (xs ys : List Json) : Prop :=
  List.Forall₂ role.Rearranged xs ys ∨ (∃ s xs', xs = .str s :: xs') ∧ ∃ t ys', ys = .str t :: ys'

theorem Role.Rearranged.elements (h : (Role.listOf role).Rearranged v w) : EndsAlike role.Met (elements v) (elements w) := by
  obtain ⟨xs, ys, rfl, rfl, hitems⟩ | ⟨ms, ns, rfl, rfl, -⟩ | ⟨rfl, hs, -⟩ := h.forms
  · exact EndsAlike.pure (Or.inl hitems)
  · refine EndsAlike.pure ?_
    have hempty := h.isEmpty_eq rfl
    cases ms with
    | nil =>
      obtain rfl : ns = [] := List.isEmpty_iff.1 hempty.symm
      exact Or.inl .nil
    | cons m ms =>
      cases ns with
      | nil => nomatch hempty
      | cons n ns => exact Or.inr ⟨⟨_, _, rfl⟩, ⟨_, _, rfl⟩⟩
  · cases w with
    | str s =>
      refine EndsAlike.pure ?_
      cases s.toList with
      | nil => exact Or.inl .nil
      | cons c cs => exact Or.inr ⟨⟨_, _, rfl⟩, ⟨_, _, rfl⟩⟩
    | arr items => nomatch hs
    | obj members => nomatch hs
    | _ => exact EndsAlike.fail rfl

/-- What is loaded from the elements met ends alike if it does so for rearranged elements, and a string is refused. -/
theorem Role.Met.eachOf {R : α → α → Prop} {f : Json → Run α} {xs ys : List Json} {e : Fault} (h : role.Met xs ys)
    (hf : ∀ x y, role.Rearranged x y → EndsAlike R (f x) (f y)) (hstr : ∀ s, f (.str s) = .fail e) :
    EndsAlike (List.Forall₂ R) (eachOf f xs) (eachOf f ys) := by
  rcases h with h | ⟨⟨s, xs', rfl⟩, ⟨t, ys', rfl⟩⟩
  · induction h with
    | nil => exact EndsAlike.pure .nil
    | cons hxy _ ih => exact (hf _ _ hxy).bind fun a b hab => ih.bind fun as bs habs => EndsAlike.pure (.cons hab habs)
  · rw [OrgOutline.eachOf, OrgOutline.eachOf, hstr, hstr]
    exact EndsAlike.fail rfl

/-- The elements of a list that is kept are the same. -/
theorem Role.Rearranged.keptElements (h : Role.keptList.Rearranged v w) :
    EndsAlike (fun xs ys => Json.sameItems xs ys = true) (OrgOutline.elements v) (OrgOutline.elements w) := by
  obtain ⟨xs, ys, rfl, rfl, hitems⟩ | ⟨ms, ns, -, -, hlist⟩ | ⟨-, -, hlist⟩ := h.forms
  · exact EndsAlike.pure (Json.sameItems_of_forall₂ (hitems.imp fun _ _ hxy => hxy.same))
  · nomatch hlist
  · nomatch hlist

end Forms

/-! ## Timestamps -/

section Timestamps

variable {v w : Json} {ms ns : Members}

/-- The fields of rearranged timestamps are the same. -/
theorem endsAlike_ofMembers (h : Role.timestamp.Rearranged (.obj ms) (.obj ns)) :
    EndsAlike (fun t u => Timestamp.same t u = true) (.ofExcept (Timestamp.ofMembers ms)) (.ofExcept (Timestamp.ofMembers ns)) := by
  have hdate : ∀ name, name ∈ ["year", "month", "day"] → Role.kept.RearrangedIfAny (ms.lookup name) (ns.lookup name) := by
    intro name hname
    refine h.member ?_
    simp only [List.mem_cons, List.not_mem_nil, or_false] at hname
    rcases hname with rfl | rfl | rfl <;> rfl
  unfold Timestamp.ofMembers
  rcases hdate "year" (by simp) with ⟨hms, hns⟩ | ⟨year, year', hms, hns, hyear⟩
  · rw [hms, hns]
    exact EndsAlike.fail rfl
  rw [hms, hns]
  rcases hdate "month" (by simp) with ⟨hms, hns⟩ | ⟨month, month', hms, hns, hmonth⟩
  · rw [hms, hns]
    exact EndsAlike.fail rfl
  rw [hms, hns]
  rcases hdate "day" (by simp) with ⟨hms, hns⟩ | ⟨day, day', hms, hns, hday⟩
  · rw [hms, hns]
    exact EndsAlike.fail rfl
  rw [hms, hns]
  refine EndsAlike.pure (Json.sameMembers_of_forall ?_)
  simp only [Timestamp.fields, List.forall_mem_cons]
  refine ⟨⟨_, rfl, hyear.same⟩, ⟨_, rfl, hmonth.same⟩, ⟨_, rfl, hday.same⟩, ⟨_, rfl, h.same_field rfl rfl⟩,
    ⟨_, rfl, h.same_field rfl rfl⟩, ⟨_, rfl, h.same_field rfl rfl⟩, ⟨_, rfl, h.same_field rfl rfl⟩,
    ⟨_, rfl, h.same_field rfl rfl⟩, ⟨_, rfl, h.same_field rfl rfl⟩, ⟨_, rfl, h.same_field rfl rfl⟩,
    ⟨_, rfl, h.same_field rfl rfl⟩, ⟨_, rfl, h.same_field rfl rfl⟩, ⟨_, rfl, h.same_field rfl rfl⟩,
    ⟨_, rfl, h.same_field rfl rfl⟩, ⟨_, rfl, h.same_field rfl rfl⟩, List.forall_mem_nil _⟩

/-- Fields that timestamps do not have are no failure in lenient loading, if their names can be shown. -/
theorem outcome_reportUnknownFields {unknown : List Json} (h : unknown.any Json.hasLong = false) :
    (reportUnknownFields false unknown).outcome = .ok () := by
  unfold reportUnknownFields
  split
  · rfl
  · rw [if_neg Bool.false_ne_true, Run.tell_of_shown (n := .fieldsIgnored unknown) h]
    rfl

/-- The keys of an object can be shown. -/
theorem any_hasLong_unknownTimestampFields (members : Members) :
    (unknownTimestampFields (members.map fun m => .str m.1)).any Json.hasLong = false := by
  refine List.any_eq_false.2 fun name hname => ?_
  obtain ⟨m, -, rfl⟩ := List.mem_map.1 (List.mem_filter.1 hname).1
  exact Bool.false_ne_true

/-- Timestamps are loaded from objects alone. -/
theorem isScalar_of_loadTimestamp {t : Timestamp} (h : (loadTimestamp false v).outcome = .ok t) : v.isScalar = false := by
  obtain ⟨names, -, h⟩ := Run.outcome_bind_eq_ok.1 h
  split at h
  · obtain ⟨-, -, h⟩ := Run.outcome_bind_eq_ok.1 h
    obtain ⟨members, hmembers, -⟩ := Run.outcome_bind_eq_ok.1 h
    cases v with
    | obj members => rfl
    | _ => nomatch hmembers
  · nomatch h

/-- The keys of an object can be looked through. -/
theorem loadTimestamp_obj (members : Members) : loadTimestamp false (.obj members) =
    reportUnknownFields false (unknownTimestampFields (members.map fun m => .str m.1)) >>= fun _ =>
      .ofExcept (Timestamp.ofMembers members) := by
  have hall : (members.map fun m => Json.str m.1).all Json.isScalar = true := by simp [Json.isScalar]
  rw [loadTimestamp]
  refine (pure_bind _ _).trans ?_
  rw [if_pos hall]
  exact bind_congr fun _ => pure_bind members _

theorem endsAlike_loadTimestamp (h : Role.timestamp.Rearranged v w) :
    EndsAlike (fun t u => Timestamp.same t u = true) (loadTimestamp false v) (loadTimestamp false w) := by
  obtain ⟨xs, ys, rfl, rfl, hitems⟩ | ⟨ms, ns, rfl, rfl, -⟩ | ⟨rfl, hs, -⟩ := h.forms
  · have hall : xs.all Json.isScalar = ys.all Json.isScalar ∧ (xs.all Json.isScalar = true → xs = ys) := by
      clear h
      induction hitems with
      | nil => exact ⟨rfl, fun _ => rfl⟩
      | cons hxy _ ih =>
        rw [List.all_cons, List.all_cons, hxy.isScalar_eq, ih.1, ← hxy.isScalar_eq]
        refine ⟨rfl, fun hscalar => ?_⟩
        obtain ⟨hx, hxs⟩ := Bool.and_eq_true_iff.1 hscalar
        rw [hxy.eq_of_isScalar hx, ih.2 (ih.1.trans hxs)]
    rw [loadTimestamp, loadTimestamp]
    refine (EndsAlike.pure (R := fun a b => a = xs ∧ b = ys) ⟨rfl, rfl⟩).bind ?_
    rintro _ _ ⟨rfl, rfl⟩
    rw [← hall.1]
    split
    · rename_i hscalar
      obtain rfl := hall.2 hscalar
      exact (EndsAlike.self (S := fun _ _ => True) fun _ _ => trivial).bind fun _ _ _ => EndsAlike.fail rfl
    · exact EndsAlike.fail rfl
  · have hnames : EndsAlike (fun _ _ => True) (reportUnknownFields false (unknownTimestampFields (ms.map fun m => .str m.1)))
        (reportUnknownFields false (unknownTimestampFields (ns.map fun m => .str m.1))) := by
      unfold EndsAlike
      rw [outcome_reportUnknownFields (any_hasLong_unknownTimestampFields ms),
        outcome_reportUnknownFields (any_hasLong_unknownTimestampFields ns)]
      trivial
    rw [loadTimestamp_obj, loadTimestamp_obj]
    exact hnames.bind fun _ _ _ => endsAlike_ofMembers h
  · exact EndsAlike.self fun t ht => absurd (isScalar_of_loadTimestamp ht) (by rw [hs]; exact Bool.noConfusion)

theorem endsAlike_loadOptionalTimestamp (h : Role.timestamp.Rearranged v w) :
    EndsAlike (fun t u => sameOptionalTimestamp t u = true) (loadOptionalTimestamp false v) (loadOptionalTimestamp false w) := by
  rw [loadOptionalTimestamp, loadOptionalTimestamp, ← h.isNull_eq]
  split
  · exact EndsAlike.pure rfl
  · exact (endsAlike_loadTimestamp h).bind fun t u htu => EndsAlike.pure htu

end Timestamps

/-! ## Records without running text -/

section Plain

variable {role : Role} {v w : Json} {ms ns : Members}

theorem endsAlike_elementsAt_kept {key : String} (h : role.Rearranged (.obj ms) (.obj ns))
    (hr : role.member ms key = some .keptList) :
    EndsAlike (fun xs ys => Json.sameItems xs ys = true) (elementsAt ms key) (elementsAt ns key) :=
  (h.field hr .nil).keptElements

theorem endsAlike_elementsAt {key : String} {r : Role} (h : role.Rearranged (.obj ms) (.obj ns))
    (hr : role.member ms key = some (.listOf r)) : EndsAlike r.Met (elementsAt ms key) (elementsAt ns key) :=
  (h.field hr .nil).elements

theorem endsAlike_loadTitle (h : Role.title.Rearranged v w) :
    EndsAlike (fun t u => Title.same t u = true) (loadTitle v) (loadTitle w) := by
  refine (h.membersOf _).bind fun ms ns h => (h.required rfl).bind fun text text' htext => ?_
  refine (endsAlike_elementsAt_kept h rfl).bind fun tags tags' htags => EndsAlike.pure ?_
  rw [Title.same, htext.same, h.same_field rfl rfl, htags]
  rfl

theorem endsAlike_loadPlanningEntry (h : Role.planning.Rearranged v w) :
    EndsAlike (fun i j => PlanningEntry.same i j = true) (loadPlanningEntry false v) (loadPlanningEntry false w) := by
  refine (h.membersOf _).bind fun ms ns h => (h.required rfl).bind fun kind kind' hkind => ?_
  refine (h.required rfl).bind fun t t' ht => (endsAlike_loadTimestamp ht).bind fun t t' ht => ?_
  refine EndsAlike.pure ?_
  rw [PlanningEntry.same, hkind.same, ht]
  rfl

theorem endsAlike_loadClock (h : role.Rearranged (.obj ms) (.obj ns)) (hf : role.fields? ms = some (Role.withKind Role.clockFields)) :
    EndsAlike (fun e f => LogEntry.same e f = true) (loadClock false ms) (loadClock false ns) := by
  have hstart : role.member ms "start" = some .timestamp := Role.member_withKind hf (by decide)
  have hend : role.member ms "end" = some .timestamp := Role.member_withKind hf (by decide)
  refine (h.required hstart).bind fun start start' hs => (endsAlike_loadTimestamp hs).bind fun start start' hs => ?_
  refine (endsAlike_loadOptionalTimestamp (h.field hend (.ofScalar rfl rfl))).bind fun stop stop' hstop => EndsAlike.pure ?_
  rw [LogEntry.same, hs, hstop]
  rfl

theorem same_loadLogLine (h : role.Rearranged (.obj ms) (.obj ns)) (hf : role.fields? ms = some (Role.withKind Role.logLineFields)) :
    LogEntry.same (loadLogLine ms) (loadLogLine ns) = true :=
  h.same_field (Role.member_withKind hf (by decide)) rfl

/-- The kind that an entry of a logbook names is kept. -/
theorem member_nodeType_logEntry (members : Members) : Role.logEntry.member members "node_type" = some .kept := by
  have hfields : Role.logEntry.fields? members = none ∨ ∃ fields, Role.logEntry.fields? members = some (Role.withKind fields) := by
    simp only [Role.fields?]
    split
    · exact Or.inr ⟨_, rfl⟩
    · exact Or.inr ⟨_, rfl⟩
    · exact Or.inl rfl
  rcases hfields with hf | ⟨fields, hf⟩
  · rw [Role.member, hf]
  · rw [Role.member_of_fields hf]
    rfl

theorem lookup_of_field {members : Members} {key s : String} (h : field members key .null = .str s) :
    members.lookup key = some (.str s) := by
  unfold field at h
  cases hl : members.lookup key with
  | none => rw [hl] at h; nomatch h
  | some v => rw [hl] at h; exact congrArg some h

theorem endsAlike_loadLogEntry (h : Role.logEntry.Rearranged v w) :
    EndsAlike (fun e f => LogEntry.same e f = true) (loadLogEntry false v) (loadLogEntry false w) := by
  refine (h.membersOf _).bind fun ms ns h => ?_
  have hkind := h.field (member_nodeType_logEntry ms) (.ofScalar (show Json.null.isScalar = true from rfl) rfl)
  have hlong := hkind.any_hasLong_eq
  obtain ⟨xs, ys, hms, hns, -⟩ | ⟨kind, kind', hms, hns, -⟩ | ⟨hns, -⟩ := hkind.forms
  · rw [hms, hns] at hlong ⊢
    exact EndsAlike.refuse rfl hlong
  · rw [hms, hns] at hlong ⊢
    exact EndsAlike.refuse rfl hlong
  · -- The kind is the same value on both sides, and what it names gives the fields of the entry.
    rw [hns]
    split
    · rename_i hclock
      exact endsAlike_loadClock h (by simp only [Role.fields?, lookup_of_field hclock])
    · rename_i hline
      exact EndsAlike.pure (same_loadLogLine h (by simp only [Role.fields?, lookup_of_field hline]))
    · exact EndsAlike.refuse rfl rfl

theorem endsAlike_loadKeywordSet (h : Role.keywordSet.Rearranged v w) :
    EndsAlike (fun k l => KeywordSet.same k l = true) (loadKeywordSet v) (loadKeywordSet w) := by
  refine (h.membersOf _).bind fun ms ns h => ?_
  refine (endsAlike_elementsAt_kept h rfl).bind fun keywords keywords' hk => EndsAlike.pure ?_
  rw [KeywordSet.same, hk, h.same_field rfl rfl, h.same_field rfl rfl]
  rfl

end Plain

end OrgOutline
