import Mathlib.Data.List.Induction
import OrgOutline.Proofs.WritingVisits

/-!
# Running text written in two parts

Running text that is put together of two is written as the one and then the other. In the raw view a newline stands between them
if the first one ends in a list or a table (`View.between`). A part that is not recognized leaves no text, but it stands between
the parts around it. Main statement: well-typed running text is written in this way, with the notices of the one before those of
the other, and so parts that are not recognized can be deleted from it, except for the newline behind a list or a table that comes
to stand last (`Parts.write_append_and_filter`).
-/

namespace OrgOutline

variable {s : Setup} {view : View}

/-! ## Pieces that are texts -/

/-- What follows a run needs to be known only for the results that the run can give. -/
theorem Run.Ensures.bind_congr {α β : Type} {P : α → Prop} {x : Run α} (hx : Ensures P x) {f g : α → Run β}
    (h : ∀ a, P a → f a = g a) : x >>= f = x >>= g := by
  obtain ⟨ns, o⟩ := x
  cases o with
  | error e => rfl
  | ok a =>
    have hfg : f a = g a := h a (hx a rfl)
    rw [bind_ok rfl, bind_ok rfl, hfg]

open Run (Ensures)

/-- A record of which the fields hold values of their types is written as a text. -/
theorem Record.ensures_isText {r : Record} (typed : r.fieldsTyped = true) : Ensures Piece.IsText (r.write s view) := by
  have hsome : ∀ x : Run Text, Ensures Piece.IsText (x >>= fun t => pure (some t)) :=
    fun x => (Ensures.trivial x).bind fun t _ => Ensures.pure (Piece.isText_some t)
  cases r with
  | text content => exact Ensures.pure (Piece.isText_ofField typed)
  | bareLink kind content => exact Ensures.pure (Piece.isText_ofField typed)
  | link target title =>
    obtain ⟨htarget, htitle⟩ := Bool.and_eq_true_iff.1 typed
    cases view with
    | raw =>
      intro p hp
      obtain ⟨-, -, rfl⟩ := map_eq_ok.1 hp
      exact Piece.isText_some _
    | seen => exact Ensures.pure (Piece.isText_ofField (isString_seenOfLink htarget htitle))
  | fraction done all => exact hsome _
  | percentage value => exact hsome _
  | stamp first second => exact hsome _
  | list items bullet ordered terminator =>
    exact (Ensures.trivial _).bind fun texts _ => Ensures.pure (Piece.isText_some _)
  | table rows =>
    cases view with
    | seen => exact Ensures.pure (Piece.isText_some [])
    | raw =>
      rw [write]
      split
      · exact Ensures.pure (Piece.isText_some [])
      · exact (Ensures.trivial _).bind fun _ _ => (Ensures.trivial _).bind fun entries _ => hsome _
  | _ =>
    simp only [write]
    exact (Ensures.trivial _).bind fun _ _ => Ensures.pure (Piece.isText_some [])

/-! ## Running text behind a block -/

/-- Writes running text before which a list or a table may stand. -/
def writeBehind (s : Setup) (view : View) (behindBlock : Bool) (parts : Parts) : Run Text := do
  let pieces ← writePieces s view behindBlock parts
  .ofExcept (Piece.join pieces)

theorem Parts.write_eq_writeBehind (parts : Parts) : Parts.write s view parts = writeBehind s view false parts := rfl

/-- What a view puts in front of a part: a newline in the raw view if a list or a table stands before it. -/
def View.opening (view : View) (behindBlock : Bool) : Text := if view = .raw ∧ behindBlock = true then ['\n'] else []

theorem View.place_some (view : View) (behindBlock : Bool) (t : Text) :
    view.place behindBlock (some t) = .ok (some (view.opening behindBlock ++ t)) := by
  unfold place opening
  split <;> rfl

theorem writeBehind_nil (behindBlock : Bool) : writeBehind s view behindBlock [] = pure [] := rfl

/-- A part is written behind what its view puts in front of it, and then the parts behind it. -/
theorem writeBehind_cons {r : Record} (typed : r.fieldsTyped = true) (rs : Parts) (behindBlock : Bool) :
    writeBehind s view behindBlock (r :: rs) =
      r.write s view >>= fun piece => writeBehind s view r.isBlock rs >>= fun t =>
        pure (view.opening behindBlock ++ piece.getD [] ++ t) := by
  simp only [writeBehind, writePieces, bind_assoc]
  refine (Record.ensures_isText typed).bind_congr fun piece hpiece => ?_
  obtain ⟨t, rfl⟩ := hpiece
  rw [view.place_some]
  refine (Run.pure_bind_ok _ _).trans (bind_congr fun pieces => ?_)
  rw [Run.pure_bind_ok, Piece.join]
  cases Piece.join pieces <;> rfl

/-- Running text of two is written as the one and then the other, before which the last part of the first stands. -/
theorem writeBehind_append {p : Parts} (typed : ∀ r ∈ p, r.fieldsTyped = true) (q : Parts) (behindBlock : Bool) :
    writeBehind s view behindBlock (p ++ q) =
      writeBehind s view behindBlock p >>= fun t =>
        writeBehind s view ((p.getLast?.map Record.isBlock).getD behindBlock) q >>= fun u => pure (t ++ u) := by
  induction p generalizing behindBlock with
  | nil => rw [writeBehind_nil, Run.pure_bind_ok]; exact (bind_pure _).symm
  | cons r rs ih =>
    obtain ⟨hr, hrs⟩ := List.forall_mem_cons.1 typed
    have hlast : ((r :: rs).getLast?.map Record.isBlock).getD behindBlock =
        (rs.getLast?.map Record.isBlock).getD r.isBlock := by
      rw [List.getLast?_cons]
      cases rs.getLast? <;> rfl
    rw [List.cons_append, writeBehind_cons hr, writeBehind_cons hr, ih hrs, hlast]
    simp only [bind_assoc, pure_bind, List.append_assoc]

/-- Behind a list or a table, running text is written with a newline in front, if there is any. -/
theorem writeBehind_eq {q : Parts} (typed : ∀ r ∈ q, r.fieldsTyped = true) (behindBlock : Bool) :
    writeBehind s view behindBlock q =
      (fun t => (if q.isEmpty then [] else view.opening behindBlock) ++ t) <$> Parts.write s view q := by
  have hopening : view.opening false = [] := if_neg fun h => Bool.false_ne_true h.2
  cases q with
  | nil => rfl
  | cons r rs =>
    obtain ⟨hr, -⟩ := List.forall_mem_cons.1 typed
    rw [Parts.write_eq_writeBehind, writeBehind_cons hr, writeBehind_cons hr, hopening]
    simp only [map_eq_pure_bind, bind_assoc, pure_bind, List.nil_append, List.append_assoc]
    rfl

/-! ## Two running texts after each other -/

/-- Whether running text ends in a list or a table. -/
def endsInBlock (parts : Parts) : Bool := (parts.getLast?.map Record.isBlock).getD false

/-- What stands between two running texts: a newline in the raw view if the first one ends in a list or a table and there is
something behind it. -/
def View.between (view : View) (p q : Parts) : Text :=
  if view = .raw ∧ endsInBlock p = true ∧ q.isEmpty = false then ['\n'] else []

theorem View.between_eq (view : View) (p q : Parts) :
    view.between p q = if q.isEmpty then [] else view.opening (endsInBlock p) := by
  unfold between opening
  cases q.isEmpty <;> simp

/-- Well-typed running text of two is written as the one and then the other, with a newline between them where one is due. -/
theorem Parts.write_append {p q : Parts} (typed : ∀ r ∈ p ++ q, r.fieldsTyped = true) :
    Parts.write s view (p ++ q) =
      Parts.write s view p >>= fun t => Parts.write s view q >>= fun u => pure (t ++ view.between p q ++ u) := by
  obtain ⟨hp, hq⟩ := List.forall_mem_append.1 typed
  have hlast : (p.getLast?.map Record.isBlock).getD false = endsInBlock p := rfl
  rw [Parts.write_eq_writeBehind, writeBehind_append hp, hlast, writeBehind_eq hq, ← View.between_eq]
  simp only [map_eq_pure_bind, bind_assoc, pure_bind, List.append_assoc]
  rfl

theorem map_append_nil (x : Except Fault Text) : x.map (· ++ []) = x := by
  cases x with
  | error f => rfl
  | ok t => exact congrArg Except.ok (List.append_nil t)

theorem Parts.outcome_write_append {p q : Parts} (typed : ∀ r ∈ p ++ q, r.fieldsTyped = true) :
    (Parts.write s view (p ++ q)).outcome = (Parts.write s view p).outcome >>= fun t =>
      (Parts.write s view q).outcome.map fun u => t ++ view.between p q ++ u := by
  rw [Parts.write_append typed, Run.outcome_bind]
  cases (Parts.write s view p).outcome with
  | error f => rfl
  | ok t =>
    show (Parts.write s view q >>= fun u => pure (t ++ view.between p q ++ u)).outcome = _
    rw [← map_eq_pure_bind, Run.outcome_map]
    rfl

theorem Parts.outcome_write_append_eq_ok_iff {p q : Parts} (typed : ∀ r ∈ p ++ q, r.fieldsTyped = true) {t : Text} :
    (Parts.write s view (p ++ q)).outcome = .ok t ↔ ∃ t₁ t₂, (Parts.write s view p).outcome = .ok t₁ ∧
      (Parts.write s view q).outcome = .ok t₂ ∧ t = t₁ ++ view.between p q ++ t₂ := by
  rw [Parts.write_append typed, Run.outcome_bind_eq_ok]
  constructor
  · rintro ⟨t₁, h₁, h⟩
    obtain ⟨t₂, h₂, h⟩ := Run.outcome_bind_eq_ok.1 h
    exact ⟨t₁, t₂, h₁, h₂, (Except.ok.inj h).symm⟩
  · rintro ⟨t₁, t₂, h₁, h₂, rfl⟩
    exact ⟨t₁, h₁, Run.outcome_bind_eq_ok.2 ⟨t₂, h₂, rfl⟩⟩

theorem Parts.outcome_write_singleton_eq_ok_iff {r : Record} (typed : r.fieldsTyped = true) {t : Text} :
    (Parts.write s view [r]).outcome = .ok t ↔ (r.write s view).outcome = .ok (some t) := by
  have hopening : view.opening false = [] := if_neg fun h => Bool.false_ne_true h.2
  rw [Parts.write_eq_writeBehind, writeBehind_cons typed, writeBehind_nil, hopening, Run.outcome_bind_eq_ok]
  constructor
  · rintro ⟨piece, hpiece, h⟩
    obtain ⟨u, rfl⟩ := Record.ensures_isText typed piece hpiece
    obtain rfl := Except.ok.inj h
    rw [hpiece, Option.getD_some, List.nil_append, List.append_nil]
  · intro h
    exact ⟨_, h, congrArg Except.ok (List.append_nil t)⟩

/-- Well-typed running text with a part is written as what stands before the part, the part, and what stands behind it. -/
theorem Parts.outcome_write_part_eq_ok_iff {before behind : Parts} {r : Record}
    (typed : ∀ x ∈ before ++ r :: behind, x.fieldsTyped = true) {t : Text} :
    (Parts.write s view (before ++ r :: behind)).outcome = .ok t ↔
      ∃ t₁ u t₂, (Parts.write s view before).outcome = .ok t₁ ∧ (r.write s view).outcome = .ok (some u) ∧
        (Parts.write s view behind).outcome = .ok t₂ ∧
        t = t₁ ++ view.between before [r] ++ u ++ view.between [r] behind ++ t₂ := by
  have hrest : ∀ x ∈ [r] ++ behind, x.fieldsTyped = true := (List.forall_mem_append.1 typed).2
  have hr : r.fieldsTyped = true := hrest r List.mem_cons_self
  have hbetween : view.between before (r :: behind) = view.between before [r] := rfl
  rw [outcome_write_append_eq_ok_iff typed, hbetween]
  constructor
  · rintro ⟨t₁, t', h₁, h, rfl⟩
    obtain ⟨u, t₂, hu, h₂, rfl⟩ := (outcome_write_append_eq_ok_iff hrest).1 h
    exact ⟨t₁, u, t₂, h₁, (outcome_write_singleton_eq_ok_iff hr).1 hu, h₂, by simp only [List.append_assoc]⟩
  · rintro ⟨t₁, u, t₂, h₁, hu, h₂, rfl⟩
    have hbehind := (outcome_write_append_eq_ok_iff hrest).2 ⟨u, t₂, (outcome_write_singleton_eq_ok_iff hr).2 hu, h₂, rfl⟩
    exact ⟨t₁, _, h₁, hbehind, by simp only [List.append_assoc]⟩

/-! ## Deleting parts that are not recognized -/

/-- Whether a record is a part of running text of a known kind. -/
def Record.isKnownPart : Record → Bool
  | .text _ | .link .. | .fraction .. | .percentage _ | .table _ | .list .. | .stamp .. | .bareLink .. => true
  | _ => false

theorem Record.isBlock_of_not_isKnownPart {r : Record} (h : r.isKnownPart = false) : r.isBlock = false := by
  cases r with
  | table rows => nomatch h
  | list items bullet ordered terminator => nomatch h
  | _ => rfl

/-- A part that is not recognized is no failure unless the options say so, and leaves no text. -/
theorem Record.outcome_write_of_not_isKnownPart (lenient : s.options.failOnUnknown.isSet = false) {r : Record}
    (typed : r.fieldsTyped = true) (h : r.isKnownPart = false) : (r.write s view).outcome = .ok (some []) := by
  have hreport : (s.report view.component r.kind).outcome = .ok () := by
    rw [Setup.report_eq_visit view (hasLong_kind_of_fieldsTyped typed), Place.outcome_visit, Place.fault?, lenient]
    rfl
  cases r with
  | text | link | fraction | percentage | table | list | stamp | bareLink => exact Bool.noConfusion h
  | _ =>
    simp only [write]
    exact Run.outcome_bind_eq_ok.2 ⟨(), hreport, rfl⟩

theorem endsInBlock_concat (p : Parts) (r : Record) : endsInBlock (p ++ [r]) = r.isBlock := by
  rw [endsInBlock, List.getLast?_concat]
  rfl

theorem Parts.outcome_write_of_not_isKnownPart (lenient : s.options.failOnUnknown.isSet = false) {r : Record}
    (typed : r.fieldsTyped = true) (h : r.isKnownPart = false) : (Parts.write s view [r]).outcome = .ok [] := by
  rw [Parts.write_eq_writeBehind, writeBehind_cons typed, Run.outcome_bind, Record.outcome_write_of_not_isKnownPart lenient typed h]
  cases view <;> rfl

/-- What is lost when parts are deleted: the newline behind a list or a table that comes to stand last. -/
def View.lost (view : View) (gone : Record → Bool) (parts : Parts) : Text :=
  if view = .raw ∧ endsInBlock (parts.filter fun r => !gone r) = true ∧ parts.getLast?.any gone = true then ['\n'] else []

/-- With what is lost, a part that is written behind the text is written as it is behind the parts that are left. -/
theorem View.lost_append_between {gone : Record → Bool} {p : Parts} (h : ∀ r ∈ p, gone r = true → r.isKnownPart = false)
    (r : Record) : view.lost gone p ++ view.between p [r] = view.between (p.filter fun r => !gone r) [r] := by
  unfold lost between
  rcases List.eq_nil_or_concat p with rfl | ⟨p, last, rfl⟩
  · simp [endsInBlock]
  · rw [List.concat_eq_append, endsInBlock_concat, List.getLast?_concat, Option.any_some, List.filter_append]
    cases hlast : gone last with
    | true =>
      have hblock : last.isBlock = false := Record.isBlock_of_not_isKnownPart (h last (by simp) hlast)
      simp [hlast, hblock]
    | false =>
      have hkept : [last].filter (fun r => !gone r) = [last] := by simp [hlast]
      rw [hkept, endsInBlock_concat]
      simp

theorem View.lost_nil (view : View) (gone : Record → Bool) : view.lost gone [] = [] := if_neg fun h => nomatch h.2.2

theorem View.lost_concat (view : View) (gone : Record → Bool) (p : Parts) (r : Record) : view.lost gone (p ++ [r]) =
    if gone r = true then view.between (p.filter fun r => !gone r) [r] else [] := by
  unfold lost between
  rw [List.getLast?_concat, Option.any_some, List.filter_append]
  cases hr : gone r with
  | true => simp [hr]
  | false => simp

/-- Parts that are not recognized can be deleted from well-typed running text, except for what is lost with them. -/
theorem Parts.outcome_write_filter (lenient : s.options.failOnUnknown.isSet = false) {parts : Parts}
    (typed : ∀ r ∈ parts, r.fieldsTyped = true) {gone : Record → Bool}
    (h : ∀ r ∈ parts, gone r = true → r.isKnownPart = false) :
    (Parts.write s view parts).outcome =
      (Parts.write s view (parts.filter fun r => !gone r)).outcome.map (· ++ view.lost gone parts) := by
  -- One part more at the end: what was lost before it is written again as what stands between.
  induction parts using List.reverseRecOn with
  | nil =>
    rw [View.lost_nil, List.filter_nil]
    rfl
  | append_singleton p r ih =>
    obtain ⟨hp, hr⟩ := List.forall_mem_append.1 h
    have typedKept : ∀ x ∈ p.filter (fun r => !gone r) ++ [r], x.fieldsTyped = true := by
      intro x hx
      refine typed x ?_
      rcases List.mem_append.1 hx with hx | hx
      · exact List.mem_append_left _ (List.mem_filter.1 hx).1
      · exact List.mem_append_right _ hx
    have hstep : (Parts.write s view (p ++ [r])).outcome = (Parts.write s view (p.filter fun r => !gone r)).outcome >>=
        fun t => (Parts.write s view [r]).outcome.map fun u => t ++ view.between (p.filter fun r => !gone r) [r] ++ u := by
      rw [Parts.outcome_write_append typed, ih (fun x hx => typed x (List.mem_append_left _ hx)) hp,
        ← View.lost_append_between hp]
      cases (Parts.write s view (p.filter fun r => !gone r)).outcome with
      | error f => rfl
      | ok t =>
        show (Parts.write s view [r]).outcome.map (fun u => (t ++ view.lost gone p) ++ view.between p [r] ++ u) =
          (Parts.write s view [r]).outcome.map (fun u => t ++ (view.lost gone p ++ view.between p [r]) ++ u)
        simp only [List.append_assoc]
    rw [hstep, View.lost_concat, List.filter_append]
    cases hgone : gone r with
    | true =>
      have hempty : (Parts.write s view [r]).outcome = .ok [] :=
        Parts.outcome_write_of_not_isKnownPart lenient (typed r (by simp)) (hr r List.mem_cons_self hgone)
      have hfilter : [r].filter (fun r => !gone r) = [] := by simp [hgone]
      rw [hempty, hfilter, if_pos rfl, List.append_nil]
      cases (Parts.write s view (p.filter fun r => !gone r)).outcome with
      | error f => rfl
      | ok t => simp [bind, Except.bind, Except.map]
    | false =>
      have hfilter : [r].filter (fun r => !gone r) = [r] := by simp [hgone]
      rw [hfilter, if_neg Bool.false_ne_true, Parts.outcome_write_append typedKept]
      exact (map_append_nil _).symm

/-- Well-typed running text of two is written as the one and then the other, with the notices of both in this order; in the raw
view a newline stands between them if the first one ends in a list or a table and the second one is not empty. If parts that
are not recognized are no failures, they can be deleted without a change to the text, except that in the raw view one newline
at the end is lost if what is left ends in a list or a table and one of the deleted parts stood last. -/
theorem Parts.write_append_and_filter (s : Setup) :
    (∀ (view : View) (p q : Parts), (∀ r ∈ p, r.WellTyped) → (∀ r ∈ q, r.WellTyped) →
      Parts.write s view (p ++ q) = do
        let t ← Parts.write s view p
        let u ← Parts.write s view q
        pure (t ++ (if view = .raw ∧ endsInBlock p = true ∧ q.isEmpty = false then ['\n'] else []) ++ u)) ∧
    (s.options.failOnUnknown.isSet = false → ∀ (parts : Parts) (gone : Record → Bool), (∀ r ∈ parts, r.WellTyped) →
      (∀ r ∈ parts, gone r = true → r.isKnownPart = false) →
      let kept := parts.filter fun r => !gone r
      (Parts.write s .raw parts).outcome = (Parts.write s .raw kept).outcome.map
          (· ++ if endsInBlock kept = true ∧ parts.getLast?.any gone = true then ['\n'] else []) ∧
        (Parts.write s .seen parts).outcome = (Parts.write s .seen kept).outcome) := by
  constructor
  · intro view p q hp hq
    exact Parts.write_append (List.forall_mem_append.2 ⟨fun r hr => (hp r hr).fieldsTyped, fun r hr => (hq r hr).fieldsTyped⟩)
  · intro lenient parts gone typed h kept
    have hfields : ∀ r ∈ parts, r.fieldsTyped = true := fun r hr => (typed r hr).fieldsTyped
    have hdeleted : ∀ view : View, (Parts.write s view parts).outcome =
        (Parts.write s view kept).outcome.map (· ++ view.lost gone parts) :=
      fun _ => outcome_write_filter lenient hfields h
    have hlost : View.lost .seen gone parts = [] := if_neg fun h => nomatch h.1
    refine ⟨?_, ?_⟩
    · rw [hdeleted]
      simp only [View.lost, true_and]
      rfl
    · rw [hdeleted, hlost]
      exact map_append_nil _

/-- A list behind a text, and two parts behind the list that are not recognized, the second of which is no part at all. -/
theorem Parts.write_append_and_filter_listed :
    let item : Item := ⟨[.text (.str "a"), .unrecognized (.str "X") []], [], .bool false, .unchecked, .null⟩
    let p : Parts := [.text (.str "see "), .list [item] (.str "-") (.bool false) (.str ".")]
    let q : Parts := [.unrecognized (.str "Y") [], .title { text := .str "A" }]
    (∀ r ∈ p, r.WellTyped) ∧ (∀ r ∈ q, r.WellTyped) ∧ (∀ r ∈ p ++ q, !r.isKnownPart → r.isKnownPart = false) ∧
      Parts.write {} .raw (p ++ q) =
        ⟨[.unknownPart (.str "X"), .unknownPart (.str "Y"), .unknownPart (.str "TitleLine")], .ok "see - a\n".toList⟩ ∧
      (Parts.write {} .raw (p ++ q)).outcome = (Parts.write {} .raw p).outcome.map (· ++ ['\n']) ∧
      (Parts.write {} .seen (p ++ q)).outcome = (Parts.write {} .seen p).outcome := by
  intro item p q
  have hp : ∀ r ∈ p, r.WellTyped := by decide
  have hq : ∀ r ∈ q, r.WellTyped := by decide
  have hgone : ∀ r ∈ p ++ q, !r.isKnownPart → r.isKnownPart = false := by decide
  obtain ⟨happend, hfilter⟩ := Parts.write_append_and_filter {}
  have hwrite := happend .raw p q hp hq
  obtain ⟨hraw, hseen⟩ := hfilter rfl (p ++ q) (fun r => !r.isKnownPart) (List.forall_mem_append.2 ⟨hp, hq⟩) hgone
  exact ⟨hp, hq, hgone, hwrite.trans rfl, hraw, hseen⟩

end OrgOutline
