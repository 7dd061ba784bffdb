import OrgOutline.Proofs.Places
import OrgOutline.Proofs.Reports

/-!
# Runs that visit places

A run visits places (`Visits`) when, apart from details that are told on the way, it does nothing else than what is to be done at
each of them in order: nothing else fails, and nothing else is reported. Runs after each other visit the places of the one and
then those of the other (`Visits.bind`). Main statements: such a run fails with the fault of the first place that fails
(`Visits.outcome_eq_error_iff`) and reports the parts before it (`Visits.notices_withoutDetails`).
-/

namespace OrgOutline

variable {α β : Type}

/-! ## Details -/

namespace Run

/-- A run of which the details are not listened to. -/
def withoutDetails (x : Run α) : Run α := ⟨x.notices.filter (fun n => !n.isDetail), x.outcome⟩

@[simp] theorem withoutDetails_ofExcept (x : Except Fault α) : (ofExcept x).withoutDetails = ofExcept x := rfl

/-- Outcomes after each other, as runs after each other. -/
theorem ofExcept_bind (e : Except Fault α) (f : α → Except Fault β) :
    ofExcept (e >>= f) = ofExcept e >>= fun a => ofExcept (f a) := by
  cases e <;> rfl

theorem withoutDetails_bind (x : Run α) (f : α → Run β) :
    (x >>= f).withoutDetails = x.withoutDetails >>= fun a => (f a).withoutDetails := by
  obtain ⟨ns, o⟩ := x
  cases o with
  | error e => rfl
  | ok a =>
    have hnotices : (ns ++ (f a).notices).filter (fun n => !n.isDetail) =
        ns.filter (fun n => !n.isDetail) ++ (f a).notices.filter (fun n => !n.isDetail) := List.filter_append _ _
    exact Run.ext hnotices rfl

theorem withoutDetails_visit (s : Setup) (p : Place) : (p.visit s).withoutDetails = p.visit s := by
  unfold Place.visit
  split
  · rfl
  · split
    · cases s.collector <;> rfl
    · rfl

end Run

open Run (Related)

/-! ## Runs that visit places -/

variable {s : Setup} {ps qs : List Place}

/-- A run that visits places, apart from details; if none of them fails, it gives a result with a property. -/
def Visits (s : Setup) (good : α → Prop) (ps : List Place) (x : Run α) : Prop :=
  Related (fun a _ => good a) x.withoutDetails (ps.forM (Place.visit s))

namespace Visits

variable {P : α → Prop} {Q : β → Prop} {x : Run α}

theorem pure {a : α} (h : P a) : Visits s P [] (pure a) := Related.pure (b := ()) h

theorem ofExcept {a : α} {e : Except Fault α} (he : e = .ok a) (h : P a) : Visits s P [] (.ofExcept e) := by
  subst he
  exact Visits.pure h

theorem note {n : Notice} (h : n.isDetail = true) : Visits s (fun _ => True) [] (.note n) := by
  have hn : (Run.note n).withoutDetails = Pure.pure () := by
    refine Run.ext ?_ rfl
    show [n].filter (fun n => !n.isDetail) = []
    rw [List.filter_cons_of_neg (by simp [h]), List.filter_nil]
  unfold Visits
  rw [hn]
  exact Related.pure (b := ()) trivial

/-- A single place. -/
theorem visit (p : Place) : Visits s (fun _ => True) [p] (p.visit s) := by
  have hone : [p].forM (Place.visit s) = p.visit s := bind_pure_unit
  unfold Visits
  rw [hone, Run.withoutDetails_visit]
  exact Related.refl (fun _ => trivial) _

/-- A single place at which nothing but a failure can happen. -/
theorem checked {p : Place} {e : Except Fault α} (hpart : p.part? = none) (hfault : p.fault? s = faultOf e) :
    Visits s (fun a => e = .ok a) [p] (.ofExcept e) := by
  have hone : [p].forM (Place.visit s) = p.visit s := bind_pure_unit
  unfold Visits
  rw [hone, Run.withoutDetails_ofExcept, Place.visit, hfault]
  cases e with
  | ok a =>
    rw [faultOf, hpart]
    exact Related.pure (b := ()) rfl
  | error f => exact ⟨rfl, rfl⟩

theorem mono {P' : α → Prop} (h : Visits s P ps x) (hP : ∀ a, P a → P' a) : Visits s P' ps x :=
  Related.mono h fun a _ ha => hP a ha

/-- Runs after each other visit the places of the one and then those of the other. -/
theorem bind {f : α → Run β} (h : Visits s P ps x) (hf : ∀ a, P a → Visits s Q qs (f a)) :
    Visits s Q (ps ++ qs) (x >>= f) := by
  have happend : (ps ++ qs).forM (Place.visit s) = ps.forM (Place.visit s) >>= fun _ => qs.forM (Place.visit s) :=
    List.forM_append
  unfold Visits
  rw [Run.withoutDetails_bind, happend]
  exact Related.bind h fun a _ ha => hf a ha

/-- What follows a run visits no place. -/
theorem bind_nil {f : α → Run β} (h : Visits s P ps x) (hf : ∀ a, P a → Visits s Q [] (f a)) :
    Visits s Q ps (x >>= f) := by
  have := h.bind hf
  rwa [List.append_nil] at this

/-- What is made of an outcome visits no further place. -/
theorem map {e : Except Fault α} (g : α → β) (h : Visits s P ps (.ofExcept e)) :
    Visits s (fun _ => True) ps (.ofExcept (e.map g)) := by
  have hbind : Run.ofExcept (e.map g) = Run.ofExcept e >>= fun a => Pure.pure (g a) := by
    cases e <;> rfl
  rw [hbind]
  exact h.bind_nil fun _ _ => Visits.pure trivial

/-- What goes before a run visits no place. -/
theorem nil_bind {f : α → Run β} (h : Visits s P [] x) (hf : ∀ a, P a → Visits s Q qs (f a)) : Visits s Q qs (x >>= f) :=
  h.bind hf

/-- A run that visits places fails with the fault of the first one that fails. -/
theorem outcome_eq_error_iff (h : Visits s P ps x) (f : Fault) :
    x.outcome = .error f ↔ ps.findSome? (Place.fault? s) = some f := by
  have ho : RelatedOutcomes (fun a _ => P a) x.outcome (ps.forM (Place.visit s)).outcome := h.outcome
  rw [outcome_forM_visit] at ho
  cases hx : x.outcome with
  | error e =>
    rw [hx] at ho
    cases hp : ps.findSome? (Place.fault? s) with
    | none =>
      rw [hp] at ho
      exact ho.elim
    | some e' =>
      rw [hp] at ho
      rw [show e = e' from ho, Except.error.injEq, Option.some.injEq]
  | ok a =>
    rw [hx] at ho
    cases hp : ps.findSome? (Place.fault? s) with
    | none => simp
    | some e' =>
      rw [hp] at ho
      exact ho.elim

/-- A run that visits places gives a result exactly when none of them fails. -/
theorem exists_outcome_eq_ok_iff (h : Visits s P ps x) :
    (∃ a, x.outcome = .ok a) ↔ ∀ p ∈ ps, p.fault? s = none := by
  rw [← List.findSome?_eq_none_iff]
  cases hx : x.outcome with
  | ok a =>
    have hne : ps.findSome? (Place.fault? s) = none := by
      cases hp : ps.findSome? (Place.fault? s) with
      | none => rfl
      | some f => rw [(h.outcome_eq_error_iff f).2 hp] at hx; nomatch hx
    simp [hne]
  | error f => simp [(h.outcome_eq_error_iff f).1 hx]

/-- A run that visits places reports the parts among them before the first one that fails, and remarks nothing else. -/
theorem notices_withoutDetails (h : Visits s P ps x) : x.withoutDetails.notices =
    (partsAt (ps.takeWhile fun p => (p.fault? s).isNone)).map s.collector.notice := by
  rw [← notices_forM_visit]
  exact h.notices

end Visits

end OrgOutline
