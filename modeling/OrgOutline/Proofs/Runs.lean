import OrgOutline.Run

/-!
# How runs end

What a run after another ends with, read backwards (`Run.outcome_bind_eq_ok`); runs that end in a known way and are quiet
under a condition (`Run.Gives`), which go together as runs do (`Run.Gives.bind`); and runs of whose results something is
known (`Run.Ensures`).
-/

namespace OrgOutline

variable {α β : Type}

theorem map_eq_ok {ε : Type} {x : Except ε α} {g : α → β} {b : β} : x.map g = .ok b ↔ ∃ a, x = .ok a ∧ g a = b := by
  cases x <;> simp [Except.map]

theorem bind_eq_ok {x : Except Fault α} {f : α → Except Fault β} {b : β} :
    x >>= f = .ok b ↔ ∃ a, x = .ok a ∧ f a = .ok b := by
  cases x <;> simp [bind, Except.bind]

namespace Run

@[simp] theorem outcome_ofExcept (x : Except Fault α) : (ofExcept x).outcome = x := rfl

theorem pure_bind_ok (a : α) (f : α → Run β) : (pure a : Run α) >>= f = f a := pure_bind a f

theorem outcome_map (g : α → β) (x : Run α) : (g <$> x).outcome = x.outcome.map g := by
  rcases x with ⟨ns, _ | a⟩ <;> rfl

theorem notices_map (g : α → β) (x : Run α) : (g <$> x).notices = x.notices := by
  rcases x with ⟨ns, _ | a⟩
  · rfl
  · exact List.append_nil ns

/-- A run after another ends well when both do. -/
theorem outcome_bind_eq_ok {x : Run α} {f : α → Run β} {b : β} :
    (x >>= f).outcome = .ok b ↔ ∃ a, x.outcome = .ok a ∧ (f a).outcome = .ok b := by
  rw [outcome_bind]
  cases x.outcome <;> simp

theorem outcome_map_eq_ok {x : Run α} {g : α → β} {b : β} :
    (g <$> x).outcome = .ok b ↔ ∃ a, x.outcome = .ok a ∧ g a = b := by
  rw [outcome_map, map_eq_ok]

theorem result?_eq_some_iff {x : Run α} {a : α} : x.result? = some a ↔ x.outcome = .ok a := by
  unfold result?
  cases x.outcome <;> simp [Except.toOption]

/-- A run ends well exactly if it ends with its result, which is the only one. -/
theorem outcome_eq_ok_iff_getD {x : Run α} (d : α) {a : α} :
    x.outcome = .ok a ↔ x.outcome = .ok (x.result?.getD d) ∧ a = x.result?.getD d := by
  unfold result?
  cases x.outcome with
  | error e => simp
  | ok b => simp [Except.toOption, eq_comm]

/-! ## Runs with a known end -/

/-- A run that ends in a given way, and without a notice under a condition. -/
structure Gives (quiet : Prop) (x : Run α) (o : Except Fault α) : Prop where
  outcome : x.outcome = o
  silent : quiet → x.notices = []

variable {quiet : Prop}

theorem Gives.pure (a : α) : Gives quiet (pure a) (.ok a) := ⟨rfl, fun _ => rfl⟩

theorem Gives.ofExcept (o : Except Fault α) : Gives quiet (ofExcept o) o := ⟨rfl, fun _ => rfl⟩

/-- Two runs after each other give what their outcomes after each other are. -/
theorem Gives.bind {x : Run α} {f : α → Run β} {o : Except Fault α} {g : α → Except Fault β} (hx : Gives quiet x o)
    (hf : ∀ a, o = .ok a → Gives quiet (f a) (g a)) : Gives quiet (x >>= f) (o >>= g) := by
  obtain ⟨ns, o'⟩ := x
  obtain rfl : o' = o := hx.outcome
  cases o' with
  | error e => exact ⟨rfl, hx.silent⟩
  | ok a =>
    have h := hf a rfl
    refine ⟨h.outcome, ?_⟩
    intro q
    have h1 : ns = [] := hx.silent q
    show ns ++ (f a).notices = []
    rw [h1, h.silent q, List.append_nil]

theorem Gives.map {x : Run α} {o : Except Fault α} (g : α → β) (hx : Gives quiet x o) : Gives quiet (g <$> x) (o.map g) :=
  ⟨by rw [outcome_map, hx.outcome], fun q => by rw [notices_map, hx.silent q]⟩

/-! ## What a run gives in any case -/

/-- A run that gives only results with a property, if it gives one. -/
def Ensures (P : α → Prop) (x : Run α) : Prop := ∀ a, x.outcome = .ok a → P a

theorem Ensures.pure {P : α → Prop} {a : α} (h : P a) : Ensures P (pure a) := by
  intro b hb
  obtain rfl : a = b := Except.ok.inj hb
  exact h

theorem Ensures.ofExcept {P : α → Prop} {x : Except Fault α} (h : ∀ a, x = .ok a → P a) : Ensures P (ofExcept x) := h

theorem Ensures.fail {P : α → Prop} (f : Fault) : Ensures P (fail f) := fun _ h => nomatch h

/-- A notice that is given has a text. -/
theorem ensures_tell (n : Notice) : Ensures (fun _ => n.shownValues.any Json.hasLong = false) (tell n) := by
  unfold tell
  split
  · exact Ensures.fail _
  · rename_i h
    exact fun _ _ => Bool.not_eq_true _ ▸ h

theorem Ensures.trivial (x : Run α) : Ensures (fun _ => True) x := fun _ _ => True.intro

theorem Ensures.mono {P Q : α → Prop} {x : Run α} (h : Ensures P x) (hPQ : ∀ a, P a → Q a) : Ensures Q x :=
  fun a ha => hPQ a (h a ha)

theorem Ensures.bind {P : α → Prop} {Q : β → Prop} {x : Run α} {f : α → Run β} (hx : Ensures P x)
    (hf : ∀ a, P a → Ensures Q (f a)) : Ensures Q (x >>= f) := by
  intro b hb
  obtain ⟨a, ha, hb⟩ := outcome_bind_eq_ok.1 hb
  exact hf a (hx a ha) b hb

theorem Ensures.map {P : β → Prop} {x : Run α} {g : α → β} (h : Ensures (fun a => P (g a)) x) : Ensures P (g <$> x) := by
  intro b hb
  obtain ⟨a, ha, rfl⟩ := outcome_map_eq_ok.1 hb
  exact h a ha

end Run
end OrgOutline
