import OrgOutline.Notice

/-!
# Runs

A run is what loading or writing does: the notices it gives, in order, and either a result or the fault at which it
stopped. The notices given before a fault are kept. Main statement: runs form a lawful monad, in which the notices of two
runs after each other are concatenated.
-/

namespace OrgOutline

/-- The notices given on the way, in order, and how it ended. -/
structure Run (α : Type) where
  notices : List Notice
  outcome : Except Fault α

namespace Run

variable {α β : Type}

/-- A run that stops at a fault. -/
def fail (f : Fault) : Run α := ⟨[], .error f⟩

/-- A run that gives one notice. -/
def note (n : Notice) : Run Unit := ⟨[n], .ok ()⟩

/-- A run that stops at a fault when its message has been put together. -/
def refuse (f : Fault) : Run α := fail f.told

/-- A run that gives one notice when its text has been put together. -/
def tell (n : Notice) : Run Unit := if n.shownValues.any Json.hasLong then fail .tooManyDigitsShown else note n

/-- A run without notices that ends as a plain outcome does. -/
def ofExcept (x : Except Fault α) : Run α := ⟨[], x⟩

/-- One run after another, unless the first one stops. -/
def bind (x : Run α) (f : α → Run β) : Run β :=
  match x.outcome with
  | .ok a => ⟨x.notices ++ (f a).notices, (f a).outcome⟩
  | .error e => ⟨x.notices, .error e⟩

instance : Monad Run where
  pure a := ⟨[], .ok a⟩
  bind := bind

/-- The result, if there is one. -/
def result? (x : Run α) : Option α := x.outcome.toOption

/-- The events delivered to a collector, in order. -/
def events (x : Run α) : List Event := x.notices.filterMap Notice.event?

/-- The remarks in the log, in order. -/
def remarks (x : Run α) : List Remark := x.notices.filterMap Notice.remark?

/-- The remarks in the log that are warnings, in order. -/
def warnings (x : Run α) : List Remark := x.remarks.filter (fun m => m.level = .warning)

/-! ## Helper lemmas -/

@[ext] theorem ext {x y : Run α} (h : x.notices = y.notices) (h' : x.outcome = y.outcome) : x = y := by
  cases x; cases y; simp_all

theorem pure_def (a : α) : (pure a : Run α) = ⟨[], .ok a⟩ := rfl

@[simp] theorem notices_pure (a : α) : (pure a : Run α).notices = [] := rfl

@[simp] theorem outcome_pure (a : α) : (pure a : Run α).outcome = .ok a := rfl

theorem bind_def (x : Run α) (f : α → Run β) : x >>= f = x.bind f := rfl

theorem bind_ok {x : Run α} {a : α} (h : x.outcome = .ok a) (f : α → Run β) :
    x >>= f = ⟨x.notices ++ (f a).notices, (f a).outcome⟩ := by
  simp only [bind_def, bind, h]

/-- A notice is given if each of the values in its text can be shown. -/
theorem tell_of_shown {n : Notice} (h : n.shownValues.any Json.hasLong = false) : tell n = note n := by
  rw [tell, h, if_neg Bool.false_ne_true]

instance : LawfulMonad Run := LawfulMonad.mk' Run
  (fun x => by
    show x.bind (fun a => pure a) = x
    rcases x with ⟨ns, _ | a⟩ <;> simp [bind])
  (fun a f => by rw [bind_ok rfl]; rfl)
  (fun x f g => by
    rcases x with ⟨ns, _ | a⟩
    · rfl
    · show (bind ⟨ns ++ (f a).notices, (f a).outcome⟩ g) = ⟨ns ++ (f a >>= g).notices, (f a >>= g).outcome⟩
      rcases h : f a with ⟨ms, _ | b⟩ <;> simp [bind, bind_def])

/-- What a run after another ends with. -/
theorem outcome_bind (x : Run α) (f : α → Run β) :
    (x >>= f).outcome = match x.outcome with
      | .ok a => (f a).outcome
      | .error e => .error e := by
  rcases x with ⟨ns, _ | a⟩ <;> rfl

end Run
end OrgOutline
