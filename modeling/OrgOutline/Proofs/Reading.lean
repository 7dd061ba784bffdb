import OrgOutline.Proofs.Tokens

/-!
# Written text is read back

Reading undoes writing for values without floats whose objects name each key once, whatever the indentation. Main statement:
what is read is the value that was written, unless an integer in it has too many digits; then the text is refused for the
first such integer (`Json.read_layout`).
-/

namespace OrgOutline
namespace Json

/-! ## Refused integers -/

/-- Refuses the first of several integers that has too many digits. -/
def refuseLong (ns : List Int) : Except Refusal Unit :=
  match ns.find? isLong with
  | some n => .error (.tooManyDigits (digitCount n))
  | none => .ok ()

theorem refuseLong_append (ns ms : List Int) : refuseLong (ns ++ ms) = refuseLong ns >>= fun _ => refuseLong ms := by
  rw [refuseLong, refuseLong, List.find?_append]
  cases ns.find? isLong <;> rfl

/-! ## Members -/

/-- A new key is set at the end. -/
theorem put_of_nodup {members : Members} {key : String} {keys : List String} (h : (members.map Prod.fst ++ key :: keys).Nodup)
    (v : Json) : put members key v = members ++ [(key, v)] := by
  induction members with
  | nil => rfl
  | cons m ms ih =>
    rw [List.map_cons, List.cons_append, List.nodup_cons] at h
    have hne : m.1 ≠ key := by
      intro e
      exact h.1 (List.mem_append_right _ (e ▸ List.mem_cons_self))
    rw [put, if_neg hne, ih h.2, List.cons_append]

/-! ## From tokens to values -/

/-- The tokens of a value are read as the value, whatever is open around it and whatever follows, unless an integer in it is
refused. -/
def ReadsBack (v : Json) : Prop :=
  ∀ (frames : List Frame) (rest : List Token), (v.toTokens ++ rest).foldlM Reader.step ⟨.value, frames⟩ =
    refuseLong v.integers >>= fun _ => rest.foldlM Reader.step ⟨.after v, frames⟩

/-- The first token of a value is not the end of an array. -/
theorem foldlM_itemOrEnd (x : Json) (frames : List Frame) (rest : List Token) :
    (x.toTokens ++ rest).foldlM Reader.step ⟨.itemOrEnd, frames⟩ =
      (x.toTokens ++ rest).foldlM Reader.step ⟨.value, .array [] :: frames⟩ := by
  cases x with
  | bool b => cases b <;> rfl
  | arr items => cases items <;> rfl
  | obj members => cases members <;> rfl
  | _ => rfl

/-- The further elements of an array and its end are read. -/
theorem foldlM_itemTokens {xs : List Json} (h : ∀ x ∈ xs, x.ReadsBack) (v : Json) (items : List Json) (outer : List Frame)
    (rest : List Token) : (itemTokens xs ++ .closeArray :: rest).foldlM Reader.step ⟨.after v, .array items :: outer⟩ =
      refuseLong (xs.flatMap integers) >>= fun _ =>
        rest.foldlM Reader.step ⟨.after (.arr (items.reverse ++ v :: xs)), outer⟩ := by
  induction xs generalizing v items with
  | nil =>
    rw [← List.reverse_cons]
    rfl
  | cons x xs ih =>
    obtain ⟨hx, hxs⟩ := List.forall_mem_cons.1 h
    have hcomma : (itemTokens (x :: xs) ++ .closeArray :: rest).foldlM Reader.step ⟨.after v, .array items :: outer⟩ =
        (x.toTokens ++ (itemTokens xs ++ .closeArray :: rest)).foldlM Reader.step ⟨.value, .array (v :: items) :: outer⟩ := by
      rw [itemTokens, List.append_assoc, List.cons_append]
      rfl
    rw [hcomma, hx, List.flatMap_cons, refuseLong_append, bind_assoc]
    simp only [ih hxs, List.reverse_cons, List.append_assoc, List.singleton_append]

/-- The further members of an object and its end are read, if no key comes twice. -/
theorem foldlM_memberTokens {ms : Members} (h : ∀ m ∈ ms, m.2.ReadsBack) (v : Json) (members : Members) (key : String)
    (hk : (members.map Prod.fst ++ key :: ms.map Prod.fst).Nodup) (outer : List Frame) (rest : List Token) :
    (memberTokens ms ++ .closeObject :: rest).foldlM Reader.step ⟨.after v, .object members key :: outer⟩ =
      refuseLong (ms.flatMap fun m => m.2.integers) >>= fun _ =>
        rest.foldlM Reader.step ⟨.after (.obj (members ++ (key, v) :: ms)), outer⟩ := by
  induction ms generalizing v members key with
  | nil =>
    rw [← put_of_nodup hk v]
    rfl
  | cons m ms ih =>
    obtain ⟨k, x⟩ := m
    obtain ⟨hx, hms⟩ := List.forall_mem_cons.1 h
    have hcomma : (memberTokens ((k, x) :: ms) ++ .closeObject :: rest).foldlM Reader.step
        ⟨.after v, .object members key :: outer⟩ = (x.toTokens ++ (memberTokens ms ++ .closeObject :: rest)).foldlM Reader.step
          ⟨.value, .object (members ++ [(key, v)]) k :: outer⟩ := by
      rw [memberTokens, List.append_assoc, List.cons_append, List.cons_append, List.cons_append, ← put_of_nodup hk v]
      rfl
    have hk' : ((members ++ [(key, v)]).map Prod.fst ++ k :: ms.map Prod.fst).Nodup := by simpa using hk
    rw [hcomma, hx, List.flatMap_cons, refuseLong_append, bind_assoc]
    simp only [ih hms x _ k hk', List.append_assoc, List.singleton_append]

/-- Every value without floats whose objects name each key once is read from its tokens. -/
theorem readsBack {v : Json} (hf : v.FloatFree) (hw : v.WellFormed) : v.ReadsBack := by
  induction v using nestedInduction with
  | null => exact fun _ _ => rfl
  | bool b => cases b <;> exact fun _ _ => rfl
  | int n =>
    intro frames rest
    have hword : ((int n).toTokens ++ rest).foldlM Reader.step ⟨.value, frames⟩ =
        ((ofWord (decimalInt n)).map fun v => Reader.mk (.after v) frames) >>= fun r => rest.foldlM Reader.step r := rfl
    have hints : (int n).integers = [n] := rfl
    rw [hword, hints, ofWord_decimalInt, refuseLong, List.find?_singleton]
    cases isLong n <;> rfl
  | float x => exact absurd (List.mem_singleton.2 rfl) (hf x)
  | str s => exact fun _ _ => rfl
  | arr items ih =>
    have h := fun x hx => ih x hx (floatFree_arr.1 hf x hx) (wellFormed_arr.1 hw x hx)
    intro frames rest
    cases items with
    | nil => rfl
    | cons x xs =>
      obtain ⟨hx, hxs⟩ := List.forall_mem_cons.1 h
      have hopen : ((arr (x :: xs)).toTokens ++ rest).foldlM Reader.step ⟨.value, frames⟩ =
          (x.toTokens ++ (itemTokens xs ++ .closeArray :: rest)).foldlM Reader.step ⟨.itemOrEnd, frames⟩ := by
        simp only [toTokens, List.append_assoc, List.cons_append, List.nil_append]
        rfl
      rw [hopen, foldlM_itemOrEnd, hx, integers_arr, List.flatMap_cons, refuseLong_append, bind_assoc]
      simp only [foldlM_itemTokens hxs, List.reverse_nil, List.nil_append]
  | obj members ih =>
    obtain ⟨hkeys, hvalues⟩ := wellFormed_obj.1 hw
    have h := fun m hm => ih m hm (floatFree_obj.1 hf m hm) (hvalues m hm)
    intro frames rest
    cases members with
    | nil => rfl
    | cons m ms =>
      obtain ⟨k, x⟩ := m
      obtain ⟨hx, hms⟩ := List.forall_mem_cons.1 h
      have hopen : ((obj ((k, x) :: ms)).toTokens ++ rest).foldlM Reader.step ⟨.value, frames⟩ =
          (x.toTokens ++ (memberTokens ms ++ .closeObject :: rest)).foldlM Reader.step ⟨.value, .object [] k :: frames⟩ := by
        simp only [toTokens, List.append_assoc, List.cons_append, List.nil_append]
        rfl
      rw [hopen, hx, integers_obj, List.flatMap_cons, refuseLong_append, bind_assoc]
      simp only [foldlM_memberTokens hms x [] k hkeys, List.nil_append]

/-! ## Statements -/

/-- Reading undoes writing, unless there is an integer of too many digits. -/
theorem read_layout (indent : Indent) {v : Json} (hf : v.FloatFree) (hw : v.WellFormed) :
    read (v.layout indent) = match v.integers.find? isLong with
      | some n => .error (.tooManyDigits (digitCount n))
      | none => .ok v := by
  have h := readsBack hf hw [] []
  rw [List.append_nil] at h
  rw [read, tokens_layout indent hf, ofTokens, h, refuseLong]
  cases v.integers.find? isLong <;> rfl

end Json
end OrgOutline
