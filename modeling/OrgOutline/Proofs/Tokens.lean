import Mathlib.Tactic.IntervalCases
import OrgOutline.Json.Writer
import OrgOutline.Proofs.Nested
import OrgOutline.Proofs.Words

/-!
# Written text in tokens

The tokens of a value are those of its text, whatever the indentation (`Json.toTokens`). Main statement: a value without
floats is cut into its tokens when its text is scanned (`Json.tokens_layout`). The text is followed from token to token: the
scanner stands at a boundary (`Scanner.Has`) between two tokens, or inside a word that ends with the next character, and a
piece of text takes it from one boundary to another (`Reads`).
-/

namespace OrgOutline
namespace Json

/-! ## The tokens of a value -/

mutual
/-- The tokens of a value. -/
def toTokens : Json → List Token
  | .null => [.word "null".toList]
  | .bool true => [.word "true".toList]
  | .bool false => [.word "false".toList]
  | .int n => [.word (decimalInt n)]
  | .float x => [.word (x.text writtenNumbers)]
  | .str s => [.str s]
  | .arr [] => [.openArray, .closeArray]
  | .arr (x :: xs) => .openArray :: toTokens x ++ itemTokens xs ++ [.closeArray]
  | .obj [] => [.openObject, .closeObject]
  | .obj ((k, v) :: ms) => .openObject :: .str k :: .colon :: toTokens v ++ memberTokens ms ++ [.closeObject]

/-- The tokens of the further elements of an array. -/
def itemTokens : List Json → List Token
  | [] => []
  | x :: xs => .comma :: toTokens x ++ itemTokens xs

/-- The tokens of the further members of an object. -/
def memberTokens : List (String × Json) → List Token
  | [] => []
  | (k, v) :: ms => .comma :: .str k :: .colon :: toTokens v ++ memberTokens ms
end

/-! ## From boundary to boundary -/

/-- The tokens that a scanner has read, the last one first, where it stands between two tokens or in a word that is about to
end. -/
def Scanner.Has (s : Scanner) (ts : List Token) : Prop :=
  s = ⟨ts, .between⟩ ∨ ∃ letters rest, s = ⟨rest, .word letters⟩ ∧ ts = .word letters.reverse :: rest

/-- A text that is read as tokens from a boundary on and ends at a boundary. -/
def Reads (t : Text) (read : List Token) : Prop :=
  ∀ (s : Scanner) (ts : List Token), s.Has ts → (t.foldl Scanner.step s).Has (read.reverse ++ ts)

/-- A text that is read as tokens from a boundary on and ends between two tokens. -/
def ReadsClosed (t : Text) (read : List Token) : Prop :=
  ∀ (s : Scanner) (ts : List Token), s.Has ts → t.foldl Scanner.step s = ⟨read.reverse ++ ts, .between⟩

/-- A text that is read as tokens from between two tokens on and ends at a boundary. -/
def ReadsBetween (t : Text) (read : List Token) : Prop :=
  ∀ ts : List Token, (t.foldl Scanner.step ⟨ts, .between⟩).Has (read.reverse ++ ts)

theorem ReadsClosed.reads {t : Text} {read : List Token} (h : ReadsClosed t read) : Reads t read :=
  fun s ts hs => Or.inl (h s ts hs)

theorem Reads.between {t : Text} {read : List Token} (h : Reads t read) : ReadsBetween t read :=
  fun ts => h _ ts (Or.inl rfl)

theorem Reads.nil : Reads [] [] := fun _ _ hs => hs

theorem Reads.append {t u : Text} {p q : List Token} (ht : Reads t p) (hu : Reads u q) : Reads (t ++ u) (p ++ q) := by
  intro s ts hs
  rw [List.foldl_append, List.reverse_append, List.append_assoc]
  exact hu _ _ (ht s ts hs)

theorem Reads.append_closed {t u : Text} {p q : List Token} (ht : Reads t p) (hu : ReadsClosed u q) :
    ReadsClosed (t ++ u) (p ++ q) := by
  intro s ts hs
  rw [List.foldl_append, List.reverse_append, List.append_assoc]
  exact hu _ _ (ht s ts hs)

theorem ReadsClosed.append_between {t u : Text} {p q : List Token} (ht : ReadsClosed t p) (hu : ReadsBetween u q) :
    Reads (t ++ u) (p ++ q) := by
  intro s ts hs
  rw [List.foldl_append, ht s ts hs, List.reverse_append, List.append_assoc]
  exact hu _

/-! ## Spaces, punctuation and words -/

/-- A space ends a word. -/
theorem Scanner.Has.step_space {s : Scanner} {ts : List Token} (h : s.Has ts) {c : Char} (hc : isSpace c = true) :
    s.step c = ⟨ts, .between⟩ := by
  rcases h with rfl | ⟨letters, rest, rfl, rfl⟩ <;> simp [step, stepBetween, hc]

/-- A bracket or separator ends a word and is a token of its own. -/
theorem Scanner.Has.step_punctuation {s : Scanner} {ts : List Token} (h : s.Has ts) {c : Char} {t : Token}
    (hc : isSpace c = false ∧ c ≠ '"' ∧ punctuation? c = some t) : s.step c = ⟨t :: ts, .between⟩ := by
  obtain ⟨h1, h2, h3⟩ := hc
  rcases h with rfl | ⟨letters, rest, rfl, rfl⟩ <;> simp [step, stepBetween, h1, h2, h3]

theorem readsClosed_space {c : Char} (hc : isSpace c = true) : ReadsClosed [c] [] := fun _ _ hs => hs.step_space hc

theorem readsClosed_punctuation {c : Char} {t : Token} (hc : isSpace c = false ∧ c ≠ '"' ∧ punctuation? c = some t) :
    ReadsClosed [c] [t] := fun _ _ hs => hs.step_punctuation hc

theorem reads_spaces (n : Nat) : Reads (Text.spaces n) [] := by
  induction n with
  | zero => exact Reads.nil
  | succ n ih => exact (readsClosed_space (c := ' ') rfl).reads.append ih

theorem reads_lineStart (indent : Indent) (depth : Nat) : Reads (lineStart indent depth) [] := by
  cases indent with
  | none => exact Reads.nil
  | some n => exact (readsClosed_space (c := '\n') rfl).reads.append (reads_spaces (n * depth))

/-- The line on which a value starts leaves no word open. -/
theorem readsClosed_open (indent : Indent) (depth : Nat) {c : Char} {t : Token}
    (hc : isSpace c = false ∧ c ≠ '"' ∧ punctuation? c = some t) : ReadsClosed (c :: lineStart indent depth) [t] := by
  intro s ts hs
  rw [List.foldl_cons, hs.step_punctuation hc]
  cases indent with
  | none => rfl
  | some n =>
    rw [lineStart, List.foldl_cons, Scanner.Has.step_space (Or.inl rfl) (by rfl)]
    generalize n * depth = k
    induction k with
    | zero => rfl
    | succ k ih => exact ih

theorem readsClosed_separator (indent : Indent) (depth : Nat) : ReadsClosed (separator indent depth) [.comma] := by
  cases indent with
  | none =>
    have hcomma := readsClosed_punctuation (c := ',') ⟨rfl, by decide, rfl⟩
    exact hcomma.reads.append_closed (readsClosed_space (c := ' ') rfl)
  | some n => exact readsClosed_open (some n) depth ⟨rfl, by decide, rfl⟩

/-- A character of which words are made. -/
def isLetter (c : Char) : Bool := !isSpace c && c != '"' && (punctuation? c).isNone

theorem Scanner.foldl_word (rest : List Token) {w : List Char} (hw : ∀ c ∈ w, isLetter c = true) (letters : List Char) :
    w.foldl Scanner.step ⟨rest, .word letters⟩ = ⟨rest, .word (w.reverse ++ letters)⟩ := by
  induction w generalizing letters with
  | nil => rfl
  | cons c w ih =>
    obtain ⟨hc, hw⟩ := List.forall_mem_cons.1 hw
    have hs : Scanner.step ⟨rest, .word letters⟩ c = ⟨rest, .word (c :: letters)⟩ := by
      simp only [isLetter, Bool.and_eq_true, Bool.not_eq_true', bne_iff_ne, Option.isNone_iff_eq_none] at hc
      simp [step, hc.1.1, hc.1.2, hc.2]
    rw [List.foldl_cons, hs, ih hw, List.reverse_cons, List.append_assoc]
    rfl

/-- A word is read as a word. -/
theorem readsBetween_word {w : List Char} (hw : ∀ c ∈ w, isLetter c = true) (hne : w ≠ []) : ReadsBetween w [.word w] := by
  intro ts
  obtain ⟨c, w, rfl⟩ := List.exists_cons_of_ne_nil hne
  obtain ⟨hc, hw⟩ := List.forall_mem_cons.1 hw
  have hs : Scanner.step ⟨ts, .between⟩ c = ⟨ts, .word [c]⟩ := by
    simp only [isLetter, Bool.and_eq_true, Bool.not_eq_true', bne_iff_ne, Option.isNone_iff_eq_none] at hc
    simp [Scanner.step, Scanner.stepBetween, hc.1.1, hc.1.2, hc.2]
  rw [List.foldl_cons, hs, Scanner.foldl_word ts hw]
  exact Or.inr ⟨_, _, rfl, by simp⟩

/-! ## Strings -/

/-- A control character is read back from its code point in hexadecimal digits. -/
theorem Scanner.foldl_control (ts : List Token) (chars : List Char) {n : Nat} (hn : n < 0x20) :
    ('\\' :: 'u' :: hexDigits 4 n).foldl Scanner.step ⟨ts, .string chars⟩ = ⟨ts, .string (Char.ofNat n :: chars)⟩ := by
  interval_cases n <;> rfl

/-- A character of a string is read back, escaped or not. -/
theorem Scanner.foldl_escapeChar (ts : List Token) (chars : List Char) (c : Char) :
    (escapeChar c).foldl Scanner.step ⟨ts, .string chars⟩ = ⟨ts, .string (c :: chars)⟩ := by
  unfold escapeChar
  split
  · subst_vars; rfl
  split
  · subst_vars; rfl
  split
  · subst_vars; rfl
  split
  · subst_vars; rfl
  split
  · subst_vars; rfl
  split
  · subst_vars; rfl
  split
  · subst_vars; rfl
  split
  · rename_i hc
    rw [foldl_control ts chars hc, Char.ofNat_toNat]
  · rename_i hq hb _ _ _ _ _ hc
    simp [step, stepString, hq, hb, hc]

theorem Scanner.foldl_escaped (ts : List Token) (cs chars : List Char) :
    (cs.flatMap escapeChar).foldl Scanner.step ⟨ts, .string chars⟩ = ⟨ts, .string (cs.reverse ++ chars)⟩ := by
  induction cs generalizing chars with
  | nil => rfl
  | cons c cs ih => rw [List.flatMap_cons, List.foldl_append, foldl_escapeChar, ih, List.reverse_cons, List.append_assoc]; rfl

/-- A quote ends a word and opens a string. -/
theorem Scanner.Has.step_quote {s : Scanner} {ts : List Token} (h : s.Has ts) : s.step '"' = ⟨ts, .string []⟩ := by
  rcases h with rfl | ⟨letters, rest, rfl, rfl⟩ <;> rfl

/-- A written string is read as the string. -/
theorem readsClosed_writeString (w : String) : ReadsClosed (writeString w) [.str w] := by
  intro s ts hs
  rw [writeString, List.cons_append, List.foldl_cons, hs.step_quote, List.foldl_append, Scanner.foldl_escaped, List.foldl_cons,
    List.foldl_nil]
  simp [Scanner.step, Scanner.stepString]

/-! ## Values -/

/-- Digits are among the characters of which words are made. -/
theorem isLetter_of_isDigit {c : Char} (h : c.isDigit = true) : isLetter c = true := by
  have hdigit : ∀ n : Nat, 48 ≤ n → n ≤ 57 → isLetter (Char.ofNat n) = true := by
    intro n h1 h2
    interval_cases n <;> rfl
  obtain ⟨h1, h2⟩ : 48 ≤ c.toNat ∧ c.toNat ≤ 57 := by
    simpa [Char.isDigit, UInt32.le_iff_toNat_le] using h
  rw [← Char.ofNat_toNat c]
  exact hdigit c.toNat h1 h2

/-- A written integer is read as a word. -/
theorem readsBetween_decimalInt (n : Int) : ReadsBetween (decimalInt n) [.word (decimalInt n)] := by
  refine readsBetween_word ?_ (decimalInt_ne_nil n)
  intro c hc
  rcases isDigit_or_minus_of_mem_decimalInt hc with h | rfl
  · exact isLetter_of_isDigit h
  · rfl

/-- A key with the colon behind it. -/
theorem reads_key (k : String) : ReadsClosed (writeString k ++ [':', ' ']) [.str k, .colon] :=
  (readsClosed_writeString k).reads.append_closed ((readsClosed_punctuation (c := ':') (t := .colon)
    ⟨rfl, by decide, rfl⟩).reads.append_closed (readsClosed_space (c := ' ') rfl))

theorem reads_layoutItems {indent : Indent} {depth : Nat} {items : List Json}
    (h : ∀ x ∈ items, ReadsBetween (layoutAt indent depth x) x.toTokens) :
    Reads (layoutItems indent depth items) (itemTokens items) := by
  induction items with
  | nil => exact Reads.nil
  | cons x xs ih =>
    obtain ⟨hx, hxs⟩ := List.forall_mem_cons.1 h
    exact ((readsClosed_separator indent depth).append_between hx).append (ih hxs)

theorem reads_layoutMembers {indent : Indent} {depth : Nat} {members : Members}
    (h : ∀ m ∈ members, ReadsBetween (layoutAt indent depth m.2) m.2.toTokens) :
    Reads (layoutMembers indent depth members) (memberTokens members) := by
  induction members with
  | nil => exact Reads.nil
  | cons m ms ih =>
    obtain ⟨hm, hms⟩ := List.forall_mem_cons.1 h
    have hkey := (readsClosed_separator indent depth).reads.append_closed (reads_key m.1)
    have hmember := (hkey.append_between hm).append (ih hms)
    simpa [layoutMembers, memberTokens] using hmember

/-- A value without floats is read as its tokens. -/
theorem readsBetween_layoutAt (indent : Indent) {v : Json} (hv : v.FloatFree) (depth : Nat) :
    ReadsBetween (layoutAt indent depth v) v.toTokens := by
  induction v using nestedInduction generalizing depth with
  | null => exact readsBetween_word (w := "null".toList) (List.all_eq_true.1 rfl) (by simp)
  | bool b =>
    cases b with
    | true => exact readsBetween_word (w := "true".toList) (List.all_eq_true.1 rfl) (by simp)
    | false => exact readsBetween_word (w := "false".toList) (List.all_eq_true.1 rfl) (by simp)
  | int n => exact readsBetween_decimalInt n
  | float x => exact absurd (List.mem_singleton.2 rfl) (hv x)
  | str s => exact (readsClosed_writeString s).reads.between
  | arr items ih =>
    cases items with
    | nil => exact ((readsClosed_punctuation (c := '[') ⟨rfl, by decide, rfl⟩).reads.append
        (readsClosed_punctuation (c := ']') ⟨rfl, by decide, rfl⟩).reads).between
    | cons x xs =>
      have h := fun y hy => ih y hy (floatFree_arr.1 hv y hy) (depth + 1)
      obtain ⟨hx, hxs⟩ := List.forall_mem_cons.1 h
      have hopen := readsClosed_open indent (depth + 1) (c := '[') ⟨rfl, by decide, rfl⟩
      have hclose := (reads_lineStart indent depth).append_closed (readsClosed_punctuation (c := ']') ⟨rfl, by decide, rfl⟩)
      have harray := (((hopen.append_between hx).append (reads_layoutItems hxs)).append hclose.reads).between
      simpa [layoutAt, toTokens] using harray
  | obj members ih =>
    cases members with
    | nil => exact ((readsClosed_punctuation (c := '\x7b') ⟨rfl, by decide, rfl⟩).reads.append
        (readsClosed_punctuation (c := '\x7d') ⟨rfl, by decide, rfl⟩).reads).between
    | cons m ms =>
      have h := fun y hy => ih y hy (floatFree_obj.1 hv y hy) (depth + 1)
      obtain ⟨hm, hms⟩ := List.forall_mem_cons.1 h
      have hopen := (readsClosed_open indent (depth + 1) (c := '\x7b') ⟨rfl, by decide, rfl⟩).reads.append_closed
        (reads_key m.1)
      have hclose := (reads_lineStart indent depth).append_closed
        (readsClosed_punctuation (c := '\x7d') ⟨rfl, by decide, rfl⟩)
      have hobject := (((hopen.append_between hm).append (reads_layoutMembers hms)).append hclose.reads).between
      simpa [layoutAt, toTokens] using hobject

/-- A boundary at the end of the text is the end of its last token. -/
theorem Scanner.Has.finish {s : Scanner} {ts : List Token} (h : s.Has ts) : s.finish = ts.reverse := by
  rcases h with rfl | ⟨letters, rest, rfl, rfl⟩ <;> rfl

/-! ## Statements -/

/-- The text of a value without floats is cut into the tokens of the value, whatever the indentation. -/
theorem tokens_layout (indent : Indent) {v : Json} (hv : v.FloatFree) : tokens (v.layout indent) = v.toTokens := by
  have h := (readsBetween_layoutAt indent hv 0 []).finish
  rw [List.append_nil, List.reverse_reverse] at h
  exact h

end Json
end OrgOutline
