import OrgOutline.Json.Same
import OrgOutline.Record.Basic

/-!
# When two records are the same

Two records are the same when they are of one kind and their fields are the same, where values are compared as in
`Json.same`: the order of keys and the spelling of numbers do not count.
-/

namespace OrgOutline

/-- Whether two timestamps are the same field by field. -/
def Timestamp.same (t u : Timestamp) : Bool := Json.sameMembers t.fields u.fields

/-- Whether two timestamps that may be absent are the same. -/
def sameOptionalTimestamp : Option Timestamp → Option Timestamp → Bool
  | none, none => true
  | some t, some u => t.same u
  | _, _ => false

/-- Whether two titles are the same. -/
def Title.same (t u : Title) : Bool :=
  t.text.same u.text && t.keyword.same u.keyword && Json.sameItems t.tags u.tags

/-- Whether two planning entries are the same. -/
def PlanningEntry.same (i j : PlanningEntry) : Bool := i.kind.same j.kind && i.timestamp.same j.timestamp

/-- Whether two entries of logbooks are the same. -/
def LogEntry.same : LogEntry → LogEntry → Bool
  | .line s, .line t => s.same t
  | .clock a b, .clock c d => a.same c && sameOptionalTimestamp b d
  | _, _ => false

/-- Whether two sets of keywords are the same. -/
def KeywordSet.same (k l : KeywordSet) : Bool :=
  Json.sameItems k.keywords l.keywords && k.line.same l.line && k.builtIn.same l.builtIn

/-- Whether two lists agree in length and element by element. -/
def sameLists {α : Type} (same : α → α → Bool) : List α → List α → Bool
  | [], [] => true
  | x :: xs, y :: ys => same x y && sameLists same xs ys
  | _, _ => false

mutual
/-- Whether two records are the same. -/
def Record.same : Record → Record → Bool
  | .text a, .text b => a.same b
  | .link a b, .link c d => a.same c && b.same d
  | .fraction a b, .fraction c d => a.same c && b.same d
  | .percentage a, .percentage b => a.same b
  | .table a, .table b => sameRows a b
  | .list a b c d, .list a' b' c' d' => sameListItems a a' && b.same b' && c.same c' && d.same d'
  | .stamp a b, .stamp c d => a.same c && sameOptionalTimestamp b d
  | .bareLink k a, .bareLink l b => k == l && a.same b
  | .unrecognized k a, .unrecognized l b => k.same l && a.length == b.length && Json.sameMembers a b
  | .timestamp a, .timestamp b => a.same b
  | .listItem a, .listItem b => a.same b
  | .row a, .row b => sameCells a b
  | .cell a, .cell b => a.same b
  | .title a, .title b => a.same b
  | .planning a, .planning b => a.same b
  | .property a, .property b => a.same b
  | .logEntry a, .logEntry b => a.same b
  | .heading a, .heading b => a.same b
  | .keywordSet a, .keywordSet b => a.same b
  | .document a, .document b => a.same b
  | _, _ => false
termination_by structural x => x

/-- Whether two items of lists are the same. -/
def Item.same : Item → Item → Bool
  | ⟨a, b, c, d, e⟩, ⟨a', b', c', d', e'⟩ => sameParts a a' && sameParts b b' && c.same c' && d == d' && e.same e'
termination_by structural x => x

/-- Whether two cells are the same. -/
def Cell.same : Cell → Cell → Bool
  | ⟨a, b⟩, ⟨c, d⟩ => sameParts a c && b.same d
termination_by structural x => x

/-- Whether two properties are the same. -/
def Property.same : Property → Property → Bool
  | ⟨a, b⟩, ⟨c, d⟩ => a.same c && sameParts b d
termination_by structural x => x

/-- Whether two headings are the same. -/
def Heading.same : Heading → Heading → Bool
  | ⟨a, b, c, d, e, f, g⟩, ⟨a', b', c', d', e', f', g'⟩ =>
    a.same a' && b.same b' && sameLists PlanningEntry.same c c' && sameProperties d d' && sameLists LogEntry.same e e' &&
      f.same f' && sameParts g g'
termination_by structural x => x

/-- Whether two documents are the same. -/
def Document.same : Document → Document → Bool
  | ⟨a, b, c, d⟩, ⟨a', b', c', d'⟩ =>
    sameHeadings a a' && sameLists KeywordSet.same b b' && Json.sameItems c c' && Json.sameItems d d'
termination_by structural x => x

/-- Whether two running texts are the same part by part. -/
def sameParts : List Record → List Record → Bool
  | [], [] => true
  | x :: xs, y :: ys => x.same y && sameParts xs ys
  | _, _ => false
termination_by structural x => x

/-- Whether two lists of items are the same. -/
def sameListItems : List Item → List Item → Bool
  | [], [] => true
  | x :: xs, y :: ys => x.same y && sameListItems xs ys
  | _, _ => false
termination_by structural x => x

/-- Whether the rows of two tables are the same. -/
def sameRows : List (List Cell) → List (List Cell) → Bool
  | [], [] => true
  | x :: xs, y :: ys => sameCells x y && sameRows xs ys
  | _, _ => false
termination_by structural x => x

/-- Whether the cells of two rows are the same. -/
def sameCells : List Cell → List Cell → Bool
  | [], [] => true
  | x :: xs, y :: ys => x.same y && sameCells xs ys
  | _, _ => false
termination_by structural x => x

/-- Whether two lists of properties are the same. -/
def sameProperties : List Property → List Property → Bool
  | [], [] => true
  | x :: xs, y :: ys => x.same y && sameProperties xs ys
  | _, _ => false
termination_by structural x => x

/-- Whether two lists of headings are the same. -/
def sameHeadings : List Heading → List Heading → Bool
  | [], [] => true
  | x :: xs, y :: ys => x.same y && sameHeadings xs ys
  | _, _ => false
termination_by structural x => x
end

end OrgOutline
