import OrgOutline.Json.Operation
import OrgOutline.Record.Basic

/-!
# The line of a heading

A heading starts with as many stars as its level says, then its keyword if one is set, its title, and its tags with colons
around them. Empty tags are left out. Without the stars the space in front of the keyword or the title goes as well.
-/

namespace OrgOutline

namespace Title

/-- The keyword behind a space, if it is set. -/
def keywordText (t : Title) : Text := if t.keyword.isSet then ' ' :: t.keyword.shown else []

/-- The tags that are not empty. -/
def visibleTags (t : Title) : List Json := t.tags.filter Json.isSet

/-- The tags with colons around them; nothing where there is no tag. -/
def tagText (t : Title) : Except Fault Text :=
  if t.tags.isEmpty then .ok []
  else (Json.join [':'] t.visibleTags).map (fun tags => ':' :: tags ++ [':'])

/-- Keyword, title and tags, with a space in front. -/
def spacedText (t : Title) : Except Fault Text := do
  Json.checkShown [t.keyword, t.text]
  let tags ← t.tagText
  .ok (t.keywordText ++ ' ' :: t.text.shown ++ tags)

end Title

namespace Heading

/-- The stars of a heading. -/
def stars (h : Heading) : Except Fault Text := h.level.toCount.map (fun n => List.replicate n '*')

/-- The line of a heading. -/
def line (h : Heading) : Except Fault Text := do
  let stars ← h.stars
  let text ← h.title.spacedText
  .ok (stars ++ text)

/-- The line of a heading without its stars and the space behind them. -/
def bareLine (h : Heading) : Except Fault Text := h.title.spacedText.map (List.drop 1)

end Heading
end OrgOutline
