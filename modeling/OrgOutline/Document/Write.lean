import OrgOutline.Heading.Write

/-!
# Writing documents

A document is written as its preamble and then its headings in order. The preamble holds the configuration lines, the lines
that declare keywords unless the first set of keywords is built in, and the lines before the first heading; it is empty or
ends with a newline.
-/

namespace OrgOutline
namespace Document

/-- Whether the keywords of the document need no declaration. -/
def usesBuiltInKeywords (d : Document) : Bool :=
  match d.keywordSets with
  | [] => true
  | k :: _ => k.builtIn.isSet

/-- Lines with a newline behind each, nothing where there is no line; all of them must be strings. -/
def closedLines (ls : List Json) : Except Fault Text :=
  if ls.isEmpty then .ok [] else (Json.join ['\n'] ls).map (· ++ ['\n'])

/-- The lines that declare the keywords of the document. -/
def keywordLines (d : Document) : List Json := if d.usesBuiltInKeywords then [] else d.keywordSets.map KeywordSet.line

/-- What stands before the first heading. -/
def preamble (d : Document) : Except Fault Text := do
  let config ← closedLines d.configLines
  let keywords ← closedLines d.keywordLines
  let first ← Json.join ['\n'] d.firstLines
  let text := config ++ keywords ++ first
  .ok (if text.isEmpty then [] else text ++ ['\n'])

end Document

/-- Writes headings one after another. -/
def writeHeadings (s : Setup) : List Heading → Run Text
  | [] => pure []
  | h :: hs => do
    let text ← h.write s true .null
    let rest ← writeHeadings s hs
    pure (text ++ rest)

/-- Writes a document. -/
def Document.write (s : Setup) (d : Document) : Run Text := do
  .note (.documentBegun d.headings.length d.firstLines.length)
  let preamble ← .ofExcept d.preamble
  let headings ← writeHeadings s d.headings
  pure (preamble ++ headings)

end OrgOutline
