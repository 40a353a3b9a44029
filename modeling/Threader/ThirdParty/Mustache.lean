import Threader.Base.Replacing
import Threader.Base.Searching
import Threader.Qt.Text

/-! The template engine `mustache`: its contexts, its tags, and the renderer. -/

universe u

namespace Threader.Mustache

open QString (ofAscii)
open Searching (findRunFrom)

/-- `QChar::isSpace`. -/
def isSpace (unit : UInt16) : Bool :=
  unit == 0x20 || 0x09 ≤ unit && unit ≤ 0x0D || unit == 0x85 || unit == 0xA0 || unit == 0x1680 ||
    0x2000 ≤ unit && unit ≤ 0x200A || unit == 0x2028 || unit == 0x2029 || unit == 0x202F ||
    unit == 0x205F || unit == 0x3000

/-- `content.at(pos)`, which is the terminating NUL at the very end. -/
def unitAt (content : QString) (pos : Nat) : UInt16 := content.getD pos 0

/-- `content.midRef(from, to - from)`: everything from a place, where the length is negative. -/
def midRef (content : QString) (start stop : Nat) : QString :=
  if stop < start then content.drop start else (content.drop start).take (stop - start)

/-- The replacement of a character in `escapeHtml`. -/
def escapeUnit (unit : UInt16) : QString :=
  if unit = 0x26 then ofAscii "&amp;"
  else if unit = 0x3C then ofAscii "&lt;"
  else if unit = 0x3E then ofAscii "&gt;"
  else if unit = 0x22 then ofAscii "&quot;"
  else [unit]

/-- `escapeHtml(input)`. -/
def escapeHtml (input : QString) : QString := input.flatMap escapeUnit

/-- `unescapeHtml(escaped)`. -/
def unescapeHtml (escaped : QString) : QString :=
  Replacing.replaceEach [(ofAscii "&lt;", ofAscii "<"), (ofAscii "&gt;", ofAscii ">"),
    (ofAscii "&quot;", ofAscii "\""), (ofAscii "&amp;", ofAscii "&")] escaped

/-- What the renderer asks of a `Context`. Leaving a context gives back the one that was entered. -/
class Context (γ : Type u) where
  stringValue : γ → QString → QString
  isFalse : γ → QString → Bool
  listCount : γ → QString → Nat
  /-- `push(key, index)`, without an index for `-1`. -/
  push : γ → QString → Option Nat → γ
  canEval : γ → QString → Bool
  /-- `eval(key, _template, renderer)`, of callables that leave the renderer alone. -/
  eval : γ → QString → QString → QString
  partialValue : γ → QString → QString

/-- `Tag::Type` without `Null`, for which there is no tag. -/
inductive TagType
  | value
  | sectionStart
  | invertedSectionStart
  | sectionEnd
  | partialTag
  | comment
  | setDelimiter
deriving DecidableEq

/-- `Tag::EscapeMode`. -/
inductive EscapeMode
  | escape
  | unescape
  | raw
deriving DecidableEq

/-- `Tag`. -/
structure Tag where
  type : TagType
  key : QString
  start : Nat
  stop : Nat
  escapeMode : EscapeMode
deriving DecidableEq

/-- The markers that tags stand between. -/
structure Markers where
  tagStart : QString
  tagEnd : QString
deriving DecidableEq

/-- `Renderer`, with no position of an error for `-1`. -/
structure Renderer where
  partialStack : List QString
  error : QString
  errorPos : Option Nat
  errorPartial : QString
  markers : Markers
  defaultMarkers : Markers
deriving DecidableEq

/-- `Renderer()`. -/
def Renderer.create : Renderer where
  partialStack := []
  error := []
  errorPos := none
  errorPartial := []
  markers := ⟨[], []⟩
  defaultMarkers := ⟨ofAscii "\x7b\x7b", ofAscii "\x7d\x7d"⟩

/-- `setError(error, pos)`. -/
def Renderer.setError (renderer : Renderer) (error : QString) (pos : Nat) : Renderer :=
  { renderer with
    error := error
    errorPos := some pos
    errorPartial := renderer.partialStack.headD renderer.errorPartial }

/-- The position behind the spaces at a position. -/
def skipSpaces (content : QString) (pos : Nat) : Nat :=
  pos + ((content.drop pos).takeWhile isSpace).length

/-- What is in front of the next space, and of the end of a tag. -/
def wordAt (content : QString) (pos endPos : Nat) : QString :=
  ((content.take endPos).drop pos).takeWhile fun unit => !isSpace unit

/-- `readTagName(content, pos, endPos)`. -/
def readTagName (content : QString) (pos endPos : Nat) : QString :=
  wordAt content (skipSpaces content pos) endPos

/-- `readSetDelimiter(content, pos, endPos)`. -/
def Renderer.readSetDelimiter (renderer : Renderer) (content : QString) (pos endPos : Nat) :
    Renderer :=
  -- Either marker is searched for an equals sign, and the first one found is the error.
  let message := ofAscii "Custom delimiters may not contain '='."
  let startPos := skipSpaces (content.take endPos) pos
  let startMarker := wordAt content startPos endPos
  match startMarker.findIdx? (· == 0x3D) with
  | some index => renderer.setError message (startPos + index)
  | none =>
    -- The second marker ends in front of the equals sign that closes the tag.
    let stopPos := skipSpaces (content.take endPos) (startPos + startMarker.length)
    let endMarker := wordAt content stopPos (endPos - 1)
    match endMarker.findIdx? (· == 0x3D) with
    | some index => renderer.setError message (stopPos + index)
    | none => { renderer with markers := ⟨startMarker, endMarker⟩ }

/-- The first loop of `expandTag`: back to the beginning of a line, over spaces only. -/
def lineStart (content : QString) : Nat → Option Nat
  -- The beginning of the text is the beginning of a line too.
  | 0 => some 0
  | start + 1 =>
    if unitAt content start = 0x0A then some (start + 1)
    else if isSpace (unitAt content start) then lineStart content start
    else none

/-- The second loop of `expandTag`: one past the end of a line, over spaces only. -/
def lineEnd (content : QString) : Nat → Nat → Option Nat
  -- The loop is left at the end of the text, one turn behind the last character.
  | 0, stop => some stop
  | turns + 1, stop =>
    if unitAt content (stop - 1) = 0x0A then some stop
    else if stop < content.length ∧ ¬ isSpace (unitAt content stop) then none
    else lineEnd content turns (stop + 1)

/-- `expandTag(tag, content)`: a tag that stands alone on its line takes up the whole line. -/
def expandTag (tag : Tag) (content : QString) : Tag :=
  match lineStart content tag.start, lineEnd content (content.length + 1 - tag.stop) tag.stop with
  | some start, some stop => { tag with start := start, stop := stop }
  | _, _ => tag

/-- The type of the tags that a character in front of their name stands for. -/
def namedTagType (typeChar : UInt16) : Option TagType :=
  if typeChar = 0x23 then some .sectionStart
  else if typeChar = 0x5E then some .invertedSectionStart
  else if typeChar = 0x2F then some .sectionEnd
  else if typeChar = 0x3E then some .partialTag
  else none

/-- A value tag whose name stands between two positions. -/
def valueTag (escapeMode : EscapeMode) (content : QString) (start stop pos endPos : Nat) : Tag :=
  ⟨.value, readTagName content pos endPos, start, stop, escapeMode⟩

/-- The part of `findTag` that reads the tag between two markers. -/
def readTag (markers : Markers) (content : QString) (tagStartPos endPos : Nat) : Tag :=
  let pos := tagStartPos + markers.tagStart.length
  let tagEndPos := endPos + markers.tagEnd.length
  let typeChar := unitAt content pos
  match namedTagType typeChar with
  | some type =>
    -- Sections, ends of sections and partials are named behind their character.
    expandTag ⟨type, readTagName content (pos + 1) endPos, tagStartPos, tagEndPos, .escape⟩ content
  | none =>
    -- Comments and changes of the markers have no name.
    if typeChar = 0x21 then expandTag ⟨.comment, [], tagStartPos, tagEndPos, .escape⟩ content
    else if typeChar = 0x3D then
      expandTag ⟨.setDelimiter, [], tagStartPos, tagEndPos, .escape⟩ content
    else if typeChar = 0x26 then
      valueTag .unescape content tagStartPos tagEndPos (pos + 1) endPos
    else if typeChar = 0x7B then
      -- A third brace belongs to the tag, and one in front of the marker ends the name.
      let endTache := findRunFrom [0x7D] content (pos + 1)
      if endTache = some endPos then
        valueTag .raw content tagStartPos (tagEndPos + 1) (pos + 1) endPos
      else valueTag .raw content tagStartPos tagEndPos (pos + 1) (endTache.getD 0)
    else valueTag .escape content tagStartPos tagEndPos pos endPos

/-- What `findTag` finds with the present markers. -/
def Markers.findTag (markers : Markers) (content : QString) (pos endPos : Nat) : Option Tag :=
  match findRunFrom markers.tagStart content pos with
  | none => none
  | some tagStartPos =>
    -- A tag that begins behind the part that is rendered is not looked at.
    if endPos ≤ tagStartPos then none
    else
      match findRunFrom markers.tagEnd content (tagStartPos + markers.tagStart.length) with
      | none => none
      | some tagEndPos => some (readTag markers content tagStartPos tagEndPos)

/-- What `findTag` does to the markers on the way. -/
def Renderer.readDelimiterAt (renderer : Renderer) (content : QString) (pos : Nat) : Renderer :=
  match findRunFrom renderer.markers.tagStart content pos with
  | none => renderer
  | some tagStartPos =>
    let inside := tagStartPos + renderer.markers.tagStart.length
    match findRunFrom renderer.markers.tagEnd content inside with
    | none => renderer
    | some tagEndPos => renderer.readSetDelimiter content (inside + 1) tagEndPos

/-- `findTag(content, pos, endPos)`. -/
def Renderer.findTag (renderer : Renderer) (content : QString) (pos endPos : Nat) :
    Option Tag × Renderer :=
  match renderer.markers.findTag content pos endPos with
  | none => (none, renderer)
  | some tag =>
    (some tag, if tag.type = .setDelimiter then renderer.readDelimiterAt content pos else renderer)

/-- `findEndTag(content, startTag, endPos)` from a position on, at a depth below the section's. -/
def Renderer.findEndTag : Nat → Renderer → QString → Tag → Nat → Nat → Nat →
    Option (Option Tag × Renderer)
  | 0, _, _, _, _, _, _ => none
  | fuel + 1, renderer, content, startTag, depth, pos, endPos =>
    match renderer.findTag content pos endPos with
    | (none, renderer) => some (none, renderer)
    | (some nextTag, renderer) =>
      match nextTag.type with
      | .sectionStart | .invertedSectionStart =>
        -- An inner section has to end before this one does.
        renderer.findEndTag fuel content startTag (depth + 1) nextTag.stop endPos
      | .sectionEnd =>
        match depth with
        | 0 =>
          -- Only at the depth of the section itself are the names compared.
          if nextTag.key = startTag.key then some (some nextTag, renderer)
          else some (none, renderer.setError (ofAscii "Tag start/end key mismatch") nextTag.start)
        | depth + 1 => renderer.findEndTag fuel content startTag depth nextTag.stop endPos
      | _ => renderer.findEndTag fuel content startTag depth nextTag.stop endPos

/-- What stands for the value of a tag. -/
def EscapeMode.apply : EscapeMode → QString → QString
  | .escape, value => escapeHtml value
  | .unescape, value => unescapeHtml value
  | .raw, value => value

/-- The error of a section without an end, unless another one was found while looking for it. -/
def Renderer.noEndTag (renderer : Renderer) (error : QString) (pos : Nat) : Renderer :=
  if renderer.errorPos.isSome then renderer else renderer.setError error pos

@[simp] theorem Renderer.noEndTag_setError (renderer : Renderer) (error other : QString)
    (pos otherPos : Nat) :
    (renderer.setError error pos).noEndTag other otherPos = renderer.setError error pos := rfl

variable {γ : Type u} [Context γ]

/-- The loop of `render(_template, startPos, endPos, context)` from the end of a tag on. -/
def Renderer.renderFrom : Nat → Renderer → QString → Nat → Nat → γ → Option (QString × Renderer)
  | 0, _, _, _, _, _ => none
  | fuel + 1, renderer, content, lastTagEnd, endPos, context =>
    -- Nothing is rendered behind an error.
    if renderer.errorPos.isSome then some ([], renderer)
    else
      match renderer.findTag content lastTagEnd endPos with
      -- Behind the last tag the text is taken as it is.
      | (none, renderer) => some (midRef content lastTagEnd endPos, renderer)
      | (some tag, renderer) => do
        let (value, renderer, lastTagEnd') ←
          match tag.type with
          | .value =>
            some (tag.escapeMode.apply (Context.stringValue context tag.key), renderer, tag.stop)
          | .sectionStart => do
            let (endTag, renderer) ← renderer.findEndTag fuel content tag 0 tag.stop endPos
            match endTag with
            | none =>
              some ([], renderer.noEndTag (ofAscii "No matching end tag found for section") tag.start,
                lastTagEnd)
            | some endTag =>
              let (value, renderer) ← (
                -- A list has the section once for each item, and another true value has it once.
                -- Callables are given its source.
                if 0 < Context.listCount context tag.key then
                  (List.range (Context.listCount context tag.key)).foldlM
                    (fun (rendered : QString × Renderer) index => do
                      let (value, renderer) ← rendered.2.renderFrom fuel content tag.stop
                        endTag.start (Context.push context tag.key (some index))
                      some (rendered.1 ++ value, renderer))
                    ([], renderer)
                else if Context.canEval context tag.key then
                  some (Context.eval context tag.key (midRef content tag.stop endTag.start), renderer)
                else if Context.isFalse context tag.key then some ([], renderer)
                else
                  renderer.renderFrom fuel content tag.stop endTag.start
                    (Context.push context tag.key none))
              some (value, renderer, endTag.stop)
          | .invertedSectionStart => do
            let (endTag, renderer) ← renderer.findEndTag fuel content tag 0 tag.stop endPos
            match endTag with
            | none =>
              some ([], renderer.noEndTag
                (ofAscii "No matching end tag found for inverted section") tag.start, lastTagEnd)
            | some endTag =>
              let (value, renderer) ← (
                -- An inverted section is rendered without entering its value.
                if Context.isFalse context tag.key then
                  renderer.renderFrom fuel content tag.stop endTag.start context
                else some ([], renderer))
              some (value, renderer, endTag.stop)
          | .sectionEnd =>
            some ([], renderer.setError (ofAscii "Unexpected end tag") tag.start, tag.stop)
          | .partialTag => do
            let partialTemplate := Context.partialValue context tag.key
            -- The markers of the partial are the default ones, and ours are put back behind it.
            let (value, rendered) ← { renderer with
              markers := renderer.defaultMarkers
              partialStack := tag.key :: renderer.partialStack }.renderFrom fuel partialTemplate 0
                partialTemplate.length context
            some (value, { rendered with
              markers := renderer.markers, partialStack := renderer.partialStack }, tag.stop)
          -- `findTag` has changed the markers already.
          | .comment | .setDelimiter => some ([], renderer, tag.stop)
        let (rest, renderer) ← renderer.renderFrom fuel content lastTagEnd' endPos context
        some (midRef content lastTagEnd tag.start ++ value ++ rest, renderer)

/-- What `render` starts with. -/
def Renderer.cleared (renderer : Renderer) : Renderer :=
  { renderer with
    error := [], errorPos := none, errorPartial := [], markers := renderer.defaultMarkers }

/-- `render(_template, context)`. -/
def Renderer.render (fuel : Nat) (renderer : Renderer) (template : QString) (context : γ) :
    Option (QString × Renderer) :=
  renderer.cleared.renderFrom fuel template 0 template.length context

end Threader.Mustache
