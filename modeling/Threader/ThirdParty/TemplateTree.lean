import Threader.ThirdParty.Mustache

/-! What a template means: a tree that is made of it once, and what the tree amounts to. -/

universe u

namespace Threader.Mustache

open QString (ofAscii)

/-- A part of a template. -/
inductive Node
  | text (text : QString)
  | value (escapeMode : EscapeMode) (key : QString)
  /-- A section, with the text that callables are given. -/
  | block (key source : QString) (body : List Node)
  | inverted (key : QString) (body : List Node)
  | included (key : QString)
  /-- Nothing is rendered from here on. -/
  | failure (error : QString) (pos : Nat)

/-- The tags in front of the end of a section, its end tag, and the tags behind it. -/
def splitSection : Nat → List Tag → Option (List Tag × Tag × List Tag)
  | _, [] => none
  | depth, tag :: tags =>
    match tag.type with
    | .sectionStart | .invertedSectionStart =>
      (splitSection (depth + 1) tags).map fun split => (tag :: split.1, split.2)
    | .sectionEnd =>
      match depth with
      | 0 => some ([], tag, tags)
      | depth + 1 => (splitSection depth tags).map fun split => (tag :: split.1, split.2)
    | _ => (splitSection depth tags).map fun split => (tag :: split.1, split.2)

/-- A section ends at one of the tags behind its start. -/
theorem splitSection_eq {depth : Nat} {tags inner rest : List Tag} {endTag : Tag}
    (split : splitSection depth tags = some (inner, endTag, rest)) :
    tags = inner ++ endTag :: rest := by
  induction tags generalizing depth inner with
  | nil => cases split
  | cons tag tags ih =>
    have further {deeper : Nat}
        (split : (splitSection deeper tags).map (fun split => (tag :: split.1, split.2)) =
          some (inner, endTag, rest)) : tag :: tags = inner ++ endTag :: rest := by
      obtain ⟨⟨inside, _, _⟩, found, same⟩ := Option.map_eq_some_iff.mp split
      cases same
      rw [List.cons_append, ← ih found]
    unfold splitSection at split
    split at split
    · exact further split
    · exact further split
    · split at split
      · cases split
        rfl
      · exact further split
    · exact further split

/-- The error of a section that does not end. -/
def noEndTagError : TagType → QString
  | .invertedSectionStart => ofAscii "No matching end tag found for inverted section"
  | _ => ofAscii "No matching end tag found for section"

/-- The node of a section from one tag to another. -/
def sectionNode (content : QString) (startTag endTag : Tag) (body : List Node) : Node :=
  match startTag.type with
  | .invertedSectionStart => .inverted startTag.key body
  | _ => .block startTag.key (midRef content startTag.stop endTag.start) body

/-- The nodes between two positions of a text, with the tags that stand there. -/
def parse (content : QString) (pos endPos : Nat) (tags : List Tag) : List Node :=
  match tags with
  | [] => [.text (midRef content pos endPos)]
  | tag :: tags =>
    .text (midRef content pos tag.start) ::
      match tag.type with
      | .value => .value tag.escapeMode tag.key :: parse content tag.stop endPos tags
      | .sectionStart | .invertedSectionStart =>
        match _split : splitSection 0 tags with
        | none => [.failure (noEndTagError tag.type) tag.start]
        | some (inner, endTag, rest) =>
          if endTag.key = tag.key then
            sectionNode content tag endTag (parse content tag.stop endTag.start inner) ::
              parse content endTag.stop endPos rest
          else [.failure (ofAscii "Tag start/end key mismatch") endTag.start]
      | .sectionEnd => [.failure (ofAscii "Unexpected end tag") tag.start]
      | .partialTag => .included tag.key :: parse content tag.stop endPos tags
      | .comment | .setDelimiter => parse content tag.stop endPos tags
termination_by tags.length
decreasing_by
  all_goals
    first
      | simp only [List.length_cons]; omega
      | simp only [splitSection_eq _split, List.length_append, List.length_cons]; omega

/-- The tags of a text from a position on, as long as there is fuel. -/
def Markers.tagsFrom (markers : Markers) (content : QString) (endPos : Nat) : Nat → Nat → List Tag
  | 0, _ => []
  | fuel + 1, pos =>
    match markers.findTag content pos endPos with
    | none => []
    | some tag => tag :: tagsFrom markers content endPos fuel tag.stop

/-- The tags of a template. -/
def Markers.tags (markers : Markers) (template : QString) : List Tag :=
  markers.tagsFrom template template.length (template.length + 2) 0

/-- The tree of a template. -/
def Markers.tree (markers : Markers) (template : QString) : List Node :=
  parse template 0 template.length (markers.tags template)

/-- An error of a template. -/
structure RenderError where
  error : QString
  errorPos : Nat
  errorPartial : QString
deriving DecidableEq

/-- What a template amounts to: a text, and the error that it ends with. -/
structure Outcome where
  output : QString
  error : Option RenderError
deriving DecidableEq

namespace Outcome

/-- A text without an error. -/
def plain (output : QString) : Outcome := ⟨output, none⟩

/-- What follows an error amounts to nothing. -/
def andThen (first : Outcome) (rest : Option Outcome) : Option Outcome :=
  if first.error.isSome then some first
  else rest.map fun rest => ⟨first.output ++ rest.output, rest.error⟩

/-- One thing after another. -/
def each {α : Type u} (items : List α) (outcome : α → Option Outcome) : Option Outcome :=
  items.foldr (fun item rest => (outcome item).bind fun first => first.andThen rest) (some (plain []))

end Outcome

section Meaning

variable {γ : Type u} [Context γ]

mutual

/-- What a node amounts to, in terms of what other templates do. -/
def Node.meaning (included : QString → γ → Option Outcome) (partialName : QString) :
    Node → γ → Option Outcome
  | .text text, _ => some (.plain text)
  | .value escapeMode key, context => some (.plain (escapeMode.apply (Context.stringValue context key)))
  | .block key source body, context =>
    if 0 < Context.listCount context key then
      Outcome.each (List.range (Context.listCount context key)) fun index =>
        meanings included partialName body (Context.push context key (some index))
    else if Context.canEval context key then some (.plain (Context.eval context key source))
    else if Context.isFalse context key then some (.plain [])
    else meanings included partialName body (Context.push context key none)
  | .inverted key body, context =>
    if Context.isFalse context key then meanings included partialName body context
    else some (.plain [])
  | .included key, context => included key context
  | .failure error pos, _ => some ⟨[], some ⟨error, pos, partialName⟩⟩

/-- What nodes amount to, up to the first error. -/
def meanings (included : QString → γ → Option Outcome) (partialName : QString) :
    List Node → γ → Option Outcome
  | [], _ => some (.plain [])
  | node :: nodes, context =>
    (node.meaning included partialName context).bind fun first =>
      first.andThen (meanings included partialName nodes context)

end

/-- What a template amounts to, where templates include each other to some depth only. -/
def Markers.meaning (markers : Markers) : Nat → QString → QString → γ → Option Outcome
  | 0, _, _, _ => none
  | depth + 1, partialName, template, context =>
    meanings (fun key context => markers.meaning depth key (Context.partialValue context key) context)
      partialName (markers.tree template) context

end Meaning

end Threader.Mustache
