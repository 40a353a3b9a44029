import Threader.ThirdParty.QtVariantContext
import Threader.ThirdParty.TagPositions
import Threader.ThirdParty.TemplateTree

/-! The renderer, which reads a section again whenever it renders it, renders what the tree means. -/

universe u

namespace Threader.Mustache

open QString (ofAscii)

section Scanning

variable {markers : Markers} {content : QString} {endPos pos : Nat}

/-- The tags between two positions, as `findTag` finds them one behind the other. -/
inductive Scans (markers : Markers) (content : QString) (endPos : Nat) : Nat → List Tag → Prop
  | done {pos : Nat} (absent : markers.findTag content pos endPos = none) :
    Scans markers content endPos pos []
  | found {pos : Nat} {tag : Tag} {tags : List Tag}
    (first : markers.findTag content pos endPos = some tag)
    (rest : Scans markers content endPos tag.stop tags) :
    Scans markers content endPos pos (tag :: tags)

/-- There is fuel enough for the tags of a text. -/
theorem scans_tagsFrom (fit : markers.Fit) {fuel : Nat} (enough : content.length + 1 < fuel + pos) :
    Scans markers content endPos pos (markers.tagsFrom content endPos fuel pos) := by
  induction fuel generalizing pos with
  | zero => exact .done (findTag_behind (by omega))
  | succ fuel ih =>
    rw [Markers.tagsFrom]
    cases found : markers.findTag content pos endPos with
    | none => exact .done found
    | some tag =>
      obtain ⟨place, behind, _, located⟩ := located_of_findTag fit found
      have progress := located.lt_stop
      exact .found found (ih (by omega))

/-- No tag reaches back to what is in front of the position. -/
theorem Scans.le_start (fit : markers.Fit) {tags : List Tag}
    (scan : Scans markers content endPos pos tags) (barrier : Barrier content pos) :
    ∀ tag ∈ tags, pos ≤ tag.start := by
  induction scan with
  | done => simp
  | found first rest ih =>
    obtain ⟨place, behind, _, located⟩ := located_of_findTag fit first
    have progress := located.lt_stop
    refine List.forall_mem_cons.mpr ⟨located.le_start barrier behind, fun tag member => ?_⟩
    have later := ih located.barrier tag member
    omega

/-- The tags in front of another one are those that are found up to where that one begins. -/
theorem Scans.upto (fit : markers.Fit) {inner rest : List Tag} {endTag : Tag}
    (scan : Scans markers content endPos pos (inner ++ endTag :: rest))
    (barrier : Barrier content pos) : Scans markers content endTag.start pos inner := by
  induction inner generalizing pos with
  | nil =>
    obtain _ | ⟨first, _⟩ := scan
    obtain ⟨place, stop, starts, early, ends, read⟩ := findTag_eq_some.mp first
    have located := located_readTag fit (Searching.findRunFrom_spec ends).1
      (Searching.findRunFrom_spec ends).2
    rw [← read] at located
    -- The end tag itself begins too late.
    refine .done ?_
    rw [findTag_upto first starts, if_pos located.start_le]
  | cons tag inner ih =>
    obtain _ | ⟨first, others⟩ := scan
    obtain ⟨place, stop, starts, early, ends, read⟩ := findTag_eq_some.mp first
    have located := located_readTag fit (Searching.findRunFrom_spec ends).1
      (Searching.findRunFrom_spec ends).2
    rw [← read] at located
    have inFront := others.le_start fit located.barrier endTag (by simp)
    have progress := located.lt_stop
    have late : ¬ endTag.start ≤ place := by omega
    refine .found ?_ (ih others located.barrier)
    rw [findTag_upto first starts, if_neg late]

/-- The tags behind another one are found from where that one ends, with nothing in between. -/
theorem Scans.behind (fit : markers.Fit) {inner rest : List Tag} {endTag : Tag}
    (scan : Scans markers content endPos pos (inner ++ endTag :: rest)) :
    Scans markers content endPos endTag.stop rest ∧ Barrier content endTag.stop := by
  induction inner generalizing pos with
  | nil =>
    obtain _ | ⟨first, others⟩ := scan
    obtain ⟨_, _, _, located⟩ := located_of_findTag fit first
    exact ⟨others, located.barrier⟩
  | cons tag inner ih =>
    obtain _ | ⟨_, others⟩ := scan
    exact ih others

end Scanning

/-- A renderer after something was rendered. -/
def Renderer.after (renderer : Renderer) (outcome : Outcome) : Renderer :=
  match outcome.error with
  | none => renderer
  | some failure =>
    { renderer with
      error := failure.error
      errorPos := some failure.errorPos
      errorPartial := failure.errorPartial }

/-- Nothing has gone wrong so far. -/
structure Renderer.Faultless (renderer : Renderer) : Prop where
  errorPos : renderer.errorPos = none
  errorPartial : renderer.errorPartial = []

/-- The partial template that is being rendered. -/
def Renderer.partialName (renderer : Renderer) : QString := renderer.partialStack.headD []

/-- No tag changes the markers. -/
def KeepsDelimiters (tags : List Tag) : Prop := ∀ tag ∈ tags, tag.type ≠ .setDelimiter

instance (tags : List Tag) : Decidable (KeepsDelimiters tags) :=
  List.decidableBAll (fun tag : Tag => tag.type ≠ .setDelimiter) tags

section Sections

variable {renderer : Renderer} {content : QString} {endPos pos : Nat} {tags : List Tag}

/-- A tag that does not change the markers is found without a change. -/
theorem Renderer.findTag_eq {tag : Tag} (found : renderer.markers.findTag content pos endPos = some tag)
    (keeps : tag.type ≠ .setDelimiter) :
    renderer.findTag content pos endPos = (some tag, renderer) := by
  simp [Renderer.findTag, found, keeps]

/-- What `findEndTag` gives back for a section that was split off. -/
def Renderer.endTagOf (renderer : Renderer) (startTag : Tag) :
    Option (List Tag × Tag × List Tag) → Option Tag × Renderer
  | none => (none, renderer)
  | some (_, endTag, _) =>
    if endTag.key = startTag.key then (some endTag, renderer)
    else (none, renderer.setError (ofAscii "Tag start/end key mismatch") endTag.start)

/-- `findEndTag` looks for the tag that the section is split at. -/
theorem Renderer.findEndTag_eq (scan : Scans renderer.markers content endPos pos tags)
    (keeps : KeepsDelimiters tags) (startTag : Tag) (depth : Nat) {fuel : Nat}
    (enough : tags.length < fuel) :
    renderer.findEndTag fuel content startTag depth pos endPos =
      some (renderer.endTagOf startTag (splitSection depth tags)) := by
  -- Both go through the same tags, and each turn of the loop takes one of them.
  induction scan generalizing depth fuel with
  | done absent =>
    obtain ⟨fuel, rfl⟩ : ∃ less, fuel = less + 1 := ⟨fuel - 1, by omega⟩
    simp [Renderer.findEndTag, Renderer.findTag, absent, splitSection, endTagOf]
  | @found _ tag tags first rest ih =>
    obtain ⟨fuel, rfl⟩ : ∃ less, fuel = less + 1 := ⟨fuel - 1, by omega⟩
    obtain ⟨keepsFirst, keepsRest⟩ := List.forall_mem_cons.mp keeps
    have less : tags.length < fuel := by
      rw [List.length_cons] at enough
      omega
    -- A tag in front of the end tag is in front of it in the list as well.
    have further (deeper : Nat) : renderer.findEndTag fuel content startTag deeper tag.stop endPos =
        some (renderer.endTagOf startTag
          ((splitSection deeper tags).map fun split => (tag :: split.1, split.2))) := by
      rw [ih keepsRest deeper less]
      cases splitSection deeper tags <;> rfl
    rw [Renderer.findEndTag, renderer.findTag_eq first keepsFirst]
    unfold splitSection
    dsimp only
    cases type : tag.type with
    | sectionStart => exact further _
    | invertedSectionStart => exact further _
    | sectionEnd =>
      cases depth with
      | zero =>
        -- This tag ends the section, or is taken for its end by mistake.
        by_cases same : tag.key = startTag.key <;> simp [endTagOf, same]
      | succ depth => exact further _
    | value => exact further _
    | partialTag => exact further _
    | comment => exact further _
    | setDelimiter => exact absurd type keepsFirst

end Sections

section Rendering

variable {γ : Type u} [Context γ] {renderer : Renderer} {content : QString} {pos endPos : Nat}
  {context : γ} {outcome : Outcome}

/-- Given enough fuel, a part of a text is rendered as something. -/
def Renders (renderer : Renderer) (content : QString) (pos endPos : Nat) (context : γ)
    (outcome : Outcome) : Prop :=
  ∃ enough, ∀ fuel, enough ≤ fuel → renderer.renderFrom fuel content pos endPos context =
    some (outcome.output, renderer.after outcome)

/-- After an error nothing is rendered. -/
theorem Renderer.renderFrom_failed (failed : renderer.errorPos.isSome) (fuel : Nat)
    (content : QString) (pos endPos : Nat) (context : γ) :
    renderer.renderFrom (fuel + 1) content pos endPos context = some ([], renderer) := by
  rw [Renderer.renderFrom, if_pos failed]

theorem Renderer.after_failed {first : Outcome} (failed : first.error.isSome) :
    (renderer.after first).errorPos.isSome := by
  obtain ⟨failure, found⟩ := Option.isSome_iff_exists.mp failed
  simp [Renderer.after, found]

theorem Renderer.after_plain {first : Outcome} (fine : first.error.isSome = false) :
    renderer.after first = renderer := by
  have fine : first.error = none := by simpa using fine
  simp [Renderer.after, fine]

/-- What follows is rendered, unless there was an error. -/
theorem renders_rest {first : Outcome} {rest : Option Outcome}
    (together : first.andThen rest = some outcome)
    (continues : ∀ {others}, rest = some others → Renders renderer content pos endPos context others) :
    ∃ tail enough, outcome.output = first.output ++ tail ∧ ∀ fuel, enough ≤ fuel →
      (renderer.after first).renderFrom fuel content pos endPos context =
        some (tail, renderer.after outcome) := by
  unfold Outcome.andThen at together
  split at together
  -- The loop notices the error in its next turn, which is why one turn is enough.
  · rename_i failed
    cases together
    refine ⟨[], 1, (List.append_nil _).symm, fun fuel le => ?_⟩
    obtain ⟨fuel, rfl⟩ : ∃ less, fuel = less + 1 := ⟨fuel - 1, by omega⟩
    exact Renderer.renderFrom_failed (Renderer.after_failed failed) ..
  · rename_i fine
    obtain ⟨others, found, rfl⟩ := Option.map_eq_some_iff.mp together
    obtain ⟨enough, renders⟩ := continues found
    refine ⟨others.output, enough, rfl, fun fuel le => ?_⟩
    -- Without an error the renderer goes on as it was.
    rw [Renderer.after_plain (Bool.eq_false_iff.mpr fine), renders fuel le]
    rfl

/-- One turn of the loop over the items of a list. -/
def renderItem (fuel : Nat) (content : QString) (pos endPos : Nat) (contexts : Nat → γ)
    (rendered : QString × Renderer) (index : Nat) : Option (QString × Renderer) := do
  let (value, renderer) ← rendered.2.renderFrom fuel content pos endPos (contexts index)
  some (rendered.1 ++ value, renderer)

/-- After an error the loop over the items of a list goes on without effect. -/
theorem foldlM_renderItem_failed (failed : renderer.errorPos.isSome) (fuel : Nat)
    (contexts : Nat → γ) (output : QString) (items : List Nat) :
    items.foldlM (renderItem (fuel + 1) content pos endPos contexts) (output, renderer) =
      some (output, renderer) := by
  induction items with
  | nil => rfl
  | cons index items ih =>
    have turn : renderItem (fuel + 1) content pos endPos contexts (output, renderer) index =
        some (output, renderer) := by
      simp [renderItem, Renderer.renderFrom_failed failed]
    rw [List.foldlM_cons, turn]
    exact ih

/-- A section over a list renders its items one after another. -/
theorem foldlM_renderItem {contexts : Nat → γ} {meaning : Nat → Option Outcome} {items : List Nat}
    (each : Outcome.each items meaning = some outcome)
    (one : ∀ {index outcome}, meaning index = some outcome →
      Renders renderer content pos endPos (contexts index) outcome) :
    ∃ enough, ∀ fuel, enough ≤ fuel → ∀ output,
      items.foldlM (renderItem fuel content pos endPos contexts) (output, renderer) =
        some (output ++ outcome.output, renderer.after outcome) := by
  induction items generalizing outcome with
  | nil =>
    cases each
    exact ⟨0, fun _ _ output => by simp [Outcome.plain, Renderer.after]⟩
  | cons index items ih =>
    obtain ⟨first, meansFirst, together⟩ := Option.bind_eq_some_iff.mp each
    obtain ⟨enoughFirst, rendersFirst⟩ := one meansFirst
    have turn {fuel : Nat} (le : enoughFirst ≤ fuel) (output : QString) :
        renderItem fuel content pos endPos contexts (output, renderer) index =
          some (output ++ first.output, renderer.after first) := by
      simp [renderItem, rendersFirst fuel le]
    unfold Outcome.andThen at together
    split at together
    · rename_i failed
      cases together
      refine ⟨enoughFirst + 1, fun fuel le output => ?_⟩
      -- The items behind the error are still counted, but none of them adds anything.
      obtain ⟨fuel, rfl⟩ : ∃ less, fuel = less + 1 := ⟨fuel - 1, by omega⟩
      rw [List.foldlM_cons, turn (by omega)]
      exact foldlM_renderItem_failed (Renderer.after_failed failed) ..
    · rename_i fine
      obtain ⟨others, meansOthers, rfl⟩ := Option.map_eq_some_iff.mp together
      obtain ⟨enoughOthers, rendersOthers⟩ := ih meansOthers
      -- An item and those behind it are rendered with the same fuel.
      refine ⟨max enoughFirst enoughOthers, fun fuel le output => ?_⟩
      have same : renderer.after first = renderer :=
        Renderer.after_plain (Bool.eq_false_iff.mpr fine)
      rw [List.foldlM_cons, turn (by omega), same]
      refine (rendersOthers fuel (by omega) _).trans ?_
      rw [List.append_assoc]
      rfl

/-- A text in front of some nodes is put in front of what they amount to. -/
theorem meanings_text {included : QString → γ → Option Outcome} {partialName text : QString}
    {nodes : List Node} :
    meanings included partialName (.text text :: nodes) context = some outcome ↔
      ∃ rest, meanings included partialName nodes context = some rest ∧
        outcome = ⟨text ++ rest.output, rest.error⟩ := by
  simp only [meanings, Node.meaning, Option.bind_some, Outcome.andThen, Outcome.plain,
    Option.isSome_none, Bool.false_eq_true, ↓reduceIte, Option.map_eq_some_iff]
  exact exists_congr fun rest => and_congr_right fun _ => eq_comm

/-- A node is rendered before the nodes behind it. -/
theorem meanings_cons {included : QString → γ → Option Outcome} {partialName : QString} {node : Node}
    {nodes : List Node} (meaning : meanings included partialName (node :: nodes) context = some outcome) :
    ∃ first, node.meaning included partialName context = some first ∧
      first.andThen (meanings included partialName nodes context) = some outcome := by
  rw [meanings] at meaning
  exact Option.bind_eq_some_iff.mp meaning

/-- A node by itself amounts to what it amounts to as the only one. -/
theorem meanings_failure {included : QString → γ → Option Outcome} {partialName error : QString}
    {failurePos : Nat}
    (meaning : meanings included partialName [.failure error failurePos] context = some outcome) :
    outcome = ⟨[], some ⟨error, failurePos, partialName⟩⟩ := by
  obtain ⟨first, meansFirst, together⟩ := meanings_cons meaning
  rw [Node.meaning] at meansFirst
  cases meansFirst
  simpa [Outcome.andThen, eq_comm] using together

/-- A turn of the loop, and what is rendered behind the tag. -/
theorem renders_turn {first rest : Outcome} {others : Option Outcome} {start : Nat} (next : Nat)
    (together : first.andThen others = some rest)
    (continues : ∀ {outcome}, others = some outcome →
      Renders renderer content next endPos context outcome)
    (turn : ∃ enough, ∀ fuel, enough ≤ fuel → ∀ {tail last},
      (renderer.after first).renderFrom fuel content next endPos context = some (tail, last) →
        renderer.renderFrom (fuel + 1) content pos endPos context =
          some (midRef content pos start ++ first.output ++ tail, last)) :
    Renders renderer content pos endPos context
      ⟨midRef content pos start ++ rest.output, rest.error⟩ := by
  obtain ⟨enoughTurn, turn⟩ := turn
  -- One unit of fuel is for the turn itself, and the rest is enough for both parts.
  obtain ⟨tail, enough, whole, behind⟩ := renders_rest together continues
  refine ⟨max enoughTurn enough + 1, fun fuel le => ?_⟩
  obtain ⟨fuel, rfl⟩ : ∃ less, fuel = less + 1 := ⟨fuel - 1, by omega⟩
  rw [turn fuel (by omega) (behind fuel (by omega)), whole, List.append_assoc]
  rfl

/-- A part of a text without a tag is rendered as it is. -/
theorem renders_text (faultless : renderer.Faultless)
    (absent : renderer.markers.findTag content pos endPos = none) :
    Renders renderer content pos endPos context (.plain (midRef content pos endPos)) := by
  refine ⟨1, fun fuel le => ?_⟩
  obtain ⟨fuel, rfl⟩ : ∃ less, fuel = less + 1 := ⟨fuel - 1, by omega⟩
  simp [Renderer.renderFrom, faultless.errorPos, Renderer.findTag, absent, Outcome.plain,
    Renderer.after]

/-- The renderer of a partial template. -/
def Renderer.entered (renderer : Renderer) (key : QString) : Renderer :=
  { renderer with
    markers := renderer.defaultMarkers
    partialStack := key :: renderer.partialStack }

/-- An error is set where the tree has one. -/
theorem Renderer.Faultless.after_failure (faultless : renderer.Faultless) (error : QString)
    (failurePos : Nat) :
    renderer.after ⟨[], some ⟨error, failurePos, renderer.partialName⟩⟩ =
      renderer.setError error failurePos := by
  simp [Renderer.after, Renderer.setError, Renderer.partialName, faultless.errorPartial]

/-- Where there is no error yet, the one about a missing end is set. -/
theorem Renderer.Faultless.noEndTag (faultless : renderer.Faultless) (error : QString)
    (failurePos : Nat) : renderer.noEndTag error failurePos = renderer.setError error failurePos := by
  simp [Renderer.noEndTag, faultless.errorPos]

/-- A turn of the loop that ends with an error. -/
theorem renders_failure (faultless : renderer.Faultless) {error : QString} {start failurePos : Nat}
    (next : Nat) (turn : ∃ enough, ∀ fuel, enough ≤ fuel → ∀ {tail last},
      (renderer.setError error failurePos).renderFrom fuel content next endPos context =
          some (tail, last) →
        renderer.renderFrom (fuel + 1) content pos endPos context =
          some (midRef content pos start ++ tail, last)) :
    Renders renderer content pos endPos context
      ⟨midRef content pos start ++ [], some ⟨error, failurePos, renderer.partialName⟩⟩ := by
  -- What would follow does not matter, so that it may be anything.
  have stops : Outcome.andThen ⟨[], some ⟨error, failurePos, renderer.partialName⟩⟩ none =
      some ⟨[], some ⟨error, failurePos, renderer.partialName⟩⟩ := rfl
  refine renders_turn next stops (fun means => nomatch means) ?_
  simpa only [faultless.after_failure, List.append_nil] using turn

/-- Some contexts, with those that are entered from them. -/
def PushClosed (contexts : γ → Prop) : Prop :=
  ∀ context, contexts context → ∀ key index, contexts (Context.push context key index)

variable {contexts : γ → Prop} (pushes : PushClosed contexts)

include pushes in
/-- What a section does with the part of the text up to its end. -/
theorem renders_block {included : QString → γ → Option Outcome} {key source : QString}
    {body : List Node} (among : contexts context)
    (renders : ∀ {context : γ} {outcome : Outcome}, contexts context →
      meanings included renderer.partialName body context = some outcome →
        Renders renderer content pos endPos context outcome)
    (meaning : (Node.block key source body).meaning included renderer.partialName context =
      some outcome) :
    ∃ enough, ∀ fuel, enough ≤ fuel →
      (if 0 < Context.listCount context key then
        (List.range (Context.listCount context key)).foldlM
          (renderItem fuel content pos endPos fun index => Context.push context key (some index))
          ([], renderer)
      else if Context.canEval context key then some (Context.eval context key source, renderer)
      else if Context.isFalse context key then some ([], renderer)
      else renderer.renderFrom fuel content pos endPos (Context.push context key none)) =
        some (outcome.output, renderer.after outcome) := by
  -- The cases are those of the source: a list, a callable, something false, something else.
  rw [Node.meaning] at meaning
  split at meaning
  · rename_i several
    obtain ⟨enough, all⟩ := foldlM_renderItem meaning fun means => renders (pushes _ among _ _) means
    exact ⟨enough, fun fuel le => by rw [if_pos several, all fuel le, List.nil_append]⟩
  · rename_i single
    split at meaning
    · rename_i callable
      cases meaning
      exact ⟨0, fun fuel _ => by rw [if_neg single, if_pos callable]; rfl⟩
    · rename_i notCallable
      split at meaning
      · rename_i false'
        cases meaning
        exact ⟨0, fun fuel _ => by rw [if_neg single, if_neg notCallable, if_pos false']; rfl⟩
      · rename_i true'
        obtain ⟨enough, once⟩ := renders (pushes _ among _ _) meaning
        exact ⟨enough, fun fuel le => by
          rw [if_neg single, if_neg notCallable, if_neg true', once fuel le]⟩

/-- A turn of the loop for a section with an end. -/
theorem Renderer.Faultless.renderFrom_sectionStart (faultless : renderer.Faultless)
    {tag endTag : Tag} (found : renderer.findTag content pos endPos = (some tag, renderer))
    (type : tag.type = .sectionStart) {fuel : Nat}
    (ends : renderer.findEndTag fuel content tag 0 tag.stop endPos = some (some endTag, renderer))
    {value tail : QString} {between last : Renderer}
    (shown : (if 0 < Context.listCount context tag.key then
        (List.range (Context.listCount context tag.key)).foldlM
          (renderItem fuel content tag.stop endTag.start fun index =>
            Context.push context tag.key (some index)) ([], renderer)
      else if Context.canEval context tag.key then
        some (Context.eval context tag.key (midRef content tag.stop endTag.start), renderer)
      else if Context.isFalse context tag.key then some ([], renderer)
      else renderer.renderFrom fuel content tag.stop endTag.start
        (Context.push context tag.key none)) = some (value, between))
    (tailIs : between.renderFrom fuel content endTag.stop endPos context = some (tail, last)) :
    renderer.renderFrom (fuel + 1) content pos endPos context =
      some (midRef content pos tag.start ++ value ++ tail, last) := by
  -- The turn for an item is written out in `renderFrom`.
  unfold renderItem at shown
  simp only [Option.bind_eq_bind] at shown
  simp only [Renderer.renderFrom, faultless.errorPos, found, type, ends, Option.isSome_none,
    Bool.false_eq_true, ↓reduceIte, Option.bind_eq_bind, Option.bind_some, shown, tailIs]

/-- A turn of the loop for an inverted section with an end. -/
theorem Renderer.Faultless.renderFrom_invertedSectionStart (faultless : renderer.Faultless)
    {tag endTag : Tag} (found : renderer.findTag content pos endPos = (some tag, renderer))
    (type : tag.type = .invertedSectionStart) {fuel : Nat}
    (ends : renderer.findEndTag fuel content tag 0 tag.stop endPos = some (some endTag, renderer))
    {value tail : QString} {between last : Renderer}
    (shown : (if Context.isFalse context tag.key then
        renderer.renderFrom fuel content tag.stop endTag.start context
      else some ([], renderer)) = some (value, between))
    (tailIs : between.renderFrom fuel content endTag.stop endPos context = some (tail, last)) :
    renderer.renderFrom (fuel + 1) content pos endPos context =
      some (midRef content pos tag.start ++ value ++ tail, last) := by
  simp only [Renderer.renderFrom, faultless.errorPos, found, type, ends, Option.isSome_none,
    Bool.false_eq_true, ↓reduceIte, Option.bind_eq_bind, Option.bind_some, shown, tailIs]

/-- A tag that begins a section. -/
def Tag.BeginsSection (tag : Tag) : Prop :=
  tag.type = .sectionStart ∨ tag.type = .invertedSectionStart

/-- A section without an end is an error at its beginning. -/
theorem renders_unclosed (faultless : renderer.Faultless) {tag : Tag}
    (found : renderer.findTag content pos endPos = (some tag, renderer)) (begins : tag.BeginsSection)
    {bound : Nat} (ends : ∀ {fuel}, bound < fuel →
      renderer.findEndTag fuel content tag 0 tag.stop endPos = some (none, renderer)) :
    Renders renderer content pos endPos context
      ⟨midRef content pos tag.start ++ [],
        some ⟨noEndTagError tag.type, tag.start, renderer.partialName⟩⟩ := by
  refine renders_failure faultless pos ⟨bound + 1, fun fuel le tail last tailIs => ?_⟩
  rcases begins with type | type <;> simp only [type, noEndTagError] at tailIs
  · simp [Renderer.renderFrom, faultless.errorPos, found, type, ends le, faultless.noEndTag, tailIs]
  · simp [Renderer.renderFrom, faultless.errorPos, found, type, ends le, faultless.noEndTag, tailIs]

/-- A section that something else ends is an error where it ends. -/
theorem renders_mismatch (faultless : renderer.Faultless) {tag endTag : Tag}
    (found : renderer.findTag content pos endPos = (some tag, renderer)) (begins : tag.BeginsSection)
    {bound : Nat} (ends : ∀ {fuel}, bound < fuel →
      renderer.findEndTag fuel content tag 0 tag.stop endPos =
        some (none, renderer.setError (ofAscii "Tag start/end key mismatch") endTag.start)) :
    Renders renderer content pos endPos context
      ⟨midRef content pos tag.start ++ [],
        some ⟨ofAscii "Tag start/end key mismatch", endTag.start, renderer.partialName⟩⟩ := by
  refine renders_failure faultless pos ⟨bound + 1, fun fuel le tail last tailIs => ?_⟩
  rcases begins with type | type
  · simp [Renderer.renderFrom, faultless.errorPos, found, type, ends le, tailIs]
  · simp [Renderer.renderFrom, faultless.errorPos, found, type, ends le, tailIs]

include pushes in
/-- A section is rendered as its node, and then what is behind it. -/
theorem renders_section {included : QString → γ → Option Outcome} (faultless : renderer.Faultless)
    {tag endTag : Tag} (found : renderer.findTag content pos endPos = (some tag, renderer))
    (begins : tag.BeginsSection) {bound : Nat} (ends : ∀ {fuel}, bound < fuel →
      renderer.findEndTag fuel content tag 0 tag.stop endPos = some (some endTag, renderer))
    {body : List Node} (among : contexts context)
    (inside : ∀ {context : γ} {outcome : Outcome}, contexts context →
      meanings included renderer.partialName body context = some outcome →
        Renders renderer content tag.stop endTag.start context outcome)
    {shown rest : Outcome} {others : Option Outcome}
    (meansShown : (sectionNode content tag endTag body).meaning included renderer.partialName context =
      some shown)
    (together : shown.andThen others = some rest)
    (outside : ∀ {outcome}, others = some outcome →
      Renders renderer content endTag.stop endPos context outcome) :
    Renders renderer content pos endPos context
      ⟨midRef content pos tag.start ++ rest.output, rest.error⟩ := by
  rcases begins with type | type <;> simp only [sectionNode, type] at meansShown
  -- A section may go through several contexts, and an inverted one stays in its own.
  · obtain ⟨enough, block⟩ := renders_block pushes among inside meansShown
    refine renders_turn endTag.stop together outside
      ⟨max enough (bound + 1), fun fuel le tail last tailIs => ?_⟩
    exact faultless.renderFrom_sectionStart found type (ends (by omega)) (block fuel (by omega)) tailIs
  · rw [Node.meaning] at meansShown
    split at meansShown
    · rename_i false'
      obtain ⟨enough, once⟩ := inside among meansShown
      refine renders_turn endTag.stop together outside
        ⟨max enough (bound + 1), fun fuel le tail last tailIs => ?_⟩
      refine faultless.renderFrom_invertedSectionStart found type (ends (by omega)) ?_ tailIs
      rw [if_pos false', once fuel (by omega)]
    · rename_i true'
      cases meansShown
      refine renders_turn endTag.stop together outside ⟨bound + 1, fun fuel le tail last tailIs => ?_⟩
      exact faultless.renderFrom_invertedSectionStart found type (ends le) (if_neg true') tailIs

/-- What was rendered inside a partial template leaves the renderer outside as it was. -/
theorem Renderer.after_entered (renderer : Renderer) (key : QString) (outcome : Outcome) :
    { (renderer.entered key).after outcome with
      markers := renderer.markers, partialStack := renderer.partialStack } =
      renderer.after outcome := by
  cases failure : outcome.error <;> simp [Renderer.after, Renderer.entered, failure]

/-- A turn of the loop for a partial template. -/
theorem Renderer.Faultless.renderFrom_partialTag (faultless : renderer.Faultless) {tag : Tag}
    (found : renderer.findTag content pos endPos = (some tag, renderer)) (type : tag.type = .partialTag)
    {fuel : Nat} {value tail : QString} {between last : Renderer}
    (inside : (renderer.entered tag.key).renderFrom fuel (Context.partialValue context tag.key) 0
      (Context.partialValue context tag.key).length context = some (value, between))
    (tailIs : { between with
      markers := renderer.markers, partialStack := renderer.partialStack }.renderFrom fuel content
        tag.stop endPos context = some (tail, last)) :
    renderer.renderFrom (fuel + 1) content pos endPos context =
      some (midRef content pos tag.start ++ value ++ tail, last) := by
  unfold Renderer.entered at inside
  rw [Renderer.renderFrom, if_neg (by simp [faultless.errorPos]), found]
  simp only [type, inside, tailIs, Option.bind_eq_bind, Option.bind_some]

include pushes in
/-- Rendering between two positions amounts to what the nodes do that stand there. -/
theorem renders_of_meaning {included : QString → γ → Option Outcome} (fit : renderer.markers.Fit)
    (faultless : renderer.Faultless)
    (includes : ∀ {key : QString} {context : γ} {outcome : Outcome}, contexts context →
      included key context = some outcome →
        Renders (renderer.entered key) (Context.partialValue context key) 0
          (Context.partialValue context key).length context outcome)
    (among : contexts context) {tags : List Tag}
    (scan : Scans renderer.markers content endPos pos tags) (barrier : Barrier content pos) (keeps : KeepsDelimiters tags)
    (meaning : meanings included renderer.partialName (parse content pos endPos tags) context =
      some outcome) : Renders renderer content pos endPos context outcome := by
  -- The tags inside a section and those behind it are fewer, so the induction is on their number.
  induction size : tags.length using Nat.strongRecOn
    generalizing pos endPos tags context outcome with
  | ind size ih =>
    subst size
    cases scan with
    | done absent =>
      rw [parse] at meaning
      obtain ⟨rest, nothing, rfl⟩ := meanings_text.mp meaning
      -- No tag is left, and the text goes to the end.
      cases nothing
      simpa [Outcome.plain] using renders_text faultless absent
    | @found _ tag tags first others =>
      obtain ⟨keepsFirst, keepsOthers⟩ := List.forall_mem_cons.mp keeps
      have found := renderer.findTag_eq first keepsFirst
      obtain ⟨place, behind, early, located⟩ := located_of_findTag fit first
      -- Whatever the tag is, the text behind it has fewer tags.
      have later {outcome : Outcome} (means : meanings included renderer.partialName
          (parse content tag.stop endPos tags) context = some outcome) :
          Renders renderer content tag.stop endPos context outcome :=
        ih _ (by simp) among others located.barrier keepsOthers means rfl
      rw [parse] at meaning
      obtain ⟨rest, meansRest, rfl⟩ := meanings_text.mp meaning
      cases type : tag.type with
      | value =>
        simp only [type] at meansRest
        obtain ⟨shown, meansFirst, together⟩ := meanings_cons meansRest
        cases meansFirst
        refine renders_turn tag.stop together later ⟨0, fun fuel _ tail last tailIs => ?_⟩
        rw [Renderer.after_plain rfl] at tailIs
        simp [Renderer.renderFrom, faultless.errorPos, found, type, tailIs, Outcome.plain]
      | sectionStart | invertedSectionStart =>
        have begins : tag.BeginsSection := by simp [Tag.BeginsSection, type]
        have ends {fuel : Nat} (enough : tags.length < fuel) :=
          renderer.findEndTag_eq others keepsOthers tag 0 enough
        simp only [type] at meansRest
        rw [← type] at meansRest
        split at meansRest
        · rename_i unclosed
          -- The tags run out before the section ends.
          cases meanings_failure meansRest
          rw [unclosed] at ends
          exact renders_unclosed faultless found begins ends
        · rename_i inner endTag behindEnd closed
          -- The tags are those inside, the end tag, and those behind it.
          have split := splitSection_eq closed
          have fewer : tags.length = inner.length + (behindEnd.length + 1) := by simp [split]
          rw [split] at others keepsOthers
          simp only [closed, Renderer.endTagOf] at ends
          split at meansRest
          · rename_i same
            simp only [same, ↓reduceIte] at ends
            obtain ⟨shown, meansShown, together⟩ := meanings_cons meansRest
            refine renders_section pushes faultless found begins ends among (fun within means => ?_)
              meansShown together fun means => ?_
            -- Inside the section the text ends where its end tag begins.
            · exact ih _ (by rw [List.length_cons]; omega) within (others.upto fit located.barrier)
                located.barrier (fun other member => keepsOthers other (by simp [member])) means rfl
            · exact ih _ (by rw [List.length_cons]; omega) among (others.behind fit).1 (others.behind fit).2
                (fun other member => keepsOthers other (by simp [member])) means rfl
          -- The section is ended by a tag with another name.
          · rename_i other
            cases meanings_failure meansRest
            simp only [other, ↓reduceIte] at ends
            exact renders_mismatch faultless found begins ends
      | sectionEnd =>
        simp only [type] at meansRest
        cases meanings_failure meansRest
        refine renders_failure faultless tag.stop ⟨0, fun fuel _ tail last tailIs => ?_⟩
        simp [Renderer.renderFrom, faultless.errorPos, found, type, tailIs]
      | partialTag =>
        simp only [type] at meansRest
        obtain ⟨shown, meansFirst, together⟩ := meanings_cons meansRest
        rw [Node.meaning] at meansFirst
        obtain ⟨enough, inside⟩ := includes among meansFirst
        refine renders_turn tag.stop together later ⟨enough, fun fuel le tail last tailIs => ?_⟩
        rw [← renderer.after_entered tag.key shown] at tailIs
        exact faultless.renderFrom_partialTag found type (inside fuel le) tailIs
      | comment =>
        simp only [type] at meansRest
        -- A comment is a turn that shows nothing.
        have nothing : Outcome.andThen (.plain []) (some rest) = some rest := rfl
        refine renders_turn tag.stop nothing ?_ ⟨0, fun fuel _ tail last tailIs => ?_⟩
        · rintro _ ⟨⟩
          exact later meansRest
        · rw [Renderer.after_plain rfl] at tailIs
          simp [Renderer.renderFrom, faultless.errorPos, found, type, tailIs, Outcome.plain]
      | setDelimiter => exact absurd type keepsFirst

include pushes in
/-- A template is rendered as it is meant, by a renderer that comes to it with its own markers. -/
theorem renders_template (fit : renderer.defaultMarkers.Fit) (faultless : renderer.Faultless)
    (initial : renderer.markers = renderer.defaultMarkers) (among : contexts context)
    {template : QString} (keeps : KeepsDelimiters (renderer.defaultMarkers.tags template))
    (keepsPartials : ∀ {context : γ}, contexts context → ∀ key,
      KeepsDelimiters (renderer.defaultMarkers.tags (Context.partialValue context key))) {depth : Nat}
    (meaning : renderer.defaultMarkers.meaning depth renderer.partialName template context =
      some outcome) : Renders renderer template 0 template.length context outcome := by
  -- The depth counts how many templates are being included.
  induction depth generalizing renderer template context outcome with
  | zero => cases meaning
  | succ depth ih =>
    have scan : Scans renderer.markers template template.length 0
        (renderer.defaultMarkers.tags template) := by
      rw [initial]
      exact scans_tagsFrom fit (by omega)
    refine renders_of_meaning pushes (initial ▸ fit) faultless
      (fun {key context outcome} within means => ?_) among scan (.inl rfl) keeps meaning
    have entered : (renderer.entered key).Faultless := ⟨faultless.errorPos, faultless.errorPartial⟩
    have fitEntered : (renderer.entered key).defaultMarkers.Fit := fit
    exact ih fitEntered entered rfl within (keepsPartials within key) keepsPartials means

include pushes in
/--
`render` renders a template as its tree means.

The template is read once here, while the renderer reads a section again for each of its items.
-/
theorem Renderer.render_eq_meaning (fit : renderer.defaultMarkers.Fit)
    (outermost : renderer.partialStack = []) (among : contexts context) {template : QString}
    (keeps : KeepsDelimiters (renderer.defaultMarkers.tags template))
    (keepsPartials : ∀ {context : γ}, contexts context → ∀ key,
      KeepsDelimiters (renderer.defaultMarkers.tags (Context.partialValue context key))) {depth : Nat}
    (meaning : renderer.defaultMarkers.meaning depth [] template context = some outcome) :
    ∃ enough, ∀ fuel, enough ≤ fuel →
      renderer.render fuel template context = some (outcome.output, renderer.cleared.after outcome) := by
  have name : renderer.cleared.partialName = [] := by
    simp [Renderer.partialName, Renderer.cleared, outermost]
  have faultless : renderer.cleared.Faultless := ⟨rfl, rfl⟩
  have initial : renderer.cleared.markers = renderer.cleared.defaultMarkers := rfl
  have fitCleared : renderer.cleared.defaultMarkers.Fit := fit
  exact renders_template pushes fitCleared faultless initial among keeps keepsPartials (name ▸ meaning)

/-- Two names that are shown one after another, with a partial template behind each. -/
def namesContext : QtVariantContext :=
  .ofRoot (.hash [(ofAscii "names", .list [.hash [(ofAscii "name", .string (ofAscii "a<b"))],
    .hash [(ofAscii "name", .string (ofAscii "c"))]])]) (some fun _ => ofAscii "; ")

/-- A section for the names, and another one where there is nothing. -/
def namesTemplate : QString :=
  ofAscii "\x7b\x7b#names\x7d\x7d\x7b\x7bname\x7d\x7d\x7b\x7b>end\x7d\x7d\x7b\x7b/names\x7d\x7d" ++
    ofAscii "\x7b\x7b^none\x7d\x7d!\x7b\x7b/none\x7d\x7d"

/-- The two names are rendered. -/
theorem Renderer.render_eq_meaning_names : ∃ enough, ∀ fuel, enough ≤ fuel →
    Renderer.create.render fuel namesTemplate namesContext =
      some (ofAscii "a&lt;b; c; !", Renderer.create.cleared) := by
  have pushes : PushClosed fun context : QtVariantContext =>
      context.partialResolver = some fun _ => ofAscii "; " := fun _ same _ _ => same
  have meaning : Renderer.create.defaultMarkers.meaning 2 [] namesTemplate namesContext =
      some (.plain (ofAscii "a&lt;b; c; !")) := by decide +kernel
  refine Renderer.render_eq_meaning pushes fit_defaultMarkers rfl rfl (by decide)
    (fun {context} same key => ?_) meaning
  have text : Context.partialValue context key = ofAscii "; " := by
    show QtVariantContext.partialValue context key = _
    rw [QtVariantContext.partialValue, same]
  rw [text]
  decide

/-- A template that begins by including itself is never rendered to an end. -/
theorem Renderer.render_never_ends {template : QString} {tag : Tag}
    (first : renderer.defaultMarkers.findTag template 0 template.length = some tag)
    (type : tag.type = .partialTag) (itself : Context.partialValue context tag.key = template)
    (fuel : Nat) : renderer.render fuel template context = none := by
  have general {renderer : Renderer} (faultless : renderer.errorPos = none)
      (initial : renderer.markers = renderer.defaultMarkers)
      (first : renderer.defaultMarkers.findTag template 0 template.length = some tag) :
      renderer.renderFrom fuel template 0 template.length context = none := by
    induction fuel generalizing renderer with
    | zero => rfl
    | succ fuel ih =>
      have found := renderer.findTag_eq (initial ▸ first) (by simp [type])
      -- What is included takes as many turns as there are left.
      have entered : (renderer.entered tag.key).errorPos = none := faultless
      have inside := ih entered rfl first
      unfold Renderer.entered at inside
      rw [Renderer.renderFrom, if_neg (by simp [faultless]), found]
      simp only [type, itself, inside, Option.bind_eq_bind, Option.bind_none]
  have cleared : renderer.cleared.errorPos = none := rfl
  exact general cleared rfl first

/-- A template that begins with itself. -/
def againTemplate : QString := ofAscii "\x7b\x7b>again\x7d\x7d."

/-- Its first tag includes it once more, and so it is never rendered to an end. -/
theorem Renderer.render_never_ends_again :
    Renderer.create.defaultMarkers.findTag againTemplate 0 againTemplate.length =
        some ⟨.partialTag, ofAscii "again", 0, 10, .escape⟩ ∧
      ∀ fuel, Renderer.create.render fuel againTemplate
        (QtVariantContext.ofRoot .null (some fun _ => againTemplate)) = none := by
  have first : Renderer.create.defaultMarkers.findTag againTemplate 0 againTemplate.length =
      some ⟨.partialTag, ofAscii "again", 0, 10, .escape⟩ := by decide
  exact ⟨first, fun fuel => Renderer.render_never_ends first rfl rfl fuel⟩

end Rendering

section Totality

variable {γ : Type u} [Context γ] {included : QString → γ → Option Outcome} {partialName : QString}

/-- Templates that include no others. -/
def IncludesNothing (tags : List Tag) : Prop := ∀ tag ∈ tags, tag.type ≠ .partialTag

instance (tags : List Tag) : Decidable (IncludesNothing tags) :=
  List.decidableBAll (fun tag : Tag => tag.type ≠ .partialTag) tags

theorem Outcome.andThen_isSome {first : Outcome} {rest : Option Outcome} (some : rest.isSome) :
    (first.andThen rest).isSome := by
  unfold Outcome.andThen
  split
  · rfl
  · simpa using some

theorem Outcome.each_isSome {α : Type} {items : List α} {outcome : α → Option Outcome}
    (all : ∀ item ∈ items, (outcome item).isSome) : (Outcome.each items outcome).isSome := by
  induction items with
  | nil => rfl
  | cons item items ih =>
    obtain ⟨first, others⟩ := List.forall_mem_cons.mp all
    obtain ⟨shown, found⟩ := Option.isSome_iff_exists.mp first
    show ((outcome item).bind fun first => first.andThen (Outcome.each items outcome)).isSome
    rw [found]
    exact Outcome.andThen_isSome (ih others)

/-- Nodes amount to something if each of them does. -/
theorem meanings_cons_isSome {node : Node} {nodes : List Node} {context : γ}
    (first : (node.meaning included partialName context).isSome)
    (rest : (meanings included partialName nodes context).isSome) :
    (meanings included partialName (node :: nodes) context).isSome := by
  obtain ⟨shown, found⟩ := Option.isSome_iff_exists.mp first
  rw [meanings, found]
  exact Outcome.andThen_isSome rest

/-- A section amounts to something if what is inside does. -/
theorem sectionNode_isSome {content : QString} {startTag endTag : Tag} {body : List Node}
    (inside : ∀ context : γ, (meanings included partialName body context).isSome) (context : γ) :
    ((sectionNode content startTag endTag body).meaning included partialName context).isSome := by
  have block {key source : QString} :
      ((Node.block key source body).meaning included partialName context).isSome := by
    rw [Node.meaning]
    split
    · exact Outcome.each_isSome fun _ _ => inside _
    · split
      · rfl
      · split
        · rfl
        · exact inside _
  unfold sectionNode
  split
  · rw [Node.meaning]
    split
    · exact inside context
    · rfl
  · exact block

/-- A text without partial templates always amounts to something. -/
theorem parse_isSome {content : QString} {tags : List Tag} (nothing : IncludesNothing tags)
    (pos endPos : Nat) (context : γ) :
    (meanings included partialName (parse content pos endPos tags) context).isSome := by
  induction size : tags.length using Nat.strongRecOn generalizing pos endPos tags context with
  | ind size ih =>
    subst size
    cases tags with
    | nil =>
      rw [parse]
      exact meanings_cons_isSome rfl rfl
    | cons tag tags =>
      obtain ⟨first, others⟩ := List.forall_mem_cons.mp nothing
      have later : ∀ pos, (meanings included partialName (parse content pos endPos tags) context).isSome :=
        fun pos => ih _ (by simp) others pos endPos context rfl
      rw [parse]
      -- In front of a tag there is text, which always amounts to something.
      refine meanings_cons_isSome rfl ?_
      cases type : tag.type with
      | value => exact meanings_cons_isSome rfl (later _)
      | sectionStart | invertedSectionStart =>
        dsimp only
        split
        · exact meanings_cons_isSome rfl rfl
        · rename_i inner endTag behindEnd closed
          have split := splitSection_eq closed
          have fewer : tags.length = inner.length + (behindEnd.length + 1) := by simp [split]
          rw [split] at others
          split
          · refine meanings_cons_isSome (sectionNode_isSome (fun context => ?_) context) ?_
            · exact ih _ (by rw [List.length_cons]; omega)
                (fun other member => others other (by simp [member])) _ _ context rfl
            · exact ih _ (by rw [List.length_cons]; omega)
                (fun other member => others other (by simp [member])) _ _ context rfl
          · exact meanings_cons_isSome rfl rfl
      | sectionEnd => exact meanings_cons_isSome rfl rfl
      | partialTag => exact absurd type first
      | comment => exact later _
      | setDelimiter => exact later _

/--
A template that includes no others and keeps the markers is rendered, whatever the context is.

It does not matter how its sections are nested, or whether they end.
-/
theorem Renderer.render_ends {renderer : Renderer} (fit : renderer.defaultMarkers.Fit)
    (outermost : renderer.partialStack = []) {template : QString}
    (keeps : KeepsDelimiters (renderer.defaultMarkers.tags template))
    (nothing : IncludesNothing (renderer.defaultMarkers.tags template)) (context : γ) :
    ∃ outcome enough, ∀ fuel, enough ≤ fuel →
      renderer.render fuel template context = some (outcome.output, renderer.cleared.after outcome) := by
  have name : renderer.cleared.partialName = [] := by
    simp [Renderer.partialName, Renderer.cleared, outermost]
  have faultless : renderer.cleared.Faultless := ⟨rfl, rfl⟩
  have scan : Scans renderer.cleared.markers template template.length 0
      (renderer.defaultMarkers.tags template) := scans_tagsFrom fit (by omega)
  -- There are no partial templates to be rendered.
  have something : (meanings (fun _ (_ : γ) => none) renderer.cleared.partialName
      (parse template 0 template.length (renderer.defaultMarkers.tags template)) context).isSome :=
    parse_isSome nothing 0 template.length context
  obtain ⟨outcome, meaning⟩ := Option.isSome_iff_exists.mp something
  have any : PushClosed fun _ : γ => True := fun _ _ _ _ => trivial
  refine ⟨outcome, renders_of_meaning any fit faultless (fun _ means => ?_) trivial scan (.inl rfl)
    keeps meaning⟩
  cases means

/-- A section that does not end is an error, whatever the names stand for. -/
theorem Renderer.render_ends_unclosed : ∃ outcome enough, ∀ fuel, enough ≤ fuel →
    Renderer.create.render fuel (ofAscii "a \x7b\x7b#names\x7d\x7d b") namesContext =
      some (outcome.output, Renderer.create.cleared.after outcome) :=
  Renderer.render_ends fit_defaultMarkers rfl (by decide) (by decide) namesContext

end Totality

end Threader.Mustache
