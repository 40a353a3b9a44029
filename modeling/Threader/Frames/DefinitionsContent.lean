import Threader.Base.Table
import Threader.Frames.DefinitionsSharing

/-! The definitions that are read are those of the elements of a document, the last of each name. -/

namespace Threader

/-- `compare(other, Qt::CaseInsensitive)` compares letters by what their cases have in common. -/
def QtAttributes.FoldsCase [QtAttributes] : Prop :=
  ∃ fold : QString → QString,
    (∀ left right, QtAttributes.equalsAnyCase left right = true ↔ fold left = fold right) ∧
    ∀ {text : QString}, text.Ascii → fold text = text.map upperAscii

theorem QtAttributes.foldsCase_ascii : @QtAttributes.FoldsCase .ascii :=
  -- What all cases have in common is the upper case.
  ⟨(·.map upperAscii), fun _ _ => decide_eq_true_iff, fun _ => rfl⟩

/-- What stands one after another in a document: elements with their contents, and other things. -/
inductive XmlContent
  | nil
  | other (rest : XmlContent)
  | element (element : XmlElement) (children rest : XmlContent)
deriving DecidableEq, Repr

/-- A `DataFrame` element with the `DataAtom` elements that stand in it. -/
structure XmlDataFrame where
  element : XmlElement
  atoms : List XmlElement
deriving DecidableEq, Repr

namespace XmlContent

/-- The tokens that are delivered for a content, where an end tag is one of the other tokens. -/
def tokens : XmlContent → List XmlToken
  | nil => []
  | other rest => .other :: rest.tokens
  | element tag children rest => .startElement tag :: children.tokens ++ .other :: rest.tokens

/-- The well-formed document that has a content. -/
def document (content : XmlContent) : XmlDocument where
  tokens := .startDocument :: content.tokens ++ [.other]
  hasError := false

/-- All elements, in the order of their start tags. -/
def elements : XmlContent → List XmlElement
  | nil => []
  | other rest => rest.elements
  | element tag children rest => tag :: children.elements ++ rest.elements

variable [QtAttributes]

/-- The `DataFrame` elements, in the order of their start tags. -/
def dataFrames : XmlContent → List XmlDataFrame
  | nil => []
  | other rest => rest.dataFrames
  | element tag children rest =>
    if tag.Named "DataFrame" then
      ⟨tag, children.elements.filter fun inner => inner.Named "DataAtom"⟩ :: rest.dataFrames
    else children.dataFrames ++ rest.dataFrames

/-- The frames of one element come before those of the rest. -/
theorem dataFrames_element (tag : XmlElement) (children rest : XmlContent) :
    (element tag children rest).dataFrames =
      (element tag children .nil).dataFrames ++ rest.dataFrames := by
  simp only [dataFrames]
  split <;> simp

/-- Every `DataAtom` element stands in a `DataFrame` element, and none of these in another one. -/
def Placed : XmlContent → Prop
  | nil => True
  | other rest => rest.Placed
  | element tag children rest =>
    (if tag.Named "DataFrame" then ∀ inner ∈ children.elements, ¬ inner.Named "DataFrame"
      else ¬ tag.Named "DataAtom" ∧ children.Placed) ∧ rest.Placed

/-- Whether all elements of a content are in their places. -/
def decidePlaced : (content : XmlContent) → Decidable content.Placed
  | nil => inferInstanceAs (Decidable True)
  | other rest => decidePlaced rest
  | element tag children rest =>
    let _ := decidePlaced children
    let _ := decidePlaced rest
    inferInstanceAs (Decidable ((if tag.Named "DataFrame" then _
      else ¬ tag.Named "DataAtom" ∧ children.Placed) ∧ rest.Placed))

instance (content : XmlContent) : Decidable content.Placed := decidePlaced content

end XmlContent

/-- The definition that a `DataFrame` element and the `DataAtom` elements in it describe. -/
def XmlDataFrame.definition [QtAttributes] (frame : XmlDataFrame) : DataFrameDefinition :=
  { frame.element.parseDataFrameAttributes with
    atoms := frame.atoms.map XmlElement.parseDataAtomAttributes }

/-- The name of a `DataFrame` element is a key up to case. -/
def XmlDataFrame.HasKey [QtText] [QtAttributes] (frame : XmlDataFrame) (key : QString) : Prop :=
  QtText.toUpper frame.definition.name = QtText.toUpper key

instance [QtText] [QtAttributes] (frame : XmlDataFrame) (key : QString) :
    Decidable (frame.HasKey key) :=
  inferInstanceAs (Decidable (_ = _))

section

variable [QtText] [QtAttributes]

omit [QtText] in
/-- No element is both a frame and an atom. -/
theorem not_named_dataAtom (folds : QtAttributes.FoldsCase) {element : XmlElement}
    (frame : element.Named "DataFrame") : ¬ element.Named "DataAtom" := by
  -- Two names that are compared without case with one text are the same up to case.
  obtain ⟨fold, compares, ascii⟩ := folds
  intro atom
  have same := ((compares _ _).mp frame).symm.trans ((compares _ _).mp atom)
  rw [ascii (by decide), ascii (by decide)] at same
  exact absurd same (by decide)

namespace DefinitionsReading

/-- The table of definitions by their keys. -/
def table (reading : DefinitionsReading) : Table QString DataFrameDefinition :=
  .ofEntries reading.loaded.definitions.framesHash

/-- The state after the first of the tags that a start tag is compared with. -/
def readVersion (reading : DefinitionsReading) (element : XmlElement) : DefinitionsReading :=
  if element.Named "DataFrames" then reading.readDataFrames element else reading

omit [QtText] in
/-- The tag `<DataFrames>` defines nothing. -/
theorem table_readVersion (reading : DefinitionsReading) (element : XmlElement) :
    (reading.readVersion element).table = reading.table ∧
      (reading.readVersion element).dataFrame = reading.dataFrame := by
  -- The version is no part of the table.
  unfold readVersion readDataFrames
  split
  · split <;> exact ⟨rfl, rfl⟩
  · exact ⟨rfl, rfl⟩

/-- A tag that is neither a frame nor an atom changes no definition. -/
theorem readToken_plain (reading : DefinitionsReading) {element : XmlElement}
    (frame : ¬ element.Named "DataFrame") (atom : ¬ element.Named "DataAtom") :
    ∃ after, reading.readToken (.startElement element) = some after ∧
      after.table = reading.table ∧ after.dataFrame = reading.dataFrame := by
  -- Neither branch that changes the table is taken.
  have frames : reading.readFrames element = reading.readVersion element := if_neg frame
  refine ⟨reading.readVersion element, ?_, table_readVersion reading element⟩
  exact (if_neg atom).trans (congrArg some frames)

/-- The tag of a frame sets the definition of its key, and leaves that key at hand. -/
theorem readToken_dataFrame (folds : QtAttributes.FoldsCase) (reading : DefinitionsReading)
    {element : XmlElement} (frame : element.Named "DataFrame") :
    let definition := element.parseDataFrameAttributes
    let key := QtText.toUpper (QtText.toUpper definition.name)
    ∃ after, reading.readToken (.startElement element) = some after ∧
      after.table = reading.table.set key definition ∧ after.dataFrame = some key := by
  -- A frame is no atom, so the last branch is not taken.
  have frames : reading.readFrames element = (reading.readVersion element).readDataFrame element :=
    if_pos frame
  refine ⟨(reading.readVersion element).readDataFrame element, ?_, ?_, rfl⟩
  · exact (if_neg (not_named_dataAtom folds frame)).trans (congrArg some frames)
  · rw [← (table_readVersion reading element).1]
    exact Table.ofEntries_insert ..

/-- The tag of an atom adds it to the definition of the key at hand. -/
theorem readToken_dataAtom {reading : DefinitionsReading} {element : XmlElement} {key : QString}
    (frame : ¬ element.Named "DataFrame") (atom : element.Named "DataAtom")
    (hand : reading.dataFrame = some key) :
    ∃ after, reading.readToken (.startElement element) = some after ∧
      (after.table = reading.table.change key fun definition =>
        { definition with atoms := definition.atoms ++ [element.parseDataAtomAttributes] }) ∧
      after.dataFrame = some key := by
  -- The key at hand is the one that the last frame left.
  obtain ⟨table, kept⟩ := table_readVersion reading element
  have frames : reading.readFrames element = reading.readVersion element := if_neg frame
  have read : reading.readToken (.startElement element) =
      (reading.readVersion element).readDataAtom element :=
    (if_pos atom).trans (congrArg (readDataAtom · element) frames)
  rw [read, readDataAtom, kept, hand]
  refine ⟨_, rfl, ?_, rfl⟩
  rw [← table]
  exact Table.ofEntries_change (reading.readVersion element).loaded.definitions.framesHash key
    fun definition =>
      { definition with atoms := definition.atoms ++ [element.parseDataAtomAttributes] }

/-- The tokens inside a frame add its atoms to its definition, and to no other one. -/
theorem foldlM_inside {reading : DefinitionsReading} {key : QString}
    {before : Table QString DataFrameDefinition} {definition : DataFrameDefinition}
    (content : XmlContent) (table : reading.table = before.set key definition)
    (hand : reading.dataFrame = some key)
    (flat : ∀ inner ∈ content.elements, ¬ inner.Named "DataFrame") :
    ∃ after, content.tokens.foldlM readToken reading = some after ∧
      after.table = before.set key { definition with
        atoms := definition.atoms ++ (content.elements.filter fun inner =>
          inner.Named "DataAtom").map XmlElement.parseDataAtomAttributes } ∧
      after.dataFrame = some key := by
  induction content generalizing reading definition with
  | nil => exact ⟨reading, rfl, by simpa [XmlContent.elements] using table, hand⟩
  | other rest ih => exact ih table hand flat
  | element tag children rest children_ih rest_ih =>
    obtain ⟨frame, flat⟩ := List.forall_mem_cons.mp flat
    obtain ⟨inner, outer⟩ := List.forall_mem_append.mp flat
    -- The tag itself, then what stands in it, and then what comes after it.
    have first : ∃ after, reading.readToken (.startElement tag) = some after ∧
        after.table = before.set key { definition with
          atoms := definition.atoms ++ ([tag].filter fun inner =>
            inner.Named "DataAtom").map XmlElement.parseDataAtomAttributes } ∧
        after.dataFrame = some key := by
      by_cases atom : tag.Named "DataAtom"
      · obtain ⟨after, read, changed, kept⟩ := readToken_dataAtom frame atom hand
        refine ⟨after, read, ?_, kept⟩
        rw [changed, table, Table.change_set]
        simp [atom]
      · obtain ⟨after, read, same, kept⟩ := readToken_plain reading frame atom
        refine ⟨after, read, ?_, kept.trans hand⟩
        rw [same, table]
        simp [atom]
    obtain ⟨opened, read, table, hand⟩ := first
    obtain ⟨filled, readChildren, table, hand⟩ := children_ih table hand inner
    obtain ⟨after, readRest, table, hand⟩ := rest_ih table hand outer
    refine ⟨after, ?_, ?_, hand⟩
    · rw [XmlContent.tokens, List.cons_append, List.foldlM_cons, read]
      refine (List.foldlM_append ..).trans ?_
      rw [readChildren]
      exact readRest
    · rw [table, XmlContent.elements]
      by_cases atom : tag.Named "DataAtom" <;> simp [atom]

/-- What a frame sets in the table. -/
def binding (frame : XmlDataFrame) : QString × DataFrameDefinition :=
  (QtText.toUpper (QtText.toUpper frame.definition.name), frame.definition)

/-- The tokens of a content set the definitions of its frames, one after another. -/
theorem foldlM_placed (folds : QtAttributes.FoldsCase) (reading : DefinitionsReading)
    {content : XmlContent} (placed : content.Placed) :
    ∃ after, content.tokens.foldlM readToken reading = some after ∧
      after.table = reading.table.setAll (content.dataFrames.map binding) := by
  induction content generalizing reading with
  | nil => exact ⟨reading, rfl, rfl⟩
  | other rest ih => exact ih reading placed
  | element tag children rest children_ih rest_ih =>
    obtain ⟨here, later⟩ := placed
    -- A frame is read with what stands in it, and another element before that.
    have first : ∃ filled,
        (.startElement tag :: children.tokens).foldlM readToken reading = some filled ∧
        filled.table = reading.table.setAll
          ((XmlContent.element tag children .nil).dataFrames.map binding) := by
      by_cases frame : tag.Named "DataFrame"
      · rw [if_pos frame] at here
        obtain ⟨opened, read, table, hand⟩ := readToken_dataFrame folds reading frame
        obtain ⟨filled, readChildren, table, _⟩ := foldlM_inside children table hand here
        refine ⟨filled, ?_, ?_⟩
        · rw [List.foldlM_cons, read]
          exact readChildren
        · rw [table, XmlContent.dataFrames, if_pos frame]
          rfl
      · rw [if_neg frame] at here
        obtain ⟨opened, read, table, _⟩ := readToken_plain reading frame here.1
        obtain ⟨filled, readChildren, filledTable⟩ := children_ih opened here.2
        refine ⟨filled, ?_, ?_⟩
        · rw [List.foldlM_cons, read]
          exact readChildren
        · rw [filledTable, table, XmlContent.dataFrames, if_neg frame, XmlContent.dataFrames,
            List.append_nil]
    obtain ⟨filled, readFirst, firstTable⟩ := first
    obtain ⟨after, readRest, restTable⟩ := rest_ih filled later
    refine ⟨after, ?_, ?_⟩
    · rw [XmlContent.tokens]
      refine (List.foldlM_append ..).trans ?_
      rw [readFirst]
      exact readRest
    · rw [restTable, firstTable, ← Table.setAll_append, ← List.map_append,
        ← XmlContent.dataFrames_element]

end DefinitionsReading

/-- Reading a well-formed document sets the definitions of its frames, one after another. -/
theorem LoadedDefinitions.readFromReader_placed (folds : QtAttributes.FoldsCase)
    (before : LoadedDefinitions) {content : XmlContent} (placed : content.Placed) :
    ∃ after, before.readFromReader content.document = some after ∧
      Table.ofEntries after.definitions.framesHash =
        (Table.ofEntries before.definitions.framesHash).setAll
          (content.dataFrames.map DefinitionsReading.binding) := by
  -- The loop starts without a frame at hand, which no frame needs.
  obtain ⟨after, read, table⟩ :=
    DefinitionsReading.foldlM_placed folds ⟨before, none⟩ placed
  refine ⟨after.loaded, ?_, table⟩
  have whole : content.document.tokens.foldlM DefinitionsReading.readToken ⟨before, none⟩ =
      some after := by
    -- The tokens of the document itself are passed over.
    refine (List.foldlM_append ..).trans ?_
    exact congrArg (· >>= fun reading => some reading) read
  rw [readFromReader, whole]
  rfl

/--
Reading a well-formed document in which atoms stand in frames, and frames in no others, succeeds.

What a key then points to is the definition of the last frame with that key up to case, with its
atoms in their order, or else what it pointed to before.
-/
theorem SharedDefinitions.readFromReader_document (folds : QtAttributes.FoldsCase)
    (maps : QtText.MapsAscii) (before : SharedDefinitions) {content : XmlContent}
    (placed : content.Placed) (names : ∀ frame ∈ content.dataFrames, frame.definition.name.Ascii) :
    ∃ after, before.readFromReader content.document = some after ∧
      ∀ key, after.definition key =
        ((content.dataFrames.filter fun frame => frame.HasKey key).getLast?.map
          XmlDataFrame.definition).or (before.definition key) := by
  obtain ⟨loaded, read, table⟩ :=
    LoadedDefinitions.readFromReader_placed folds before.contents placed
  rw [← contents_readFromReader] at read
  obtain ⟨after, readShared, rfl⟩ := Option.map_eq_some_iff.mp read
  refine ⟨after, readShared, fun key => ?_⟩
  rw [← definitionByKey_contents, ← definitionByKey_contents]
  refine (congrFun table (QtText.toUpper key)).trans ?_
  rw [Table.setAll_apply, List.filter_map]
  have keys : (content.dataFrames.filter ((fun binding : QString × DataFrameDefinition =>
      binding.1 = QtText.toUpper key) ∘ DefinitionsReading.binding)) =
      content.dataFrames.filter fun frame => frame.HasKey key := by
    refine List.filter_congr fun frame member => ?_
    -- The upper case of an ASCII name is not changed by a second conversion.
    have once := maps.toUpper_toUpper (names frame member)
    refine decide_eq_decide.mpr ?_
    rw [DefinitionsReading.binding, once]
    exact Iff.rfl
  rw [keys, List.getLast?_map, Option.map_map]
  rfl

end

/-- Of two frames of one name the second is found, whose atoms are its own. -/
theorem SharedDefinitions.readFromReader_document_twice :
    let _ := QtText.ascii
    let _ := QtAttributes.ascii
    let tag (name value : String) : XmlElement :=
      ⟨.ofAscii name, [(.ofAscii "Name", .ofAscii value)]⟩
    let first (rest : XmlContent) : XmlContent :=
      .element (tag "dataframe" "Ping") (.element (tag "DataAtom" "a") .nil .nil) rest
    let second (rest : XmlContent) : XmlContent :=
      .element (tag "DataFrame" "PING")
        (.other (.element (tag "dataATOM" "b") .nil (.element (tag "DataAtom" "c") .nil .nil))) rest
    let content : XmlContent := .element ⟨.ofAscii "DataFrames", []⟩ (first (second .nil)) .nil
    let before : SharedDefinitions := ⟨.empty, [], [], [], [], nofun⟩
    ∃ after, before.readFromReader content.document = some after ∧
      after.definition (.ofAscii "ping") =
        some ⟨.ofAscii "PING", false, 1, false, 1,
          [⟨.ofAscii "b", .ofAscii "undefined", false⟩,
            ⟨.ofAscii "c", .ofAscii "undefined", false⟩]⟩ := by
  let _ := QtText.ascii
  let _ := QtAttributes.ascii
  intro _ _ tag first second content before
  have placed : content.Placed := by decide
  obtain ⟨after, read, definition⟩ := readFromReader_document QtAttributes.foldsCase_ascii
    QtText.mapsAscii_ascii before placed (by decide)
  exact ⟨after, read, (definition _).trans (by decide)⟩

end Threader
