import Threader.Frames.DataFramesCommon

/-! `DataFramesDefinitions::readFromFile` and `readFromResource`: definitions are read from XML. -/

namespace Threader

/-- The operations on texts that are taken from Qt as they are. -/
class QtAttributes where
  /-- `QString::toLower`. -/
  toLower : QString → QString
  /-- `compare(other, Qt::CaseInsensitive) == 0`. -/
  equalsAnyCase : QString → QString → Bool
  /-- `toUInt()`, which is zero for what is no number. -/
  toUInt : QString → UInt32

/-- The operations as they are for ASCII texts and one digit. -/
@[reducible]
def QtAttributes.ascii : QtAttributes where
  toLower text := text.map fun unit => if 0x41 ≤ unit ∧ unit ≤ 0x5A then unit + 0x20 else unit
  equalsAnyCase left right := left.map upperAscii = right.map upperAscii
  toUInt text := match text with
    | [unit] => if 0x30 ≤ unit ∧ unit ≤ 0x39 then (unit - 0x30).toUInt32 else 0
    | _ => 0

/-- A start tag: its name, and its attributes with their values. -/
structure XmlElement where
  name : QString
  attributes : List (QString × QString)
deriving DecidableEq, Repr

/-- What `readNext` delivers, as far as the reader makes a difference. -/
inductive XmlToken
  | startDocument
  | startElement (element : XmlElement)
  | other
deriving DecidableEq, Repr

/-- A document: the tokens up to its end, or up to the place where it is malformed. -/
structure XmlDocument where
  tokens : List XmlToken
  hasError : Bool
deriving DecidableEq, Repr

/-- What there is under the name of a file; what cannot be opened has an `errorString`. -/
inductive XmlFile
  | missing (errorString : QString)
  | unreadable (errorString : QString)
  | readable (document : XmlDocument)
deriving DecidableEq, Repr

namespace XmlElement

/-- `attributes.value(name)` where `attributes.hasAttribute(name)`. -/
def value (element : XmlElement) (name : String) : Option QString :=
  element.attributes.lookup (.ofAscii name)

variable [QtAttributes]

/-- The name of the element, in any case. -/
def Named (element : XmlElement) (name : String) : Prop :=
  QtAttributes.equalsAnyCase element.name (.ofAscii name) = true

instance (element : XmlElement) (name : String) : Decidable (element.Named name) :=
  inferInstanceAs (Decidable (_ = _))

/-- An attribute that is true if it is there and says so in any case. -/
def isTrue (element : XmlElement) (name : String) : Bool :=
  match element.value name with
  | some value => QtAttributes.equalsAnyCase value (.ofAscii "true")
  | none => false

/-- An attribute that is one unless it is there and is a larger number. -/
def atLeastOne (element : XmlElement) (name : String) : UInt32 :=
  match element.value name with
  | some value => if QtAttributes.toUInt value < 1 then 1 else QtAttributes.toUInt value
  | none => 1

/-- `parseDataFrameAttributes(attributes)`, whose priority is cut to a byte. -/
def parseDataFrameAttributes (element : XmlElement) : DataFrameDefinition where
  name := (element.value "Name").getD []
  isArray := element.isTrue "IsArray"
  capacity := element.atLeastOne "Capacity"
  needsTicket := element.isTrue "NeedsTicket"
  priority := (element.atLeastOne "Priority").toUInt8
  atoms := []

/-- `parseDataAtomAttributes(attributes)`. -/
def parseDataAtomAttributes (element : XmlElement) : DataAtomDefinition where
  name := (element.value "Name").getD []
  atomType := QtAttributes.toLower ((element.value "Type").getD (.ofAscii "Undefined"))
  isScalar := element.isTrue "Scalar"

end XmlElement

namespace DataFramesDefinitions

/-- `_framesHash.insert(key, definition)`. -/
def insert (definitions : DataFramesDefinitions) (key : QString) (definition : DataFrameDefinition) :
    DataFramesDefinitions :=
  ⟨(key, definition) :: definitions.framesHash.filter fun entry => entry.1 ≠ key⟩

/-- `appendAtom(atom)` of the definition under a key, through a pointer to it. -/
def appendAtom (definitions : DataFramesDefinitions) (key : QString) (atom : DataAtomDefinition) :
    DataFramesDefinitions :=
  ⟨definitions.framesHash.map fun (other, definition) =>
    (other, if other = key then { definition with atoms := definition.atoms ++ [atom] }
      else definition)⟩

end DataFramesDefinitions

/-- `DataFramesDefinitions` with what it remembers about the file. -/
structure LoadedDefinitions where
  definitions : DataFramesDefinitions
  version : QString
  fileName : QString
  error : QString
deriving DecidableEq, Repr

/-- The state of `readFromReader`; a pointer to a definition is its key, and null is `none`. -/
structure DefinitionsReading where
  loaded : LoadedDefinitions
  dataFrame : Option QString
deriving DecidableEq, Repr

namespace DefinitionsReading

variable [QtText] [QtAttributes]

/-- The tag `<DataFrames>`. -/
def readDataFrames (reading : DefinitionsReading) (element : XmlElement) : DefinitionsReading :=
  match element.value "Version" with
  | some version => { reading with loaded := { reading.loaded with version } }
  | none => reading

/-- The tag `<DataFrame>`. -/
def readDataFrame (reading : DefinitionsReading) (element : XmlElement) : DefinitionsReading :=
  let definition := element.parseDataFrameAttributes
  -- The name is converted here, and again in `appendDefinition`.
  let key := QtText.toUpper (QtText.toUpper definition.name)
  let definitions := reading.loaded.definitions.insert key definition
  { loaded := { reading.loaded with definitions }, dataFrame := some key }

/-- The tag `<DataAtom>`, or `none` when a null pointer is dereferenced. -/
def readDataAtom (reading : DefinitionsReading) (element : XmlElement) : Option DefinitionsReading :=
  reading.dataFrame.map fun key =>
    let definitions := reading.loaded.definitions.appendAtom key element.parseDataAtomAttributes
    { reading with loaded := { reading.loaded with definitions } }

/-- The first two tags that a start tag is compared with. -/
def readFrames (reading : DefinitionsReading) (element : XmlElement) : DefinitionsReading :=
  let reading := if element.Named "DataFrames" then reading.readDataFrames element else reading
  if element.Named "DataFrame" then reading.readDataFrame element else reading

/-- One turn of the loop of `readFromReader`. -/
def readToken (reading : DefinitionsReading) : XmlToken → Option DefinitionsReading
  | .startElement element =>
    let reading := reading.readFrames element
    if element.Named "DataAtom" then reading.readDataAtom element else some reading
  | .startDocument | .other => some reading

end DefinitionsReading

namespace LoadedDefinitions

/-- `clear()`. -/
def clear (loaded : LoadedDefinitions) : LoadedDefinitions := { loaded with definitions := ⟨[]⟩ }

variable [QtText] [QtAttributes]

/-- `readFromReader(xml)`, or `none` when a null pointer is dereferenced. -/
def readFromReader (loaded : LoadedDefinitions) (document : XmlDocument) :
    Option LoadedDefinitions :=
  (document.tokens.foldlM DefinitionsReading.readToken ⟨loaded, none⟩).map
    DefinitionsReading.loaded

/-- The end of both functions: the result does not depend on `hasError`. -/
def readOpened (loaded : LoadedDefinitions) : XmlFile → Option (Bool × LoadedDefinitions)
  | .missing error | .unreadable error => some (false, { loaded with error })
  | .readable document => (loaded.readFromReader document).map fun loaded => (true, loaded)

/-- `readFromFile(fileName, clearList)`. -/
def readFromFile (loaded : LoadedDefinitions) (fileName : QString) (clearList : Bool)
    (file : XmlFile) : Option (Bool × LoadedDefinitions) :=
  let loaded := if clearList then loaded.clear else loaded
  { loaded with fileName }.readOpened file

/-- `readFromResource(resourceName, clearList)`. -/
def readFromResource (loaded : LoadedDefinitions) (resourceName : QString) (clearList : Bool)
    (file : XmlFile) : Option (Bool × LoadedDefinitions) :=
  let loaded := { loaded with fileName := resourceName }
  match file with
  | .missing _ => some (false, loaded)
  | file =>
    let loaded := if clearList then loaded.clear else loaded
    loaded.readOpened file

/-- A result that is true for a whole document, and false for a table that is as it was. -/
def AllOrNothing (before : LoadedDefinitions) (file : XmlFile) :
    Option (Bool × LoadedDefinitions) → Prop
  | none => False
  | some (true, _) => ∃ document, file = .readable document ∧ document.hasError = false
  | some (false, after) => after.definitions = before.definitions

end LoadedDefinitions

section

variable [QtText] [QtAttributes]

/-- An element of some name, among the tokens. -/
def XmlToken.Starts (token : XmlToken) (name : String) : Prop :=
  ∃ element, token = .startElement element ∧ element.Named name

/-- An atom that comes before all frames. -/
def MisplacesAtom (tokens : List XmlToken) : Prop :=
  ∃ earlier atom later, tokens = earlier ++ atom :: later ∧ atom.Starts "DataAtom" ∧
    ∀ token ∈ earlier ++ [atom], ¬ token.Starts "DataFrame"

/-- Loading from a file goes well: the table is not cleared in vain, and the document is in order. -/
def XmlFile.LoadsFile (before : LoadedDefinitions) (clearList : Bool) : XmlFile → Prop
  | .missing _ | .unreadable _ => clearList = false ∨ before.definitions.framesHash = []
  | .readable document => document.hasError = false ∧ ¬ MisplacesAtom document.tokens

/-- Loading from a resource goes well, as it also does when there is none. -/
def XmlFile.LoadsResource (before : LoadedDefinitions) (clearList : Bool) : XmlFile → Prop
  | .missing _ => True
  | file => file.LoadsFile before clearList

omit [QtText] in
/-- An element begins what it is named. -/
theorem starts_startElement (element : XmlElement) (name : String) :
    (XmlToken.startElement element).Starts name ↔ element.Named name := by
  constructor
  · rintro ⟨found, same, named⟩
    cases same
    exact named
  · exact fun named => ⟨element, rfl, named⟩

omit [QtText] in
/-- The beginning of the document is no element. -/
theorem not_starts_startDocument (name : String) : ¬ XmlToken.startDocument.Starts name := by
  rintro ⟨element, same, _⟩
  cases same

omit [QtText] in
/-- The other tokens are no elements. -/
theorem not_starts_other (name : String) : ¬ XmlToken.other.Starts name := by
  rintro ⟨element, same, _⟩
  cases same

omit [QtText] in
/-- An atom is misplaced by the first token, or behind a first token that is no frame. -/
theorem misplacesAtom_cons (token : XmlToken) (tokens : List XmlToken) :
    MisplacesAtom (token :: tokens) ↔
      ¬ token.Starts "DataFrame" ∧ (token.Starts "DataAtom" ∨ MisplacesAtom tokens) := by
  constructor
  · rintro ⟨earlier, atom, later, split, starts, before⟩
    -- The first token is the atom itself, or one of those before it.
    cases earlier with
    | nil =>
      obtain ⟨rfl, rfl⟩ := List.cons.inj split
      exact ⟨before token List.mem_cons_self, .inl starts⟩
    | cons first earlier =>
      obtain ⟨rfl, rfl⟩ := List.cons.inj split
      exact ⟨before token List.mem_cons_self, .inr ⟨earlier, atom, later, rfl, starts,
        fun next member => before next (List.mem_cons_of_mem _ member)⟩⟩
  · rintro ⟨first, starts | ⟨earlier, atom, later, rfl, starts, before⟩⟩
    · exact ⟨[], token, tokens, rfl, starts, fun next member => List.mem_singleton.mp member ▸ first⟩
    · refine ⟨token :: earlier, atom, later, rfl, starts, fun next member => ?_⟩
      rcases List.mem_cons.mp member with rfl | member
      · exact first
      · exact before next member

namespace DefinitionsReading

/-- A frame is at hand after the first two tags if there was one, or the tag begins one. -/
theorem isSome_readFrames (reading : DefinitionsReading) (element : XmlElement) :
    (reading.readFrames element).dataFrame.isSome ↔
      element.Named "DataFrame" ∨ reading.dataFrame.isSome := by
  have kept : (if element.Named "DataFrames" then reading.readDataFrames element
      else reading).dataFrame = reading.dataFrame := by
    unfold readDataFrames
    split
    · split <;> rfl
    · rfl
  -- The tag `DataFrames` makes no frame, so only the other tag counts.
  unfold readFrames
  dsimp only
  split
  · rename_i frame
    exact iff_of_true rfl (.inl frame)
  · rename_i other
    rw [kept]
    exact (or_iff_right other).symm

/-- A token fails if it is an atom, and neither begins a frame nor comes after one. -/
theorem readToken_eq_none_iff (reading : DefinitionsReading) (token : XmlToken) :
    reading.readToken token = none ↔
      token.Starts "DataAtom" ∧ ¬ (token.Starts "DataFrame" ∨ reading.dataFrame.isSome) := by
  -- Only a start tag can name an atom.
  cases token with
  | startDocument => exact iff_of_false nofun fun both => not_starts_startDocument _ both.1
  | other => exact iff_of_false nofun fun both => not_starts_other _ both.1
  | startElement element =>
    have frames := isSome_readFrames reading element
    rw [starts_startElement, starts_startElement, ← frames, readToken]
    split
    · rename_i atom
      rw [readDataAtom, Option.map_eq_none_iff, and_iff_right atom, Option.not_isSome_iff_eq_none]
    · rename_i plain
      exact iff_of_false nofun fun both => plain both.1

/-- A token that does not fail leaves a frame at hand if it begins one or comes after one. -/
theorem isSome_of_readToken {reading after : DefinitionsReading} {token : XmlToken}
    (reads : reading.readToken token = some after) :
    after.dataFrame.isSome ↔ token.Starts "DataFrame" ∨ reading.dataFrame.isSome := by
  -- Only a start tag can begin a frame, and an atom keeps the one at hand.
  cases token with
  | startDocument =>
    obtain rfl := Option.some.inj reads
    exact (or_iff_right (not_starts_startDocument _)).symm
  | other =>
    obtain rfl := Option.some.inj reads
    exact (or_iff_right (not_starts_other _)).symm
  | startElement element =>
    rw [starts_startElement, ← isSome_readFrames]
    rw [readToken] at reads
    split at reads
    · obtain ⟨key, found, rfl⟩ := Option.map_eq_some_iff.mp reads
      rfl
    · obtain rfl := Option.some.inj reads
      rfl

/-- Reading goes wrong exactly when an atom is misplaced, and there is no frame from before. -/
theorem foldlM_readToken_eq_none_iff (reading : DefinitionsReading) (tokens : List XmlToken) :
    tokens.foldlM readToken reading = none ↔ reading.dataFrame = none ∧ MisplacesAtom tokens := by
  induction tokens generalizing reading with
  | nil =>
    -- There is no atom among no tokens.
    refine iff_of_false nofun ?_
    rintro ⟨_, earlier, atom, later, split, _⟩
    exact List.cons_ne_nil _ _ (List.append_eq_nil_iff.mp split.symm).2
  | cons token tokens ih =>
    have missing : reading.dataFrame = none ↔ ¬ reading.dataFrame.isSome :=
      Option.not_isSome_iff_eq_none.symm
    rw [List.foldlM_cons, misplacesAtom_cons, missing]
    cases reads : reading.readToken token with
    | none =>
      obtain ⟨atom, nothing⟩ := (readToken_eq_none_iff reading token).mp reads
      obtain ⟨first, absent⟩ := not_or.mp nothing
      exact iff_of_true rfl ⟨absent, first, .inl atom⟩
    | some after =>
      -- The token does not fail, so the others decide, with the frame it may have left at hand.
      have frames := isSome_of_readToken reads
      have passes : ¬ (token.Starts "DataAtom" ∧
          ¬ (token.Starts "DataFrame" ∨ reading.dataFrame.isSome)) := by
        rw [← readToken_eq_none_iff, reads]
        nofun
      refine (ih after).trans ?_
      rw [← Option.not_isSome_iff_eq_none, frames]
      constructor
      · rintro ⟨nothing, misplaces⟩
        obtain ⟨first, absent⟩ := not_or.mp nothing
        exact ⟨absent, first, .inr misplaces⟩
      · rintro ⟨absent, first, atom | misplaces⟩
        · exact absurd ⟨atom, not_or.mpr ⟨first, absent⟩⟩ passes
        · exact ⟨not_or.mpr ⟨first, absent⟩, misplaces⟩

end DefinitionsReading

namespace LoadedDefinitions

/-- Reading goes wrong exactly when the document misplaces an atom. -/
theorem readFromReader_eq_none_iff (loaded : LoadedDefinitions) (document : XmlDocument) :
    loaded.readFromReader document = none ↔ MisplacesAtom document.tokens := by
  rw [readFromReader, Option.map_eq_none_iff, DefinitionsReading.foldlM_readToken_eq_none_iff]
  -- No frame is at hand when reading begins.
  exact and_iff_right rfl

/-- What happens to a file that can be opened does not depend on the table. -/
theorem allOrNothing_readable (before loaded : LoadedDefinitions) (document : XmlDocument) :
    before.AllOrNothing (.readable document) (loaded.readOpened (.readable document)) ↔
      document.hasError = false ∧ ¬ MisplacesAtom document.tokens := by
  rw [← readFromReader_eq_none_iff loaded, readOpened]
  -- The result is true whenever reading does not go wrong.
  cases reads : loaded.readFromReader document with
  | none => exact iff_of_false id fun both => both.2 rfl
  | some after =>
    constructor
    · rintro ⟨read, same, whole⟩
      cases same
      exact ⟨whole, nofun⟩
    · exact fun both => ⟨document, rfl, both.1⟩

omit [QtText] [QtAttributes] in
/-- A table that is cleared in any case is as it was only if it was empty. -/
theorem definitions_cleared_iff (before : LoadedDefinitions) (clearList : Bool) :
    (if clearList then before.clear else before).definitions = before.definitions ↔
      clearList = false ∨ before.definitions.framesHash = [] := by
  -- Clearing leaves the empty table.
  obtain ⟨⟨framesHash⟩, version, fileName, error⟩ := before
  cases clearList with
  | false => exact iff_of_true rfl (.inl rfl)
  | true =>
    show (⟨[]⟩ : DataFramesDefinitions) = ⟨framesHash⟩ ↔ _
    rw [DataFramesDefinitions.mk.injEq, or_iff_right (by simp)]
    exact eq_comm

/--
Loading is all or nothing exactly when the document is not malformed and misplaces no atom, or
cannot be opened and the table was not cleared in vain.

The two functions differ only for a file that does not exist.
-/
theorem allOrNothing_iff (before : LoadedDefinitions) (name : QString) (clearList : Bool)
    (file : XmlFile) :
    (before.AllOrNothing file (before.readFromFile name clearList file) ↔
      file.LoadsFile before clearList) ∧
    (before.AllOrNothing file (before.readFromResource name clearList file) ↔
      file.LoadsResource before clearList) := by
  cases file with
  -- Without a document the table decides, and with one the document does.
  | missing error => exact ⟨definitions_cleared_iff before clearList, iff_of_true rfl trivial⟩
  | unreadable error =>
    refine ⟨definitions_cleared_iff before clearList, ?_⟩
    refine Iff.trans ?_ (definitions_cleared_iff before clearList)
    cases clearList <;> rfl
  | readable document =>
    exact ⟨allOrNothing_readable before _ document, allOrNothing_readable before _ document⟩

end LoadedDefinitions

end

/-- A table with one frame that has no atoms. -/
def LoadedDefinitions.single : LoadedDefinitions where
  definitions := ⟨[(.ofAscii "PING", ⟨.ofAscii "Ping", false, 1, false, 1, []⟩)]⟩
  version := []
  fileName := []
  error := []

/-- A file is missing, a document is malformed from the beginning, and an atom is misplaced. -/
theorem LoadedDefinitions.not_allOrNothing :
    let _ := QtText.ascii
    let _ := QtAttributes.ascii
    let malformed : XmlFile := .readable ⟨[], true⟩
    let misplaced : XmlFile := .readable ⟨[.startElement ⟨.ofAscii "DataAtom", []⟩], false⟩
    ¬ single.AllOrNothing (.missing []) (single.readFromFile [] true (.missing [])) ∧
    ¬ single.AllOrNothing malformed (single.readFromResource [] false malformed) ∧
    ¬ single.AllOrNothing misplaced (single.readFromResource [] false misplaced) := by
  let _ := QtText.ascii
  let _ := QtAttributes.ascii
  refine ⟨?_, ?_, ?_⟩
  · -- The table was cleared before the file was opened.
    intro kept
    have cleared := (definitions_cleared_iff single true).mp kept
    simp [single] at cleared
  · rintro ⟨document, same, whole⟩
    cases same
    exact Bool.noConfusion whole
  · exact id

end Threader
