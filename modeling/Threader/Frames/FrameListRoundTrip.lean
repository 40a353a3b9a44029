import Threader.Frames.FrameRoundTrip

/-! Frames that a program fills in, written one after another and read back as a list. -/

namespace Threader

variable [QtText]

namespace AbstractDataAtom

/-- What a program does to an atom: it picks an index and assigns values. -/
inductive Assigns : AbstractDataAtom → AbstractDataAtom → Prop
  | setCurrentIndex (atom : AbstractDataAtom) (currentIndex : UInt32) :
      Assigns atom (atom.setCurrentIndex currentIndex)
  | setValue {type : AtomType} (base : BaseDataAtom type.Value) (value : type.Value) :
      Assigns ⟨type, base⟩ ⟨type, base.setValue value⟩
  | setValues {type : AtomType} (base : BaseDataAtom type.Value) (values : List type.Value) :
      Assigns ⟨type, base⟩ ⟨type, base.setValues values⟩
  | fillData {type : AtomType} (base : BaseDataAtom type.Value) (value : type.Value) :
      Assigns ⟨type, base⟩ ⟨type, base.fillData value⟩

omit [QtText] in
/-- Assigning values keeps an atom built for its frame. -/
theorem BuiltFor.assigns {factory : DataFramesFactory} {capacity : UInt32}
    {definition : DataAtomDefinition} {before after : AbstractDataAtom}
    (built : BuiltFor factory capacity definition before) (assigns : before.Assigns after) :
    BuiltFor factory capacity definition after := by
  -- No assignment changes the number of values.
  cases assigns with
  | setCurrentIndex => exact ⟨built.type, built.described, built.length⟩
  | setValue => exact built.setValue _
  | setValues base values =>
    refine ⟨built.type, built.described, Eq.trans ?_ built.length⟩
    simp only [BaseDataAtom.setValues, List.length_append, List.length_take, List.length_drop]
    omega
  | fillData => exact ⟨built.type, built.described, by simpa [BaseDataAtom.fillData] using built.length⟩

end AbstractDataAtom

namespace DataFrame

/-- A frame as a program makes it: built from a definition, given a capacity, and filled in. -/
inductive Assembled (factory : DataFramesFactory) (definition : DataFrameDefinition) :
    DataFrame → Prop
  | buildFrame : Assembled factory definition (factory.buildFrame definition)
  | setCapacity {frame : DataFrame} (capacity : UInt32)
      (assembled : Assembled factory definition frame) :
      Assembled factory definition (frame.setCapacity capacity)
  | setCurrentIndex {frame : DataFrame} (currentIndex : UInt32)
      (assembled : Assembled factory definition frame) :
      Assembled factory definition (frame.setCurrentIndex currentIndex)
  | assign {frame : DataFrame} {place : Nat} {atom after : AbstractDataAtom}
      (found : frame.atoms[place]? = some (some atom)) (assigns : atom.Assigns after)
      (assembled : Assembled factory definition frame) :
      Assembled factory definition { frame with atoms := frame.atoms.set place (some after) }

/-- A capacity of zero counts as one. -/
theorem setCapacity_zero (frame : DataFrame) : frame.setCapacity 0 = frame.setCapacity 1 := rfl

omit [QtText] in
/-- Choosing an index keeps a frame built for its definition. -/
theorem BuiltFor.setCurrentIndex {factory : DataFramesFactory} {definition : DataFrameDefinition}
    {atoms : List AbstractDataAtom} {frame : DataFrame}
    (built : BuiltFor factory definition atoms frame) (currentIndex : UInt32) :
    BuiltFor factory definition (atoms.map fun atom => atom.setCurrentIndex currentIndex)
      (frame.setCurrentIndex currentIndex) := by
  refine ⟨built.described, ?_, ?_, built.capacity⟩
  · simp only [DataFrame.setCurrentIndex, built.wired, List.map_map]
    exact List.map_congr_left fun atom _ => rfl
  · exact List.forall₂_map_right_iff.mpr
      (built.built.imp fun _ _ atom => atom.assigns (.setCurrentIndex _ currentIndex))

omit [QtText] in
/-- Assigning values to one atom keeps a frame built for its definition. -/
theorem BuiltFor.assign {factory : DataFramesFactory} {definition : DataFrameDefinition}
    {atoms : List AbstractDataAtom} {frame : DataFrame}
    (built : BuiltFor factory definition atoms frame) {place : Nat} {atom after : AbstractDataAtom}
    (found : frame.atoms[place]? = some (some atom)) (assigns : atom.Assigns after) :
    BuiltFor factory definition (atoms.set place after)
      { frame with atoms := frame.atoms.set place (some after) } := by
  obtain ⟨described, wired, atomsBuilt, capacity⟩ := built
  refine ⟨described, ?_, ?_, capacity⟩
  · simp only [wired, List.map_set]
  · -- All places but one hold what they held before.
    obtain ⟨sameLength, each⟩ := List.forall₂_iff_get.mp atomsBuilt
    refine List.forall₂_iff_get.mpr ⟨by simpa using sameLength, ?_⟩
    intro other inside insideSet
    have insideAtoms : other < atoms.length := by simpa using insideSet
    have own := each other inside insideAtoms
    simp only [List.get_eq_getElem] at own ⊢
    by_cases same : place = other
    · subst same
      have old : atoms[place] = atom := by
        rw [wired, List.getElem?_map, List.getElem?_eq_getElem insideAtoms] at found
        simpa using found
      rw [List.getElem_set_self]
      exact (old ▸ own).assigns assigns
    · rwa [List.getElem_set_ne same]

/-- A frame of a definition with registered atom types is built for it, however it is filled in. -/
theorem Assembled.builtFor {factory : DataFramesFactory} {definition : DataFrameDefinition}
    {frame : DataFrame} (assembled : frame.Assembled factory definition)
    (registered : ∀ atom ∈ definition.atoms, ∃ type, factory.registry.lookup atom.atomType = some type) :
    ∃ atoms, BuiltFor factory definition atoms frame := by
  induction assembled with
  | buildFrame =>
    -- The registered types are listed in the order of the atoms.
    obtain ⟨types, listed⟩ : ∃ types, List.Forall₂
        (fun atom type => factory.registry.lookup atom.atomType = some type)
        definition.atoms types := by
      generalize definition.atoms = atoms at registered
      induction atoms with
      | nil => exact ⟨[], .nil⟩
      | cons atom atoms ih =>
        obtain ⟨⟨type, first⟩, others⟩ := List.forall_mem_cons.mp registered
        obtain ⟨types, listed⟩ := ih others
        exact ⟨type :: types, .cons first listed⟩
    exact builtFor_buildFrame listed
  | setCapacity capacity _ ih =>
    obtain ⟨atoms, built⟩ := ih
    by_cases zero : capacity = 0
    · rw [zero, setCapacity_zero]
      exact ⟨_, built.setCapacity (by decide)⟩
    · exact ⟨_, built.setCapacity zero⟩
  | setCurrentIndex currentIndex _ ih =>
    obtain ⟨atoms, built⟩ := ih
    exact ⟨_, built.setCurrentIndex currentIndex⟩
  | assign found assigns _ ih =>
    obtain ⟨atoms, built⟩ := ih
    exact ⟨_, built.assign found assigns⟩

/-- A frame filled in for a registered definition, with nothing in it that the format cannot hold. -/
structure FilledFrom (definitions : DataFramesDefinitions) (definition : DataFrameDefinition)
    (frame : DataFrame) : Prop where
  defined : definitions.definitionByKey definition.name = some definition
  registered : ∀ atom ∈ definition.atoms,
    ∃ type, DataFramesFactory.initializeAtomsStorage.lookup atom.atomType = some type
  assembled : frame.Assembled (.init definitions) definition
  nameNulFree : (0 : UInt16) ∉ definition.name
  nameEncodable : Windows1251.Encodable definition.name
  portable : ∀ atom, some atom ∈ frame.atoms → atom.Portable
  single : definition.isArray = false → frame.capacity = 1
  carried : definition.isArray = true →
    ∃ atom, some atom ∈ frame.atoms ∧ atom.definition.isScalar = false ∧ atom.type ≠ .byteArray

/-- A factory restores such a frame from its bytes. -/
theorem FilledFrom.restorable {definitions : DataFramesDefinitions}
    {definition : DataFrameDefinition} {frame : DataFrame}
    (filled : frame.FilledFrom definitions definition) :
    frame.Restorable (.init definitions) := by
  -- The frame was built from its definition, which the factory looks up under its name.
  obtain ⟨atoms, built⟩ := filled.assembled.builtFor filled.registered
  have inside (atom : AbstractDataAtom) : some atom ∈ frame.atoms ↔ atom ∈ atoms := by
    simp [built.wired]
  refine ⟨definition, atoms, built, ?_, filled.nameNulFree, filled.nameEncodable, ?_, filled.single,
    ?_⟩
  · simp [DataFramesFactory.buildFrameByKey, DataFramesFactory.init, filled.defined]
  · exact fun atom member => filled.portable atom ((inside atom).mpr member)
  · intro array
    obtain ⟨atom, member, vector⟩ := filled.carried array
    exact ⟨atom, (inside atom).mp member, vector⟩

/-- The array that frames written one after another leave. -/
def writeAll (frames : List DataFrame) : QByteArray :=
  let stream := frames.foldl (fun stream frame => (write frame stream).2) (.ofData [])
  stream.data.getD []

/-- Frames without null atoms are written as their images one after another. -/
theorem writeAll_images {frames : List DataFrame}
    (wired : ∀ frame ∈ frames, ∃ atoms : List AbstractDataAtom, frame.atoms = atoms.map some) :
    writeAll frames = frames.flatMap image := by
  -- The stream stands at the end of what was written, so every frame is appended.
  suffices ∀ data, frames.foldl (fun stream frame => (write frame stream).2) (.atEnd data) =
      .atEnd (data ++ frames.flatMap image) by
    rw [writeAll, DataStream.ofData_nil, this]
    rfl
  induction frames with
  | nil => simp
  | cons frame frames ih =>
    intro data
    obtain ⟨first, others⟩ := List.forall_mem_cons.mp wired
    obtain ⟨atoms, first⟩ := first
    simp [frame.write_image first, ih others]

/-- Frames that can be restored are written as their images one after another. -/
theorem writeAll_eq {factory : DataFramesFactory} {frames : List DataFrame}
    (restorable : ∀ frame ∈ frames, frame.Restorable factory) :
    writeAll frames = frames.flatMap image := by
  refine writeAll_images fun frame member => ?_
  obtain ⟨definition, atoms, restorable⟩ := restorable frame member
  exact ⟨atoms, restorable.built.wired⟩

end DataFrame

namespace DataFramesFactory

/-- A list of frames is read back from what it was written as, up to the end of the data. -/
theorem readFrames_writeAll {definitions : DataFramesDefinitions} {frames : List DataFrame}
    (filled : ∀ frame ∈ frames, ∃ definition, frame.FilledFrom definitions definition)
    (fits : (DataFrame.writeAll frames).length < 2147483648) :
    ∃ news : List DataFrame, (init definitions).readFrames (DataFrame.writeAll frames) = some news ∧
      Loop.Ends (init definitions).turn (.ofData (DataFrame.writeAll frames)) news
        (.atEnd (DataFrame.writeAll frames)) ∧
      news.map DataFrame.content = frames.map DataFrame.content := by
  have restorable : ∀ frame ∈ frames, frame.Restorable (init definitions) := by
    intro frame member
    obtain ⟨definition, frameFilled⟩ := filled frame member
    exact frameFilled.restorable
  -- What was written is the images of the frames, which the loop reads one after another.
  have written := DataFrame.writeAll_eq restorable
  rw [written] at fits ⊢
  exact readFrames_images restorable fits

omit [QtText]

/-- An array of texts with a number in front of them. -/
def notesDefinition : DataFrameDefinition :=
  ⟨.ofAscii "Notes", true, 1, false, 0, [⟨.ofAscii "Author", .ofAscii "int32", true⟩,
    ⟨.ofAscii "Text", .ofAscii "string", false⟩]⟩

/-- A table that holds the definition under the upper case of its name. -/
def notesDefinitions : DataFramesDefinitions := ⟨[(.ofAscii "NOTES", notesDefinition)]⟩

/-- Two texts of which the second one has been filled in. -/
def notesFrame : DataFrame where
  definition := some notesDefinition
  atoms := [some ⟨.int32, ⟨⟨.ofAscii "Author", .ofAscii "int32", true⟩, [(0 : Int32)], 0⟩⟩,
    some ⟨.string, ⟨⟨.ofAscii "Text", .ofAscii "string", false⟩, [[], .ofAscii "ok"], 0⟩⟩]
  capacity := 2
  currentIndex := 0
  packetId := 0

theorem notesFrame_filledFrom :
    @DataFrame.FilledFrom .ascii notesDefinitions notesDefinition notesFrame := by
  let _ : QtText := .ascii
  -- The frame is built, given room for two texts, and the texts are assigned.
  let texts : BaseDataAtom (AtomType.Value .string) :=
    ⟨⟨.ofAscii "Text", .ofAscii "string", false⟩, [([] : QString), ([] : QString)], 0⟩
  let empty := ((DataFramesFactory.init notesDefinitions).buildFrame notesDefinition).setCapacity 2
  have found : empty.atoms[1]? = some (some ⟨.string, texts⟩) := rfl
  have assigns := AbstractDataAtom.Assigns.setValues texts [([] : QString), .ofAscii "ok"]
  have assembled : notesFrame.Assembled (.init notesDefinitions) notesDefinition :=
    .assign found assigns (.setCapacity 2 .buildFrame)
  refine ⟨by decide, ?_, assembled, by decide, by decide, ?_, fun single => ?_, fun _ => ?_⟩
  · simp only [notesDefinition, List.forall_mem_cons]
    exact ⟨⟨.int32, by decide⟩, ⟨.string, by decide⟩, by simp⟩
  · intro atom member
    simp only [notesFrame, List.mem_cons, Option.some.injEq, List.not_mem_nil, or_false] at member
    rcases member with rfl | rfl
    · exact fun _ _ => trivial
    · -- The empty text and the other one hold only characters of the code page.
      have texts : ∀ text ∈ [[], QString.ofAscii "ok"],
          (0 : UInt16) ∉ text ∧ Windows1251.Encodable text := by decide
      exact texts
  · cases single
  · exact ⟨_, .tail _ (.head _), rfl, by decide⟩

/-- Two frames of texts are read back. -/
theorem readFrames_writeAll_notes :
    let data := @DataFrame.writeAll .ascii [notesFrame, notesFrame]
    ∃ news : List DataFrame, (@readFrames .ascii (init notesDefinitions) data) = some news ∧
      Loop.Ends (@turn .ascii (init notesDefinitions)) (.ofData data) news (.atEnd data) ∧
      news.map DataFrame.content = [notesFrame.content, notesFrame.content] := by
  intro data
  have filled : ∀ frame ∈ [notesFrame, notesFrame],
      ∃ definition, @DataFrame.FilledFrom .ascii notesDefinitions definition frame := by
    intro frame member
    have same : frame = notesFrame := by simpa using member
    exact ⟨notesDefinition, same ▸ notesFrame_filledFrom⟩
  exact @readFrames_writeAll .ascii _ _ filled (by decide)

end DataFramesFactory

end Threader
