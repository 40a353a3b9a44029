import Threader.Base.Heap
import Threader.Frames.DefinitionsLoading

/-! `readFromReader` over the definitions themselves, which it shares with the table of frames. -/

namespace Threader

/-- `DataFramesDefinitions` as pointers to definitions, all of which exist. -/
structure SharedDefinitions where
  heap : Heap DataFrameDefinition
  framesHash : List (QString × Heap.Address)
  version : QString
  fileName : QString
  error : QString
  allocated : ∀ entry ∈ framesHash, heap.Allocated entry.2

namespace SharedDefinitions

/-- `make_shared`, followed by `_framesHash.insert(key, definition)`. -/
def insert (shared : SharedDefinitions) (key : QString) (definition : DataFrameDefinition) :
    SharedDefinitions :=
  { shared with
    heap := shared.heap.allocate definition
    framesHash := (key, shared.heap.fresh) :: shared.framesHash.filter fun entry => entry.1 ≠ key
    allocated := by
      intro entry member
      unfold Heap.Allocated
      rw [Heap.fresh_allocate]
      rcases List.mem_cons.mp member with rfl | member
      · exact Nat.lt_succ_self _
      · exact Nat.lt_succ_of_lt (shared.allocated entry (List.mem_filter.mp member).1) }

/-- `dataFrame->appendAtom(atom)`. -/
def appendAtom (shared : SharedDefinitions) (dataFrame : Heap.Address) (atom : DataAtomDefinition) :
    SharedDefinitions :=
  { shared with
    heap := shared.heap.update dataFrame fun definition =>
      { definition with atoms := definition.atoms ++ [atom] }
    allocated := by
      intro entry member
      unfold Heap.Allocated
      rw [Heap.fresh_update]
      exact shared.allocated entry member }

/-- `definitionByKey(key)`: the pointer that is stored under a name in any case, or null. -/
def definitionByKey [QtText] (shared : SharedDefinitions) (key : QString) : Option Heap.Address :=
  shared.framesHash.lookup (QtText.toUpper key)

/-- What the pointer for a key points to. -/
def definition [QtText] (shared : SharedDefinitions) (key : QString) :
    Option DataFrameDefinition :=
  (shared.definitionByKey key).bind shared.heap.read

/-- Some pointers with what they point to. -/
def pointedTo (heap : Heap DataFrameDefinition) (entries : List (QString × Heap.Address)) :
    List (QString × DataFrameDefinition) :=
  entries.filterMap fun entry => (heap.read entry.2).map (entry.1, ·)

/-- The table by value. -/
def contents (shared : SharedDefinitions) : LoadedDefinitions where
  definitions := ⟨pointedTo shared.heap shared.framesHash⟩
  version := shared.version
  fileName := shared.fileName
  error := shared.error

end SharedDefinitions

/-- The state of `readFromReader`: the table, and the pointer to the frame at hand. -/
structure SharedReading where
  shared : SharedDefinitions
  dataFrame : Option Heap.Address

namespace SharedReading

variable [QtText] [QtAttributes]

/-- The tag `<DataFrames>`. -/
def readDataFrames (reading : SharedReading) (element : XmlElement) : SharedReading :=
  match element.value "Version" with
  | some version => { reading with shared := { reading.shared with version } }
  | none => reading

/-- The tag `<DataFrame>`. -/
def readDataFrame (reading : SharedReading) (element : XmlElement) : SharedReading :=
  let definition := element.parseDataFrameAttributes
  let key := QtText.toUpper (QtText.toUpper definition.name)
  { shared := reading.shared.insert key definition
    dataFrame := some reading.shared.heap.fresh }

/-- The tag `<DataAtom>`, or `none` when a null pointer is dereferenced. -/
def readDataAtom (reading : SharedReading) (element : XmlElement) : Option SharedReading :=
  reading.dataFrame.map fun dataFrame =>
    { reading with shared := reading.shared.appendAtom dataFrame element.parseDataAtomAttributes }

/-- One turn of the loop of `readFromReader`. -/
def readToken (reading : SharedReading) : XmlToken → Option SharedReading
  | .startElement element =>
    let reading := if element.Named "DataFrames" then reading.readDataFrames element else reading
    let reading := if element.Named "DataFrame" then reading.readDataFrame element else reading
    if element.Named "DataAtom" then reading.readDataAtom element else some reading
  | .startDocument | .other => some reading

end SharedReading

/-- `readFromReader(xml)`, or `none` when a null pointer is dereferenced. -/
def SharedDefinitions.readFromReader [QtText] [QtAttributes] (shared : SharedDefinitions)
    (document : XmlDocument) : Option SharedDefinitions :=
  (document.tokens.foldlM SharedReading.readToken ⟨shared, none⟩).map SharedReading.shared

/-- The pointer at hand points to the definition of one key, which no other key shares. -/
def SharedReading.PointsAt (reading : SharedReading) (dataFrame : Heap.Address) (key : QString) :
    Prop :=
  reading.shared.heap.Allocated dataFrame ∧
    ∀ entry ∈ reading.shared.framesHash, entry.2 = dataFrame ↔ entry.1 = key

/-- A state with pointers, and the same state with keys in their place. -/
structure SharedReading.Represents (pointers : SharedReading) (keys : DefinitionsReading) : Prop where
  contents : pointers.shared.contents = keys.loaded
  pointer : match pointers.dataFrame, keys.dataFrame with
    | none, none => True
    | some dataFrame, some key => pointers.PointsAt dataFrame key
    | _, _ => False

namespace SharedDefinitions

/-- What a key points to is what the table by value holds for it. -/
theorem lookup_pointedTo {heap : Heap DataFrameDefinition} (key : QString)
    {entries : List (QString × Heap.Address)}
    (allocated : ∀ entry ∈ entries, heap.Allocated entry.2) :
    (pointedTo heap entries).lookup key = (entries.lookup key).bind heap.read := by
  -- Every pointer of the table can be followed, so no entry is lost on the way.
  induction entries with
  | nil => rfl
  | cons entry entries ih =>
    obtain ⟨first, rest⟩ := List.forall_mem_cons.mp allocated
    obtain ⟨definition, found⟩ := Heap.read_isSome first
    rw [pointedTo, List.filterMap_cons, found, List.lookup_cons]
    -- No entry is left out, so both lists are searched alike.
    refine (List.lookup_cons).trans ?_
    split
    · exact found.symm
    · exact ih rest

theorem definitionByKey_contents [QtText] (shared : SharedDefinitions) (key : QString) :
    shared.contents.definitions.definitionByKey key = shared.definition key :=
  lookup_pointedTo _ shared.allocated

/-- A new definition goes into the table by value. -/
theorem contents_insert (shared : SharedDefinitions) (key : QString)
    (definition : DataFrameDefinition) :
    (shared.insert key definition).contents =
      { shared.contents with
        definitions := shared.contents.definitions.insert key definition } := by
  -- A new address is used by no old entry, so the old definitions stay as they are.
  have others : pointedTo (shared.heap.allocate definition)
      (shared.framesHash.filter fun entry => entry.1 ≠ key) =
      (pointedTo shared.heap shared.framesHash).filter fun entry => entry.1 ≠ key := by
    rw [pointedTo, pointedTo, List.filterMap_filter, List.filter_filterMap]
    refine List.filterMap_congr fun entry member => ?_
    obtain ⟨old, found⟩ := Heap.read_isSome (shared.allocated entry member)
    rw [Heap.read_allocate_of_allocated definition (shared.allocated entry member), found]
    by_cases same : entry.1 = key <;> simp [same, Option.filter]
  have first : pointedTo (shared.heap.allocate definition)
      ((key, shared.heap.fresh) :: shared.framesHash.filter fun entry => entry.1 ≠ key) =
      (key, definition) :: (pointedTo shared.heap shared.framesHash).filter fun entry =>
        entry.1 ≠ key := by
    rw [← others]
    exact List.filterMap_cons_some (by rw [Heap.read_allocate_fresh]; rfl)
  exact congrArg (fun entries => { shared.contents with definitions := ⟨entries⟩ }) first

/-- An atom goes to the definition of the key that alone has the pointer. -/
theorem contents_appendAtom (shared : SharedDefinitions) {dataFrame : Heap.Address} {key : QString}
    (atom : DataAtomDefinition)
    (unshared : ∀ entry ∈ shared.framesHash, entry.2 = dataFrame ↔ entry.1 = key) :
    (shared.appendAtom dataFrame atom).contents =
      { shared.contents with
        definitions := shared.contents.definitions.appendAtom key atom } := by
  -- The update reaches the entries that hold the pointer, which is the one of the key.
  have changed : pointedTo (shared.appendAtom dataFrame atom).heap shared.framesHash =
      (shared.contents.definitions.appendAtom key atom).framesHash := by
    refine Eq.trans ?_ (List.map_filterMap ..).symm
    refine List.filterMap_congr fun entry member => ?_
    unfold appendAtom
    by_cases same : entry.1 = key
    · have here := (unshared entry member).mpr same
      rw [here, Heap.read_update_self]
      cases shared.heap.read dataFrame <;> simp [same]
    · have elsewhere : dataFrame ≠ entry.2 := fun here => same ((unshared entry member).mp here.symm)
      dsimp only
      rw [Heap.read_update_ne _ _ elsewhere]
      cases shared.heap.read entry.2 <;> simp [same]
  exact congrArg (fun entries => { shared.contents with definitions := ⟨entries⟩ }) changed

end SharedDefinitions

namespace SharedReading

variable [QtText] [QtAttributes]

omit [QtText] [QtAttributes] in
/-- The tag `<DataFrames>` has nothing to do with the pointer. -/
theorem Represents.readDataFrames {pointers : SharedReading} {keys : DefinitionsReading}
    (represents : pointers.Represents keys) (element : XmlElement) :
    (pointers.readDataFrames element).Represents (keys.readDataFrames element) := by
  -- Only the version is stored, on both sides.
  unfold SharedReading.readDataFrames DefinitionsReading.readDataFrames
  cases element.value "Version" with
  | none => exact represents
  | some version =>
    exact ⟨congrArg (fun loaded => { loaded with version }) represents.contents,
      represents.pointer⟩

/-- The tag `<DataFrame>` leaves a pointer that is new, so that no other key has it. -/
theorem Represents.readDataFrame {pointers : SharedReading} {keys : DefinitionsReading}
    (represents : pointers.Represents keys) (element : XmlElement) :
    (pointers.readDataFrame element).Represents (keys.readDataFrame element) := by
  -- Both sides store the definition, one of them behind a fresh pointer.
  constructor
  · refine (SharedDefinitions.contents_insert ..).trans ?_
    rw [represents.contents]
    rfl
  · constructor
    · unfold Heap.Allocated SharedReading.readDataFrame SharedDefinitions.insert
      simp
    · intro entry member
      rcases List.mem_cons.mp member with rfl | member
      · exact iff_of_true rfl rfl
      · -- The others were allocated before, and are stored under other keys.
        have kept := List.mem_filter.mp member
        have old := pointers.shared.allocated entry kept.1
        exact iff_of_false (Nat.ne_of_lt old) (by simpa using kept.2)

omit [QtText] in
/-- The tag `<DataAtom>` changes the same definition through the pointer as through the key. -/
theorem Represents.readDataAtom {pointers : SharedReading} {keys : DefinitionsReading}
    (represents : pointers.Represents keys) (element : XmlElement) :
    Option.Rel Represents (pointers.readDataAtom element) (keys.readDataAtom element) := by
  -- Without a frame at hand both sides fail, and with one both change it.
  obtain ⟨shared, pointer⟩ := pointers
  obtain ⟨loaded, key⟩ := keys
  obtain ⟨contents, points⟩ := represents
  cases pointer with
  | none =>
    cases key with
    | none => exact .none
    | some key => exact points.elim
  | some dataFrame =>
    cases key with
    | none => exact points.elim
    | some key =>
      obtain ⟨allocated, unshared⟩ := points
      refine .some ⟨?_, ?_, unshared⟩
      · refine (SharedDefinitions.contents_appendAtom shared _ unshared).trans ?_
        rw [show shared.contents = loaded from contents]
      · unfold Heap.Allocated SharedDefinitions.appendAtom
        rwa [Heap.fresh_update]

/-- One turn of the loop does the same with pointers as with keys. -/
theorem Represents.readToken {pointers : SharedReading} {keys : DefinitionsReading}
    (represents : pointers.Represents keys) (token : XmlToken) :
    Option.Rel Represents (pointers.readToken token) (keys.readToken token) := by
  -- A tag is compared with three names in turn, and each branch keeps the relation.
  cases token with
  | startDocument => exact .some represents
  | other => exact .some represents
  | startElement element =>
    unfold SharedReading.readToken DefinitionsReading.readToken DefinitionsReading.readFrames
    dsimp only
    have version : Represents
        (if element.Named "DataFrames" then pointers.readDataFrames element else pointers)
        (if element.Named "DataFrames" then keys.readDataFrames element else keys) := by
      split
      · exact represents.readDataFrames element
      · exact represents
    generalize (if element.Named "DataFrames" then pointers.readDataFrames element
      else pointers) = pointers at version ⊢
    generalize (if element.Named "DataFrames" then keys.readDataFrames element
      else keys) = keys at version ⊢
    have frame : Represents
        (if element.Named "DataFrame" then pointers.readDataFrame element else pointers)
        (if element.Named "DataFrame" then keys.readDataFrame element else keys) := by
      split
      · exact version.readDataFrame element
      · exact version
    split
    · exact frame.readDataAtom element
    · exact .some frame

/-- The whole loop does the same with pointers as with keys. -/
theorem Represents.foldlM_readToken {pointers : SharedReading} {keys : DefinitionsReading}
    (represents : pointers.Represents keys) (tokens : List XmlToken) :
    Option.Rel Represents (tokens.foldlM SharedReading.readToken pointers)
      (tokens.foldlM DefinitionsReading.readToken keys) := by
  -- The two loops run in step, and fail at the same token if at all.
  induction tokens generalizing pointers keys with
  | nil => exact .some represents
  | cons token tokens ih =>
    rw [List.foldlM_cons, List.foldlM_cons]
    have step := represents.readToken token
    revert step
    generalize pointers.readToken token = pointers
    generalize keys.readToken token = keys
    intro step
    cases step with
    | none => exact .none
    | some step => exact ih step

end SharedReading

/-- Reading with pointers leaves the table that reading with keys leaves. -/
theorem SharedDefinitions.contents_readFromReader [QtText] [QtAttributes]
    (shared : SharedDefinitions) (document : XmlDocument) :
    (shared.readFromReader document).map contents = shared.contents.readFromReader document := by
  -- Neither loop has a frame at hand when it starts.
  unfold SharedDefinitions.readFromReader LoadedDefinitions.readFromReader
  have start : SharedReading.Represents ⟨shared, none⟩ ⟨shared.contents, none⟩ := ⟨rfl, trivial⟩
  have run := start.foldlM_readToken document.tokens
  revert run
  generalize document.tokens.foldlM SharedReading.readToken _ = pointers
  generalize document.tokens.foldlM DefinitionsReading.readToken _ = keys
  intro run
  cases run with
  | none => rfl
  | some run => exact congrArg some run.contents

end Threader
