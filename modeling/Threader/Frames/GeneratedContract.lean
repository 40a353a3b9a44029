import Threader.Frames.DataFramesContractBuilder

/-! What the generated header declares, what the implementation defines, and how both are written. -/

namespace Threader

open QString (ofAscii)
open Rendered (plain)
open Replacing (Delimited replaceEach replaceValues separates)

/-- A build function: its name in front of `Frame`, and the text of its argument list. -/
structure Signature where
  name : QString
  arguments : QString
deriving DecidableEq

/-- What a generated header declares. -/
structure HeaderContract where
  projectName : QString
  framesConstants : List QString
  atomsConstants : List QString
  functions : List Signature
deriving DecidableEq

/-- An assignment in a generated function. -/
structure AtomAssignment where
  atomType : QString
  atomConstant : QString
  argument : QString
deriving DecidableEq

/-- A generated function. -/
structure BuildFunction where
  signature : Signature
  frameConstant : QString
  assignments : List AtomAssignment
deriving DecidableEq

/-- What a generated implementation defines, with the names that the constants of the atoms hold. -/
structure ImplementationContract where
  projectName : QString
  framesConstants : List QString
  atomsConstants : List (QString × QString)
  functions : List BuildFunction
deriving DecidableEq

/-- A header in full. -/
def HeaderContract.text (contract : HeaderContract) : QString :=
  Replacing.text <| Templates.headerFile contract.projectName
    (contract.framesConstants.flatMap Templates.frameConstant)
    (contract.atomsConstants.flatMap Templates.atomConstant)
    (contract.functions.flatMap fun function =>
      Templates.functionDefinition function.name (plain function.arguments))

/-- The assignments of a function in full. -/
def BuildFunction.assignAtoms (function : BuildFunction) : Rendered :=
  function.assignments.flatMap fun assignment =>
    Templates.assignAtom assignment.atomType assignment.atomConstant assignment.argument

/-- An implementation in full. -/
def ImplementationContract.text (contract : ImplementationContract) : QString :=
  Replacing.text <| Templates.implementationFile contract.projectName
    (contract.framesConstants.flatMap Templates.frameConstantImplementation)
    (contract.atomsConstants.flatMap fun constant =>
      Templates.atomConstantImplementation constant.1 constant.2)
    (contract.functions.flatMap fun function =>
      Templates.functionImplementation contract.projectName function.signature.name
        (plain function.signature.arguments) function.frameConstant function.assignAtoms)

namespace DataFramesContractBuilder

section Items

variable [QtText] [QtCases]

/-- The frames that functions are generated for, in order. -/
def servedFrames (definitions : DataFramesDefinitions) : List (QString × DataFrameDefinition) :=
  (withoutStar (sortedFramesNames definitions)).filterMap fun frameName =>
    (definitions.definitionByKey frameName).map (frameName, ·)

/-- The function for a frame, after some replacements. -/
def signatureOf (replacements : List (QString × QString)) (frame : QString × DataFrameDefinition) :
    Signature :=
  ⟨replaceEach replacements (toNameCase frame.1),
    Replacing.text (replaceValues replacements (buildFunctionsArguments frame.2))⟩

/-- What the header for a table declares. -/
def headerContract (definitions : DataFramesDefinitions) (projectName : QString) : HeaderContract where
  projectName := replaceEach headerReplacements projectName
  framesConstants := (withoutStar (sortedFramesNames definitions)).map fun frameName =>
    replaceEach headerReplacements (QtText.toUpper frameName)
  atomsConstants := (sortedAtomsNames definitions).map fun atomName =>
    replaceEach headerReplacements (QtText.toUpper atomName)
  functions := (servedFrames definitions).map (signatureOf headerReplacements)

/-- The assignment of an atom, after the replacements in the implementation. -/
def assignmentOf (atomDefinition : DataAtomDefinition) : AtomAssignment :=
  ⟨replaceEach implementationReplacements (typeIn atomsTypes atomDefinition.atomType),
    replaceEach implementationReplacements (QtText.toUpper atomDefinition.name),
    replaceEach implementationReplacements (argumentOf atomDefinition.name)⟩

/-- The function for a frame, after the replacements in the implementation. -/
def functionOf (frame : QString × DataFrameDefinition) : BuildFunction :=
  ⟨signatureOf implementationReplacements frame,
    replaceEach implementationReplacements (QtText.toUpper frame.1),
    frame.2.atoms.map assignmentOf⟩

/-- What the implementation for a table defines. -/
def implementationContract (definitions : DataFramesDefinitions) (projectName : QString) :
    ImplementationContract where
  projectName := replaceEach implementationReplacements projectName
  framesConstants := (withoutStar (sortedFramesNames definitions)).map fun frameName =>
    replaceEach implementationReplacements (QtText.toUpper frameName)
  atomsConstants := (sortedAtomsNames definitions).map fun atomName =>
    (replaceEach implementationReplacements (QtText.toUpper atomName),
      replaceEach implementationReplacements atomName)
  functions := (servedFrames definitions).map functionOf

end Items

section Delimited

/-- The parts of a text separate its values from each other, whichever replacements are made. -/
def Opening (rendered : Rendered) : Prop :=
  rendered.all (fun piece => separates 0x26 implementationReplacements piece.literal) = true

theorem headerReplacements_subset : headerReplacements ⊆ implementationReplacements := by
  decide

theorem starts_implementationReplacements :
    Replacing.Starts 0x26 implementationReplacements := by
  intro pair member
  have all : implementationReplacements.all fun pair => pair.1.head? = some 0x26 := by
    decide
  exact of_decide_eq_true (List.all_eq_true.mp all pair member)

variable {replacements : List (QString × QString)} (fewer : replacements ⊆ implementationReplacements)

include fewer

omit fewer in
theorem Opening.append {front back : Rendered} (first : Opening front) (second : Opening back) :
    Opening (front ++ back) :=
  List.all_append.trans (Bool.and_eq_true_iff.mpr ⟨first, second⟩)

/-- Values between such parts are replaced by themselves, up to a last part. -/
theorem delimited {literal last : QString} (clean : literal.contains 0x26 = false) (value : QString)
    {rendered : Rendered} (opening : Opening rendered) (ends : Opening (plain last)) :
    Delimited replacements (⟨literal, value⟩ :: rendered ++ plain last) := by
  have starts : Replacing.Starts 0x26 replacements := fun pair member =>
    starts_implementationReplacements pair (fewer member)
  refine Replacing.delimited_pieces starts ?_ value (fun piece member => ?_) ?_
  · simpa using clean
  · exact Replacing.separates_of_subset fewer (List.all_eq_true.mp opening piece member)
  · exact Replacing.separates_of_subset fewer (List.all_eq_true.mp ends _ List.mem_cons_self)

theorem delimited_plain {literal : QString} (clean : literal.contains 0x26 = false) :
    Delimited replacements (plain literal) := by
  have starts : Replacing.Starts 0x26 replacements := fun pair member =>
    starts_implementationReplacements pair (fewer member)
  exact Replacing.delimited_literal starts (by simpa using clean)

theorem delimited_frameConstant (name : QString) :
    Delimited replacements (Templates.frameConstant name) :=
  delimited fewer rfl name rfl rfl

theorem delimited_atomConstant (name : QString) :
    Delimited replacements (Templates.atomConstant name) :=
  delimited fewer rfl name rfl rfl

theorem delimited_functionDefinition (name : QString) {arguments : Rendered}
    (opening : Opening arguments) :
    Delimited replacements (Templates.functionDefinition name arguments) :=
  delimited fewer rfl name (.append rfl opening) rfl

theorem delimited_frameNamespaceOpen (name : QString) :
    Delimited replacements (Templates.frameNamespaceOpen name) :=
  delimited fewer rfl name rfl rfl

theorem delimited_frameConstantImplementation (name : QString) :
    Delimited replacements (Templates.frameConstantImplementation name) :=
  delimited fewer rfl name rfl rfl

theorem delimited_atomConstantImplementation (nameUpper name : QString) :
    Delimited replacements (Templates.atomConstantImplementation nameUpper name) :=
  delimited fewer rfl nameUpper rfl rfl

theorem delimited_assignAtom (type nameUpper name : QString) :
    Delimited replacements (Templates.assignAtom type nameUpper name) :=
  delimited fewer rfl type rfl rfl

theorem delimited_functionImplementation (projectName name nameUpper : QString)
    {arguments assignAtoms : Rendered} (opening : Opening arguments)
    (assignments : Delimited replacements assignAtoms) :
    Delimited replacements
      (Templates.functionImplementation projectName name arguments nameUpper assignAtoms) :=
  -- The argument list stands between parts that open.
  (delimited fewer (by rfl) projectName (.append (.append (by rfl) opening) (by rfl)) (by rfl)).append
      assignments
    |>.append (delimited_plain fewer (by rfl))

/-- A header is delimited where its parts are. -/
theorem delimited_headerFile (projectName : QString)
    {framesNamesConstants atomsNamesConstants functions : Rendered}
    (frames : Delimited replacements framesNamesConstants)
    (atoms : Delimited replacements atomsNamesConstants)
    (delimitedFunctions : Delimited replacements functions) :
    Delimited replacements
      (Templates.headerFile projectName framesNamesConstants atomsNamesConstants functions) :=
  (delimited fewer (by rfl) projectName (by rfl) (by rfl)).append frames
    |>.append (delimited_plain fewer (by rfl)) |>.append atoms |>.append (delimited_plain fewer (by rfl))
    |>.append (delimited_frameNamespaceOpen fewer projectName)
    |>.append (delimited fewer (by rfl) projectName (by rfl) (by rfl))
    |>.append delimitedFunctions
    |>.append (delimited fewer (by rfl) projectName (by rfl) (by rfl))

/-- An implementation is delimited where its parts are. -/
theorem delimited_implementationFile (projectName : QString)
    {framesNamesConstants atomsNamesConstants functions : Rendered}
    (frames : Delimited replacements framesNamesConstants)
    (atoms : Delimited replacements atomsNamesConstants)
    (delimitedFunctions : Delimited replacements functions) :
    Delimited replacements
      (Templates.implementationFile projectName framesNamesConstants atomsNamesConstants
        functions) :=
  (delimited fewer (by rfl) projectName (by rfl) (by rfl)).append frames
    |>.append (delimited fewer (by rfl) projectName (by rfl) (by rfl))
    |>.append atoms |>.append (delimited_plain fewer (by rfl))
    |>.append (delimited_frameNamespaceOpen fewer projectName)
    |>.append (delimited fewer (by rfl) projectName (by rfl) (by rfl))
    |>.append delimitedFunctions |>.append (delimited_plain fewer (by rfl))

end Delimited

section Values

variable (replacements : List (QString × QString))

@[simp] theorem replaceValues_plain (literal : QString) :
    replaceValues replacements (plain literal) = plain literal := by
  simp [plain]

theorem replaceValues_flatMap {Item : Type} (items : List Item) (rendered : Item → Rendered) :
    replaceValues replacements (items.flatMap rendered) =
      items.flatMap fun item => replaceValues replacements (rendered item) :=
  List.map_flatMap

theorem replaceValues_headerFile (projectName : QString)
    (framesNamesConstants atomsNamesConstants functions : Rendered) :
    replaceValues replacements
        (Templates.headerFile projectName framesNamesConstants atomsNamesConstants functions) =
      Templates.headerFile (replaceEach replacements projectName)
        (replaceValues replacements framesNamesConstants)
        (replaceValues replacements atomsNamesConstants) (replaceValues replacements functions) := by
  simp [Templates.headerFile, Templates.frameNamespaceOpen]

theorem replaceValues_implementationFile (projectName : QString)
    (framesNamesConstants atomsNamesConstants functions : Rendered) :
    replaceValues replacements
        (Templates.implementationFile projectName framesNamesConstants atomsNamesConstants
          functions) =
      Templates.implementationFile (replaceEach replacements projectName)
        (replaceValues replacements framesNamesConstants)
        (replaceValues replacements atomsNamesConstants) (replaceValues replacements functions) := by
  simp [Templates.implementationFile, Templates.frameNamespaceOpen]

end Values

section Contents

variable [QtText] [QtCases]

omit [QtText] in
/-- The parts of an argument list separate its types and arguments. -/
theorem opening_buildFunctionsArguments (definition : DataFrameDefinition) :
    Opening (buildFunctionsArguments definition) := by
  have empty : Opening [] := rfl
  refine EventMachine.run_invariant appendArgument (fun result atomDefinition opening => ?_) empty
    definition.atoms
  have last : Opening (Templates.functionArgument (typeIn cppTypes atomDefinition.atomType)
      (argumentOf atomDefinition.name)) := rfl
  unfold appendArgument
  -- There is a comma behind earlier arguments.
  split
  · exact (opening.append (by rfl)).append last
  · exact opening.append last

theorem delimited_buildImplementationAssignAtoms {replacements : List (QString × QString)}
    (fewer : replacements ⊆ implementationReplacements) (definition : DataFrameDefinition) :
    Delimited replacements (buildImplementationAssignAtoms definition) :=
  Delimited.flatMap fun atomDefinition _ =>
    delimited_assignAtom fewer (typeIn atomsTypes atomDefinition.atomType)
      (QtText.toUpper atomDefinition.name) (argumentOf atomDefinition.name)

omit [QtCases] in
/-- The frames that have definitions are turned into functions one by one. -/
theorem mapM_definitions {definitions : DataFramesDefinitions} {framesNames : List QString}
    (defined : ∀ frameName ∈ framesNames, (definitions.definitionByKey frameName).isSome)
    (render : QString → DataFrameDefinition → Rendered) :
    (framesNames.mapM fun frameName => do
      let definition ← definitions.definitionByKey frameName
      return render frameName definition) =
    some ((framesNames.filterMap fun frameName =>
      (definitions.definitionByKey frameName).map (frameName, ·)).map fun frame =>
        render frame.1 frame.2) := by
  induction framesNames with
  | nil => rfl
  | cons frameName framesNames ih =>
    obtain ⟨first, others⟩ := List.forall_mem_cons.mp defined
    obtain ⟨definition, found⟩ := Option.isSome_iff_exists.mp first
    rw [List.mapM_cons, ih others, List.filterMap_cons, found]
    rfl

/-- The functions of the header, one for each frame. -/
theorem buildHeaderFunctionsDefinitions_eq {definitions : DataFramesDefinitions}
    (defined : ∀ frameName ∈ withoutStar (sortedFramesNames definitions),
      (definitions.definitionByKey frameName).isSome) :
    buildHeaderFunctionsDefinitions definitions (sortedFramesNames definitions) =
      some ((servedFrames definitions).flatMap fun frame =>
        Templates.functionDefinition (toNameCase frame.1) (buildFunctionsArguments frame.2)) := by
  have functions := mapM_definitions defined fun frameName definition =>
    Templates.functionDefinition (toNameCase frameName) (buildFunctionsArguments definition)
  rw [buildHeaderFunctionsDefinitions, functions]
  exact congrArg some List.flatMap_def.symm

/-- The functions of the implementation, one for each frame. -/
theorem buildFunctionsImplementation_eq {definitions : DataFramesDefinitions} (projectName : QString)
    (defined : ∀ frameName ∈ withoutStar (sortedFramesNames definitions),
      (definitions.definitionByKey frameName).isSome) :
    buildFunctionsImplementation projectName definitions (sortedFramesNames definitions) =
      some ((servedFrames definitions).flatMap fun frame =>
        Templates.functionImplementation projectName (toNameCase frame.1)
          (buildFunctionsArguments frame.2) (QtText.toUpper frame.1)
          (buildImplementationAssignAtoms frame.2)) := by
  have functions := mapM_definitions defined fun frameName definition =>
    Templates.functionImplementation projectName (toNameCase frameName)
      (buildFunctionsArguments definition) (QtText.toUpper frameName)
      (buildImplementationAssignAtoms definition)
  rw [buildFunctionsImplementation, functions]
  exact congrArg some List.flatMap_def.symm

/-- The text of the header is the one of what it declares. -/
theorem headerContent_eq (definitions : DataFramesDefinitions) (projectName : QString) :
    replaceEach headerReplacements (Replacing.text (Templates.headerFile projectName
      (buildHeaderFramesConstantsDefinitions (sortedFramesNames definitions))
      (buildHeaderAtomsConstantsDefinitions (sortedAtomsNames definitions))
      ((servedFrames definitions).flatMap fun frame =>
        Templates.functionDefinition (toNameCase frame.1) (buildFunctionsArguments frame.2)))) =
      (headerContract definitions projectName).text := by
  have fewer := headerReplacements_subset
  have parts := delimited_headerFile fewer projectName
    (Delimited.flatMap fun frameName (_ : frameName ∈ withoutStar (sortedFramesNames definitions)) =>
      delimited_frameConstant fewer (QtText.toUpper frameName))
    (Delimited.flatMap fun atomName (_ : atomName ∈ sortedAtomsNames definitions) =>
      delimited_atomConstant fewer (QtText.toUpper atomName))
    (Delimited.flatMap fun frame (_ : frame ∈ servedFrames definitions) =>
      delimited_functionDefinition fewer (toNameCase frame.1)
        (opening_buildFunctionsArguments frame.2))
  have functions : Replacing.text (replaceValues headerReplacements
      ((servedFrames definitions).flatMap fun frame =>
        Templates.functionDefinition (toNameCase frame.1) (buildFunctionsArguments frame.2))) =
      Replacing.text (((servedFrames definitions).map (signatureOf headerReplacements)).flatMap
        fun function => Templates.functionDefinition function.name (plain function.arguments)) := by
    -- An argument list is replaced in part by part, and then written out as one text.
    rw [replaceValues_flatMap, List.flatMap_map, Replacing.text_flatMap, Replacing.text_flatMap]
    simp [Templates.functionDefinition, signatureOf, plain]
  refine parts.replaceEach_text.trans ?_
  rw [replaceValues_headerFile]
  simp only [HeaderContract.text, headerContract, Templates.headerFile, Replacing.text_append, functions]
  simp [replaceValues_flatMap, List.flatMap_map, Templates.frameConstant, Templates.atomConstant]

/-- The text of the implementation is the one of what it defines. -/
theorem implementationContent_eq (definitions : DataFramesDefinitions) (projectName : QString) :
    replaceEach implementationReplacements (Replacing.text (Templates.implementationFile projectName
      (buildImplementationFramesConstantsDefinitions (sortedFramesNames definitions))
      (buildImplementationAtomsConstantsDefinitions (sortedAtomsNames definitions))
      ((servedFrames definitions).flatMap fun frame =>
        Templates.functionImplementation projectName (toNameCase frame.1)
          (buildFunctionsArguments frame.2) (QtText.toUpper frame.1)
          (buildImplementationAssignAtoms frame.2)))) =
      (implementationContract definitions projectName).text := by
  have fewer := List.Subset.refl implementationReplacements
  have parts := delimited_implementationFile fewer projectName
    (Delimited.flatMap fun frameName (_ : frameName ∈ withoutStar (sortedFramesNames definitions)) =>
      delimited_frameConstantImplementation fewer (QtText.toUpper frameName))
    (Delimited.flatMap fun atomName (_ : atomName ∈ sortedAtomsNames definitions) =>
      delimited_atomConstantImplementation fewer (QtText.toUpper atomName) atomName)
    (Delimited.flatMap fun frame (_ : frame ∈ servedFrames definitions) =>
      delimited_functionImplementation fewer projectName (toNameCase frame.1)
        (QtText.toUpper frame.1) (opening_buildFunctionsArguments frame.2)
        (delimited_buildImplementationAssignAtoms fewer frame.2))
  have functions : Replacing.text (replaceValues implementationReplacements
      ((servedFrames definitions).flatMap fun frame =>
        Templates.functionImplementation projectName (toNameCase frame.1)
          (buildFunctionsArguments frame.2) (QtText.toUpper frame.1)
          (buildImplementationAssignAtoms frame.2))) =
      Replacing.text (((servedFrames definitions).map functionOf).flatMap fun function =>
        Templates.functionImplementation (replaceEach implementationReplacements projectName)
          function.signature.name (plain function.signature.arguments) function.frameConstant
          function.assignAtoms) := by
    -- So are the argument list and the assignments of a function.
    rw [replaceValues_flatMap, List.flatMap_map, Replacing.text_flatMap, Replacing.text_flatMap]
    simp [Templates.functionImplementation, functionOf, signatureOf, plain,
      buildImplementationAssignAtoms, BuildFunction.assignAtoms, replaceValues_flatMap,
      List.flatMap_map, Templates.assignAtom, assignmentOf]
  refine parts.replaceEach_text.trans ?_
  rw [replaceValues_implementationFile]
  simp only [ImplementationContract.text, implementationContract, Templates.implementationFile,
    Replacing.text_append, functions]
  simp [replaceValues_flatMap, List.flatMap_map, Templates.frameConstantImplementation,
    Templates.atomConstantImplementation]

/-- A table in which all names have definitions is turned into both contracts. -/
theorem build_eq {definitions : DataFramesDefinitions} (projectName : QString)
    (filled : definitions.framesHash ≠ [])
    (defined : ∀ frameName ∈ withoutStar (sortedFramesNames definitions),
      (definitions.definitionByKey frameName).isSome) :
    (ofDefinitions (some definitions) projectName).build =
      some (true, ⟨some definitions, projectName, (headerContract definitions projectName).text,
        (implementationContract definitions projectName).text⟩) := by
  -- The table is not empty, and each function can be generated.
  have nonempty : ¬ definitions.keys.length < 1 := by
    have positive := List.length_pos_iff.mpr filled
    rw [DataFramesDefinitions.keys, List.length_map]
    omega
  rw [build, ofDefinitions]
  dsimp only
  rw [if_neg nonempty, buildHeader, buildHeaderFunctionsDefinitions_eq defined, buildImplementation,
    buildFunctionsImplementation_eq projectName defined, ← headerContent_eq,
    ← implementationContent_eq]
  rfl

end Contents

end DataFramesContractBuilder

end Threader
