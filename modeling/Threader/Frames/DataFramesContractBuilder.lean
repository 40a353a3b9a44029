import Mathlib.Data.List.Sort
import Threader.Frames.DataFramesLiterals
import Threader.Frames.DataFramesMask

/-! `DataFramesContractBuilder`: the source text that is generated for a table of definitions. -/

namespace Threader

open DataFramesMask (STAR)
open QString (ofAscii)
open Rendered (plain)

/-- The treatment of cases that is left to Qt. -/
class QtCases where
  /-- `QChar::isLetterOrNumber`. -/
  isLetterOrNumber : UInt16 → Bool
  /-- `QChar::toTitleCase`. -/
  toTitleCase : UInt16 → UInt16
  /-- `QChar::toLower`. -/
  toLower : UInt16 → UInt16
  /-- What a comparison with `Qt::CaseInsensitive` compares. -/
  toCaseFolded : QString → QString

/-- The lower case of a code unit below `0x80`. -/
def lowerAscii (unit : UInt16) : UInt16 :=
  if 0x41 ≤ unit ∧ unit ≤ 0x5A then unit + 0x20 else unit

/-- A digit or a letter below `0x80`. -/
def isAlphanumericAscii (unit : UInt16) : Bool :=
  0x30 ≤ unit && unit ≤ 0x39 || 0x41 ≤ unit && unit ≤ 0x5A || 0x61 ≤ unit && unit ≤ 0x7A

/-- Cases as they are for ASCII characters. -/
@[reducible]
def QtCases.ascii : QtCases where
  isLetterOrNumber := isAlphanumericAscii
  toTitleCase := upperAscii
  toLower := lowerAscii
  toCaseFolded text := text.map lowerAscii

/-- ASCII characters are treated one by one, as digits and letters in two cases. -/
structure QtCases.OfAscii [QtCases] : Prop where
  isLetterOrNumber : ∀ {unit : UInt16}, unit < 0x80 →
    QtCases.isLetterOrNumber unit = isAlphanumericAscii unit
  toTitleCase : ∀ {unit : UInt16}, unit < 0x80 → QtCases.toTitleCase unit = upperAscii unit
  toLower : ∀ {unit : UInt16}, unit < 0x80 → QtCases.toLower unit = lowerAscii unit
  toCaseFolded : ∀ {text : QString}, text.Ascii → QtCases.toCaseFolded text = text.map lowerAscii

theorem QtCases.ofAscii_ascii : @QtCases.OfAscii .ascii :=
  @OfAscii.mk .ascii (fun _ => rfl) (fun _ => rfl) (fun _ => rfl) fun _ => rfl

/-- `DataFramesContractBuilder`: a table, and the two texts that were generated for it. -/
structure DataFramesContractBuilder where
  definitions : Option DataFramesDefinitions
  projectName : QString
  headerContent : QString
  implementationContent : QString
deriving DecidableEq

namespace DataFramesContractBuilder

/-- The constructor, with the files that the texts are meant for left out. -/
def ofDefinitions (definitions : Option DataFramesDefinitions) (projectName : QString) :
    DataFramesContractBuilder :=
  ⟨definitions, projectName, [], []⟩

/-- `_cppTypes`, under the names of the types in lower case. -/
def cppTypes : List (QString × QString) :=
  [(ofAscii "boolean", ofAscii "bool"), (ofAscii "uint8", ofAscii "uint8_t"),
    (ofAscii "int8", ofAscii "int8_t"), (ofAscii "uint16", ofAscii "uint16_t"),
    (ofAscii "int16", ofAscii "int16_t"), (ofAscii "uint32", ofAscii "uint32_t"),
    (ofAscii "int32", ofAscii "int32_t"), (ofAscii "uint64", ofAscii "uint64_t"),
    (ofAscii "int64", ofAscii "int64_t"), (ofAscii "single", ofAscii "float"),
    (ofAscii "double", ofAscii "double"), (ofAscii "datetime", ofAscii "QDateTime"),
    (ofAscii "string", ofAscii "QString"), (ofAscii "bytearray", ofAscii "QByteArray"),
    (ofAscii "guid", ofAscii "QUuid")]

/-- `_atomsTypes`, under the names of the types in lower case. -/
def atomsTypes : List (QString × QString) :=
  [(ofAscii "boolean", ofAscii "BooleanDataAtom"), (ofAscii "uint8", ofAscii "UInt8DataAtom"),
    (ofAscii "int8", ofAscii "Int8DataAtom"), (ofAscii "uint16", ofAscii "UInt16DataAtom"),
    (ofAscii "int16", ofAscii "Int16DataAtom"), (ofAscii "uint32", ofAscii "UInt32DataAtom"),
    (ofAscii "int32", ofAscii "Int32DataAtom"), (ofAscii "uint64", ofAscii "UInt64DataAtom"),
    (ofAscii "int64", ofAscii "Int64DataAtom"), (ofAscii "single", ofAscii "FloatDataAtom"),
    (ofAscii "double", ofAscii "DoubleDataAtom"), (ofAscii "datetime", ofAscii "DateTimeDataAtom"),
    (ofAscii "string", ofAscii "StringDataAtom"), (ofAscii "bytearray", ofAscii "ByteArrayDataAtom"),
    (ofAscii "guid", ofAscii "GuidDataAtom")]

/-- The entry of a type, if there is one. -/
def typeIn (types : List (QString × QString)) (type : QString) : QString :=
  (types.lookup type).getD (ofAscii "UnknownType")

variable [QtText] [QtCases]

/-- The loop of `toNameCase`, which knows whether a letter is the first one of a word. -/
def nameCaseFrom : Bool → QString → QString
  | _, [] => []
  | first, unit :: text =>
    if QtCases.isLetterOrNumber unit then
      (if first then QtCases.toTitleCase unit else QtCases.toLower unit) :: nameCaseFrom false text
    else unit :: nameCaseFrom true text

/-- `toNameCase(fromString)`. -/
def toNameCase (fromString : QString) : QString := nameCaseFrom true fromString

/-- The argument for an atom: its name, with the first letter in lower case. -/
def argumentOf : QString → QString
  | [] => []
  | unit :: name => QtCases.toLower unit :: name

/-- The names of the frames that the loops do not pass over. -/
def withoutStar (framesNames : List QString) : List QString := framesNames.filter (STAR ∉ ·)

/-- `buildHeaderFramesConstantsDefinitions(framesNames)`. -/
def buildHeaderFramesConstantsDefinitions (framesNames : List QString) : Rendered :=
  (withoutStar framesNames).flatMap fun frameName =>
    Templates.frameConstant (QtText.toUpper frameName)

/-- `buildHeaderAtomsConstantsDefinitions(atomsNames)`. -/
def buildHeaderAtomsConstantsDefinitions (atomsNames : List QString) : Rendered :=
  atomsNames.flatMap fun atomName => Templates.atomConstant (QtText.toUpper atomName)

/-- A turn of the loop of `buildFunctionsArguments`. -/
def appendArgument (result : Rendered) (atomDefinition : DataAtomDefinition) : Rendered :=
  (if (Replacing.text result).length > 0 then result ++ plain (ofAscii ", ") else result) ++
    Templates.functionArgument (typeIn cppTypes atomDefinition.atomType)
      (argumentOf atomDefinition.name)

/-- `buildFunctionsArguments(definition)`. -/
def buildFunctionsArguments (definition : DataFrameDefinition) : Rendered :=
  definition.atoms.foldl appendArgument []

/-- `buildHeaderFunctionsDefinitions(framesNames)`, unless a name has no definition. -/
def buildHeaderFunctionsDefinitions (definitions : DataFramesDefinitions)
    (framesNames : List QString) : Option Rendered := do
  let functions ← (withoutStar framesNames).mapM fun frameName => do
    let definition ← definitions.definitionByKey frameName
    return Templates.functionDefinition (toNameCase frameName) (buildFunctionsArguments definition)
  return functions.flatten

/-- `buildHeader(framesNames, atomsNames)`. -/
def buildHeader (projectName : QString) (definitions : DataFramesDefinitions)
    (framesNames atomsNames : List QString) : Option Rendered := do
  let functions ← buildHeaderFunctionsDefinitions definitions framesNames
  return Templates.headerFile projectName (buildHeaderFramesConstantsDefinitions framesNames)
    (buildHeaderAtomsConstantsDefinitions atomsNames) functions

/-- `buildImplementationFramesConstantsDefinitions(framesNames)`. -/
def buildImplementationFramesConstantsDefinitions (framesNames : List QString) : Rendered :=
  (withoutStar framesNames).flatMap fun frameName =>
    Templates.frameConstantImplementation (QtText.toUpper frameName)

/-- `buildImplementationAtomsConstantsDefinitions(atomsNames)`. -/
def buildImplementationAtomsConstantsDefinitions (atomsNames : List QString) : Rendered :=
  atomsNames.flatMap fun atomName =>
    Templates.atomConstantImplementation (QtText.toUpper atomName) atomName

/-- `buildImplementationAssignAtoms(definition)`. -/
def buildImplementationAssignAtoms (definition : DataFrameDefinition) : Rendered :=
  definition.atoms.flatMap fun atomDefinition =>
    Templates.assignAtom (typeIn atomsTypes atomDefinition.atomType)
      (QtText.toUpper atomDefinition.name) (argumentOf atomDefinition.name)

/-- `buildFunctionsImplementation(framesNames)`, unless a name has no definition. -/
def buildFunctionsImplementation (projectName : QString) (definitions : DataFramesDefinitions)
    (framesNames : List QString) : Option Rendered := do
  let functions ← (withoutStar framesNames).mapM fun frameName => do
    let definition ← definitions.definitionByKey frameName
    return Templates.functionImplementation projectName (toNameCase frameName)
      (buildFunctionsArguments definition) (QtText.toUpper frameName)
      (buildImplementationAssignAtoms definition)
  return functions.flatten

/-- `buildImplementation(framesNames, atomsNames)`. -/
def buildImplementation (projectName : QString) (definitions : DataFramesDefinitions)
    (framesNames atomsNames : List QString) : Option Rendered := do
  let functions ← buildFunctionsImplementation projectName definitions framesNames
  return Templates.implementationFile projectName
    (buildImplementationFramesConstantsDefinitions framesNames)
    (buildImplementationAtomsConstantsDefinitions atomsNames) functions

/-- `sort(Qt::CaseInsensitive)`. -/
def sortAnyCase (names : List QString) : List QString :=
  names.insertionSort fun left right => QtCases.toCaseFolded left ≤ QtCases.toCaseFolded right

/-- `contains(name, Qt::CaseInsensitive)`. -/
def containsAnyCase (names : List QString) (name : QString) : Bool :=
  names.any fun other => QtCases.toCaseFolded other = QtCases.toCaseFolded name

/-- A turn of the inner loop of `build`: an atom is named once, in whatever case. -/
def appendAtomName (atomsNames : List QString) (atomDefinition : DataAtomDefinition) :
    List QString :=
  if containsAnyCase atomsNames atomDefinition.name then atomsNames
  else atomsNames ++ [atomDefinition.name]

/-- A turn of the outer loop of `build`. -/
def appendAtomsNames (definitions : DataFramesDefinitions) (atomsNames : List QString)
    (frameName : QString) : List QString :=
  match definitions.definitionByKey frameName with
  | none => atomsNames
  | some frameDefinition => frameDefinition.atoms.foldl appendAtomName atomsNames

/-- What `build` replaces in the header. -/
def headerReplacements : List (QString × QString) := [(ofAscii "&amp;amp;", ofAscii "&")]

/-- What `build` replaces in the implementation. -/
def implementationReplacements : List (QString × QString) :=
  [(ofAscii "&quot;", ofAscii "\""), (ofAscii "&amp;amp;", ofAscii "&"),
    (ofAscii "&amp;lt;", ofAscii "<"), (ofAscii "&amp;gt;", ofAscii ">")]

/-- The sorted names of the frames of a table. -/
def sortedFramesNames (definitions : DataFramesDefinitions) : List QString :=
  sortAnyCase definitions.keys

/-- The sorted names of the atoms of a table. -/
def sortedAtomsNames (definitions : DataFramesDefinitions) : List QString :=
  sortAnyCase ((sortedFramesNames definitions).foldl (appendAtomsNames definitions) [])

/-- `build()`, which fails where a null definition is used. -/
def build (builder : DataFramesContractBuilder) : Option (Bool × DataFramesContractBuilder) :=
  match builder.definitions with
  | none => some (false, builder)
  | some definitions =>
    if definitions.keys.length < 1 then some (false, builder)
    else do
      let framesNames := sortedFramesNames definitions
      let atomsNames := sortedAtomsNames definitions
      let header ← buildHeader builder.projectName definitions framesNames atomsNames
      let implementation ← buildImplementation builder.projectName definitions framesNames atomsNames
      return (true, { builder with
        headerContent := Replacing.replaceEach headerReplacements (Replacing.text header)
        implementationContent :=
          Replacing.replaceEach implementationReplacements (Replacing.text implementation) })

end DataFramesContractBuilder

end Threader
