import Threader.Frames.DataFramesContractBuilder
import Threader.ThirdParty.FlatTemplates

/-! `DataFramesContractBuilder` with the templates in full, as the engine renders and escapes them. -/

namespace Threader.RenderedContract

open DataFramesContractBuilder (argumentOf atomsTypes cppTypes headerReplacements
  implementationReplacements sortedAtomsNames sortedFramesNames toNameCase typeIn withoutStar)
open Mustache (QtVariantContext QVariant Renderer)
open QString (ofAscii ofBasic)

/-- `TEMPLATE_PROJECT_NAME`. -/
def templateProjectName : QString := ofAscii "ProjectName"

/-- `TEMPLATE_PROJECT_NAME_UPPER`. -/
def templateProjectNameUpper : QString := ofAscii "ProjectNameUpper"

/-- `FRAME_NAME`. -/
def frameName : QString := ofAscii "FrameName"

/-- `FRAME_NAME_UPPER`. -/
def frameNameUpper : QString := ofAscii "FrameNameUpper"

/-- `TEMPLATE_FRAME_NAMESPACE_OPEN`. -/
def templateFrameNamespaceOpen : QString := ofAscii "FrameNamespaceOpen"

/-- `TEMPLATE_FRAME_NAMESPACE_CLOSE`. -/
def templateFrameNamespaceClose : QString := ofAscii "FrameNamespaceClose"

/-- `TEMPLATE_FRAMES_NAMES_CONSTANTS`. -/
def templateFramesNamesConstants : QString := ofAscii "FramesNamesConstants"

/-- `TEMPLATE_ATOM_NAME_UPPER`. -/
def templateAtomNameUpper : QString := ofAscii "AtomNameUpper"

/-- `TEMPLATE_ATOM_NAME`. -/
def templateAtomName : QString := ofAscii "AtomName"

/-- `TEMPLATE_ATOM_TYPE`. -/
def templateAtomType : QString := ofAscii "AtomType"

/-- `TEMPLATE_ATOMS_NAMES_CONSTANTS`. -/
def templateAtomsNamesConstants : QString := ofAscii "AtomsNamesConstants"

/-- `TEMPLATE_ARGUMENT`. -/
def templateArgument : QString := ofAscii "Argument"

/-- `TEMPLATE_TYPE`. -/
def templateType : QString := ofAscii "Type"

/-- `TEMPLATE_ARGUMENTS`. -/
def templateArguments : QString := ofAscii "Arguments"

/-- `TEMPLATE_ASSIGN_ATOMS`. -/
def templateAssignAtoms : QString := ofAscii "AssignAtoms"

/-- `TEMPLATE_FUNCTIONS`. -/
def templateFunctions : QString := ofAscii "Functions"

/-- `MarkUpVar2(name)`, which the templates write out. -/
def markUpVar2 (name : QString) : QString := ofAscii "\x7b\x7b" ++ name ++ ofAscii "\x7d\x7d"

/-- `TEMPLATE_FRAME_CONSTANT`. -/
def templateFrameConstant : QString :=
  ofAscii "extern const char FRAME_NAME_" ++ markUpVar2 frameNameUpper ++ ofAscii "[];\r\n"

/-- `TEMPLATE_ATOM_CONSTANT`. -/
def templateAtomConstant : QString :=
  ofAscii "extern const char ATOM_NAME_" ++ markUpVar2 templateAtomNameUpper ++ ofAscii "[];\r\n"

/-- `TEMPLATE_FUNCTION_ARGUMENT`. -/
def templateFunctionArgument : QString :=
  ofAscii "\r\n\t\tconst " ++ markUpVar2 templateType ++ ofAscii " &" ++ markUpVar2 templateArgument

/-- `TEMPLATE_FUNCTION_DEFINITION`. -/
def templateFunctionDefinition : QString :=
  ofAscii "\tDataFrame::Ptr build" ++ markUpVar2 frameName ++ ofAscii "Frame(" ++
    markUpVar2 templateArguments ++ ofAscii ");\r\n\r\n"

/-- `TEMPLATE_HEADER_FILE`. -/
def templateHeaderFile : QString :=
  ofBasic "// Этот файл создан автоматически.\r\n\r\n" ++ ofAscii "#pragma once\r\n" ++
    ofAscii "#include \"../../Threader/Frames/DataFramesFactory.h\"\r\n" ++
    ofAscii "#include <math.h>\r\n\r\n" ++
    ofAscii "namespace " ++ markUpVar2 templateProjectName ++ ofAscii "DataFramesFactory" ++
    ofAscii "\x7b\r\n" ++
    markUpVar2 templateFramesNamesConstants ++ ofAscii "\r\n" ++
    markUpVar2 templateAtomsNamesConstants ++ ofAscii "\r\n" ++
    ofAscii "\x7d\r\n\r\n" ++
    markUpVar2 templateFrameNamespaceOpen ++ ofAscii "\r\n" ++
    ofAscii "class " ++ markUpVar2 templateProjectName ++
    ofAscii "DataFramesFactoryImpl : public DataFramesFactory\r\n" ++
    ofAscii "\x7b\r\n" ++
    ofAscii "public:\r\n" ++
    ofAscii "\texplicit " ++ markUpVar2 templateProjectName ++
    ofAscii "DataFramesFactoryImpl(DataFramesDefinitions *definitions = nullptr);\r\n\r\n" ++
    ofAscii "\t~" ++ markUpVar2 templateProjectName ++
    ofAscii "DataFramesFactoryImpl() override;\r\n\r\n" ++
    ofAscii "\tstatic " ++ markUpVar2 templateProjectName ++
    ofAscii "DataFramesFactoryImpl *instance();\r\n" ++
    markUpVar2 templateFunctions ++
    ofAscii "private:\r\n" ++
    ofAscii "\tstatic " ++ markUpVar2 templateProjectName ++
    ofAscii "DataFramesFactoryImpl *_instance;\r\n" ++
    ofAscii "\x7d;\r\n" ++
    ofAscii "\r\n" ++ markUpVar2 templateFrameNamespaceClose ++ ofAscii "\r\n"

/-- `TEMPLATE_FRAME_CONSTANT_IMPLEMENTATION`. -/
def templateFrameConstantImplementation : QString :=
  ofAscii "const char FRAME_NAME_" ++ markUpVar2 frameNameUpper ++ ofAscii "[] = \"" ++
    markUpVar2 frameNameUpper ++ ofAscii "\";\r\n"

/-- `TEMPLATE_ATOM_CONSTANT_IMPLEMENTATION`, with a space in front of a name. -/
def templateAtomConstantImplementation : QString :=
  ofAscii "const char ATOM_NAME_" ++ markUpVar2 templateAtomNameUpper ++ ofAscii "[] = \"" ++
    markUpVar2 (ofAscii " " ++ templateAtomName) ++ ofAscii "\";\r\n"

/-- `TEMPLATE_ASSIGN_ATOM`. -/
def templateAssignAtom : QString :=
  ofAscii "\tsetAtomValue<" ++ markUpVar2 templateAtomType ++ ofAscii ">(ATOM_NAME_" ++
    markUpVar2 templateAtomNameUpper ++ ofAscii ", frame, " ++ markUpVar2 templateAtomName ++
    ofAscii ");\r\n"

/-- `TEMPLATE_FUNCTION_IMPLEMENTATION`. -/
def templateFunctionImplementation : QString :=
  ofAscii "DataFrame::Ptr " ++ markUpVar2 templateProjectName ++
    ofAscii "DataFramesFactoryImpl::build" ++ markUpVar2 frameName ++ ofAscii "Frame(" ++
    markUpVar2 templateArguments ++ ofAscii ")\r\n\x7b\r\n" ++
    ofAscii "\tDataFrame::Ptr frame(buildFrame(FRAME_NAME_" ++ markUpVar2 frameNameUpper ++
    ofAscii "));\r\n" ++
    ofAscii "\tif (!frame)\r\n\t\treturn frame;\r\n" ++
    markUpVar2 templateAssignAtoms ++
    ofAscii "\treturn frame;\r\n" ++
    ofAscii "\x7d\r\n\r\n"

/-- `TEMPLATE_IMPLEMENTATION_FILE`. -/
def templateImplementationFile : QString :=
  ofBasic "// Этот файл создан автоматически.\r\n\r\n" ++
    ofAscii "#include \"" ++ markUpVar2 templateProjectName ++
    ofAscii "DataFramesFactory.h\"\r\n\r\n" ++
    ofAscii "namespace " ++ markUpVar2 templateProjectName ++ ofAscii "DataFramesFactory" ++
    ofAscii "\x7b\r\n" ++
    ofBasic "// Константы имен фреймов " ++ markUpVar2 templateProjectName ++ ofAscii "\r\n" ++
    markUpVar2 templateFramesNamesConstants ++
    ofAscii "\r\n" ++
    ofBasic "// Константы имен атомов " ++ markUpVar2 templateProjectName ++ ofAscii "\r\n" ++
    markUpVar2 templateAtomsNamesConstants ++
    ofAscii "\r\n" ++
    ofAscii "\x7d\r\n" ++
    markUpVar2 templateFrameNamespaceOpen ++ ofAscii "\r\n" ++
    markUpVar2 templateProjectName ++ ofAscii "DataFramesFactoryImpl *" ++
    markUpVar2 templateProjectName ++
    ofAscii "DataFramesFactoryImpl::_instance = nullptr;\r\n\r\n" ++
    markUpVar2 templateProjectName ++ ofAscii "DataFramesFactoryImpl::" ++
    markUpVar2 templateProjectName ++
    ofAscii "DataFramesFactoryImpl(DataFramesDefinitions *definitions)\r\n" ++
    ofAscii "    : DataFramesFactory(definitions)\r\n\x7b\r\n" ++
    ofAscii "\t_instance = this;\r\n\x7d\r\n\r\n" ++
    markUpVar2 templateProjectName ++ ofAscii "DataFramesFactoryImpl::~" ++
    markUpVar2 templateProjectName ++
    ofAscii "DataFramesFactoryImpl()\r\n\x7b\r\n" ++
    ofAscii "\t_instance = nullptr;\r\n\x7d\r\n\r\n" ++
    markUpVar2 templateProjectName ++ ofAscii "DataFramesFactoryImpl *" ++
    markUpVar2 templateProjectName ++ ofAscii "DataFramesFactoryImpl::instance()\r\n" ++
    ofAscii "\x7b\r\n\treturn _instance;\r\n\x7d\r\n\r\n" ++
    markUpVar2 templateFunctions ++ ofAscii "\r\n" ++
    ofAscii "\r\n" ++ markUpVar2 templateFrameNamespaceClose ++ ofAscii "\r\n"

/-- The values that were set for a template. -/
abbrev TemplateValues := List (QString × QString)

/-- The context of the values of a template. -/
def TemplateValues.context (templates : TemplateValues) : QtVariantContext :=
  .ofRoot (.hash (templates.map fun entry => (entry.1, QVariant.string entry.2))) none

/-- `renderer.render(template, &context)`, of a renderer that nothing is left in of earlier ones. -/
def render (template : QString) (templates : TemplateValues) : Option QString :=
  (Renderer.create.render (template.length + 1) template templates.context).map Prod.fst

/-- A loop that renders something for each item, and adds it to a result. -/
def renderEach {Item : Type} (items : List Item) (rendered : Item → Option QString) :
    Option QString :=
  items.foldlM (fun result item => do return result ++ (← rendered item)) []

variable [QtText] [QtCases]

/-- `buildHeaderFramesConstantsDefinitions(framesNames)`. -/
def buildHeaderFramesConstantsDefinitions (framesNames : List QString) : Option QString :=
  renderEach (withoutStar framesNames) fun name =>
    render templateFrameConstant [(frameNameUpper, QtText.toUpper name)]

/-- `buildHeaderAtomsConstantsDefinitions(atomsNames)`. -/
def buildHeaderAtomsConstantsDefinitions (atomsNames : List QString) : Option QString :=
  renderEach atomsNames fun name =>
    render templateAtomConstant [(templateAtomNameUpper, QtText.toUpper name)]

/-- A turn of the loop of `buildFunctionsArguments`. -/
def appendArgument (result : QString) (atomDefinition : DataAtomDefinition) : Option QString := do
  let argument ← render templateFunctionArgument
    [(templateType, typeIn cppTypes atomDefinition.atomType),
      (templateArgument, argumentOf atomDefinition.name)]
  return (if result.length > 0 then result ++ ofAscii ", " else result) ++ argument

/-- `buildFunctionsArguments(definition)`. -/
def buildFunctionsArguments (definition : DataFrameDefinition) : Option QString :=
  definition.atoms.foldlM appendArgument []

/-- `buildHeaderFunctionsDefinitions(framesNames)`, unless a name has no definition. -/
def buildHeaderFunctionsDefinitions (definitions : DataFramesDefinitions)
    (framesNames : List QString) : Option QString :=
  renderEach (withoutStar framesNames) fun name => do
    let definition ← definitions.definitionByKey name
    let arguments ← buildFunctionsArguments definition
    render templateFunctionDefinition [(frameName, toNameCase name), (templateArguments, arguments)]

/-- `addNamespaces(templates)`, for which the namespace of the project does not matter. -/
def addNamespaces (projectName : QString) : TemplateValues :=
  [(templateFrameNamespaceOpen, ofAscii "using namespace Threader::Frames;\r\n" ++
      (ofAscii "using namespace " ++ projectName ++ ofAscii "DataFramesFactory;\r\n")),
    (templateFrameNamespaceClose, [])]

/-- `buildHeader(framesNames, atomsNames)`. -/
def buildHeader (projectName : QString) (definitions : DataFramesDefinitions)
    (framesNames atomsNames : List QString) : Option QString := do
  let framesConstants ← buildHeaderFramesConstantsDefinitions framesNames
  let atomsConstants ← buildHeaderAtomsConstantsDefinitions atomsNames
  let functions ← buildHeaderFunctionsDefinitions definitions framesNames
  render templateHeaderFile <| addNamespaces projectName ++
    [(templateProjectName, projectName), (templateProjectNameUpper, QtText.toUpper projectName),
      (templateFramesNamesConstants, framesConstants), (templateAtomsNamesConstants, atomsConstants),
      (templateFunctions, functions)]

/-- `buildImplementationFramesConstantsDefinitions(framesNames)`. -/
def buildImplementationFramesConstantsDefinitions (projectName : QString)
    (framesNames : List QString) : Option QString :=
  renderEach (withoutStar framesNames) fun name =>
    render templateFrameConstantImplementation [(templateProjectName, projectName),
      (frameNameUpper, QtText.toUpper name), (frameName, name)]

/-- `buildImplementationAtomsConstantsDefinitions(atomsNames)`. -/
def buildImplementationAtomsConstantsDefinitions (projectName : QString)
    (atomsNames : List QString) : Option QString :=
  renderEach atomsNames fun name =>
    render templateAtomConstantImplementation [(templateProjectName, projectName),
      (templateAtomNameUpper, QtText.toUpper name), (templateAtomName, name)]

/-- `buildImplementationAssignAtoms(definition)`. -/
def buildImplementationAssignAtoms (definition : DataFrameDefinition) : Option QString :=
  renderEach definition.atoms fun atomDefinition =>
    render templateAssignAtom [(templateAtomType, typeIn atomsTypes atomDefinition.atomType),
      (templateAtomName, argumentOf atomDefinition.name),
      (templateAtomNameUpper, QtText.toUpper atomDefinition.name)]

/-- `buildFunctionsImplementation(framesNames)`, unless a name has no definition. -/
def buildFunctionsImplementation (projectName : QString) (definitions : DataFramesDefinitions)
    (framesNames : List QString) : Option QString :=
  renderEach (withoutStar framesNames) fun name => do
    let definition ← definitions.definitionByKey name
    let arguments ← buildFunctionsArguments definition
    let assignAtoms ← buildImplementationAssignAtoms definition
    render templateFunctionImplementation [(templateProjectName, projectName),
      (frameName, toNameCase name), (frameNameUpper, QtText.toUpper name),
      (templateArguments, arguments), (templateAssignAtoms, assignAtoms)]

/-- `buildImplementation(framesNames, atomsNames)`. -/
def buildImplementation (projectName : QString) (definitions : DataFramesDefinitions)
    (framesNames atomsNames : List QString) : Option QString := do
  let framesConstants ← buildImplementationFramesConstantsDefinitions projectName framesNames
  let atomsConstants ← buildImplementationAtomsConstantsDefinitions projectName atomsNames
  let functions ← buildFunctionsImplementation projectName definitions framesNames
  render templateImplementationFile <| addNamespaces projectName ++
    [(templateProjectName, projectName), (templateProjectNameUpper, QtText.toUpper projectName),
      (templateFramesNamesConstants, framesConstants), (templateAtomsNamesConstants, atomsConstants),
      (templateFunctions, functions)]

/-- `build()`, which fails where a null definition is used. -/
def build (builder : DataFramesContractBuilder) : Option (Bool × DataFramesContractBuilder) :=
  match builder.definitions with
  | none => some (false, builder)
  | some definitions =>
    if definitions.keys.length < 1 then some (false, builder)
    else do
      let framesNames := sortedFramesNames definitions
      let atomsNames := sortedAtomsNames definitions
      let header ← buildHeader builder.projectName definitions framesNames atomsNames
      let implementation ← buildImplementation builder.projectName definitions framesNames atomsNames
      return (true, { builder with
        headerContent := Replacing.replaceEach headerReplacements header
        implementationContent := Replacing.replaceEach implementationReplacements implementation })

end Threader.RenderedContract
