import Threader.Base.Replacing
import Threader.Qt.Text

/-! `DataFramesLiterals`: the templates of the generated source text, rendered by substitution. -/

namespace Threader

/-- A rendered text: the values that were put into a template, and the parts of it in front of them. -/
abbrev Rendered := List (Replacing.Piece UInt16)

/-- Text of a template without a value behind it. -/
def Rendered.plain (literal : QString) : Rendered := [⟨literal, []⟩]

namespace Templates

open QString (ofAscii ofBasic)
open Rendered (plain)

/-- `TEMPLATE_FRAME_CONSTANT`. -/
def frameConstant (frameNameUpper : QString) : Rendered :=
  [⟨ofAscii "extern const char FRAME_NAME_", frameNameUpper⟩] ++ plain (ofAscii "[];\r\n")

/-- `TEMPLATE_ATOM_CONSTANT`. -/
def atomConstant (atomNameUpper : QString) : Rendered :=
  [⟨ofAscii "extern const char ATOM_NAME_", atomNameUpper⟩] ++ plain (ofAscii "[];\r\n")

/-- `TEMPLATE_FUNCTION_ARGUMENT`, whose ampersand is kept with the argument behind it. -/
def functionArgument (type argument : QString) : Rendered :=
  [⟨ofAscii "\r\n\t\tconst ", type⟩, ⟨ofAscii " ", ofAscii "&" ++ argument⟩]

/-- `TEMPLATE_FUNCTION_DEFINITION`. -/
def functionDefinition (frameName : QString) (arguments : Rendered) : Rendered :=
  [⟨ofAscii "\tDataFrame::Ptr build", frameName⟩] ++ plain (ofAscii "Frame(") ++ arguments ++
    plain (ofAscii ");\r\n\r\n")

/-- What `addNamespaces` sets for `TEMPLATE_FRAME_NAMESPACE_OPEN`. -/
def frameNamespaceOpen (projectName : QString) : Rendered :=
  [⟨ofAscii "using namespace Threader::Frames;\r\n" ++ ofAscii "using namespace ", projectName⟩] ++
    plain (ofAscii "DataFramesFactory;\r\n")

/-- `TEMPLATE_HEADER_FILE`. -/
def headerFile (projectName : QString) (framesNamesConstants atomsNamesConstants functions : Rendered) :
    Rendered :=
  ([⟨ofBasic "// Этот файл создан автоматически.\r\n\r\n" ++ ofAscii "#pragma once\r\n" ++
      ofAscii "#include \"../../Threader/Frames/DataFramesFactory.h\"\r\n" ++
      ofAscii "#include <math.h>\r\n\r\n" ++ ofAscii "namespace ", projectName⟩] ++
      plain (ofAscii "DataFramesFactory" ++ ofAscii "\x7b\r\n")) ++ framesNamesConstants ++
    plain (ofAscii "\r\n") ++ atomsNamesConstants ++
    plain (ofAscii "\r\n" ++ ofAscii "\x7d\r\n\r\n") ++ frameNamespaceOpen projectName ++
    ([⟨ofAscii "\r\n" ++ ofAscii "class ", projectName⟩,
      ⟨ofAscii "DataFramesFactoryImpl : public DataFramesFactory\r\n" ++ ofAscii "\x7b\r\n" ++
        ofAscii "public:\r\n" ++ ofAscii "\texplicit ", projectName⟩,
      ⟨ofAscii "DataFramesFactoryImpl(DataFramesDefinitions *definitions = nullptr);\r\n\r\n" ++
        ofAscii "\t~", projectName⟩,
      ⟨ofAscii "DataFramesFactoryImpl() override;\r\n\r\n" ++ ofAscii "\tstatic ", projectName⟩] ++
      plain (ofAscii "DataFramesFactoryImpl *instance();\r\n")) ++ functions ++
    ([⟨ofAscii "private:\r\n" ++ ofAscii "\tstatic ", projectName⟩] ++
      plain (ofAscii "DataFramesFactoryImpl *_instance;\r\n" ++ ofAscii "\x7d;\r\n" ++
        ofAscii "\r\n" ++ ofAscii "\r\n"))

/-- `TEMPLATE_FRAME_CONSTANT_IMPLEMENTATION`. -/
def frameConstantImplementation (frameNameUpper : QString) : Rendered :=
  [⟨ofAscii "const char FRAME_NAME_", frameNameUpper⟩, ⟨ofAscii "[] = \"", frameNameUpper⟩] ++
    plain (ofAscii "\";\r\n")

/-- `TEMPLATE_ATOM_CONSTANT_IMPLEMENTATION`. -/
def atomConstantImplementation (atomNameUpper atomName : QString) : Rendered :=
  [⟨ofAscii "const char ATOM_NAME_", atomNameUpper⟩, ⟨ofAscii "[] = \"", atomName⟩] ++
    plain (ofAscii "\";\r\n")

/-- `TEMPLATE_ASSIGN_ATOM`. -/
def assignAtom (atomType atomNameUpper atomName : QString) : Rendered :=
  [⟨ofAscii "\tsetAtomValue<", atomType⟩, ⟨ofAscii ">(ATOM_NAME_", atomNameUpper⟩,
    ⟨ofAscii ", frame, ", atomName⟩] ++ plain (ofAscii ");\r\n")

/-- `TEMPLATE_FUNCTION_IMPLEMENTATION`. -/
def functionImplementation (projectName frameName : QString) (arguments : Rendered)
    (frameNameUpper : QString) (assignAtoms : Rendered) : Rendered :=
  [⟨ofAscii "DataFrame::Ptr ", projectName⟩, ⟨ofAscii "DataFramesFactoryImpl::build", frameName⟩] ++
    plain (ofAscii "Frame(") ++ arguments ++
    [⟨ofAscii ")\r\n\x7b\r\n" ++ ofAscii "\tDataFrame::Ptr frame(buildFrame(FRAME_NAME_",
      frameNameUpper⟩] ++
    plain (ofAscii "));\r\n" ++ ofAscii "\tif (!frame)\r\n\t\treturn frame;\r\n") ++ assignAtoms ++
    plain (ofAscii "\treturn frame;\r\n" ++ ofAscii "\x7d\r\n\r\n")

/-- `TEMPLATE_IMPLEMENTATION_FILE`. -/
def implementationFile (projectName : QString)
    (framesNamesConstants atomsNamesConstants functions : Rendered) : Rendered :=
  ([⟨ofBasic "// Этот файл создан автоматически.\r\n\r\n" ++ ofAscii "#include \"", projectName⟩,
    ⟨ofAscii "DataFramesFactory.h\"\r\n\r\n" ++ ofAscii "namespace ", projectName⟩,
    ⟨ofAscii "DataFramesFactory" ++ ofAscii "\x7b\r\n" ++ ofBasic "// Константы имен фреймов ",
      projectName⟩] ++ plain (ofAscii "\r\n")) ++ framesNamesConstants ++
    ([⟨ofAscii "\r\n" ++ ofBasic "// Константы имен атомов ", projectName⟩] ++
      plain (ofAscii "\r\n")) ++ atomsNamesConstants ++
    plain (ofAscii "\r\n" ++ ofAscii "\x7d\r\n") ++ frameNamespaceOpen projectName ++
    ([⟨ofAscii "\r\n", projectName⟩, ⟨ofAscii "DataFramesFactoryImpl *", projectName⟩,
      ⟨ofAscii "DataFramesFactoryImpl::_instance = nullptr;\r\n\r\n", projectName⟩,
      ⟨ofAscii "DataFramesFactoryImpl::", projectName⟩,
      ⟨ofAscii "DataFramesFactoryImpl(DataFramesDefinitions *definitions)\r\n" ++
        ofAscii "    : DataFramesFactory(definitions)\r\n\x7b\r\n" ++
        ofAscii "\t_instance = this;\r\n\x7d\r\n\r\n", projectName⟩,
      ⟨ofAscii "DataFramesFactoryImpl::~", projectName⟩,
      ⟨ofAscii "DataFramesFactoryImpl()\r\n\x7b\r\n" ++
        ofAscii "\t_instance = nullptr;\r\n\x7d\r\n\r\n", projectName⟩,
      ⟨ofAscii "DataFramesFactoryImpl *", projectName⟩] ++
      plain (ofAscii "DataFramesFactoryImpl::instance()\r\n" ++
        ofAscii "\x7b\r\n\treturn _instance;\r\n\x7d\r\n\r\n")) ++ functions ++
    plain (ofAscii "\r\n" ++ ofAscii "\r\n" ++ ofAscii "\r\n")

end Templates

end Threader
