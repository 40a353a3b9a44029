import Threader.Frames.ContractConsistency
import Threader.Frames.RenderedContract

/-! What the engine makes of the templates, where each value is escaped as often as it is put in. -/

namespace Threader.RenderedContract

open DataFramesContractBuilder (argumentOf atomsTypes cppTypes headerReplacements
  implementationReplacements servedFrames sortedAtomsNames sortedFramesNames toNameCase typeIn
  withoutStar)
open Mustache (Context Slot escapeHtml flatTemplate)
open QString (ofAscii ofBasic)
open Rendered (plain)

section Rendering

/-- A name without dots stands for the value that was set for it, and otherwise for nothing. -/
theorem stringValue_context (templates : TemplateValues) {key : QString}
    (simple : key.splitOnP (· == 0x2E) = [key]) :
    Context.stringValue templates.context key = (templates.lookup key).getD [] := by
  have notDot : key ≠ ofAscii "." := by
    rintro rfl
    exact absurd simple (by decide)
  -- The values are kept as variants of strings under the same names.
  have entries : (templates.map fun entry => (entry.1, Mustache.QVariant.string entry.2)).lookup key =
      (templates.lookup key).map Mustache.QVariant.string := by
    induction templates with
    | nil => rfl
    | cons entry templates ih =>
      rw [List.map_cons, List.lookup_cons, List.lookup_cons, ih]
      cases key == entry.1 <;> rfl
  show Mustache.QtVariantContext.stringValue templates.context key = _
  have value : templates.context.value key =
      ((templates.lookup key).map Mustache.QVariant.string).getD .null := by
    rw [TemplateValues.context, Mustache.QtVariantContext.ofRoot, Mustache.QtVariantContext.value]
    simp only [notDot, ↓reduceIte, simple, Mustache.QtVariantContext.valueIn,
      Mustache.variantMapValueForKeyPath, Mustache.variantMapValue, entries]
    cases templates.lookup key <;> rfl
  rw [Mustache.QtVariantContext.stringValue, Mustache.QtVariantContext.isFalse, value]
  cases templates.lookup key with
  | none => rfl
  | some text => cases text <;> rfl

/-- Whether a template consists of the slots and the text behind them, with names without dots. -/
def consistsOf (template : QString) (slots : List Slot) (last : QString) : Bool :=
  template == flatTemplate slots last &&
    (slots.all (fun slot => slot.check && slot.key.splitOnP (· == 0x2E) == [slot.key]) &&
      (Searching.findRun (ofAscii "\x7b\x7b") last).isNone)

/-- A template is rendered with its values escaped. -/
theorem render_eq {template : QString} (slots : List Slot) (last : QString)
    (consists : consistsOf template slots last = true) (templates : TemplateValues) :
    render template templates = some (Replacing.text
      (slots.map (fun slot => ⟨slot.literal, escapeHtml ((templates.lookup slot.key).getD [])⟩) ++
        plain last)) := by
  simp only [consistsOf, Bool.and_eq_true, beq_iff_eq, List.all_eq_true,
    Option.isNone_iff_eq_none] at consists
  obtain ⟨rfl, slotsChecked, ends⟩ := consists
  -- The check has been evaluated for the template, and says what the renderer needs.
  have readable : ∀ slot ∈ slots, slot.Readable := fun slot member =>
    Slot.readable_of_check (slotsChecked slot member).1
  -- There are fewer slots than characters.
  have enough : slots.length < (flatTemplate slots last).length + 1 := by
    have fewer : slots.length ≤ (slots.flatMap Slot.source).length := by
      clear slotsChecked ends readable
      induction slots with
      | nil => exact Nat.le_refl _
      | cons slot slots ih =>
        have marker : (ofAscii "\x7b\x7b").length = 2 := rfl
        simp only [List.flatMap_cons, List.length_append, List.length_cons, Slot.source, marker]
        omega
    rw [flatTemplate, List.length_append]
    omega
  rw [render, Mustache.Renderer.render_flat templates.context rfl readable ends enough]
  refine congrArg some ?_
  rw [Replacing.text_append, Replacing.text, List.flatMap_map]
  refine congrArg₂ (· ++ ·) ?_ ?_
  · refine List.flatMap_congr fun slot member => ?_
    rw [Slot.shown, stringValue_context templates (slotsChecked slot member).2]
  · simp [plain]

theorem render_frameConstant (nameUpper : QString) :
    render templateFrameConstant [(frameNameUpper, nameUpper)] =
      some (Replacing.text (Templates.frameConstant (escapeHtml nameUpper))) :=
  render_eq [⟨ofAscii "extern const char FRAME_NAME_", [], frameNameUpper⟩]
    (ofAscii "[];\r\n") (by rfl) _

theorem render_atomConstant (nameUpper : QString) :
    render templateAtomConstant [(templateAtomNameUpper, nameUpper)] =
      some (Replacing.text (Templates.atomConstant (escapeHtml nameUpper))) :=
  render_eq [⟨ofAscii "extern const char ATOM_NAME_", [], templateAtomNameUpper⟩]
    (ofAscii "[];\r\n") (by rfl) _

theorem render_functionArgument (type argument : QString) :
    render templateFunctionArgument [(templateType, type), (templateArgument, argument)] =
      some (Replacing.text (Templates.functionArgument (escapeHtml type) (escapeHtml argument))) :=
  (render_eq [⟨ofAscii "\r\n\t\tconst ", [], templateType⟩, ⟨ofAscii " &", [], templateArgument⟩]
    [] (by rfl) _).trans <| by
    simp [Templates.functionArgument, plain]
    rfl

theorem render_functionDefinition (name arguments : QString) :
    render templateFunctionDefinition [(frameName, name), (templateArguments, arguments)] =
      some (Replacing.text
        (Templates.functionDefinition (escapeHtml name) (plain (escapeHtml arguments)))) :=
  (render_eq [⟨ofAscii "\tDataFrame::Ptr build", [], frameName⟩, ⟨ofAscii "Frame(", [], templateArguments⟩]
    (ofAscii ");\r\n\r\n") (by rfl) _).trans <| by
    simp [Templates.functionDefinition, plain]
    rfl

theorem render_frameConstantImplementation (projectName nameUpper name : QString) :
    render templateFrameConstantImplementation [(templateProjectName, projectName),
        (frameNameUpper, nameUpper), (frameName, name)] =
      some (Replacing.text (Templates.frameConstantImplementation (escapeHtml nameUpper))) :=
  render_eq [⟨ofAscii "const char FRAME_NAME_", [], frameNameUpper⟩,
      ⟨ofAscii "[] = \"", [], frameNameUpper⟩] (ofAscii "\";\r\n") (by rfl) _

theorem render_atomConstantImplementation (projectName nameUpper name : QString) :
    render templateAtomConstantImplementation [(templateProjectName, projectName),
        (templateAtomNameUpper, nameUpper), (templateAtomName, name)] =
      some (Replacing.text
        (Templates.atomConstantImplementation (escapeHtml nameUpper) (escapeHtml name))) :=
  render_eq [⟨ofAscii "const char ATOM_NAME_", [], templateAtomNameUpper⟩,
      ⟨ofAscii "[] = \"", ofAscii " ", templateAtomName⟩] (ofAscii "\";\r\n") (by rfl) _

theorem render_assignAtom (type name nameUpper : QString) :
    render templateAssignAtom [(templateAtomType, type), (templateAtomName, name),
        (templateAtomNameUpper, nameUpper)] =
      some (Replacing.text
        (Templates.assignAtom (escapeHtml type) (escapeHtml nameUpper) (escapeHtml name))) :=
  render_eq [⟨ofAscii "\tsetAtomValue<", [], templateAtomType⟩,
      ⟨ofAscii ">(ATOM_NAME_", [], templateAtomNameUpper⟩, ⟨ofAscii ", frame, ", [], templateAtomName⟩]
    (ofAscii ");\r\n") (by rfl) _

set_option maxRecDepth 4000 in
theorem render_functionImplementation (projectName name nameUpper arguments assignAtoms : QString) :
    render templateFunctionImplementation [(templateProjectName, projectName), (frameName, name),
        (frameNameUpper, nameUpper), (templateArguments, arguments), (templateAssignAtoms, assignAtoms)] =
      some (Replacing.text (Templates.functionImplementation (escapeHtml projectName) (escapeHtml name)
        (plain (escapeHtml arguments)) (escapeHtml nameUpper) (plain (escapeHtml assignAtoms)))) :=
  (render_eq [⟨ofAscii "DataFrame::Ptr ", [], templateProjectName⟩,
      ⟨ofAscii "DataFramesFactoryImpl::build", [], frameName⟩, ⟨ofAscii "Frame(", [], templateArguments⟩,
      ⟨ofAscii ")\r\n\x7b\r\n" ++ ofAscii "\tDataFrame::Ptr frame(buildFrame(FRAME_NAME_", [], frameNameUpper⟩,
      ⟨ofAscii "));\r\n" ++ ofAscii "\tif (!frame)\r\n\t\treturn frame;\r\n", [], templateAssignAtoms⟩]
    (ofAscii "\treturn frame;\r\n" ++ ofAscii "\x7d\r\n\r\n") (by
      -- The literals are decoded before the texts are compared.
      unfold templateFunctionImplementation markUpVar2
      repeat rw [QString.ofAscii_ofList]
      decide) _).trans <| by
    simp [Templates.functionImplementation, plain]
    rfl

/-- The names that open a namespace are escaped as the name of the project is. -/
theorem escapeHtml_addNamespaces (projectName : QString) :
    escapeHtml (ofAscii "using namespace Threader::Frames;\r\n" ++
      (ofAscii "using namespace " ++ projectName ++ ofAscii "DataFramesFactory;\r\n")) =
      Replacing.text (Templates.frameNamespaceOpen (escapeHtml projectName)) := by
  simp only [escapeHtml, List.flatMap_append]
  simp [Templates.frameNamespaceOpen, plain]
  rfl

set_option maxRecDepth 4000 in
theorem render_headerFile (projectName projectNameUpper framesConstants atomsConstants functions : QString) :
    render templateHeaderFile (addNamespaces projectName ++ [(templateProjectName, projectName),
        (templateProjectNameUpper, projectNameUpper), (templateFramesNamesConstants, framesConstants),
        (templateAtomsNamesConstants, atomsConstants), (templateFunctions, functions)]) =
      some (Replacing.text (Templates.headerFile (escapeHtml projectName)
        (plain (escapeHtml framesConstants)) (plain (escapeHtml atomsConstants))
        (plain (escapeHtml functions)))) :=
  (render_eq [⟨ofBasic "// Этот файл создан автоматически.\r\n\r\n" ++ ofAscii "#pragma once\r\n" ++
        ofAscii "#include \"../../Threader/Frames/DataFramesFactory.h\"\r\n" ++
        ofAscii "#include <math.h>\r\n\r\n" ++ ofAscii "namespace ", [], templateProjectName⟩,
      ⟨ofAscii "DataFramesFactory" ++ ofAscii "\x7b\r\n", [], templateFramesNamesConstants⟩,
      ⟨ofAscii "\r\n", [], templateAtomsNamesConstants⟩,
      ⟨ofAscii "\r\n" ++ ofAscii "\x7d\r\n\r\n", [], templateFrameNamespaceOpen⟩,
      ⟨ofAscii "\r\n" ++ ofAscii "class ", [], templateProjectName⟩,
      ⟨ofAscii "DataFramesFactoryImpl : public DataFramesFactory\r\n" ++ ofAscii "\x7b\r\n" ++
        ofAscii "public:\r\n" ++ ofAscii "\texplicit ", [], templateProjectName⟩,
      ⟨ofAscii "DataFramesFactoryImpl(DataFramesDefinitions *definitions = nullptr);\r\n\r\n" ++
        ofAscii "\t~", [], templateProjectName⟩,
      ⟨ofAscii "DataFramesFactoryImpl() override;\r\n\r\n" ++ ofAscii "\tstatic ", [], templateProjectName⟩,
      ⟨ofAscii "DataFramesFactoryImpl *instance();\r\n", [], templateFunctions⟩,
      ⟨ofAscii "private:\r\n" ++ ofAscii "\tstatic ", [], templateProjectName⟩,
      ⟨ofAscii "DataFramesFactoryImpl *_instance;\r\n" ++ ofAscii "\x7d;\r\n" ++ ofAscii "\r\n", [],
        templateFrameNamespaceClose⟩] (ofAscii "\r\n") (by
      unfold templateHeaderFile markUpVar2
      repeat rw [QString.ofBasic_ofList]
      repeat rw [QString.ofAscii_ofList]
      decide) _).trans <| by
    -- The value for the namespaces is made of fixed parts and the name of the project.
    have opened : escapeHtml (((addNamespaces projectName ++ [(templateProjectName, projectName),
        (templateProjectNameUpper, projectNameUpper), (templateFramesNamesConstants, framesConstants),
        (templateAtomsNamesConstants, atomsConstants), (templateFunctions, functions)]).lookup
          templateFrameNamespaceOpen).getD []) = _ := escapeHtml_addNamespaces projectName
    simp only [List.map_cons, List.map_nil, opened]
    simp only [Templates.headerFile, Replacing.text_append, Replacing.text_cons, Replacing.text_nil, plain,
      List.append_assoc, List.cons_append, List.nil_append, List.append_nil]
    rfl

set_option maxRecDepth 4000 in
theorem render_implementationFile
    (projectName projectNameUpper framesConstants atomsConstants functions : QString) :
    render templateImplementationFile (addNamespaces projectName ++ [(templateProjectName, projectName),
        (templateProjectNameUpper, projectNameUpper), (templateFramesNamesConstants, framesConstants),
        (templateAtomsNamesConstants, atomsConstants), (templateFunctions, functions)]) =
      some (Replacing.text (Templates.implementationFile (escapeHtml projectName)
        (plain (escapeHtml framesConstants)) (plain (escapeHtml atomsConstants))
        (plain (escapeHtml functions)))) :=
  (render_eq [⟨ofBasic "// Этот файл создан автоматически.\r\n\r\n" ++ ofAscii "#include \"", [],
        templateProjectName⟩,
      ⟨ofAscii "DataFramesFactory.h\"\r\n\r\n" ++ ofAscii "namespace ", [], templateProjectName⟩,
      ⟨ofAscii "DataFramesFactory" ++ ofAscii "\x7b\r\n" ++ ofBasic "// Константы имен фреймов ", [],
        templateProjectName⟩,
      ⟨ofAscii "\r\n", [], templateFramesNamesConstants⟩,
      ⟨ofAscii "\r\n" ++ ofBasic "// Константы имен атомов ", [], templateProjectName⟩,
      ⟨ofAscii "\r\n", [], templateAtomsNamesConstants⟩,
      ⟨ofAscii "\r\n" ++ ofAscii "\x7d\r\n", [], templateFrameNamespaceOpen⟩,
      ⟨ofAscii "\r\n", [], templateProjectName⟩,
      ⟨ofAscii "DataFramesFactoryImpl *", [], templateProjectName⟩,
      ⟨ofAscii "DataFramesFactoryImpl::_instance = nullptr;\r\n\r\n", [], templateProjectName⟩,
      ⟨ofAscii "DataFramesFactoryImpl::", [], templateProjectName⟩,
      ⟨ofAscii "DataFramesFactoryImpl(DataFramesDefinitions *definitions)\r\n" ++
        ofAscii "    : DataFramesFactory(definitions)\r\n\x7b\r\n" ++
        ofAscii "\t_instance = this;\r\n\x7d\r\n\r\n", [], templateProjectName⟩,
      ⟨ofAscii "DataFramesFactoryImpl::~", [], templateProjectName⟩,
      ⟨ofAscii "DataFramesFactoryImpl()\r\n\x7b\r\n" ++
        ofAscii "\t_instance = nullptr;\r\n\x7d\r\n\r\n", [], templateProjectName⟩,
      ⟨ofAscii "DataFramesFactoryImpl *", [], templateProjectName⟩,
      ⟨ofAscii "DataFramesFactoryImpl::instance()\r\n" ++
        ofAscii "\x7b\r\n\treturn _instance;\r\n\x7d\r\n\r\n", [], templateFunctions⟩,
      ⟨ofAscii "\r\n" ++ ofAscii "\r\n", [], templateFrameNamespaceClose⟩]
    (ofAscii "\r\n") (by
      unfold templateImplementationFile markUpVar2
      repeat rw [QString.ofBasic_ofList]
      repeat rw [QString.ofAscii_ofList]
      decide) _).trans <| by
    have opened : escapeHtml (((addNamespaces projectName ++ [(templateProjectName, projectName),
        (templateProjectNameUpper, projectNameUpper), (templateFramesNamesConstants, framesConstants),
        (templateAtomsNamesConstants, atomsConstants), (templateFunctions, functions)]).lookup
          templateFrameNamespaceOpen).getD []) = _ := escapeHtml_addNamespaces projectName
    simp only [List.map_cons, List.map_nil, opened]
    simp only [Templates.implementationFile, Replacing.text_append, Replacing.text_cons, Replacing.text_nil,
      plain, List.append_assoc, List.cons_append, List.nil_append, List.append_nil]
    rfl

end Rendering

section Names

/-- The characters that are escaped, and the one that entities end with. -/
def marks : List UInt16 := [0x26, 0x3C, 0x3E, 0x22, 0x3B]

/-- A text that neither has to be escaped nor looks like a part of an entity. -/
def Unmarked (text : QString) : Prop := ∀ unit ∈ text, unit ∉ marks

instance (text : QString) : Decidable (Unmarked text) :=
  List.decidableBAll (fun unit => unit ∉ marks) text

/-- Such a text is escaped as itself. -/
theorem Unmarked.escapeHtml {text : QString} (unmarked : Unmarked text) : escapeHtml text = text := by
  refine (List.flatMap_congr fun unit member => ?_).trans (List.flatMap_singleton' text)
  have others := unmarked unit member
  simp only [marks, List.mem_cons, List.not_mem_nil, or_false, not_or] at others
  simp [Mustache.escapeUnit, others]

/-- A character without a mark has none in any case. -/
theorem unmarked_cases {unit : UInt16} (low : unit < 0x80) :
    unit ∉ marks → upperAscii unit ∉ marks ∧ lowerAscii unit ∉ marks :=
  forall_ascii (P := fun unit => unit ∉ marks → upperAscii unit ∉ marks ∧ lowerAscii unit ∉ marks)
    (by decide) low

theorem unmarked_typeIn (types : List (QString × QString))
    (all : types.all (fun pair => decide (Unmarked pair.2)) = true) (type : QString) :
    Unmarked (typeIn types type) := by
  unfold typeIn
  -- The name of unknown types is unmarked as well.
  cases found : types.lookup type with
  | none => decide
  | some value =>
    obtain ⟨before, after, listed, _⟩ := List.lookup_eq_some_iff.mp found
    have member : (type, value) ∈ types := listed ▸ List.mem_append_right _ List.mem_cons_self
    exact of_decide_eq_true (List.all_eq_true.mp all _ member)

theorem unmarked_cppType (type : QString) : Unmarked (typeIn cppTypes type) :=
  unmarked_typeIn cppTypes (by decide) type

theorem unmarked_atomsType (type : QString) : Unmarked (typeIn atomsTypes type) :=
  unmarked_typeIn atomsTypes (by decide) type

variable {text : QString} (ascii : text.Ascii) (unmarked : Unmarked text)

include ascii unmarked

theorem unmarked_toUpper [QtText] (maps : QtText.MapsAscii) : Unmarked (QtText.toUpper text) := by
  rw [maps ascii]
  intro unit member
  obtain ⟨lower, inside, rfl⟩ := List.mem_map.mp member
  exact (unmarked_cases (ascii lower inside) (unmarked lower inside)).1

variable [QtCases] (qtCases : QtCases.OfAscii)

include qtCases

theorem unmarked_nameCaseFrom (first : Bool) :
    Unmarked (DataFramesContractBuilder.nameCaseFrom first text) := by
  induction text generalizing first with
  | nil => exact fun _ member => (List.not_mem_nil member).elim
  | cons unit text ih =>
    obtain ⟨low, lowOthers⟩ := List.forall_mem_cons.mp ascii
    obtain ⟨clean, cleanOthers⟩ := List.forall_mem_cons.mp unmarked
    have inCases := unmarked_cases low clean
    rw [DataFramesContractBuilder.nameCaseFrom, qtCases.toTitleCase low, qtCases.toLower low]
    split
    · refine List.forall_mem_cons.mpr ⟨?_, ih lowOthers cleanOthers false⟩
      split
      · exact inCases.1
      · exact inCases.2
    · exact List.forall_mem_cons.mpr ⟨clean, ih lowOthers cleanOthers true⟩

theorem unmarked_argumentOf : Unmarked (argumentOf text) := by
  cases text with
  | nil => exact unmarked
  | cons unit text =>
    obtain ⟨clean, cleanOthers⟩ := List.forall_mem_cons.mp unmarked
    have low := ascii unit List.mem_cons_self
    rw [argumentOf, qtCases.toLower low]
    exact List.forall_mem_cons.mpr ⟨(unmarked_cases low clean).2, cleanOthers⟩

end Names

section Loops

/-- A loop that renders something for each item renders it for all of them. -/
theorem renderEach_eq {Item : Type} {items : List Item} {rendered : Item → Option QString}
    {text : Item → QString} (each : ∀ item ∈ items, rendered item = some (text item)) :
    renderEach items rendered = some (items.flatMap text) := by
  -- The loop appends to what it has rendered so far.
  have general (result : QString) :
      items.foldlM (fun result item => do return result ++ (← rendered item)) result =
        some (result ++ items.flatMap text) := by
    induction items generalizing result with
    | nil => simp
    | cons item items ih =>
      obtain ⟨first, others⟩ := List.forall_mem_cons.mp each
      rw [List.foldlM_cons, first, List.flatMap_cons, ← List.append_assoc]
      exact ih others (result ++ text item)
  simpa [renderEach] using general []

variable [QtText] [QtCases] (maps : QtText.MapsAscii) (qtCases : QtCases.OfAscii)

/-- A frame whose atoms have unmarked ASCII names. -/
structure PlainAtoms (definition : DataFrameDefinition) : Prop where
  ascii : ∀ atom ∈ definition.atoms, atom.name.Ascii
  unmarked : ∀ atom ∈ definition.atoms, Unmarked atom.name

variable {definition : DataFrameDefinition} (atoms : PlainAtoms definition)

include qtCases atoms

omit [QtText] in
/-- An argument list is rendered as if nothing were escaped. -/
theorem buildFunctionsArguments_eq : buildFunctionsArguments definition =
    some (Replacing.text (DataFramesContractBuilder.buildFunctionsArguments definition)) := by
  obtain ⟨ascii, unmarked⟩ := atoms
  have general (result : Rendered) :
      definition.atoms.foldlM appendArgument (Replacing.text result) =
        some (Replacing.text (definition.atoms.foldl DataFramesContractBuilder.appendArgument result)) := by
    generalize definition.atoms = list at ascii unmarked ⊢
    -- The argument list grows by one rendered argument in each turn.
    induction list generalizing result with
    | nil => rfl
    | cons atom list ih =>
      obtain ⟨low, lowOthers⟩ := List.forall_mem_cons.mp ascii
      obtain ⟨clean, cleanOthers⟩ := List.forall_mem_cons.mp unmarked
      have type := unmarked_cppType atom.atomType
      have argument := unmarked_argumentOf low clean qtCases
      have turn : appendArgument (Replacing.text result) atom =
          some (Replacing.text (DataFramesContractBuilder.appendArgument result atom)) := by
        rw [appendArgument, render_functionArgument, type.escapeHtml, argument.escapeHtml,
          DataFramesContractBuilder.appendArgument]
        split <;> simp [plain]
      rw [List.foldlM_cons, turn]
      exact ih _ lowOthers cleanOthers
  exact general []

include maps

/-- The assignments of a function are rendered as if nothing were escaped. -/
theorem buildImplementationAssignAtoms_eq : buildImplementationAssignAtoms definition =
    some (Replacing.text (DataFramesContractBuilder.buildImplementationAssignAtoms definition)) := by
  rw [DataFramesContractBuilder.buildImplementationAssignAtoms, Replacing.text_flatMap]
  refine renderEach_eq fun atom member => ?_
  have low := atoms.ascii atom member
  have clean := atoms.unmarked atom member
  have type := unmarked_atomsType atom.atomType
  rw [render_assignAtom, type.escapeHtml, (unmarked_toUpper low clean maps).escapeHtml,
    (unmarked_argumentOf low clean qtCases).escapeHtml]

end Loops

end Threader.RenderedContract
