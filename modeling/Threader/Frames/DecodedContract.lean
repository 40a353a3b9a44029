import Threader.Frames.EscapedContract

/-! `build` undoes the escaping of the engine: it makes the plain texts out of the rendered ones. -/

namespace Threader.RenderedContract

open DataFramesContractBuilder (argumentOf atomsTypes cppTypes headerReplacements
  implementationReplacements servedFrames sortedAtomsNames sortedFramesNames toNameCase typeIn
  withoutStar)
open Entities (Coded Distinct)
open Mustache (escapeHtml escapeUnit)
open QString (ofAscii ofBasic)
open Rendered (plain)

section Closed

/-- Behind each ampersand a comma or a closing parenthesis comes before any semicolon. -/
def Closed (text : QString) : Prop :=
  ∀ front rest : QString, text = front ++ 0x26 :: rest →
    ∃ name back unit, rest = name ++ unit :: back ∧ unit ∈ ofAscii ",)" ∧ 0x3B ∉ name

/-- Nothing has to be closed in a text without ampersands. -/
theorem closed_of_notMem {text : QString} (absent : (0x26 : UInt16) ∉ text) : Closed text :=
  fun _ _ split => absurd (split ▸ List.mem_append_right _ List.mem_cons_self) absent

theorem Closed.append {text other : QString} (first : Closed text) (second : Closed other) :
    Closed (text ++ other) := by
  intro front rest split
  -- The ampersand is in the second text, or in the first one, whose end closes it.
  rcases List.append_eq_append_iff.mp split with ⟨between, _, inOther⟩ | ⟨between, inText, same⟩
  · exact second _ _ inOther
  · cases between with
    | nil => exact second [] _ same.symm
    | cons unit between =>
      obtain ⟨rfl, rfl⟩ := List.cons.inj same
      obtain ⟨name, back, stop, rfl, stops, clean⟩ := first _ _ inText
      exact ⟨name, back ++ other, stop, by simp, stops, clean⟩

theorem Closed.flatMap {Item : Type} {items : List Item} {text : Item → QString}
    (each : ∀ item ∈ items, Closed (text item)) : Closed (items.flatMap text) := by
  induction items with
  | nil => exact closed_of_notMem List.not_mem_nil
  | cons item items ih =>
    obtain ⟨first, others⟩ := List.forall_mem_cons.mp each
    exact List.flatMap_cons ▸ first.append (ih others)

/-- An ampersand and a name are closed by what stands behind them. -/
theorem closed_argument {name : QString} (unmarked : Unmarked name) {unit : UInt16}
    (stops : unit ∈ ofAscii ",)") : Closed (0x26 :: (name ++ [unit])) := by
  -- There is no other ampersand behind the first one.
  have clean : (0x26 : UInt16) ∉ name ++ [unit] := by
    intro member
    rcases List.mem_append.mp member with inName | last
    · exact unmarked _ inName (by decide)
    · exact absurd (List.mem_singleton.mp last ▸ stops) (by decide)
  intro front rest split
  cases front with
  | nil =>
    obtain ⟨_, rfl⟩ := List.cons.inj split
    exact ⟨name, [], unit, rfl, stops, fun member => unmarked _ member (by decide)⟩
  | cons first front =>
    obtain ⟨_, inside⟩ := List.cons.inj split
    exact absurd (inside ▸ List.mem_append_right _ List.mem_cons_self) clean

/-- Each entity that is replaced begins with an ampersand and goes on to its only semicolon. -/
theorem entity_shape {replacement : QString × QString}
    (member : replacement ∈ implementationReplacements) :
    ∃ body, replacement.1 = 0x26 :: (body ++ [0x3B]) ∧ ∀ unit ∈ ofAscii ",)", unit ∉ body ++ [0x3B] := by
  -- The few entities are looked through one by one.
  have all : implementationReplacements.all (fun replacement =>
      replacement.1.head? == some 0x26 && (replacement.1.tail.getLast? == some 0x3B &&
        (ofAscii ",)").all fun unit => !replacement.1.tail.contains unit)) = true := by
    decide
  have shape := List.all_eq_true.mp all replacement member
  simp only [Bool.and_eq_true, beq_iff_eq, List.all_eq_true, Bool.not_eq_true',
    List.contains_eq_mem, decide_eq_false_iff_not] at shape
  obtain ⟨start, last, clean⟩ := shape
  obtain ⟨tail, cons⟩ := List.head?_eq_some_iff.mp start
  rw [cons, List.tail_cons] at last clean
  obtain ⟨body, rfl⟩ := List.getLast?_eq_some_iff.mp last
  exact ⟨body, cons, clean⟩

/-- No entity stands in a closed text. -/
theorem Closed.entityFree {text : QString} (closed : Closed text) :
    DataFramesContractBuilder.EntityFree text := by
  rintro replacement member ⟨front, back, split⟩
  obtain ⟨body, run, apart⟩ := entity_shape member
  rw [run, List.append_assoc, List.cons_append] at split
  obtain ⟨name, rest, unit, same, stops, clean⟩ := closed _ _ split.symm
  -- The semicolon is behind the closing character, which the entity would have in it then.
  rcases List.append_eq_append_iff.mp same with ⟨between, named, _⟩ | ⟨between, entity, ends⟩
  · exact clean (by simp [named])
  · cases between with
    | nil =>
      rw [List.append_nil] at entity
      exact clean (by simp [← entity])
    | cons first between =>
      obtain ⟨rfl, _⟩ := List.cons.inj ends
      exact apart _ stops (by simp [entity])

end Closed

section Lacking

/-- None of some characters is in a text. -/
def Lacks (banned : List UInt16) (text : QString) : Prop := ∀ unit ∈ text, unit ∉ banned

instance (banned : List UInt16) (text : QString) : Decidable (Lacks banned text) :=
  List.decidableBAll (fun unit => unit ∉ banned) text

variable {banned : List UInt16}

theorem Lacks.append {text other : QString} (first : Lacks banned text) (second : Lacks banned other) :
    Lacks banned (text ++ other) :=
  List.forall_mem_append.mpr ⟨first, second⟩

theorem Lacks.flatMap {Item : Type} {items : List Item} {text : Item → QString}
    (each : ∀ item ∈ items, Lacks banned (text item)) : Lacks banned (items.flatMap text) := by
  intro unit member
  obtain ⟨item, inside, among⟩ := List.mem_flatMap.mp member
  exact each item inside unit among

theorem Unmarked.lacks {text : QString} (unmarked : Unmarked text) (fewer : banned ⊆ marks) :
    Lacks banned text :=
  fun unit member isBanned => unmarked unit member (fewer isBanned)

/-- A text without the other characters that are escaped is written as it is escaped once. -/
theorem coded_once {text : QString} (lacks : Lacks [0x26, 0x3C, 0x3E] text) :
    Coded implementationReplacements (escapeHtml text) text := by
  refine Entities.coded_spelling fun unit member => ?_
  have others := lacks unit member
  simp only [List.mem_cons, List.not_mem_nil, or_false, not_or] at others
  -- The quote is the only character that is escaped in such a text.
  by_cases quote : unit = 0x22
  · subst quote
    exact .inr (by decide)
  · exact .inl (by simp [escapeUnit, others, quote])

/-- A text without any characters that are escaped is escaped as itself. -/
theorem Lacks.escapeHtml {text : QString} (lacks : Lacks [0x26, 0x3C, 0x3E, 0x22] text) :
    escapeHtml text = text := by
  refine (List.flatMap_congr fun unit member => ?_).trans (List.flatMap_singleton' text)
  have others := lacks unit member
  simp only [List.mem_cons, List.not_mem_nil, or_false, not_or] at others
  simp [escapeUnit, others]

/-- What the entity of a character becomes where it is escaped again. -/
def escapeTwice (unit : UInt16) : QString := escapeHtml (escapeUnit unit)

theorem escapeHtml_escapeHtml (text : QString) :
    escapeHtml (escapeHtml text) = text.flatMap escapeTwice :=
  List.flatMap_assoc

/-- Whether the characters that are escaped, but for some, have entities in a table. -/
def hasEntities (table : List (QString × QString)) (banned : List UInt16) : Bool :=
  [0x26, 0x3C, 0x3E, 0x22].all fun unit =>
    banned.contains unit || table.contains (escapeTwice unit, [unit])

/-- A text whose escaped characters have entities in a table is written as it is escaped twice. -/
theorem coded_twice (table : List (QString × QString)) {text : QString}
    (has : hasEntities table banned = true) (lacks : Lacks banned text) :
    Coded table (escapeHtml (escapeHtml text)) text := by
  rw [escapeHtml_escapeHtml]
  refine Entities.coded_spelling fun unit member => ?_
  by_cases escaped : unit ∈ [0x26, 0x3C, 0x3E, 0x22]
  · have known := List.all_eq_true.mp has unit escaped
    rw [Bool.or_eq_true, List.contains_iff_mem, List.contains_iff_mem] at known
    exact .inr (known.resolve_left (lacks unit member))
  · simp only [List.mem_cons, List.not_mem_nil, or_false, not_or] at escaped
    have once : escapeUnit unit = [unit] := by simp [escapeUnit, escaped]
    exact .inl (by simp [escapeTwice, once, escapeHtml])

end Lacking

section Parts

variable {banned : List UInt16}

/-- Whether the fixed parts of a text lack some characters. -/
def literalsLack (banned : List UInt16) (rendered : Rendered) : Bool :=
  rendered.all fun piece => piece.literal.all fun unit => !banned.contains unit

/-- What neither the fixed parts nor the values have is not in the text. -/
theorem lacks_text {rendered : Rendered} (literals : literalsLack banned rendered = true)
    (values : ∀ piece ∈ rendered, Lacks banned piece.value) : Lacks banned (Replacing.text rendered) := by
  refine Lacks.flatMap fun piece member => Lacks.append (fun unit inside => ?_) (values piece member)
  simpa using List.all_eq_true.mp (List.all_eq_true.mp literals piece member) unit inside

theorem lacks_nil : Lacks banned [] := fun _ member => (List.not_mem_nil member).elim

/-- Nothing has to be closed in parts without ampersands. -/
theorem closed_text {rendered : Rendered}
    (literals : literalsLack [0x26] rendered = true) (values : ∀ piece ∈ rendered, Lacks [0x26] piece.value) : Closed (Replacing.text rendered) :=
  closed_of_notMem fun member => lacks_text literals values _ member List.mem_cons_self

variable [QtCases] (qtCases : QtCases.OfAscii) {definition : DataFrameDefinition}
  (atoms : PlainAtoms definition)

include qtCases atoms

/-- The last argument is closed by what stands behind the argument list. -/
theorem closed_buildFunctionsArguments : ∀ unit ∈ ofAscii ",)",
    Closed (Replacing.text (DataFramesContractBuilder.buildFunctionsArguments definition) ++ [unit]) := by
  have closes {unit : UInt16} (stops : unit ∈ ofAscii ",)") : Closed [unit] :=
    closed_of_notMem fun member =>
      absurd (List.mem_singleton.mp member ▸ stops) (by decide)
  have turn : ∀ (result : Rendered) (atom : DataAtomDefinition), Unmarked (argumentOf atom.name) →
      (∀ unit ∈ ofAscii ",)", Closed (Replacing.text result ++ [unit])) → ∀ unit ∈ ofAscii ",)",
        Closed (Replacing.text (DataFramesContractBuilder.appendArgument result atom) ++ [unit]) := by
    intro result atom unmarked before unit stops
    -- An earlier argument is closed by the comma behind it.
    have front : Closed (Replacing.text
        (if (Replacing.text result).length > 0 then result ++ plain (ofAscii ", ") else result)) := by
      split
      · have space : Closed [0x20] := closed_of_notMem (by decide)
        have comma := (before 0x2C (by decide)).append space
        have separator : ofAscii ", " = [0x2C, 0x20] := rfl
        simpa [plain, separator] using comma
      · rename_i empty
        have nothing : Replacing.text result = [] := List.eq_nil_of_length_eq_zero (by omega)
        exact nothing ▸ closed_of_notMem List.not_mem_nil
    have type : Lacks [0x26] (typeIn cppTypes atom.atomType) :=
      (unmarked_cppType atom.atomType).lacks (by decide)
    have typed : Closed (Replacing.text
        ([⟨ofAscii "\r\n\t\tconst ", typeIn cppTypes atom.atomType⟩] ++ plain (ofAscii " "))) :=
      closed_text (by rfl) (List.forall_mem_cons.mpr ⟨type, List.forall_mem_singleton.mpr lacks_nil⟩)
    -- The ampersand in front of the argument is closed by what stands behind it.
    have argument := (front.append typed).append (closed_argument unmarked stops)
    have ampersand : ofAscii "&" = [0x26] := rfl
    rw [DataFramesContractBuilder.appendArgument, Replacing.text_append]
    simpa [Templates.functionArgument, ampersand, plain] using argument
  have none : ∀ unit ∈ ofAscii ",)", Closed (Replacing.text ([] : Rendered) ++ [unit]) :=
    fun unit stops => closes stops
  -- The list is built atom by atom, so that it is enough to look at a turn.
  exact EventMachine.run_invariant_of_admitted DataFramesContractBuilder.appendArgument turn none
    (fun atom member => unmarked_argumentOf (atoms.ascii atom member) (atoms.unmarked atom member) qtCases)

/-- Only the ampersand is escaped in an argument list. -/
theorem lacks_buildFunctionsArguments : Lacks [0x3C, 0x3E, 0x22]
    (Replacing.text (DataFramesContractBuilder.buildFunctionsArguments definition)) := by
  have turn : ∀ (result : Rendered) (atom : DataAtomDefinition), Unmarked (argumentOf atom.name) →
      Lacks [0x3C, 0x3E, 0x22] (Replacing.text result) → Lacks [0x3C, 0x3E, 0x22]
        (Replacing.text (DataFramesContractBuilder.appendArgument result atom)) := by
    intro result atom unmarked before
    have type := unmarked_cppType atom.atomType
    rw [DataFramesContractBuilder.appendArgument, Replacing.text_append]
    refine .append ?_ (lacks_text (by rfl) ?_)
    · split
      · rw [Replacing.text_append]
        exact before.append (by decide)
      · exact before
    · refine List.forall_mem_cons.mpr ⟨type.lacks (by decide), List.forall_mem_singleton.mpr ?_⟩
      exact .append (by decide) (unmarked.lacks (by decide))
  exact EventMachine.run_invariant_of_admitted DataFramesContractBuilder.appendArgument turn lacks_nil
    (fun atom member => unmarked_argumentOf (atoms.ascii atom member) (atoms.unmarked atom member) qtCases)

end Parts

/-- A fixed part amounts to itself. -/
theorem text_plain (text : QString) : Replacing.text (plain text) = text := by simp [plain]

section Texts

variable {table : List (QString × QString)} (projectName : QString)
  {framesConstants atomsConstants functions otherFrames otherAtoms otherFunctions : Rendered}

/-- A header is written for another where its parts are. -/
theorem coded_headerFile
    (frames : Coded table (Replacing.text framesConstants) (Replacing.text otherFrames))
    (atoms : Coded table (Replacing.text atomsConstants) (Replacing.text otherAtoms))
    (codedFunctions : Coded table (Replacing.text functions) (Replacing.text otherFunctions)) :
    Coded table
      (Replacing.text (Templates.headerFile projectName framesConstants atomsConstants functions))
      (Replacing.text (Templates.headerFile projectName otherFrames otherAtoms otherFunctions)) := by
  simp only [Templates.headerFile, Replacing.text_append]
  refine .append (.append (.append (.append (.append (.append (.append (.append ?_ frames) ?_)
    atoms) ?_) ?_) ?_) codedFunctions) ?_
  all_goals exact .refl table _

/-- An implementation is written for another where its parts are. -/
theorem coded_implementationFile
    (frames : Coded table (Replacing.text framesConstants) (Replacing.text otherFrames))
    (atoms : Coded table (Replacing.text atomsConstants) (Replacing.text otherAtoms))
    (codedFunctions : Coded table (Replacing.text functions) (Replacing.text otherFunctions)) :
    Coded table
      (Replacing.text
        (Templates.implementationFile projectName framesConstants atomsConstants functions))
      (Replacing.text (Templates.implementationFile projectName otherFrames otherAtoms otherFunctions)) := by
  simp only [Templates.implementationFile, Replacing.text_append]
  refine .append (.append (.append (.append (.append (.append (.append (.append ?_ frames) ?_)
    atoms) ?_) ?_) ?_) codedFunctions) ?_
  all_goals exact .refl table _

variable {projectName} (unmarked : Unmarked projectName)

include unmarked

/-- A header is closed where its parts are. -/
theorem closed_headerFile (frames : Closed (Replacing.text framesConstants))
    (atoms : Closed (Replacing.text atomsConstants)) (others : Closed (Replacing.text functions)) :
    Closed (Replacing.text
      (Templates.headerFile projectName framesConstants atomsConstants functions)) := by
  have project : Lacks [0x26] projectName := unmarked.lacks (by decide)
  unfold Templates.headerFile
  rw [Replacing.text_append, Replacing.text_append, Replacing.text_append, Replacing.text_append,
    Replacing.text_append, Replacing.text_append, Replacing.text_append, Replacing.text_append]
  refine .append (.append (.append (.append (.append (.append (.append (.append ?_ frames) ?_)
    atoms) ?_) ?_) ?_) others) ?_
  all_goals exact closed_text (by rfl) (by simp [plain, Templates.frameNamespaceOpen, project, lacks_nil])

/-- An implementation is closed where its parts are. -/
theorem closed_implementationFile (frames : Closed (Replacing.text framesConstants))
    (atoms : Closed (Replacing.text atomsConstants)) (others : Closed (Replacing.text functions)) :
    Closed (Replacing.text
      (Templates.implementationFile projectName framesConstants atomsConstants functions)) := by
  have project : Lacks [0x26] projectName := unmarked.lacks (by decide)
  unfold Templates.implementationFile
  rw [Replacing.text_append, Replacing.text_append, Replacing.text_append, Replacing.text_append,
    Replacing.text_append, Replacing.text_append, Replacing.text_append, Replacing.text_append]
  refine .append (.append (.append (.append (.append (.append (.append (.append ?_ frames) ?_)
    atoms) ?_) ?_) ?_) others) ?_
  all_goals exact closed_text (by rfl) (by simp [plain, Templates.frameNamespaceOpen, project, lacks_nil])

end Texts

section Functions

variable {name projectName nameUpper : QString} (unmarked : Unmarked name) {arguments : Rendered}
  (closes : ∀ unit ∈ ofAscii ",)", Closed (Replacing.text arguments ++ [unit]))
  (escapes : Lacks [0x3C, 0x3E, 0x22] (Replacing.text arguments))

/-- A declaration is escaped as a whole. -/
theorem escapeHtml_functionDefinition (name : QString) (arguments : Rendered) :
    Replacing.text (Templates.functionDefinition (escapeHtml name)
      (plain (escapeHtml (Replacing.text arguments)))) =
      escapeHtml (Replacing.text (Templates.functionDefinition name arguments)) := by
  simp only [Templates.functionDefinition, Replacing.text_append, Replacing.text_cons,
    Replacing.text_nil, plain, escapeHtml, List.flatMap_append, List.append_assoc, List.append_nil]
  rfl

/-- A function is escaped as a whole. -/
theorem escapeHtml_functionImplementation (projectName name nameUpper : QString)
    (arguments assignAtoms : Rendered) :
    Replacing.text (Templates.functionImplementation (escapeHtml projectName) (escapeHtml name)
      (plain (escapeHtml (Replacing.text arguments))) (escapeHtml nameUpper)
      (plain (escapeHtml (Replacing.text assignAtoms)))) =
      escapeHtml (Replacing.text
        (Templates.functionImplementation projectName name arguments nameUpper assignAtoms)) := by
  simp only [Templates.functionImplementation, Replacing.text_append, Replacing.text_cons,
    Replacing.text_nil, plain, escapeHtml, List.flatMap_append, List.append_assoc, List.append_nil]
  rfl

include unmarked

include closes in
theorem closed_functionDefinition :
    Closed (Replacing.text (Templates.functionDefinition name arguments)) := by
  have front : Closed (Replacing.text
      ([⟨ofAscii "\tDataFrame::Ptr build", name⟩] ++ plain (ofAscii "Frame("))) :=
    closed_text (by rfl) (List.forall_mem_cons.mpr
      ⟨unmarked.lacks (by decide), List.forall_mem_singleton.mpr lacks_nil⟩)
  have back : Closed (ofAscii ";\r\n\r\n") := closed_of_notMem (by decide)
  have closed := (front.append (closes 0x29 (by decide))).append back
  -- The closing parenthesis is what closes the last argument.
  have parenthesis : ofAscii ");\r\n\r\n" = 0x29 :: ofAscii ";\r\n\r\n" := rfl
  simpa [Templates.functionDefinition, plain, parenthesis] using closed

include escapes in
theorem lacks_functionDefinition :
    Lacks [0x3C, 0x3E, 0x22] (Replacing.text (Templates.functionDefinition name arguments)) := by
  simp only [Templates.functionDefinition, Replacing.text_append]
  refine .append (.append (.append ?_ ?_) escapes) ?_
  · exact lacks_text (by rfl) (List.forall_mem_singleton.mpr (unmarked.lacks (by decide)))
  · exact lacks_text (by rfl) (List.forall_mem_singleton.mpr lacks_nil)
  · exact lacks_text (by rfl) (List.forall_mem_singleton.mpr lacks_nil)

variable (unmarkedProject : Unmarked projectName) (unmarkedUpper : Unmarked nameUpper)
  {assignAtoms : Rendered}

include unmarkedProject unmarkedUpper

include closes in
theorem closed_functionImplementation (assigns : Lacks [0x26, 0x22] (Replacing.text assignAtoms)) :
    Closed (Replacing.text
      (Templates.functionImplementation projectName name arguments nameUpper assignAtoms)) := by
  have front : Closed (Replacing.text ([⟨ofAscii "DataFrame::Ptr ", projectName⟩,
      ⟨ofAscii "DataFramesFactoryImpl::build", name⟩] ++ plain (ofAscii "Frame("))) :=
    closed_text (by rfl) (List.forall_mem_cons.mpr ⟨unmarkedProject.lacks (by decide),
      List.forall_mem_cons.mpr ⟨unmarked.lacks (by decide), List.forall_mem_singleton.mpr lacks_nil⟩⟩)
  have middle : Closed (Replacing.text ([⟨ofAscii "\r\n\x7b\r\n" ++
      ofAscii "\tDataFrame::Ptr frame(buildFrame(FRAME_NAME_", nameUpper⟩] ++
      plain (ofAscii "));\r\n" ++ ofAscii "\tif (!frame)\r\n\t\treturn frame;\r\n"))) :=
    closed_text (by rfl) (List.forall_mem_cons.mpr ⟨unmarkedUpper.lacks (by decide),
      List.forall_mem_singleton.mpr lacks_nil⟩)
  -- The assignments have no ampersands at all.
  have assigned : Closed (Replacing.text assignAtoms) :=
    closed_of_notMem fun member => assigns _ member (by decide)
  have back : Closed (ofAscii "\treturn frame;\r\n" ++ ofAscii "\x7d\r\n\r\n") :=
    closed_of_notMem (by decide)
  have closed := (((front.append (closes 0x29 (by decide))).append middle).append
    assigned).append back
  have parenthesis : ofAscii ")\r\n\x7b\r\n" = 0x29 :: ofAscii "\r\n\x7b\r\n" := rfl
  simpa [Templates.functionImplementation, plain, parenthesis] using closed

include escapes in
theorem lacks_functionImplementation (assigns : Lacks [0x26, 0x22] (Replacing.text assignAtoms)) :
    Lacks [0x22] (Replacing.text
      (Templates.functionImplementation projectName name arguments nameUpper assignAtoms)) := by
  have noQuotes {text : QString} {banned : List UInt16} (lacks : Lacks banned text)
      (isBanned : 0x22 ∈ banned) : Lacks [0x22] text :=
    fun unit member quote => lacks unit member (List.mem_singleton.mp quote ▸ isBanned)
  simp only [Templates.functionImplementation, Replacing.text_append]
  refine .append (.append (.append (.append (.append (.append ?_ ?_) ?_) ?_) ?_) ?_) ?_
  · exact lacks_text (by rfl) (List.forall_mem_cons.mpr ⟨unmarkedProject.lacks (by decide),
      List.forall_mem_singleton.mpr (unmarked.lacks (by decide))⟩)
  · exact lacks_text (by rfl) (List.forall_mem_singleton.mpr lacks_nil)
  · exact noQuotes escapes (by decide)
  · exact lacks_text (by rfl) (List.forall_mem_singleton.mpr (unmarkedUpper.lacks (by decide)))
  · exact lacks_text (by rfl) (List.forall_mem_singleton.mpr lacks_nil)
  · exact noQuotes assigns (by decide)
  · exact lacks_text (by rfl) (List.forall_mem_singleton.mpr lacks_nil)

end Functions

/-- The replacements of `build` can be told apart. -/
theorem distinct_replacements {replacements : List (QString × QString)}
    (fewer : replacements ⊆ implementationReplacements) : Distinct 0x26 replacements := by
  have all : Distinct 0x26 implementationReplacements :=
    Mustache.distinct_of_check (by decide) (by decide)
  exact ⟨fun pair member => all.starts pair (fewer member),
    fun pair member other otherMember =>
      all.apart pair (fewer member) other (fewer otherMember)⟩

/-- A text is found again behind its entities, if it is closed. -/
theorem replaceEach_coded {replacements : List (QString × QString)}
    (fewer : replacements ⊆ implementationReplacements) {text shown : QString}
    (coded : Coded replacements text shown) (closed : Closed shown) :
    Replacing.replaceEach replacements text = shown ∧ Replacing.replaceEach replacements shown = shown :=
  ⟨coded.replaceEach (distinct_replacements fewer) fun pair member =>
      closed.entityFree pair (fewer member),
    closed.entityFree.replaceEach fewer⟩

/-- The frames of a table and their atoms have names that need no escaping. -/
structure UnmarkedTable (definitions : DataFramesDefinitions) : Prop where
  frames : ∀ entry ∈ definitions.framesHash, Unmarked entry.1
  atoms : ∀ entry ∈ definitions.framesHash, ∀ atom ∈ entry.2.atoms, Unmarked atom.name

/-- A part that was rendered is given to what comes behind it. -/
theorem bind_rendered {Part Result : Type} {rendered : Option Part} {part : Part}
    (known : rendered = some part) (next : Part → Option Result) : rendered >>= next = next part := by
  rw [known]
  rfl

section Tables

open DataFramesContractBuilder (AsciiTable ofDefinitions headerContract implementationContract)

variable [QtText] [QtCases] (maps : QtText.MapsAscii) (qtCases : QtCases.OfAscii)
  {definitions : DataFramesDefinitions} (table : AsciiTable definitions)
  (unmarkedTable : UnmarkedTable definitions)

include maps table unmarkedTable

/-- What is known of a frame that a function is generated for. -/
theorem of_mem_served {frame : QString × DataFrameDefinition}
    (member : frame ∈ servedFrames definitions) :
    frame.1.Ascii ∧ Unmarked frame.1 ∧ PlainAtoms frame.2 := by
  have inside := (DataFramesContractBuilder.of_mem_servedFrames maps table member).1
  exact ⟨(DataFramesContractBuilder.toUpper_key maps table (List.mem_map_of_mem inside)).1,
    unmarkedTable.frames frame inside, table.atoms frame inside, unmarkedTable.atoms frame inside⟩

/-- The names of frames that are listed need no escaping in upper case either. -/
theorem unmarked_of_listed {name : QString}
    (listed : name ∈ withoutStar (sortedFramesNames definitions)) : Unmarked (QtText.toUpper name) := by
  have key := DataFramesContractBuilder.mem_keys_of_listed listed
  have ascii := (DataFramesContractBuilder.toUpper_key maps table key).1
  obtain ⟨entry, inside, rfl⟩ := List.mem_map.mp key
  exact unmarked_toUpper ascii (unmarkedTable.frames entry inside) maps

/-- The names of atoms that are collected need no escaping. -/
theorem of_mem_sortedAtomsNames {name : QString} (member : name ∈ sortedAtomsNames definitions) :
    Unmarked name ∧ Unmarked (QtText.toUpper name) := by
  have ascii := DataFramesContractBuilder.ascii_of_mem_sortedAtomsNames maps table member
  obtain ⟨frameName, listed, named⟩ :=
    List.mem_flatMap.mp ((DataFramesContractBuilder.collects_sortedAtomsNames definitions).sound member)
  obtain ⟨atom, inside, rfl⟩ := List.mem_map.mp named
  -- An atom that is collected belongs to a frame of the table, with its name as it is there.
  have key : frameName ∈ definitions.keys := (List.perm_insertionSort _ _).mem_iff.mp listed
  obtain ⟨definition, found⟩ := DataFramesContractBuilder.exists_definition maps table key
  rw [DataFramesContractBuilder.atomsOf, found] at inside
  have unmarked := unmarkedTable.atoms _
    (DataFramesContractBuilder.mem_of_definitionByKey maps table key found) atom inside
  exact ⟨unmarked, unmarked_toUpper ascii unmarked maps⟩

omit unmarkedTable in
/-- A loop over the frames renders something for each of their definitions. -/
theorem renderEach_definitions {rendered : QString → DataFrameDefinition → Option QString}
    {text : QString × DataFrameDefinition → QString}
    (each : ∀ frame ∈ servedFrames definitions, rendered frame.1 frame.2 = some (text frame)) :
    renderEach (withoutStar (sortedFramesNames definitions)) (fun name => do
      let definition ← definitions.definitionByKey name
      rendered name definition) = some ((servedFrames definitions).flatMap text) := by
  have defined := DataFramesContractBuilder.isSome_definitionByKey maps table
  unfold servedFrames at each ⊢
  -- The names are kept general, as long as each of them has a definition.
  generalize withoutStar (sortedFramesNames definitions) = names at each defined ⊢
  have single : ∀ name ∈ names, (do
      let definition ← definitions.definitionByKey name
      rendered name definition) =
        some (((definitions.definitionByKey name).map (name, ·)).toList.flatMap text) := by
    intro name member
    obtain ⟨definition, found⟩ := Option.isSome_iff_exists.mp (defined name member)
    have one := each (name, definition)
      (List.mem_filterMap.mpr ⟨name, member, by rw [found]; rfl⟩)
    rw [found]
    simpa using one
  rw [renderEach_eq single, List.filterMap_eq_flatMap_toList, List.flatMap_assoc]

/-- The constants of the header are rendered as if nothing were escaped. -/
theorem headerConstants_eq :
    buildHeaderFramesConstantsDefinitions (sortedFramesNames definitions) =
      some (Replacing.text (DataFramesContractBuilder.buildHeaderFramesConstantsDefinitions
        (sortedFramesNames definitions))) ∧
    buildHeaderAtomsConstantsDefinitions (sortedAtomsNames definitions) =
      some (Replacing.text (DataFramesContractBuilder.buildHeaderAtomsConstantsDefinitions
        (sortedAtomsNames definitions))) := by
  constructor
  · rw [DataFramesContractBuilder.buildHeaderFramesConstantsDefinitions, Replacing.text_flatMap]
    refine renderEach_eq fun name listed => ?_
    rw [render_frameConstant, (unmarked_of_listed maps table unmarkedTable listed).escapeHtml]
  · rw [DataFramesContractBuilder.buildHeaderAtomsConstantsDefinitions, Replacing.text_flatMap]
    refine renderEach_eq fun name member => ?_
    rw [render_atomConstant, (of_mem_sortedAtomsNames maps table unmarkedTable member).2.escapeHtml]

/-- The constants of the implementation are rendered as if nothing were escaped. -/
theorem implementationConstants_eq (projectName : QString) :
    buildImplementationFramesConstantsDefinitions projectName (sortedFramesNames definitions) =
      some (Replacing.text (DataFramesContractBuilder.buildImplementationFramesConstantsDefinitions
        (sortedFramesNames definitions))) ∧
    buildImplementationAtomsConstantsDefinitions projectName (sortedAtomsNames definitions) =
      some (Replacing.text (DataFramesContractBuilder.buildImplementationAtomsConstantsDefinitions
        (sortedAtomsNames definitions))) := by
  constructor
  · rw [DataFramesContractBuilder.buildImplementationFramesConstantsDefinitions, Replacing.text_flatMap]
    refine renderEach_eq fun name listed => ?_
    rw [render_frameConstantImplementation,
      (unmarked_of_listed maps table unmarkedTable listed).escapeHtml]
  · rw [DataFramesContractBuilder.buildImplementationAtomsConstantsDefinitions, Replacing.text_flatMap]
    refine renderEach_eq fun name member => ?_
    obtain ⟨unmarked, unmarkedUpper⟩ := of_mem_sortedAtomsNames maps table unmarkedTable member
    rw [render_atomConstantImplementation, unmarked.escapeHtml, unmarkedUpper.escapeHtml]

/-- There is nothing to escape in the constants of the header. -/
theorem headerConstants_lack :
    Lacks [0x26, 0x3C, 0x3E, 0x22] (Replacing.text
      (DataFramesContractBuilder.buildHeaderFramesConstantsDefinitions (sortedFramesNames definitions))) ∧
    Lacks [0x26, 0x3C, 0x3E, 0x22] (Replacing.text
      (DataFramesContractBuilder.buildHeaderAtomsConstantsDefinitions (sortedAtomsNames definitions))) := by
  rw [DataFramesContractBuilder.buildHeaderFramesConstantsDefinitions,
    DataFramesContractBuilder.buildHeaderAtomsConstantsDefinitions, Replacing.text_flatMap,
    Replacing.text_flatMap]
  refine ⟨.flatMap fun name listed => lacks_text (by rfl) ?_,
    .flatMap fun name member => lacks_text (by rfl) ?_⟩
  · have unmarked := unmarked_of_listed maps table unmarkedTable listed
    exact List.forall_mem_cons.mpr ⟨unmarked.lacks (by decide), List.forall_mem_singleton.mpr lacks_nil⟩
  · have unmarked := (of_mem_sortedAtomsNames maps table unmarkedTable member).2
    exact List.forall_mem_cons.mpr ⟨unmarked.lacks (by decide), List.forall_mem_singleton.mpr lacks_nil⟩

/-- Only quotes are escaped in the constants of the implementation. -/
theorem implementationConstants_lack :
    Lacks [0x26, 0x3C, 0x3E] (Replacing.text
      (DataFramesContractBuilder.buildImplementationFramesConstantsDefinitions
        (sortedFramesNames definitions))) ∧
    Lacks [0x26, 0x3C, 0x3E] (Replacing.text
      (DataFramesContractBuilder.buildImplementationAtomsConstantsDefinitions
        (sortedAtomsNames definitions))) := by
  rw [DataFramesContractBuilder.buildImplementationFramesConstantsDefinitions,
    DataFramesContractBuilder.buildImplementationAtomsConstantsDefinitions, Replacing.text_flatMap,
    Replacing.text_flatMap]
  refine ⟨.flatMap fun name listed => lacks_text (by rfl) ?_,
    .flatMap fun name member => lacks_text (by rfl) ?_⟩
  · have unmarked : Lacks [0x26, 0x3C, 0x3E] (QtText.toUpper name) :=
      (unmarked_of_listed maps table unmarkedTable listed).lacks (by decide)
    exact List.forall_mem_cons.mpr ⟨unmarked, List.forall_mem_cons.mpr ⟨unmarked,
      List.forall_mem_singleton.mpr lacks_nil⟩⟩
  · obtain ⟨unmarked, upper⟩ := of_mem_sortedAtomsNames maps table unmarkedTable member
    exact List.forall_mem_cons.mpr ⟨upper.lacks (by decide), List.forall_mem_cons.mpr
      ⟨unmarked.lacks (by decide), List.forall_mem_singleton.mpr lacks_nil⟩⟩

include qtCases

/-- The declarations of the functions are rendered with all of them escaped. -/
theorem headerFunctions_eq :
    buildHeaderFunctionsDefinitions definitions (sortedFramesNames definitions) =
      some (escapeHtml (Replacing.text ((servedFrames definitions).flatMap fun frame =>
        Templates.functionDefinition (toNameCase frame.1)
          (DataFramesContractBuilder.buildFunctionsArguments frame.2)))) := by
  rw [Replacing.text_flatMap, escapeHtml, List.flatMap_assoc]
  -- The arguments are escaped a second time, together with the rest of the declaration.
  refine renderEach_definitions maps table fun frame member => ?_
  obtain ⟨ascii, unmarked, atoms⟩ := of_mem_served maps table unmarkedTable member
  rw [bind_rendered (buildFunctionsArguments_eq qtCases atoms), render_functionDefinition, escapeHtml_functionDefinition, escapeHtml]

/-- The functions are rendered with all of them escaped. -/
theorem implementationFunctions_eq (projectName : QString) :
    buildFunctionsImplementation projectName definitions (sortedFramesNames definitions) =
      some (escapeHtml (Replacing.text ((servedFrames definitions).flatMap fun frame =>
        Templates.functionImplementation projectName (toNameCase frame.1)
          (DataFramesContractBuilder.buildFunctionsArguments frame.2) (QtText.toUpper frame.1)
          (DataFramesContractBuilder.buildImplementationAssignAtoms frame.2)))) := by
  rw [Replacing.text_flatMap, escapeHtml, List.flatMap_assoc]
  refine renderEach_definitions maps table fun frame member => ?_
  obtain ⟨ascii, unmarked, atoms⟩ := of_mem_served maps table unmarkedTable member
  rw [bind_rendered (buildFunctionsArguments_eq qtCases atoms),
    bind_rendered (buildImplementationAssignAtoms_eq maps qtCases atoms), render_functionImplementation, escapeHtml_functionImplementation, escapeHtml]

/-- No declaration has anything to escape but the ampersands of its arguments, which are closed. -/
theorem headerFunctions_closed :
    let functions := Replacing.text ((servedFrames definitions).flatMap fun frame =>
      Templates.functionDefinition (toNameCase frame.1)
        (DataFramesContractBuilder.buildFunctionsArguments frame.2))
    Closed functions ∧ Lacks [0x3C, 0x3E, 0x22] functions := by
  intro functions
  have each : ∀ frame ∈ servedFrames definitions,
      Unmarked (toNameCase frame.1) ∧ PlainAtoms frame.2 := by
    intro frame member
    obtain ⟨ascii, unmarked, atoms⟩ := of_mem_served maps table unmarkedTable member
    exact ⟨unmarked_nameCaseFrom ascii unmarked qtCases true, atoms⟩
  have split : functions = (servedFrames definitions).flatMap fun frame => _ :=
    Replacing.text_flatMap _ _
  rw [split]
  exact ⟨.flatMap fun frame member => closed_functionDefinition (each frame member).1
      (closed_buildFunctionsArguments qtCases (each frame member).2),
    .flatMap fun frame member => lacks_functionDefinition (each frame member).1
      (lacks_buildFunctionsArguments qtCases (each frame member).2)⟩

/-- No function has a quote, and its ampersands are those of its arguments. -/
theorem implementationFunctions_closed {projectName : QString} (unmarkedName : Unmarked projectName) :
    let functions := Replacing.text ((servedFrames definitions).flatMap fun frame =>
      Templates.functionImplementation projectName (toNameCase frame.1)
        (DataFramesContractBuilder.buildFunctionsArguments frame.2) (QtText.toUpper frame.1)
        (DataFramesContractBuilder.buildImplementationAssignAtoms frame.2))
    Closed functions ∧ Lacks [0x22] functions := by
  intro functions
  have each : ∀ frame ∈ servedFrames definitions, Unmarked (toNameCase frame.1) ∧
      Unmarked (QtText.toUpper frame.1) ∧ PlainAtoms frame.2 := by
    intro frame member
    obtain ⟨ascii, unmarked, atoms⟩ := of_mem_served maps table unmarkedTable member
    exact ⟨unmarked_nameCaseFrom ascii unmarked qtCases true, unmarked_toUpper ascii unmarked maps, atoms⟩
  have assigns {definition : DataFrameDefinition} (atoms : PlainAtoms definition) :
      Lacks [0x26, 0x22] (Replacing.text
        (DataFramesContractBuilder.buildImplementationAssignAtoms definition)) := by
    rw [DataFramesContractBuilder.buildImplementationAssignAtoms, Replacing.text_flatMap]
    refine .flatMap fun atom member => lacks_text (by rfl) ?_
    have low := atoms.ascii atom member
    have clean := atoms.unmarked atom member
    have type := unmarked_atomsType atom.atomType
    refine List.forall_mem_cons.mpr ⟨type.lacks (by decide), List.forall_mem_cons.mpr
      ⟨(unmarked_toUpper low clean maps).lacks (by decide), List.forall_mem_cons.mpr
        ⟨(unmarked_argumentOf low clean qtCases).lacks (by decide), ?_⟩⟩⟩
    exact List.forall_mem_singleton.mpr lacks_nil
  have split : functions = (servedFrames definitions).flatMap fun frame => _ :=
    Replacing.text_flatMap _ _
  rw [split]
  refine ⟨.flatMap fun frame member => ?_, .flatMap fun frame member => ?_⟩
  all_goals obtain ⟨named, upper, atoms⟩ := each frame member
  · exact closed_functionImplementation named (closed_buildFunctionsArguments qtCases atoms)
      unmarkedName upper (assigns atoms)
  · exact lacks_functionImplementation named (lacks_buildFunctionsArguments qtCases atoms)
      unmarkedName upper (assigns atoms)

/-- The header is the one of the contract, though its functions were escaped twice. -/
theorem buildHeader_eq {projectName : QString} (unmarkedName : Unmarked projectName) :
    (buildHeader projectName definitions (sortedFramesNames definitions)
      (sortedAtomsNames definitions)).map (Replacing.replaceEach headerReplacements) =
      some (headerContract definitions projectName).text := by
  have fewer := DataFramesContractBuilder.headerReplacements_subset
  obtain ⟨frames, atoms⟩ := headerConstants_eq maps table unmarkedTable
  have functions := headerFunctions_eq maps qtCases table unmarkedTable
  obtain ⟨closed, lacks⟩ := headerFunctions_closed maps qtCases table unmarkedTable
  obtain ⟨framesLack, atomsLack⟩ := headerConstants_lack maps table unmarkedTable
  have none {text : QString} (lacks : Lacks [0x26, 0x3C, 0x3E, 0x22] text) : Closed text :=
    closed_of_notMem fun member => lacks _ member (by decide)
  -- Only the functions are written in another way than they read.
  have written := coded_twice headerReplacements (by decide) lacks
  rw [← text_plain (escapeHtml _)] at written
  have coded := coded_headerFile projectName (.refl headerReplacements (Replacing.text
      (DataFramesContractBuilder.buildHeaderFramesConstantsDefinitions (sortedFramesNames definitions))))
    (.refl headerReplacements (Replacing.text
      (DataFramesContractBuilder.buildHeaderAtomsConstantsDefinitions (sortedAtomsNames definitions))))
    written
  obtain ⟨replaced, same⟩ := replaceEach_coded fewer coded
    (closed_headerFile unmarkedName (none framesLack) (none atomsLack) closed)
  rw [← DataFramesContractBuilder.headerContent_eq, same, ← replaced, buildHeader, bind_rendered frames,
    bind_rendered atoms, bind_rendered functions]
  rw [render_headerFile, unmarkedName.escapeHtml, framesLack.escapeHtml, atomsLack.escapeHtml]
  simp [Templates.headerFile, plain]

/-- The implementation is the one of the contract, though its parts were escaped once or twice. -/
theorem buildImplementation_eq {projectName : QString} (unmarkedName : Unmarked projectName) :
    (buildImplementation projectName definitions (sortedFramesNames definitions)
      (sortedAtomsNames definitions)).map (Replacing.replaceEach implementationReplacements) =
      some (implementationContract definitions projectName).text := by
  have fewer := List.Subset.refl implementationReplacements
  obtain ⟨frames, atoms⟩ := implementationConstants_eq maps table unmarkedTable projectName
  have functions := implementationFunctions_eq maps qtCases table unmarkedTable projectName
  obtain ⟨closed, lacks⟩ := implementationFunctions_closed maps qtCases table unmarkedTable unmarkedName
  obtain ⟨framesLack, atomsLack⟩ := implementationConstants_lack maps table unmarkedTable
  have none {text : QString} (lacks : Lacks [0x26, 0x3C, 0x3E] text) : Closed text :=
    closed_of_notMem fun member => lacks _ member (by decide)
  -- The constants have quotes in them, and the functions what is escaped twice.
  have writtenFrames := coded_once framesLack
  have writtenAtoms := coded_once atomsLack
  have written := coded_twice implementationReplacements (by decide) lacks
  rw [← text_plain (escapeHtml _)] at writtenFrames writtenAtoms written
  have coded := coded_implementationFile projectName writtenFrames writtenAtoms written
  obtain ⟨replaced, same⟩ := replaceEach_coded fewer coded
    (closed_implementationFile unmarkedName (none framesLack) (none atomsLack) closed)
  rw [← DataFramesContractBuilder.implementationContent_eq, same, ← replaced, buildImplementation,
    bind_rendered frames, bind_rendered atoms, bind_rendered functions]
  rw [render_implementationFile, unmarkedName.escapeHtml]
  rfl

/--
What the engine renders becomes the plain texts of the header and the implementation.

The templates are put into each other, so that their values are escaped once, twice or three times.
-/
theorem build_rendered {projectName : QString} (unmarkedName : Unmarked projectName) :
    build (ofDefinitions (some definitions) projectName) =
      some (true, ⟨some definitions, projectName, (headerContract definitions projectName).text,
        (implementationContract definitions projectName).text⟩) := by
  have nonempty : ¬ definitions.keys.length < 1 := by
    have positive := List.length_pos_iff.mpr table.filled
    rw [DataFramesDefinitions.keys, List.length_map]
    omega
  obtain ⟨header, builtHeader, headerText⟩ :=
    Option.map_eq_some_iff.mp (buildHeader_eq maps qtCases table unmarkedTable unmarkedName)
  obtain ⟨implementation, builtImplementation, implementationText⟩ :=
    Option.map_eq_some_iff.mp (buildImplementation_eq maps qtCases table unmarkedTable unmarkedName)
  rw [build, ofDefinitions]
  dsimp only
  rw [if_neg nonempty, builtHeader, builtImplementation, ← headerText, ← implementationText]
  rfl

end Tables

/-- Two frames with an atom in two cases, one of them of no known type. -/
def notesDefinitions : DataFramesDefinitions :=
  ⟨[(ofAscii "STATUS", ⟨ofAscii "Status", false, 1, false, 0,
      [⟨ofAscii "Level", ofAscii "uint8", true⟩, ⟨ofAscii "text", ofAscii "note", true⟩]⟩),
    (ofAscii "ALARM_1", ⟨ofAscii "Alarm_1", false, 1, false, 0,
      [⟨ofAscii "LEVEL", ofAscii "uint8", true⟩]⟩)]⟩

/-- The engine renders the contract for the two frames. -/
theorem build_rendered_notes :
    let _ := QtText.ascii
    let _ := QtCases.ascii
    build (DataFramesContractBuilder.ofDefinitions (some notesDefinitions) (ofAscii "Demo")) =
      some (true, ⟨some notesDefinitions, ofAscii "Demo",
        (DataFramesContractBuilder.headerContract notesDefinitions (ofAscii "Demo")).text,
        (DataFramesContractBuilder.implementationContract notesDefinitions (ofAscii "Demo")).text⟩) := by
  intro _ _
  have table : DataFramesContractBuilder.AsciiTable notesDefinitions :=
    ⟨by decide, by unfold DataFramesDefinitions.Keyed; decide, by decide,
      by decide, by decide⟩
  have unmarkedTable : UnmarkedTable notesDefinitions := ⟨by decide, by decide⟩
  exact build_rendered QtText.mapsAscii_ascii QtCases.ofAscii_ascii table unmarkedTable
    (by decide)

end Threader.RenderedContract
