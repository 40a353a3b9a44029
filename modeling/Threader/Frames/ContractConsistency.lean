import Threader.Base.Collecting
import Threader.Frames.GeneratedContract
import Threader.Frames.RawDataDefinitions

/-! The generated header and implementation agree, and each constant they use is there once. -/

namespace Threader

open DataFramesMask (STAR)
open QString (ofAscii)
open Replacing (replaceEach replaceValues)

/-- A small letter below `0x80`. -/
def isSmallAscii (unit : UInt16) : Bool := 0x61 ≤ unit && unit ≤ 0x7A

/-- The upper case of a character is no small letter. -/
theorem isSmallAscii_upperAscii {unit : UInt16} (low : unit < 0x80) :
    isSmallAscii (upperAscii unit) = false :=
  forall_ascii (P := fun unit => isSmallAscii (upperAscii unit) = false) (by decide) low

/-- The case of a character does not matter for its upper case. -/
theorem upperAscii_lowerAscii {unit : UInt16} (low : unit < 0x80) :
    upperAscii (lowerAscii unit) = upperAscii unit :=
  forall_ascii (P := fun unit => upperAscii (lowerAscii unit) = upperAscii unit)
    (by decide) low

/-- The case of a character does not matter for its lower case. -/
theorem lowerAscii_upperAscii {unit : UInt16} (low : unit < 0x80) :
    lowerAscii (upperAscii unit) = lowerAscii unit :=
  forall_ascii (P := fun unit => lowerAscii (upperAscii unit) = lowerAscii unit)
    (by decide) low

/-- A small letter is a letter. -/
theorem isAlphanumericAscii_of_small {unit : UInt16} (small : isSmallAscii unit = true) :
    isAlphanumericAscii unit = true := by
  rw [isSmallAscii] at small
  rw [isAlphanumericAscii, Bool.or_eq_true]
  exact .inr small

/-- Neither case of a letter or digit is an ampersand. -/
theorem cases_ne_ampersand {unit : UInt16} (low : unit < 0x80) :
    isAlphanumericAscii unit = true → upperAscii unit ≠ 0x26 ∧ lowerAscii unit ≠ 0x26 :=
  forall_ascii (P := fun unit => isAlphanumericAscii unit = true →
    upperAscii unit ≠ 0x26 ∧ lowerAscii unit ≠ 0x26) (by decide) low

namespace DataFramesContractBuilder

/-- A text without any of the entities that are replaced in the implementation. -/
def EntityFree (text : QString) : Prop :=
  ∀ replacement ∈ implementationReplacements, ¬ replacement.1 <:+: text

instance (text : QString) : Decidable (EntityFree text) :=
  List.decidableBAll (fun replacement : QString × QString => ¬ replacement.1 <:+: text)
    implementationReplacements

/-- Each entity is an ampersand, with a small letter behind it. -/
theorem entity_cons {replacement : QString × QString}
    (member : replacement ∈ implementationReplacements) :
    ∃ letter rest, isSmallAscii letter = true ∧ replacement.1 = 0x26 :: letter :: rest := by
  have all : implementationReplacements.all (fun replacement =>
      replacement.1.head? = some 0x26 && replacement.1.tail.head?.any isSmallAscii) := by
    decide
  obtain ⟨start, second⟩ := Bool.and_eq_true_iff.mp (List.all_eq_true.mp all replacement member)
  -- There is something behind the ampersand, since it begins with a small letter.
  obtain ⟨rest, cons⟩ := List.head?_eq_some_iff.mp (of_decide_eq_true start)
  rw [cons] at second ⊢
  cases rest with
  | nil => cases second
  | cons letter rest => exact ⟨letter, rest, second, rfl⟩

/-- Nothing is replaced in a text without entities. -/
theorem EntityFree.replaceEach {text : QString} (free : EntityFree text)
    {replacements : List (QString × QString)} (fewer : replacements ⊆ implementationReplacements) :
    replaceEach replacements text = text :=
  Replacing.replaceEach_of_absent fun replacement member => free replacement (fewer member)

/-- A text without ampersands has no entities. -/
theorem entityFree_of_notMem {text : QString} (absent : (0x26 : UInt16) ∉ text) : EntityFree text := by
  intro replacement member inside
  obtain ⟨letter, rest, _, entity⟩ := entity_cons member
  exact absent (inside.subset (entity ▸ List.mem_cons_self))

/-- A text in upper case has no entities. -/
theorem entityFree_upper {text : QString} (ascii : text.Ascii) :
    EntityFree (text.map upperAscii) := by
  intro replacement member inside
  obtain ⟨letter, rest, small, entity⟩ := entity_cons member
  rw [entity] at inside
  obtain ⟨unit, among, upper⟩ := List.mem_map.mp
    (inside.subset (List.mem_cons_of_mem _ List.mem_cons_self))
  rw [← upper, isSmallAscii_upperAscii (ascii unit among)] at small
  cases small

/-- Nothing is replaced in a text whose values have no entities. -/
theorem replaceValues_of_entityFree {rendered : Rendered}
    (free : ∀ piece ∈ rendered, EntityFree piece.value) {replacements : List (QString × QString)}
    (fewer : replacements ⊆ implementationReplacements) :
    replaceValues replacements rendered = rendered := by
  refine (List.map_congr_left fun piece member => ?_).trans (List.map_id rendered)
  rw [(free piece member).replaceEach fewer]
  rfl

/-- The type of an argument has no ampersand. -/
theorem notMem_typeIn_cppTypes (type : QString) : (0x26 : UInt16) ∉ typeIn cppTypes type := by
  have all : cppTypes.all fun pair => !pair.2.contains 0x26 := by decide
  unfold typeIn
  -- Neither an entry of the table nor the name of unknown types has one.
  cases found : cppTypes.lookup type with
  | none => decide
  | some value =>
    obtain ⟨before, after, listed, _⟩ := List.lookup_eq_some_iff.mp found
    have member : (type, value) ∈ cppTypes := listed ▸ List.mem_append_right _ List.mem_cons_self
    have clean := List.all_eq_true.mp all _ member
    simpa using clean

/-- An argument list has no entities if its arguments have none. -/
theorem entityFree_buildFunctionsArguments [QtCases] {definition : DataFrameDefinition}
    (free : ∀ atom ∈ definition.atoms, EntityFree (ofAscii "&" ++ argumentOf atom.name)) :
    ∀ piece ∈ buildFunctionsArguments definition, EntityFree piece.value := by
  have empty : EntityFree [] := entityFree_of_notMem List.not_mem_nil
  have turn : ∀ (result : Rendered) (atom : DataAtomDefinition),
      EntityFree (ofAscii "&" ++ argumentOf atom.name) → (∀ piece ∈ result, EntityFree piece.value) →
      ∀ piece ∈ appendArgument result atom, EntityFree piece.value := by
    intro result atom freeArgument before piece member
    -- A piece is an earlier one, a comma, the type, or the argument.
    have type := entityFree_of_notMem (notMem_typeIn_cppTypes atom.atomType)
    unfold appendArgument at member
    rcases List.mem_append.mp member with earlier | last
    · split at earlier
      · rcases List.mem_append.mp earlier with old | comma
        · exact before piece old
        · obtain rfl := List.mem_singleton.mp comma
          exact empty
      · exact before piece earlier
    · rcases List.mem_pair.mp last with rfl | rfl
      · exact type
      · exact freeArgument
  exact EventMachine.run_invariant_of_admitted appendArgument turn
    (fun _ member => (List.not_mem_nil member).elim) free

section Names

variable [QtCases] (qtCases : QtCases.OfAscii)

include qtCases

/-- A word does not begin with a small letter. -/
theorem not_prefix_nameCaseFrom {letter : UInt16} (small : isSmallAscii letter = true)
    {text : QString} (ascii : text.Ascii) : ¬ [letter] <+: nameCaseFrom true text := by
  cases text with
  | nil =>
    intro start
    cases List.prefix_nil.mp start
  | cons unit text =>
    have low := ascii unit List.mem_cons_self
    -- A letter in front is a capital, and no other character is a small letter.
    rw [nameCaseFrom, qtCases.isLetterOrNumber low, qtCases.toTitleCase low]
    split
    · intro start
      rw [(List.cons_prefix_cons.mp start).1, if_pos rfl, isSmallAscii_upperAscii low] at small
      cases small
    · rename_i other
      intro start
      rw [(List.cons_prefix_cons.mp start).1] at small
      exact other (isAlphanumericAscii_of_small small)

/-- The name of a function has no small letter behind an ampersand. -/
theorem not_infix_nameCaseFrom {letter : UInt16} (small : isSmallAscii letter = true)
    {text : QString} (ascii : text.Ascii) (first : Bool) :
    ¬ [0x26, letter] <:+: nameCaseFrom first text := by
  -- An ampersand ends a word, and the next word begins with a capital.
  induction text generalizing first with
  | nil =>
    intro inside
    cases List.infix_nil.mp inside
  | cons unit text ih =>
    obtain ⟨low, others⟩ := List.forall_mem_cons.mp ascii
    rw [nameCaseFrom, qtCases.isLetterOrNumber low, qtCases.toTitleCase low, qtCases.toLower low]
    split
    · rename_i alphanumeric
      intro inside
      rcases List.infix_cons_iff.mp inside with start | inRest
      · have apart := cases_ne_ampersand low alphanumeric
        have same := (List.cons_prefix_cons.mp start).1
        split at same
        · exact apart.1 same.symm
        · exact apart.2 same.symm
      · exact ih others false inRest
    · intro inside
      rcases List.infix_cons_iff.mp inside with start | inRest
      · exact not_prefix_nameCaseFrom qtCases small others (List.cons_prefix_cons.mp start).2
      · exact ih others true inRest

/-- The name of a function has no entities. -/
theorem entityFree_toNameCase {text : QString} (ascii : text.Ascii) :
    EntityFree (toNameCase text) := by
  intro replacement member inside
  obtain ⟨letter, rest, small, entity⟩ := entity_cons member
  have start : [0x26, letter] <:+: replacement.1 := entity ▸ (List.prefix_append _ rest).isInfix
  exact not_infix_nameCaseFrom qtCases small ascii true (start.trans inside)

/-- The name of a function has the upper case of the name of its frame. -/
theorem map_upperAscii_nameCaseFrom {text : QString} (ascii : text.Ascii) (first : Bool) :
    (nameCaseFrom first text).map upperAscii = text.map upperAscii := by
  induction text generalizing first with
  | nil => rfl
  | cons unit text ih =>
    obtain ⟨low, others⟩ := List.forall_mem_cons.mp ascii
    rw [nameCaseFrom, qtCases.toTitleCase low, qtCases.toLower low]
    -- A letter is kept in one of its cases, and other characters stay as they are.
    split
    · rw [List.map_cons, ih others, List.map_cons]
      congr 1
      split
      · exact (upperAscii_upperAscii low).2
      · exact upperAscii_lowerAscii low
    · rw [List.map_cons, ih others, List.map_cons]

/-- Names have one upper case exactly if they are equal for comparisons in any case. -/
theorem map_upperAscii_eq_iff {left right : QString} (leftAscii : left.Ascii)
    (rightAscii : right.Ascii) :
    left.map upperAscii = right.map upperAscii ↔
      QtCases.toCaseFolded left = QtCases.toCaseFolded right := by
  -- Either case of a text can be computed from the other one.
  have lower {text : QString} (ascii : text.Ascii) :
      (text.map upperAscii).map lowerAscii = text.map lowerAscii := by
    rw [List.map_map]
    exact List.map_congr_left fun unit member => lowerAscii_upperAscii (ascii unit member)
  have upper {text : QString} (ascii : text.Ascii) :
      (text.map lowerAscii).map upperAscii = text.map upperAscii := by
    rw [List.map_map]
    exact List.map_congr_left fun unit member => upperAscii_lowerAscii (ascii unit member)
  rw [qtCases.toCaseFolded leftAscii, qtCases.toCaseFolded rightAscii]
  constructor
  · intro same
    rw [← lower leftAscii, same, lower rightAscii]
  · intro same
    rw [← upper leftAscii, same, upper rightAscii]

end Names

/-- The atoms of the frame of a name. -/
def atomsOf [QtText] (definitions : DataFramesDefinitions) (frameName : QString) :
    List DataAtomDefinition :=
  match definitions.definitionByKey frameName with
  | none => []
  | some frameDefinition => frameDefinition.atoms

/-- The names of the atoms of a table are collected from all its frames, each in one case. -/
theorem collects_sortedAtomsNames [QtText] [QtCases] (definitions : DataFramesDefinitions) :
    Collecting.Collects QtCases.toCaseFolded
      ((sortedFramesNames definitions).flatMap fun frameName =>
        (atomsOf definitions frameName).map (·.name))
      (sortedAtomsNames definitions) := by
  have turn : appendAtomsNames definitions = fun atomsNames frameName =>
      ((atomsOf definitions frameName).map (·.name)).foldl (Collecting.add QtCases.toCaseFolded)
        atomsNames := by
    funext atomsNames frameName
    rw [List.foldl_map]
    unfold appendAtomsNames atomsOf
    cases definitions.definitionByKey frameName <;> rfl
  have none : Collecting.Collects QtCases.toCaseFolded ([] : List QString) [] :=
    Collecting.collects_nil
  have collected := none.foldl_add
    ((sortedFramesNames definitions).flatMap fun frameName =>
      (atomsOf definitions frameName).map (·.name))
  rw [List.nil_append, List.foldl_flatMap, ← turn] at collected
  -- Sorting only changes the order of the names.
  exact collected.perm (List.perm_insertionSort _ _)

/-- A header and an implementation agree, and what the functions use is there once. -/
structure SelfConsistent [QtCases] (framesNames : List QString) (header : HeaderContract)
    (implementation : ImplementationContract) : Prop where
  functions : implementation.functions.map (·.signature) = header.functions
  names : (header.functions.map (·.name)).Perm ((withoutStar framesNames).map toNameCase)
  distinct : (header.functions.map (·.name)).Nodup
  framesConstants : ∀ function ∈ implementation.functions,
    header.framesConstants.count function.frameConstant = 1 ∧
      implementation.framesConstants.count function.frameConstant = 1
  atomsConstants : ∀ function ∈ implementation.functions, ∀ assignment ∈ function.assignments,
    header.atomsConstants.count assignment.atomConstant = 1 ∧
      (implementation.atomsConstants.map Prod.fst).count assignment.atomConstant = 1

/-- A table of ASCII names, under the upper cases of the names of the frames. -/
structure AsciiTable [QtText] (definitions : DataFramesDefinitions) : Prop where
  filled : definitions.framesHash ≠ []
  keyed : definitions.Keyed
  distinct : definitions.keys.Nodup
  frames : ∀ entry ∈ definitions.framesHash, entry.2.name.Ascii
  atoms : ∀ entry ∈ definitions.framesHash, ∀ atom ∈ entry.2.atoms, atom.name.Ascii

/-- The two contents after `build` are those of contracts that agree, with functions of one class. -/
structure GeneratesConsistently [QtText] [QtCases] (definitions : DataFramesDefinitions)
    (projectName : QString) : Prop where
  contents : (ofDefinitions (some definitions) projectName).build =
    some (true, ⟨some definitions, projectName, (headerContract definitions projectName).text,
      (implementationContract definitions projectName).text⟩)
  consistent : SelfConsistent definitions.keys (headerContract definitions projectName)
    (implementationContract definitions projectName)
  factory : EntityFree projectName → (headerContract definitions projectName).projectName =
    (implementationContract definitions projectName).projectName

/-- No argument of a generated function is an entity together with the ampersand in front of it. -/
def EntityFreeArguments [QtCases] (definitions : DataFramesDefinitions) : Prop :=
  ∀ entry ∈ definitions.framesHash, STAR ∉ entry.1 → ∀ atom ∈ entry.2.atoms,
    EntityFree (ofAscii "&" ++ argumentOf atom.name)

theorem mem_withoutStar {frameName : QString} {framesNames : List QString} :
    frameName ∈ withoutStar framesNames ↔ frameName ∈ framesNames ∧ STAR ∉ frameName := by
  simp [withoutStar]

section Tables

variable [QtText] [QtCases] (maps : QtText.MapsAscii) (qtCases : QtCases.OfAscii)
  {definitions : DataFramesDefinitions} (table : AsciiTable definitions)

include maps table

omit [QtCases] in
/-- The name of a frame in a table is in upper case already. -/
theorem toUpper_key {frameName : QString} (member : frameName ∈ definitions.keys) :
    frameName.Ascii ∧ QtText.toUpper frameName = frameName := by
  obtain ⟨entry, inside, rfl⟩ := List.mem_map.mp member
  have ascii := table.frames entry inside
  rw [table.keyed entry inside]
  refine ⟨?_, maps.toUpper_toUpper ascii⟩
  rw [maps ascii]
  intro unit among
  obtain ⟨lower, source, rfl⟩ := List.mem_map.mp among
  exact (upperAscii_upperAscii (ascii lower source)).1

omit [QtCases] in
/-- Each frame of a table has a definition, which is one of the table. -/
theorem exists_definition {frameName : QString} (member : frameName ∈ definitions.keys) :
    ∃ definition, definitions.definitionByKey frameName = some definition := by
  have upper := (toUpper_key maps table member).2
  obtain ⟨entry, inside, rfl⟩ := List.mem_map.mp member
  rw [DataFramesDefinitions.definitionByKey, upper]
  refine Option.isSome_iff_exists.mp (List.lookup_isSome_iff.mpr ⟨entry, inside, ?_⟩)
  exact beq_self_eq_true _

omit [QtText] maps table in
/-- Sorting keeps the names of the frames. -/
theorem perm_withoutStar :
    (withoutStar (sortedFramesNames definitions)).Perm (withoutStar definitions.keys) :=
  (List.perm_insertionSort _ definitions.keys).filter _

omit [QtText] maps table in
/-- The frames that functions are generated for are frames of the table. -/
theorem mem_keys_of_listed {frameName : QString}
    (listed : frameName ∈ withoutStar (sortedFramesNames definitions)) :
    frameName ∈ definitions.keys :=
  (mem_withoutStar.mp (perm_withoutStar.mem_iff.mp listed)).1

omit maps in
/-- No two of them have one name. -/
theorem nodup_withoutStar : (withoutStar (sortedFramesNames definitions)).Nodup :=
  perm_withoutStar.nodup_iff.mpr (table.distinct.filter _)

omit [QtCases] in
/-- The constant of a frame is its name, whichever replacements are made. -/
theorem replaceEach_toUpper_key {replacements : List (QString × QString)}
    (fewer : replacements ⊆ implementationReplacements) {frameName : QString}
    (member : frameName ∈ definitions.keys) :
    replaceEach replacements (QtText.toUpper frameName) = frameName := by
  obtain ⟨ascii, upper⟩ := toUpper_key maps table member
  -- The name is an upper case, which has no entities.
  have free := entityFree_upper ascii
  rw [← maps ascii, upper] at free
  rw [upper, free.replaceEach fewer]

omit [QtCases] in
/-- A definition is found under the name of its frame. -/
theorem mem_of_definitionByKey {frameName : QString} (member : frameName ∈ definitions.keys)
    {definition : DataFrameDefinition}
    (found : definitions.definitionByKey frameName = some definition) :
    (frameName, definition) ∈ definitions.framesHash := by
  rw [DataFramesDefinitions.definitionByKey, (toUpper_key maps table member).2] at found
  obtain ⟨before, after, listed, _⟩ := List.lookup_eq_some_iff.mp found
  exact listed ▸ List.mem_append_right _ List.mem_cons_self

/-- A frame that a function is generated for is one of the table, without a star. -/
theorem of_mem_servedFrames {frame : QString × DataFrameDefinition}
    (member : frame ∈ servedFrames definitions) :
    frame ∈ definitions.framesHash ∧ frame.1 ∈ withoutStar (sortedFramesNames definitions) ∧
      definitions.definitionByKey frame.1 = some frame.2 := by
  obtain ⟨frameName, listed, defined⟩ := List.mem_filterMap.mp member
  obtain ⟨definition, found, rfl⟩ := Option.map_eq_some_iff.mp defined
  exact ⟨mem_of_definitionByKey maps table (mem_keys_of_listed listed) found, listed, found⟩

/-- Each frame without a star has a definition. -/
theorem isSome_definitionByKey :
    ∀ frameName ∈ withoutStar (sortedFramesNames definitions),
      (definitions.definitionByKey frameName).isSome := by
  intro frameName listed
  exact Option.isSome_iff_exists.mpr (exists_definition maps table (mem_keys_of_listed listed))

/-- There is one function for each frame without a star. -/
theorem map_fst_servedFrames :
    (servedFrames definitions).map Prod.fst = withoutStar (sortedFramesNames definitions) := by
  have all := isSome_definitionByKey maps table
  unfold servedFrames
  -- The names are kept general, as long as each of them has a definition.
  generalize withoutStar (sortedFramesNames definitions) = framesNames at all ⊢
  induction framesNames with
  | nil => rfl
  | cons frameName framesNames ih =>
    obtain ⟨first, others⟩ := List.forall_mem_cons.mp all
    obtain ⟨definition, found⟩ := Option.isSome_iff_exists.mp first
    rw [List.filterMap_cons, found]
    exact congrArg (frameName :: ·) (ih others)

include qtCases

/-- The function for a frame is the same one after any of the replacements. -/
theorem signatureOf_eq (free : EntityFreeArguments definitions)
    {replacements : List (QString × QString)} (fewer : replacements ⊆ implementationReplacements)
    {frame : QString × DataFrameDefinition} (member : frame ∈ servedFrames definitions) :
    signatureOf replacements frame =
      ⟨toNameCase frame.1, Replacing.text (buildFunctionsArguments frame.2)⟩ := by
  obtain ⟨inside, listed, _⟩ := of_mem_servedFrames maps table member
  have ascii := (toUpper_key maps table (List.mem_map_of_mem inside)).1
  have arguments := entityFree_buildFunctionsArguments
    (free frame inside (mem_withoutStar.mp listed).2)
  rw [signatureOf, (entityFree_toNameCase qtCases ascii).replaceEach fewer,
    replaceValues_of_entityFree arguments fewer]

omit qtCases in
/-- The constants for the frames are their names, whichever replacements are made. -/
theorem framesConstants_eq {replacements : List (QString × QString)}
    (fewer : replacements ⊆ implementationReplacements) :
    ((withoutStar (sortedFramesNames definitions)).map fun frameName =>
      replaceEach replacements (QtText.toUpper frameName)) =
      withoutStar (sortedFramesNames definitions) := by
  refine (List.map_congr_left fun frameName listed => ?_).trans (List.map_id _)
  exact replaceEach_toUpper_key maps table fewer (mem_keys_of_listed listed)

omit [QtCases] qtCases in
/-- The atoms of the frames of a table have ASCII names. -/
theorem ascii_of_mem_atomsOf {frameName : QString} (key : frameName ∈ definitions.keys)
    {atom : DataAtomDefinition} (member : atom ∈ atomsOf definitions frameName) :
    atom.name.Ascii := by
  obtain ⟨definition, found⟩ := exists_definition maps table key
  rw [atomsOf, found] at member
  exact table.atoms _ (mem_of_definitionByKey maps table key found) atom member

omit qtCases in
/-- The atoms whose names are collected have ASCII names. -/
theorem ascii_of_mem_sortedAtomsNames {name : QString}
    (member : name ∈ sortedAtomsNames definitions) : name.Ascii := by
  obtain ⟨frameName, listed, named⟩ :=
    List.mem_flatMap.mp ((collects_sortedAtomsNames definitions).sound member)
  obtain ⟨atom, inside, rfl⟩ := List.mem_map.mp named
  exact ascii_of_mem_atomsOf maps table ((List.perm_insertionSort _ _).mem_iff.mp listed) inside

omit qtCases in
/-- The constants for the atoms are their names in upper case, whichever replacements are made. -/
theorem atomsConstants_eq {replacements : List (QString × QString)}
    (fewer : replacements ⊆ implementationReplacements) :
    ((sortedAtomsNames definitions).map fun atomName =>
      replaceEach replacements (QtText.toUpper atomName)) =
      (sortedAtomsNames definitions).map (List.map upperAscii) := by
  refine List.map_congr_left fun atomName member => ?_
  have ascii := ascii_of_mem_sortedAtomsNames maps table member
  rw [maps ascii, (entityFree_upper ascii).replaceEach fewer]

/-- No two atoms have one constant. -/
theorem nodup_atomsConstants :
    ((sortedAtomsNames definitions).map (List.map upperAscii)).Nodup := by
  have collects := collects_sortedAtomsNames definitions
  have distinct := collects.distinct
  refine (List.pairwise_map.mp distinct).imp_of_mem ?_ |> List.pairwise_map.mpr
  intro left right leftMember rightMember differ same
  exact differ ((map_upperAscii_eq_iff qtCases (ascii_of_mem_sortedAtomsNames maps table leftMember)
    (ascii_of_mem_sortedAtomsNames maps table rightMember)).mp same)

/-- Each atom of a frame has its constant. -/
theorem mem_atomsConstants {frameName : QString} (key : frameName ∈ definitions.keys)
    {atom : DataAtomDefinition} (member : atom ∈ atomsOf definitions frameName) :
    atom.name.map upperAscii ∈ (sortedAtomsNames definitions).map (List.map upperAscii) := by
  have listed : frameName ∈ sortedFramesNames definitions :=
    (List.perm_insertionSort _ _).mem_iff.mpr key
  have folded := (collects_sortedAtomsNames definitions).complete atom.name
    (List.mem_flatMap.mpr ⟨frameName, listed, List.mem_map_of_mem member⟩)
  obtain ⟨name, among, same⟩ := List.mem_map.mp folded
  refine List.mem_map.mpr ⟨name, among, ?_⟩
  exact (map_upperAscii_eq_iff qtCases (ascii_of_mem_sortedAtomsNames maps table among)
    (ascii_of_mem_atomsOf maps table key member)).mpr same

/-- The names of the functions are those of the frames without stars. -/
theorem map_name_functions (projectName : QString) :
    (headerContract definitions projectName).functions.map (·.name) =
      (withoutStar (sortedFramesNames definitions)).map toNameCase := by
  rw [← map_fst_servedFrames maps table, headerContract, List.map_map, List.map_map]
  refine List.map_congr_left fun frame member => ?_
  have inside := (of_mem_servedFrames maps table member).1
  have ascii := (toUpper_key maps table (List.mem_map_of_mem inside)).1
  exact (entityFree_toNameCase qtCases ascii).replaceEach headerReplacements_subset

/-- No two functions have one name. -/
theorem nodup_names (projectName : QString) :
    ((headerContract definitions projectName).functions.map (·.name)).Nodup := by
  rw [map_name_functions maps qtCases table]
  -- The names of the frames can be read off, in upper case.
  refine List.Nodup.of_map (List.map upperAscii) ?_
  have upper : ((withoutStar (sortedFramesNames definitions)).map toNameCase).map
      (List.map upperAscii) = withoutStar (sortedFramesNames definitions) := by
    rw [List.map_map]
    refine (List.map_congr_left fun frameName listed => ?_).trans (List.map_id _)
    obtain ⟨ascii, same⟩ := toUpper_key maps table (mem_keys_of_listed listed)
    rw [maps ascii] at same
    exact (map_upperAscii_nameCaseFrom qtCases ascii true).trans same
  rw [upper]
  exact nodup_withoutStar table

omit qtCases in
/-- The constant of a frame is declared once, and defined once. -/
theorem count_frameConstant (projectName : QString) {function : BuildFunction}
    (member : function ∈ (implementationContract definitions projectName).functions) :
    (headerContract definitions projectName).framesConstants.count function.frameConstant = 1 ∧
      (implementationContract definitions projectName).framesConstants.count
        function.frameConstant = 1 := by
  have whole := List.Subset.refl implementationReplacements
  obtain ⟨frame, served, rfl⟩ := List.mem_map.mp member
  have listed := (of_mem_servedFrames maps table served).2.1
  have constant : (functionOf frame).frameConstant = frame.1 :=
    replaceEach_toUpper_key maps table whole (mem_keys_of_listed listed)
  have distinct := nodup_withoutStar table
  rw [constant]
  -- Both lists of constants are the sorted names, among which the frame is once.
  unfold headerContract implementationContract
  rw [framesConstants_eq maps table headerReplacements_subset, framesConstants_eq maps table whole]
  exact ⟨List.count_eq_one_of_mem distinct listed, List.count_eq_one_of_mem distinct listed⟩

/-- The constant of an atom is declared once, and defined once. -/
theorem count_atomConstant (projectName : QString) {function : BuildFunction}
    (member : function ∈ (implementationContract definitions projectName).functions)
    {assignment : AtomAssignment} (assigned : assignment ∈ function.assignments) :
    (headerContract definitions projectName).atomsConstants.count assignment.atomConstant = 1 ∧
      ((implementationContract definitions projectName).atomsConstants.map Prod.fst).count
        assignment.atomConstant = 1 := by
  have whole := List.Subset.refl implementationReplacements
  obtain ⟨frame, served, rfl⟩ := List.mem_map.mp member
  obtain ⟨atom, inside, rfl⟩ := List.mem_map.mp assigned
  obtain ⟨entry, listed, found⟩ := of_mem_servedFrames maps table served
  have key := mem_keys_of_listed listed
  have ofFrame : atom ∈ atomsOf definitions frame.1 := by rwa [atomsOf, found]
  have ascii := ascii_of_mem_atomsOf maps table key ofFrame
  have constant : (assignmentOf atom).atomConstant = atom.name.map upperAscii := by
    rw [assignmentOf, maps ascii, (entityFree_upper ascii).replaceEach whole]
  -- The name is there in some case, and that of no other atom has its upper case.
  have among := mem_atomsConstants maps qtCases table key ofFrame
  have distinct := nodup_atomsConstants maps qtCases table
  rw [constant]
  unfold headerContract implementationContract
  rw [atomsConstants_eq maps table headerReplacements_subset, List.map_map]
  have firsts := atomsConstants_eq maps table whole
  refine ⟨List.count_eq_one_of_mem distinct among, ?_⟩
  rw [← firsts] at distinct among
  exact List.count_eq_one_of_mem distinct among

end Tables

/-- Two frames with an atom in two cases, and a service frame. -/
def notesDefinitions : DataFramesDefinitions :=
  ⟨[(ofAscii "STATUS", ⟨ofAscii "Status", false, 1, false, 0,
      [⟨ofAscii "Level", ofAscii "uint8", true⟩, ⟨ofAscii "text", ofAscii "string", true⟩]⟩),
    (ofAscii "ALARM_1", ⟨ofAscii "Alarm_1", false, 1, false, 0,
      [⟨ofAscii "LEVEL", ofAscii "uint8", true⟩]⟩),
    (ofAscii "SYS*", ⟨ofAscii "Sys*", false, 1, false, 0,
      [⟨ofAscii "quot;", ofAscii "int32", true⟩]⟩)]⟩

/-- A frame whose only atom makes an entity of its argument. -/
def quotDefinitions : DataFramesDefinitions :=
  ⟨[(ofAscii "NOTE", ⟨ofAscii "Note", false, 1, false, 0,
    [⟨ofAscii "quot;", ofAscii "uint8", true⟩]⟩)]⟩

end DataFramesContractBuilder

end Threader
