import Threader.Qt.Text

/-! Descriptions of atoms and frames, and the table that holds them under their names. -/

namespace Threader

/-- `DataAtomDefinition`: the name of an atom, its type in lower case, and its shape. -/
structure DataAtomDefinition where
  name : QString
  atomType : QString
  isScalar : Bool
deriving DecidableEq, Repr

/-- `DataFrameDefinition`: what every frame of one kind has in common. -/
structure DataFrameDefinition where
  name : QString
  isArray : Bool
  capacity : UInt32
  needsTicket : Bool
  priority : UInt8
  atoms : List DataAtomDefinition
deriving DecidableEq, Repr

/-- `DataFramesDefinitions`: the frame definitions, hashed by the upper case of their names. -/
structure DataFramesDefinitions where
  framesHash : List (QString × DataFrameDefinition)
deriving DecidableEq, Repr

/-- `definitionByKey(key)`: the definition of a name in any case, or null. -/
def DataFramesDefinitions.definitionByKey [QtText] (definitions : DataFramesDefinitions)
    (key : QString) : Option DataFrameDefinition :=
  definitions.framesHash.lookup (QtText.toUpper key)

end Threader
