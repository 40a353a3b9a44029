import Threader.ThirdParty.Mustache

/-! `QtVariantContext`: a context that looks names up in nested values. -/

namespace Threader.Mustache

open QString (ofAscii)

/-- The types of a `QVariant` that values for templates are made of. -/
inductive QVariant
  | null
  | bool (value : Bool)
  | int (value : Int)
  | string (value : QString)
  | list (values : List QVariant)
  | hash (entries : List (QString × QVariant))

/-- `toString()`. -/
def QVariant.toString : QVariant → QString
  | .bool value => ofAscii (if value then "true" else "false")
  | .int value => ofAscii (ToString.toString value)
  | .string value => value
  | .null | .list _ | .hash _ => []

/-- `isNull()`. -/
def QVariant.isNull : QVariant → Bool
  | .null => true
  | _ => false

/-- `toList()`. -/
def QVariant.toList : QVariant → List QVariant
  | .list values => values
  | _ => []

/-- `variantMapValue(value, key)`. -/
def variantMapValue (value : QVariant) (key : QString) : QVariant :=
  match value with
  | .hash entries => (entries.lookup key).getD .null
  | _ => .null

/-- `variantMapValueForKeyPath(value, keyPath)`. -/
def variantMapValueForKeyPath (value : QVariant) : List QString → QVariant
  | [] => .null
  | [key] => variantMapValue value key
  | first :: keyPath =>
    let firstValue := variantMapValue value first
    -- The path ends where one of its names has no value.
    if firstValue.isNull then .null else variantMapValueForKeyPath firstValue keyPath

/-- `QtVariantContext`, with the top of the stack in front, and the resolver it was made with. -/
structure QtVariantContext where
  contextStack : List QVariant
  partialResolver : Option (QString → QString)

namespace QtVariantContext

/-- `QtVariantContext(root, resolver)`. -/
def ofRoot (root : QVariant) (resolver : Option (QString → QString)) : QtVariantContext :=
  ⟨[root], resolver⟩

/-- The loop of `value(key)` over the stack. -/
def valueIn (keyPath : List QString) : List QVariant → QVariant
  | [] => .null
  | entered :: contextStack =>
    let value := variantMapValueForKeyPath entered keyPath
    -- What was entered last hides what was entered before.
    if value.isNull then valueIn keyPath contextStack else value

/-- `value(key)`. -/
def value (context : QtVariantContext) (key : QString) : QVariant :=
  match context.contextStack with
  | [] => .null
  | top :: _ =>
    -- A single dot stands for what was entered last.
    if key = ofAscii "." then top
    else valueIn (key.splitOnP (· == 0x2E)) context.contextStack

/-- `isFalse(key)`. -/
def isFalse (context : QtVariantContext) (key : QString) : Bool :=
  match context.value key with
  | .bool value => !value
  | .int value => value == 0
  | .list values => values.isEmpty
  | .hash entries => entries.isEmpty
  | other => other.toString.isEmpty

/-- `stringValue(key)`. -/
def stringValue (context : QtVariantContext) (key : QString) : QString :=
  match context.value key with
  | .bool value => (QVariant.bool value).toString
  -- Of the false values only a truth value is shown.
  | other => if context.isFalse key then [] else other.toString

/-- `listCount(key)`. -/
def listCount (context : QtVariantContext) (key : QString) : Nat := (context.value key).toList.length

/-- `push(key, index)`. -/
def push (context : QtVariantContext) (key : QString) (index : Option Nat) : QtVariantContext :=
  let mapItem := context.value key
  let item := match index with
    -- Without an index the value itself is entered.
    | none => mapItem
    | some index => mapItem.toList.getD index .null
  { context with contextStack := item :: context.contextStack }

/-- `partialValue(key)`. -/
def partialValue (context : QtVariantContext) (key : QString) : QString :=
  match context.partialResolver with
  -- Without a resolver every partial is empty.
  | none => []
  | some getPartial => getPartial key

/-- No value is a callable. -/
instance : Context QtVariantContext where
  stringValue := stringValue
  isFalse := isFalse
  listCount := listCount
  push := push
  canEval _ _ := false
  eval _ _ _ := []
  partialValue := partialValue

end QtVariantContext

end Threader.Mustache
