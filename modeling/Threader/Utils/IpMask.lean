import Threader.Qt.Text

/-! `IpMask`: a list of address masks in a text, and the check of an address against them. -/

namespace Threader

/-- `QString::toInt(&ok, 10)`, which is taken from Qt as it is. -/
class QtNumbers where
  /-- The number that a text stands for, or none when `ok` is false. -/
  toInt : QString → Option Int

/-- The conversion of texts that consist of decimal digits. -/
@[reducible]
def QtNumbers.decimal : QtNumbers where
  toInt text :=
    if text = [] ∨ text.any fun unit => unit < 0x30 || 0x39 < unit then none
    else some (text.foldl (fun number unit => 10 * number + (unit.toNat - 0x30)) 0 : Nat)

namespace QString

/-- `split(sep)`, from a part that has been begun and with some units of a separator left. -/
def splitFrom (separator : QString) : QString → Nat → QString → List QString
  | [], _, part => [part]
  | _ :: text, skip + 1, part => splitFrom separator text skip part
  | unit :: text, 0, part =>
    if separator.isPrefixOf (unit :: text) then
      part :: splitFrom separator text (separator.length - 1) []
    else splitFrom separator text 0 (part ++ [unit])

/-- `split(sep, QString::SkipEmptyParts)`; an empty separator stands between any two units. -/
def split (text separator : QString) : List QString :=
  let parts := if separator = [] then text.map fun unit => [unit] else splitFrom separator text 0 []
  parts.filter fun part => !part.isEmpty

/-- `indexOf(unit, start)`, or none instead of `-1`. -/
def indexOf (text : QString) (unit : UInt16) (start : Nat) : Option Nat :=
  ((text.drop start).findIdx? (· == unit)).map (start + ·)

/-- `mid(position, n)`. -/
def mid (text : QString) (position n : Nat) : QString := (text.drop position).take n

end QString

/-- `BinarryIpAddress`: four bytes, of which some stand for any byte. -/
structure BinarryIpAddress where
  wildCards : Vector Bool 4
  bytes : Vector UInt8 4
deriving DecidableEq, Repr

namespace BinarryIpAddress

/-- `cardinals.values`, the bytes seen as one little-endian number. -/
def values (address : BinarryIpAddress) : BitVec 32 :=
  (address.bytes.get 3).toBitVec ++ ((address.bytes.get 2).toBitVec ++
    ((address.bytes.get 1).toBitVec ++ (address.bytes.get 0).toBitVec))

/-- `operator ==`, which compares as many bytes of memory as `Cardinals` has: the wild cards. -/
def equals (left right : BinarryIpAddress) : Bool := left.wildCards == right.wildCards

/-- A field that stands for any byte. -/
def setWildCard (address : BinarryIpAddress) (field : Nat) : BinarryIpAddress :=
  ⟨address.wildCards.setIfInBounds field true, address.bytes.setIfInBounds field 0xFF⟩

/-- A field that stands for one byte. -/
def setByte (address : BinarryIpAddress) (field : Nat) (byte : UInt8) : BinarryIpAddress :=
  ⟨address.wildCards.setIfInBounds field false, address.bytes.setIfInBounds field byte⟩

/-- The test of an address against a listed mask, which both loops of `checkIpAddress` make. -/
def isListed (binAddr listedAddress : BinarryIpAddress) : Bool :=
  binAddr.values &&& listedAddress.values == binAddr.values &&
    !(List.finRange 4).any fun i =>
      let tst := binAddr.bytes.get i ||| listedAddress.bytes.get i
      tst != binAddr.bytes.get i && !listedAddress.wildCards.get i

end BinarryIpAddress

/-- `IpMask`: the masks of both kinds, and the text they are read from. -/
structure IpMask where
  prohibitedMask : List BinarryIpAddress
  allowedMask : List BinarryIpAddress
  maskValue : QString
  delimiters : QString
  maskParsed : Bool
deriving DecidableEq, Repr

namespace IpMask

/-- `'.'`. -/
def DOT : UInt16 := 0x2E

/-- `'*'`. -/
def STAR : UInt16 := 0x2A

/-- `"!"`. -/
def MARK : UInt16 := 0x21

variable [QtNumbers]

/-- `sbyte.toInt(&ok, 10)` with the checks of `ok` and of the range. -/
def toByte (sbyte : QString) : Option UInt8 :=
  match QtNumbers.toInt sbyte with
  | none => none
  | some gbyte => if 0 ≤ gbyte ∧ gbyte ≤ 255 then some (UInt8.ofNat gbyte.toNat) else none

/-- The turns of the loop of `strToBin` that are left, from a place of the text on. -/
def strToBinFrom (stringIp : QString) (useMatch : Bool) :
    Nat → Nat → BinarryIpAddress → Bool × BinarryIpAddress
  | 0, _, binAddr => (true, binAddr)
  | turns + 1, start, binAddr =>
    let i := 3 - turns
    -- Behind the last unit there is a null one.
    let wild := useMatch && stringIp.getD start 0 == STAR
    if start > stringIp.length then (false, binAddr)
    else
      match stringIp.indexOf DOT start with
      | none =>
        if wild then
          -- One wild card is enough for all fields that are missing.
          (true, (List.range' i (turns + 1)).foldl BinarryIpAddress.setWildCard binAddr)
        else if i = 3 then
          match toByte (stringIp.mid start (stringIp.length - start)) with
          | none => (false, binAddr)
          | some byte => strToBinFrom stringIp useMatch turns 0 (binAddr.setByte i byte)
        else (false, binAddr)
      | some position =>
        if wild then
          strToBinFrom stringIp useMatch turns (position + 1) (binAddr.setWildCard i)
        else
          match toByte (stringIp.mid start (position - start)) with
          | none => (false, binAddr)
          | some byte =>
            strToBinFrom stringIp useMatch turns (position + 1) (binAddr.setByte i byte)

/-- `strToBin(strAddr, binAddr, useMatch)`, with the address afterwards. -/
def strToBin (strAddr : QString) (binAddr : BinarryIpAddress) (useMatch : Bool) :
    Bool × BinarryIpAddress :=
  strToBinFrom strAddr useMatch 4 0 binAddr

/-- A turn of the loop of `parseMask`: the text of an error, if any, the address and the masks. -/
def parseLine (line : QString) (binAddr : BinarryIpAddress) (mask : IpMask) :
    Option QString × BinarryIpAddress × IpMask :=
  if (line.split [DOT]).length > 4 then
    (some (.ofBasic "Invalid Ip address " ++ line), binAddr, mask)
  -- The first place of the mark is the first place of the line.
  else if line.head? = some MARK then
    let line := line.drop 1
    let read := strToBin line binAddr true
    if read.1 then
      (none, read.2, { mask with prohibitedMask := mask.prohibitedMask ++ [read.2] })
    else
      (some (.ofBasic "Недопустимый формат маски запрещённых адресов:   " ++ line), read.2, mask)
  else
    let read := strToBin line binAddr true
    if read.1 then (none, read.2, { mask with allowedMask := mask.allowedMask ++ [read.2] })
    else
      (some (.ofBasic "Недопустимый формат маски разрешённых адресов:   " ++ line), read.2, mask)

/-- The loop of `parseMask`, which ends at the first error. -/
def parseLines : List QString → BinarryIpAddress → IpMask → Option QString × IpMask
  | [], _, mask => (none, mask)
  | line :: lines, binAddr, mask =>
    match parseLine line binAddr mask with
    | (some error, _, mask) => (some error, mask)
    | (none, binAddr, mask) => parseLines lines binAddr mask

/-- The mask of the addresses `127.*.*.*`. -/
def loopback : BinarryIpAddress := ⟨#v[false, true, true, true], #v[127, 255, 255, 255]⟩

/-- The mask of all addresses. -/
def everything : BinarryIpAddress := ⟨#v[true, true, true, true], #v[255, 255, 255, 255]⟩

/-- `parseMask(outString)`, where the local address starts with whatever is on the stack. -/
def parseMask (mask : IpMask) (binAddr : BinarryIpAddress) (outString : QString) :
    Bool × QString × IpMask :=
  match parseLines (mask.maskValue.split mask.delimiters) binAddr mask with
  | (some error, mask) => (false, error, mask)
  | (none, mask) =>
    let mask :=
      if mask.allowedMask.length = 0 then { mask with allowedMask := mask.allowedMask ++ [loopback] }
      else mask
    if mask.prohibitedMask.any (·.equals everything) then
      (false, .ofBasic "Запрещены все IP адреса", mask)
    else (true, outString, { mask with maskParsed := true })

/-- The constructor, which parses the masks and forgets how that went. -/
def ofValues (maskValues delimiters : QString) (binAddr : BinarryIpAddress) : IpMask :=
  (parseMask ⟨[], [], maskValues, delimiters, false⟩ binAddr []).2.2

/-- `checkIpAddress(address, errorString)`, with a local address as in `parseMask`. -/
def checkIpAddress (mask : IpMask) (binAddr : BinarryIpAddress) (address errorString : QString) :
    Bool × QString :=
  if !mask.maskParsed then (false, .ofBasic "IP table was not created")
  else
    let read := strToBin address binAddr false
    if !read.1 then (false, .ofBasic "Invalid IP address: " ++ address)
    else if mask.prohibitedMask.any read.2.isListed then (false, errorString)
    else (mask.allowedMask.any read.2.isListed, errorString)

end IpMask

end Threader
