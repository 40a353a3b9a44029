import Mathlib.Data.List.TakeWhile
import Threader.Threads.PacketFactoryAsciiLines

/-! Lines of text that are written as packets are extracted as the same lines. -/

namespace Threader

namespace Windows1251

/-- A character below `0x80` is written as its own value. -/
theorem toUInt16_encodeUnit {unit : UInt16} (low : unit < 0x80) :
    (encodeUnit unit).toUInt16 = unit := by
  -- The code page has the ASCII characters in their own places.
  have small : unit.toNat < 128 := UInt16.lt_iff_toNat_lt.mp low
  rw [encodeUnit, if_pos low]
  apply UInt16.toNat_inj.mp
  rw [UInt8.toNat_toUInt16, UInt16.toNat_toUInt8]
  omega

/-- A byte below `0x80` is what its character is written as. -/
theorem encodeUnit_toUInt16_of_lt {byte : UInt8} (low : byte < 0x80) :
    encodeUnit byte.toUInt16 = byte := by
  -- The code page has the ASCII characters in their own places.
  have small : byte.toNat < 128 := UInt8.lt_iff_toNat_lt.mp low
  have unit : byte.toUInt16 < 0x80 := by
    apply UInt16.lt_iff_toNat_lt.mpr
    rw [UInt8.toNat_toUInt16]
    exact small
  rw [encodeUnit, if_pos unit]
  apply UInt8.toNat_inj.mp
  rw [UInt16.toNat_toUInt8, UInt8.toNat_toUInt16]
  omega

end Windows1251

namespace QString

/-- The parts of a text, each with a separator behind it, are the text with a separator behind it. -/
theorem flatMap_splitFrom {separator : QString} (proper : separator ≠ []) (text : QString)
    (skip : Nat) (part : QString) :
    (splitFrom separator text skip part).flatMap (· ++ separator) =
      part ++ text.drop skip ++ separator := by
  -- What has been put into the current part is kept general, as are the units to skip.
  induction text generalizing skip part with
  | nil => cases skip <;> simp [splitFrom]
  | cons unit text ih =>
    cases skip with
    | succ skip => rw [splitFrom, ih, List.drop_succ_cons]
    | zero =>
      rw [splitFrom]
      split
      · rename_i separated
        -- The separator that is found here is put back behind the part.
        obtain ⟨rest, whole⟩ := List.isPrefixOf_iff_prefix.mp separated
        obtain ⟨first, separator, rfl⟩ := List.exists_cons_of_ne_nil proper
        obtain ⟨rfl, rfl⟩ := List.cons.inj whole
        rw [List.flatMap_cons, ih]
        simp
      · rw [ih]
        simp

end QString

namespace PacketFactoryAsciiLines

/-- A line that is not empty, of ASCII characters, without a carriage return or a line feed. -/
def PlainLine (line : QString) : Prop :=
  line ≠ [] ∧ ∀ unit ∈ line, unit < 0x80 ∧ unit ≠ 0x0D ∧ unit ≠ 0x0A

instance (line : QString) : Decidable (PlainLine line) :=
  @instDecidableAnd _ _ _
    (List.decidableBAll (fun unit => unit < 0x80 ∧ unit ≠ 0x0D ∧ unit ≠ 0x0A) line)

/-- The packets are written one after another. -/
def writeAll : List PacketAsciiLines → DataStream → Bool × DataStream
  | [], stream => (true, stream)
  | packet :: packets, stream => DataStream.andThen (packet.write stream) (writeAll packets)

/-- The bytes of some lines, each with a carriage return and a line feed behind it. -/
def image (lines : List QString) : QByteArray :=
  lines.flatMap fun line => Windows1251.fromUnicode line ++ [0x0D, 0x0A]

/-- The text of a packet is written as the bytes of its lines. -/
theorem fromUnicode_text (packet : PacketAsciiLines) :
    Windows1251.fromUnicode packet.text = image packet.lines := by
  -- Encoding goes unit by unit, through the lines and the ends of lines alike.
  rw [PacketAsciiLines.text, Windows1251.fromUnicode, List.map_flatMap, image]
  refine congrArg (packet.lines.flatMap ·) (funext fun line => ?_)
  rw [List.map_append]
  rfl

/-- Some packets are written as the bytes of all their lines. -/
theorem writes_writeAll (packets : List PacketAsciiLines) :
    DataStream.Writes (writeAll packets) (image (linesOf packets)) := by
  -- The packet in front is written first, and the others behind it.
  induction packets with
  | nil => exact DataStream.Writes.nothing
  | cons packet packets ih =>
    have first : DataStream.Writes packet.write (image packet.lines) := by
      rw [← fromUnicode_text]
      exact DataStream.Writes.raw _
    have whole : image (linesOf (packet :: packets)) =
        image packet.lines ++ image (linesOf packets) := by simp [image, linesOf]
    rw [whole]
    exact first.andThen ih

/-- A plain line has no separator among its bytes, and its characters are read back from them. -/
theorem PlainLine.bytes {line : QString} (plain : PlainLine line) :
    Splitting.Unbroken isBreak (Windows1251.fromUnicode line) ∧
      toText (Windows1251.fromUnicode line) = line := by
  have back : ∀ unit ∈ line, (Windows1251.encodeUnit unit).toUInt16 = unit := fun unit member =>
    Windows1251.toUInt16_encodeUnit (plain.2 unit member).1
  constructor
  · intro byte member
    obtain ⟨unit, inside, rfl⟩ := List.mem_map.mp member
    obtain ⟨_, return', feed⟩ := plain.2 unit inside
    -- A separator among the bytes would be read back as one of the characters.
    by_contra ends
    rw [Bool.not_eq_false, isBreak, Bool.or_eq_true, decide_eq_true_iff, decide_eq_true_iff] at ends
    rcases ends with ends | ends
    · exact return' ((back unit inside).symm.trans (congrArg UInt8.toUInt16 ends))
    · exact feed ((back unit inside).symm.trans (congrArg UInt8.toUInt16 ends))
  · rw [toText, Windows1251.fromUnicode, List.map_map]
    exact (List.map_congr_left back).trans (List.map_id line)

/-- The bytes of some plain lines complete these lines, and leave nothing incomplete. -/
theorem completeLines_image {lines : List QString} (plain : ∀ line ∈ lines, PlainLine line) :
    completeLines (image lines) = lines ∧ incompleteLine (image lines) = [] := by
  -- Each line ends with two separators, between which there is an empty run.
  induction lines with
  | nil => exact ⟨rfl, rfl⟩
  | cons line lines ih =>
    obtain ⟨first, others⟩ := List.forall_mem_cons.mp plain
    obtain ⟨complete, incomplete⟩ := ih others
    obtain ⟨unbroken, text⟩ := first.bytes
    -- The carriage return completes the line, and the line feed behind it completes nothing.
    have shape : image (line :: lines) =
        Windows1251.fromUnicode line ++ 0x0D :: ([] ++ 0x0A :: image lines) := by
      simp [image]
    have none : Splitting.Unbroken isBreak [] := List.forall_mem_nil _
    constructor
    · rw [shape, completeLines_append_cons unbroken rfl, completeLines_append_cons none rfl, text,
        complete]
      simp [toText, first.1]
    · rw [shape, incompleteLine, Splitting.pending_append_cons unbroken rfl,
        Splitting.pending_append_cons none rfl]
      exact incomplete

/-- The packet of an ASCII text is written as the text with a carriage return and a line feed. -/
theorem writes_buildPacket [QtUtf8] {data : QByteArray}
    (plain : ∀ byte ∈ data, byte ≠ 0 ∧ byte < 0x80) :
    DataStream.Writes (buildPacket data).write (data ++ [0x0D, 0x0A]) := by
  -- Splitting and joining with the same separator only adds one at the end.
  have whole : QByteArray.cString data = data :=
    List.takeWhile_eq_self_iff.mpr fun byte member => by simp [(plain byte member).1]
  have proper : PacketAsciiLines.CRLF ≠ [] := List.cons_ne_nil _ _
  have text : (buildPacket data).text = data.map UInt8.toUInt16 ++ PacketAsciiLines.CRLF := by
    rw [PacketAsciiLines.text, buildPacket, whole,
      QtUtf8.fromUtf8_ascii fun byte member => (plain byte member).2, QString.splitKeeping,
      if_neg proper, QString.flatMap_splitFrom proper, List.nil_append, List.drop_zero]
  have bytes : Windows1251.fromUnicode (buildPacket data).text = data ++ [0x0D, 0x0A] := by
    rw [text, Windows1251.fromUnicode, List.map_append, List.map_map]
    refine congrArg (· ++ _) ((List.map_congr_left fun byte member => ?_).trans (List.map_id data))
    exact Windows1251.encodeUnit_toUInt16_of_lt (plain byte member).2
  rw [← bytes]
  exact DataStream.Writes.raw _

/--
The lines of packets that are written one after another are extracted again, with nothing left.

A packet that is built from an ASCII text is written as this text and the end of a line.
-/
theorem lines_roundTrip [QtUtf8] {packets : List PacketAsciiLines}
    (plain : ∀ packet ∈ packets, ∀ line ∈ packet.lines, PlainLine line) :
    (∃ data extracted, writeAll packets (.ofData []) = (true, .atEnd data) ∧
      extractPackets (data.length + 1) data = some (extracted, []) ∧
      linesOf extracted = linesOf packets) ∧
    ∀ data : QByteArray, (∀ byte ∈ data, byte ≠ 0 ∧ byte < 0x80) →
      (buildPacket data).write (.ofData []) = (true, .atEnd (data ++ [0x0D, 0x0A])) := by
  -- The packets may differ from those that were written, but their lines do not.
  constructor
  · have lines : ∀ line ∈ linesOf packets, PlainLine line := fun line member =>
      have ⟨packet, inside, among⟩ := List.mem_flatMap.mp member
      plain packet inside line among
    obtain ⟨complete, incomplete⟩ := completeLines_image lines
    obtain ⟨extracted, extracts, same⟩ := extractPackets_eq (image (linesOf packets))
    refine ⟨image (linesOf packets), extracted, ?_, ?_, same.trans complete⟩
    · exact (writes_writeAll packets).atEnd []
    · rw [extracts, incomplete]
  · intro data ascii
    exact (writes_buildPacket ascii).atEnd []

/-- Two packets with three lines come back as three lines. -/
theorem lines_roundTrip_three :
    let packets : List PacketAsciiLines := [⟨[.ofAscii "A", .ofAscii "b c"]⟩, ⟨[.ofAscii "-"]⟩]
    ∃ data extracted, writeAll packets (.ofData []) = (true, .atEnd data) ∧
      extractPackets (data.length + 1) data = some (extracted, []) ∧
      linesOf extracted = linesOf packets := by
  intro packets
  have plain : ∀ packet ∈ packets, ∀ line ∈ packet.lines, PlainLine line := by decide
  exact (@lines_roundTrip QtUtf8.ascii packets plain).1

end PacketFactoryAsciiLines

end Threader
