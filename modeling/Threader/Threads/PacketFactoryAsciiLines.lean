import Threader.Base.Splitting
import Threader.Threads.OutputStream
import Threader.Utils.IpMask

/-! `PacketFactoryAsciiLines`: lines of text are taken out of a buffer as they are completed. -/

namespace Threader

/-- `QChar(char)`, which takes a byte for a Latin-1 character. -/
def QChar.ofByte (byte : UInt8) : UInt16 := byte.toUInt16

/-- `split(separator)`, which keeps empty parts. -/
def QString.splitKeeping (text separator : QString) : List QString :=
  if separator = [] then text.map fun unit => [unit] else splitFrom separator text 0 []

namespace PacketFactoryAsciiLines

/-- The local variables of the loop of `tryExtractPacket`. -/
structure Conveyor where
  conveyorPosition : Nat
  deleteToPosition : Int
  currentLine : QString
  lines : List QString
deriving DecidableEq, Repr

/-- A turn of the loop, with the byte at the position. -/
def turn (conveyor : Conveyor) (currentChar : UInt8) : Conveyor :=
  let unit := QChar.ofByte currentChar
  let conveyor :=
    if PacketAsciiLines.CRLF.indexOf unit 0 = none then
      { conveyor with currentLine := conveyor.currentLine ++ [unit] }
    else
      let conveyor :=
        if !conveyor.currentLine.isEmpty then
          { conveyor with lines := conveyor.lines ++ [conveyor.currentLine], currentLine := [] }
        else conveyor
      { conveyor with deleteToPosition := conveyor.conveyorPosition }
  { conveyor with conveyorPosition := conveyor.conveyorPosition + 1 }

/-- `tryExtractPacket(data)`: a packet of all lines that are complete, or null, and the buffer. -/
def tryExtractPacket (data : QByteArray) : Option PacketAsciiLines × QByteArray :=
  if data.length = 0 then (none, data)
  else
    let conveyor := data.foldl turn ⟨0, -1, [], []⟩
    let data :=
      if conveyor.deleteToPosition ≥ 0 then data.drop (conveyor.deleteToPosition + 1).toNat
      else data
    if conveyor.lines.length > 0 then (some ⟨conveyor.lines⟩, data) else (none, data)

/-- `buildPacket(data)`: the text in front of the first NUL, split at the separators of lines. -/
def buildPacket [QtUtf8] (data : QByteArray) : PacketAsciiLines :=
  ⟨(QtUtf8.fromUtf8 (QByteArray.cString data)).splitKeeping PacketAsciiLines.CRLF⟩

/-- The packets of calls of `tryExtractPacket` until null, unless there are more than `fuel` calls. -/
def extractPackets : Nat → QByteArray → Option (List PacketAsciiLines × QByteArray)
  | 0, _ => none
  | fuel + 1, data =>
    match tryExtractPacket data with
    | (none, data) => some ([], data)
    | (some packet, data) =>
      (extractPackets fuel data).map fun extracted => (packet :: extracted.1, extracted.2)

/-- Each chunk is appended to the buffer, and the packets it completes are extracted. -/
def receiveChunks : QByteArray → List QByteArray → Option (List PacketAsciiLines × QByteArray)
  | buffer, [] => some ([], buffer)
  | buffer, chunk :: chunks =>
    -- Every packet takes bytes out of the buffer.
    match extractPackets ((buffer ++ chunk).length + 1) (buffer ++ chunk) with
    | none => none
    | some (packets, buffer) =>
      (receiveChunks buffer chunks).map fun received => (packets ++ received.1, received.2)

/-- A carriage return or a line feed. -/
def isBreak (byte : UInt8) : Bool := byte = 0x0D || byte = 0x0A

/-- The bytes of a line as characters. -/
def toText (line : QByteArray) : QString := line.map QChar.ofByte

/-- The lines that some bytes complete: the non-empty runs that a carriage return or a line feed ends. -/
def completeLines (data : QByteArray) : List QString :=
  ((Splitting.ended isBreak data).filter (· ≠ [])).map toText

/-- The bytes behind the last carriage return or line feed. -/
def incompleteLine (data : QByteArray) : QByteArray := Splitting.pending isBreak data

/-- A byte is one of the separators exactly if it is found among them. -/
theorem indexOf_CRLF_eq_none_iff (byte : UInt8) :
    PacketAsciiLines.CRLF.indexOf (QChar.ofByte byte) 0 = none ↔ isBreak byte = false := by
  -- There are 256 bytes to look at.
  have all : ∀ number : Fin 256,
      PacketAsciiLines.CRLF.indexOf (QChar.ofByte (UInt8.ofFin number)) 0 = none ↔
        isBreak (UInt8.ofFin number) = false := by decide +kernel
  exact all byte.toFin

/-- A byte of a line is appended to the line. -/
theorem turn_of_plain (conveyor : Conveyor) {byte : UInt8} (plain : isBreak byte = false) :
    turn conveyor byte =
      { conveyor with
        conveyorPosition := conveyor.conveyorPosition + 1
        currentLine := conveyor.currentLine ++ [QChar.ofByte byte] } := by
  rw [turn, if_pos ((indexOf_CRLF_eq_none_iff byte).mpr plain)]

/-- A separator completes the line, if there is one, and is deleted with all bytes in front of it. -/
theorem turn_of_break (conveyor : Conveyor) {byte : UInt8} (ends : isBreak byte = true) :
    turn conveyor byte =
      ⟨conveyor.conveyorPosition + 1, conveyor.conveyorPosition, [],
        conveyor.lines ++ [conveyor.currentLine].filter (· ≠ [])⟩ := by
  -- An empty line is not added, so only a filled one has to be told apart.
  have found : ¬ PacketAsciiLines.CRLF.indexOf (QChar.ofByte byte) 0 = none := fun absent =>
    absurd ((indexOf_CRLF_eq_none_iff byte).mp absent) (by simp [ends])
  rw [turn, if_neg found]
  obtain ⟨position, delete, line, lines⟩ := conveyor
  cases line <;> simp

/-- The bytes of a line are collected one after another. -/
theorem foldl_turn_unbroken {run : QByteArray} (unbroken : Splitting.Unbroken isBreak run)
    (conveyor : Conveyor) :
    run.foldl turn conveyor =
      { conveyor with
        conveyorPosition := conveyor.conveyorPosition + run.length
        currentLine := conveyor.currentLine ++ toText run } := by
  -- Neither the lines nor the position to delete to change along a run.
  induction run generalizing conveyor with
  | nil => simp [toText]
  | cons byte run ih =>
    obtain ⟨plain, others⟩ := List.forall_mem_cons.mp unbroken
    rw [List.foldl_cons, turn_of_plain conveyor plain, ih others]
    simp [toText]
    omega

/-- The first separator adds the line in front of it to the complete ones. -/
theorem completeLines_append_cons {run : QByteArray} (unbroken : Splitting.Unbroken isBreak run)
    {byte : UInt8} (ends : isBreak byte = true) (rest : QByteArray) :
    completeLines (run ++ byte :: rest) =
      [toText run].filter (· ≠ []) ++ completeLines rest := by
  -- An empty run in front of the separator is no line.
  rw [completeLines, Splitting.ended_append_cons unbroken ends, completeLines]
  cases run <;> simp [toText]

/-- The loop collects the complete lines, and deletes up to the last separator. -/
theorem foldl_turn (data : QByteArray) {conveyor : Conveyor} (fresh : conveyor.currentLine = [])
    (deleted : conveyor.deleteToPosition + 1 = conveyor.conveyorPosition) :
    (data.foldl turn conveyor).lines = conveyor.lines ++ completeLines data ∧
      (data.foldl turn conveyor).deleteToPosition + 1 + (incompleteLine data).length =
        conveyor.conveyorPosition + data.length := by
  -- The data are taken run by run, with the conveyor between two runs kept general.
  induction data using Splitting.runs_induction isBreak generalizing conveyor with
  | last run unbroken =>
    -- Nothing is completed, and nothing more is deleted.
    rw [foldl_turn_unbroken unbroken, completeLines, incompleteLine,
      Splitting.ended_unbroken unbroken, Splitting.pending_unbroken unbroken]
    simp only [List.filter_nil, List.map_nil, List.append_nil, true_and]
    omega
  | next run byte rest unbroken ends ih =>
    rw [List.foldl_append, List.foldl_cons, foldl_turn_unbroken unbroken, turn_of_break _ ends,
      completeLines_append_cons unbroken ends, incompleteLine,
      Splitting.pending_append_cons unbroken ends, ← incompleteLine]
    -- Behind the separator the loop goes on as from the beginning.
    obtain ⟨lines, position⟩ := @ih ⟨conveyor.conveyorPosition + run.length + 1,
      ((conveyor.conveyorPosition + run.length : Nat) : Int), [],
      conveyor.lines ++ [conveyor.currentLine ++ toText run].filter (· ≠ [])⟩ rfl rfl
    constructor
    · rw [lines, fresh, List.nil_append, List.append_assoc]
    · rw [position, List.length_append, List.length_cons]
      push_cast
      omega

/-- A call returns the complete lines, if there are any, and leaves the incomplete one. -/
theorem tryExtractPacket_eq (data : QByteArray) :
    tryExtractPacket data =
      (if completeLines data = [] then none else some ⟨completeLines data⟩, incompleteLine data) := by
  -- The bytes to delete are all but the incomplete line.
  by_cases empty : data = []
  · subst empty
    rfl
  · obtain ⟨lines, position⟩ := @foldl_turn data ⟨0, -1, [], []⟩ rfl rfl
    rw [List.nil_append] at lines
    have width := List.length_pos_iff.mpr empty
    -- What is not deleted is as long as the incomplete line, which the buffer ends with.
    have left (target : Int) (same : target + 1 + (incompleteLine data).length = data.length) :
        (if target ≥ 0 then data.drop (target + 1).toNat else data) = incompleteLine data := by
      have suffix : incompleteLine data = data.drop (data.length - (incompleteLine data).length) :=
        List.suffix_iff_eq_drop.mp (Splitting.pending_suffix isBreak data)
      split
      · rw [show (target + 1).toNat = data.length - (incompleteLine data).length by omega]
        exact suffix.symm
      · rw [show data.length - (incompleteLine data).length = 0 by
          have shorter := (Splitting.pending_suffix isBreak data).length_le
          unfold incompleteLine at same ⊢
          omega] at suffix
        exact suffix.symm
    rw [tryExtractPacket, if_neg (by omega)]
    simp only [lines, left _ (position.trans (Int.zero_add _))]
    cases completeLines data <;> simp

/-- What is left incomplete completes nothing by itself, and stays as it is. -/
theorem tryExtractPacket_incompleteLine (data : QByteArray) :
    tryExtractPacket (incompleteLine data) = (none, incompleteLine data) := by
  -- An incomplete line has no separator that could end it.
  have unbroken := Splitting.unbroken_pending isBreak data
  rw [tryExtractPacket_eq, completeLines, incompleteLine, incompleteLine,
    Splitting.ended_unbroken unbroken, Splitting.pending_unbroken unbroken]
  rfl

/-- The lines of some packets. -/
def linesOf (packets : List PacketAsciiLines) : List QString :=
  packets.flatMap PacketAsciiLines.lines

/-- At the second call at the latest there is no packet any more. -/
theorem extractPackets_eq (data : QByteArray) :
    ∃ packets, extractPackets (data.length + 1) data = some (packets, incompleteLine data) ∧
      linesOf packets = completeLines data := by
  -- The first call takes all lines there are, so the second one finds none.
  by_cases none : completeLines data = []
  · refine ⟨[], ?_, none.symm⟩
    rw [extractPackets, tryExtractPacket_eq, if_pos none]
  · -- Without bytes there would be no line.
    obtain ⟨length, longer⟩ : ∃ length, data.length = length + 1 :=
      Nat.exists_eq_succ_of_ne_zero fun zero => none (by
        rw [List.length_eq_zero_iff.mp zero]
        rfl)
    refine ⟨[⟨completeLines data⟩], ?_, by simp [linesOf]⟩
    simp only [longer, extractPackets, tryExtractPacket_eq data, if_neg none,
      tryExtractPacket_incompleteLine, Option.map_some]

/-- Bytes that follow complete what is incomplete, and then lines of their own. -/
theorem completeLines_append (front back : QByteArray) :
    completeLines (front ++ back) =
      completeLines front ++ completeLines (incompleteLine front ++ back) := by
  rw [completeLines, Splitting.ended_append, List.filter_append, List.map_append]
  rfl

/-- From an incomplete line on, the chunks are taken as if they had come in one piece. -/
theorem receiveChunks_eq {buffer : QByteArray} (unbroken : Splitting.Unbroken isBreak buffer)
    (chunks : List QByteArray) :
    ∃ packets, receiveChunks buffer chunks =
        some (packets, incompleteLine (buffer ++ chunks.flatten)) ∧
      linesOf packets = completeLines (buffer ++ chunks.flatten) := by
  -- The buffer between two chunks is an incomplete line again.
  induction chunks generalizing buffer with
  | nil =>
    refine ⟨[], ?_, ?_⟩
    · rw [receiveChunks, List.flatten_nil, List.append_nil, incompleteLine,
        Splitting.pending_unbroken unbroken]
    · rw [List.flatten_nil, List.append_nil, completeLines, Splitting.ended_unbroken unbroken]
      rfl
  | cons chunk chunks ih =>
    obtain ⟨packets, extracts, lines⟩ := extractPackets_eq (buffer ++ chunk)
    obtain ⟨others, receives, later⟩ := ih (Splitting.unbroken_pending isBreak (buffer ++ chunk))
    refine ⟨packets ++ others, ?_, ?_⟩
    · rw [receiveChunks, extracts]
      simp only
      rw [← incompleteLine] at receives
      rw [receives, List.flatten_cons, ← List.append_assoc, incompleteLine, incompleteLine,
        ← Splitting.pending_append]
      rfl
    · rw [List.flatten_cons, ← List.append_assoc, completeLines_append, ← lines]
      rw [incompleteLine, ← later]
      simp [linesOf]

/--
The lines of a stream do not depend on the chunks in which it arrives.

They are its non-empty runs that a carriage return or a line feed ends, and the bytes behind the
last one stay in the buffer.
-/
theorem receiveChunks_lines (chunks : List QByteArray) :
    ∃ packets, receiveChunks [] chunks = some (packets, incompleteLine chunks.flatten) ∧
      linesOf packets = completeLines chunks.flatten :=
  receiveChunks_eq (List.forall_mem_nil _) chunks

end PacketFactoryAsciiLines

end Threader
