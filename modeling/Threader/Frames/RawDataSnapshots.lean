import Threader.Base.Selection
import Threader.Frames.QueueDataFrames

/-! What is left of the frames of a queue in the beginning of its snapshot. -/

namespace Threader

namespace DataFrameRawData

/-- The bytes that a frame adds to a snapshot. -/
def image (frame : DataFrameRawData) : QByteArray :=
  FixedWidth.toBytes frame.length ++ frame.buffer

/-- The bytes of some frames, one after another. -/
def images (frames : List DataFrameRawData) : QByteArray := frames.flatMap image

/-- The number of bytes that a frame adds to a snapshot. -/
def imageSize (frame : DataFrameRawData) : Nat := frame.image.length

theorem imageSize_eq (frame : DataFrameRawData) : frame.imageSize = 4 + frame.buffer.length := by
  have four := FixedWidth.toBytes_length frame.length
  simp only [imageSize, image, List.length_append, four]
  rfl

/-- The constructor ignores a block unless its first byte is above a space and below `0x80`. -/
theorem startsBadly_eq_false_iff (first : UInt8) :
    startsBadly first = false ↔ 32 < first.toNat ∧ first.toNat < 128 := by
  -- The byte is compared as a signed number.
  have value : first.toInt8.toInt = (first.toNat : Int).bmod 256 :=
    BitVec.toInt_eq_toNat_bmod first.toBitVec
  have space : (32 : Int8).toInt = 32 := rfl
  have small := first.toNat_lt
  simp only [startsBadly, decide_eq_false_iff_not, ge_iff_le, Int8.le_iff_toInt_le, value, space,
    Int.bmod_def]
  omega

/-- The first NUL stands behind a name without one. -/
theorem zeroPosition_append {name : QByteArray} (nulFree : (0 : UInt8) ∉ name) (rest : QByteArray) :
    ((name ++ 0 :: rest).findIdx? (· == 0)).getD 0 = name.length := by
  -- The search passes over the name, and stops at once behind it.
  have absent : name.findIdx? (· == 0) = none :=
    List.findIdx?_eq_none_iff.mpr fun byte member =>
      beq_eq_false_iff_ne.mpr fun zero => nulFree (zero ▸ member)
  rw [List.findIdx?_append, absent, List.findIdx?_cons]
  simp

/-- A frame without the packet and the definition that it was given since it was made. -/
def restored (frame : DataFrameRawData) : DataFrameRawData :=
  (frame.setPacketId (-1)).setDefinition none

/-- The length of a block is read as it was written. -/
theorem frameLength_append (front rest : QByteArray) (length : FrameSizeType)
    {position : FrameSizeType} (here : position.toNat = front.length) :
    frameLength (front ++ FixedWidth.toBytes length ++ rest) position = length := by
  have four : (FixedWidth.toBytes length).length = 4 := FixedWidth.toBytes_length length
  rw [frameLength, here, List.append_assoc, List.drop_left, ← four, List.take_left,
    FixedWidth.ofBytes_toBytes]

variable [QtUtf8]

/-- A frame that the constructor has made, and was given a packet or a definition since. -/
def Constructed (frame : DataFrameRawData) : Prop :=
  ∃ data length, build data length = some frame.restored

/-- A block that the constructor takes for a frame, and that `parse` yields once more. -/
structure Intact (frame : DataFrameRawData) : Prop where
  length : frame.length.toNat = frame.buffer.length
  starts : startsBadly (frame.buffer.headD 0) = false
  positive : 0 < frame.buffer.length
  restored : frame.restored = ofBlock frame.buffer frame.length

/-- A block that holds as many bytes as its length says, and at least one. -/
structure Sized (frame : DataFrameRawData) : Prop where
  length : frame.length.toNat = frame.buffer.length
  positive : 0 < frame.buffer.length

/-- What the constructor makes of a block, which it may not take for a frame. -/
def rebuilt (frame : DataFrameRawData) : DataFrameRawData :=
  if startsBadly (frame.buffer.headD 0) then ignored else ofBlock frame.buffer frame.length

theorem Intact.sized {frame : DataFrameRawData} (intact : frame.Intact) : frame.Sized :=
  ⟨intact.length, intact.positive⟩

theorem Intact.rebuilt_eq {frame : DataFrameRawData} (intact : frame.Intact) :
    frame.rebuilt = frame.restored := by
  rw [rebuilt, if_neg (Bool.eq_false_iff.mp intact.starts), intact.restored]

/-- A valid frame holds its whole block. -/
theorem Constructed.intact {frame : DataFrameRawData} (constructed : frame.Constructed)
    (valid : frame.isValid = true) : frame.Intact := by
  obtain ⟨data, length, built⟩ := constructed
  have valid : frame.restored.isValid = true := valid
  cases data with
  | none =>
    rw [← Option.some.inj built] at valid
    cases valid
  | some data =>
    simp only [build] at built
    split at built
    · -- A block that is not taken for a frame makes no valid one.
      rw [← Option.some.inj built] at valid
      cases valid
    · rename_i taken
      simp only [Bool.or_eq_true, decide_eq_true_eq, not_or] at taken
      split at built
      · rename_i inside
        -- The block is copied up to its length, all of which is there.
        have same : frame.restored = ofBlock (data.take length.toNat) length :=
          (Option.some.inj built).symm
        have sized : frame.length = length := congrArg DataFrameRawData.length same
        have block : frame.buffer = data.take length.toNat := congrArg DataFrameRawData.buffer same
        have long : frame.buffer.length = length.toNat := by
          rw [block, List.length_take, Nat.min_eq_left inside]
        have positive : 0 < length.toNat :=
          Nat.pos_of_ne_zero fun zero => taken.1 (UInt32.toNat_inj.mp zero)
        refine ⟨by rw [sized, long], ?_, by omega, by rw [same, sized, block]⟩
        -- The block begins with the first byte of what it was taken from.
        have some := Nat.lt_of_lt_of_le positive inside
        obtain ⟨first, others, rfl⟩ := List.exists_cons_of_length_pos some
        obtain ⟨count, counted⟩ := Nat.exists_eq_add_one.mpr positive
        rw [block, counted]
        simpa using taken.2
      · cases built

/-- What `parse` makes of a source from a position on, before it looks for valid frames. -/
def ParsesTo (source : QByteArray) (position : FrameSizeType) (frames : List DataFrameRawData) :
    Prop :=
  ∃ blocks last, Loop.Ends (parseTurn source) position blocks last ∧
    blocks.mapM (ofSource source) = some frames ∧ blocks.length ≤ source.length - position.toNat

/-- The loop of `parse` has time for all blocks. -/
theorem ParsesTo.parse_eq {source : QByteArray} {frames : List DataFrameRawData}
    (parsed : ParsesTo source 0 frames) : parse source = some (frames.filter isValid) := by
  obtain ⟨blocks, last, ends, made, few⟩ := parsed
  have done : Loop.within (parseTurn source) (source.length + 1) 0 = some blocks :=
    ends.within (Nat.lt_succ_of_le few)
  simp only [parse, done, made]

/-- What `parse` yields are the valid frames among those that its loop makes. -/
theorem parse_eq_some {source : QByteArray} {list : List DataFrameRawData}
    (parsed : parse source = some list) :
    ∃ blocks last frames, Loop.Ends (parseTurn source) 0 blocks last ∧
      blocks.mapM (ofSource source) = some frames ∧ list = frames.filter isValid := by
  -- The loop makes blocks, then frames are made of them, and the valid ones are kept.
  unfold parse at parsed
  split at parsed
  · cases parsed
  · rename_i blocks done
    split at parsed
    · cases parsed
    · rename_i frames made
      cases parsed
      obtain ⟨last, ends⟩ := Loop.ends_of_within done
      exact ⟨blocks, last, frames, ends, made, rfl⟩

/-- The loop stops where no further length or no further block is left. -/
theorem parsesTo_nil {source : QByteArray} {position : FrameSizeType}
    (stops : parseTurn source position = none) : ParsesTo source position [] :=
  ⟨[], position, .stop stops, rfl, Nat.zero_le _⟩

/-- The loop goes on behind a block that is there. -/
theorem parsesTo_cons {source : QByteArray} {position next : FrameSizeType} {block : Block}
    {frame : DataFrameRawData} {frames : List DataFrameRawData}
    (turned : parseTurn source position = some (block, next))
    (made : ofSource source block = some frame) (forward : position.toNat < next.toNat)
    (inside : next.toNat ≤ source.length) (later : ParsesTo source next frames) :
    ParsesTo source position (frame :: frames) := by
  obtain ⟨blocks, last, ends, others, few⟩ := later
  refine ⟨block :: blocks, last, .turn turned ends, ?_, ?_⟩
  · simp [made, others]
  · simp only [List.length_cons]
    omega

omit [QtUtf8] in
/-- The loop takes the block of a frame that was written at its position. -/
theorem parseTurn_image (front rest : QByteArray) {frame : DataFrameRawData}
    (sized : frame.Sized) (fits : (front ++ frame.image ++ rest).length < 2147483648)
    {position : FrameSizeType} (here : position.toNat = front.length) :
    parseTurn (front ++ frame.image ++ rest) position =
      some (⟨position + 4, frame.length⟩, UInt32.ofNat (front ++ frame.image).length) := by
  have size := sized.length
  have long := imageSize_eq frame
  have four : (4 : UInt32).toNat = 4 := rfl
  simp only [imageSize] at long
  -- The length is read as it was written, and the sum of position and length does not wrap around.
  have length : frameLength (front ++ frame.image ++ rest) position = frame.length := by
    have read := frameLength_append front (frame.buffer ++ rest) frame.length here
    simpa only [image, List.append_assoc] using read
  have next : position + 4 + frame.length = UInt32.ofNat (front ++ frame.image).length := by
    apply UInt32.toNat_inj.mp
    simp only [UInt32.toNat_add, UInt32.toNat_ofNat', four, here, size, List.length_append, long]
    omega
  have source : (UInt32.ofNat (front ++ frame.image ++ rest).length).toNat =
      front.length + (4 + frame.buffer.length) + rest.length := by
    rw [toNat_sourceSize fits, List.length_append, List.length_append, long]
  have within : position + 4 + frame.length ≤ UInt32.ofNat (front ++ frame.image ++ rest).length := by
    rw [UInt32.le_iff_toNat_le, source, next]
    simp only [UInt32.toNat_ofNat', List.length_append, long]
    omega
  rw [parseTurn, if_pos (by omega), length, if_pos within, next]

/-- The constructor is given a block as it was written. -/
theorem ofSource_image (front rest : QByteArray) {frame : DataFrameRawData}
    (sized : frame.Sized) {position : FrameSizeType} (here : position.toNat = front.length + 4) :
    ofSource (front ++ frame.image ++ rest) ⟨position, frame.length⟩ = some frame.rebuilt := by
  have four : (FixedWidth.toBytes frame.length).length = 4 := FixedWidth.toBytes_length frame.length
  -- At the position of the block, its own bytes come first.
  have behind : (front ++ frame.image ++ rest).drop position.toNat = frame.buffer ++ rest := by
    have front : (front ++ FixedWidth.toBytes frame.length).length = position.toNat := by
      rw [List.length_append, four, here]
    rw [image, ← front, ← List.append_assoc, List.append_assoc, List.drop_left]
  obtain ⟨first, others, buffer⟩ := List.exists_cons_of_length_pos sized.positive
  have head : (frame.buffer ++ rest).headD 0 = frame.buffer.headD 0 := by
    rw [buffer]
    rfl
  have nonzero : frame.length ≠ 0 := by
    intro zero
    have size := sized.length
    have positive := sized.positive
    rw [zero] at size
    have none : (0 : UInt32).toNat = 0 := rfl
    omega
  have whole : (frame.buffer ++ rest).take frame.length.toNat = frame.buffer := by
    rw [sized.length, List.take_left]
  have inside : frame.length.toNat ≤ (frame.buffer ++ rest).length := by
    rw [sized.length, List.length_append]
    omega
  -- Only the first byte decides whether the block is taken for a frame.
  simp only [ofSource, behind, build, head, nonzero, whole, inside, rebuilt, decide_false,
    Bool.false_or, if_true]
  split <;> rfl

omit [QtUtf8] in
/-- The loop ends at a frame whose end is missing. -/
theorem parseTurn_torn (front : QByteArray) {rest : QByteArray} {frame : DataFrameRawData}
    (sized : frame.Sized) (torn : rest <+: frame.image) (short : rest.length < frame.imageSize)
    (fits : (front ++ frame.image).length < 2147483648) {position : FrameSizeType}
    (here : position.toNat = front.length) : parseTurn (front ++ rest) position = none := by
  have size := sized.length
  have long := imageSize_eq frame
  have written : frame.image.length = 4 + frame.buffer.length := long
  have four : (4 : UInt32).toNat = 4 := rfl
  simp only [List.length_append, written] at fits
  have source : (UInt32.ofNat (front ++ rest).length).toNat = front.length + rest.length := by
    simp only [UInt32.toNat_ofNat', List.length_append]
    omega
  by_cases headed : rest.length < 4
  · -- Not even the length of the frame is there.
    rw [parseTurn, if_neg (by omega)]
  · -- The length is there, and says that the block ends behind the last byte.
    have width : (FixedWidth.toBytes frame.length).length = 4 := FixedWidth.toBytes_length frame.length
    obtain ⟨part, rfl⟩ : FixedWidth.toBytes frame.length <+: rest :=
      List.prefix_of_prefix_length_le (List.prefix_append ..) torn (by omega)
    have length : frameLength (front ++ (FixedWidth.toBytes frame.length ++ part)) position =
        frame.length := by
      rw [← List.append_assoc]
      exact frameLength_append front part frame.length here
    have behind : ¬ position + 4 + frame.length ≤
        UInt32.ofNat (front ++ (FixedWidth.toBytes frame.length ++ part)).length := by
      rw [UInt32.le_iff_toNat_le, source]
      simp only [UInt32.toNat_add, four, here, size]
      omega
    simp only [parseTurn, length, behind, if_false, ite_self]

/-- The loop makes a frame that was written at its position, and goes on behind it. -/
theorem parsesTo_image (front rest : QByteArray) {frame : DataFrameRawData} (sized : frame.Sized)
    (fits : (front ++ frame.image ++ rest).length < 2147483648) {position : FrameSizeType}
    (here : position.toNat = front.length) {next : FrameSizeType}
    (behind : next.toNat = (front ++ frame.image).length) {frames : List DataFrameRawData}
    (later : ParsesTo (front ++ frame.image ++ rest) next frames) :
    ParsesTo (front ++ frame.image ++ rest) position (frame.rebuilt :: frames) := by
  have positive := imageSize_eq frame
  have long : frame.image.length = frame.imageSize := rfl
  have small : front.length < 2147483648 := by
    simp only [List.length_append] at fits
    omega
  -- The position behind the frame is the one that the turn computes.
  have reached : next = UInt32.ofNat (front ++ frame.image).length := by
    rw [← behind, UInt32.ofNat_toNat]
  have turned := parseTurn_image front rest sized fits here
  rw [← reached] at turned
  refine parsesTo_cons turned (ofSource_image front rest sized ?_) ?_ ?_ later
  · have four : (4 : UInt32).toNat = 4 := rfl
    rw [UInt32.toNat_add, four, here]
    omega
  · rw [behind, List.length_append]
    omega
  · rw [behind]
    exact (List.prefix_append _ rest).length_le

omit [QtUtf8] in
/-- A frame that lies inside some bytes is one of those that have room in them. -/
theorem takeWithin_image (frame : DataFrameRawData) (frames : List DataFrameRawData)
    (rest : QByteArray) :
    Selection.takeWithin imageSize ((frame.image ++ rest).length + 1) 0 (frame :: frames) =
      frame :: Selection.takeWithin imageSize (rest.length + 1) 0 frames := by
  -- What the frame takes up is taken off the limit for the others.
  have limit : (frame.image ++ rest).length + 1 = rest.length + 1 + frame.imageSize := by
    rw [List.length_append, imageSize]
    omega
  rw [limit, Selection.takeWithin, if_pos (by omega)]
  exact congrArg (frame :: ·) (Selection.takeWithin_add ..)

/-- The loop yields the frames that lie completely inside the beginning of their bytes. -/
theorem parsesTo_beginning {frames : List DataFrameRawData} (sized : ∀ frame ∈ frames, frame.Sized)
    {front cut : QByteArray} (beginning : cut <+: images frames)
    (fits : (front ++ images frames).length < 2147483648) {position : FrameSizeType}
    (here : position.toNat = front.length) :
    ParsesTo (front ++ cut) position
      ((Selection.takeWithin imageSize (cut.length + 1) 0 frames).map rebuilt) := by
  -- Induction on the frames: what was parsed goes to the front.
  induction frames generalizing front cut position with
  | nil =>
    obtain rfl := List.prefix_nil.mp beginning
    apply parsesTo_nil
    have source : (UInt32.ofNat (front ++ []).length).toNat ≤ front.length := by
      rw [UInt32.toNat_ofNat', List.append_nil]
      exact Nat.mod_le ..
    rw [parseTurn, if_neg (by omega)]
  | cons frame frames ih =>
    obtain ⟨first, others⟩ := List.forall_mem_cons.mp sized
    have joined : images (frame :: frames) = frame.image ++ images frames := rfl
    rw [joined, ← List.append_assoc] at fits
    rw [joined] at beginning
    by_cases complete : frame.imageSize ≤ cut.length
    · -- The first frame lies inside the beginning, and what is left is a beginning of the others.
      obtain ⟨rest, rfl⟩ : frame.image <+: cut :=
        List.prefix_of_prefix_length_le (List.prefix_append ..) beginning complete
      have later := (List.prefix_append_right_inj _).mp beginning
      have longer := later.length_le
      have next : (UInt32.ofNat (front ++ frame.image).length).toNat =
          (front ++ frame.image).length := by
        apply toNat_sourceSize
        simp only [List.length_append] at fits ⊢
        omega
      have inside : (front ++ frame.image ++ rest).length < 2147483648 := by
        simp only [List.length_append] at fits longer ⊢
        omega
      rw [takeWithin_image, ← List.append_assoc, List.map_cons]
      exact parsesTo_image front rest first inside here next (ih others later fits next)
    · -- The first frame that is torn ends the loop.
      have torn : cut <+: frame.image := by
        apply List.prefix_of_prefix_length_le beginning (List.prefix_append ..)
        show cut.length ≤ frame.imageSize
        omega
      rw [Selection.takeWithin, if_neg (by omega)]
      apply parsesTo_nil
      apply parseTurn_torn front first torn (by omega) _ here
      simp only [List.length_append] at fits ⊢
      omega

omit [QtUtf8] in
/-- The bytes of all frames have room in the whole array. -/
theorem takeWithin_images (frames : List DataFrameRawData) :
    Selection.takeWithin imageSize ((images frames).length + 1) 0 frames = frames := by
  -- One byte more than all of them is the limit.
  have total : Selection.total imageSize frames = (images frames).length := by
    simp only [Selection.total, images, List.length_flatMap]
    rfl
  exact Selection.takeWithin_of_total_lt _ _ (by omega)

/-- The bytes of some blocks are parsed as the frames that the constructor takes them for. -/
theorem parse_blocks {frames : List DataFrameRawData} (sized : ∀ frame ∈ frames, frame.Sized)
    (fits : (images frames).length < 2147483648) :
    parse (images frames) = some ((frames.map rebuilt).filter isValid) := by
  have parsed := @parsesTo_beginning _ frames sized [] _ List.prefix_rfl fits 0 rfl
  rw [takeWithin_images] at parsed
  exact parsed.parse_eq

/-- The beginning of the bytes of valid frames is parsed as those that lie inside it. -/
theorem parse_prefix {frames : List DataFrameRawData} (intact : ∀ frame ∈ frames, frame.Intact)
    (valid : ∀ frame ∈ frames, frame.isValid = true)
    (fits : (images frames).length < 2147483648) {cut : QByteArray}
    (beginning : cut <+: images frames) :
    parse cut = some ((Selection.takeWithin imageSize (cut.length + 1) 0 frames).map restored) := by
  have sized (frame : DataFrameRawData) (member : frame ∈ frames) : frame.Sized :=
    (intact frame member).sized
  have parsed := (@parsesTo_beginning _ frames sized [] cut beginning fits 0 rfl).parse_eq
  -- The constructor takes each of these blocks for the frame that it was written for.
  have inside := (Selection.takeWithin_isPrefix imageSize (cut.length + 1) 0 frames).subset
  have same : (Selection.takeWithin imageSize (cut.length + 1) 0 frames).map rebuilt =
      (Selection.takeWithin imageSize (cut.length + 1) 0 frames).map restored :=
    List.map_congr_left fun frame taken => (intact frame (inside taken)).rebuilt_eq
  rw [List.nil_append, same] at parsed
  rw [parsed]
  congr 1
  -- No frame that was written is dropped for being invalid.
  apply List.filter_eq_self.mpr
  intro frame member
  obtain ⟨original, taken, rfl⟩ := List.mem_map.mp member
  exact valid original (inside taken)

/-- The bytes of valid frames are parsed as these frames. -/
theorem parse_images {frames : List DataFrameRawData} (intact : ∀ frame ∈ frames, frame.Intact)
    (valid : ∀ frame ∈ frames, frame.isValid = true)
    (fits : (images frames).length < 2147483648) :
    parse (images frames) = some (frames.map restored) := by
  have parsed := parse_prefix intact valid fits List.prefix_rfl
  rwa [takeWithin_images] at parsed

end DataFrameRawData

namespace QueueDataFrames

/-- The frames in the queue. -/
def frames (queue : QueueDataFrames) : List DataFrameRawData :=
  queue.queuedFramesList.map queue.heap.frame

/-- A snapshot consists of the bytes of the frames in the queue. -/
theorem makeSnapshot_eq (queue : QueueDataFrames) :
    queue.makeSnapshot = DataFrameRawData.images queue.frames := by
  suffices ∀ (frames : List FramePtr) (data : QByteArray),
      frames.foldl (fun data frame => (queue.heap.frame frame).appendByteArray data false) data =
        data ++ DataFrameRawData.images (frames.map queue.heap.frame) from
    this queue.queuedFramesList []
  intro frames
  -- Each frame is appended to what the ones in front of it have written.
  induction frames with
  | nil => exact fun data => (List.append_nil data).symm
  | cons first frames ih =>
    intro data
    rw [List.foldl_cons, ih]
    simp [DataFrameRawData.appendByteArray, DataFrameRawData.images, DataFrameRawData.image]

/--
From every beginning of the snapshot of a queue, `parse` yields the frames that lie completely
inside it, and from the whole snapshot all of them.
-/
theorem parse_makeSnapshot [QtUtf8] {queue : QueueDataFrames}
    (constructed : ∀ frame ∈ queue.frames, frame.Constructed)
    (valid : ∀ frame ∈ queue.frames, frame.isValid = true)
    (fits : queue.makeSnapshot.length < 2147483648) :
    (∀ cut, cut <+: queue.makeSnapshot →
      ∃ whole, Selection.LongestWithin DataFrameRawData.imageSize (cut.length + 1) queue.frames whole ∧
        DataFrameRawData.parse cut = some (whole.map DataFrameRawData.restored)) ∧
    DataFrameRawData.parse queue.makeSnapshot =
      some (queue.frames.map DataFrameRawData.restored) := by
  -- Both the whole snapshot and a beginning of it are images of frames, one after another.
  have intact (frame : DataFrameRawData) (member : frame ∈ queue.frames) : frame.Intact :=
    (constructed frame member).intact (valid frame member)
  rw [makeSnapshot_eq] at fits ⊢
  constructor
  · intro cut beginning
    exact ⟨_, Selection.takeWithin_longestWithin _ _ (Nat.zero_lt_succ _) _,
      DataFrameRawData.parse_prefix intact valid fits beginning⟩
  · exact DataFrameRawData.parse_images intact valid fits

/-- The snapshot of two frames, of which the second one is cut off behind its length. -/
theorem parse_makeSnapshot_pair :
    letI := QtUtf8.ascii
    let heap : FrameHeap :=
      ⟨[DataFrameRawData.ofBlock [65] 1, DataFrameRawData.ofBlock [66, 0, 67] 3]⟩
    let queue : QueueDataFrames := { empty heap with queuedFramesList := [0, 1] }
    (∃ whole, Selection.LongestWithin DataFrameRawData.imageSize 10 queue.frames whole ∧
      DataFrameRawData.parse [1, 0, 0, 0, 65, 3, 0, 0, 0] =
        some (whole.map DataFrameRawData.restored)) ∧
    DataFrameRawData.parse [1, 0, 0, 0, 65, 3, 0, 0, 0, 66, 0, 67] =
      some (queue.frames.map DataFrameRawData.restored) := by
  let _ := QtUtf8.ascii
  intro heap queue
  obtain ⟨cuts, full⟩ := @parse_makeSnapshot QtUtf8.ascii queue
    (by
      intro frame member
      rcases List.mem_cons.mp member with rfl | member
      · exact ⟨some [65], 1, rfl⟩
      · obtain rfl := List.mem_singleton.mp member
        exact ⟨some [66, 0, 67], 3, rfl⟩)
    (by decide) (by decide)
  have written : queue.makeSnapshot = [1, 0, 0, 0, 65, 3, 0, 0, 0, 66, 0, 67] := by decide
  rw [written] at cuts full
  exact ⟨cuts [1, 0, 0, 0, 65, 3, 0, 0, 0] ⟨[66, 0, 67], rfl⟩, full⟩

end QueueDataFrames

end Threader
