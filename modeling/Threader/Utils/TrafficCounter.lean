import Mathlib.Algebra.GroupWithZero.Nat
import Mathlib.Data.List.Induction
import Threader.Base.EventMachine
import Threader.Base.SlidingWindow

/-! `TrafficCounter`: how many bytes a second have passed of late, and how many in all. -/

namespace Threader

/-- `addSecs(seconds)` of a time in milliseconds. -/
def addSecs (dateTime seconds : Int64) : Int64 := dateTime + seconds * 1000

/-- `TrafficHistory`: a time in milliseconds, and how many bytes passed then. -/
structure TrafficHistory where
  received : UInt64
  count : UInt64
deriving DecidableEq, Repr

/-- `TrafficCounter`. -/
structure TrafficCounter where
  secondsToStore : Int32
  total : UInt64
  currentSpeed : UInt64
  historyList : List TrafficHistory
deriving DecidableEq, Repr

/-- The calls that a counter counts with, and what the clock shows at the end of them. -/
inductive TrafficEvent
  | clear
  | append (dateTime : Int64) (count : UInt64) (currentDateTime : Int64)
  | actualize (currentDateTime : Int64)
deriving DecidableEq, Repr

namespace TrafficCounter

/-- The constructor, which leaves the speed as the memory is. -/
def created (secondsToStore : Int32) (uninitialised : UInt64) : TrafficCounter :=
  ⟨secondsToStore, 0, uninitialised, []⟩

/-- `clear()`. -/
def clear (counter : TrafficCounter) : TrafficCounter :=
  { counter with total := 0, historyList := [] }

/-- A turn of the loop of `actualize`, with the number to remove and the traffic so far. -/
def turn (limit : UInt64) (counted : Nat × UInt64) (entry : TrafficHistory) : Nat × UInt64 :=
  if entry.received < limit then (counted.1 + 1, counted.2) else (counted.1, counted.2 + entry.count)

/-- `actualize()`, when the clock shows some time. -/
def actualize (counter : TrafficCounter) (currentDateTime : Int64) : UInt64 × TrafficCounter :=
  let limit := (addSecs currentDateTime (-counter.secondsToStore).toInt64).toUInt64
  let counted := counter.historyList.foldl (turn limit) (0, 0)
  let historyList :=
    if counted.1 ≠ 0 then counter.historyList.drop counted.1 else counter.historyList
  -- The divisor is converted to the unsigned type of the traffic.
  let currentSpeed := counted.2 / counter.secondsToStore.toInt64.toUInt64
  (currentSpeed, { counter with historyList, currentSpeed })

/-- `append(dateTime, count)`, when the clock shows some time. -/
def append (counter : TrafficCounter) (dateTime : Int64) (count : UInt64)
    (currentDateTime : Int64) : UInt64 × TrafficCounter :=
  let entry : TrafficHistory := ⟨dateTime.toUInt64, count⟩
  let counter :=
    { counter with
      total := counter.total + count
      historyList := counter.historyList ++ [entry] }
  counter.actualize currentDateTime

/-- What a call returns, and the counter afterwards. -/
def call (counter : TrafficCounter) : TrafficEvent → Option UInt64 × TrafficCounter
  | .clear => (none, counter.clear)
  | .append dateTime count currentDateTime =>
    let result := counter.append dateTime count currentDateTime
    (some result.1, result.2)
  | .actualize currentDateTime =>
    let result := counter.actualize currentDateTime
    (some result.1, result.2)

/-- The counter after a call. -/
def step (counter : TrafficCounter) (event : TrafficEvent) : TrafficCounter :=
  (counter.call event).2

end TrafficCounter

namespace TrafficEvent

/-- The times that a call comes with, in the order of their reading. -/
def times : TrafficEvent → List Int64
  | .clear => []
  | .append dateTime _ currentDateTime => [dateTime, currentDateTime]
  | .actualize currentDateTime => [currentDateTime]

/-- What the clock shows at the end of a call that returns a speed. -/
def now : TrafficEvent → Option Int64
  | .clear => none
  | .append _ _ currentDateTime | .actualize currentDateTime => some currentDateTime

/-- The entries since the last call of `clear`, after a call. -/
def sinceClear (entries : List (Int64 × UInt64)) : TrafficEvent → List (Int64 × UInt64)
  | .clear => []
  | .append dateTime count _ => entries ++ [(dateTime, count)]
  | .actualize _ => entries

/-- The entries that were appended since the last call of `clear`. -/
def entries (events : List TrafficEvent) : List (Int64 × UInt64) := events.foldl sinceClear []

/-- The times never go back, and none of them is before the end of the first window. -/
def Timely (seconds : Int32) (events : List TrafficEvent) : Prop :=
  (events.flatMap times).Pairwise (· ≤ ·) ∧
    ∀ time ∈ events.flatMap times, 1000 * seconds.toInt ≤ time.toInt

instance (seconds : Int32) (events : List TrafficEvent) : Decidable (Timely seconds events) :=
  @instDecidableAnd _ _ _
    (List.decidableBAll (fun time => 1000 * seconds.toInt ≤ time.toInt) (events.flatMap times))

/-- The sum of some counts, modulo `2^64`. -/
def sum (entries : List (Int64 × UInt64)) : Nat :=
  (entries.map fun entry => entry.2.toNat).sum % 2 ^ 64

/-- The entries that are not older than some seconds. -/
def recent (seconds : Int32) (now : Int64) (entries : List (Int64 × UInt64)) :
    List (Int64 × UInt64) :=
  entries.filter fun entry => now.toInt - 1000 * seconds.toInt ≤ entry.1.toInt

/-- An entry as the counter stores it. -/
def stored (entry : Int64 × UInt64) : TrafficHistory := ⟨entry.1.toUInt64, entry.2⟩

/-- The times of the last call come behind those of the others. -/
theorem flatMap_times_concat (events : List TrafficEvent) (event : TrafficEvent) :
    (events ++ [event]).flatMap times = events.flatMap times ++ event.times := by
  rw [List.flatMap_append, List.flatMap_singleton]

/-- The last call clears the entries of the others, or adds its own. -/
theorem entries_concat (events : List TrafficEvent) (event : TrafficEvent) :
    entries (events ++ [event]) = event.sinceClear (entries events) :=
  List.foldl_concat ..

/-- A new entry adds its count to the sum. -/
theorem sum_concat (entries : List (Int64 × UInt64)) (entry : Int64 × UInt64) :
    sum (entries ++ [entry]) = (sum entries + entry.2.toNat) % 2 ^ 64 := by
  rw [sum, sum, List.map_append, List.sum_append, List.map_singleton, List.sum_singleton,
    Nat.mod_add_mod]

/-- The entries come with some of the times, in the same order. -/
theorem sublist_times (events : List TrafficEvent) :
    ((entries events).map Prod.fst).Sublist (events.flatMap times) := by
  -- An entry that is cleared is forgotten, and a new one comes with a time of its own.
  induction events using List.reverseRecOn with
  | nil => exact List.Sublist.refl _
  | append_singleton events event ih =>
    rw [entries_concat, flatMap_times_concat]
    cases event with
    | clear => exact List.nil_sublist _
    | append dateTime count currentDateTime =>
      rw [sinceClear, List.map_append]
      exact ih.append (.cons_cons _ (List.nil_sublist _))
    | actualize currentDateTime => exact ih.trans (List.sublist_append_left ..)

/-- The times of the last call are not before those of the others, and late enough. -/
theorem Timely.last {seconds : Int32} {events : List TrafficEvent} {event : TrafficEvent}
    (timely : Timely seconds (events ++ [event])) {now : Int64} (shown : now ∈ event.times) :
    (∀ time ∈ events.flatMap times, time ≤ now) ∧ 1000 * seconds.toInt ≤ now.toInt ∧
      now ∈ (events ++ [event]).flatMap times := by
  -- What is ordered as a whole is ordered across the last call.
  have member : now ∈ (events ++ [event]).flatMap times := by
    rw [flatMap_times_concat]
    exact List.mem_append_right _ shown
  have pairwise := timely.1
  rw [flatMap_times_concat] at pairwise
  exact ⟨fun time before => (List.pairwise_append.mp pairwise).2.2 time before now shown,
    timely.2 now member, member⟩

end TrafficEvent

namespace TrafficCounter

open SlidingWindow (InOrder window)

/-- A time that is not negative keeps its value as an unsigned number. -/
theorem toNat_toUInt64 (time : Int64) (positive : 0 ≤ time.toInt) :
    (time.toUInt64.toNat : Int) = time.toInt := by
  -- The sign bit is not set, so the conversion keeps the bits and the value.
  have low : 0 ≤ time := Int64.le_iff_toInt_le.mpr positive
  rw [Int64.toNat_toUInt64_of_le low]
  exact Int.toNat_of_nonneg positive

/-- The limit is as many seconds before the time that the clock shows. -/
theorem toNat_limit {seconds : Int32} (positive : 1 ≤ seconds.toInt) {now : Int64}
    (late : 1000 * seconds.toInt ≤ now.toInt) :
    ((addSecs now (-seconds).toInt64).toUInt64.toNat : Int) =
      now.toInt - 1000 * seconds.toInt := by
  -- Both the product with a thousand and the difference are far inside 64 bits.
  have bound := Int32.toInt_lt seconds
  have high := Int64.toInt_lt now
  have negative : (-seconds).toInt = -seconds.toInt := by
    rw [Int32.toInt_neg, Int.bmod_def]
    omega
  -- Neither the product nor the sum leaves the range of the type.
  have product : ((-seconds).toInt64 * 1000).toInt = -seconds.toInt * 1000 := by
    rw [Int64.toInt_mul, Int32.toInt_toInt64, negative, show (1000 : Int64).toInt = 1000 from rfl,
      Int.bmod_def]
    omega
  have exact : (addSecs now (-seconds).toInt64).toInt = now.toInt - 1000 * seconds.toInt := by
    rw [addSecs, Int64.toInt_add, product, Int.bmod_def]
    omega
  rw [toNat_toUInt64 _ (by omega), exact]

/-- The time of an entry as a number. -/
def received (entry : TrafficHistory) : Nat := entry.received.toNat

/-- The loop counts the entries before the limit, and sums up the others. -/
theorem foldl_turn (limit : UInt64) (entries : List TrafficHistory) (counted : Nat × UInt64) :
    (entries.foldl (turn limit) counted).1 =
        counted.1 + entries.countP (received · < limit.toNat) ∧
      (entries.foldl (turn limit) counted).2.toNat =
        (counted.2.toNat + ((window received limit.toNat entries).map fun entry =>
          entry.count.toNat).sum) % 2 ^ 64 := by
  -- The two counters are kept general, because each turn starts from what it was given.
  induction entries generalizing counted with
  | nil =>
    have small := counted.2.toNat_lt
    simp [window]
  | cons entry entries ih =>
    obtain ⟨removed, traffic⟩ := ih (turn limit counted entry)
    rw [List.foldl_cons, removed, traffic]
    by_cases early : entry.received < limit
    · have before : received entry < limit.toNat := UInt64.lt_iff_toNat_lt.mp early
      have turned : turn limit counted entry = (counted.1 + 1, counted.2) := if_pos early
      have outside : window received limit.toNat (entry :: entries) =
          window received limit.toNat entries :=
        List.filter_cons_of_neg (by simpa using before)
      rw [turned, outside, List.countP_cons, if_pos (decide_eq_true before)]
      exact ⟨by omega, rfl⟩
    · have late : ¬ received entry < limit.toNat := mt UInt64.lt_iff_toNat_lt.mpr early
      have turned : turn limit counted entry = (counted.1, counted.2 + entry.count) :=
        if_neg early
      have inside : window received limit.toNat (entry :: entries) =
          entry :: window received limit.toNat entries :=
        List.filter_cons_of_pos (by simpa using late)
      rw [turned, inside, List.countP_cons, if_neg (by simpa using late), List.map_cons,
        List.sum_cons, UInt64.toNat_add]
      exact ⟨by omega, by omega⟩

/-- The counter keeps the entries of its window, and returns their sum by its seconds. -/
theorem actualize_eq {counter : TrafficCounter} (positive : 1 ≤ counter.secondsToStore.toInt)
    (inOrder : InOrder received counter.historyList) (now : Int64) :
    let limit := (addSecs now (-counter.secondsToStore).toInt64).toUInt64.toNat
    (counter.actualize now).1.toNat =
        ((window received limit counter.historyList).map fun entry => entry.count.toNat).sum %
          2 ^ 64 / counter.secondsToStore.toInt.toNat ∧
      (counter.actualize now).2.historyList = window received limit counter.historyList := by
  -- In order, the entries that are counted are those at the front, which are dropped.
  intro limit
  obtain ⟨removed, traffic⟩ :=
    foldl_turn (addSecs now (-counter.secondsToStore).toInt64).toUInt64 counter.historyList (0, 0)
  have divisor : counter.secondsToStore.toInt64.toUInt64.toNat =
      counter.secondsToStore.toInt.toNat := by
    have same := toNat_toUInt64 counter.secondsToStore.toInt64 (by
      rw [Int32.toInt_toInt64]
      omega)
    rw [Int32.toInt_toInt64] at same
    omega
  refine ⟨?_, ?_⟩
  · rw [actualize, UInt64.toNat_div, divisor, traffic]
    simp [limit]
  · have kept := inOrder.drop_countP limit
    simp only [actualize, removed, Nat.zero_add]
    split
    · exact kept
    · rename_i none
      -- Dropping no entry changes nothing.
      rw [Decidable.not_not.mp none, List.drop_zero] at kept
      exact kept

/-- Entries whose times are in order, and not negative, are stored in order. -/
theorem inOrder_stored {entries : List (Int64 × UInt64)}
    (ordered : (entries.map Prod.fst).Pairwise (· ≤ ·))
    (positive : ∀ entry ∈ entries, 0 ≤ entry.1.toInt) :
    InOrder received (entries.map TrafficEvent.stored) := by
  -- Times that are not negative keep their order as unsigned numbers.
  rw [List.pairwise_map] at ordered
  rw [InOrder, List.pairwise_map]
  refine ordered.imp_of_mem fun {left right} leftMember rightMember le => ?_
  have leftTime := toNat_toUInt64 _ (positive left leftMember)
  have rightTime := toNat_toUInt64 _ (positive right rightMember)
  have times := Int64.le_iff_toInt_le.mp le
  simp only [received, TrafficEvent.stored]
  omega

/-- The entries of the window are those that are not older than its seconds. -/
theorem window_stored {entries : List (Int64 × UInt64)}
    (positive : ∀ entry ∈ entries, 0 ≤ entry.1.toInt) {seconds : Int32} {now : Int64} {limit : Nat}
    (exact : (limit : Int) = now.toInt - 1000 * seconds.toInt) :
    window received limit (entries.map TrafficEvent.stored) =
      (TrafficEvent.recent seconds now entries).map TrafficEvent.stored := by
  -- An entry and its stored form are late enough at the same time.
  rw [window, List.filter_map, TrafficEvent.recent]
  refine congrArg (List.map _) (List.filter_congr fun entry member => ?_)
  have time := toNat_toUInt64 _ (positive entry member)
  rw [Function.comp_apply, decide_eq_decide]
  simp only [received, TrafficEvent.stored]
  omega

/-- An entry that is not before the limit joins the window. -/
theorem window_stored_concat (entries : List (Int64 × UInt64)) {entry : Int64 × UInt64}
    {limit : Nat} (late : (limit : Int) ≤ entry.1.toInt) :
    window received limit ((entries ++ [entry]).map TrafficEvent.stored) =
      window received limit (entries.map TrafficEvent.stored) ++ [TrafficEvent.stored entry] := by
  -- Behind the others the new entry is looked at by itself.
  have time := toNat_toUInt64 entry.1 (by omega)
  have inside : window received limit [TrafficEvent.stored entry] =
      [TrafficEvent.stored entry] := by
    refine List.filter_cons_of_pos (decide_eq_true ?_)
    simp only [received, TrafficEvent.stored]
    omega
  rw [List.map_append, SlidingWindow.window_append, List.map_singleton, inside]

/-- What the counter holds after some calls: of the entries it has given up only early ones. -/
structure Tracks (seconds : Int32) (events : List TrafficEvent) (counter : TrafficCounter) :
    Prop where
  secondsToStore : counter.secondsToStore = seconds
  total : counter.total.toNat = TrafficEvent.sum (TrafficEvent.entries events)
  historyList : ∃ limit : Nat,
    counter.historyList =
      window received limit ((TrafficEvent.entries events).map TrafficEvent.stored) ∧
    ∀ now : Int64, (∀ time ∈ events.flatMap TrafficEvent.times, time ≤ now) →
      1000 * seconds.toInt ≤ now.toInt → (limit : Int) ≤ now.toInt - 1000 * seconds.toInt

/-- A new counter has nothing to hold. -/
theorem tracks_created (seconds : Int32) (uninitialised : UInt64) :
    Tracks seconds [] (created seconds uninitialised) := by
  refine ⟨rfl, rfl, 0, rfl, fun now _ late => ?_⟩
  omega

/-- Entries that were given up earlier are not missed in a later window. -/
theorem actualize_tracks {counter : TrafficCounter} (one : 1 ≤ counter.secondsToStore.toInt)
    {events : List TrafficEvent} (timely : TrafficEvent.Timely counter.secondsToStore events)
    (total : counter.total.toNat = TrafficEvent.sum (TrafficEvent.entries events)) {earlier : Nat}
    (held : counter.historyList =
      window received earlier ((TrafficEvent.entries events).map TrafficEvent.stored))
    {now : Int64} (shown : now ∈ events.flatMap TrafficEvent.times)
    (before : (earlier : Int) ≤ now.toInt - 1000 * counter.secondsToStore.toInt) :
    Tracks counter.secondsToStore events (counter.actualize now).2 ∧
      (counter.actualize now).1.toNat =
        TrafficEvent.sum (TrafficEvent.recent counter.secondsToStore now
          (TrafficEvent.entries events)) / counter.secondsToStore.toInt.toNat := by
  -- The limit only grows, so what an earlier limit removed is outside this window as well.
  obtain ⟨pairwise, late⟩ := timely
  -- The entries are in order and not too early.
  have sublist := TrafficEvent.sublist_times events
  have positive : ∀ entry ∈ TrafficEvent.entries events, 0 ≤ entry.1.toInt := by
    intro entry member
    have time := late _ (sublist.subset (List.mem_map_of_mem member))
    omega
  have inOrder := inOrder_stored (pairwise.sublist sublist) positive
  have limit := toNat_limit one (late now shown)
  obtain ⟨speed, kept⟩ := actualize_eq one (held ▸ inOrder.window earlier) now
  -- The window of the entries that are left is the window of all entries.
  have le : earlier ≤ (addSecs now (-counter.secondsToStore).toInt64).toUInt64.toNat := by omega
  have same := SlidingWindow.window_window received le
    ((TrafficEvent.entries events).map TrafficEvent.stored)
  rw [held, same] at speed kept
  refine ⟨⟨rfl, total, _, kept, fun later last _ => ?_⟩, ?_⟩
  · have le := Int64.le_iff_toInt_le.mp (last now shown)
    omega
  · rw [speed, window_stored positive limit, List.map_map]
    rfl

/-- A call keeps track, and returns what passed in the last seconds. -/
theorem Tracks.call {seconds : Int32} (one : 1 ≤ seconds.toInt) {events : List TrafficEvent}
    {counter : TrafficCounter} (tracks : Tracks seconds events counter) {event : TrafficEvent}
    (timely : TrafficEvent.Timely seconds (events ++ [event])) :
    Tracks seconds (events ++ [event]) (counter.step event) ∧
      ∀ now, event.now = some now → ∃ speed, (counter.call event).1 = some speed ∧
        speed.toNat =
          TrafficEvent.sum (TrafficEvent.recent seconds now
            (TrafficEvent.entries (events ++ [event]))) / seconds.toInt.toNat := by
  -- A call is looked at by what it does to the entries: it clears, adds or leaves them.
  obtain ⟨rfl, total, earlier, held, bound⟩ := tracks
  have entries := TrafficEvent.entries_concat events event
  cases event with
  | clear =>
    refine ⟨⟨rfl, ?_, 0, ?_, fun now _ enough => ?_⟩, nofun⟩
    · rw [entries]
      rfl
    · rw [entries]
      rfl
    · omega
  | actualize now =>
    obtain ⟨before, late, shown⟩ := timely.last (List.mem_singleton_self now)
    obtain ⟨tracks, speed⟩ := actualize_tracks one timely (total.trans (by rw [entries]; rfl))
      (held.trans (by rw [entries]; rfl)) shown (bound now before late)
    exact ⟨tracks, fun same shows => Option.some.inj shows ▸ ⟨_, rfl, speed⟩⟩
  | append dateTime count now =>
    obtain ⟨before, late, _⟩ := timely.last List.mem_cons_self
    obtain ⟨_, _, shown⟩ := timely.last (List.mem_cons_of_mem _ (List.mem_singleton_self now))
    have early := bound dateTime before late
    -- The new entry comes behind the others, and is not too early for their window.
    let appended : TrafficCounter :=
      { counter with
        total := counter.total + count
        historyList := counter.historyList ++ [TrafficEvent.stored (dateTime, count)] }
    have held' : appended.historyList = window received earlier
        ((TrafficEvent.entries (events ++ [.append dateTime count now])).map
          TrafficEvent.stored) := by
      have inside : (earlier : Int) ≤ dateTime.toInt := by omega
      have joins := @window_stored_concat (TrafficEvent.entries events) (dateTime, count) _ inside
      rw [entries, TrafficEvent.sinceClear, joins, ← held]
    have total' : appended.total.toNat =
        TrafficEvent.sum (TrafficEvent.entries (events ++ [.append dateTime count now])) := by
      rw [entries, TrafficEvent.sinceClear, TrafficEvent.sum_concat, ← total]
      exact UInt64.toNat_add ..
    have ordered : dateTime ≤ now := by
      have pairwise := timely.1
      rw [TrafficEvent.flatMap_times_concat] at pairwise
      exact (List.pairwise_cons.mp (List.pairwise_append.mp pairwise).2.1).1 now
        (List.mem_singleton_self now)
    have le := Int64.le_iff_toInt_le.mp ordered
    obtain ⟨tracks, speed⟩ := actualize_tracks (show 1 ≤ appended.secondsToStore.toInt from one)
      timely total' held' shown (by simp only [appended]; omega)
    exact ⟨tracks, fun same shows => Option.some.inj shows ▸ ⟨_, rfl, speed⟩⟩

/-- What is timely is timely from its beginning on. -/
theorem timely_beginning {seconds : Int32} {events past : List TrafficEvent}
    (timely : TrafficEvent.Timely seconds events) (beginning : past <+: events) :
    TrafficEvent.Timely seconds past := by
  -- The times of the beginning are some of all times, in the same order.
  obtain ⟨later, rfl⟩ := beginning
  have sublist : (past.flatMap TrafficEvent.times).Sublist
      ((past ++ later).flatMap TrafficEvent.times) := by
    rw [List.flatMap_append]
    exact List.sublist_append_left ..
  exact ⟨timely.1.sublist sublist, fun time member => timely.2 time (sublist.subset member)⟩

/-- A new counter keeps track of all calls. -/
theorem tracks_run {seconds : Int32} (one : 1 ≤ seconds.toInt) (uninitialised : UInt64)
    {events : List TrafficEvent} (timely : TrafficEvent.Timely seconds events) :
    Tracks seconds events (EventMachine.run step (created seconds uninitialised) events) := by
  -- The induction is on the last call, since timeliness is about the past of a call.
  induction events using List.reverseRecOn with
  | nil => exact tracks_created seconds uninitialised
  | append_singleton events event ih =>
    rw [EventMachine.run_concat]
    exact ((ih (timely_beginning timely (List.prefix_append ..))).call one timely).1

/--
In a run whose times never go back, each call returns what passed in the last seconds.

It is the sum modulo `2^64` of the counts whose times are in the window, by the number of seconds,
and the total is the sum of all counts since the last call of `clear`.
-/
theorem run_returns_speed {seconds : Int32} (one : 1 ≤ seconds.toInt) (uninitialised : UInt64)
    {events : List TrafficEvent} (timely : TrafficEvent.Timely seconds events) :
    (∀ past, past <+: events →
      (EventMachine.run step (created seconds uninitialised) past).total.toNat =
        TrafficEvent.sum (TrafficEvent.entries past)) ∧
    ∀ past event now, past ++ [event] <+: events → event.now = some now →
      ∃ speed,
        ((EventMachine.run step (created seconds uninitialised) past).call event).1 = some speed ∧
        speed.toNat =
          TrafficEvent.sum (TrafficEvent.recent seconds now
            (TrafficEvent.entries (past ++ [event]))) / seconds.toInt.toNat := by
  -- Both halves are about a beginning of the run, which the counter has kept track of.
  constructor
  · intro past beginning
    exact (tracks_run one uninitialised (timely_beginning timely beginning)).total
  · intro past event now beginning shows
    have timely := timely_beginning timely beginning
    have tracks := tracks_run one uninitialised (timely_beginning timely (List.prefix_append ..))
    exact (tracks.call one timely).2 now shows

/-- Of three entries the first is too early for the last window of five seconds. -/
theorem run_returns_speed_three :
    let events : List TrafficEvent :=
      [.append 5000 70 5001, .append 6000 30 6000, .append 10500 20 10500]
    (EventMachine.run step (created 5 0) events).total.toNat = 120 ∧
      ∃ speed, ((EventMachine.run step (created 5 0) (events.take 2)).call
        (.append 10500 20 10500)).1 = some speed ∧ speed.toNat = 10 := by
  intro events
  have timely : TrafficEvent.Timely 5 events := by decide
  obtain ⟨total, speed⟩ := @run_returns_speed 5 (by decide) 0 events timely
  refine ⟨(total events List.prefix_rfl).trans (by decide), ?_⟩
  obtain ⟨value, returned, sum⟩ :=
    speed (events.take 2) (.append 10500 20 10500) 10500 List.prefix_rfl rfl
  exact ⟨value, returned, sum.trans (by decide)⟩

end TrafficCounter

end Threader
