import Mathlib.Data.List.Basic
import Threader.Base.EventMachine
import Threader.Threads.QueueMessages

/-! `ThreadBase::processMessages`, whose handlers may process messages themselves. -/

namespace Threader

/-- A message with its number among all the messages that were posted. -/
abbrev Numbered (μ : Type) := μ × Nat

/--
The messages of a thread, and the calls of `processMessages` that have not returned.

Each call keeps the messages it has taken from the queue, and the innermost call comes first.
-/
structure MessageLoop (μ : Type) where
  queue : QueueMessages (Numbered μ)
  activations : List (List (Numbered μ))
  posted : List μ
  -- The messages that were handed to `processMessage`, in the order of the calls.
  processed : List (Numbered μ)

namespace MessageLoop

variable {μ : Type}

/-- A thread that nothing was posted to. -/
def started : MessageLoop μ := ⟨⟨[]⟩, [], [], []⟩

/-- The queue after `postMessage(message)` or `postMessages(messagesList)`. -/
def post (loop : MessageLoop μ) (list : List μ) : MessageLoop μ :=
  { loop with
    queue := loop.queue.enqueue (list.zipIdx loop.posted.length)
    posted := loop.posted ++ list }

/-- The beginning of `processMessages()`. -/
def processMessages (loop : MessageLoop μ) : MessageLoop μ :=
  let (messages, queue) := loop.queue.dequeueAll
  { loop with queue, activations := messages :: loop.activations }

/--
What can happen next: senders post at any time, and the innermost call goes on.

A handler calls `processMessages` once, or again and again in `terminateChildThread`.
-/
inductive Step : MessageLoop μ → MessageLoop μ → Prop
  | post (loop : MessageLoop μ) (list : List μ) : Step loop (loop.post list)
  | processMessages (loop : MessageLoop μ) : Step loop loop.processMessages
  | processMessage (loop : MessageLoop μ) {message : Numbered μ} {rest : List (Numbered μ)}
      {outer : List (List (Numbered μ))} (more : loop.activations = (message :: rest) :: outer) :
      Step loop { loop with activations := rest :: outer, processed := loop.processed ++ [message] }
  | returns (loop : MessageLoop μ) {outer : List (List (Numbered μ))}
      (done : loop.activations = [] :: outer) : Step loop { loop with activations := outer }

/-- The messages that are left, from those of the outermost call to those in the queue. -/
def left (loop : MessageLoop μ) : List (Numbered μ) :=
  loop.activations.reverse.flatten ++ loop.queue.queue

/-- Every message was processed or is left, and those that are left are in the order of posting. -/
structure Accounted (loop : MessageLoop μ) : Prop where
  all : (loop.processed ++ loop.left).Perm loop.posted.zipIdx
  ordered : (loop.left.map Prod.snd).Pairwise (· < ·)

/-- What is posted is left behind everything else. -/
theorem left_post (loop : MessageLoop μ) (list : List μ) :
    (loop.post list).left = loop.left ++ list.zipIdx loop.posted.length :=
  (List.append_assoc ..).symm

/-- Taking the messages from the queue into a call leaves the same messages in the same order. -/
theorem left_processMessages (loop : MessageLoop μ) : loop.processMessages.left = loop.left := by
  simp [left, processMessages, QueueMessages.dequeueAll]

/-- What is left begins with the messages of the outer calls. -/
theorem left_of_activations {loop : MessageLoop μ} {batch : List (Numbered μ)}
    {outer : List (List (Numbered μ))} (calls : loop.activations = batch :: outer) :
    loop.left = outer.reverse.flatten ++ (batch ++ loop.queue.queue) := by
  simp [left, calls]

/-- The numbers that are given to messages are their places. -/
theorem lt_of_mem_zipIdx {posted : List μ} {entry : Numbered μ} (member : entry ∈ posted.zipIdx) :
    entry.2 < posted.length := by
  have found := List.mem_zipIdx_iff_getElem?.mp member
  -- There is a message at the place that the number says.
  exact (List.getElem?_eq_some_iff.mp found).1

namespace Accounted

variable {loop : MessageLoop μ}

/-- A message that is left has been posted. -/
theorem posted_of_left (accounted : loop.Accounted) {entry : Numbered μ}
    (member : entry ∈ loop.left) : entry ∈ loop.posted.zipIdx :=
  accounted.all.mem_iff.mp (List.mem_append_right _ member)

/-- New messages are left, and have larger numbers than all the others. -/
theorem post (accounted : loop.Accounted) (list : List μ) : (loop.post list).Accounted := by
  refine ⟨?_, ?_⟩
  · rw [left_post, ← List.append_assoc]
    show List.Perm _ (loop.posted ++ list).zipIdx
    rw [List.zipIdx_append, Nat.zero_add]
    exact accounted.all.append_right _
  · rw [left_post, List.map_append, List.zipIdx_map_snd]
    refine List.pairwise_append.mpr ⟨accounted.ordered, List.pairwise_lt_range', ?_⟩
    intro earlier left later new
    obtain ⟨entry, member, rfl⟩ := List.mem_map.mp left
    -- The numbers go on where the list of all messages ends.
    have before := lt_of_mem_zipIdx (accounted.posted_of_left member)
    have after := (List.mem_range'_1.mp new).1
    omega

/-- The message that is processed is the first one that its call has left. -/
theorem processMessage (accounted : loop.Accounted) {message : Numbered μ}
    {rest : List (Numbered μ)} {outer : List (List (Numbered μ))}
    (more : loop.activations = (message :: rest) :: outer) :
    Accounted { loop with
      activations := rest :: outer
      processed := loop.processed ++ [message] } := by
  obtain ⟨all, ordered⟩ := accounted
  have now : left { loop with
      activations := rest :: outer
      processed := loop.processed ++ [message] } =
        outer.reverse.flatten ++ (rest ++ loop.queue.queue) := left_of_activations rfl
  rw [left_of_activations more] at all ordered
  refine ⟨?_, ?_⟩
  · -- The message moves from the middle of what is left to the end of what was processed.
    have moved : (message :: (outer.reverse.flatten ++ (rest ++ loop.queue.queue))).Perm
        (outer.reverse.flatten ++ (message :: rest ++ loop.queue.queue)) := List.perm_middle.symm
    rw [now, List.append_assoc]
    exact (moved.append_left _).trans all
  · rw [now]
    refine ordered.sublist (List.Sublist.map _ (List.Sublist.append_left ?_ _))
    exact List.sublist_cons_self ..

/-- No step loses a message or takes one out of its order. -/
theorem step {after : MessageLoop μ} (accounted : loop.Accounted) (step : Step loop after) :
    after.Accounted := by
  -- Only posting adds a message, and only processing takes one away.
  cases step with
  | post list => exact accounted.post list
  | processMessages =>
    refine ⟨?_, ?_⟩
    · rw [left_processMessages]
      exact accounted.all
    · rw [left_processMessages]
      exact accounted.ordered
  | processMessage more => exact accounted.processMessage more
  | returns done =>
    rename_i outer
    have same : left { loop with activations := outer } = loop.left := by simp [left, done]
    refine ⟨?_, ?_⟩
    · rw [same]
      exact accounted.all
    · rw [same]
      exact accounted.ordered

/-- No two messages that were processed have the same number. -/
theorem nodup_processed (accounted : loop.Accounted) : (loop.processed.map Prod.snd).Nodup := by
  have numbers := accounted.all.map Prod.snd
  -- All numbers together are those from zero on, each of them once.
  rw [List.zipIdx_map_snd, List.map_append] at numbers
  exact (List.nodup_append.mp (numbers.nodup_iff.mpr List.nodup_range')).1

/-- What was posted before a message was processed before it, or is left to an outer call. -/
theorem earlier (accounted : loop.Accounted) {message : Numbered μ} {rest : List (Numbered μ)}
    {outer : List (List (Numbered μ))} (next : loop.activations = (message :: rest) :: outer)
    {other : Numbered μ} (posted : other ∈ loop.posted.zipIdx) (before : other.2 < message.2) :
    other ∈ loop.processed ∨ ∃ batch ∈ outer, other ∈ batch := by
  have ordered := accounted.ordered
  rw [left_of_activations next, List.map_append] at ordered
  -- A message that was not processed is left to an outer call, to this one, or to the queue.
  rcases List.mem_append.mp (accounted.all.mem_iff.mpr posted) with processed | member
  · exact .inl processed
  · rw [left_of_activations next] at member
    rcases List.mem_append.mp member with enclosing | member
    · obtain ⟨batch, call, member⟩ := List.mem_flatten.mp enclosing
      exact .inr ⟨batch, List.mem_reverse.mp call, member⟩
    · -- The others that are left come after the message.
      have sorted := (List.pairwise_append.mp ordered).2.1
      rcases List.mem_cons.mp member with rfl | member
      · omega
      · have later := (List.pairwise_cons.mp sorted).1 other.2 (List.mem_map_of_mem member)
        omega

end Accounted

/-- Since a call was made, messages were added, and only those are in the queue. -/
structure Since (before loop : MessageLoop μ) : Prop where
  added : before.posted <+: loop.posted
  queued : ∀ entry ∈ loop.queue.queue, before.posted.length ≤ entry.2

/-- No step takes a message back, or puts one back into the queue. -/
theorem Since.step {before loop after : MessageLoop μ} (since : Since before loop)
    (step : Step loop after) : Since before after := by
  -- Messages are only appended, and get places behind those that exist.
  obtain ⟨added, queued⟩ := since
  cases step with
  | post list =>
    refine ⟨added.trans (List.prefix_append ..), fun entry member => ?_⟩
    rcases List.mem_append.mp member with old | new
    · exact queued entry old
    · have larger := (List.mem_zipIdx new).1
      have longer := added.length_le
      omega
  | processMessages => exact ⟨added, fun entry member => absurd member List.not_mem_nil⟩
  | processMessage more => exact ⟨added, queued⟩
  | returns done => exact ⟨added, queued⟩

/--
When a call of `processMessages` and all calls around it have returned, each message that was
posted before it has been processed exactly once.

Whenever a message is processed, those posted before it were processed, or are left to outer calls.
-/
theorem processed_once {before after : MessageLoop μ}
    (steps : Relation.ReflTransGen Step started before)
    (later : Relation.ReflTransGen Step before.processMessages after) :
    (after.activations = [] → ∀ entry ∈ before.posted.zipIdx, entry ∈ after.processed) ∧
    (after.processed.map Prod.snd).Nodup ∧
    (∀ entry ∈ after.processed, entry ∈ after.posted.zipIdx) ∧
    (∀ message rest outer, after.activations = (message :: rest) :: outer →
      ∀ other ∈ after.posted.zipIdx, other.2 < message.2 →
        other ∈ after.processed ∨ ∃ batch ∈ outer, other ∈ batch) := by
  -- One invariant is carried from the start, and the other one from the call on.
  have reached : Relation.ReflTransGen Step started after :=
    (steps.tail (.processMessages before)).trans later
  have accounted : after.Accounted :=
    EventMachine.steps_invariant reached ⟨.refl _, .nil⟩ fun _ _ step held => held.step step
  have since : Since before after :=
    EventMachine.steps_invariant later ⟨List.prefix_rfl, fun _ none => absurd none List.not_mem_nil⟩
      fun _ _ step held => held.step step
  refine ⟨fun returned entry posted => ?_, accounted.nodup_processed, fun entry member => ?_,
    fun message rest outer next other => accounted.earlier next⟩
  · obtain ⟨list, extended⟩ := since.added
    have known : entry ∈ after.posted.zipIdx := by
      rw [← extended, List.zipIdx_append]
      exact List.mem_append_left _ posted
    rcases List.mem_append.mp (accounted.all.mem_iff.mpr known) with processed | waiting
    · exact processed
    · -- Nothing is left but what was posted after the call.
      rw [left, returned] at waiting
      have late := since.queued entry waiting
      have early := lt_of_mem_zipIdx posted
      omega
  · exact accounted.all.mem_iff.mp (List.mem_append_left _ member)

/-- Two messages are posted, and the handler of the first one posts another and processes it. -/
def overtaken : MessageLoop Nat := ⟨⟨[]⟩, [], [10, 20, 30], [(10, 0), (30, 2), (20, 1)]⟩

/-- The run in which a message is overtaken. -/
theorem steps_overtaken :
    let before : MessageLoop Nat := started.post [10, 20]
    Relation.ReflTransGen Step started before ∧
      Relation.ReflTransGen Step before.processMessages overtaken := by
  intro before
  refine ⟨.single (.post started [10, 20]), ?_⟩
  refine .head (.processMessage _ rfl) (.head (.post _ [30]) (.head (.processMessages _) ?_))
  refine .head (.processMessage _ rfl) (.head (.returns _ rfl) ?_)
  exact .head (.processMessage _ rfl) (.single (.returns _ rfl))

/-- The order of processing need not be the order of posting. -/
theorem not_in_order :
    ¬ ∀ before after : MessageLoop Nat, Relation.ReflTransGen Step started before →
      Relation.ReflTransGen Step before.processMessages after → after.activations = [] →
        after.processed.map Prod.fst <+: after.posted := by
  intro always
  have ordered := always _ _ steps_overtaken.1 steps_overtaken.2 rfl
  exact absurd ordered (by decide)

/-- In that run every message is processed once all the same. -/
theorem processed_once_overtaken :
    let before : MessageLoop Nat := started.post [10, 20]
    before.posted.zipIdx.all (· ∈ overtaken.processed) = true := by
  intro before
  refine List.all_eq_true.mpr fun entry posted => decide_eq_true ?_
  exact (processed_once steps_overtaken.1 steps_overtaken.2).1 rfl entry posted

end MessageLoop

end Threader
