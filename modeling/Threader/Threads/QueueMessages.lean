import Threader.Base.EventMachine

/-! `QueueMessages`: a queue behind a mutex that a call must not lock twice. -/

namespace Threader

/-- `QueueMessages`: the messages between their senders and the thread. -/
structure QueueMessages (μ : Type) where
  queue : List μ

namespace QueueMessages

variable {μ : Type}

/-- `enqueue(list)`, which appends one message as a list of its own. -/
def enqueue (messages : QueueMessages μ) (list : List μ) : QueueMessages μ :=
  ⟨messages.queue ++ list⟩

/-- `dequeueAll()`. -/
def dequeueAll (messages : QueueMessages μ) : List μ × QueueMessages μ := (messages.queue, ⟨[]⟩)

end QueueMessages

/-- The whole class: the messages and `_mutex`, which is not recursive. -/
structure GuardedQueue (μ : Type) where
  messages : QueueMessages μ
  isLocked : Bool

/-- `QList::mid(pos, length)`, from a position within the list or its end. -/
def QList.mid {μ : Type} (list : List μ) (pos length : Int) : List μ :=
  if length < 0 then list.drop pos.toNat else (list.drop pos.toNat).take length.toNat

namespace GuardedQueue

variable {μ : Type}

/-- A queue that nothing was posted to. -/
def empty : GuardedQueue μ := ⟨⟨[]⟩, false⟩

/--
`QMutexLocker locker(_mutex)` around the rest of a function.

`none` is a call that never returns: it waits for a mutex that nobody is going to unlock.
-/
def withLocker {β : Type} (queue : GuardedQueue μ)
    (body : GuardedQueue μ → Option (β × GuardedQueue μ)) : Option (β × GuardedQueue μ) :=
  if queue.isLocked then none
  else (body { queue with isLocked := true }).map fun (result, queue) =>
    (result, { queue with isLocked := false })

/-- `enqueue(message)`. -/
def enqueue (queue : GuardedQueue μ) (message : μ) : Option (Nat × GuardedQueue μ) :=
  queue.withLocker fun queue =>
    let messages := queue.messages.enqueue [message]
    some (messages.queue.length, { queue with messages })

/-- `enqueue(list)`. -/
def enqueueList (queue : GuardedQueue μ) (list : List μ) : Option (Nat × GuardedQueue μ) :=
  queue.withLocker fun queue =>
    let messages := queue.messages.enqueue list
    some (messages.queue.length, { queue with messages })

/-- `dequeue()`, which returns a null pointer when there is no message. -/
def dequeue (queue : GuardedQueue μ) : Option (Option μ × GuardedQueue μ) :=
  queue.withLocker fun queue =>
    match queue.messages.queue with
    | message :: rest => some (some message, { queue with messages := ⟨rest⟩ })
    | [] => some (none, queue)

/-- `dequeueAll()`. -/
def dequeueAll (queue : GuardedQueue μ) : Option (List μ × GuardedQueue μ) :=
  queue.withLocker fun queue =>
    let (result, messages) := queue.messages.dequeueAll
    some (result, { queue with messages })

/-- `dequeue(count)`, which calls `dequeueAll` in the scope of its own locker. -/
def dequeueCount (queue : GuardedQueue μ) (count : Int) : Option (List μ × GuardedQueue μ) :=
  queue.withLocker fun queue =>
    let list := queue.messages.queue
    if 0 ≤ count ∨ list.length > count then queue.dequeueAll
    else
      let result := QList.mid list 0 count
      let tail := QList.mid list count (list.length - count)
      some (result, { queue with messages := ⟨tail⟩ })

/-- No call of `dequeue(count)` returns: every number is at least zero or less than a length. -/
theorem dequeueCount_eq_none (queue : GuardedQueue μ) (count : Int) :
    queue.dequeueCount count = none := by
  unfold dequeueCount withLocker
  split
  · rfl
  · have delegates : 0 ≤ count ∨ (queue.messages.queue.length : Int) > count := by omega
    show Option.map _ (if _ then _ else _) = none
    rw [if_pos delegates]
    -- The mutex is locked by the call itself.
    rfl

/-- The calls of the class that change the messages. -/
inductive Call (μ : Type)
  | enqueue (message : μ)
  | enqueueList (list : List μ)
  | dequeue
  | dequeueCount (count : Int)
  | dequeueAll
deriving DecidableEq

namespace Call

/-- The messages that a call brings. -/
def posted : Call μ → List μ
  | .enqueue message => [message]
  | .enqueueList list => list
  | .dequeue | .dequeueCount _ | .dequeueAll => []

/-- The messages that a call returns, and the queue that it leaves, if it does return. -/
def perform : Call μ → GuardedQueue μ → Option (List μ × GuardedQueue μ)
  | .enqueue message, queue => (queue.enqueue message).map fun (_, queue) => ([], queue)
  | .enqueueList list, queue => (queue.enqueueList list).map fun (_, queue) => ([], queue)
  | .dequeue, queue => queue.dequeue.map fun (message, queue) => (message.toList, queue)
  | .dequeueCount count, queue => queue.dequeueCount count
  | .dequeueAll, queue => queue.dequeueAll

end Call

/-- A queue, and everything that was put into it and taken out of it. -/
structure History (μ : Type) where
  queue : GuardedQueue μ
  enqueued : List μ
  dequeued : List μ

/--
What the calls of all threads do, in the order in which they lock the mutex.

A call that never returns keeps the mutex.
-/
def History.call (history : History μ) (call : Call μ) : History μ :=
  match call.perform history.queue with
  | some (messages, queue) =>
    ⟨queue, history.enqueued ++ call.posted, history.dequeued ++ messages⟩
  | none => { history with queue := { history.queue with isLocked := true } }

/-- What is expected of a call: it returns, the right number of messages, and the oldest ones. -/
def History.Serves (history : History μ) (call : Call μ) : Prop :=
  ∃ messages queue, call.perform history.queue = some (messages, queue) ∧
    (∀ count, call = .dequeueCount count →
      (messages.length : Int) = min count history.queue.messages.queue.length) ∧
    (history.dequeued ++ messages) ++ queue.messages.queue = history.enqueued ++ call.posted

/-- No call holds the mutex, and no message was lost, doubled or overtaken. -/
structure History.Ordered (history : History μ) : Prop where
  unlocked : history.queue.isLocked = false
  conserved : history.dequeued ++ history.queue.messages.queue = history.enqueued

/-- The other calls return at once, with messages from the front, or put theirs at the back. -/
theorem perform_unlocked {queue : GuardedQueue μ} (unlocked : queue.isLocked = false)
    {call : Call μ} (other : ∀ count, call ≠ .dequeueCount count) :
    ∃ messages rest, call.perform queue = some (messages, ⟨⟨rest⟩, false⟩) ∧
      messages ++ rest = queue.messages.queue ++ call.posted := by
  obtain ⟨⟨list⟩, isLocked⟩ := queue
  obtain rfl : isLocked = false := unlocked
  cases call with
  -- Each call is seen through to its end; taking a number of messages is excluded.
  | enqueue message => exact ⟨[], list ++ [message], rfl, rfl⟩
  | enqueueList others => exact ⟨[], list ++ others, rfl, rfl⟩
  | dequeue =>
    cases list with
    | nil => exact ⟨[], [], rfl, rfl⟩
    | cons message rest => exact ⟨[message], rest, rfl, (List.append_nil _).symm⟩
  | dequeueCount count => exact absurd rfl (other count)
  | dequeueAll => exact ⟨list, [], rfl, rfl⟩

/-- In an ordered history a call is served exactly when it is another one than `dequeue(count)`. -/
theorem History.Ordered.serves_call_iff {history : History μ} (ordered : history.Ordered)
    (call : Call μ) : history.Serves call ↔ ∀ count, call ≠ .dequeueCount count := by
  constructor
  · rintro ⟨messages, queue, returns, _⟩ count rfl
    -- That call waits for the mutex that it has locked itself.
    rw [Call.perform, dequeueCount_eq_none] at returns
    cases returns
  · intro other
    obtain ⟨messages, rest, returns, same⟩ := perform_unlocked ordered.unlocked other
    refine ⟨messages, _, returns, fun count is => absurd is (other count), ?_⟩
    -- What is taken out comes from the front, and what is put in goes to the back.
    show (history.dequeued ++ messages) ++ rest = history.enqueued ++ call.posted
    rw [List.append_assoc, same, ← List.append_assoc, ordered.conserved]

/-- A call that is served leaves an ordered history behind. -/
theorem History.Ordered.call {history : History μ} (ordered : history.Ordered) {call : Call μ}
    (serves : history.Serves call) : (history.call call).Ordered := by
  obtain ⟨taken, rest, left, _⟩ :=
    perform_unlocked ordered.unlocked ((ordered.serves_call_iff call).mp serves)
  obtain ⟨messages, queue, returns, _, conserved⟩ := serves
  -- The call has one result only.
  obtain ⟨rfl, rfl⟩ := Prod.mk.inj (Option.some.inj (left.symm.trans returns))
  rw [History.call, returns]
  exact ⟨rfl, conserved⟩

/-- A history that begins with an empty queue. -/
def History.begin : History μ := ⟨empty, [], []⟩

/--
All calls of a run are served exactly when none of them is a `dequeue(count)`.

A call is served when it returns, with as many messages as it should, and what was taken out so
far followed by what is left is everything that was put in, in its order.
-/
theorem serves_iff (calls : List (Call μ)) :
    EventMachine.Along History.call History.Serves .begin calls ↔
      ∀ count, .dequeueCount count ∉ calls := by
  have initially : (History.begin : History μ).Ordered := ⟨rfl, rfl⟩
  have agree : ∀ history : History μ, ∀ call, True → history.Ordered →
      (history.Serves call ↔ ∀ count, call ≠ .dequeueCount count) :=
    fun _ call _ ordered => ordered.serves_call_iff call
  have preserved : ∀ history : History μ, ∀ call, True → history.Ordered → history.Serves call →
      (history.call call).Ordered := fun _ _ _ ordered serves => ordered.call serves
  have anything : EventMachine.Along History.call (fun _ _ => True) .begin calls :=
    (EventMachine.along_iff_forall _).mpr fun _ _ => trivial
  -- Whether a call is served depends on the call alone, once the history is ordered.
  rw [EventMachine.along_iff_of_along History.call agree preserved initially anything,
    EventMachine.along_iff_forall]
  constructor
  · intro others count member
    exact others _ member count rfl
  · rintro absent call member count rfl
    exact absent count member

/-- Taking two of three messages waits for the mutex that the same call has locked. -/
theorem not_serves_dequeueCount :
    ¬ EventMachine.Along History.call History.Serves .begin
      [.enqueueList [1, 2, 3], .dequeueCount 2] := by
  rintro ⟨_, ⟨messages, queue, returns, _⟩, _⟩
  cases returns

end GuardedQueue

end Threader
