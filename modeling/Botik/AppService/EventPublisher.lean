import Botik.Library.Dict
import Botik.Library.Runs
import Botik.Library.SlidingWindow

/-!
# The event publisher

`EventPublisher` hands every published event to the subscribers. It keeps the last events in
`_recent`, and one queue for every subscriber. `subscribe` is an asynchronous generator: it runs
from a pull to the next `yield`, or to `queue.get` on an empty queue, where it waits.

A step is what runs between two points at which a coroutine can be suspended. Putting an event into
the queues is none: they are unbounded, so `_publish` runs through. In which order it goes through
the set of the queues cannot be told.

## Main definitions

* `Subscription` — where a generator is
* `EventPublisher`, with `publish`, `subscribe`, `pull`, `resume`, `cancel`, `close`, `stop`
* `EventPublisher.step` — a step, with the event that a pull is answered by
-/

namespace Botik.AppService

open RecentEntries

/-- Where a generator of `subscribe` is. -/
inductive Subscription (α : Type*)
  /-- Not started; its first pull starts it. -/
  | created
  /-- At a `yield`, with what is left of its copy of `_recent`. -/
  | yielded (rest : List α)
  /-- In `queue.get`; a pull waits for it. -/
  | getting
  /-- Returned, or left with an exception. -/
  | ended
  deriving DecidableEq, Repr

/-- The publisher, and the generators it has handed out. -/
structure EventPublisher (ι α : Type*) where
  recent : BoundedDeque α
  /-- `_subscribers`, with what is in each queue. -/
  subscribers : Dict ι (List α)
  stopped : Bool
  subscriptions : Dict ι (Subscription α)

namespace EventPublisher

variable {ι α : Type*}

/-- A new publisher. -/
def start (bufferSize : ℕ) : EventPublisher ι α := ⟨.empty bufferSize, .empty, false, .empty⟩

/-- `_publish`. -/
def publish (payload : α) (s : EventPublisher ι α) : EventPublisher ι α :=
  { s with
    recent := s.recent.append payload
    subscribers := s.subscribers.mapValues fun queue => queue ++ [payload] }

/-- `stop`. -/
def stop (s : EventPublisher ι α) : EventPublisher ι α := { s with stopped := true }

variable [DecidableEq ι]

/-- A generator at a `yield` or in `queue.get`. -/
def suspend (i : ι) (subscription : Subscription α) (s : EventPublisher ι α) :
    EventPublisher ι α :=
  { s with subscriptions := s.subscriptions.set i subscription }

/-- The `finally` block, and the end of the generator. -/
def finish (i : ι) (s : EventPublisher ι α) : EventPublisher ι α :=
  suspend i .ended { s with subscribers := s.subscribers.erase i }

/-- `subscribe`, which only makes a generator. -/
def subscribe (i : ι) (s : EventPublisher ι α) : EventPublisher ι α :=
  { s with subscriptions := s.subscriptions.insertIfAbsent i .created }

/-- An event is taken from the queue and yielded. -/
def yieldNext (i : ι) (payload : α) (queue : List α) (s : EventPublisher ι α) :
    Option α × EventPublisher ι α :=
  (some payload, suspend i (.yielded []) { s with subscribers := s.subscribers.set i queue })

/-- The loop of `subscribe` from its test on. -/
def follow (i : ι) (s : EventPublisher ι α) : Option α × EventPublisher ι α :=
  if s.stopped then (none, finish i s)
  else
    match s.subscribers.get? i with
    | some (payload :: queue) => yieldNext i payload queue s
    | some [] | none => (none, suspend i .getting s)

/-- The loop over the copy of `_recent`, with what is left of it. -/
def replay (i : ι) : List α → EventPublisher ι α → Option α × EventPublisher ι α
  | payload :: rest, s => (some payload, suspend i (.yielded rest) s)
  | [], s => follow i s

/-- A pull. Where another pull waits it raises, and where the generator has ended it says so. -/
def pull (i : ι) (s : EventPublisher ι α) : Option α × EventPublisher ι α :=
  match s.subscriptions.get? i with
  | some .created =>
    replay i s.recent.items { s with subscribers := s.subscribers.set i [] }
  | some (.yielded rest) => replay i rest s
  | some .getting | some .ended | none => (none, s)

/-- The event loop gets to a pull that waits for an event that has come. -/
def resume (i : ι) (s : EventPublisher ι α) : Option α × EventPublisher ι α :=
  match s.subscriptions.get? i, s.subscribers.get? i with
  | some .getting, some (payload :: queue) => yieldNext i payload queue s
  | _, _ => (none, s)

/-- A waiting pull is cancelled, which raises in `queue.get`. -/
def cancel (i : ι) (s : EventPublisher ι α) : EventPublisher ι α :=
  match s.subscriptions.get? i with
  | some .getting => finish i s
  | some .created | some (.yielded _) | some .ended | none => s

/-- `aclose`, which raises at the `yield`, and in `queue.get` is refused. -/
def close (i : ι) (s : EventPublisher ι α) : EventPublisher ι α :=
  match s.subscriptions.get? i with
  | some .created => suspend i .ended s
  | some (.yielded _) => finish i s
  | some .getting | some .ended | none => s

end EventPublisher

/-- What can happen to a publisher and its subscribers. -/
inductive PublisherStep (ι α : Type*)
  | publish (payload : α)
  | subscribe (i : ι)
  | pull (i : ι)
  | resume (i : ι)
  | cancel (i : ι)
  | close (i : ι)
  | stop
  deriving DecidableEq, Repr

namespace EventPublisher

variable {ι α : Type*} [DecidableEq ι]

/-- A step, with the event that a pull is answered by. -/
def step : PublisherStep ι α → EventPublisher ι α → Option α × EventPublisher ι α
  | .publish payload, s => (none, publish payload s)
  | .subscribe i, s => (none, subscribe i s)
  | .pull i, s => pull i s
  | .resume i, s => resume i s
  | .cancel i, s => (none, cancel i s)
  | .close i, s => (none, close i s)
  | .stop, s => (none, stop s)

end EventPublisher

end Botik.AppService
