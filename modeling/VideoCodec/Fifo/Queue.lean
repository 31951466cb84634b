import VideoCodec.Transition.Run

/-! Bounded first-in first-out queues with an overflow policy: what such a
component is for, independent of any array. A ledger keeps every element that
left together with the reason, so conservation can be stated of whole runs. -/
namespace Fifo

open Transition

variable {α : Type*}

/-- What a producer meets at a full queue. -/
inductive Overflow where
  | wait
  | evict
  | refuse
  deriving DecidableEq, Repr

inductive Fate where
  | taken
  | evicted
  deriving DecidableEq, Repr

structure Queue (α : Type*) where
  limit : Nat
  overflow : Overflow
  items : List α
  closed : Bool
  gone : List (Fate × α)
  limit_pos : 0 < limit
  within : items.length ≤ limit

/-- Observable operations with their results. -/
inductive Event (α : Type*) where
  | offer (a : α) (admitted : Bool)
  | displace (a oldest : α)
  | take (a : α)
  | vacant
  | ended
  | close

namespace Queue

def empty (limit : Nat) (overflow : Overflow) (limit_pos : 0 < limit) : Queue α :=
  ⟨limit, overflow, [], false, [], limit_pos, Nat.zero_le _⟩

def append (q : Queue α) (a : α) (room : q.items.length < q.limit) : Queue α :=
  { q with
    items := q.items ++ [a]
    within := by
      simp only [List.length_append, List.length_singleton]
      omega }

def dropOldest (q : Queue α) (fate : Fate) : Queue α :=
  { q with
    items := q.items.tail
    gone := q.gone ++ (q.items.head?.map (fate, ·)).toList
    within := by have := q.within; simp only [List.length_tail]; omega }

def close (q : Queue α) : Queue α := { q with closed := true }

/-- Everything ever admitted, in order: first what left, then what is left. -/
def ledger (q : Queue α) : List α := q.gone.map Prod.snd ++ q.items

def takenItems (q : Queue α) : List α := (q.gone.filter (·.1 = .taken)).map Prod.snd

def evictedItems (q : Queue α) : List α := (q.gone.filter (·.1 = .evicted)).map Prod.snd

/-- The ledger with its fates, what is left being bound to be taken. -/
def marks (q : Queue α) : List (Fate × α) := q.gone ++ q.items.map (.taken, ·)

theorem dropOldest_room (q : Queue α) (fate : Fate) :
    (q.dropOldest fate).items.length < (q.dropOldest fate).limit := by
  have := q.within
  have := q.limit_pos
  simp only [dropOldest, List.length_tail]
  omega

theorem ledger_append (q : Queue α) (a : α) (room) :
    (q.append a room).ledger = q.ledger ++ [a] := by
  simp only [ledger, append, List.append_assoc]

theorem ledger_dropOldest (q : Queue α) (fate : Fate) : (q.dropOldest fate).ledger = q.ledger := by
  cases items : q.items <;> simp [ledger, dropOldest, items]

end Queue

open Queue

inductive Step : Queue α → Event α → Queue α → Prop where
  | accept (q a) (opened : q.closed = false) (room : q.items.length < q.limit) :
      Step q (.offer a true) (q.append a room)
  | evict (q a oldest) (opened : q.closed = false) (full : q.items.length = q.limit)
      (policy : q.overflow = .evict) (first : q.items.head? = some oldest) :
      Step q (.displace a oldest) ((q.dropOldest .evicted).append a (q.dropOldest_room .evicted))
  | refuse (q a) (opened : q.closed = false) (full : q.items.length = q.limit)
      (policy : q.overflow = .refuse) : Step q (.offer a false) q
  | late (q a) (ended : q.closed = true) : Step q (.offer a false) q
  | take (q a) (oldest : q.items.head? = some a) : Step q (.take a) (q.dropOldest .taken)
  | vacant (q) (opened : q.closed = false) (empty : q.items = []) : Step q .vacant q
  | ended (q) (ended : q.closed = true) (empty : q.items = []) : Step q .ended q
  | close (q) : Step q .close q.close

def Event.admitted : Event α → List α
  | .offer a true | .displace a _ => [a]
  | _ => []

def Event.displaced : Event α → List α
  | .displace _ oldest => [oldest]
  | _ => []

def Event.taken : Event α → List α
  | .take a => [a]
  | _ => []

def admitted (es : List (Event α)) : List α := es.flatMap Event.admitted

def taken (es : List (Event α)) : List α := es.flatMap Event.taken

def displaced (es : List (Event α)) : List α := es.flatMap Event.displaced

section Step
variable {q q' : Queue α} {e : Event α} {es : List (Event α)}

theorem Step.overflow_eq (step : Step q e q') : q'.overflow = q.overflow := by cases step <;> rfl

theorem Step.ledger_eq (step : Step q e q') : q'.ledger = q.ledger ++ e.admitted := by
  cases step <;> simp [Event.admitted, ledger_append, ledger_dropOldest]
  rfl

theorem Step.taken_eq (step : Step q e q') : q'.takenItems = q.takenItems ++ e.taken := by
  cases step with
  | take a oldest => simp [takenItems, dropOldest, Event.taken, oldest]
  | evict a oldest opened full policy first =>
    simp [takenItems, Queue.append, dropOldest, Event.taken, first]
  | _ => simp [takenItems, Queue.append, Queue.close, Event.taken]

theorem Step.evicted_eq (step : Step q e q') : q'.evictedItems = q.evictedItems ++ e.displaced := by
  cases step with
  | take a oldest => simp [evictedItems, dropOldest, Event.displaced, oldest]
  | evict a oldest opened full policy first =>
    simp [evictedItems, Queue.append, dropOldest, Event.displaced, first]
  | _ => simp [evictedItems, Queue.append, Queue.close, Event.displaced]

theorem Step.displaced_nil (step : Step q e q') (keeps : q.overflow ≠ .evict) :
    e.displaced = [] := by
  cases step with
  | evict a oldest opened full policy first => exact absurd policy keeps
  | _ => rfl

/-- No element is created, duplicated, lost or reordered by any run. -/
theorem run_ledger (run : Run Step q es q') : q'.ledger = q.ledger ++ admitted es := by
  induction run with
  | refl => simp [admitted]
  | next head tail ih =>
    rw [ih, head.ledger_eq, List.append_assoc]
    rfl

theorem run_taken (run : Run Step q es q') : q'.takenItems = q.takenItems ++ taken es := by
  induction run with
  | refl => simp [taken]
  | next head tail ih =>
    rw [ih, head.taken_eq, List.append_assoc]
    rfl

theorem run_evicted (run : Run Step q es q') :
    q'.evictedItems = q.evictedItems ++ displaced es := by
  induction run with
  | refl => simp [displaced]
  | next head tail ih =>
    rw [ih, head.evicted_eq, List.append_assoc]
    rfl

theorem run_displaced_nil (run : Run Step q es q') (keeps : q.overflow ≠ .evict) :
    displaced es = [] := by
  induction run with
  | refl => rfl
  | next head tail ih =>
    rw [displaced, List.flatMap_cons, head.displaced_nil keeps, List.nil_append]
    exact ih (head.overflow_eq ▸ keeps)

theorem taken_of_evicted_nil (kept : q.evictedItems = []) :
    q.gone.map Prod.snd = q.takenItems := by
  have all : ∀ entry ∈ q.gone, entry.1 = .taken := by
    intro entry member
    have absent := List.filter_eq_nil_iff.mp (List.map_eq_nil_iff.mp kept) entry member
    cases fate : entry.1 <;> simp_all
  rw [takenItems, List.filter_eq_self.mpr (by simpa using all)]

section Empty
variable {limit : Nat} {overflow : Overflow} {limit_pos : 0 < limit}

/-- Every admitted element is accounted for once, in order. -/
theorem accounts (run : Run Step (Queue.empty limit overflow limit_pos) es q) :
    q.ledger = admitted es ∧ q.takenItems = taken es ∧ q.evictedItems = displaced es := by
  refine ⟨?_, ?_, ?_⟩
  · simpa [Queue.ledger, Queue.empty] using run_ledger run
  · simpa [takenItems, Queue.empty] using run_taken run
  · simpa [evictedItems, Queue.empty] using run_evicted run

/-- Unless the queue evicts, what was taken followed by what is left is all
that was admitted, in order. -/
theorem lossless (run : Run Step (Queue.empty limit overflow limit_pos) es q)
    (keeps : overflow ≠ .evict) : taken es ++ q.items = admitted es := by
  obtain ⟨ledger, taken, evicted⟩ := accounts run
  rw [← ledger, ← taken, Queue.ledger, taken_of_evicted_nil]
  rw [evicted, run_displaced_nil run keeps]

end Empty
end Step
end Fifo
