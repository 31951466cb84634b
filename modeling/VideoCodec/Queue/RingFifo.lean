import VideoCodec.Fifo.Queue
import VideoCodec.Queue.Ring

/-! The ring refines a bounded FIFO queue. A step is a critical section that
ends a call, so a `kBlock` push on a full ring takes effect only when it is
woken with room or at end of stream, and a pop may end by its deadline. -/
namespace VideoCodec

open Transition

def Backpressure.overflow : Backpressure → Fifo.Overflow
  | .kBlock => .wait
  | .kLatest => .evict
  | .kError => .refuse

namespace Ring
variable {Pkt : Type}

/-- Calls with their arguments and results. A push also records the packet it
displaced, the oldest unconsumed one of a full `kLatest` ring. -/
inductive Event (Pkt : Type) where
  | push (pkt : Pkt) (accepted : Bool) (displaced : Option Pkt)
  | pop (deadlineUs : Int) (status : Status) (out : Option Pkt)
  | markEos

def displaced [Inhabited Pkt] (r : Ring Pkt) : Option Pkt :=
  if !r.eos && r.count = r.capacity.size && r.policy = .kLatest then r.contents.head? else none

inductive Step [Inhabited Pkt] : Ring Pkt → Event Pkt → Ring Pkt → Prop where
  | pushEnter (entered : r.pushEnter pkt = some (accepted, r')) :
      Step r (.push pkt accepted r.displaced) r'
  | pushResume (blocked : r.policy = .kBlock) (resumed : r.pushResume pkt = some (accepted, r')) :
      Step r (.push pkt accepted none) r'
  | popEnter (entered : r.popEnter deadlineUs = some ⟨status, out, r'⟩) :
      Step r (.pop deadlineUs status out) r'
  | popResume (waited : 0 < deadlineUs) (resumed : r.popResume = some ⟨status, out, r'⟩) :
      Step r (.pop deadlineUs status out) r'
  | popExpire (waited : 0 < deadlineUs) (expired : r.popExpire = ⟨status, out, r'⟩) :
      Step r (.pop deadlineUs status out) r'
  | markEos : Step r .markEos r.markEos

/-- The packets whose push returned true, in order. -/
def accepted (events : List (Event Pkt)) : List Pkt :=
  events.flatMap fun
    | .push pkt true _ => [pkt]
    | _ => []

/-- The packets pops returned, in order. -/
def popped (events : List (Event Pkt)) : List Pkt :=
  events.flatMap fun
    | .pop _ .kOk (some pkt) => [pkt]
    | _ => []

/-- The packets that were the oldest unconsumed one when a push met a full
`kLatest` ring, in order. -/
def evicted (events : List (Event Pkt)) : List Pkt :=
  events.flatMap fun
    | .push _ true (some oldest) => [oldest]
    | _ => []

variable [Inhabited Pkt]

structure Represents (r : Ring Pkt) (q : Fifo.Queue Pkt) : Prop where
  valid : r.Valid
  items : q.items = r.contents
  closed : q.closed = r.eos
  limit : q.limit = r.capacity.size
  overflow : q.overflow = r.policy.overflow

variable {r r' : Ring Pkt} {q : Fifo.Queue Pkt} {pkt : Pkt} {events : List (Event Pkt)}

theorem Represents.length (rep : r.Represents q) : q.items.length = r.count := by
  rw [rep.items, contents_length]

theorem Represents.store (rep : r.Represents q) (room : r.count < r.capacity.size)
    (roomy : q.items.length < q.limit) : (r.store pkt).Represents (q.append pkt roomy) :=
  ⟨store_valid rep.valid room, by rw [store_contents rep.valid room, ← rep.items]; rfl,
    rep.closed, rep.limit, rep.overflow⟩

theorem Represents.dropHead (rep : r.Represents q) (nonempty : 0 < r.count) (fate : Fifo.Fate) :
    r.dropHead.Represents (q.dropOldest fate) :=
  ⟨dropHead_valid rep.valid nonempty,
    by rw [(contents_head rep.valid nonempty).2, ← rep.items]; rfl,
    rep.closed, rep.limit, rep.overflow⟩

theorem Represents.markEos (rep : r.Represents q) : r.markEos.Represents q.close :=
  ⟨markEos_valid rep.valid, rep.items, rfl, rep.limit, rep.overflow⟩

theorem Step.pop_ends (step : Step r (.pop deadlineUs status out) r') :
    PopEnds r ⟨status, out, r'⟩ := by
  cases step with
  | popEnter entered => exact popEnter_ends entered
  | popResume waited resumed => exact popResume_ends resumed
  | popExpire waited expired => exact expired ▸ popSignaled_ends

theorem Step.push_ends {taken : Bool} {displaced : Option Pkt} (valid : r.Valid)
    (step : Step r (.push pkt taken displaced) r') : PushEnds r pkt taken r' := by
  cases step with
  | pushEnter entered => exact pushEnter_ends valid entered
  | pushResume blocked resumed => exact pushEnter_ends valid (pushResume_eq_pushEnter resumed)

end Ring
end VideoCodec
