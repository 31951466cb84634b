import VideoCodec.Core.Types
import VideoCodec.Fifo.Circular

/-! The ring buffer of `PacketQueue`, one critical section at a time. Indices
are natural numbers: with `capacity` at most `2 ^ 63` no sum here reaches the
range of `size_t`. The waits of `Push` and `Pop` split each call into the part
before the wait and the part after it; a section that has to wait says so. -/
namespace VideoCodec

/-- Back-pressure applied when the ring is full. -/
inductive Backpressure where
  | kBlock
  | kLatest
  | kError
  deriving DecidableEq, Repr

/-- A capacity that passes the assertion of the constructor. -/
structure Capacity where
  size : Nat
  asserted : 0 < size ∧ size &&& (size - 1) = 0

namespace Capacity

def mask (c : Capacity) : Nat := c.size - 1

theorem isPowerOfTwo (c : Capacity) : c.size.isPowerOfTwo :=
  Nat.ne_zero_and_sub_one_eq_zero_iff_isPowerOfTwo.mp ⟨c.asserted.1.ne', c.asserted.2⟩

theorem and_mask (c : Capacity) (index : Nat) : index &&& c.mask = index % c.size := by
  obtain ⟨k, size⟩ := c.isPowerOfTwo
  rw [mask, size, Nat.and_two_pow_sub_one_eq_mod]

end Capacity

structure Ring (Pkt : Type) where
  capacity : Capacity
  policy : Backpressure
  slots : List Pkt
  head : Nat
  tail : Nat
  count : Nat
  eos : Bool

namespace Ring
variable {Pkt : Type}

def new [Inhabited Pkt] (capacity : Capacity) (policy : Backpressure) : Ring Pkt :=
  { capacity, policy, slots := List.replicate capacity.size default, head := 0, tail := 0
    count := 0, eos := false }

/-- `slots_[tail_] = pkt; tail_ = (tail_ + 1) & mask_; ++count_` -/
def store (r : Ring Pkt) (pkt : Pkt) : Ring Pkt :=
  { r with
    slots := r.slots.set r.tail pkt
    tail := (r.tail + 1) &&& r.capacity.mask
    count := r.count + 1 }

/-- `slots_[head_] = Pkt{}; head_ = (head_ + 1) & mask_; --count_` -/
def dropHead [Inhabited Pkt] (r : Ring Pkt) : Ring Pkt :=
  { r with
    slots := r.slots.set r.head default
    head := (r.head + 1) &&& r.capacity.mask
    count := r.count - 1 }

/-- Predicate of the wait on `not_full_`. -/
def pushReady (r : Ring Pkt) : Bool := r.count < r.capacity.size || r.eos

/-- Predicate of the wait on `not_empty_`. -/
def popReady (r : Ring Pkt) : Bool := 0 < r.count || r.eos

/-- `Push` from its entry, `none` when it has to wait: at a full `kBlock` ring
the predicate is false when first evaluated. -/
def pushEnter [Inhabited Pkt] (r : Ring Pkt) (pkt : Pkt) : Option (Bool × Ring Pkt) :=
  if r.eos then some (false, r)
  else if r.count = r.capacity.size then
    match r.policy with
    | .kError => some (false, r)
    | .kLatest => some (true, r.dropHead.store pkt)
    | .kBlock => none
  else some (true, r.store pkt)

/-- `Push` from a wake-up on `not_full_`. -/
def pushResume (r : Ring Pkt) (pkt : Pkt) : Option (Bool × Ring Pkt) :=
  if r.pushReady then
    if r.eos then some (false, r) else some (true, r.store pkt)
  else none

/-- How a call of `Pop` ends; `out` is written on `kOk` only. -/
structure Popped (Pkt : Type) where
  status : Status
  out : Option Pkt
  ring : Ring Pkt

/-- The common end of `Pop`. -/
def popTake [Inhabited Pkt] (r : Ring Pkt) : Popped Pkt :=
  if r.count = 0 then ⟨.kEos, none, r⟩
  else ⟨.kOk, some (r.slots.getD r.head default), r.dropHead⟩

/-- `Pop` after `wait_for`, which reports the predicate's last value. -/
def popSignaled [Inhabited Pkt] (r : Ring Pkt) (signaled : Bool) : Popped Pkt :=
  if !signaled && r.count = 0 then ⟨.kEmpty, none, r⟩ else r.popTake

/-- `Pop` from its entry, `none` when it has to wait. -/
def popEnter [Inhabited Pkt] (r : Ring Pkt) (deadlineUs : Int) : Option (Popped Pkt) :=
  if 0 < deadlineUs then
    if r.popReady then some (r.popSignaled true) else none
  else if r.count = 0 then some ⟨if r.eos then .kEos else .kEmpty, none, r⟩
  else some r.popTake

/-- `Pop` from a wake-up on `not_empty_`. -/
def popResume [Inhabited Pkt] (r : Ring Pkt) : Option (Popped Pkt) :=
  if r.popReady then some (r.popSignaled true) else none

/-- `Pop` from the expiry of its deadline. -/
def popExpire [Inhabited Pkt] (r : Ring Pkt) : Popped Pkt := r.popSignaled r.popReady

def markEos (r : Ring Pkt) : Ring Pkt := { r with eos := true }

/-- The `count_` slots from `head_` in ring order. -/
def contents [Inhabited Pkt] (r : Ring Pkt) : List Pkt := Circular.window r.slots r.head r.count

structure Valid (r : Ring Pkt) : Prop where
  slots_length : r.slots.length = r.capacity.size
  head_lt : r.head < r.capacity.size
  tail_eq : r.tail = (r.head + r.count) &&& r.capacity.mask
  count_le : r.count ≤ r.capacity.size

section Operations
variable {r : Ring Pkt} {pkt : Pkt}

@[simp] theorem markEos_eos : r.markEos.eos = true := rfl

theorem store_valid (valid : r.Valid) (room : r.count < r.capacity.size) :
    (r.store pkt).Valid where
  slots_length := by simpa only [store, List.length_set] using valid.slots_length
  head_lt := valid.head_lt
  tail_eq := by
    have tail := valid.tail_eq
    simp only [Capacity.and_mask] at tail
    simp only [store, Capacity.and_mask, tail, Nat.mod_add_mod, Nat.add_assoc]
  count_le := room

theorem markEos_valid (valid : r.Valid) : r.markEos.Valid :=
  ⟨valid.slots_length, valid.head_lt, valid.tail_eq, valid.count_le⟩

variable [Inhabited Pkt]

@[simp] theorem dropHead_capacity : r.dropHead.capacity = r.capacity := rfl
@[simp] theorem dropHead_count : r.dropHead.count = r.count - 1 := rfl
@[simp] theorem markEos_contents : r.markEos.contents = r.contents := rfl
@[simp] theorem contents_length : r.contents.length = r.count := Circular.window_length

theorem new_valid (capacity : Capacity) (policy : Backpressure) :
    (new capacity policy : Ring Pkt).Valid :=
  ⟨by simp [new], capacity.asserted.1, by simp [new], Nat.zero_le _⟩

theorem dropHead_valid (valid : r.Valid) (nonempty : 0 < r.count) : r.dropHead.Valid where
  slots_length := by simpa only [dropHead, List.length_set] using valid.slots_length
  head_lt := by
    simp only [dropHead, Capacity.and_mask]
    exact Nat.mod_lt _ r.capacity.asserted.1
  tail_eq := by
    have tail := valid.tail_eq
    simp only [Capacity.and_mask] at tail
    simp only [dropHead, Capacity.and_mask, tail, Nat.mod_add_mod]
    congr 1
    omega
  count_le := by
    have := valid.count_le
    simp only [dropHead_count, dropHead_capacity]
    omega

theorem store_contents (valid : r.Valid) (room : r.count < r.capacity.size) :
    (r.store pkt).contents = r.contents ++ [pkt] := by
  have tail : r.tail = (r.head + r.count) % r.slots.length := by
    rw [valid.tail_eq, Capacity.and_mask, valid.slots_length]
  rw [contents, store]
  simp only [tail]
  exact Circular.window_append (by rw [valid.slots_length]; exact room)

theorem contents_eq_cons (valid : r.Valid) (nonempty : 0 < r.count) :
    r.contents = r.slots.getD r.head default :: r.dropHead.contents := by
  have inside := valid.head_lt
  have count : r.count = r.count - 1 + 1 := by omega
  have head : r.head = r.head % r.slots.length := by
    rw [valid.slots_length, Nat.mod_eq_of_lt inside]
  have rest : r.dropHead.contents = Circular.window r.slots (r.head + 1) (r.count - 1) := by
    have wrapped : r.dropHead.head = (r.head + 1) % r.dropHead.slots.length := by
      simp only [dropHead, Capacity.and_mask, List.length_set, valid.slots_length]
    rw [contents, wrapped, Circular.window_mod]
    have fits : r.count - 1 < r.slots.length := by
      have := valid.count_le
      rw [valid.slots_length]
      omega
    have cleared : Circular.window (r.slots.set (r.head % r.slots.length) default) (r.head + 1)
        (r.count - 1) = Circular.window r.slots (r.head + 1) (r.count - 1) :=
      Circular.window_clear_first fits
    rw [← head] at cleared
    exact cleared
  rw [rest, contents, count, Circular.window_cons, ← count, Circular.cell, ← head]

theorem contents_eq_nil : r.contents = [] ↔ r.count = 0 := by
  rw [← contents_length (r := r), List.length_eq_zero_iff]

theorem contents_head (valid : r.Valid) (nonempty : 0 < r.count) :
    r.contents.head? = some (r.slots.getD r.head default) ∧
      r.dropHead.contents = r.contents.tail := by
  rw [contents_eq_cons valid nonempty]
  exact ⟨rfl, rfl⟩

end Operations

section Calls
variable {r r' : Ring Pkt} {pkt : Pkt} {accepted : Bool}

theorem pushResume_waits (valid : r.Valid) (waits : r.pushResume pkt = none) :
    r.eos = false ∧ r.count = r.capacity.size := by
  rw [pushResume] at waits
  split at waits
  · split at waits <;> contradiction
  · rename_i blocked
    simp only [pushReady, Bool.or_eq_true, decide_eq_true_eq, not_or, Bool.not_eq_true] at blocked
    exact ⟨blocked.2, Nat.le_antisymm valid.count_le (Nat.le_of_not_lt blocked.1)⟩

variable [Inhabited Pkt]

/-- All the ways a call of `Push` can end. -/
inductive PushEnds (r : Ring Pkt) (pkt : Pkt) : Bool → Ring Pkt → Prop where
  | late (ended : r.eos = true) : PushEnds r pkt false r
  | refused (opened : r.eos = false) (full : r.count = r.capacity.size)
      (policy : r.policy = .kError) : PushEnds r pkt false r
  | evicted (opened : r.eos = false) (full : r.count = r.capacity.size)
      (policy : r.policy = .kLatest) : PushEnds r pkt true (r.dropHead.store pkt)
  | stored (opened : r.eos = false) (room : r.count < r.capacity.size) :
      PushEnds r pkt true (r.store pkt)

/-- All the ways a call of `Pop` can end. -/
inductive PopEnds (r : Ring Pkt) : Popped Pkt → Prop where
  | oldest (nonempty : 0 < r.count) :
      PopEnds r ⟨.kOk, some (r.slots.getD r.head default), r.dropHead⟩
  | eos (drained : r.count = 0) (ended : r.eos = true) : PopEnds r ⟨.kEos, none, r⟩
  | empty (drained : r.count = 0) (opened : r.eos = false) : PopEnds r ⟨.kEmpty, none, r⟩

theorem PushEnds.valid (ends : PushEnds r pkt accepted r') (valid : r.Valid) : r'.Valid := by
  cases ends with
  | late | refused => exact valid
  | evicted opened full policy =>
    have nonempty : 0 < r.count := by rw [full]; exact r.capacity.asserted.1
    apply store_valid (dropHead_valid valid nonempty)
    simp only [dropHead_count, dropHead_capacity]
    omega
  | stored opened room => exact store_valid valid room

theorem PushEnds.frame (ends : PushEnds r pkt accepted r') :
    r'.capacity = r.capacity ∧ r'.policy = r.policy ∧ r'.eos = r.eos := by
  cases ends <;> exact ⟨rfl, rfl, rfl⟩

/-- Without eviction an accepted packet joins at the end, before end of stream. -/
theorem PushEnds.contents_eq (ends : PushEnds r pkt accepted r') (valid : r.Valid)
    (keeps : r.policy ≠ .kLatest) :
    r'.contents = r.contents ++ (if accepted then [pkt] else []) ∧
      (accepted = true → r.eos = false) := by
  cases ends with
  | late | refused => simp
  | evicted opened full policy => exact absurd policy keeps
  | stored opened room => exact ⟨store_contents valid room, fun _ => opened⟩

theorem PopEnds.valid {p : Popped Pkt} (ends : PopEnds r p) (valid : r.Valid) : p.ring.Valid := by
  cases ends with
  | oldest nonempty => exact dropHead_valid valid nonempty
  | eos | empty => exact valid

theorem PopEnds.frame {p : Popped Pkt} (ends : PopEnds r p) :
    p.ring.capacity = r.capacity ∧ p.ring.policy = r.policy ∧ p.ring.eos = r.eos := by
  cases ends <;> exact ⟨rfl, rfl, rfl⟩

theorem PopEnds.eos_iff {p : Popped Pkt} (ends : PopEnds r p) :
    p.status = .kEos ↔ r.eos = true ∧ r.count = 0 := by
  cases ends with
  | oldest nonempty => simp [nonempty.ne']
  | eos drained ended => simp [drained, ended]
  | empty drained opened => simp [opened]

/-- A pop takes the oldest packet, or tells why there is none. -/
theorem PopEnds.contents_eq {status : Status} {out : Option Pkt}
    (ends : PopEnds r ⟨status, out, r'⟩) (valid : r.Valid) :
    (∃ oldest, status = .kOk ∧ out = some oldest ∧ r.contents = oldest :: r'.contents) ∨
      (status = .kEos ∧ r' = r ∧ r.eos = true ∧ r.contents = []) ∨
      (status = .kEmpty ∧ r' = r ∧ r.eos = false ∧ r.contents = []) := by
  cases ends with
  | oldest nonempty => exact .inl ⟨_, rfl, rfl, contents_eq_cons valid nonempty⟩
  | eos drained ended => exact .inr (.inl ⟨rfl, rfl, ended, contents_eq_nil.mpr drained⟩)
  | empty drained opened => exact .inr (.inr ⟨rfl, rfl, opened, contents_eq_nil.mpr drained⟩)

theorem pushEnter_ends (valid : r.Valid) (entered : r.pushEnter pkt = some (accepted, r')) :
    PushEnds r pkt accepted r' := by
  rw [pushEnter] at entered
  split at entered
  · rename_i ended
    cases entered
    exact .late ended
  · rename_i running
    have opened : r.eos = false := by simpa using running
    split at entered
    · rename_i full
      cases policy : r.policy <;> simp only [policy] at entered
      · contradiction
      · cases entered
        exact .evicted opened full policy
      · cases entered
        exact .refused opened full policy
    · rename_i notFull
      cases entered
      exact .stored opened (Nat.lt_of_le_of_ne valid.count_le notFull)

/-- A push waits at a full open `kBlock` ring only. -/
theorem pushEnter_waits (waits : r.pushEnter pkt = none) :
    r.eos = false ∧ r.count = r.capacity.size ∧ r.policy = .kBlock := by
  rw [pushEnter] at waits
  split at waits
  · contradiction
  · rename_i running
    split at waits
    · rename_i full
      cases policy : r.policy <;> simp only [policy] at waits
      · exact ⟨by simpa using running, full, rfl⟩
      · contradiction
      · contradiction
    · contradiction

/-- A woken push ends as if it entered then. -/
theorem pushResume_eq_pushEnter {result : Bool × Ring Pkt}
    (resumed : r.pushResume pkt = some result) :
    r.pushEnter pkt = some result := by
  rw [pushResume] at resumed
  split at resumed
  · rename_i ready
    cases ended : r.eos with
    | true => simpa [pushEnter, ended] using resumed
    | false =>
      have room : r.count < r.capacity.size := by simpa [pushReady, ended] using ready
      simpa [pushEnter, ended, room.ne] using resumed
  · contradiction

theorem popTake_ends (ready : r.popReady = true) : PopEnds r r.popTake := by
  rw [popTake]
  split
  · rename_i drained
    exact .eos drained (by simpa [popReady, drained] using ready)
  · rename_i some
    exact .oldest (Nat.pos_of_ne_zero some)

theorem popSignaled_ends : PopEnds r (r.popSignaled r.popReady) := by
  cases ready : r.popReady with
  | true => simpa [popSignaled] using popTake_ends ready
  | false =>
    simp only [popReady, Bool.or_eq_false_iff, decide_eq_false_iff_not, Nat.not_lt,
      Nat.le_zero_eq] at ready
    simpa [popSignaled, ready.1] using PopEnds.empty ready.1 ready.2

theorem popResume_ends {p : Popped Pkt} (resumed : r.popResume = some p) : PopEnds r p := by
  rw [popResume] at resumed
  split at resumed
  · rename_i ready
    cases resumed
    simpa only [ready] using popSignaled_ends (r := r)
  · contradiction

theorem popEnter_ends {p : Popped Pkt} {deadlineUs : Int}
    (entered : r.popEnter deadlineUs = some p) : PopEnds r p := by
  rw [popEnter] at entered
  split at entered
  · exact popResume_ends entered
  · split at entered
    · rename_i drained
      cases ended : r.eos <;> simp only [ended] at entered <;> cases entered
      · exact .empty drained ended
      · exact .eos drained ended
    · rename_i some
      cases entered
      exact popTake_ends (by simpa [popReady] using Or.inl (Nat.pos_of_ne_zero some))

theorem popResume_waits (waits : r.popResume = none) : r.count = 0 ∧ r.eos = false := by
  rw [popResume] at waits
  split at waits
  · contradiction
  · rename_i blocked
    simpa [popReady] using blocked

theorem popEnter_waits {deadlineUs : Int} (waits : r.popEnter deadlineUs = none) :
    0 < deadlineUs ∧ r.count = 0 ∧ r.eos = false := by
  rw [popEnter] at waits
  split at waits
  · rename_i positive
    exact ⟨positive, popResume_waits waits⟩
  · split at waits <;> contradiction

end Calls
end Ring
end VideoCodec
