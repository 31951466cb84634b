import Mathlib.Algebra.Group.Int.Defs
import Mathlib.Algebra.Group.Nat.Defs
import Mathlib.Data.Rat.Init

/-! JSON values in memory, and typed reads of the members of an object with a
default for what is absent, as `nlohmann::json` has them. -/
namespace Json

/-- A number is held as it was written: a negative integer, another integer, or a
finite double, by the rational it denotes. An object has each of its keys once. -/
inductive Value where
  | null
  | boolean (b : Bool)
  | numberInteger (n : Int64)
  | numberUnsigned (n : UInt64)
  | numberFloat (x : ℚ)
  | string (s : String)
  | array (items : List Value)
  | object (members : List (String × Value))

/-- The exceptions of the library. -/
inductive JsonException where
  | parseError
  | invalidIterator
  | typeError
  | outOfRange
  | otherError
  deriving DecidableEq, Repr

section Reads
variable {ε α β : Type}

/-- A read that does not throw. -/
def Returned (x : Except ε α) : Prop := ∃ a, x = .ok a

/-- What a chain of reads that returned did first. -/
theorem bind_eq_ok {x : Except ε α} {f : α → Except ε β} {b : β} :
    x >>= f = .ok b ↔ ∃ a, x = .ok a ∧ f a = .ok b := by
  cases x with
  | error e => simp [bind, Except.bind]
  | ok a => simp [bind, Except.bind]

theorem returned_bind {x : Except ε α} {f : α → Except ε β} :
    Returned (x >>= f) ↔ ∃ a, x = .ok a ∧ Returned (f a) := by
  simp only [Returned, bind_eq_ok]
  constructor
  · rintro ⟨b, a, first, rest⟩
    exact ⟨a, first, b, rest⟩
  · rintro ⟨a, first, b, rest⟩
    exact ⟨b, a, first, rest⟩

theorem returned_ok (a : α) : Returned (.ok a : Except ε α) := ⟨a, rfl⟩

theorem not_returned_error (e : ε) : ¬Returned (.error e : Except ε α) := nofun

end Reads

/-- What a read asks of a value. -/
inductive Kind where
  | text
  | flag
  | number
  deriving DecidableEq, Repr

/-- The values that convert; a number can be read from a boolean. -/
def Kind.accepts : Kind → Value → Bool
  | .text, .string _ => true
  | .flag, .boolean _ => true
  | .number, .numberInteger _ | .number, .numberUnsigned _ | .number, .numberFloat _
  | .number, .boolean _ => true
  | _, _ => false

namespace Value

def isObject : Value → Bool
  | .object _ => true
  | _ => false

def find? (key : String) : Value → Option Value
  | .object members => members.lookup key
  | _ => none

/-- The integer that a value holds in memory. -/
def integer? : Value → Option Int
  | .numberInteger n => some n.toInt
  | .numberUnsigned n => some n.toNat
  | _ => none

end Value

/-- `get<T>` of the types that a read can have. -/
class FromJson (T : Type) where
  kind : Kind
  get : Value → Except JsonException T
  /-- Where a value does not convert, `get` throws a type error. -/
  get_ok : ∀ v, Returned (get v) ↔ kind.accepts v = true

/-- `get` of an arithmetic type, a `static_cast` of what is held. Outside of the range
of the type that of a double is undefined; the others wrap. -/
def arithmetic {T : Type} (cast : Int → T) : Value → Except JsonException T
  | .numberUnsigned n => .ok (cast n.toNat)
  | .numberInteger n => .ok (cast n.toInt)
  | .numberFloat x => .ok (cast (x.num.tdiv x.den))
  | .boolean b => .ok (cast b.toNat)
  | _ => .error .typeError

theorem arithmetic_ok {T : Type} (cast : Int → T) (v : Value) :
    Returned (arithmetic cast v) ↔ Kind.number.accepts v = true := by
  cases v <;> simp [Returned, arithmetic, Kind.accepts]

theorem arithmetic_integer {T : Type} {cast : Int → T} {v : Value} {n : Int}
    (holds : v.integer? = some n) : arithmetic cast v = .ok (cast n) := by
  cases v <;> simp_all [Value.integer?, arithmetic]

instance : FromJson String where
  kind := .text
  get
    | .string s => .ok s
    | _ => .error .typeError
  get_ok v := by cases v <;> simp [Returned, Kind.accepts]

instance : FromJson Bool where
  kind := .flag
  get
    | .boolean b => .ok b
    | _ => .error .typeError
  get_ok v := by cases v <;> simp [Returned, Kind.accepts]

instance : FromJson UInt32 where
  kind := .number
  get := arithmetic UInt32.ofInt
  get_ok := arithmetic_ok _

instance : FromJson UInt16 where
  kind := .number
  get := arithmetic UInt16.ofInt
  get_ok := arithmetic_ok _

instance : FromJson Int32 where
  kind := .number
  get := arithmetic Int32.ofInt
  get_ok := arithmetic_ok _

/-- A machine integer that JSON numbers are cast to, and the range in which the
cast loses nothing. -/
class MachineInt (T : Type) [FromJson T] where
  cast : Int → T
  toInt : T → Int
  low : Int
  high : Int
  get_eq : (FromJson.get : Value → Except JsonException T) = arithmetic cast
  cast_exact : ∀ n, toInt (cast n) = n ↔ low ≤ n ∧ n ≤ high

instance : MachineInt UInt32 where
  cast := UInt32.ofInt
  toInt n := n.toNat
  low := 0
  high := 2 ^ 32 - 1
  get_eq := rfl
  cast_exact n := by
    have wraps : ((UInt32.ofInt n).toNat : Int) = n % 2 ^ 32 := by
      rw [UInt32.ofInt, UInt32.toNat_ofNat']
      omega
    rw [wraps]
    omega

instance : MachineInt UInt16 where
  cast := UInt16.ofInt
  toInt n := n.toNat
  low := 0
  high := 2 ^ 16 - 1
  get_eq := rfl
  cast_exact n := by
    have wraps : ((UInt16.ofInt n).toNat : Int) = n % 2 ^ 16 := by
      rw [UInt16.ofInt, UInt16.toNat_ofNat']
      omega
    rw [wraps]
    omega

instance : MachineInt Int32 where
  cast := Int32.ofInt
  toInt := Int32.toInt
  low := -2 ^ 31
  high := 2 ^ 31 - 1
  get_eq := rfl
  cast_exact n := by
    rw [Int32.toInt_ofInt, Int32.size, Int.bmod_def]
    split <;> omega

namespace Value

/-- `value(key, default)`. -/
def value {T : Type} [FromJson T] (v : Value) (key : String) (default : T) :
    Except JsonException T :=
  match v with
  | .object members =>
    match members.lookup key with
    | some member => FromJson.get member
    | none => .ok default
  | _ => .error .typeError

/-- The member of a key, where there is one, is of a kind. -/
def Holds (v : Value) (key : String) (kind : Kind) : Prop :=
  ∀ member ∈ v.find? key, kind.accepts member = true

/-- The members of the keys of a schema are of their kinds. -/
def Fits (v : Value) (schema : List (String × Kind)) : Prop :=
  ∀ entry ∈ schema, v.Holds entry.1 entry.2

instance (v : Value) (key : String) (kind : Kind) : Decidable (v.Holds key kind) :=
  inferInstanceAs (Decidable (∀ member ∈ v.find? key, kind.accepts member = true))

instance (v : Value) (schema : List (String × Kind)) : Decidable (v.Fits schema) :=
  inferInstanceAs (Decidable (∀ entry ∈ schema, v.Holds entry.1 entry.2))

theorem fits_cons {v : Value} {key : String} {kind : Kind} {schema : List (String × Kind)} :
    v.Fits ((key, kind) :: schema) ↔ v.Holds key kind ∧ v.Fits schema := List.forall_mem_cons

theorem fits_nil (v : Value) : v.Fits [] := nofun

variable {T : Type} [FromJson T] {v member : Value} {key : String} {default : T}

theorem value_absent (object : v.isObject = true) (absent : v.find? key = none) :
    v.value key default = .ok default := by
  cases v with
  | object members =>
    rw [find?] at absent
    simp only [value, absent]
  | _ => cases object

theorem value_present (present : v.find? key = some member) :
    v.value key default = FromJson.get member := by
  cases v with
  | object members =>
    rw [find?] at present
    simp only [value, present]
  | _ => cases present

/-- A read returns exactly when the member of its key, if any, converts. -/
theorem value_returns (object : v.isObject = true) (key : String) (default : T) :
    (∃ x, v.value key default = .ok x) ↔ v.Holds key (FromJson.kind T) := by
  cases found : v.find? key with
  | none => simp [value_absent object found, Holds, found]
  | some member =>
    simp only [value_present found, Holds, found, Option.mem_some_iff, forall_eq']
    exact FromJson.get_ok member

end Value

end Json
