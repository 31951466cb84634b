import VideoCodec.Transition.Run

/-! Protocols of an interface as executable systems: a phase, and the calls that
are allowed in it. A client, traced along its run, keeps to the protocol when
each of its steps leads from a phase it relates to onto another. -/
namespace Transition

variable {S A P C : Type*} {allows : P → C → Option P} {p q r : P} {cs ds : List C}

theorem exec_append (p : P) (cs ds : List C) :
    exec allows p (cs ++ ds) = (exec allows p cs).bind fun q => exec allows q ds := by
  induction cs generalizing p with
  | nil => rfl
  | cons c cs ih =>
    rw [List.cons_append, exec, exec, Option.bind_assoc]
    exact congrArg _ (funext ih)

theorem exec_trans (first : exec allows p cs = some q) (rest : exec allows q ds = some r) :
    exec allows p (cs ++ ds) = some r := by
  rw [exec_append, first]
  exact rest

/-- The calls between two states lead on from every phase that fits the first. -/
structure Leads (allows : P → C → Option P) (fits : S → P → Prop) (s : S) (calls : List C)
    (t : S) : Prop where
  onward {p : P} (fit : fits s p) : ∃ q, exec allows p calls = some q ∧ fits t q

namespace Leads
variable {fits : S → P → Prop} {s t u : S}

/-- Without a call, only what the phase is not about may change. -/
theorem silent (kept : ∀ {p}, fits s p → fits t p) : Leads allows fits s [] t :=
  ⟨fun {p} fit => ⟨p, rfl, kept fit⟩⟩

theorem refl : Leads allows fits s [] s := silent id

theorem trans (first : Leads allows fits s cs t) (rest : Leads allows fits t ds u) :
    Leads allows fits s (cs ++ ds) u where
  onward fit := by
    obtain ⟨q, led, fit⟩ := first.onward fit
    obtain ⟨r, leads, fit⟩ := rest.onward fit
    exact ⟨r, exec_trans led leads, fit⟩

end Leads

/-- A system with all the calls it has made. -/
structure Traced (S C : Type*) where
  system : S
  calls : List C := []

namespace Traced

/-- A step, with the calls that it makes. -/
def next (step : S → A → S) (emits : S → A → List C) (t : Traced S C) (a : A) :
    Option (Traced S C) :=
  some { system := step t.system a, calls := t.calls ++ emits t.system a }

variable {step : S → A → S} {emits : S → A → List C} {t u : Traced S C} {as : List A}
  {admits : S → A → Prop}

/-- All calls so far are allowed, and have led to a phase that fits the system. -/
def Obeys (allows : P → C → Option P) (start : P) (fits : S → P → Prop) (t : Traced S C) : Prop :=
  ∃ p, exec allows start t.calls = some p ∧ fits t.system p

theorem run_obeys {start : P} {fits : S → P → Prop}
    (leads : ∀ {s a}, admits s a → Leads allows fits s (emits s a) (step s a))
    (run : Run (Guarded (Takes (next step emits)) fun t a => admits t.system a) t as u)
    (obeys : t.Obeys allows start fits) : u.Obeys allows start fits := by
  refine run.invariant ?_ obeys
  rintro t a u ⟨p, led, fit⟩ ⟨taken, admitted⟩
  obtain rfl := Option.some.inj taken
  obtain ⟨q, leads, fit⟩ := (leads admitted).onward fit
  exact ⟨q, exec_trans led leads, fit⟩

/-- What a step adds to a record is what its calls tell. -/
theorem run_accounts {R : Type*} {record : S → List R} {tells : C → Option R}
    (keeps : ∀ {s a}, admits s a → record (step s a) = record s ++ (emits s a).filterMap tells)
    (run : Run (Guarded (Takes (next step emits)) fun t a => admits t.system a) t as u)
    (accounts : record t.system = t.calls.filterMap tells) :
    record u.system = u.calls.filterMap tells := by
  refine run.invariant (P := fun t => record t.system = t.calls.filterMap tells) ?_ accounts
  rintro t a u accounts ⟨taken, admitted⟩
  obtain rfl := Option.some.inj taken
  rw [keeps admitted, accounts, List.filterMap_append]

end Traced

end Transition
