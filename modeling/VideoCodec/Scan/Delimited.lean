import Mathlib.Data.List.Basic

/-! Scanning an input for delimiters. A recogniser `len` gives the length of the
delimiter at the head of what is left, zero when there is none, and may look as
far ahead as it likes; so what ends a segment can depend on what follows it. -/
namespace Delimited

variable {α σ : Type*} (len : List α → Nat)

/-- The elements before the next delimiter, and what is left from there. -/
def untilNext : List α → List α × List α
  | [] => ([], [])
  | a :: rest =>
    if len (a :: rest) = 0 then (a :: (untilNext rest).1, (untilNext rest).2) else ([], a :: rest)

/-- The loop of a scanner: skip to a delimiter, visit what follows it up to the
next one, and go on while `more` says so. The fuel bounds the iterations. -/
def loop (more : σ → Bool) (visit : σ → List α → σ) : Nat → List α → σ → σ
  | 0, _, s => s
  | _ + 1, [], s => s
  | fuel + 1, a :: rest, s =>
    if more s then
      match len (a :: rest) with
      | 0 => loop more visit fuel rest s
      | n + 1 =>
        let found := untilNext len (rest.drop n)
        loop more visit fuel found.2 (visit s found.1)
    else s

def segmentsWithin : Nat → List α → List (List α)
  | 0, _ => []
  | _ + 1, [] => []
  | fuel + 1, a :: rest =>
    match len (a :: rest) with
    | 0 => segmentsWithin fuel rest
    | n + 1 =>
      (untilNext len (rest.drop n)).1 :: segmentsWithin fuel (untilNext len (rest.drop n)).2

/-- What follows each delimiter, up to the next one. -/
def segments (input : List α) : List (List α) := segmentsWithin len input.length input

/-- No delimiter begins in `body` when `tail` follows it. -/
def Quiet (tail : List α) : List α → Prop
  | [] => True
  | a :: body => len (a :: body ++ tail) = 0 ∧ Quiet tail body

/-- An input made of delimiters, each followed by a body in which none begins. -/
inductive Framed : List (List α) → List α → Prop where
  | nil : Framed [] []
  | cons (real : delim ≠ []) (found : len (delim ++ (body ++ tail)) = delim.length)
      (quiet : Quiet len tail body) (rest : Framed bodies tail) :
      Framed (body :: bodies) (delim ++ (body ++ tail))

section UntilNext
variable {len} {input body tail : List α}

theorem untilNext_append (len : List α → Nat) (input : List α) :
    (untilNext len input).1 ++ (untilNext len input).2 = input := by
  induction input with
  | nil => rfl
  | cons a rest ih =>
    rw [untilNext]
    split
    · rw [List.cons_append, ih]
    · rfl

theorem untilNext_length (len : List α → Nat) (input : List α) :
    (untilNext len input).2.length ≤ input.length := by
  have whole := congrArg List.length (untilNext_append len input)
  rw [List.length_append] at whole
  omega

theorem untilNext_quiet (input : List α) :
    Quiet len (untilNext len input).2 (untilNext len input).1 := by
  induction input with
  | nil => trivial
  | cons a rest ih =>
    rw [untilNext]
    split
    · rename_i none
      refine ⟨?_, ih⟩
      rwa [List.cons_append, untilNext_append]
    · trivial

theorem untilNext_exact (quiet : Quiet len tail body) (boundary : tail = [] ∨ len tail ≠ 0) :
    untilNext len (body ++ tail) = (body, tail) := by
  induction body with
  | nil =>
    rcases boundary with rfl | delimiter
    · rfl
    · cases tail with
      | nil => rfl
      | cons a rest => rw [List.nil_append, untilNext, if_neg delimiter]
  | cons a body ih =>
    obtain ⟨none, quiet⟩ := quiet
    rw [List.cons_append] at none ⊢
    rw [untilNext, if_pos none, ih quiet]

end UntilNext

section Segments
variable {len} {input : List α}

/-- More fuel than elements changes nothing. -/
theorem segmentsWithin_fuel {fuel : Nat} (enough : input.length ≤ fuel) :
    segmentsWithin len fuel input = segments len input := by
  rw [segments]
  suffices same : ∀ {fuel more : Nat} {input : List α}, input.length ≤ fuel →
      input.length ≤ more → segmentsWithin len fuel input = segmentsWithin len more input from
    same enough (Nat.le_refl _)
  intro fuel
  induction fuel with
  | zero =>
    intro more input empty _
    obtain rfl := List.length_eq_zero_iff.mp (Nat.le_zero.mp empty)
    cases more <;> rfl
  | succ fuel ih =>
    intro more input fits enough
    cases input with
    | nil => cases more <;> rfl
    | cons a rest =>
      cases more with
      | zero => exact absurd enough (Nat.not_succ_le_zero _)
      | succ more =>
        have shorter : rest.length ≤ fuel ∧ rest.length ≤ more :=
          ⟨Nat.le_of_succ_le_succ fits, Nat.le_of_succ_le_succ enough⟩
        unfold segmentsWithin
        split
        · exact ih shorter.1 shorter.2
        · rename_i n found
          have left := untilNext_length len (rest.drop n)
          rw [List.length_drop] at left
          exact congrArg (List.cons _) (ih (by omega) (by omega))

theorem segments_delimiter {delim rest : List α} (real : delim ≠ [])
    (found : len (delim ++ rest) = delim.length) :
    segments len (delim ++ rest) =
      (untilNext len rest).1 :: segments len (untilNext len rest).2 := by
  cases delim with
  | nil => exact absurd rfl real
  | cons a delim =>
    have left := untilNext_length len rest
    rw [segments, List.cons_append, List.length_cons, segmentsWithin]
    rw [List.cons_append, List.length_cons] at found
    rw [found]
    simp only [List.drop_left]
    rw [segmentsWithin_fuel (by rw [List.length_append]; omega)]

theorem Framed.boundary {bodies : List (List α)} (framed : Framed len bodies input) :
    input = [] ∨ len input ≠ 0 := by
  cases framed with
  | nil => exact .inl rfl
  | cons real found quiet rest =>
    right
    rw [found]
    exact mt List.length_eq_zero_iff.mp real

/-- A framed input is scanned into its bodies. -/
theorem Framed.segments_eq {bodies : List (List α)} (framed : Framed len bodies input) :
    segments len input = bodies := by
  induction framed with
  | nil => rfl
  | cons real found quiet rest ih =>
    rw [segments_delimiter real found, untilNext_exact quiet rest.boundary, ih]

/-- In no segment does a delimiter begin. -/
theorem quiet_of_mem_segments {body : List α} (member : body ∈ segments len input) :
    ∃ tail, Quiet len tail body := by
  suffices each : ∀ {fuel : Nat} {input : List α}, body ∈ segmentsWithin len fuel input →
      ∃ tail, Quiet len tail body from each member
  intro fuel
  induction fuel with
  | zero => exact fun none => absurd none List.not_mem_nil
  | succ fuel ih =>
    intro input member
    cases input with
    | nil => exact absurd member List.not_mem_nil
    | cons a rest =>
      rw [segmentsWithin] at member
      split at member
      · exact ih member
      · rcases List.mem_cons.mp member with rfl | later
        · exact ⟨_, untilNext_quiet _⟩
        · exact ih later

end Segments

section Append
variable {len} {front tail : List α}

theorem untilNext_before (apart : ∀ a rest, a :: rest <:+ front →
    len (a :: rest ++ tail) = len (a :: rest)) (boundary : tail = [] ∨ len tail ≠ 0) :
    untilNext len (front ++ tail) =
      ((untilNext len front).1, (untilNext len front).2 ++ tail) := by
  induction front with
  | nil => exact untilNext_exact trivial boundary
  | cons a rest ih =>
    have whole := apart a rest List.suffix_rfl
    have later := ih fun b more within => apart b more (within.trans (List.suffix_cons a rest))
    rw [List.cons_append, untilNext, untilNext, ← List.cons_append, whole]
    split
    · rw [later]
    · rfl

theorem untilNext_suffix (input : List α) : (untilNext len input).2 <:+ input :=
  ⟨(untilNext len input).1, untilNext_append len input⟩

theorem segments_cons (a : α) (rest : List α) :
    segments len (a :: rest) =
      match len (a :: rest) with
      | 0 => segments len rest
      | n + 1 =>
        (untilNext len (rest.drop n)).1 :: segments len (untilNext len (rest.drop n)).2 := by
  rw [segments, List.length_cons, segmentsWithin]
  cases len (a :: rest) with
  | zero => rfl
  | succ n =>
    have left := untilNext_length len (rest.drop n)
    rw [List.length_drop] at left
    dsimp only
    rw [segmentsWithin_fuel (by omega)]

/-- Where no delimiter reaches from the front into what begins with one, the
segments of the whole are those of its parts. -/
theorem segments_append (apart : ∀ a rest, a :: rest <:+ front →
      len (a :: rest ++ tail) = len (a :: rest))
    (fits : ∀ a rest, a :: rest <:+ front → len (a :: rest) ≤ (a :: rest).length)
    (boundary : tail = [] ∨ len tail ≠ 0) :
    segments len (front ++ tail) = segments len front ++ segments len tail := by
  suffices within : ∀ fuel, ∀ front : List α, front.length ≤ fuel →
      (∀ a rest, a :: rest <:+ front → len (a :: rest ++ tail) = len (a :: rest)) →
      (∀ a rest, a :: rest <:+ front → len (a :: rest) ≤ (a :: rest).length) →
      segments len (front ++ tail) = segments len front ++ segments len tail from
    within front.length front (Nat.le_refl _) apart fits
  intro fuel
  induction fuel with
  | zero =>
    intro front empty _ _
    obtain rfl := List.length_eq_zero_iff.mp (Nat.le_zero.mp empty)
    rfl
  | succ fuel ih =>
    intro front short apart fits
    cases front with
    | nil => rfl
    | cons a rest =>
      have step {rest' : List α} (suffix : rest' <:+ rest) :
          segments len (rest' ++ tail) = segments len rest' ++ segments len tail := by
        have inside := suffix.trans (List.suffix_cons a rest)
        refine ih rest' ?_ (fun b more deep => apart b more (deep.trans inside))
          (fun b more deep => fits b more (deep.trans inside))
        have := suffix.length_le
        simp only [List.length_cons] at short
        omega
      have fit := fits a rest List.suffix_rfl
      rw [List.cons_append, segments_cons, segments_cons, ← List.cons_append,
        apart a rest List.suffix_rfl]
      split
      · exact step List.suffix_rfl
      · rename_i n found
        have behind : (rest ++ tail).drop n = rest.drop n ++ tail := by
          rw [found, List.length_cons] at fit
          exact List.drop_append_of_le_length (by omega)
        have deep : rest.drop n <:+ a :: rest :=
          (List.drop_suffix n rest).trans (List.suffix_cons a rest)
        rw [behind, untilNext_before (fun b more inner => apart b more (inner.trans deep)) boundary,
          step ((untilNext_suffix _).trans (List.drop_suffix n rest))]
        rfl
end Append

section Loop
variable {len} {more : σ → Bool} {visit : σ → List α → σ} {s : σ}

theorem foldl_stopped (stopped : more s = false) (bodies : List (List α)) :
    bodies.foldl (fun s body => if more s then visit s body else s) s = s := by
  induction bodies with
  | nil => rfl
  | cons body bodies ih => rw [List.foldl_cons, stopped, if_neg Bool.false_ne_true, ih]

/-- A scanner folds over the segments until it has seen enough. -/
theorem loop_eq (input : List α) (s : σ) :
    loop len more visit input.length input s =
      (segments len input).foldl (fun s body => if more s then visit s body else s) s := by
  rw [segments]
  generalize input.length = fuel
  induction fuel generalizing input s with
  | zero => rfl
  | succ fuel ih =>
    cases input with
    | nil => rfl
    | cons a rest =>
      rw [loop, segmentsWithin]
      cases going : more s with
      | false =>
        rw [if_neg Bool.false_ne_true, foldl_stopped going]
      | true =>
        rw [if_pos rfl]
        split
        · exact ih rest s
        · rw [ih, List.foldl_cons, going, if_pos rfl]

/-- A scanner that reads everything folds over all segments. -/
theorem loop_all (input : List α) (s : σ) :
    loop len (fun _ => true) visit input.length input s = (segments len input).foldl visit s := by
  rw [loop_eq]
  simp

end Loop

end Delimited
