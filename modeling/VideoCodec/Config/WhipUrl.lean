import VideoCodec.Config.ParseJson
import VideoCodec.Text.Segments

/-! The WHIP URL of a host and a path, for all strings. The code puts the defaults in
before it trims, and looks for the suffix anywhere in the path. -/
namespace VideoCodec.StreamConfig

open Segments

def whip : List Char := kWhipSuffix.toList

/-- A part of the URL without its outer slashes, or the default if nothing is left. -/
def stripped (default part : String) : List Char :=
  if trim '/' part.toList = [] then default.toList else trim '/' part.toList

def strippedHost (host : String) : List Char := stripped kDefaultHost host
def strippedPath (path : String) : List Char := stripped kDefaultPath path

/-- A path that ends in the segment "whip", which is added if need be. -/
def whipPath (path : List Char) : List Char :=
  if (path.splitOn '/').getLast? = some whip then path else path ++ '/' :: whip

/-- A part with slashes around it. -/
def padded (before : Nat) (part : String) (after : Nat) : String :=
  String.ofList (List.replicate before '/' ++ part.toList ++ List.replicate after '/')

/-- The URL is that of host and path. -/
def Formula (host path : String) : Prop :=
  (buildWhipUrl host path).toList = strippedHost host ++ '/' :: whipPath (strippedPath path)

/-- The URL is that of host and path; behind the host no segment is empty and the last
one alone is "whip"; and slashes around host and path do not matter. -/
structure WellBuilt (host path : String) : Prop where
  formula : Formula host path
  ends : ∃ rest, (whipPath (strippedPath path)).splitOn '/' = rest ++ [whip] ∧
    rest.getLast? ≠ some whip
  full : [] ∉ (whipPath (strippedPath path)).splitOn '/'
  stable : ∀ a b c d, buildWhipUrl (padded a host b) (padded c path d) = buildWhipUrl host path

/-- The part is empty or has something besides slashes. -/
def Proper (part : String) : Prop := part = "" ∨ trim '/' part.toList ≠ []

/-- Host and path do not consist of slashes, and "/whip" in the path ends it. -/
structure Plain (host path : String) : Prop where
  properHost : Proper host
  properPath : Proper path
  distinct : strippedPath path ≠ whip
  last : '/' :: whip <:+: strippedPath path → '/' :: whip <:+ strippedPath path

/-- Host and path have something besides slashes, no two slashes meet inside the path,
and it does not end in two segments "whip". -/
structure Settled (host path : String) : Prop where
  plain : Plain host path
  givenHost : trim '/' host.toList ≠ []
  givenPath : trim '/' path.toList ≠ []
  full : [] ∉ (strippedPath path).splitOn '/'
  single : ¬[whip, whip] <:+ (strippedPath path).splitOn '/'

section Parts
variable {host path : String}

theorem trimSlash_toList (part : String) : (trimSlash part).toList = trim '/' part.toList := by
  rw [trimSlash, String.toList_ofList, trim]

/-- A part as the code prepares it, the default first. -/
def prepared (default part : String) : List Char :=
  trim '/' (if part.isEmpty then default.toList else part.toList)

theorem prepared_of_given (default : String) {part : String} (given : trim '/' part.toList ≠ []) :
    prepared default part = trim '/' part.toList := by
  have nonempty : part.isEmpty = false := by
    cases empty : part.isEmpty with
    | false => rfl
    | true =>
      rw [String.isEmpty_iff.mp empty] at given
      exact absurd rfl given
  rw [prepared, nonempty]
  rfl

theorem prepared_of_proper {default part : String} (proper : Proper part)
    (trimmed : trim '/' default.toList = default.toList) :
    prepared default part = stripped default part := by
  rcases proper with rfl | rest
  · exact trimmed
  · rw [prepared_of_given default rest, stripped, if_neg rest]

theorem prepared_of_not_proper {part : String} (default : String) (improper : ¬Proper part) :
    prepared default part = [] ∧ stripped default part = default.toList := by
  obtain ⟨nonempty, slashes⟩ := not_or.mp improper
  have slashes : trim '/' part.toList = [] := not_not.mp slashes
  have given : part.isEmpty = false := by
    cases empty : part.isEmpty with
    | false => rfl
    | true => exact absurd (String.isEmpty_iff.mp empty) nonempty
  rw [prepared, stripped, given, if_pos slashes]
  exact ⟨slashes, rfl⟩

/-- A path as the code ends it. -/
def suffixed (p : List Char) : List Char := if '/' :: whip <:+: p then p else p ++ '/' :: whip

theorem buildWhipUrl_toList (host path : String) :
    (buildWhipUrl host path).toList =
      prepared kDefaultHost host ++ '/' :: suffixed (prepared kDefaultPath path) := by
  simp only [buildWhipUrl, String.toList_append, trimSlash_toList, apply_ite String.toList,
    List.append_assoc]
  rfl

theorem whip_ends_iff (p : List Char) :
    (p.splitOn '/').getLast? = some whip ↔ p = whip ∨ '/' :: whip <:+ p :=
  getLast?_splitOn_iff (by decide)

/-- The path of the code against the path that ends in "whip". -/
theorem suffixed_iff (p : List Char) :
    suffixed p = whipPath p ↔ p ≠ whip ∧ ('/' :: whip <:+: p → '/' :: whip <:+ p) := by
  have longer : p ++ '/' :: whip ≠ p := by simp
  have same : suffixed p = whipPath p ↔
      ('/' :: whip <:+: p ↔ (p = whip ∨ '/' :: whip <:+ p)) := by
    rw [suffixed, whipPath, ← whip_ends_iff]
    by_cases found : '/' :: whip <:+: p
    · by_cases ends : (p.splitOn '/').getLast? = some whip
      · simp [found, ends]
      · simp [found, ends]
    · by_cases ends : (p.splitOn '/').getLast? = some whip
      · simp [found, ends]
      · simp [found, ends]
  rw [same]
  constructor
  · intro agree
    constructor
    · rintro rfl
      exact absurd (agree.mpr (.inl rfl)) (by decide)
    · intro found
      rcases agree.mp found with rfl | ends
      · exact absurd found (by decide)
      · exact ends
  · rintro ⟨distinct, last⟩
    constructor
    · exact fun found => .inr (last found)
    · exact fun ends => (ends.resolve_left distinct).isInfix

theorem formula_iff (host path : String) : Formula host path ↔ Plain host path := by
  rw [Formula, buildWhipUrl_toList, strippedHost, strippedPath]
  by_cases properHost : Proper host
  · rw [prepared_of_proper properHost (by decide), List.append_cancel_left_eq, List.cons_eq_cons]
    by_cases properPath : Proper path
    · rw [prepared_of_proper properPath (by decide), suffixed_iff]
      constructor
      · rintro ⟨-, distinct, last⟩
        exact ⟨properHost, properPath, distinct, last⟩
      · rintro ⟨-, -, distinct, last⟩
        exact ⟨rfl, distinct, last⟩
    · obtain ⟨empty, default⟩ := prepared_of_not_proper kDefaultPath properPath
      rw [empty, default]
      exact iff_of_false (by decide) fun plain => properPath plain.properPath
  · obtain ⟨empty, default⟩ := prepared_of_not_proper kDefaultHost properHost
    rw [empty, default]
    apply iff_of_false
    · intro same
      exact absurd (List.cons.inj same).1 (by decide)
    · exact fun plain => properHost plain.properHost

theorem whipPath_splitOn (p : List Char) :
    (whipPath p).splitOn '/' =
      if (p.splitOn '/').getLast? = some whip then p.splitOn '/' else p.splitOn '/' ++ [whip] := by
  rw [whipPath]
  split
  · rfl
  · have alone : whip.splitOn '/' = [whip] := List.splitOn_eq_singleton (by decide)
    rw [List.splitOn_append_cons_self, alone]

theorem full_iff (p : List Char) :
    [] ∉ (whipPath p).splitOn '/' ↔ [] ∉ p.splitOn '/' := by
  have filled : [] ≠ whip := by decide
  rw [whipPath_splitOn]
  split
  · rfl
  · simp [filled]

theorem ends_iff (p : List Char) :
    (∃ rest, (whipPath p).splitOn '/' = rest ++ [whip] ∧ rest.getLast? ≠ some whip) ↔
      ¬[whip, whip] <:+ p.splitOn '/' := by
  rw [whipPath_splitOn]
  split
  · rename_i ends
    obtain ⟨rest, same⟩ := List.getLast?_eq_some_iff.mp ends
    rw [same]
    constructor
    · rintro ⟨rest', split, other⟩ ⟨before, twice⟩
      obtain ⟨rfl, -⟩ := List.append_inj' split rfl
      have again : before ++ [whip] ++ [whip] = rest ++ [whip] := by rw [← twice]; simp
      obtain ⟨rfl, -⟩ := List.append_inj' again rfl
      exact other List.getLast?_concat
    · intro single
      refine ⟨rest, rfl, fun again => single ?_⟩
      obtain ⟨before, rfl⟩ := List.getLast?_eq_some_iff.mp again
      exact ⟨before, by simp⟩
  · rename_i elsewhere
    apply iff_of_true ⟨_, rfl, elsewhere⟩
    rintro ⟨before, twice⟩
    rw [← twice] at elsewhere
    simp at elsewhere

theorem trim_padded (before : Nat) (part : String) (after : Nat) :
    trim '/' (padded before part after).toList = trim '/' part.toList := by
  rw [padded, String.toList_ofList, trim_pad]

theorem prepared_padded (default : String) {part : String} (given : trim '/' part.toList ≠ [])
    (before after : Nat) : prepared default (padded before part after) = prepared default part := by
  have same := trim_padded before part after
  rw [prepared_of_given default given, prepared_of_given default (same ▸ given), same]

theorem padded_zero (part : String) : padded 0 part 0 = part := by
  simp [padded]

/-- The default stands in for an empty part, and not for slashes. -/
theorem stable_iff (properHost : Proper host) (properPath : Proper path) :
    (∀ a b c d, buildWhipUrl (padded a host b) (padded c path d) = buildWhipUrl host path) ↔
      trim '/' host.toList ≠ [] ∧ trim '/' path.toList ≠ [] := by
  constructor
  · intro stable
    constructor
    · intro nothing
      obtain rfl := properHost.resolve_right (not_not.mpr nothing)
      have same := congrArg String.toList (stable 1 0 0 0)
      rw [buildWhipUrl_toList, buildWhipUrl_toList] at same
      exact absurd (List.cons.inj same).1 (by decide)
    · intro nothing
      obtain rfl := properPath.resolve_right (not_not.mpr nothing)
      have same := congrArg String.toList (stable 0 0 1 0)
      rw [padded_zero, buildWhipUrl_toList, buildWhipUrl_toList] at same
      exact absurd (List.append_cancel_left same) (by decide)
  · rintro ⟨givenHost, givenPath⟩ a b c d
    rw [← String.toList_inj, buildWhipUrl_toList, buildWhipUrl_toList,
      prepared_padded _ givenHost, prepared_padded _ givenPath]

end Parts

/-- The formula of the WHIP URL holds exactly for the plain hosts and paths, and what is
drawn from it exactly for the settled ones. -/
theorem buildWhipUrl_iff (host path : String) :
    (Formula host path ↔ Plain host path) ∧ (WellBuilt host path ↔ Settled host path) := by
  refine ⟨formula_iff host path, ?_⟩
  constructor
  · rintro ⟨formula, ends, full, stable⟩
    have plain := (formula_iff host path).mp formula
    obtain ⟨givenHost, givenPath⟩ := (stable_iff plain.properHost plain.properPath).mp stable
    exact ⟨plain, givenHost, givenPath, (full_iff _).mp full, (ends_iff _).mp ends⟩
  · rintro ⟨plain, givenHost, givenPath, full, single⟩
    exact ⟨(formula_iff host path).mpr plain, (ends_iff _).mpr single, (full_iff _).mpr full,
      (stable_iff plain.properHost plain.properPath).mpr ⟨givenHost, givenPath⟩⟩

/-- The path "whip" gets a second one, and the path "/" an empty segment. -/
theorem buildWhipUrl_slips :
    buildWhipUrl "http://media" "whip" = "http://media/whip/whip" ∧
    buildWhipUrl "http://media" "/" = "http://media//whip" ∧
    buildWhipUrl "http://media" "cam/whipped" = "http://media/cam/whipped" ∧
    ¬∀ host path, Formula host path := by
  refine ⟨by decide, by decide, by decide, fun always => ?_⟩
  exact absurd (always "http://media" "whip") (by unfold Formula; decide)

end VideoCodec.StreamConfig
