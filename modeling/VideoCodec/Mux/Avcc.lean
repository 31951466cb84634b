import VideoCodec.Core.Types
import VideoCodec.Nal.AnnexB
import VideoCodec.Scan.Framing

/-! The byte conversions of the FFmpeg muxer: an Annex-B packet to an AVCC
sample, and the parameter sets of a keyframe to the avcC record. -/
namespace VideoCodec.FFmpegMuxer

/-- H.264 NAL unit type (low 5 bits of the NAL header byte). -/
def nalType (b : UInt8) : UInt8 := b &&& 0x1F

/-- The length of the Annex-B start code at the head of `p`, if there is one. -/
def isStartCode (p : List UInt8) : Option Nat :=
  if [0, 0, 0, 1] <+: p then some 4
  else if [0, 0, 1] <+: p then some 3
  else none

def appendLenPrefixed (out nal : List UInt8) : List UInt8 :=
  out ++ [UInt8.ofNat (nal.length >>> 24), UInt8.ofNat (nal.length >>> 16),
    UInt8.ofNat (nal.length >>> 8), UInt8.ofNat nal.length] ++ nal

def startLength (p : List UInt8) : Nat := (isStartCode p).getD 0

/-- What `AnnexBToAvcc` does with the bytes between two start codes. -/
def appendUnit (out : List UInt8) : List UInt8 → List UInt8
  | [] => out
  | head :: nal =>
    -- SPS/PPS live in extradata only
    if nalType head = 7 ∨ nalType head = 8 then out else appendLenPrefixed out (head :: nal)

def annexBToAvcc (data : List UInt8) : Status × List UInt8 :=
  let out := Delimited.loop startLength (fun _ => true) appendUnit data.length data []
  (if out = [] then .kEncodeFailed else .kOk, out)

/-- A parameter set with the bytes that the avcC record reads from it. -/
structure ParameterSet where
  nal : List UInt8
  long : 4 ≤ nal.length

/-- The set of a type found so far, after the unit `nal`: a unit of fewer than
four bytes is skipped, and the first of the type stays. -/
def assignFirst (type : UInt8) (set : Option ParameterSet) (nal : List UInt8) :
    Option ParameterSet :=
  if long : 4 ≤ nal.length then
    if nalType (nal.get ⟨0, Nat.lt_of_lt_of_le (by decide) long⟩) = type ∧ set.isNone then
      some ⟨nal, long⟩
    else set
  else set

structure Sets where
  sps : Option ParameterSet := none
  pps : Option ParameterSet := none

/-- What `BuildExtradata` does with the bytes between two start codes. -/
def Sets.visit (sets : Sets) (nal : List UInt8) : Sets :=
  { sps := assignFirst 7 sets.sps nal, pps := assignFirst 8 sets.pps nal }

def Sets.wanting (sets : Sets) : Bool := sets.sps.isNone || sets.pps.isNone

/-- The avcC record; both sets include their NAL header byte. -/
def avcC (sps pps : ParameterSet) : List UInt8 :=
  [1, sps.nal.get ⟨1, Nat.lt_of_lt_of_le (by decide) sps.long⟩,
    sps.nal.get ⟨2, Nat.lt_of_lt_of_le (by decide) sps.long⟩,
    sps.nal.get ⟨3, Nat.lt_of_lt_of_le (by decide) sps.long⟩,
    0xFF,  -- 4-byte NAL lengths
    0xE0 ||| 1,
    UInt8.ofNat (sps.nal.length >>> 8), UInt8.ofNat (sps.nal.length &&& 0xFF)] ++ sps.nal ++
    [1, UInt8.ofNat (pps.nal.length >>> 8), UInt8.ofNat (pps.nal.length &&& 0xFF)] ++ pps.nal

def buildExtradata (data : List UInt8) : Except Status (List UInt8) :=
  let sets := Delimited.loop startLength Sets.wanting Sets.visit data.length data {}
  match sets.sps, sets.pps with
  | some sps, some pps => .ok (avcC sps pps)
  | _, _ => .error .kEncodeFailed

/-- The same table and the same two bytes as the Android helper. -/
def buildAudioSpecificConfig (sampleRate channels : Int) : Except Status (List UInt8) :=
  match Android.buildAudioSpecificConfig sampleRate channels with
  | some asc => .ok asc
  | none => .error .kEncodeFailed

open Android (startCodeLength splitAnnexB nalUnits)

/-- The two scanners recognise the same start codes. -/
theorem startLength_eq : startLength = startCodeLength := by
  funext p
  rw [startLength, isStartCode, startCodeLength]
  split
  · rfl
  · split <;> rfl

section Sample
variable {data unit : List UInt8} {units : List (List UInt8)}

/-- A unit that goes into a sample: neither SPS nor PPS. -/
def carried (unit : List UInt8) : Bool :=
  unit.head?.any fun head => nalType head ≠ 7 ∧ nalType head ≠ 8

theorem appendLenPrefixed_eq (out nal : List UInt8) :
    appendLenPrefixed out nal = out ++ Framing.frame 4 nal := by
  simp [appendLenPrefixed, Framing.frame, Framing.bigEndian]

theorem appendUnit_eq (out unit : List UInt8) :
    appendUnit out unit = if carried unit then out ++ Framing.frame 4 unit else out := by
  cases unit with
  | nil => rfl
  | cons head nal =>
    rw [appendUnit, appendLenPrefixed_eq]
    by_cases special : nalType head = 7 ∨ nalType head = 8
    · have dropped : carried (head :: nal) = false := by
        rcases special with sps | pps
        · simp [carried, sps]
        · simp [carried, pps]
      rw [if_pos special, dropped, if_neg Bool.false_ne_true]
    · have kept : carried (head :: nal) = true := by
        simpa [carried, not_or] using special
      rw [if_neg special, if_pos kept]

theorem foldl_appendUnit (units : List (List UInt8)) (out : List UInt8) :
    units.foldl appendUnit out = out ++ (units.filter carried).flatMap (Framing.frame 4) := by
  induction units generalizing out with
  | nil => exact (List.append_nil out).symm
  | cons unit units ih =>
    rw [List.foldl_cons, ih, appendUnit_eq]
    cases kept : carried unit with
    | true => simp [kept]
    | false => simp [kept]

/-- No empty segment is carried. -/
theorem filter_carried (data : List UInt8) :
    (nalUnits data).filter carried =
      (Delimited.segments startCodeLength data).filter carried := by
  rw [nalUnits, List.filter_filter]
  apply List.filter_congr
  intro unit _
  cases unit with
  | nil => rfl
  | cons head nal => simp

/-- The sample of a packet: its carried units, each behind its length. -/
theorem annexBToAvcc_sample (data : List UInt8) :
    (annexBToAvcc data).2 = ((nalUnits data).filter carried).flatMap (Framing.frame 4) := by
  rw [annexBToAvcc, Delimited.loop_all, foldl_appendUnit, List.nil_append, startLength_eq,
    filter_carried]

theorem annexBToAvcc_status (data : List UInt8) :
    (annexBToAvcc data).1 = .kOk ↔ (nalUnits data).filter carried ≠ [] := by
  have status : (annexBToAvcc data).1 = .kOk ↔ (annexBToAvcc data).2 ≠ [] := by
    rw [annexBToAvcc]
    dsimp only
    split
    · rename_i empty
      simp [empty]
    · rename_i nonempty
      exact ⟨fun _ => nonempty, fun _ => rfl⟩
  rw [status, annexBToAvcc_sample, not_iff_not]
  constructor
  · intro empty
    by_contra some
    obtain ⟨unit, units, carries⟩ := List.exists_cons_of_ne_nil some
    have size := congrArg List.length empty
    rw [carries, List.flatMap_cons, List.length_append, Framing.frame_length,
      List.length_nil] at size
    omega
  · intro none
    rw [none, List.flatMap_nil]

end Sample

/-- The sample of a packet parses into the units that `SplitAnnexB` finds, less
the parameter sets, and the conversion succeeds when there are any. -/
theorem annexBToAvcc_refines (data : List UInt8)
    (fits : ∀ unit ∈ (splitAnnexB data).2, unit.length < 2 ^ 32) :
    Framing.parse 4 (annexBToAvcc data).2 = some ((splitAnnexB data).2.filter carried) ∧
    ((annexBToAvcc data).1 = .kOk ↔ (splitAnnexB data).2.filter carried ≠ []) := by
  rw [Android.splitAnnexB_eq] at fits ⊢
  constructor
  · rw [annexBToAvcc_sample]
    apply Framing.parse_frames
    · intro unit member
      exact fits unit (List.mem_of_mem_filter member)
    · decide
  · exact annexBToAvcc_status data

/-- Junk, an empty unit, both start codes, an SPS and a unit that ends in zeros. -/
theorem annexBToAvcc_refines_mixed :
    let data := [9, 0, 0, 1, 0, 0, 0, 1, 0x67, 1, 0, 0, 1, 0x65, 7, 0, 0, 0, 0, 1, 0x41]
    Framing.parse 4 (annexBToAvcc data).2 = some [[0x65, 7, 0], [0x41]] := by
  intro data
  have refines := annexBToAvcc_refines data (by decide)
  rw [refines.1]
  decide

section Extradata
variable {data unit extradata : List UInt8} {units : List (List UInt8)}

/-- A unit that can be the parameter set of a type. -/
def isSet (type : UInt8) (unit : List UInt8) : Bool :=
  4 ≤ unit.length && unit.head?.any fun head => nalType head = type

/-- The first unit of a type stays once it is found. -/
theorem assignFirst_nal (type : UInt8) (set : Option ParameterSet) (unit : List UInt8) :
    (assignFirst type set unit).map ParameterSet.nal =
      (set.map ParameterSet.nal).or (if isSet type unit then some unit else none) := by
  rw [assignFirst]
  split
  · rename_i long
    cases unit with
    | nil => exact absurd long (by decide)
    | cons head nal =>
      have typed : isSet type (head :: nal) = decide (nalType head = type) := by
        simp only [isSet, long, decide_true, Bool.true_and, List.head?_cons, Option.any_some]
      cases set with
      | some set => simp
      | none => by_cases same : nalType head = type <;> simp [typed, same]
  · rename_i short
    have none : isSet type unit = false := by
      rw [isSet, decide_eq_false short, Bool.false_and]
    rw [none, if_neg Bool.false_ne_true, Option.or_none]

theorem foldl_assignFirst (type : UInt8) (units : List (List UInt8)) (set : Option ParameterSet) :
    (units.foldl (assignFirst type) set).map ParameterSet.nal =
      (set.map ParameterSet.nal).or (units.find? (isSet type)) := by
  induction units generalizing set with
  | nil => exact (Option.or_none).symm
  | cons unit units ih =>
    rw [List.foldl_cons, ih, assignFirst_nal, Option.or_assoc, List.find?_cons]
    cases isSet type unit with
    | true => rfl
    | false => rfl

/-- Once both sets are there, nothing more is read. -/
theorem Sets.visit_of_complete {sets : Sets} (complete : sets.wanting = false) (nal : List UInt8) :
    sets.visit nal = sets := by
  obtain ⟨sps, pps⟩ := sets
  obtain ⟨spsFound, ppsFound⟩ := Bool.or_eq_false_iff.mp complete
  simp only [Sets.visit, assignFirst]
  simp [spsFound, ppsFound]

theorem foldl_visit (units : List (List UInt8)) (sets : Sets) :
    units.foldl Sets.visit sets =
      ⟨units.foldl (assignFirst 7) sets.sps, units.foldl (assignFirst 8) sets.pps⟩ := by
  induction units generalizing sets with
  | nil => rfl
  | cons unit units ih => exact ih (sets.visit unit)

/-- The first unit of a byte string that can be the parameter set of a type. -/
def firstSet (type : UInt8) (data : List UInt8) : Option (List UInt8) :=
  (nalUnits data).find? (isSet type)

/-- The sets that the scan of a packet ends with, though it may stop early. -/
theorem loop_sets (data : List UInt8) :
    let sets := Delimited.loop startLength Sets.wanting Sets.visit data.length data {}
    sets.sps.map ParameterSet.nal = firstSet 7 data ∧
      sets.pps.map ParameterSet.nal = firstSet 8 data := by
  intro sets
  have whole : sets = (Delimited.segments startCodeLength data).foldl Sets.visit {} := by
    rw [← startLength_eq]
    refine (Delimited.loop_eq data _).trans (congrArg (List.foldl · _ _) ?_)
    funext sets nal
    split
    · rfl
    · rename_i complete
      exact (Sets.visit_of_complete (Bool.eq_false_iff.mpr complete) nal).symm
  have first : ∀ type, (nalUnits data).find? (isSet type) =
      (Delimited.segments startCodeLength data).find? (isSet type) := by
    intro type
    rw [nalUnits, List.find?_filter]
    congr 1
    funext unit
    cases unit with
    | nil => rfl
    | cons head nal => simp
  rw [whole, foldl_visit]
  constructor
  · rw [foldl_assignFirst, firstSet, first]
    rfl
  · rw [foldl_assignFirst, firstSet, first]
    rfl

/-- The extradata of a packet is the avcC record of its first SPS and PPS. -/
theorem buildExtradata_ok_iff :
    buildExtradata data = .ok extradata ↔ ∃ sps pps : ParameterSet,
      firstSet 7 data = some sps.nal ∧ firstSet 8 data = some pps.nal ∧
        extradata = avcC sps pps := by
  have sets := loop_sets data
  rw [buildExtradata]
  generalize Delimited.loop startLength Sets.wanting Sets.visit data.length data {} = found at *
  obtain ⟨sps, pps⟩ := found
  obtain ⟨spsFound, ppsFound⟩ := sets
  rw [← spsFound, ← ppsFound]
  constructor
  · intro built
    rcases sps with _ | sps
    · cases built
    · rcases pps with _ | pps
      · cases built
      · exact ⟨sps, pps, rfl, rfl, (Except.ok.inj built).symm⟩
  · rintro ⟨sps', pps', spsSame, ppsSame, rfl⟩
    obtain ⟨sps, rfl, spsNal⟩ := Option.map_eq_some_iff.mp spsSame
    obtain ⟨pps, rfl, ppsNal⟩ := Option.map_eq_some_iff.mp ppsSame
    obtain ⟨nal, long⟩ := sps
    obtain ⟨nal', long'⟩ := pps
    obtain rfl := spsNal
    obtain rfl := ppsNal
    rfl

end Extradata

end VideoCodec.FFmpegMuxer
