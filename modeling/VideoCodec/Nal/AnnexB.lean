import VideoCodec.Scan.Delimited
import Mathlib.Data.List.Infix
import Mathlib.Data.List.Chain

/-! The pure helpers of the Android backends: NAL units between Annex-B start
codes, and the configuration record of an AAC-LC track. -/
namespace VideoCodec.Android

def kStartCode : List UInt8 := [0, 0, 0, 1]

/-- The Annex-B start-code length at the head of `p` (3 or 4), or 0 if none. -/
def startCodeLength (p : List UInt8) : Nat :=
  if [0, 0, 0, 1] <+: p then 4 else if [0, 0, 1] <+: p then 3 else 0

/-- Sampling-frequency index for the AAC AudioSpecificConfig; -1 for rates the
muxer cannot describe. -/
def samplingFrequencyIndex : Int → Int
  | 96000 => 0
  | 88200 => 1
  | 64000 => 2
  | 48000 => 3
  | 44100 => 4
  | 32000 => 5
  | 24000 => 6
  | 22050 => 7
  | 16000 => 8
  | 12000 => 9
  | 11025 => 10
  | 8000 => 11
  | 7350 => 12
  | _ => -1

def appendAnnexB (keyframe : Bool) (sps pps payload out : List UInt8) : List UInt8 :=
  let out := if keyframe ∧ sps ≠ [] then out ++ kStartCode ++ sps else out
  let out := if keyframe ∧ pps ≠ [] then out ++ kStartCode ++ pps else out
  out ++ kStartCode ++ payload

/-- What `SplitAnnexB` does with the bytes between two start codes. -/
def keepUnit (units : List (List UInt8)) (nal : List UInt8) : List (List UInt8) :=
  if nal.length > 0 then units ++ [nal] else units

/-- The result and the units; a null pointer has no bytes. -/
def splitAnnexB (data : List UInt8) : Bool × List (List UInt8) :=
  if data = [] then (false, [])
  else
    let units := Delimited.loop startCodeLength (fun _ => true) keepUnit data.length data []
    (!units.isEmpty, units)

/-- Whether the first unit of an access unit has a type, in the five bits of H.264. -/
def startsWithNal (data : List UInt8) (nalType : UInt8) : Bool :=
  if data = [] then false
  else if startCodeLength data = 0 then false
  else
    match data.drop (startCodeLength data) with
    | [] => false
    | head :: _ => head &&& 0x1F = nalType &&& 0x1F

/-- The two bytes of an AAC-LC AudioSpecificConfig: 5 bits object type, 4 bits
frequency index, 4 bits channel configuration. -/
def buildAudioSpecificConfig (sampleRate channels : Int) : Option (List UInt8) :=
  let freqIndex := samplingFrequencyIndex sampleRate
  if freqIndex < 0 ∨ channels < 1 ∨ channels > 7 then none
  else
    let freqIndex := freqIndex.toNat
    some [UInt8.ofNat (((2 <<< 3) &&& 0xF8) ||| ((freqIndex >>> 1) &&& 0x07)),
      UInt8.ofNat (((freqIndex &&& 1) <<< 7) ||| ((channels.toNat &&& 0x0F) <<< 3))]

/-- The units of a byte string: what follows each start code, unless empty. -/
def nalUnits (data : List UInt8) : List (List UInt8) :=
  (Delimited.segments startCodeLength data).filter (· ≠ [])

section Split
variable {data unit tail : List UInt8}

theorem foldl_keepUnit (bodies units : List (List UInt8)) :
    bodies.foldl keepUnit units = units ++ bodies.filter (· ≠ []) := by
  induction bodies generalizing units with
  | nil => rw [List.foldl_nil, List.filter_nil, List.append_nil]
  | cons body bodies ih =>
    rw [List.foldl_cons, ih, keepUnit]
    cases body with
    | nil => simp
    | cons byte body => simp

theorem splitAnnexB_eq (data : List UInt8) :
    splitAnnexB data = (!(nalUnits data).isEmpty, nalUnits data) := by
  rw [splitAnnexB]
  split
  · rename_i empty
    rw [empty]
    rfl
  · rw [Delimited.loop_all, foldl_keepUnit, List.nil_append]
    rfl

theorem startCodeLength_eq_zero : startCodeLength data = 0 ↔ ¬ [0, 0, 1] <+: data ∧
    ¬ [0, 0, 0, 1] <+: data := by
  rw [startCodeLength]
  constructor
  · intro none
    split at none
    · cases none
    · split at none
      · cases none
      · rename_i long short
        exact ⟨short, long⟩
  · rintro ⟨short, long⟩
    rw [if_neg long, if_neg short]

/-- No start code begins in what stands before the next one. -/
theorem infix_free_of_quiet (quiet : Delimited.Quiet startCodeLength tail unit) :
    ¬ [0, 0, 1] <:+: unit := by
  induction unit with
  | nil => exact fun inside => absurd (List.eq_nil_of_infix_nil inside) (List.cons_ne_nil _ _)
  | cons byte unit ih =>
    obtain ⟨none, quiet⟩ := quiet
    intro inside
    rcases List.infix_cons_iff.mp inside with head | later
    · exact (startCodeLength_eq_zero.mp none).1 (head.trans (List.prefix_append _ _))
    · exact ih quiet later

/-- A unit of a byte string is not empty and holds no start code. -/
theorem of_mem_nalUnits (member : unit ∈ nalUnits data) :
    unit ≠ [] ∧ ¬ [0, 0, 1] <:+: unit := by
  obtain ⟨segment, nonempty⟩ := List.mem_filter.mp member
  obtain ⟨tail, quiet⟩ := Delimited.quiet_of_mem_segments segment
  exact ⟨of_decide_eq_true nonempty, infix_free_of_quiet quiet⟩

end Split

/-- The two start codes of an Annex-B stream. -/
inductive StartCode where
  | short
  | long
  deriving DecidableEq, Repr

def StartCode.bytes : StartCode → List UInt8
  | .short => [0, 0, 1]
  | .long => kStartCode

/-- Units one after the other, each behind its start code. -/
def stream (units : List (StartCode × List UInt8)) : List UInt8 :=
  units.flatMap fun unit => unit.1.bytes ++ unit.2

/-- Units that their start codes tell apart: none is empty or holds a start
code, and none that a short start code follows ends in the zero that would make
it a long one. -/
structure Separable (units : List (StartCode × List UInt8)) : Prop where
  nonempty : ∀ unit ∈ units, unit.2 ≠ []
  free : ∀ unit ∈ units, ¬ [0, 0, 1] <:+: unit.2
  apart : units.IsChain fun first second => second.1 = .short → first.2.getLast? ≠ some 0

section Join
variable {unit tail : List UInt8} {units : List (StartCode × List UInt8)}

theorem startCodeLength_bytes (code : StartCode) (rest : List UInt8) :
    startCodeLength (code.bytes ++ rest) = code.bytes.length := by
  cases code with
  | long => simp [startCodeLength, StartCode.bytes, kStartCode]
  | short => simp [startCodeLength, StartCode.bytes]

/-- What may follow a unit: nothing, or a start code that the end of the unit
does not lengthen. -/
def Follows (unit tail : List UInt8) : Prop :=
  tail = [] ∨ ∃ (code : StartCode) (rest : List UInt8), tail = code.bytes ++ rest ∧
    (code = .short → unit.getLast? ≠ some 0)

/-- A start code at the head of a unit and what follows it lies in the unit. -/
theorem prefix_of_follows {byte : UInt8} (follows : Follows (byte :: unit) tail)
    (found : startCodeLength (byte :: unit ++ tail) ≠ 0) : [0, 0, 1] <:+: byte :: unit := by
  have code : [0, 0, 1] <+: byte :: unit ++ tail ∨ [0, 0, 0, 1] <+: byte :: unit ++ tail := by
    by_contra neither
    exact found (startCodeLength_eq_zero.mpr (not_or.mp neither))
  rcases unit with _ | ⟨second, _ | ⟨third, unit⟩⟩
  · rcases follows with rfl | ⟨_ | _, rest, rfl, last⟩
    · simp at code
    · -- the short start code and a zero before it would be a long one
      simp [StartCode.bytes] at code last
      exact absurd code.symm last
    · simp [StartCode.bytes, kStartCode] at code
  · rcases follows with rfl | ⟨_ | _, rest, rfl, last⟩
    · simp at code
    · simp [StartCode.bytes] at code
    · simp [StartCode.bytes, kStartCode] at code
  · rcases code with short | long
    · simp at short
      obtain ⟨rfl, rfl, rfl⟩ := short
      exact (List.prefix_append [0, 0, 1] unit).isInfix
    · cases unit with
      | nil =>
        rcases follows with rfl | ⟨_ | _, rest, rfl, last⟩
        · simp at long
        · simp [StartCode.bytes] at long
        · simp [StartCode.bytes, kStartCode] at long
      | cons fourth unit =>
        simp at long
        obtain ⟨rfl, rfl, rfl, rfl⟩ := long
        exact ⟨[0], unit, rfl⟩

/-- Between its start code and the next one, no start code begins in a unit. -/
theorem quiet_of_follows (follows : Follows unit tail) (free : ¬ [0, 0, 1] <:+: unit) :
    Delimited.Quiet startCodeLength tail unit := by
  induction unit with
  | nil => trivial
  | cons byte unit ih =>
    have later : Follows unit tail := by
      rcases follows with none | ⟨code, rest, rfl, last⟩
      · exact .inl none
      · refine .inr ⟨code, rest, rfl, fun short => ?_⟩
        cases unit with
        | nil => exact Option.some_ne_none 0 |>.symm
        | cons second unit => exact last short
    constructor
    · by_contra found
      exact free (prefix_of_follows follows found)
    · exact ih later fun inside => free (List.infix_cons inside)

theorem Separable.framed (separable : Separable units) :
    Delimited.Framed startCodeLength (units.map Prod.snd) (stream units) := by
  induction units with
  | nil => exact .nil
  | cons unit units ih =>
    obtain ⟨nonempty, free, apart⟩ := separable
    have rest : Separable units :=
      ⟨fun later member => nonempty later (List.mem_cons_of_mem _ member),
        fun later member => free later (List.mem_cons_of_mem _ member), apart.tail⟩
    have follows : Follows unit.2 (stream units) := by
      cases units with
      | nil => exact .inl rfl
      | cons next units =>
        refine .inr ⟨next.1, next.2 ++ stream units, ?_, ?_⟩
        · rw [stream, List.flatMap_cons, List.append_assoc]
          rfl
        · exact (List.isChain_cons_cons.mp apart).1
    rw [stream, List.flatMap_cons, List.append_assoc, List.map_cons]
    refine .cons ?_ (startCodeLength_bytes _ _)
      (quiet_of_follows follows (free unit List.mem_cons_self)) (ih rest)
    cases unit.1 <;> exact List.cons_ne_nil _ _

/-- Separable units are read back from their stream. -/
theorem Separable.nalUnits_stream (separable : Separable units) :
    nalUnits (stream units) = units.map Prod.snd := by
  rw [nalUnits, separable.framed.segments_eq, List.filter_eq_self]
  intro unit member
  obtain ⟨coded, among, rfl⟩ := List.mem_map.mp member
  exact decide_eq_true (separable.nonempty coded among)

end Join

section Rewrite
variable {data : List UInt8}

/-- Units written one after the other by `AppendAnnexB`. -/
def writeBack (sps pps : List UInt8) (units : List (List UInt8)) : List UInt8 :=
  units.foldl (fun out unit => appendAnnexB false sps pps unit out) []

theorem writeBack_eq (sps pps : List UInt8) (units : List (List UInt8)) :
    writeBack sps pps units = stream (units.map (StartCode.long, ·)) := by
  suffices general : ∀ out, units.foldl (fun out unit => appendAnnexB false sps pps unit out) out =
      out ++ stream (units.map (StartCode.long, ·)) by
    rw [writeBack, general, List.nil_append]
  induction units with
  | nil => exact fun out => (List.append_nil out).symm
  | cons unit units ih =>
    intro out
    rw [List.foldl_cons, ih]
    simp [appendAnnexB, stream, StartCode.bytes]

/-- The units of a byte string, each behind a long start code, are separable. -/
theorem separable_nalUnits (data : List UInt8) :
    Separable ((nalUnits data).map (StartCode.long, ·)) := by
  constructor
  · intro unit member
    obtain ⟨nal, among, rfl⟩ := List.mem_map.mp member
    exact (of_mem_nalUnits among).1
  · intro unit member
    obtain ⟨nal, among, rfl⟩ := List.mem_map.mp member
    exact (of_mem_nalUnits among).2
  · rw [List.isChain_map]
    apply List.Pairwise.isChain
    apply List.pairwise_of_forall
    intro _ _ short
    cases short

end Rewrite

section Prepend
variable {unit payload : List UInt8}

/-- A start code at the head of a byte string is one of the two. -/
theorem startCode_of_length (code : startCodeLength payload ≠ 0) :
    ∃ found : StartCode, payload = found.bytes ++ payload.drop (startCodeLength payload) := by
  rw [startCodeLength] at code ⊢
  split
  · rename_i long
    obtain ⟨rest, rfl⟩ := long
    exact ⟨.long, rfl⟩
  · rename_i noLong
    rw [if_neg noLong] at code
    split
    · rename_i short
      obtain ⟨rest, rfl⟩ := short
      exact ⟨.short, rfl⟩
    · rename_i noShort
      rw [if_neg noShort] at code
      exact absurd rfl code

theorem segments_bytes (code : StartCode) (rest : List UInt8) :
    Delimited.segments startCodeLength (code.bytes ++ rest) =
      (Delimited.untilNext startCodeLength rest).1 ::
        Delimited.segments startCodeLength (Delimited.untilNext startCodeLength rest).2 := by
  refine Delimited.segments_delimiter ?_ (startCodeLength_bytes code rest)
  cases code <;> exact List.cons_ne_nil _ _

/-- Which start code stands before its first unit is the same to a byte string. -/
theorem nalUnits_strip (code : startCodeLength payload ≠ 0) :
    nalUnits (kStartCode ++ payload.drop (startCodeLength payload)) = nalUnits payload := by
  obtain ⟨found, split⟩ := startCode_of_length code
  have same : Delimited.segments startCodeLength
      (kStartCode ++ payload.drop (startCodeLength payload)) =
        Delimited.segments startCodeLength payload := by
    conv_rhs => rw [split]
    rw [segments_bytes, ← segments_bytes .long]
    rfl
  rw [nalUnits, same, nalUnits]

/-- A unit behind its start code comes before the units of what follows it. -/
theorem nalUnits_unit (nonempty : unit ≠ []) (free : ¬ [0, 0, 1] <:+: unit) (rest : List UInt8) :
    nalUnits (kStartCode ++ unit ++ (kStartCode ++ rest)) =
      unit :: nalUnits (kStartCode ++ rest) := by
  have follows : Follows unit (kStartCode ++ rest) := .inr ⟨.long, rest, rfl, nofun⟩
  have boundary : startCodeLength (kStartCode ++ rest) ≠ 0 :=
    (startCodeLength_bytes .long rest).trans_ne (Nat.succ_ne_zero 3)
  have front : Delimited.segments startCodeLength (kStartCode ++ (unit ++ (kStartCode ++ rest))) =
      unit :: Delimited.segments startCodeLength (kStartCode ++ rest) := by
    refine (segments_bytes .long _).trans ?_
    rw [Delimited.untilNext_exact (quiet_of_follows follows free) (.inr boundary)]
  rw [nalUnits, List.append_assoc, front, List.filter_cons, if_pos (decide_eq_true nonempty),
    nalUnits]

/-- The units that `AppendAnnexB` puts before a keyframe. -/
theorem appendAnnexB_eq (sps pps stripped : List UInt8) :
    appendAnnexB true sps pps stripped [] =
      stream (([sps, pps].filter (· ≠ [])).map (StartCode.long, ·)) ++
        (kStartCode ++ stripped) := by
  rw [appendAnnexB]
  by_cases noSps : sps = [] <;> by_cases noPps : pps = [] <;>
    simp [noSps, noPps, stream, StartCode.bytes]

theorem nalUnits_stream_append {units : List (List UInt8)}
    (free : ∀ unit ∈ units, unit ≠ [] ∧ ¬ [0, 0, 1] <:+: unit) (rest : List UInt8) :
    nalUnits (stream (units.map (StartCode.long, ·)) ++ (kStartCode ++ rest)) =
      units ++ nalUnits (kStartCode ++ rest) := by
  induction units with
  | nil => rfl
  | cons unit units ih =>
    obtain ⟨⟨nonempty, clean⟩, later⟩ := List.forall_mem_cons.mp free
    have next := ih later
    -- whatever follows the unit begins with a start code
    have start : ∃ tail, stream (units.map (StartCode.long, ·)) ++ (kStartCode ++ rest) =
        kStartCode ++ tail := by
      cases units with
      | nil => exact ⟨rest, rfl⟩
      | cons second units =>
        refine ⟨second ++ (stream (units.map (StartCode.long, ·)) ++ (kStartCode ++ rest)), ?_⟩
        simp [stream, StartCode.bytes]
    obtain ⟨tail, start⟩ := start
    rw [start] at next
    rw [List.map_cons, stream, List.flatMap_cons, ← stream, List.append_assoc, start]
    exact (nalUnits_unit nonempty clean tail).trans (congrArg (List.cons unit) next)

/-- The units of an assembled keyframe are the parameter sets and those of the payload. -/
theorem nalUnits_appendAnnexB {sps pps : List UInt8} (clean : ¬ [0, 0, 1] <:+: sps)
    (clean' : ¬ [0, 0, 1] <:+: pps) (code : startCodeLength payload ≠ 0) :
    nalUnits (appendAnnexB true sps pps (payload.drop (startCodeLength payload)) []) =
      [sps, pps].filter (· ≠ []) ++ nalUnits payload := by
  rw [appendAnnexB_eq, nalUnits_stream_append, nalUnits_strip code]
  intro unit member
  obtain ⟨among, nonempty⟩ := List.mem_filter.mp member
  refine ⟨of_decide_eq_true nonempty, ?_⟩
  rcases List.mem_cons.mp among with rfl | last
  · exact clean
  · rw [List.mem_singleton.mp last]
    exact clean'

end Prepend

section Append

/-- A long start code begins a unit wherever it stands; it is no part of one that
begins before it. -/
theorem startCodeLength_before (byte : UInt8) (front rest : List UInt8) :
    startCodeLength (byte :: front ++ (kStartCode ++ rest)) = startCodeLength (byte :: front) := by
  rcases front with _ | ⟨second, _ | ⟨third, _ | ⟨fourth, front⟩⟩⟩ <;>
    simp [startCodeLength, kStartCode]

theorem startCodeLength_le (data : List UInt8) : startCodeLength data ≤ data.length := by
  rw [startCodeLength]
  split
  · rename_i long
    exact long.length_le
  · split
    · rename_i short
      exact short.length_le
    · exact Nat.zero_le _

/-- The units of what ends and then begins with a long start code. -/
theorem nalUnits_append (front rest : List UInt8) :
    nalUnits (front ++ (kStartCode ++ rest)) = nalUnits front ++ nalUnits (kStartCode ++ rest) := by
  have boundary : startCodeLength (kStartCode ++ rest) ≠ 0 :=
    (startCodeLength_bytes .long rest).trans_ne (Nat.succ_ne_zero 3)
  rw [nalUnits, Delimited.segments_append (fun byte more _ => startCodeLength_before byte more rest)
    (fun _ _ _ => startCodeLength_le _) (.inr boundary), List.filter_append]
  rfl

/-- Byte strings that are empty or behind long start codes can be joined and told
apart again. -/
theorem nalUnits_flatten {parts : List (List UInt8)}
    (coded : ∀ part ∈ parts, part ≠ [] → kStartCode <+: part) :
    nalUnits parts.flatten = parts.flatMap nalUnits := by
  induction parts with
  | nil => rfl
  | cons part parts ih =>
    obtain ⟨-, later⟩ := List.forall_mem_cons.mp coded
    rw [List.flatten_cons, List.flatMap_cons, ← ih later]
    have joined : parts.flatten = [] ∨ kStartCode <+: parts.flatten := by
      clear ih coded
      induction parts with
      | nil => exact .inl rfl
      | cons next parts ih =>
        obtain ⟨first, rest⟩ := List.forall_mem_cons.mp later
        by_cases empty : next = []
        · rw [List.flatten_cons, empty, List.nil_append]
          exact ih rest
        · right
          rw [List.flatten_cons]
          exact (first empty).trans (List.prefix_append ..)
    rcases joined with none | ⟨rest, code⟩
    · simp [none, nalUnits, Delimited.segments, Delimited.segmentsWithin]
    · rw [← code]
      exact nalUnits_append part rest

end Append

/-- `SplitAnnexB` reads back any separable units, and the units of any byte
string once they are rewritten with long start codes. -/
theorem splitAnnexB_round_trip :
    (∀ units, Separable units →
      splitAnnexB (stream units) = (!units.isEmpty, units.map Prod.snd)) ∧
    ∀ data sps pps,
      splitAnnexB (writeBack sps pps (splitAnnexB data).2) = splitAnnexB data := by
  constructor
  · intro units separable
    rw [splitAnnexB_eq, separable.nalUnits_stream, List.isEmpty_map]
  · intro data sps pps
    have same := (separable_nalUnits data).nalUnits_stream
    simp only [List.map_map, Function.comp_def, List.map_id'] at same
    rw [splitAnnexB_eq data, writeBack_eq, splitAnnexB_eq, same]

theorem splitAnnexB_round_trip_mixed :
    splitAnnexB (stream [(.long, [0x67, 0x42]), (.short, [0x68, 0xCE, 1]), (.long, [0x65, 0])]) =
      (true, [[0x67, 0x42], [0x68, 0xCE, 1], [0x65, 0]]) :=
  splitAnnexB_round_trip.1 _
    ⟨by decide, by decide, by
      refine .cons_cons ?_ (.cons_cons ?_ (.singleton _)) <;> decide⟩

end VideoCodec.Android
