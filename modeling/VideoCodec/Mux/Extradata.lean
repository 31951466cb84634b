import VideoCodec.Mux.Avcc

/-! The avcC record that `BuildExtradata` writes, read back. Its sets stand behind
lengths of 16 bits. -/
namespace VideoCodec.FFmpegMuxer

open Android (splitAnnexB nalUnits)

/-- An avcC record with one SPS and one PPS and lengths of four bytes in its samples. -/
structure AvcRecord where
  profile : UInt8
  compatibility : UInt8
  level : UInt8
  sps : List UInt8
  pps : List UInt8
  deriving DecidableEq, Repr

/-- A reader of the record, which takes all bytes or fails. -/
def readRecord : List UInt8 → Option AvcRecord
  | 1 :: profile :: compatibility :: level :: 0xFF :: 0xE1 :: bytes =>
    match Framing.unframe 2 bytes with
    | some (sps, 1 :: bytes) =>
      match Framing.unframe 2 bytes with
      | some (pps, []) => some { profile, compatibility, level, sps, pps }
      | _ => none
    | _ => none
  | _ => none

/-- The first unit of a type with at least four bytes, among those of `SplitAnnexB`. -/
def chosen (type : UInt8) (data : List UInt8) : Option (List UInt8) :=
  (splitAnnexB data).2.find? (isSet type)

/-- The call succeeds exactly when there are an SPS and a PPS, and its output is the
record of the first ones. -/
structure RecordsSets (data : List UInt8) : Prop where
  succeeds : (∃ out, buildExtradata data = .ok out) ↔
    (∃ unit ∈ (splitAnnexB data).2, isSet 7 unit) ∧ ∃ unit ∈ (splitAnnexB data).2, isSet 8 unit
  records : ∀ out, buildExtradata data = .ok out →
    ∃ record, readRecord out = some record ∧ chosen 7 data = some record.sps ∧
      chosen 8 data = some record.pps ∧
        record.sps.extract 1 4 = [record.profile, record.compatibility, record.level]

/-- Where both sets are there, their lengths fit the record. -/
def SetsFit (data : List UInt8) : Prop :=
  ∀ sps ∈ chosen 7 data, ∀ pps ∈ chosen 8 data, sps.length < 2 ^ 16 ∧ pps.length < 2 ^ 16

section Record
variable {data : List UInt8}

theorem chosen_eq (type : UInt8) (data : List UInt8) : chosen type data = firstSet type data := by
  rw [chosen, Android.splitAnnexB_eq, firstSet]

theorem frame_two (unit : List UInt8) :
    [UInt8.ofNat (unit.length >>> 8), UInt8.ofNat (unit.length &&& 0xFF)] ++ unit =
      Framing.frame 2 unit := by
  have low : UInt8.ofNat (unit.length &&& 0xFF) = UInt8.ofNat unit.length := by
    apply UInt8.toNat_inj.mp
    rw [UInt8.toNat_ofNat', UInt8.toNat_ofNat', show 0xFF = 2 ^ 8 - 1 from rfl,
      Nat.and_two_pow_sub_one_eq_mod, Nat.mod_mod]
  rw [low]
  simp [Framing.frame, Framing.bigEndian]

/-- The record is a header with the three profile bytes, and the two sets framed. -/
theorem avcC_eq (sps pps : ParameterSet) :
    ∃ profile compatibility level, sps.nal.extract 1 4 = [profile, compatibility, level] ∧
      avcC sps pps = 1 :: profile :: compatibility :: level :: 0xFF :: 0xE1 ::
        (Framing.frame 2 sps.nal ++ (1 :: (Framing.frame 2 pps.nal ++ []))) := by
  obtain ⟨_ | ⟨head, _ | ⟨profile, _ | ⟨compatibility, _ | ⟨level, rest⟩⟩⟩⟩, long⟩ := sps
  · exact absurd long (Nat.not_le_of_lt (by simp))
  · exact absurd long (Nat.not_le_of_lt (by simp))
  · exact absurd long (Nat.not_le_of_lt (by simp))
  · exact absurd long (Nat.not_le_of_lt (by simp))
  · refine ⟨profile, compatibility, level, rfl, ?_⟩
    rw [← frame_two, ← frame_two, List.append_nil]
    simp only [avcC, List.cons_append, List.append_assoc]
    rfl

theorem readRecord_avcC {sps pps : ParameterSet} (spsFits : sps.nal.length < 2 ^ 16)
    (ppsFits : pps.nal.length < 2 ^ 16) :
    ∃ record, readRecord (avcC sps pps) = some record ∧ record.sps = sps.nal ∧
      record.pps = pps.nal ∧
        record.sps.extract 1 4 = [record.profile, record.compatibility, record.level] := by
  obtain ⟨profile, compatibility, level, bytes, layout⟩ := avcC_eq sps pps
  refine ⟨⟨profile, compatibility, level, sps.nal, pps.nal⟩, ?_, rfl, rfl, bytes⟩
  have second : Framing.unframe 2 (Framing.frame 2 pps.nal ++ []) = some (pps.nal, []) :=
    Framing.unframe_frame ppsFits []
  rw [layout, readRecord, Framing.unframe_frame spsFits]
  simp only [second]

/-- No record holds a set that its length cannot say. -/
theorem fits_of_readRecord {bytes : List UInt8} {record : AvcRecord}
    (read : readRecord bytes = some record) :
    record.sps.length < 2 ^ 16 ∧ record.pps.length < 2 ^ 16 := by
  rw [readRecord.eq_def] at read
  split at read
  · split at read
    · rename_i sps rest first
      split at read
      · rename_i pps second
        cases read
        exact ⟨Framing.length_lt_of_unframe first, Framing.length_lt_of_unframe second⟩
      · cases read
    · cases read
  · cases read

theorem exists_isSet_iff (type : UInt8) (data : List UInt8) :
    (∃ unit ∈ (splitAnnexB data).2, isSet type unit) ↔ ∃ set, chosen type data = some set := by
  rw [← Option.isSome_iff_exists, chosen, List.find?_isSome]

/-- A unit that was chosen is a parameter set. -/
theorem parameterSet_of_chosen {type : UInt8} {unit : List UInt8}
    (found : chosen type data = some unit) : ∃ set : ParameterSet, set.nal = unit := by
  have set := List.find?_some found
  rw [isSet, Bool.and_eq_true] at set
  exact ⟨⟨unit, of_decide_eq_true set.1⟩, rfl⟩

theorem buildExtradata_eq_ok {out : List UInt8} : buildExtradata data = .ok out ↔
    ∃ sps pps : ParameterSet, chosen 7 data = some sps.nal ∧ chosen 8 data = some pps.nal ∧
      out = avcC sps pps := by
  rw [buildExtradata_ok_iff, chosen_eq, chosen_eq]

theorem succeeds_iff (data : List UInt8) : (∃ out, buildExtradata data = .ok out) ↔
    (∃ unit ∈ (splitAnnexB data).2, isSet 7 unit) ∧
      ∃ unit ∈ (splitAnnexB data).2, isSet 8 unit := by
  rw [exists_isSet_iff, exists_isSet_iff]
  constructor
  · rintro ⟨out, built⟩
    obtain ⟨sps, pps, first, second, -⟩ := buildExtradata_eq_ok.mp built
    exact ⟨⟨_, first⟩, ⟨_, second⟩⟩
  · rintro ⟨⟨_, first⟩, ⟨_, second⟩⟩
    obtain ⟨sps, rfl⟩ := parameterSet_of_chosen first
    obtain ⟨pps, rfl⟩ := parameterSet_of_chosen second
    exact ⟨_, buildExtradata_eq_ok.mpr ⟨sps, pps, first, second, rfl⟩⟩

end Record

/-- The record of a packet reads back as its first SPS and PPS exactly when their
lengths fit 16 bits. -/
theorem records_sets_iff (data : List UInt8) : RecordsSets data ↔ SetsFit data := by
  constructor
  · rintro ⟨-, records⟩ _ first _ second
    obtain ⟨sps, rfl⟩ := parameterSet_of_chosen first
    obtain ⟨pps, rfl⟩ := parameterSet_of_chosen second
    obtain ⟨record, read, sameSps, samePps, -⟩ :=
      records _ (buildExtradata_eq_ok.mpr ⟨sps, pps, first, second, rfl⟩)
    have fits := fits_of_readRecord read
    have spsNal := Option.some.inj (first.symm.trans sameSps)
    have ppsNal := Option.some.inj (second.symm.trans samePps)
    rw [spsNal, ppsNal]
    exact fits
  · intro fits
    refine ⟨succeeds_iff data, fun out built => ?_⟩
    obtain ⟨sps, pps, first, second, rfl⟩ := buildExtradata_eq_ok.mp built
    obtain ⟨spsFits, ppsFits⟩ := fits _ first _ second
    obtain ⟨record, read, sameSps, samePps, bytes⟩ := readRecord_avcC spsFits ppsFits
    exact ⟨record, read, sameSps ▸ first, samePps ▸ second, bytes⟩

/-- A packet with an SPS of any size and a short PPS. -/
def sized (n : Nat) : List UInt8 :=
  Android.stream [(.long, 0x67 :: List.replicate n 1), (.long, [0x68, 1, 1, 1])]

theorem nalUnits_sized (n : Nat) :
    nalUnits (sized n) = [0x67 :: List.replicate n 1, [0x68, 1, 1, 1]] := by
  have free : ∀ unit ∈ [0x67 :: List.replicate n 1, [0x68, 1, 1, 1]], (0 : UInt8) ∉ unit := by
    simp [List.mem_replicate]
  have separable : Android.Separable
      [(.long, 0x67 :: List.replicate n 1), (.long, [0x68, 1, 1, 1])] := by
    refine ⟨by simp, ?_, by simp⟩
    intro unit member inside
    exact free unit.2 (List.mem_map_of_mem member) (inside.subset (by simp))
  exact separable.nalUnits_stream

theorem chosen_sized {n : Nat} (long : 3 ≤ n) :
    chosen 7 (sized n) = some (0x67 :: List.replicate n 1) ∧
      chosen 8 (sized n) = some [0x68, 1, 1, 1] := by
  have sps : isSet 7 (0x67 :: List.replicate n 1) = true := by
    simp only [isSet, List.length_cons, List.length_replicate, List.head?_cons, Option.any_some,
      Bool.and_eq_true, decide_eq_true_eq]
    exact ⟨by omega, by decide⟩
  have other : isSet 8 (0x67 :: List.replicate n 1) = false := by
    simp only [isSet, List.head?_cons, Option.any_some, Bool.and_eq_false_iff]
    exact .inr (by decide)
  constructor
  · rw [chosen_eq, firstSet, nalUnits_sized, List.find?_cons_of_pos sps]
  · rw [chosen_eq, firstSet, nalUnits_sized, List.find?_cons_of_neg (by simp [other])]
    decide

/-- An SPS of 65536 bytes, whose length wraps to zero. -/
theorem records_long_set : ¬RecordsSets (sized 65535) := by
  obtain ⟨first, second⟩ := chosen_sized (n := 65535) (by decide)
  rintro ⟨-, records⟩
  obtain ⟨sps, nal⟩ := parameterSet_of_chosen first
  obtain ⟨pps, nal'⟩ := parameterSet_of_chosen second
  obtain ⟨record, read, same, -⟩ := records _
    (buildExtradata_eq_ok.mpr ⟨sps, pps, nal ▸ first, nal' ▸ second, rfl⟩)
  have fits := (fits_of_readRecord read).1
  rw [← Option.some.inj (first.symm.trans same), List.length_cons, List.length_replicate] at fits
  exact absurd fits (by decide)

end VideoCodec.FFmpegMuxer
