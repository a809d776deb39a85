import OffloadBench.Proofs.Config.Bounds
import OffloadBench.Proofs.Round.Prepared

/-! # Reachable receptions

Frames of any kind are offered to a reception one after the other, and what is refused is passed
over. The three records of the reception never fall out of step, and it is complete exactly when
the arrivals are an order of all levels; then no frame is verified any more. Frames that complete it
exist if and only if the greatest level to report is a byte, as long as the length of a frame is a word,
and this is what the check of the settings asks for.
-/
namespace OffloadBench.Round
open Config Stimulus Wire

namespace Reception

def after (set : TestSet) (offset : UInt8) (frames : List Bytes) : Reception :=
  frames.foldl (fun r frame => (accept set offset r frame).2) {}

structure Consistent (r : Reception) (set : TestSet) : Prop where
  received : r.received = r.arrival.length
  size_observed : r.observed.size = r.arrival.length
  nodup : r.arrival.Nodup
  lt_levelCount : ∀ i ∈ r.arrival, i.toNat < set.levelCount
  contains : ∀ i, r.observed.contains i = true ↔ i ∈ r.arrival

variable {set : TestSet} {offset : UInt8} {is : List UInt8} {frame : Bytes} {frames : List Bytes}

theorem after_append (frames more : List Bytes) :
    after set offset (frames ++ more) =
      more.foldl (fun r frame => (accept set offset r frame).2) (after set offset frames) :=
  List.foldl_append

theorem consistent_ofArrival (hnodup : is.Nodup) (hlt : ∀ i ∈ is, i.toNat < set.levelCount) :
    (ofArrival is).Consistent set := by
  obtain ⟨harrival, hreceived, hsize⟩ := ofArrival_spec hnodup
  refine ⟨?_, ?_, ?_, ?_, ?_⟩
  · rw [hreceived, harrival]
  · rw [hsize, harrival]
  · rwa [harrival]
  · rwa [harrival]
  · rw [harrival]
    exact contains_ofArrival is

/-- Levels that were verified in some order: different levels of the set, each reported by a byte. -/
structure Verifiable (set : TestSet) (offset : UInt8) (is : List UInt8) : Prop where
  nodup : is.Nodup
  lt_levelCount : ∀ i ∈ is, i.toNat < set.levelCount
  add_le : ∀ i ∈ is, offset.toNat + i.toNat ≤ 255

theorem Verifiable.concat {i : UInt8} (h : Verifiable set offset is) (hnot : i ∉ is)
    (hlt : i.toNat < set.levelCount) (hle : offset.toNat + i.toNat ≤ 255) :
    Verifiable set offset (is ++ [i]) := by
  refine ⟨?_, ?_, ?_⟩
  · rw [← List.concat_eq_append]
    exact h.nodup.concat hnot
  · intro j hj
    rcases List.mem_append.1 hj with hj | hj
    · exact h.lt_levelCount j hj
    · exact List.mem_singleton.1 hj ▸ hlt
  · intro j hj
    rcases List.mem_append.1 hj with hj | hj
    · exact h.add_le j hj
    · exact List.mem_singleton.1 hj ▸ hle

/-- One frame adds a level that was missing, or is refused and changes nothing. -/
theorem accept_ofArrival (h : Verifiable set offset is) (frame : Bytes) :
    (∃ i v, Verifiable set offset (is ++ [i]) ∧
        accept set offset (ofArrival is) frame = (.ok v, ofArrival (is ++ [i]))) ∨
      ∃ fault, accept set offset (ofArrival is) frame = (.error fault, ofArrival is) := by
  cases hexamine : examine set offset (ofArrival is) frame with
  | error fault => exact .inr ⟨fault, by rw [accept, hexamine]⟩
  | ok v =>
    obtain ⟨hindex, hfresh⟩ := level_of_examine_ok hexamine
    obtain ⟨-, hle, hlt⟩ := eq_add_of_levelIndex? hindex
    refine .inl ⟨v.index, v, h.concat (contains_ofArrival_eq_false.1 hfresh) hlt hle, ?_⟩
    rw [accept, hexamine, ofArrival_append_singleton]

theorem after_eq_ofArrival (set : TestSet) (offset : UInt8) (frames : List Bytes) :
    ∃ is, after set offset frames = ofArrival is ∧ Verifiable set offset is := by
  induction frames using List.reverseRecOn with
  | nil => exact ⟨[], rfl, List.nodup_nil, by simp, by simp⟩
  | append_singleton frames frame ih =>
    obtain ⟨is, his, hverifiable⟩ := ih
    have hstep : after set offset (frames ++ [frame]) =
        (accept set offset (ofArrival is) frame).2 := by
      rw [after_append, his]
      rfl
    rw [hstep]
    rcases accept_ofArrival hverifiable frame with ⟨i, v, hnext, haccept⟩ | ⟨fault, haccept⟩
    · exact ⟨is ++ [i], by rw [haccept], hnext⟩
    · exact ⟨is, by rw [haccept], hverifiable⟩

/-- A complete reception refuses whatever comes. -/
theorem refuses_of_isComplete (h : Verifiable set offset is)
    (hcomplete : (ofArrival is).isComplete set = true) (frame : Bytes) :
    ∃ fault, accept set offset (ofArrival is) frame = (.error fault, ofArrival is) := by
  rcases accept_ofArrival h frame with ⟨i, v, hnext, -⟩ | hrefused
  · have hlength := (isComplete_ofArrival h.nodup).1 hcomplete
    have hnot : i ∉ is := by
      intro hi
      exact (List.nodup_append.1 hnext.nodup).2.2 i hi i (List.mem_singleton.2 rfl) rfl
    have hshort := TestSet.length_lt_levelCount h.nodup h.lt_levelCount
      (hnext.lt_levelCount i (List.mem_append_right _ (List.mem_singleton.2 rfl))) hnot
    omega
  · exact hrefused

theorem after_append_of_isComplete (h : (after set offset frames).isComplete set = true)
    (more : List Bytes) : after set offset (frames ++ more) = after set offset frames := by
  obtain ⟨is, his, hverifiable⟩ := after_eq_ofArrival set offset frames
  rw [his] at h
  rw [after_append, his]
  induction more with
  | nil => rfl
  | cons frame more ih =>
    obtain ⟨fault, hrefused⟩ := refuses_of_isComplete hverifiable h frame
    rw [List.foldl_cons, hrefused]
    exact ih

theorem perm_levels_of_isComplete (h : Verifiable set offset is)
    (hcomplete : (ofArrival is).isComplete set = true) : is.Perm set.levels :=
  TestSet.perm_levels h.nodup h.lt_levelCount ((isComplete_ofArrival h.nodup).1 hcomplete)

theorem isComplete_iff_perm (h : Verifiable set offset is) :
    (ofArrival is).isComplete set = true ↔
      ((ofArrival is).arrival.map UInt8.toNat).Perm (List.range set.levelCount) := by
  rw [(ofArrival_spec h.nodup).1]
  constructor
  · intro hcomplete
    rw [← map_toNat_levelByte set.levelCount_le]
    exact (perm_levels_of_isComplete h hcomplete).map _
  · intro hperm
    have hlength := hperm.length_eq
    rw [List.length_map, List.length_range] at hlength
    exact (isComplete_ofArrival h.nodup).2 hlength

/-- The owed frames of missing levels are all verified. -/
theorem foldl_accept_owed (hset : set.WellPosed offset) {done : List UInt8}
    (hnodup : (done ++ is).Nodup) (hlt : ∀ i ∈ is, i.toNat < set.levelCount) :
    (is.map (set.owed offset)).foldl (fun r frame => (accept set offset r frame).2)
        (ofArrival done) = ofArrival (done ++ is) := by
  induction is generalizing done with
  | nil => rw [List.append_nil]; rfl
  | cons i is ih =>
    have hi := hlt i List.mem_cons_self
    obtain ⟨-, -, hdisjoint⟩ := List.nodup_append.1 hnodup
    have hnot : i ∉ done := fun h => hdisjoint i h i List.mem_cons_self rfl
    have hexamine := examine_owed (r := ofArrival done) hset.fits hi (hset.add_le hi)
      (contains_ofArrival_eq_false.2 hnot)
    have hassoc : done ++ i :: is = done ++ [i] ++ is := by simp
    rw [List.map_cons, List.foldl_cons, accept, hexamine, hassoc]
    rw [hassoc] at hnodup
    dsimp only
    rw [← ofArrival_append_singleton]
    exact ih hnodup fun j hj => hlt j (List.mem_cons_of_mem _ hj)

theorem exists_isComplete_iff (hfits : set.Fits) :
    (∃ frames, (after set offset frames).isComplete set = true) ↔
      offset.toNat + set.packet.maxLevel.toNat ≤ 255 := by
  have hcount := set.levelCount_eq
  rw [PacketSettings.levelCount] at hcount
  constructor
  · rintro ⟨frames, hcomplete⟩
    obtain ⟨is, his, hverifiable⟩ := after_eq_ofArrival set offset frames
    rw [his] at hcomplete
    have hperm := perm_levels_of_isComplete hverifiable hcomplete
    exact hverifiable.add_le _ (hperm.mem_iff.2 (TestSet.mem_levels.2 (by omega)))
  · intro hle
    have hset : set.WellPosed offset := ⟨hfits, by omega⟩
    refine ⟨set.levels.map (set.owed offset), ?_⟩
    have hnodup : ([] ++ set.levels).Nodup := set.nodup_levels
    have hafter : after set offset (set.levels.map (set.owed offset)) = ofArrival set.levels :=
      foldl_accept_owed hset hnodup fun _ => TestSet.mem_levels.1
    rw [hafter, isComplete_ofArrival set.nodup_levels, set.length_levels]

end Reception

/-- The check of the levels tells apart the settings whose rounds can be completed. -/
theorem valid_iff_exists_isComplete {set : TestSet} {s : Settings} (hpacket : s.packet = set.packet)
    (h : s.validate = .ok () ∨ ∃ level offset, s.validate = .error (.levelRange level offset)) :
    s.validate = .ok () ↔
      ∃ frames, (Reception.after set s.run.responseLevelOffset frames).isComplete set = true := by
  have hfits : set.Fits := by
    have hframe : 8 + 4 * s.packet.elementCount.toNat ≤ 65507 := by
      rcases h with h | ⟨level, offset, h⟩
      · exact (Settings.bounded_of_valid h).frame_le
      · exact (Settings.bounded_of_valid (Settings.valid_of_levelRange h).1).frame_le
    rw [hpacket] at hframe
    rw [TestSet.Fits]
    omega
  rw [Reception.exists_isComplete_iff hfits, ← hpacket]
  constructor
  · intro hvalid
    have hle := (Settings.bounded_of_valid hvalid).levels_le
    omega
  · intro hle
    rcases h with h | ⟨level, offset, h⟩
    · exact h
    · have hgt := (Settings.valid_of_levelRange h).2
      omega

/-- What holds of a reception after any frames at all. -/
theorem reception_after_frames (set : TestSet) (offset : UInt8) :
    (∀ frames : List Bytes,
      (Reception.after set offset frames).Consistent set ∧
      ((Reception.after set offset frames).isComplete set = true ↔
        ((Reception.after set offset frames).arrival.map UInt8.toNat).Perm
          (List.range set.levelCount)) ∧
      ((Reception.after set offset frames).isComplete set = true →
        (∀ more, (Reception.after set offset (frames ++ more)).isComplete set = true) ∧
        ∀ frame, ∃ fault, accept set offset (Reception.after set offset frames) frame =
          (.error fault, Reception.after set offset frames))) ∧
    (set.Fits →
      ((∃ frames, (Reception.after set offset frames).isComplete set = true) ↔
        offset.toNat + set.packet.maxLevel.toNat ≤ 255)) ∧
    ∀ s : Settings, s.packet = set.packet → s.run.responseLevelOffset = offset →
      (s.validate = .ok () ∨ ∃ level offset, s.validate = .error (.levelRange level offset)) →
      (s.validate = .ok () ↔
        ∃ frames, (Reception.after set offset frames).isComplete set = true) := by
  refine ⟨?_, Reception.exists_isComplete_iff, ?_⟩
  · intro frames
    obtain ⟨is, his, hverifiable⟩ := Reception.after_eq_ofArrival set offset frames
    refine ⟨?_, ?_, ?_⟩
    · rw [his]
      exact Reception.consistent_ofArrival hverifiable.nodup hverifiable.lt_levelCount
    · rw [his]
      exact Reception.isComplete_iff_perm hverifiable
    · intro hcomplete
      refine ⟨?_, ?_⟩
      · intro more
        rwa [Reception.after_append_of_isComplete hcomplete]
      · rw [his] at hcomplete ⊢
        exact Reception.refuses_of_isComplete hverifiable hcomplete
  · rintro s hpacket rfl h
    exact valid_iff_exists_isComplete hpacket h

def atTheTop : Settings where
  packet := { elementCount := 1, maxLevel := 1 }
  run := { responseLevelOffset := 254 }

theorem reception_after_frames_atTheTop :
    atTheTop.validate = .ok () ∧ (prepared atTheTop 0 (.ofSeed 7)).Fits ∧
      (∃ frames, ∀ more, (Reception.after (prepared atTheTop 0 (.ofSeed 7)) 254
        (frames ++ more)).isComplete (prepared atTheTop 0 (.ofSeed 7)) = true) ∧
      ¬ ∃ frames, (Reception.after (prepared atTheTop 0 (.ofSeed 7)) 255
        frames).isComplete (prepared atTheTop 0 (.ofSeed 7)) = true := by
  have hvalid : atTheTop.validate = .ok () := by decide
  have hfits : (prepared atTheTop 0 (.ofSeed 7)).Fits := by
    change 8 + 4 * 1 < 2 ^ 64
    decide
  have hreceptions := reception_after_frames (prepared atTheTop 0 (.ofSeed 7)) 254
  refine ⟨hvalid, hfits, ?_, ?_⟩
  · obtain ⟨frames, hcomplete⟩ := (hreceptions.2.2 atTheTop rfl rfl (.inl hvalid)).1 hvalid
    exact ⟨frames, ((hreceptions.1 frames).2.2 hcomplete).1⟩
  · intro hcompletes
    have hle := ((reception_after_frames (prepared atTheTop 0 (.ofSeed 7)) 255).2.1 hfits).1
      hcompletes
    change 255 + 1 ≤ 255 at hle
    omega

end OffloadBench.Round
