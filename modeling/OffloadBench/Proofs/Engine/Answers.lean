import OffloadBench.Proofs.Engine.Staging
import OffloadBench.Proofs.Round.Collection

/-! # Answers

The engine adds up payloads on its own, one response after the other; what comes out are the running
sums of the packets it answers. For all stimuli of a set, lowest level first, these are the owed
frames. The order they leave in is some order, and the waits bring them in that order.
-/
namespace OffloadBench.Engine
open Device Draw Round Stimulus Wire

section Sums
variable {layout : Layout} {offset : UInt8} {packets : List Packet} {sums : List Payload}

def answer (offset : UInt8) (p : Packet) (sum : Payload) : Response :=
  ⟨p.metadata.level,
    Packet.toBytes ⟨{ p.metadata with level := p.metadata.level + offset }, sum⟩⟩

theorem respond?_eq {p : Packet} {sum : Payload} (h : sum.length = layout.elementCount.toNat) :
    respond? layout offset p.metadata sum = some (answer offset p sum) := by
  rw [respond?, Layout.encode_of_length h]
  rfl

theorem respondAfter_eq {sum : Payload} (hsum : sum.length = layout.elementCount.toNat)
    (hpackets : ∀ p ∈ packets, p.payload.length = layout.elementCount.toNat)
    (h : sumsAfter? sum (packets.map (·.payload)) = some sums) :
    respondAfter layout offset sum packets = List.zipWith (answer offset) packets sums := by
  induction packets generalizing sum sums with
  | nil => rfl
  | cons p rest ih =>
    have hp := hpackets p List.mem_cons_self
    have hadd : (addWords p.payload sum).length = layout.elementCount.toNat := by
      rw [length_addWords, hp, hsum, Nat.min_self]
    rw [List.map_cons, sumsAfter?, if_pos (hsum.trans hp.symm)] at h
    obtain ⟨tail, htail, rfl⟩ := Option.map_eq_some_iff.1 h
    rw [respondAfter, respond?_eq hadd, ih hadd (fun q hq => hpackets q (List.mem_cons_of_mem _ hq))
      htail]
    rfl

theorem responses_eq (hpackets : ∀ p ∈ packets, p.payload.length = layout.elementCount.toNat)
    (h : runningSums? (packets.map (·.payload)) = some sums) :
    responses layout offset packets = List.zipWith (answer offset) packets sums := by
  cases packets with
  | nil => rfl
  | cons p rest =>
    have hp := hpackets p List.mem_cons_self
    rw [List.map_cons, runningSums?] at h
    obtain ⟨tail, htail, rfl⟩ := Option.map_eq_some_iff.1 h
    rw [responses, respond?_eq hp,
      respondAfter_eq hp (fun q hq => hpackets q (List.mem_cons_of_mem _ hq)) htail]
    rfl

end Sums

theorem map_range_getD {α : Type} (xs : List α) (d : α) :
    (List.range xs.length).map (xs.getD · d) = xs := by
  apply List.ext_getElem
  · rw [List.length_map, List.length_range]
  · intro i hi hi'
    rw [List.getElem_map, List.getElem_range, List.getD_eq_getElem _ _ hi']

section Stimuli
variable {set : TestSet} {offset : UInt8}

def response (set : TestSet) (offset level : UInt8) (payload : Payload) : Response :=
  ⟨level, Packet.toBytes ⟨set.metadata (offset + level), payload⟩⟩

def sound (set : TestSet) (offset level : UInt8) : Response := ⟨level, set.owed offset level⟩

theorem answer_stimulus (l : Nat) (sum : Payload) :
    answer offset (set.stimulus l) sum = response set offset (levelByte l) sum := by
  rw [response, UInt8.add_comm]
  rfl

theorem responses_stimuli {levels : List Nat} {sums : List Payload}
    (hlt : ∀ l ∈ levels, l < set.levelCount)
    (h : runningSums? (levels.map (set.inputs.getD · [])) = some sums) :
    responses set.layout offset (levels.map set.stimulus) =
      List.zipWith (fun l => response set offset (levelByte l)) levels sums := by
  have hpackets : ∀ p ∈ levels.map set.stimulus,
      p.payload.length = set.layout.elementCount.toNat := by
    intro p hp
    obtain ⟨l, hl, rfl⟩ := List.mem_map.1 hp
    exact TestSet.length_stimulus (hlt l hl)
  have hsums : runningSums? ((levels.map set.stimulus).map (·.payload)) = some sums := by
    rwa [List.map_map]
  rw [responses_eq hpackets hsums, List.zipWith_map_left]
  simp only [answer_stimulus]

theorem responses_sound (set : TestSet) (offset : UInt8) :
    responses set.layout offset set.stimuli = set.levels.map (sound set offset) := by
  have hinputs : (List.range set.levelCount).map (set.inputs.getD · []) = set.inputs :=
    map_range_getD set.inputs []
  have hsums : (List.range set.levelCount).map (set.sums.getD · []) = set.sums := by
    rw [← set.length_sums]
    exact map_range_getD set.sums []
  rw [TestSet.stimuli, responses_stimuli (fun l hl => List.mem_range.1 hl)
    (hinputs.symm ▸ set.runningSums_inputs), ← hsums, List.zipWith_map_right, List.zipWith_self,
    TestSet.levels, List.map_map]
  refine List.map_congr_left ?_
  intro l hl
  have hlevel := toNat_levelByte (Nat.lt_of_lt_of_le (List.mem_range.1 hl) set.levelCount_le)
  rw [Function.comp_apply, sound, TestSet.owed, hlevel]
  rfl

theorem EngineSettings.arrange_perm (s : EngineSettings) (g : Generator) (rs : List Response) :
    (s.arrange g rs).1.Perm rs := by
  unfold arrange
  split
  · exact g.shuffle_perm rs
  · exact List.Perm.refl rs

/-- The order that the answers to some levels leave in, and the generator after it. -/
def EngineSettings.departure (s : EngineSettings) (g : Generator) (levels : List UInt8) :
    List UInt8 × Generator :=
  if s.reorder then g.shuffle levels else (levels, g)

theorem EngineSettings.departure_perm (s : EngineSettings) (g : Generator) (levels : List UInt8) :
    (s.departure g levels).1.Perm levels := by
  unfold departure
  split
  · exact g.shuffle_perm levels
  · exact List.Perm.refl levels

theorem EngineSettings.arrange_map (s : EngineSettings) (g : Generator) (f : UInt8 → Response)
    (levels : List UInt8) :
    s.arrange g (levels.map f) =
      ((s.departure g levels).1.map f, (s.departure g levels).2) := by
  unfold arrange departure
  split
  · exact g.shuffle_map f levels
  · rfl

theorem EngineSettings.exists_arrange (s : EngineSettings) (g : Generator) (f : UInt8 → Response)
    (levels : List UInt8) :
    ∃ (is : List UInt8) (g' : Generator), is.Perm levels ∧
      s.arrange g (levels.map f) = (is.map f, g') :=
  ⟨_, _, s.departure_perm g levels, s.arrange_map g f levels⟩

end Stimuli

def handOver (capacity : Nat) (frame : Bytes) : Except TransportError Delivery :=
  if capacity < frame.length then .error (.oversized frame.length capacity)
  else .ok (.copy frame capacity)

theorem handOver_of_le {capacity : Nat} {frame : Bytes} (h : frame.length ≤ capacity) :
    handOver capacity frame = .ok (.copy frame capacity) := if_neg (Nat.not_lt.2 h)

namespace Simulator

variable (capacity : Nat) (timeout : Option UInt64) {e : Simulator}

theorem receive_of_empty (h : e.outbox = []) :
    transport.receive capacity timeout e = (.error .timeout, e) := by
  simp only [transport, receive, h]

theorem receive_of_cons {frame : Bytes} {rest : List Bytes} (h : e.outbox = frame :: rest) :
    transport.receive capacity timeout e =
      (handOver capacity frame, { e with outbox := rest }) := by
  simp only [transport, receive, h, handOver]
  split <;> rfl

/-- The waits bring the frames of the outbox, as far as the buffer holds each of them. -/
theorem delivers_outbox (frames rest : List Bytes) (h : e.outbox = frames ++ rest)
    (hle : ∀ frame ∈ frames, frame.length ≤ capacity) :
    Delivers transport capacity timeout e frames { e with outbox := rest } := by
  induction frames generalizing e with
  | nil =>
    rw [List.nil_append] at h
    subst h
    exact .nil e
  | cons frame frames ih =>
    have hreceive := receive_of_cons capacity timeout h
    rw [handOver_of_le (hle frame List.mem_cons_self)] at hreceive
    exact .cons hreceive (ih rfl fun f hf => hle f (List.mem_cons_of_mem _ hf))

end Simulator

end OffloadBench.Engine
