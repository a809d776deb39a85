import OffloadBench.Proofs.Round.Prepared
import OffloadBench.Run

/-! # Sets of a run

A run goes from set to set with nothing but its progress, the transport's state and the generator of
the orders. The orders depend on the seed alone, so the set of any index is known beforehand.
-/
namespace OffloadBench.Draw.Generator

def afterOrders (g : Generator) (levels : Nat) : Nat → Generator
  | 0 => g
  | n + 1 => (g.order levels).2.afterOrders levels n

def orderAt (g : Generator) (levels index : Nat) : List Nat :=
  ((g.afterOrders levels index).order levels).1

theorem orderAt_succ (g : Generator) (levels index : Nat) :
    g.orderAt levels (index + 1) = (g.order levels).2.orderAt levels index := rfl

theorem orderAt_perm (g : Generator) (levels index : Nat) :
    (g.orderAt levels index).Perm (List.range levels) := order_perm _ _

end OffloadBench.Draw.Generator

namespace OffloadBench
open Config Device Draw Round Wire

def Round.TestSet.stimulus (set : TestSet) (level : Nat) : Packet :=
  ⟨set.metadata (Stimulus.levelByte level), set.inputs.getD level []⟩

theorem Round.TestSet.length_stimulus {set : TestSet} {level : Nat} (h : level < set.levelCount) :
    (set.stimulus level).payload.length = set.packet.elementCount.toNat :=
  Stimulus.length_getD set.length_of_mem h

theorem Round.TestSet.stimulusFrame_eq {set : TestSet} {level : Nat} (h : level < set.levelCount) :
    set.stimulusFrame level = .ok (set.stimulus level).toBytes :=
  Layout.encode_of_length (TestSet.length_stimulus h)

theorem Round.TestSet.lt_of_mem_order {set : TestSet} {level : Nat} (h : level ∈ set.order) :
    level < set.levelCount := List.mem_range.1 (set.order_perm.mem_iff.1 h)

theorem Round.TestSet.length_order (set : TestSet) : set.order.length = set.levelCount := by
  rw [set.order_perm.length_eq, List.length_range]
  rfl

def reports (levels : Nat) : Nat → Generator → List (List UInt8) → List SetReport
  | _, _, [] => []
  | index, g, arrival :: rest =>
    ⟨UInt32.ofNat index, (g.order levels).1, arrival⟩ ::
      reports levels (index + 1) (g.order levels).2 rest

theorem length_reports (levels index : Nat) (g : Generator) (arrivals : List (List UInt8)) :
    (reports levels index g arrivals).length = arrivals.length := by
  induction arrivals generalizing index g with
  | nil => rfl
  | cons arrival rest ih => exact congrArg Nat.succ (ih _ _)

theorem getElem?_reports (levels index : Nat) (g : Generator) (arrivals : List (List UInt8))
    (k : Nat) :
    (reports levels index g arrivals)[k]? = arrivals[k]?.map fun arrival =>
      ⟨UInt32.ofNat (index + k), g.orderAt levels k, arrival⟩ := by
  induction arrivals generalizing index g k with
  | nil => rfl
  | cons arrival rest ih =>
    cases k with
    | zero => rfl
    | succ k =>
      rw [reports, List.getElem?_cons_succ, List.getElem?_cons_succ, ih, Generator.orderAt_succ,
        Nat.add_right_comm, Nat.add_assoc]

def Progress.extend (p : Progress) (levels index : Nat) (g : Generator)
    (arrivals : List (List UInt8)) : Progress where
  sets := (reports levels index g arrivals).reverse ++ p.sets
  verified := p.verified + arrivals.length * levels

theorem Progress.extend_add {s : Settings} (p : Progress) (index : Nat) (g : Generator)
    {is : List UInt8} (hnodup : is.Nodup) (hlength : is.length = s.packet.levelCount)
    (rest : List (List UInt8)) :
    (p.add (prepared s (UInt32.ofNat index) g) (.ofArrival is)).extend s.packet.levelCount
        (index + 1) (g.order s.packet.levelCount).2 rest =
      p.extend s.packet.levelCount index g (is :: rest) := by
  obtain ⟨harrival, hreceived, -⟩ := Reception.ofArrival_spec hnodup
  rw [extend, extend, add, harrival, hreceived, hlength, reports, List.reverse_cons,
    List.append_assoc, List.length_cons, Nat.succ_mul, Nat.add_assoc, Nat.add_comm (_ * _)]
  rfl

variable {σ : Type} {t : Transport σ} {s : Settings} {set : TestSet} {state mid final : σ}

theorem runSet_of_sent (hsend : sendStimuli t set state = (.ok (), mid)) :
    runSet t s set state =
      collectResponses t set s.run.responseLevelOffset s.run.receiveTimeout mid := by
  rw [runSet, hsend]

variable {index : UInt32} {g : Generator} {p : Progress} {n : Nat}

theorem runSets_succ :
    runSets t s (n + 1) index g p state =
      match runSet t s (prepared s index g) state with
      | (.error fault, state) => (Except.error fault, state)
      | (.ok r, state) =>
        runSets t s n (index + 1) (g.order s.packet.levelCount).2 (p.add (prepared s index g) r)
          state := rfl

theorem runSets_succ_of_ok {r : Reception}
    (h : runSet t s (prepared s index g) state = (.ok r, mid)) :
    runSets t s (n + 1) index g p state =
      runSets t s n (index + 1) (g.order s.packet.levelCount).2 (p.add (prepared s index g) r)
        mid := by
  rw [runSets_succ, h]

theorem runSets_succ_of_error {fault : Fault}
    (h : runSet t s (prepared s index g) state = (.error fault, mid)) :
    runSets t s (n + 1) index g p state = (.error fault, mid) := by
  rw [runSets_succ, h]

theorem ofNat_succ (index : Nat) : UInt32.ofNat index + 1 = UInt32.ofNat (index + 1) :=
  (UInt32.ofNat_add index 1).symm

theorem runSets_add {m : Nat} {p' : Progress}
    (h : runSets t s m index g p state = (.ok p', mid)) :
    runSets t s (m + n) index g p state =
      runSets t s n (index + UInt32.ofNat m) (g.afterOrders s.packet.levelCount m) p' mid := by
  induction m generalizing index g p state with
  | zero =>
    cases h
    rw [Nat.zero_add, show UInt32.ofNat 0 = 0 from rfl, UInt32.add_zero]
    rfl
  | succ m ih =>
    cases hset : runSet t s (prepared s index g) state with
    | mk outcome next =>
      cases outcome with
      | error fault =>
        rw [runSets_succ_of_error hset] at h
        cases h
      | ok r =>
        rw [runSets_succ_of_ok hset] at h
        have hindex : index + 1 + UInt32.ofNat m = index + UInt32.ofNat (m + 1) := by
          rw [UInt32.ofNat_add, UInt32.add_comm (UInt32.ofNat m), UInt32.add_assoc]
          rfl
        rw [Nat.succ_add, runSets_succ_of_ok hset, ih h, hindex]
        rfl

namespace Harness

def firstSets (h : Harness) (t : Transport σ) (n : Nat) (state : σ) : Except Fault Progress × σ :=
  runSets t h.settings n 0 (.ofSeed h.seed) {} state

variable {h : Harness} {d : Identifier}

theorem firstSets_succ {r : Reception} {first : σ} (hfirst : h.firstSets t n first = (.ok p, mid))
    (hset : runSet t h.settings (prepared h.settings (UInt32.ofNat n)
      ((Generator.ofSeed h.seed).afterOrders h.settings.packet.levelCount n)) mid = (.ok r, final)) :
    h.firstSets t (n + 1) first =
      (.ok (p.add (prepared h.settings (UInt32.ofNat n)
        ((Generator.ofSeed h.seed).afterOrders h.settings.packet.levelCount n)) r), final) := by
  have hsplit := runSets_add (n := 1) hfirst
  rw [UInt32.zero_add, runSets_succ_of_ok hset] at hsplit
  exact hsplit

theorem run_of_ok {p : Progress} (hdevice : t.device state = (.ok d, mid))
    (hsets : runSets t h.settings h.settings.run.testSets.toNat 0 (.ofSeed h.seed) {} mid =
      (.ok p, final)) :
    h.run t state =
      (.ok ⟨h.seed, d, h.settings.run.testSets, p.verified, p.sets.reverse⟩, final) := by
  rw [run, hdevice]
  dsimp only
  rw [hsets]

theorem run_of_error {fault : Fault} (hdevice : t.device state = (.ok d, mid))
    (hsets : runSets t h.settings h.settings.run.testSets.toNat 0 (.ofSeed h.seed) {} mid =
      (.error fault, final)) :
    h.run t state = (.error fault, final) := by
  rw [run, hdevice]
  dsimp only
  rw [hsets]

theorem run_of_set_error {r : UInt32} {fault : Fault} {first : σ}
    (hr : r < h.settings.run.testSets) (hdevice : t.device state = (.ok d, first))
    (hfirst : h.firstSets t r.toNat first = (.ok p, mid))
    (hset : runSet t h.settings (prepared h.settings r
      ((Generator.ofSeed h.seed).afterOrders h.settings.packet.levelCount r.toNat)) mid =
        (.error fault, final)) :
    h.run t state = (.error fault, final) := by
  obtain ⟨n, hn⟩ := Nat.exists_eq_add_of_lt (UInt32.lt_iff_toNat_lt.1 hr)
  have hindex : (0 : UInt32) + UInt32.ofNat r.toNat = r := by
    rw [UInt32.zero_add, UInt32.ofNat_toNat]
  refine run_of_error hdevice ?_
  rw [hn, Nat.add_assoc, runSets_add hfirst, hindex]
  exact runSets_succ_of_error hset

def twoByTwo : Harness where
  settings := {
    packet := { elementCount := 1, maxLevel := 1 }
    run := { testSets := 2, seed := some 7, responseLevelOffset := 3 } }
  seed := 7
  valid := by decide

end Harness

end OffloadBench
