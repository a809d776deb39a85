import OffloadBench.Proofs.Run.Course

/-! # The account that a fault gives

The phase and the test set of a fault tell how far a run got: which frames were sent before it and how
often the run waited. This holds over every transport, however it behaves, because a run goes down a
plan that the settings and the seed lay down. It goes down all of it and passes, or stops at a request
with a fault of the outside. An access outside of a set would end the run as a malformed packet, which is
no fault of the outside.
-/
namespace OffloadBench
open Config Device Draw Round Wire

theorem Draw.Generator.afterOrders_succ (g : Generator) (levels n : Nat) :
    g.afterOrders levels (n + 1) = ((g.afterOrders levels n).order levels).2 := by
  induction n generalizing g with
  | zero => rfl
  | succ n ih => exact ih (g.order levels).2

def Round.TestSet.stimulusFrames (set : TestSet) : List Bytes :=
  set.order.map fun level => (set.stimulus level).toBytes

/-- How many frames a transport was handed, how many of them it took, and how often it was waited
on. -/
structure Tally where
  offered : Nat
  taken : Nat
  waits : Nat
  deriving DecidableEq, Repr

namespace Tally

def ofExchanges (es : List Exchange) : Tally where
  offered := ((es.map Exchange.request).filterMap Request.frame?).length
  taken := (es.filterMap Exchange.frame?).length
  waits := ((es.map Exchange.request).filterMap Request.wait?).length

def add (a b : Tally) : Tally := ⟨a.offered + b.offered, a.taken + b.taken, a.waits + b.waits⟩

theorem ofExchanges_append (es es' : List Exchange) :
    ofExchanges (es ++ es') = (ofExchanges es).add (ofExchanges es') := by
  simp [ofExchanges, add]

theorem ofExchanges_cons (e : Exchange) (es : List Exchange) :
    ofExchanges (e :: es) = (ofExchanges [e]).add (ofExchanges es) :=
  ofExchanges_append [e] es

/-- The tally of a single exchange follows from its request and from whether it was taken. -/
theorem ofExchanges_singleton (e : Exchange) :
    ofExchanges [e] =
      ⟨e.request.frame?.toList.length, e.frame?.toList.length, e.request.wait?.toList.length⟩ := by
  cases e with
  | queried => rfl
  | sent frame outcome => cases outcome <;> rfl
  | received => rfl

/-- A query leaves the tally as it is. -/
theorem ofExchanges_cons_device {e : Exchange} (hrequest : e.request = .device)
    (hframe : e.frame? = none) (es : List Exchange) : ofExchanges (e :: es) = ofExchanges es := by
  rw [ofExchanges_cons, ofExchanges_singleton, hframe, hrequest]
  simp [add, Request.frame?, Request.wait?]

end Tally

def framesOf (plan : List PlannedRequest) : List Bytes :=
  (plan.map PlannedRequest.request).filterMap Request.frame?

def waitsOf (plan : List PlannedRequest) : List (Nat × Option UInt64) :=
  (plan.map PlannedRequest.request).filterMap Request.wait?

@[simp] theorem framesOf_append (plan more : List PlannedRequest) :
    framesOf (plan ++ more) = framesOf plan ++ framesOf more := by
  simp [framesOf]

@[simp] theorem waitsOf_append (plan more : List PlannedRequest) :
    waitsOf (plan ++ more) = waitsOf plan ++ waitsOf more := by
  simp [waitsOf]

section Plan
variable (set : TestSet) (timeout : Option UInt64)

@[simp] theorem framesOf_sends (levels : List Nat) :
    framesOf (set.sends levels) = levels.map fun level => (set.stimulus level).toBytes := by
  rw [framesOf, TestSet.sends, List.map_map, List.filterMap_map]
  exact congrFun List.filterMap_eq_map levels

@[simp] theorem waitsOf_sends (levels : List Nat) : waitsOf (set.sends levels) = [] := by
  simp [waitsOf, TestSet.sends, Request.wait?]

@[simp] theorem framesOf_waits (n : Nat) :
    framesOf (List.replicate n (set.wait timeout)) = [] := by
  simp [framesOf, TestSet.wait, Request.frame?]

@[simp] theorem waitsOf_waits (n : Nat) :
    waitsOf (List.replicate n (set.wait timeout)) =
      List.replicate n (bufferCapacity set, timeout) := by
  rw [waitsOf, List.map_replicate]
  exact List.filterMap_replicate_of_some rfl

theorem framesOf_plan : framesOf (set.plan timeout) = set.stimulusFrames := by
  rw [TestSet.plan, framesOf_append, framesOf_sends, framesOf_waits, List.append_nil]
  rfl

theorem length_waitsOf_plan : (waitsOf (set.plan timeout)).length = set.levelCount := by
  simp [TestSet.plan]

end Plan

namespace Course

theorem tally_of_done {plan : List PlannedRequest} {es : List Exchange} (h : Course plan none es) :
    Tally.ofExchanges es =
      ⟨(framesOf plan).length, (framesOf plan).length, (waitsOf plan).length⟩ := by
  rw [Tally.ofExchanges, h.frames_of_done, h.requests_of_done]
  rfl

variable {set : TestSet} {timeout : Option UInt64} {fault : Fault} {es : List Exchange}

theorem tally_sends_stopped {levels : List Nat} (h : Course (set.sends levels) (some fault) es) :
    fault.RaisedIn set.index .sending ∧
      ∃ j < levels.length, Tally.ofExchanges es = ⟨j + 1, j, 0⟩ := by
  induction levels generalizing es with
  | nil => cases h
  | cons level rest ih =>
    cases h with
    | stopped hrequest hframe hraised =>
      refine ⟨hraised, 0, Nat.succ_pos _, ?_⟩
      rw [Tally.ofExchanges_singleton, hframe, hrequest]
      rfl
    | passed hrequest hframe hrest =>
      obtain ⟨hraised, j, hj, htally⟩ := ih hrest
      refine ⟨hraised, j + 1, Nat.succ_lt_succ hj, ?_⟩
      rw [Tally.ofExchanges_cons, Tally.ofExchanges_singleton, hframe, hrequest, htally,
        Nat.add_comm (j + 1), Nat.add_comm j]
      rfl

theorem tally_waits_stopped {n : Nat}
    (h : Course (List.replicate n (set.wait timeout)) (some fault) es) :
    fault.RaisedIn set.index .receiving ∧
      ∃ i, 1 ≤ i ∧ i ≤ n ∧ Tally.ofExchanges es = ⟨0, 0, i⟩ := by
  induction n generalizing es with
  | zero => cases h
  | succ n ih =>
    cases h with
    | stopped hrequest hframe hraised =>
      refine ⟨hraised, 1, Nat.le_refl 1, Nat.succ_pos n, ?_⟩
      rw [Tally.ofExchanges_singleton, hframe, hrequest]
      rfl
    | passed hrequest hframe hrest =>
      obtain ⟨hraised, i, -, hi, htally⟩ := ih hrest
      refine ⟨hraised, i + 1, Nat.succ_pos i, Nat.succ_le_succ hi, ?_⟩
      rw [Tally.ofExchanges_cons, Tally.ofExchanges_singleton, hframe, hrequest, htally,
        Nat.add_comm i]
      rfl

/-- Where a set stops: at a send, with the frames before it taken, or at a wait, with all taken. -/
theorem tally_plan_stopped (h : Course (set.plan timeout) (some fault) es) :
    (fault.RaisedIn set.index .sending ∧
        ∃ j < set.levelCount, Tally.ofExchanges es = ⟨j + 1, j, 0⟩) ∨
      (fault.RaisedIn set.index .receiving ∧
        ∃ i, 1 ≤ i ∧ i ≤ set.levelCount ∧
          Tally.ofExchanges es = ⟨set.levelCount, set.levelCount, i⟩) := by
  rcases h.of_append with hsends | ⟨es₁, es₂, rfl, hsends, hwaits⟩
  · obtain ⟨hraised, j, hj, htally⟩ := hsends.tally_sends_stopped
    exact .inl ⟨hraised, j, set.length_order ▸ hj, htally⟩
  · obtain ⟨hraised, i, hpos, hi, htally⟩ := hwaits.tally_waits_stopped
    refine .inr ⟨hraised, i, hpos, hi, ?_⟩
    rw [Tally.ofExchanges_append, htally, hsends.tally_of_done, framesOf_sends, waitsOf_sends,
      List.length_map, set.length_order, Tally.add, List.length_nil, Nat.zero_add]
    rfl

end Course

def setPlans (s : Settings) (g : Generator) (index n : Nat) : List PlannedRequest :=
  (List.range' index n).flatMap fun k =>
    (prepared s (UInt32.ofNat k) (g.afterOrders s.packet.levelCount k)).plan s.run.receiveTimeout

theorem setPlans_succ (s : Settings) (g : Generator) (index n : Nat) :
    setPlans s g index (n + 1) =
      (prepared s (UInt32.ofNat index) (g.afterOrders s.packet.levelCount index)).plan
        s.run.receiveTimeout ++ setPlans s g (index + 1) n := rfl

theorem length_framesOf_setPlans (s : Settings) (g : Generator) (index n : Nat) :
    (framesOf (setPlans s g index n)).length = n * s.packet.levelCount := by
  induction n generalizing index with
  | zero => exact (Nat.zero_mul _).symm
  | succ n ih =>
    rw [setPlans_succ, framesOf_append, framesOf_plan, List.length_append, ih,
      TestSet.stimulusFrames, List.length_map, TestSet.length_order, levelCount_prepared,
      Nat.succ_mul, Nat.add_comm]

theorem length_waitsOf_setPlans (s : Settings) (g : Generator) (index n : Nat) :
    (waitsOf (setPlans s g index n)).length = n * s.packet.levelCount := by
  induction n generalizing index with
  | zero => exact (Nat.zero_mul _).symm
  | succ n ih =>
    rw [setPlans_succ, waitsOf_append, List.length_append, length_waitsOf_plan, ih,
      levelCount_prepared, Nat.succ_mul, Nat.add_comm]

theorem runSets_follows {σ : Type} (t : Transport σ) (s : Settings) (g : Generator)
    (index n : Nat) (p : Progress) (x : σ × Transcript) :
    Follows (setPlans s g index n) x
      (runSets t.recorded s n (UInt32.ofNat index) (g.afterOrders s.packet.levelCount index) p x) := by
  induction n generalizing index p x with
  | zero => exact ⟨[], (List.append_nil _).symm, .done⟩
  | succ n ih =>
    have hset := runSet_follows t s
      (prepared s (UInt32.ofNat index) (g.afterOrders s.packet.levelCount index)) x
    rw [setPlans_succ]
    cases hrun : runSet t.recorded s
        (prepared s (UInt32.ofNat index) (g.afterOrders s.packet.levelCount index)) x with
    | mk outcome y =>
      rw [hrun] at hset
      cases outcome with
      | error fault =>
        rw [runSets_succ_of_error hrun]
        exact hset.append_of_error _
      | ok r =>
        rw [runSets_succ_of_ok hrun, ofNat_succ, ← Generator.afterOrders_succ]
        exact hset.append (ih (index + 1) _ y)

/-- A run over sets stops in one of them, with all sets before it complete. -/
theorem Course.tally_setPlans_stopped {s : Settings} {g : Generator} {index n : Nat} {fault : Fault}
    {es : List Exchange} (h : Course (setPlans s g index n) (some fault) es) :
    ∃ k < n,
      (fault.RaisedIn (UInt32.ofNat (index + k)) .sending ∧
        ∃ j < s.packet.levelCount, Tally.ofExchanges es =
          ⟨k * s.packet.levelCount + j + 1, k * s.packet.levelCount + j,
            k * s.packet.levelCount⟩) ∨
      (fault.RaisedIn (UInt32.ofNat (index + k)) .receiving ∧
        ∃ i, 1 ≤ i ∧ i ≤ s.packet.levelCount ∧ Tally.ofExchanges es =
          ⟨(k + 1) * s.packet.levelCount, (k + 1) * s.packet.levelCount,
            k * s.packet.levelCount + i⟩) := by
  induction n generalizing index es with
  | zero => cases h
  | succ n ih =>
    rw [setPlans_succ] at h
    rcases h.of_append with hset | ⟨es₁, es₂, rfl, hset, hrest⟩
    · refine ⟨0, Nat.succ_pos n, ?_⟩
      have hstop : fault.RaisedIn (UInt32.ofNat index) .sending ∧ _ ∨
        fault.RaisedIn (UInt32.ofNat index) .receiving ∧ _ := hset.tally_plan_stopped
      rw [levelCount_prepared] at hstop
      simpa using hstop
    · obtain ⟨k, hk, hstop⟩ := ih hrest
      have hdone := hset.tally_of_done
      rw [framesOf_plan, length_waitsOf_plan, TestSet.stimulusFrames, List.length_map,
        TestSet.length_order, levelCount_prepared] at hdone
      refine ⟨k + 1, Nat.succ_lt_succ hk, ?_⟩
      rw [Tally.ofExchanges_append, hdone]
      rw [Nat.add_assoc, Nat.add_comm 1] at hstop
      rcases hstop with ⟨hraised, j, hj, htally⟩ | ⟨hraised, i, hpos, hi, htally⟩
      · refine .inl ⟨hraised, j, hj, ?_⟩
        simp only [htally, Tally.add, Tally.mk.injEq, Nat.succ_mul]
        omega
      · refine .inr ⟨hraised, i, hpos, hi, ?_⟩
        simp only [htally, Tally.add, Tally.mk.injEq, Nat.succ_mul]
        omega

namespace Harness

def testSet (h : Harness) (k : Nat) : TestSet :=
  prepared h.settings (UInt32.ofNat k)
    ((Generator.ofSeed h.seed).afterOrders h.settings.packet.levelCount k)

/-- All that a run may ask for: the device, and then set by set the stimuli and the responses. -/
def plan (h : Harness) : List PlannedRequest :=
  ⟨0, .device⟩ :: (List.range h.settings.run.testSets.toNat).flatMap fun k =>
    (h.testSet k).plan h.settings.run.receiveTimeout

def stimulusFrames (h : Harness) : List Bytes :=
  (List.range h.settings.run.testSets.toNat).flatMap fun k => (h.testSet k).stimulusFrames

theorem plan_eq (h : Harness) :
    h.plan = ⟨0, .device⟩ ::
      setPlans h.settings (.ofSeed h.seed) 0 h.settings.run.testSets.toNat := by
  rw [plan, List.range_eq_range']
  rfl

theorem framesOf_plan (h : Harness) : framesOf h.plan = h.stimulusFrames := by
  have hset : ∀ k, framesOf ((h.testSet k).plan h.settings.run.receiveTimeout) =
    (h.testSet k).stimulusFrames := fun k => OffloadBench.framesOf_plan _ _
  simp only [framesOf] at hset
  simp only [framesOf, plan, stimulusFrames, List.map_cons, List.map_flatMap,
    List.filterMap_cons, Request.frame?, List.filterMap_flatMap, hset]

theorem run_follows {σ : Type} (h : Harness) (t : Transport σ) (x : σ × Transcript) :
    Follows h.plan x (h.run t.recorded x) := by
  rw [plan_eq]
  cases hdevice : t.recorded.device x with
  | mk outcome y =>
    have hrecorded := t.recorded_device x
    rw [hdevice, Prod.mk.injEq] at hrecorded
    obtain ⟨-, rfl⟩ := hrecorded
    cases outcome with
    | error e =>
      rw [run, hdevice]
      exact .stopped rfl rfl (Fault.raisedIn_ofTransport 0 .setup e)
    | ok d =>
      refine Follows.passed (e := .queried (t.device x.1).1) (s := (t.device x.1).2) rfl rfl ?_
      have hsets := runSets_follows t h.settings (.ofSeed h.seed) 0
        h.settings.run.testSets.toNat {} ((t.device x.1).2, x.2.push (.queried (t.device x.1).1))
      cases hrun : runSets t.recorded h.settings h.settings.run.testSets.toNat (UInt32.ofNat 0)
          ((Generator.ofSeed h.seed).afterOrders h.settings.packet.levelCount 0) {}
          ((t.device x.1).2, x.2.push (.queried (t.device x.1).1)) with
      | mk outcome final =>
        rw [hrun] at hsets
        cases outcome with
        | error fault =>
          rw [run_of_error hdevice hrun]
          exact hsets
        | ok p =>
          rw [run_of_ok hdevice hrun]
          exact hsets

end Harness

/-- What the phase and the test set of a fault tell about the requests of its run, of which there are
as many sets as `sets` and in each as many levels as `levels`. -/
def Fault.AccountsFor (fault : Fault) (sets levels : Nat) (log : Transcript) : Prop :=
  match fault.phase with
  | .setup => log.offered = [] ∧ log.waits = []
  | .sending => ∃ k : UInt32, fault.testSet? = some k ∧ k.toNat < sets ∧
      log.waits.length = k.toNat * levels ∧
      ∃ j < levels, log.frames.length = k.toNat * levels + j ∧
        log.offered.length = log.frames.length + 1
  | .receiving => ∃ k : UInt32, fault.testSet? = some k ∧ k.toNat < sets ∧
      log.frames.length = (k.toNat + 1) * levels ∧ log.offered.length = log.frames.length ∧
      k.toNat * levels + 1 ≤ log.waits.length ∧ log.waits.length ≤ (k.toNat + 1) * levels

theorem Device.Transcript.tally (log : Transcript) :
    Tally.ofExchanges log.toList = ⟨log.offered.length, log.frames.length, log.waits.length⟩ := by
  rw [log.frames_eq, log.waits_eq]
  rfl

namespace Harness

variable (h : Harness)

theorem length_stimulusFrames :
    h.stimulusFrames.length = h.settings.run.testSets.toNat * h.settings.packet.levelCount := by
  rw [← framesOf_plan, plan_eq]
  exact length_framesOf_setPlans _ _ _ _

theorem length_waitsOf_plan :
    (waitsOf h.plan).length = h.settings.run.testSets.toNat * h.settings.packet.levelCount := by
  rw [plan_eq]
  exact length_waitsOf_setPlans _ _ _ _

/-- A fault that ends a run is one of the outside and accounts for the requests made. -/
theorem accountsFor_of_course {fault : Fault} {log : Transcript}
    (hcourse : Course h.plan (some fault) log.toList) :
    fault.faultClass.isOutside = true ∧
      fault.AccountsFor h.settings.run.testSets.toNat h.settings.packet.levelCount log := by
  rw [plan_eq] at hcourse
  generalize hes : log.toList = es at hcourse
  have htally := log.tally
  cases hcourse with
  | stopped hrequest hframe hraised =>
    rw [hes, Tally.ofExchanges_singleton, hframe, hrequest, Tally.mk.injEq] at htally
    refine ⟨hraised.faultClass, ?_⟩
    rw [Fault.AccountsFor, hraised.phase]
    exact ⟨List.length_eq_zero_iff.1 htally.1.symm, List.length_eq_zero_iff.1 htally.2.2.symm⟩
  | passed hrequest hframe hsets =>
    rw [hes, Tally.ofExchanges_cons_device hrequest hframe] at htally
    obtain ⟨k, hk, hstop⟩ := hsets.tally_setPlans_stopped
    rw [Nat.zero_add] at hstop
    have hindex : (UInt32.ofNat k).toNat = k :=
      UInt32.toNat_ofNat_of_lt' (hk.trans (UInt32.toNat_lt _))
    rcases hstop with ⟨hraised, j, hj, hstop⟩ | ⟨hraised, i, hpos, hi, hstop⟩
    · rw [hstop, Tally.mk.injEq] at htally
      refine ⟨hraised.faultClass, ?_⟩
      rw [Fault.AccountsFor, hraised.phase]
      refine ⟨_, hraised.testSet, ?_⟩
      rw [hindex]
      obtain ⟨hoffered, hframes, hwaits⟩ := htally
      exact ⟨hk, by omega, j, hj, by omega, by omega⟩
    · rw [hstop, Tally.mk.injEq] at htally
      refine ⟨hraised.faultClass, ?_⟩
      rw [Fault.AccountsFor, hraised.phase]
      refine ⟨_, hraised.testSet, ?_⟩
      obtain ⟨hoffered, hframes, hwaits⟩ := htally
      rw [Nat.succ_mul] at hoffered hframes
      rw [hindex, Nat.succ_mul]
      exact ⟨hk, by omega, by omega, by omega, by omega⟩

/-- Whatever the transport does, a run makes requests of its plan in the order of the plan, and a fault
accounts for those made before it. -/
theorem run_accounted {σ : Type} (t : Transport σ) (state : σ) :
    let levels := h.settings.packet.levelCount
    let sets := h.settings.run.testSets.toNat
    let recorded := h.run t.recorded (state, #[])
    let log := recorded.2.2
    recorded.1 = (h.run t state).1 ∧ recorded.2.1 = (h.run t state).2 ∧
      log.requests <+: h.plan.map PlannedRequest.request ∧
      log.offered <+: h.stimulusFrames ∧
      log.offered.length ≤ sets * levels ∧ log.waits.length ≤ sets * levels ∧
      match recorded.1 with
      | .ok _ => log.frames = h.stimulusFrames ∧ log.offered = h.stimulusFrames ∧
          log.frames.length = sets * levels ∧ log.waits.length = sets * levels
      | .error fault => fault.faultClass.isOutside = true ∧ fault.AccountsFor sets levels log := by
  obtain ⟨log', hrecorded⟩ := h.run_recorded t state #[]
  have hfollows := h.run_follows t (state, #[])
  intro levels sets recorded log
  obtain ⟨es, hlog, hcourse⟩ := hfollows
  rw [Array.toList_empty, List.nil_append] at hlog
  have hrequests : log.requests <+: h.plan.map PlannedRequest.request := by
    rw [Transcript.requests, hlog]
    exact hcourse.requests_prefix
  have hoffered : log.offered <+: h.stimulusFrames := by
    rw [← h.framesOf_plan]
    exact hrequests.filterMap _
  have hwaits : log.waits <+: waitsOf h.plan := by
    rw [log.waits_eq]
    exact hrequests.filterMap _
  refine ⟨congrArg Prod.fst hrecorded, congrArg (fun r => r.2.1) hrecorded, hrequests, hoffered,
    h.length_stimulusFrames ▸ hoffered.length_le, h.length_waitsOf_plan ▸ hwaits.length_le, ?_⟩
  cases houtcome : recorded.1 with
  | error fault =>
    refine h.accountsFor_of_course ?_
    rw [hlog, ← show faultOf recorded.1 = some fault from congrArg faultOf houtcome]
    exact hcourse
  | ok report =>
    rw [show faultOf (h.run t.recorded (state, #[])).1 = none from congrArg faultOf houtcome]
      at hcourse
    have hframes : log.frames = h.stimulusFrames := by
      rw [log.frames_eq, hlog, hcourse.frames_of_done]
      exact h.framesOf_plan
    have hdone : log.requests = h.plan.map PlannedRequest.request := by
      rw [Transcript.requests, hlog, hcourse.requests_of_done]
    refine ⟨hframes, ?_, ?_, ?_⟩
    · rw [Transcript.offered, hdone]
      exact h.framesOf_plan
    · rw [hframes, h.length_stimulusFrames]
    · rw [log.waits_eq, hdone]
      exact h.length_waitsOf_plan

end Harness

end OffloadBench
