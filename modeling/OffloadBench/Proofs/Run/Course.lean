import OffloadBench.Proofs.Run.Attribution
import OffloadBench.Proofs.Run.Recorded

/-! # Courses of runs

What a run may ask of its transport is laid down beforehand: the device query, and for each set its
stimuli in their order and then one wait for each level. A run goes down this plan request by
request. It reaches the end, or it stops at a request that was refused or brought nothing to verify,
and then its fault names the set and the phase of that very request.
-/
namespace OffloadBench.Device
open Wire

inductive Request
  | device
  | send (frame : Bytes)
  | wait (capacity : Nat) (timeout : Option UInt64)
  deriving DecidableEq, Repr

namespace Request

def phase : Request → Phase
  | .device => .setup
  | .send _ => .sending
  | .wait .. => .receiving

def frame? : Request → Option Bytes
  | .send frame => some frame
  | _ => none

def wait? : Request → Option (Nat × Option UInt64)
  | .wait capacity timeout => some (capacity, timeout)
  | _ => none

end Request

namespace Exchange

def request : Exchange → Request
  | .queried _ => .device
  | .sent frame _ => .send frame
  | .received capacity timeout _ => .wait capacity timeout

def frame? : Exchange → Option Bytes
  | .sent frame (.ok ()) => some frame
  | _ => none

end Exchange

namespace Transcript

def requests (log : Transcript) : List Request := log.toList.map Exchange.request

def offered (log : Transcript) : List Bytes := log.requests.filterMap Request.frame?

theorem frames_eq (log : Transcript) : log.frames = log.toList.filterMap Exchange.frame? := by
  refine List.filterMap_congr fun e _ => ?_
  cases e with
  | sent frame outcome => cases outcome <;> rfl
  | queried | received => rfl

theorem waits_eq (log : Transcript) : log.waits = log.requests.filterMap Request.wait? := by
  rw [requests, List.filterMap_map]
  refine List.filterMap_congr fun e _ => ?_
  cases e <;> rfl

end Transcript

end OffloadBench.Device

namespace OffloadBench
open Config Device Draw Round Wire

structure PlannedRequest where
  testSet : UInt32
  request : Request

def faultOf {α : Type} : Except Fault α → Option Fault
  | .ok _ => none
  | .error fault => some fault

/-- The exchanges of a run that goes down a plan: to its end, or up to a request that ends the run
with a fault of its set and its phase. A send that the run stops at has not succeeded, and those
before it have. -/
inductive Course : List PlannedRequest → Option Fault → List Exchange → Prop
  | done : Course [] none []
  | stopped {p : PlannedRequest} {plan : List PlannedRequest} {fault : Fault} {e : Exchange} :
      e.request = p.request → e.frame? = none → fault.RaisedIn p.testSet p.request.phase →
      Course (p :: plan) (some fault) [e]
  | passed {p : PlannedRequest} {plan : List PlannedRequest} {last : Option Fault} {e : Exchange}
      {es : List Exchange} :
      e.request = p.request → e.frame? = p.request.frame? → Course plan last es →
      Course (p :: plan) last (e :: es)

namespace Course

variable {plan more : List PlannedRequest} {last : Option Fault} {fault : Fault}
variable {es es' : List Exchange}

theorem append (h : Course plan none es) (hmore : Course more last es') :
    Course (plan ++ more) last (es ++ es') := by
  generalize hlast : (none : Option Fault) = ended at h
  induction h with
  | done => exact hmore
  | stopped => cases hlast
  | passed hrequest hframe _ ih => exact .passed hrequest hframe (ih hlast)

theorem append_of_stopped (h : Course plan (some fault) es) (more : List PlannedRequest) :
    Course (plan ++ more) (some fault) es := by
  generalize hlast : some fault = ended at h ⊢
  induction h with
  | done => cases hlast
  | stopped hrequest hframe hraised => exact .stopped hrequest hframe hraised
  | passed hrequest hframe _ ih => exact .passed hrequest hframe (ih hlast)

/-- A run that stops does so in the first part of its plan, or it goes through that part first. -/
theorem of_append (h : Course (plan ++ more) (some fault) es) :
    Course plan (some fault) es ∨
      ∃ es₁ es₂, es = es₁ ++ es₂ ∧ Course plan none es₁ ∧ Course more (some fault) es₂ := by
  induction plan generalizing es with
  | nil => exact .inr ⟨[], es, rfl, .done, h⟩
  | cons p plan ih =>
    cases h with
    | stopped hrequest hframe hraised => exact .inl (.stopped hrequest hframe hraised)
    | passed hrequest hframe hrest =>
      rcases ih hrest with hfirst | ⟨es₁, es₂, rfl, hfirst, hsecond⟩
      · exact .inl (.passed hrequest hframe hfirst)
      · exact .inr ⟨_, es₂, rfl, .passed hrequest hframe hfirst, hsecond⟩

theorem requests_prefix (h : Course plan last es) :
    es.map Exchange.request <+: plan.map PlannedRequest.request := by
  induction h with
  | done => exact List.prefix_refl _
  | stopped hrequest =>
    rw [List.map_cons, List.map_cons, hrequest]
    exact (List.prefix_cons_inj _).2 List.nil_prefix
  | passed hrequest _ _ ih =>
    rw [List.map_cons, List.map_cons, hrequest]
    exact (List.prefix_cons_inj _).2 ih

theorem requests_of_done (h : Course plan none es) :
    es.map Exchange.request = plan.map PlannedRequest.request := by
  generalize hlast : (none : Option Fault) = ended at h
  induction h with
  | done => rfl
  | stopped => cases hlast
  | passed hrequest _ _ ih => rw [List.map_cons, List.map_cons, hrequest, ih hlast]

theorem frames_of_done (h : Course plan none es) :
    es.filterMap Exchange.frame? =
      (plan.map PlannedRequest.request).filterMap Request.frame? := by
  generalize hlast : (none : Option Fault) = ended at h
  induction h with
  | done => rfl
  | stopped => cases hlast
  | passed _ hframe _ ih =>
    rw [List.map_cons, List.filterMap_cons, List.filterMap_cons, hframe, ih hlast]

end Course

variable {σ α : Type} {t : Transport σ} {x : σ × Transcript}

def Follows (plan : List PlannedRequest) (x : σ × Transcript)
    (result : Except Fault α × σ × Transcript) : Prop :=
  ∃ es, result.2.2.toList = x.2.toList ++ es ∧ Course plan (faultOf result.1) es

theorem Follows.stopped {p : PlannedRequest} {plan : List PlannedRequest} {fault : Fault}
    {e : Exchange} {s : σ} (hrequest : e.request = p.request) (hframe : e.frame? = none)
    (hraised : fault.RaisedIn p.testSet p.request.phase) :
    Follows (p :: plan) x ((.error fault : Except Fault α), s, x.2.push e) :=
  ⟨[e], Array.toList_push, .stopped hrequest hframe hraised⟩

theorem Follows.passed {p : PlannedRequest} {plan : List PlannedRequest} {e : Exchange} {s : σ}
    {result : Except Fault α × σ × Transcript} (hrequest : e.request = p.request)
    (hframe : e.frame? = p.request.frame?) (h : Follows plan (s, x.2.push e) result) :
    Follows (p :: plan) x result := by
  obtain ⟨es, hlog, hcourse⟩ := h
  refine ⟨e :: es, ?_, .passed hrequest hframe hcourse⟩
  rw [hlog, Array.toList_push, List.append_assoc]
  rfl

theorem Follows.append {β : Type} {plan more : List PlannedRequest} {a : α} {y : σ × Transcript}
    {result : Except Fault β × σ × Transcript}
    (h : Follows plan x ((.ok a : Except Fault α), y)) (hmore : Follows more y result) :
    Follows (plan ++ more) x result := by
  obtain ⟨es, hlog, hcourse⟩ := h
  obtain ⟨es', hlog', hcourse'⟩ := hmore
  refine ⟨es ++ es', ?_, hcourse.append hcourse'⟩
  rw [hlog', hlog, List.append_assoc]

theorem Follows.append_of_error {β : Type} {plan : List PlannedRequest} {fault : Fault}
    {y : σ × Transcript} (h : Follows plan x ((.error fault : Except Fault α), y))
    (more : List PlannedRequest) :
    Follows (plan ++ more) x ((.error fault : Except Fault β), y) := by
  obtain ⟨es, hlog, hcourse⟩ := h
  exact ⟨es, hlog, hcourse.append_of_stopped more⟩

namespace Round.TestSet

def sends (set : TestSet) (levels : List Nat) : List PlannedRequest :=
  levels.map fun level => ⟨set.index, .send (set.stimulus level).toBytes⟩

def wait (set : TestSet) (timeout : Option UInt64) : PlannedRequest :=
  ⟨set.index, .wait (bufferCapacity set) timeout⟩

def plan (set : TestSet) (timeout : Option UInt64) : List PlannedRequest :=
  set.sends set.order ++ List.replicate set.levelCount (set.wait timeout)

end Round.TestSet

theorem sendLevels_follows (t : Transport σ) {set : TestSet} {levels : List Nat}
    (hlt : ∀ l ∈ levels, l < set.levelCount) (x : σ × Transcript) :
    Follows (set.sends levels) x (sendLevels t.recorded set levels x) := by
  induction levels generalizing x with
  | nil => exact ⟨[], (List.append_nil _).symm, .done⟩
  | cons l rest ih =>
    rw [sendLevels, TestSet.stimulusFrame_eq (hlt l List.mem_cons_self)]
    dsimp only
    rw [Transport.recorded_send]
    cases (t.send (set.stimulus l).toBytes x.1).1 with
    | error e => exact .stopped rfl rfl (Fault.raisedIn_ofTransport _ _ e)
    | ok => exact .passed rfl rfl (ih (fun l hl => hlt l (List.mem_cons_of_mem _ hl)) _)

/-- As many waits are planned as levels are missing. -/
theorem collect_follows (t : Transport σ) (set : TestSet) (offset : UInt8)
    (timeout : Option UInt64) {r : Reception} {missing : Nat}
    (hmissing : r.observed.size + missing = set.levelCount) (x : σ × Transcript) :
    Follows (List.replicate missing (set.wait timeout)) x
      (collect t.recorded set offset timeout r x) := by
  induction missing generalizing r x with
  | zero =>
    rw [collect_of_complete (beq_iff_eq.2 hmissing)]
    exact ⟨[], (List.append_nil _).symm, .done⟩
  | succ missing ih =>
    have hopen : r.isComplete set = false := beq_eq_false_iff_ne.2 (by omega)
    have hreceive := Transport.recorded_receive t (bufferCapacity set) timeout x
    cases hawaited : awaited set r (t.receive (bufferCapacity set) timeout x.1).1 with
    | error fault =>
      rw [collect_of_fault hopen hreceive hawaited]
      exact .stopped rfl rfl (raisedIn_of_awaited hawaited)
    | ok frame =>
      cases hexamine : examine set offset r frame with
      | error fault =>
        rw [collect_of_refused hopen hreceive hawaited hexamine]
        exact .stopped rfl rfl (raisedIn_of_examine hexamine)
      | ok v =>
        rw [collect_of_verified hopen hreceive hawaited hexamine]
        have hsize := (record_of_examine_ok hexamine).2
        exact .passed rfl rfl (ih (by omega) _)

theorem runSet_follows (t : Transport σ) (s : Settings) (set : TestSet) (x : σ × Transcript) :
    Follows (set.plan s.run.receiveTimeout) x (runSet t.recorded s set x) := by
  have hsends : Follows (set.sends set.order) x (sendStimuli t.recorded set x) :=
    sendLevels_follows t (fun _ => TestSet.lt_of_mem_order) x
  rw [runSet]
  cases hsend : sendStimuli t.recorded set x with
  | mk outcome y =>
    rw [hsend] at hsends
    cases outcome with
    | error fault => exact hsends.append_of_error _
    | ok =>
      refine hsends.append (collect_follows t set _ _ ?_ y)
      rw [show (({} : Reception).observed.size = 0) from LevelSet.size_empty, Nat.zero_add]

end OffloadBench
