import OffloadBench.Proofs.Engine.Answers

/-! # Injected faults

What an engine's faults make of the responses of a round, whatever faults are combined. A dropped response
is left out; any other is emptied, then flipped, then shortened, each if the fault names its level; and a
repeated one moves to the front, twice. Every fault that finds a response to act on counts once, and so do
reversed sums.
-/
namespace OffloadBench.Engine.Faults
open Wire

variable (f : Faults)

section Level
variable (level : UInt8)

def drops : Bool := decide (f.drop = some level)

def empties : Bool := decide (f.empty = some level)

def flips (frame : Bytes) : Bool :=
  f.corrupt.any fun c => decide (c.level = level ∧ c.offset < frame.length)

def shortens : Bool := f.truncate.any fun t => decide (t.level = level)

def repeats : Bool := decide (f.duplicate = some level)

/-- No fault names the level, and the sums are not reversed. -/
def spares : Bool :=
  !(f.reverse || f.drops level || f.empties level || f.corrupt.any (·.level = level) ||
    f.shortens level || f.repeats level)

def emptied (frame : Bytes) : Bytes := if f.empties level then [] else frame

def flipped (frame : Bytes) : Bytes :=
  match f.corrupt with
  | none => frame
  | some c =>
    let bits := if c.mask = 0 then 0xFF else c.mask
    if c.level = level then frame.modify c.offset (· ^^^ bits) else frame

def shortened (frame : Bytes) : Bytes :=
  match f.truncate with
  | none => frame
  | some t => if t.level = level then frame.take (frame.length - t.bytes) else frame

end Level

def spoiled (r : Response) : Bytes :=
  f.shortened r.level (f.flipped r.level (f.emptied r.level r.frame))

def spoil (r : Response) : Response := ⟨r.level, f.spoiled r⟩

def kept (rs : List Response) : List Response := rs.filter fun r => !f.drops r.level

def repeated (rs : List Response) : List Response := (f.kept rs).filter fun r => f.repeats r.level

/-- Whether each fault acts on a round: reversed sums always do, the others if they find a response. -/
def injections (rs : List Response) : List Bool :=
  [f.reverse,
    rs.any fun r => f.drops r.level,
    (f.kept rs).any fun r => f.empties r.level,
    (f.kept rs).any fun r => f.flips r.level (f.emptied r.level r.frame),
    (f.kept rs).any fun r => f.shortens r.level,
    (f.kept rs).any fun r => f.repeats r.level]

section Single
variable (r : Response)

theorem applyEmpty_eq :
    f.applyEmpty r = (⟨r.level, f.emptied r.level r.frame⟩, (f.empties r.level).toNat) := by
  by_cases h : f.empty = some r.level <;> simp [applyEmpty, emptied, empties, h]

theorem flipped_of_corrupt {c : Corruption} (h : f.corrupt = some c) (level : UInt8)
    (frame : Bytes) :
    f.flipped level frame =
      if c.level = level then frame.modify c.offset (· ^^^ c.bits) else frame := by
  rw [flipped, h]
  rfl

theorem applyCorrupt_eq :
    f.applyCorrupt r = (⟨r.level, f.flipped r.level r.frame⟩, (f.flips r.level r.frame).toNat) := by
  cases hcorrupt : f.corrupt with
  | none => simp [applyCorrupt, flipped, flips, hcorrupt]
  | some c =>
    rw [f.flipped_of_corrupt hcorrupt]
    by_cases hlevel : c.level = r.level
    · by_cases hoffset : c.offset < r.frame.length
      · simp [applyCorrupt, flips, hcorrupt, hlevel, hoffset, Option.filter, List.modify_eq_set]
      · have hsame := List.modify_eq_self (f := (· ^^^ c.bits)) (Nat.not_lt.1 hoffset)
        simp [applyCorrupt, flips, hcorrupt, hlevel, hoffset, Option.filter, hsame]
    · simp [applyCorrupt, flips, hcorrupt, hlevel, Option.filter]

theorem applyTruncate_eq :
    f.applyTruncate r = (⟨r.level, f.shortened r.level r.frame⟩, (f.shortens r.level).toNat) := by
  cases htruncate : f.truncate with
  | none => simp [applyTruncate, shortened, shortens, htruncate]
  | some t =>
    by_cases hlevel : t.level = r.level <;>
      simp [applyTruncate, shortened, shortens, htruncate, hlevel, Option.filter]

theorem corrupt_of_flips {level : UInt8} {frame : Bytes} (h : f.flips level frame = true) :
    f.corrupt.map (·.level) = some level := by
  obtain ⟨c, hc, hlevel⟩ := (Option.any_eq_true _ _).1 h
  rw [hc, Option.map_some, (of_decide_eq_true hlevel).1]

theorem truncate_of_shortens {level : UInt8} (h : f.shortens level = true) :
    f.truncate.map (·.level) = some level := by
  obtain ⟨t, ht, hlevel⟩ := (Option.any_eq_true _ _).1 h
  rw [ht, Option.map_some, of_decide_eq_true hlevel]

theorem applyTo_of_drops {r : Response} (h : f.drops r.level = true) :
    f.applyTo r = (none, 1) := if_pos (of_decide_eq_true h)

theorem applyTo_of_kept {r : Response} (h : f.drops r.level = false) :
    f.applyTo r = (some (f.spoil r),
      (f.empties r.level).toNat + (f.flips r.level (f.emptied r.level r.frame)).toNat +
        (f.shortens r.level).toNat) := by
  rw [applyTo, if_neg (of_decide_eq_false h), applyEmpty_eq]
  dsimp only
  rw [applyCorrupt_eq]
  dsimp only
  rw [applyTruncate_eq]
  rfl

theorem applyTo_snd :
    (f.applyTo r).2 = (f.drops r.level).toNat + (!f.drops r.level && f.empties r.level).toNat +
      (!f.drops r.level && f.flips r.level (f.emptied r.level r.frame)).toNat +
        (!f.drops r.level && f.shortens r.level).toNat := by
  cases h : f.drops r.level with
  | true => simp [applyTo_of_drops f h]
  | false => simp [applyTo_of_kept f h]

theorem spares_iff {level : UInt8} :
    f.spares level = true ↔ f.reverse = false ∧ f.drops level = false ∧ f.empties level = false ∧
      f.corrupt.any (·.level = level) = false ∧ f.shortens level = false ∧
      f.repeats level = false := by
  simp only [spares, Bool.not_eq_true', Bool.or_eq_false_iff, and_assoc]

theorem spoiled_of_spares {r : Response} (h : f.spares r.level = true) : f.spoiled r = r.frame := by
  obtain ⟨-, -, hempty, hcorrupt, hshorten, -⟩ := f.spares_iff.1 h
  have hflipped : f.flipped r.level r.frame = r.frame := by
    rw [flipped]
    split
    · rfl
    · rename_i c hc
      rw [hc, Option.any_some, decide_eq_false_iff_not] at hcorrupt
      exact if_neg hcorrupt
  have hshortened : f.shortened r.level r.frame = r.frame := by
    rw [shortened]
    split
    · rfl
    · rename_i t ht
      rw [shortens, ht, Option.any_some, decide_eq_false_iff_not] at hshorten
      rw [if_neg hshorten]
  rw [spoiled, emptied, hempty, if_neg Bool.false_ne_true, hflipped, hshortened]

end Single

section Round
variable (rs : List Response)

theorem apply_eq : f.apply rs = (f.kept rs).map f.spoil := by
  induction rs with
  | nil => rfl
  | cons r rs ih =>
    rw [apply, kept] at ih ⊢
    rw [List.filterMap_cons, List.filter_cons]
    cases h : f.drops r.level with
    | true => simpa [applyTo_of_drops f h] using ih
    | false => simpa [applyTo_of_kept f h] using ih

/-- A condition that only responses of one level meet is met once or never. -/
theorem sum_toNat_of_distinct {rs : List Response} (hdistinct : (rs.map (·.level)).Nodup)
    {P : Response → Bool} (named : Option UInt8)
    (hnamed : ∀ r ∈ rs, P r = true → named = some r.level) :
    (rs.map fun r => (P r).toNat).sum = (rs.any P).toNat := by
  induction rs with
  | nil => rfl
  | cons r rs ih =>
    rw [List.map_cons, List.nodup_cons] at hdistinct
    have hrest := ih hdistinct.2 fun q hq => hnamed q (List.mem_cons_of_mem _ hq)
    rw [List.map_cons, List.sum_cons, hrest, List.any_cons]
    cases hr : P r with
    | false => simp
    | true =>
      have hnone : rs.any P = false := by
        rw [List.any_eq_false]
        intro q hq hPq
        have hlevel : some q.level = some r.level :=
          (hnamed q (List.mem_cons_of_mem _ hq) hPq).symm.trans (hnamed r List.mem_cons_self hr)
        exact hdistinct.1 (Option.some.inj hlevel ▸ List.mem_map_of_mem hq)
      simp [hnone]

theorem count_true_cons (b : Bool) (bs : List Bool) :
    (b :: bs).count true = b.toNat + bs.count true := by
  cases b <;> simp [Nat.add_comm]

variable {rs : List Response}

theorem applyCount_add_repeated (hdistinct : (rs.map (·.level)).Nodup) :
    f.applyCount rs + ((f.kept rs).any fun r => f.repeats r.level).toNat =
      (f.injections rs).count true := by
  have hdrops := sum_toNat_of_distinct hdistinct (P := fun r => f.drops r.level) f.drop
    fun r _ h => of_decide_eq_true h
  have hempties := sum_toNat_of_distinct hdistinct
    (P := fun r => !f.drops r.level && f.empties r.level) f.empty
    fun r _ h => of_decide_eq_true (Bool.and_eq_true_iff.1 h).2
  have hflips := sum_toNat_of_distinct hdistinct
    (P := fun r => !f.drops r.level && f.flips r.level (f.emptied r.level r.frame))
    (f.corrupt.map (·.level)) fun r _ h => f.corrupt_of_flips (Bool.and_eq_true_iff.1 h).2
  have hshortens := sum_toNat_of_distinct hdistinct
    (P := fun r => !f.drops r.level && f.shortens r.level) (f.truncate.map (·.level))
    fun r _ h => f.truncate_of_shortens (Bool.and_eq_true_iff.1 h).2
  have hreverse : (if f.reverse then 1 else 0) = f.reverse.toNat := by cases f.reverse <;> rfl
  have hsum : (rs.map fun r => (f.applyTo r).2).foldr (· + ·) 0 =
      (rs.map fun r => (f.applyTo r).2).sum := rfl
  rw [applyCount, hsum, hreverse]
  simp only [applyTo_snd, List.sum_map_add, hdrops, hempties, hflips, hshortens, injections,
    count_true_cons, kept, List.any_filter, List.count_nil]
  omega

theorem repeats_eq {level : UInt8} (h : f.duplicate = some level) :
    (fun r : Response => f.repeats r.level) = fun r => decide (r.level = level) := by
  funext r
  simp [repeats, h, eq_comm]

theorem repeatFirst_of_none (h : rs.find? (fun r => f.repeats r.level) = none) :
    f.repeatFirst rs = (rs, 0) := by
  cases hduplicate : f.duplicate with
  | none => simp only [repeatFirst, hduplicate]
  | some level =>
    rw [f.repeats_eq hduplicate] at h
    simp only [repeatFirst, hduplicate, h]

theorem repeatFirst_of_some {r : Response} (h : rs.find? (fun r => f.repeats r.level) = some r) :
    f.repeatFirst rs = (r :: r :: rs.eraseP fun r => f.repeats r.level, 1) := by
  cases hduplicate : f.duplicate with
  | none =>
    obtain ⟨hrepeats, -⟩ := List.find?_eq_some_iff_append.1 h
    rw [repeats, hduplicate] at hrepeats
    exact absurd (of_decide_eq_true hrepeats) (Option.some_ne_none _).symm
  | some level =>
    rw [f.repeats_eq hduplicate] at h ⊢
    simp only [repeatFirst, hduplicate, h]

theorem eq_of_repeats (hdistinct : (rs.map (·.level)).Nodup) {q r : Response} (hq : q ∈ rs)
    (hr : r ∈ rs) (hq' : f.repeats q.level = true) (hr' : f.repeats r.level = true) : q = r :=
  List.inj_on_of_nodup_map hdistinct hq hr
    (Option.some.inj ((of_decide_eq_true hq').symm.trans (of_decide_eq_true hr')))

theorem length_repeated_le (hdistinct : (rs.map (·.level)).Nodup) : (f.repeated rs).length ≤ 1 := by
  have hnodup : (f.repeated rs).Nodup := ((List.Nodup.of_map _ hdistinct).filter _).filter _
  have hsame : ∀ q ∈ f.repeated rs, ∀ r ∈ f.repeated rs, q = r := by
    intro q hq r hr
    obtain ⟨hq, hq'⟩ := List.mem_filter.1 hq
    obtain ⟨hr, hr'⟩ := List.mem_filter.1 hr
    exact f.eq_of_repeats hdistinct (List.mem_of_mem_filter hq) (List.mem_of_mem_filter hr) hq' hr'
  match h : f.repeated rs with
  | [] | [_] => simp
  | q :: r :: rest =>
    rw [h] at hnodup hsame
    have heq : q = r := hsame q (by simp) r (by simp)
    exact absurd (by simp [heq]) (List.nodup_cons.1 hnodup).1

/-- Where a level answers once, a repeated response is in front, and its copy behind it. -/
theorem repeatFirst_spec (hdistinct : (rs.map (·.level)).Nodup) :
    (f.repeatFirst rs).1.Perm (rs ++ rs.filter fun r => f.repeats r.level) ∧
      (∀ r ∈ rs, f.repeats r.level = true → [r, r] <+: (f.repeatFirst rs).1) ∧
      (f.repeatFirst rs).2 = (rs.any fun r => f.repeats r.level).toNat := by
  cases hfind : rs.find? fun r => f.repeats r.level with
  | none =>
    rw [f.repeatFirst_of_none hfind]
    have hother : ∀ r ∈ rs, ¬ f.repeats r.level = true := List.find?_eq_none.1 hfind
    rw [List.filter_eq_nil_iff.2 hother, List.any_eq_false.2 hother, List.append_nil]
    exact ⟨List.Perm.refl rs, fun r hr h => absurd h (hother r hr), rfl⟩
  | some r =>
    rw [f.repeatFirst_of_some hfind]
    obtain ⟨hrepeats, before, behind, rfl, hbefore⟩ := List.find?_eq_some_iff_append.1 hfind
    have honly : ∀ q ∈ before ++ r :: behind, f.repeats q.level = true → q = r :=
      fun q hq hq' => f.eq_of_repeats hdistinct hq (by simp) hq' hrepeats
    obtain ⟨-, hnodup, -⟩ := List.nodup_append.1 (List.Nodup.of_map _ hdistinct)
    have hbefore' : ∀ q ∈ before, ¬ f.repeats q.level = true := by simpa using hbefore
    have hbehind : ∀ q ∈ behind, ¬ f.repeats q.level = true := by
      intro q hq hq'
      exact (List.nodup_cons.1 hnodup).1 (honly q (by simp [hq]) hq' ▸ hq)
    have hfilter : (before ++ r :: behind).filter (fun r => f.repeats r.level) = [r] := by
      rw [List.filter_append, List.filter_eq_nil_iff.2 hbefore', List.filter_cons, if_pos hrepeats,
        List.filter_eq_nil_iff.2 hbehind, List.nil_append]
    have herase : (before ++ r :: behind).eraseP (fun r => f.repeats r.level) = before ++ behind := by
      rw [List.eraseP_append_right _ hbefore', List.eraseP_cons, hrepeats, cond_true]
    refine ⟨?_, ?_, by simp [hrepeats]⟩
    · dsimp only
      rw [hfilter, herase]
      exact (List.perm_middle.symm.cons r).trans (List.perm_append_singleton _ _).symm
    · intro q hq hq'
      rw [honly q hq hq']
      exact ⟨_, rfl⟩

end Round

end OffloadBench.Engine.Faults
