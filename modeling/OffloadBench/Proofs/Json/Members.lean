import Mathlib.Data.String.Basic
import OffloadBench.Json.Value

/-! # Members in the order of their names

Insertion changes what stands under one name and keeps the members in order. Members in order are
known by what stands under each name.
-/
namespace OffloadBench.Json

variable {α : Type}

theorem lookup_cons_eq_ite (k key : String) (v : α) (rest : List (String × α)) :
    ((k, v) :: rest).lookup key = if key = k then some v else rest.lookup key := by
  rw [List.lookup_cons]
  by_cases hkey : key = k
  · rw [if_pos hkey, beq_iff_eq.2 hkey]
  · rw [if_neg hkey, beq_eq_false_iff_ne.2 hkey]

theorem lookup_insertMember (name key : String) (value : α) (members : List (String × α)) :
    (insertMember name value members).lookup key =
      if key = name then some value else members.lookup key := by
  induction members with
  | nil => exact lookup_cons_eq_ite _ _ _ _
  | cons member rest ih =>
    obtain ⟨k, v⟩ := member
    rw [insertMember, lookup_cons_eq_ite k]
    split
    · -- the new member stands in the place of the old one
      rename_i hname
      rw [lookup_cons_eq_ite, ← hname]
      split <;> rfl
    · split
      · rw [lookup_cons_eq_ite, lookup_cons_eq_ite k]
      · rename_i hname _
        rw [lookup_cons_eq_ite, ih]
        by_cases hkey : key = name
        · rw [if_pos hkey, if_pos hkey, if_neg (hkey ▸ hname)]
        · rw [if_neg hkey, if_neg hkey]

def Ordered (members : List (String × α)) : Prop := members.Pairwise fun a b => a.1 < b.1

variable {members : List (String × α)}

theorem mem_insertMember {name : String} {value : α} {m : String × α}
    (h : m ∈ insertMember name value members) : m = (name, value) ∨ m ∈ members := by
  induction members with
  | nil => exact Or.inl (List.mem_singleton.1 h)
  | cons member rest ih =>
    rw [insertMember] at h
    split_ifs at h with hname hlt
    · rcases List.mem_cons.1 h with rfl | h
      · exact Or.inl rfl
      · exact Or.inr (List.mem_cons_of_mem _ h)
    · exact List.mem_cons.1 h
    · rcases List.mem_cons.1 h with rfl | h
      · exact Or.inr List.mem_cons_self
      · exact (ih h).imp_right (List.mem_cons_of_mem _)

theorem Ordered.insertMember (h : Ordered members) (name : String) (value : α) :
    Ordered (insertMember name value members) := by
  induction members with
  | nil => exact List.pairwise_singleton _ _
  | cons member rest ih =>
    obtain ⟨hfirst, hrest⟩ := List.pairwise_cons.1 h
    rw [Json.insertMember]
    split_ifs with hname hlt
    · exact List.pairwise_cons.2 ⟨fun m hm => hname ▸ hfirst m hm, hrest⟩
    · refine List.pairwise_cons.2 ⟨?_, h⟩
      intro m hm
      rcases List.mem_cons.1 hm with rfl | hm
      · exact hlt
      · exact hlt.trans (hfirst m hm)
    · refine List.pairwise_cons.2 ⟨?_, ih hrest⟩
      intro m hm
      rcases mem_insertMember hm with rfl | hm
      · exact lt_of_le_of_ne (not_lt.1 hlt) (Ne.symm hname)
      · exact hfirst m hm

theorem Ordered.mem_iff (h : Ordered members) (name : String) (value : α) :
    (name, value) ∈ members ↔ members.lookup name = some value := by
  induction members with
  | nil => simp
  | cons member rest ih =>
    obtain ⟨k, v⟩ := member
    obtain ⟨hfirst, hrest⟩ := List.pairwise_cons.1 h
    rw [lookup_cons_eq_ite, List.mem_cons, Prod.mk.injEq, ih hrest]
    split_ifs with hname
    · subst hname
      constructor
      · rintro (⟨-, rfl⟩ | hmem)
        · rfl
        · exact absurd (hfirst _ ((ih hrest).2 hmem)) (lt_irrefl _)
      · intro hvalue
        exact Or.inl ⟨rfl, (Option.some.inj hvalue).symm⟩
    · simp [hname]

/-- The first name of all does not come again. -/
theorem Ordered.lookup_first {m : String × α} (h : Ordered (m :: members)) :
    members.lookup m.1 = none := by
  obtain ⟨hfirst, hrest⟩ := List.pairwise_cons.1 h
  rw [Option.eq_none_iff_forall_ne_some]
  intro value hvalue
  exact lt_irrefl _ (hfirst (m.1, value) ((Ordered.mem_iff hrest _ _).2 hvalue))

theorem Ordered.nodup (h : Ordered members) : members.Nodup := by
  refine h.imp ?_
  rintro a b hlt rfl
  exact lt_irrefl _ hlt

theorem Ordered.ext {others : List (String × α)} (h : Ordered members) (h' : Ordered others)
    (hlookup : ∀ name, members.lookup name = others.lookup name) : members = others := by
  refine List.Perm.eq_of_pairwise (fun a b _ _ hab hba => absurd hab (not_lt.2 hba.le)) h h' ?_
  refine (List.perm_ext_iff_of_nodup h.nodup h'.nodup).2 ?_
  rintro ⟨name, value⟩
  rw [h.mem_iff, h'.mem_iff, hlookup]

end OffloadBench.Json
