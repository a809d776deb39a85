import Mathlib.Data.List.Induction
import OffloadBench.Config.Layers
import OffloadBench.Proofs.Config.Fields
import OffloadBench.Proofs.Json.Members
import OffloadBench.Proofs.Text.ByteOrder

/-! # Layering

Of a key only the last binding counts, so a layer is the same for all lists of bindings that give each
key one text; in the environment bindings without the mark may go, and bindings of different keys may
change places. A layer sets the field of every key that it binds and keeps the other fields; of bad
bindings it reports the one whose key comes first in the order of bytes.

Settings are loaded exactly if the file layer is, the bindings that count are all well formed, and the
valid settings have in each field what the overrides say, else what the environment says, else what the
file layer holds. A file layer that was not loaded is the error itself, then comes the first bad binding
of the environment, then that of the overrides. After good layers only the check of the settings can fail.
-/
namespace OffloadBench.Config

/-- The text that bindings give a key: that of the last one. -/
def bound? (bindings : List Binding) (key : String) : Option String := bindings.reverse.lookup key

def marked (environment : List Binding) : List Binding :=
  environment.filter fun b => keyMark.toList.isPrefixOf b.1.toList

def WellFormed (b : Binding) : Prop := ∃ key : Key, key.name = b.1 ∧ key.Admits b.2

inductive Refused (b : Binding) : ConfigError → Prop
  | unknownKey (h : ∀ key : Key, key.name ≠ b.1) : Refused b (.unknownKey b.1)
  | badValue (key : Key) (h : key.name = b.1) (hadmits : ¬ key.Admits b.2) :
    Refused b (.badValue b.1 b.2)

def Clean (bindings : List Binding) : Prop :=
  ∀ key text, bound? bindings key = some text → WellFormed (key, text)

/-- Of the bad bindings that count, the one whose key has the least bytes. -/
structure FirstBad (bindings : List Binding) (b : Binding) : Prop where
  bound : bound? bindings b.1 = some b.2
  bad : ¬ WellFormed b
  least : ∀ key text, bound? bindings key = some text → ¬ WellFormed (key, text) →
    key = b.1 ∨ Text.bytes b.1 < Text.bytes key

/-- Settings under texts for some of their keys: each field has the value that its text denotes, or
without a text the value that it had. -/
def Overlaid (s : Settings) (text? : String → Option String) (t : Settings) : Prop :=
  ∀ (α : Type) (f : Field α),
    match text? f.key.name with
    | some text => f.Denotes text (f.get t)
    | none => f.get t = f.get s

theorem bound?_append_singleton (bindings : List Binding) (b : Binding) (key : String) :
    bound? (bindings ++ [b]) key = if key = b.1 then some b.2 else bound? bindings key := by
  rw [bound?, List.reverse_append]
  exact Json.lookup_cons_eq_ite b.1 key b.2 _

theorem bound?_append (as bs : List Binding) (key : String) :
    bound? (as ++ bs) key = (bound? bs key).or (bound? as key) := by
  rw [bound?, List.reverse_append, List.lookup_append]
  rfl

theorem insertBinding_eq (key value : String) (bindings : List Binding) :
    insertBinding key value bindings = Json.insertMember key value bindings := by
  induction bindings with
  | nil => rfl
  | cons b rest ih => rw [insertBinding, Json.insertMember, ih]

theorem layer_append_singleton (bindings : List Binding) (b : Binding) :
    layer (bindings ++ [b]) = Json.insertMember b.1 b.2 (layer bindings) := by
  rw [layer, List.foldl_append, ← insertBinding_eq]
  rfl

theorem ordered_layer (bindings : List Binding) : Json.Ordered (layer bindings) := by
  induction bindings using List.reverseRecOn with
  | nil => exact List.Pairwise.nil
  | append_singleton bindings b ih =>
    rw [layer_append_singleton]
    exact ih.insertMember b.1 b.2

theorem lookup_layer (bindings : List Binding) (key : String) :
    (layer bindings).lookup key = bound? bindings key := by
  induction bindings using List.reverseRecOn with
  | nil => rfl
  | append_singleton bindings b ih =>
    rw [layer_append_singleton, Json.lookup_insertMember, bound?_append_singleton, ih]

theorem mem_layer {bindings : List Binding} {key text : String} :
    (key, text) ∈ layer bindings ↔ bound? bindings key = some text := by
  rw [(ordered_layer bindings).mem_iff, lookup_layer]

theorem layer_congr {as bs : List Binding} (h : ∀ key, bound? as key = bound? bs key) :
    layer as = layer bs := by
  refine (ordered_layer as).ext (ordered_layer bs) ?_
  intro key
  rw [lookup_layer, lookup_layer, h]

theorem clean_iff {bindings : List Binding} :
    Clean bindings ↔ ∀ b ∈ layer bindings, WellFormed b :=
  ⟨fun h b hb => h b.1 b.2 (mem_layer.1 hb), fun h _ _ hbound => h _ (mem_layer.2 hbound)⟩

namespace Key

theorem ofName?_name (key : Key) : ofName? key.name = some key := by
  cases key <;> decide

theorem name_of_ofName? {name : String} {key : Key} (h : ofName? name = some key) :
    key.name = name := by
  simpa using List.find?_some h

theorem name_injective : Function.Injective name := by
  intro a b h
  have hname := ofName?_name a
  rw [h, ofName?_name b] at hname
  exact (Option.some.inj hname).symm

theorem marked_name (key : Key) : keyMark.toList.isPrefixOf key.name.toList = true := by
  cases key <;> decide

end Key

theorem Refused.not_wellFormed {b : Binding} {e : ConfigError} (h : Refused b e) :
    ¬ WellFormed b := by
  rintro ⟨key, hname, hkey⟩
  cases h with
  | unknownKey hunknown => exact hunknown key hname
  | badValue key' hname' hadmits =>
    obtain rfl := Key.name_injective (hname.trans hname'.symm)
    exact hadmits hkey

theorem Refused.key_eq {b : Binding} {name : String} (h : Refused b (.unknownKey name)) :
    b.1 = name := by
  cases h
  rfl

namespace Overlaid

variable {s t u : Settings} {text? text'? : String → Option String}

/-- Texts on top of others: the field of a key goes by the upper text if there is one. -/
theorem trans (h : Overlaid s text? t) (h' : Overlaid t text'? u) :
    Overlaid s (fun key => (text'? key).or (text? key)) u := by
  intro α f
  have hlower := h α f
  have hupper := h' α f
  cases htext' : text'? f.key.name with
  | some text => simpa [htext'] using hupper
  | none =>
    simp only [htext'] at hupper
    simpa [htext', hupper] using hlower

theorem unique (h : Overlaid s text? t) (h' : Overlaid s text? u) : t = u := by
  apply Settings.ext_fields
  intro α f
  have ht := h α f
  have hu := h' α f
  cases htext : text? f.key.name with
  | none =>
    simp only [htext] at ht hu
    rw [ht, hu]
  | some text =>
    simp only [htext] at ht hu
    exact ht.unique hu

theorem congr (h : Overlaid s text? t)
    (hkeys : ∀ key : Key, text? key.name = text'? key.name) : Overlaid s text'? t := by
  intro α f
  rw [← hkeys]
  exact h α f

end Overlaid

/-- One binding sets the field of its key, or is refused. -/
theorem applyBinding_cases (s : Settings) (b : Binding) :
    (WellFormed b ∧ ∃ t, applyBinding s b = .ok t ∧
      Overlaid s (fun key => if key = b.1 then some b.2 else none) t) ∨
    ∃ e, Refused b e ∧ applyBinding s b = .error e := by
  unfold applyBinding
  cases hkey : Key.ofName? b.1 with
  | none =>
    refine Or.inr ⟨_, .unknownKey ?_, rfl⟩
    intro key hname
    rw [← hname, Key.ofName?_name] at hkey
    cases hkey
  | some key =>
    have hname := Key.name_of_ofName? hkey
    dsimp only
    cases hbind : key.bind? b.2 s with
    | none =>
      refine Or.inr ⟨_, .badValue key hname ?_, rfl⟩
      intro hadmits
      obtain ⟨t, ht⟩ := (Key.exists_bind?_iff s).2 hadmits
      rw [hbind] at ht
      cases ht
    | some t =>
      refine Or.inl ⟨⟨key, hname, (Key.exists_bind?_iff s).1 ⟨t, hbind⟩⟩, t, rfl, ?_⟩
      intro α f
      obtain ⟨hself, hother⟩ := Key.get_of_bind? hbind f
      rw [← hname]
      by_cases hf : f.key = key
      · simpa [hf] using hself hf
      · simpa [Key.name_injective.ne hf] using hother hf

/-- A layer in order is taken over as a whole, or its first bad binding is refused. -/
theorem applyLayer_cases {bindings : List Binding} (s : Settings) (h : Json.Ordered bindings) :
    ((∀ b ∈ bindings, WellFormed b) ∧ ∃ t, applyLayer s bindings = .ok t ∧
      Overlaid s (fun key => bindings.lookup key) t) ∨
    ∃ as b cs e, bindings = as ++ b :: cs ∧ (∀ a ∈ as, WellFormed a) ∧ Refused b e ∧
      applyLayer s bindings = .error e := by
  induction bindings generalizing s with
  | nil => exact Or.inl ⟨by simp, s, rfl, fun α f => rfl⟩
  | cons b rest ih =>
    obtain ⟨hfirst, hrest⟩ := List.pairwise_cons.1 h
    have hstep : applyLayer s (b :: rest) = applyBinding s b >>= (applyLayer · rest) :=
      List.foldlM_cons
    rcases applyBinding_cases s b with ⟨hwell, t, ht, hoverlaid⟩ | ⟨e, hrefused, he⟩
    · rw [ht] at hstep
      rcases ih t hrest with ⟨hall, u, hu, hrest'⟩ | ⟨as, c, cs, e, rfl, has, hc, he⟩
      · refine Or.inl ⟨List.forall_mem_cons.2 ⟨hwell, hall⟩, u, hstep.trans hu, ?_⟩
        refine (hoverlaid.trans hrest').congr ?_
        intro key
        have hlookup : (b :: rest).lookup key.name =
            if key.name = b.1 then some b.2 else rest.lookup key.name :=
          Json.lookup_cons_eq_ite b.1 key.name b.2 rest
        by_cases hkey : key.name = b.1
        · rw [hlookup, if_pos hkey, hkey, h.lookup_first, Option.none_or, if_pos rfl]
        · simp [hlookup, hkey]
      · exact Or.inr ⟨b :: as, c, cs, e, rfl, List.forall_mem_cons.2 ⟨hwell, has⟩, hc,
          hstep.trans he⟩
    · rw [he] at hstep
      exact Or.inr ⟨[], b, rest, e, rfl, by simp, hrefused, hstep⟩

variable {bindings : List Binding}

theorem applyLayer_of_clean (h : Clean bindings) (s : Settings) :
    ∃ t, applyLayer s (layer bindings) = .ok t ∧ Overlaid s (bound? bindings) t := by
  rcases applyLayer_cases s (ordered_layer bindings) with
    ⟨-, t, ht, hoverlaid⟩ | ⟨as, b, cs, e, hlayer, -, hrefused, -⟩
  · exact ⟨t, ht, hoverlaid.congr fun key => lookup_layer bindings key.name⟩
  · have hb : b ∈ layer bindings := by simp [hlayer]
    exact absurd (clean_iff.1 h b hb) hrefused.not_wellFormed

theorem applyLayer_of_not_clean (h : ¬ Clean bindings) (s : Settings) :
    ∃ b e, FirstBad bindings b ∧ Refused b e ∧ applyLayer s (layer bindings) = .error e := by
  rcases applyLayer_cases s (ordered_layer bindings) with
    ⟨hall, -⟩ | ⟨as, b, cs, e, hlayer, has, hrefused, he⟩
  · exact absurd (clean_iff.2 hall) h
  · refine ⟨b, e, ⟨?_, hrefused.not_wellFormed, ?_⟩, hrefused, he⟩
    · exact mem_layer.1 (by simp [hlayer])
    · intro key text hbound hbad
      have hmem := mem_layer.2 hbound
      have hordered := ordered_layer bindings
      rw [hlayer] at hmem hordered
      rcases List.mem_append.1 hmem with hmem | hmem
      · exact absurd (has _ hmem) hbad
      · rcases List.mem_cons.1 hmem with rfl | hmem
        · exact Or.inl rfl
        · obtain ⟨hgreater, -⟩ := List.pairwise_cons.1 (List.pairwise_append.1 hordered).2.1
          exact Or.inr (Text.bytes_lt_iff.2 (hgreater _ hmem))

section Load

variable {s t : Settings} {file : Except ConfigError Settings} {environment overrides : List Binding}

def layeredText? (environment overrides : List Binding) (key : String) : Option String :=
  (bound? overrides key).or (bound? environment key)

theorem bound?_marked (environment : List Binding) (key : String) :
    bound? (marked environment) key =
      if keyMark.toList.isPrefixOf key.toList then bound? environment key else none := by
  induction environment using List.reverseRecOn with
  | nil => exact (ite_self none).symm
  | append_singleton environment b ih =>
    have hfilter : marked (environment ++ [b]) = marked environment ++ marked [b] :=
      List.filter_append ..
    rw [hfilter, bound?_append_singleton]
    by_cases hmark : keyMark.toList.isPrefixOf b.1.toList = true
    · rw [show marked [b] = [b] by simp [marked, hmark], bound?_append_singleton, ih]
      by_cases hkey : key = b.1
      · simp [hkey, hmark]
      · simp [hkey]
    · rw [show marked [b] = [] by simp [marked, hmark], List.append_nil, ih]
      by_cases hkey : key = b.1
      · simp [hkey, hmark]
      · simp [hkey]

theorem bound?_marked_name (environment : List Binding) (key : Key) :
    bound? (marked environment) key.name = bound? environment key.name := by
  rw [bound?_marked, if_pos key.marked_name]

theorem mem_of_bound? {key text : String} (h : bound? bindings key = some text) :
    (key, text) ∈ bindings := by
  induction bindings using List.reverseRecOn with
  | nil => cases h
  | append_singleton bindings b ih =>
    rw [bound?_append_singleton] at h
    split_ifs at h with hkey
    · cases h
      simp [hkey]
    · exact List.mem_append_left _ (ih h)

/-- Where every key is bound once, each binding counts. -/
theorem bound?_eq_some_iff (hnodup : (bindings.map Prod.fst).Nodup) {key text : String} :
    bound? bindings key = some text ↔ (key, text) ∈ bindings := by
  refine ⟨mem_of_bound?, ?_⟩
  intro h
  induction bindings using List.reverseRecOn with
  | nil => cases h
  | append_singleton bindings b ih =>
    rw [List.map_append, List.nodup_append] at hnodup
    obtain ⟨hnodup, -, hdisjoint⟩ := hnodup
    rw [bound?_append_singleton]
    rcases List.mem_append.1 h with h | h
    · have hkey : key ≠ b.1 := hdisjoint key (List.mem_map_of_mem h) b.1 (by simp)
      rw [if_neg hkey, ih hnodup h]
    · obtain rfl := List.mem_singleton.1 h
      exact if_pos rfl

theorem bound?_perm {as bs : List Binding} (h : as.Perm bs) (hnodup : (bs.map Prod.fst).Nodup)
    (key : String) : bound? as key = bound? bs key := by
  apply Option.ext
  intro text
  rw [bound?_eq_some_iff ((h.map _).nodup_iff.2 hnodup), bound?_eq_some_iff hnodup, h.mem_iff]

theorem load_of_clean (s : Settings) (henvironment : Clean (marked environment))
    (hoverrides : Clean overrides) :
    ∃ t, Overlaid s (layeredText? environment overrides) t ∧
      load (.ok s) environment overrides = t.validate.map fun _ => t := by
  obtain ⟨u, hu, hlower⟩ := applyLayer_of_clean henvironment s
  obtain ⟨t, ht, hupper⟩ := applyLayer_of_clean hoverrides u
  refine ⟨t, (hlower.trans hupper).congr ?_, ?_⟩
  · intro key
    rw [layeredText?, bound?_marked_name]
  · change (applyLayer s (layer (marked environment)) >>= fun s =>
      applyLayer s (layer overrides) >>= fun s => s.validate >>= fun _ => pure s) = _
    rw [hu]
    change (applyLayer u (layer overrides) >>= fun s => s.validate >>= fun _ => pure s) = _
    rw [ht]
    change (t.validate >>= fun _ => pure t) = _
    cases t.validate <;> rfl

theorem load_of_bad_environment (s : Settings) (overrides : List Binding)
    (h : ¬ Clean (marked environment)) :
    ∃ b e, FirstBad (marked environment) b ∧ Refused b e ∧
      load (.ok s) environment overrides = .error e := by
  obtain ⟨b, e, hb, he, hrefused⟩ := applyLayer_of_not_clean h s
  refine ⟨b, e, hb, he, ?_⟩
  change (applyLayer s (layer (marked environment)) >>= _) = _
  rw [hrefused]
  rfl

theorem load_of_bad_overrides (s : Settings) (henvironment : Clean (marked environment))
    (h : ¬ Clean overrides) :
    ∃ b e, FirstBad overrides b ∧ Refused b e ∧
      load (.ok s) environment overrides = .error e := by
  obtain ⟨t, ht, -⟩ := applyLayer_of_clean henvironment s
  obtain ⟨b, e, hb, he, hrefused⟩ := applyLayer_of_not_clean h t
  refine ⟨b, e, hb, he, ?_⟩
  change (applyLayer s (layer (marked environment)) >>= _) = _
  rw [ht]
  change (applyLayer t (layer overrides) >>= _) = _
  rw [hrefused]
  rfl

theorem load_eq_ok_iff : load file environment overrides = .ok t ↔
    ∃ s, file = .ok s ∧ Clean (marked environment) ∧ Clean overrides ∧
      Overlaid s (layeredText? environment overrides) t ∧ t.validate = .ok () := by
  cases file with
  | error e => exact iff_of_false (fun h => by cases h) (fun ⟨s, hfile, _⟩ => by cases hfile)
  | ok s =>
    constructor
    · intro hload
      by_cases henvironment : Clean (marked environment)
      · by_cases hoverrides : Clean overrides
        · obtain ⟨u, hoverlaid, hu⟩ := load_of_clean s henvironment hoverrides
          rw [hu] at hload
          cases hvalid : u.validate with
          | error e =>
            rw [hvalid] at hload
            cases hload
          | ok v =>
            rw [hvalid] at hload
            cases hload
            exact ⟨s, rfl, henvironment, hoverrides, hoverlaid, hvalid⟩
        · obtain ⟨b, e, -, -, he⟩ := load_of_bad_overrides s henvironment hoverrides
          rw [he] at hload
          cases hload
      · obtain ⟨b, e, -, -, he⟩ := load_of_bad_environment s overrides henvironment
        rw [he] at hload
        cases hload
    · rintro ⟨s', hfile, henvironment, hoverrides, hoverlaid, hvalid⟩
      cases hfile
      obtain ⟨u, hoverlaid', hu⟩ := load_of_clean s henvironment hoverrides
      obtain rfl := hoverlaid.unique hoverlaid'
      rw [hu, hvalid]
      rfl

/-- Of the environment only the last binding of each marked key counts. -/
theorem load_congr {environment' : List Binding}
    (h : ∀ key : String, keyMark.toList <+: key.toList →
      bound? environment' key = bound? environment key) :
    load file environment' overrides = load file environment overrides := by
  have hlayer : environmentLayer environment' = environmentLayer environment := by
    change layer (marked environment') = layer (marked environment)
    apply layer_congr
    intro key
    rw [bound?_marked, bound?_marked]
    split_ifs with hmark
    · exact h key (List.isPrefixOf_iff_prefix.1 hmark)
    · rfl
  rw [load, load, hlayer]

end Load

/-- What loading comes to: in each field the last word of the highest layer that has one. -/
theorem load_by_layers (file : Except ConfigError Settings) (environment overrides : List Binding) :
    (∀ t, load file environment overrides = .ok t ↔
      ∃ s, file = .ok s ∧ Clean (marked environment) ∧ Clean overrides ∧
        Overlaid s (layeredText? environment overrides) t ∧ t.validate = .ok ()) ∧
    load file (marked environment) overrides = load file environment overrides ∧
    (∀ environment' : List Binding, environment'.Perm environment →
      (environment.map Prod.fst).Nodup →
      load file environment' overrides = load file environment overrides) ∧
    (∀ environment' : List Binding,
      (∀ key : String, keyMark.toList <+: key.toList →
        bound? environment' key = bound? environment key) →
      load file environment' overrides = load file environment overrides) ∧
    (∀ e, file = .error e → load file environment overrides = .error e) ∧
    ∀ s, file = .ok s →
      (¬ Clean (marked environment) → ∃ b e, FirstBad (marked environment) b ∧ Refused b e ∧
        load file environment overrides = .error e) ∧
      (Clean (marked environment) → ¬ Clean overrides → ∃ b e, FirstBad overrides b ∧ Refused b e ∧
        load file environment overrides = .error e) ∧
      (Clean (marked environment) → Clean overrides →
        ∃ t, Overlaid s (layeredText? environment overrides) t ∧
          load file environment overrides = t.validate.map fun _ => t) := by
  refine ⟨fun t => load_eq_ok_iff, ?_, ?_, fun _ => load_congr, ?_, ?_⟩
  · apply load_congr
    intro key hmark
    rw [bound?_marked, if_pos (List.isPrefixOf_iff_prefix.2 hmark)]
  · intro environment' hperm hnodup
    exact load_congr fun key _ => bound?_perm hperm hnodup key
  · rintro e rfl
    rfl
  · rintro s rfl
    exact ⟨load_of_bad_environment s overrides, load_of_bad_overrides s, load_of_clean s⟩

namespace Sample

def environment : List Binding :=
  [("PATH", "/bin"), ("RDHARNESS_RUN_SEED", "0x10"), ("RDHARNESS_RUN_TEST_SETS", "4")]

def overrides : List Binding := [("RDHARNESS_RUN_TEST_SETS", "9")]

def bad : List Binding := [("RDHARNESS_RUN_SEED", "often"), ("RDHARNESS_NOPE", "1")]

end Sample

theorem load_by_layers_sample :
    (∃ t, load (.ok {}) Sample.environment.reverse Sample.overrides = .ok t ∧
      load (.ok {}) Sample.environment.tail Sample.overrides = .ok t ∧
      Overlaid {} (layeredText? Sample.environment Sample.overrides) t ∧
      t.run.testSets = 9 ∧ t.run.seed = some 16) ∧
    (∃ b, FirstBad (marked Sample.bad) b ∧ b.1 = "RDHARNESS_NOPE" ∧
      load (.ok {}) Sample.bad Sample.overrides = .error (.unknownKey b.1)) ∧
    (∃ b, FirstBad Sample.bad b ∧ b.1 = "RDHARNESS_NOPE" ∧
      load (.ok {}) Sample.environment Sample.bad = .error (.unknownKey b.1)) ∧
    load (.error .noElements) Sample.bad Sample.bad = .error .noElements := by
  have hload : load (.ok {}) Sample.environment Sample.overrides =
      .ok { run := { testSets := 9, seed := some 16 } } := by decide +kernel
  have hbad : load (.ok {}) Sample.bad Sample.overrides = .error (.unknownKey "RDHARNESS_NOPE") := by
    decide +kernel
  have hbad' : load (.ok {}) Sample.environment Sample.bad =
      .error (.unknownKey "RDHARNESS_NOPE") := by decide +kernel
  have hunknown : ¬ WellFormed ("RDHARNESS_NOPE", "1") :=
    (Refused.unknownKey (by intro key; cases key <;> decide)).not_wellFormed
  have hunclean : ¬ Clean (marked Sample.bad) := fun h =>
    hunknown (h "RDHARNESS_NOPE" "1" (by decide))
  have hunclean' : ¬ Clean Sample.bad := fun h => hunknown (h "RDHARNESS_NOPE" "1" (by decide))
  obtain ⟨hok, -, hperm, hcongr, -, -⟩ := load_by_layers (.ok {}) Sample.environment Sample.overrides
  obtain ⟨s, hs, hclean, -, hoverlaid, -⟩ := (hok _).1 hload
  cases hs
  refine ⟨⟨_, (hperm _ (List.reverse_perm _) (by decide)).trans hload, ?_, hoverlaid, rfl, rfl⟩,
    ?_, ?_, (load_by_layers (.error .noElements) Sample.bad Sample.bad).2.2.2.2.1 _ rfl⟩
  · rw [hcongr, hload]
    intro key hmark
    rw [show Sample.environment.tail = marked Sample.environment by decide, bound?_marked,
      if_pos (List.isPrefixOf_iff_prefix.2 hmark)]
  · obtain ⟨b, e, hfirst, hrefused, he⟩ :=
      ((load_by_layers (.ok {}) Sample.bad Sample.overrides).2.2.2.2.2 _ rfl).1 hunclean
    obtain rfl := Except.error.inj (he.symm.trans hbad)
    exact ⟨b, hfirst, hrefused.key_eq, hrefused.key_eq ▸ he⟩
  · obtain ⟨b, e, hfirst, hrefused, he⟩ :=
      ((load_by_layers (.ok {}) Sample.environment Sample.bad).2.2.2.2.2 _ rfl).2.1 hclean hunclean'
    obtain rfl := Except.error.inj (he.symm.trans hbad')
    exact ⟨b, hfirst, hrefused.key_eq, hrefused.key_eq ▸ he⟩

end OffloadBench.Config
