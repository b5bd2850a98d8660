import FileSearch.Yaml.Value

/-!
# Settings laid over settings

What a merge of two mappings has is told path by path. The entries are merged one after the
other, so the lemmas on entries come first: what a key has afterwards, and in which order the
keys stand. The paths follow by induction, and so does that a second merge changes nothing.
-/

set_option autoImplicit false

namespace FileSearch.Yaml

def Entries.keys (entries : Entries) : List String := entries.map (·.1)

namespace Value

def IsMapping (v : Value) : Prop := ∃ entries, v = .mapping entries

def at? : Value → List String → Option Value
  | v, [] => some v
  | .mapping entries, key :: path => (Entries.get? entries key).bind fun v => v.at? path
  | _, _ :: _ => none

inductive Keyed : Value → Prop
  | mapping {entries : Entries} (keys : entries.keys.Nodup)
    (values : ∀ entry ∈ entries, Keyed entry.2) : Keyed (.mapping entries)
  | single {v : Value} (h : ¬ v.IsMapping) : Keyed v

section
variable {entries base override : Entries} {key other : String} {v : Value}

theorem keys_cons : Entries.keys ((key, v) :: entries) = key :: entries.keys := rfl

theorem get_cons :
    Entries.get? ((other, v) :: entries) key =
      if key = other then some v else entries.get? key := by
  by_cases hsame : key = other
  · rw [hsame, if_pos rfl, Entries.get?, List.lookup_cons_self]
  · rw [if_neg hsame, Entries.get?, List.lookup_cons, beq_eq_false_iff_ne.2 hsame]
    rfl

theorem get_set :
    (Entries.set key v entries).get? other =
      if other = key then some v else entries.get? other := by
  induction entries with
  | nil => exact get_cons
  | cons entry entries ih =>
    obtain ⟨k, w⟩ := entry
    rw [Entries.set]
    split
    · next hk =>
      subst hk
      rw [get_cons, get_cons]
      split <;> rfl
    · next hk =>
      rw [get_cons, get_cons, ih]
      split
      · next hother =>
        subst hother
        rw [if_neg hk]
      · rfl

theorem get_keys : entries.get? key = none ↔ key ∉ entries.keys := by
  induction entries with
  | nil => exact ⟨fun _ => List.not_mem_nil, fun _ => rfl⟩
  | cons entry entries ih =>
    obtain ⟨k, w⟩ := entry
    rw [get_cons, keys_cons, List.mem_cons, not_or, ← ih]
    split
    · next hk => simp [hk]
    · next hk => simp [hk]

theorem get_mem (h : entries.get? key = some v) : (key, v) ∈ entries := by
  obtain ⟨before, after, rfl, -⟩ := List.lookup_eq_some_iff.1 h
  exact List.mem_append_right before List.mem_cons_self

theorem mem_get (hkeys : entries.keys.Nodup) (h : (key, v) ∈ entries) :
    entries.get? key = some v := by
  induction entries with
  | nil => cases h
  | cons entry entries ih =>
    obtain ⟨k, w⟩ := entry
    obtain ⟨hk, hrest⟩ := List.nodup_cons.1 hkeys
    rw [get_cons]
    rcases List.mem_cons.1 h with hfirst | hmem
    · cases hfirst
      exact if_pos rfl
    · rw [if_neg, ih hrest hmem]
      rintro rfl
      exact hk (List.mem_map.2 ⟨_, hmem, rfl⟩)

theorem set_same (h : entries.get? key = some v) : Entries.set key v entries = entries := by
  induction entries with
  | nil => cases h
  | cons entry entries ih =>
    obtain ⟨k, w⟩ := entry
    rw [get_cons] at h
    rw [Entries.set]
    split
    · next hk =>
      rw [if_pos hk.symm] at h
      rw [Option.some.inj h]
    · next hk =>
      rw [if_neg (Ne.symm hk)] at h
      rw [ih h]

theorem set_new (h : key ∉ entries.keys) :
    Entries.set key v entries = entries ++ [(key, v)] := by
  induction entries with
  | nil => rfl
  | cons entry entries ih =>
    obtain ⟨k, w⟩ := entry
    rw [keys_cons, List.mem_cons, not_or] at h
    rw [Entries.set, if_neg (Ne.symm h.1), ih h.2, List.cons_append]

theorem keys_set_known (h : key ∈ entries.keys) :
    (Entries.set key v entries).keys = entries.keys := by
  induction entries with
  | nil => cases h
  | cons entry entries ih =>
    obtain ⟨k, w⟩ := entry
    rw [Entries.set]
    split
    · rfl
    · next hk =>
      have hrest := (List.mem_cons.1 h).resolve_left (Ne.symm hk)
      exact congrArg (k :: ·) (ih hrest)

theorem keys_set_new (h : key ∉ entries.keys) :
    (Entries.set key v entries).keys = entries.keys ++ [key] := by
  rw [set_new h, Entries.keys, List.map_append]
  rfl

theorem get_merged (hkeys : override.keys.Nodup) :
    (mergeEntries base override).get? key =
      match override.get? key with
      | some v => some (mergeAt (base.get? key) v)
      | none => base.get? key := by
  induction override generalizing base with
  | nil => rw [mergeEntries]; rfl
  | cons entry override ih =>
    obtain ⟨k, w⟩ := entry
    obtain ⟨hk, hrest⟩ := List.nodup_cons.1 hkeys
    rw [mergeEntries, ih hrest, get_set, get_cons]
    by_cases hsame : key = k
    · subst hsame
      rw [if_pos rfl, if_pos rfl, get_keys.2 hk]
    · rw [if_neg hsame, if_neg hsame]

theorem get_merged_set (hkeys : override.keys.Nodup) (hget : override.get? key = some v) :
    (mergeEntries base override).get? key = some (mergeAt (base.get? key) v) := by
  rw [get_merged hkeys, hget]

theorem get_merged_unset (hkeys : override.keys.Nodup) (hget : override.get? key = none) :
    (mergeEntries base override).get? key = base.get? key := by
  rw [get_merged hkeys, hget]

theorem keys_merged (hkeys : override.keys.Nodup) :
    (mergeEntries base override).keys =
      base.keys ++ override.keys.filter (· ∉ base.keys) := by
  induction override generalizing base with
  | nil => rw [mergeEntries]; exact (List.append_nil _).symm
  | cons entry override ih =>
    obtain ⟨k, w⟩ := entry
    obtain ⟨hk, hrest⟩ := List.nodup_cons.1 hkeys
    rw [mergeEntries, ih hrest, keys_cons]
    by_cases hknown : k ∈ base.keys
    · rw [keys_set_known hknown, List.filter_cons_of_neg (by simpa using hknown)]
    · have hfilter : (Entries.keys override).filter (· ∉ base.keys ++ [k]) =
          (Entries.keys override).filter (· ∉ base.keys) := by
        refine List.filter_congr fun other hother => ?_
        have hne : other ≠ k := by
          rintro rfl
          exact hk hother
        simp [hne]
      rw [keys_set_new hknown, hfilter, List.filter_cons_of_pos (by simpa using hknown),
        List.append_assoc, List.singleton_append]

theorem merge_kept (h : ∀ entry ∈ override, ∃ v, base.get? entry.1 = some v ∧
    merge v entry.2 = v) : mergeEntries base override = base := by
  induction override with
  | nil => rw [mergeEntries]
  | cons entry override ih =>
    obtain ⟨k, w⟩ := entry
    obtain ⟨⟨v, hget, hmerge⟩, hrest⟩ := List.forall_mem_cons.1 h
    rw [mergeEntries, hget, mergeAt, hmerge, set_same hget, ih hrest]

theorem merge_new (hkeys : (base ++ override).keys.Nodup) :
    mergeEntries base override = base ++ override := by
  induction override generalizing base with
  | nil => rw [mergeEntries, List.append_nil]
  | cons entry override ih =>
    obtain ⟨k, w⟩ := entry
    have hnew : k ∉ base.keys := by
      intro hmem
      rw [Entries.keys, List.map_append, List.nodup_append] at hkeys
      exact hkeys.2.2 k hmem k List.mem_cons_self rfl
    rw [List.append_cons] at hkeys ⊢
    rw [mergeEntries, get_keys.2 hnew, mergeAt, set_new hnew, ih hkeys]

end

section
variable {b o v w : Value} {below entries : Entries} {key : String} {path : List String}

theorem merge_mappings :
    merge (.mapping below) (.mapping entries) = .mapping (mergeEntries below entries) := by
  rw [merge]

theorem merge_single (h : ¬ o.IsMapping) : merge b o = o := by
  cases o with
  | mapping entries => exact absurd ⟨entries, rfl⟩ h
  | _ => rw [merge]; rintro _ ⟨⟩

theorem merge_over (h : ¬ b.IsMapping) : merge b o = o := by
  cases o with
  | mapping entries =>
    cases b with
    | mapping below => exact absurd ⟨below, rfl⟩ h
    | _ => rw [merge]; rintro _ ⟨⟩
  | _ => rw [merge]; rintro _ ⟨⟩

theorem merge_twice (h : o.Keyed) (b : Value) : merge (merge b o) o = merge b o := by
  induction h generalizing b with
  | single hsingle => rw [merge_single hsingle, merge_single hsingle]
  | @mapping entries keys _ ih =>
    have hself : ∀ entry ∈ entries, merge entry.2 entry.2 = entry.2 := by
      intro entry hentry
      have hnull : merge .null entry.2 = entry.2 := merge_over (by rintro ⟨_, ⟨⟩⟩)
      have htwice := ih entry hentry .null
      rwa [hnull] at htwice
    by_cases hb : b.IsMapping
    · obtain ⟨below, rfl⟩ := hb
      rw [merge_mappings, merge_mappings, merge_kept]
      intro entry hentry
      refine ⟨mergeAt (Entries.get? below entry.1) entry.2, ?_, ?_⟩
      · exact get_merged_set keys (mem_get keys hentry)
      · cases Entries.get? below entry.1 with
        | none => rw [mergeAt, hself entry hentry]
        | some v => rw [mergeAt, ih entry hentry v]
    · rw [merge_over hb, merge_mappings, merge_kept]
      exact fun entry hentry => ⟨entry.2, mem_get keys hentry, hself entry hentry⟩

theorem at_single (h : ¬ v.IsMapping) : v.at? (key :: path) = none := by
  cases v with
  | mapping entries => exact absurd ⟨entries, rfl⟩ h
  | _ => rfl

theorem at_mapping :
    (Value.mapping entries).at? (key :: path) = (entries.get? key).bind (·.at? path) := rfl

theorem keyed_get (h : (Value.mapping entries).Keyed) (hget : entries.get? key = some v) :
    v.Keyed := by
  cases h with
  | mapping _ hvalues => exact hvalues _ (get_mem hget)
  | single hsingle => exact absurd ⟨entries, rfl⟩ hsingle

theorem keyed_keys (h : (Value.mapping entries).Keyed) : entries.keys.Nodup := by
  cases h with
  | mapping hkeys => exact hkeys
  | single hsingle => exact absurd ⟨entries, rfl⟩ hsingle

theorem keyed_at (h : o.Keyed) (hat : o.at? path = some v) : v.Keyed := by
  induction path generalizing o with
  | nil =>
    cases hat
    exact h
  | cons key path ih =>
    by_cases ho : o.IsMapping
    · obtain ⟨entries, rfl⟩ := ho
      rw [at_mapping] at hat
      obtain ⟨w, hget, hat⟩ := Option.bind_eq_some_iff.1 hat
      exact ih (keyed_get h hget) hat
    · rw [at_single ho] at hat
      cases hat

/-- Where the override has a value, that value is laid over what the base has there. -/
theorem at_merged (h : o.Keyed) (hat : o.at? path = some v) :
    (merge b o).at? path = some (mergeAt (b.at? path) v) := by
  induction path generalizing b o with
  | nil =>
    cases hat
    rw [at?, at?, mergeAt]
  | cons key path ih =>
    by_cases ho : o.IsMapping
    · obtain ⟨entries, rfl⟩ := ho
      by_cases hb : b.IsMapping
      · obtain ⟨below, rfl⟩ := hb
        rw [at_mapping] at hat
        obtain ⟨w, hget, hat⟩ := Option.bind_eq_some_iff.1 hat
        rw [merge_mappings, at_mapping, at_mapping, get_merged_set (keyed_keys h) hget,
          Option.bind_some]
        cases Entries.get? below key with
        | none =>
          rw [mergeAt, Option.bind_none, mergeAt]
          exact hat
        | some inner =>
          rw [mergeAt]
          exact ih (keyed_get h hget) hat
      · rw [merge_over hb, at_single hb, mergeAt, hat]
    · rw [at_single ho] at hat
      cases hat

def Open (o : Value) (path : List String) : Prop :=
  ∀ front, front <+: path → front ≠ path → ∀ v, o.at? front = some v → v.IsMapping

theorem open_get (hget : entries.get? key = some v) :
    Open (.mapping entries) (key :: path) ↔ Open v path := by
  have hat : ∀ front, (Value.mapping entries).at? (key :: front) = v.at? front := by
    intro front
    rw [at_mapping, hget, Option.bind_some]
  constructor
  · intro hopen front hfront hne w hw
    refine hopen (key :: front) (List.cons_prefix_cons.2 ⟨rfl, hfront⟩) ?_ w ?_
    · exact fun hsame => hne (List.cons.inj hsame).2
    · rw [hat, hw]
  · rintro hopen (_ | ⟨first, front⟩) hfront hne w hw
    · cases hw
      exact ⟨entries, rfl⟩
    · obtain ⟨rfl, hinner⟩ := List.cons_prefix_cons.1 hfront
      rw [hat] at hw
      exact hopen front hinner (fun hsame => hne (by rw [hsame])) w hw

theorem open_unset (hget : entries.get? key = none) :
    Open (.mapping entries) (key :: path) := by
  rintro (_ | ⟨first, front⟩) hfront - w hw
  · cases hw
    exact ⟨entries, rfl⟩
  · obtain ⟨rfl, -⟩ := List.cons_prefix_cons.1 hfront
    rw [at_mapping, hget] at hw
    cases hw

theorem not_open (h : ¬ o.IsMapping) : ¬ Open o (key :: path) := fun hopen =>
  h (hopen [] (List.nil_prefix) (List.cons_ne_nil _ _).symm o rfl)

/-- Where the override has nothing, the base is kept unless the override ends before. -/
theorem at_kept (h : o.Keyed) (hat : o.at? path = none) :
    (merge b o).at? path = some v ↔ b.at? path = some v ∧ Open o path := by
  induction path generalizing b o with
  | nil => cases hat
  | cons key path ih =>
    by_cases ho : o.IsMapping
    · obtain ⟨entries, rfl⟩ := ho
      by_cases hb : b.IsMapping
      · obtain ⟨below, rfl⟩ := hb
        rw [at_mapping] at hat
        rw [merge_mappings, at_mapping, at_mapping]
        cases hget : Entries.get? entries key with
        | none => simp only [get_merged_unset (keyed_keys h) hget, open_unset hget, and_true]
        | some inner =>
          rw [hget, Option.bind_some] at hat
          rw [get_merged_set (keyed_keys h) hget, Option.bind_some, open_get hget]
          cases Entries.get? below key with
          | none => simp [mergeAt, hat]
          | some lower =>
            rw [mergeAt]
            exact ih (keyed_get h hget) hat
      · rw [merge_over hb, at_single hb, hat]
        simp
    · rw [merge_single ho, hat]
      simp [not_open ho]

end

structure Layered (base override : Entries) : Prop where
  replaced : ∀ path v, (mapping override).at? path = some v → ¬ v.IsMapping →
    (mapping (mergeEntries base override)).at? path = some v
  nested : ∀ path above, (mapping override).at? path = some (.mapping above) →
    ∃ entries, (mapping (mergeEntries base override)).at? path = some (.mapping entries)
  kept : ∀ path v, (mapping override).at? path = none →
    ((mapping (mergeEntries base override)).at? path = some v ↔
      (mapping base).at? path = some v ∧ Open (.mapping override) path)
  again : mergeEntries (mergeEntries base override) override = mergeEntries base override
  emptyOverride : mergeEntries base [] = base
  emptyBase : mergeEntries [] override = override
  keys : ∀ path below above, (mapping base).at? path = some (.mapping below) →
    (mapping override).at? path = some (.mapping above) →
    ∃ entries, (mapping (mergeEntries base override)).at? path = some (.mapping entries) ∧
      Entries.keys entries =
        Entries.keys below ++ (Entries.keys above).filter (· ∉ Entries.keys below)

section
variable {base override : Entries}

theorem merged_over {below : Option Value} {above : Entries} :
    ∃ entries, mergeAt below (.mapping above) = .mapping entries := by
  cases below with
  | none => exact ⟨above, by rw [mergeAt]⟩
  | some b =>
    rw [mergeAt]
    by_cases hb : b.IsMapping
    · obtain ⟨entries, rfl⟩ := hb
      exact ⟨_, merge_mappings⟩
    · exact ⟨above, merge_over hb⟩

theorem merged_single {below : Option Value} {v : Value} (h : ¬ v.IsMapping) :
    mergeAt below v = v := by
  cases below with
  | none => rw [mergeAt]
  | some b => rw [mergeAt, merge_single h]

theorem merge_layered (h : (Value.mapping override).Keyed) : Layered base override where
  replaced path v hat hv := by
    rw [← merge_mappings, at_merged h hat, merged_single hv]
  nested path above hat := by
    obtain ⟨entries, hentries⟩ := merged_over
    exact ⟨entries, by rw [← merge_mappings, at_merged h hat, hentries]⟩
  kept path v hat := by
    rw [← merge_mappings]
    exact at_kept h hat
  again := by
    have htwice := merge_twice h (.mapping base)
    rw [merge_mappings, merge_mappings] at htwice
    exact Value.mapping.inj htwice
  emptyOverride := by rw [mergeEntries]
  emptyBase := merge_new (keyed_keys h)
  keys path below above hbelow habove := by
    refine ⟨mergeEntries below above, ?_, keys_merged (keyed_keys (keyed_at h habove))⟩
    rw [← merge_mappings, at_merged h habove, hbelow, mergeAt, merge_mappings]

end

def shipped : Entries :=
  [("limits", .mapping [("hits", .int 100), ("time", .int 30)]),
    ("search", .mapping [("sources", .list [.text "dump"])])]

def chosen : Entries :=
  [("search", .null), ("limits", .mapping [("size", .int 7), ("time", .int 5)])]

theorem chosen_layered : (Value.mapping chosen).Keyed ∧ Layered shipped chosen ∧
    mergeEntries shipped chosen =
      [("limits", .mapping [("hits", .int 100), ("time", .int 5), ("size", .int 7)]),
        ("search", .null)] := by
  have hsingle : ∀ n, (Value.int n).Keyed := fun n => .single (by rintro ⟨_, ⟨⟩⟩)
  have hnull : Value.null.Keyed := .single (by rintro ⟨_, ⟨⟩⟩)
  have hkeyed : (Value.mapping chosen).Keyed := by
    refine .mapping (by decide) ?_
    refine List.forall_mem_cons.2 ⟨hnull, List.forall_mem_singleton.2 ?_⟩
    refine .mapping (by decide) ?_
    exact List.forall_mem_cons.2 ⟨hsingle 7, List.forall_mem_singleton.2 (hsingle 5)⟩
  refine ⟨hkeyed, merge_layered hkeyed, ?_⟩
  simp [shipped, chosen, mergeEntries, mergeAt, merge, Entries.get?, Entries.set, List.lookup_cons]

end Value

end FileSearch.Yaml
