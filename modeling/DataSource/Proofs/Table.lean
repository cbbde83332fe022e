import DataSource.Table
import Mathlib.Data.List.Nodup
import Mathlib.Data.List.Perm.Subperm

/-!
# Look-ups under distinct keys

Where keys are distinct, a look-up finds a value exactly if the entry is there
(`lookup_eq_some_iff_mem`); so the order of entries does not matter. `sameMap_iff`: two tables are
the same map exactly if every look-up gives the same.
-/

namespace DataSource.Table

variable {α : Type u}

theorem mem_of_lookup_eq_some {entries : List (String × α)} {key : String} {value : α}
    (h : entries.lookup key = some value) : (key, value) ∈ entries := by
  induction entries with
  | nil => cases h
  | cons entry rest ih =>
    obtain ⟨k, v⟩ := entry
    rw [List.lookup_cons] at h
    by_cases hk : key = k
    · subst hk
      simp only [beq_self_eq_true, Option.some.injEq] at h
      exact List.mem_cons.2 (Or.inl (by rw [h]))
    · simp only [beq_eq_false_iff_ne.2 hk] at h
      exact List.mem_cons_of_mem _ (ih h)

theorem lookup_of_mem {entries : List (String × α)} {key : String} {value : α}
    (hnodup : (entries.map Prod.fst).Nodup) (hmem : (key, value) ∈ entries) :
    entries.lookup key = some value := by
  induction entries with
  | nil => cases hmem
  | cons entry rest ih =>
    obtain ⟨k, v⟩ := entry
    rw [List.map_cons, List.nodup_cons] at hnodup
    rw [List.lookup_cons]
    rcases List.mem_cons.1 hmem with heq | hrest
    · cases heq
      simp
    · have hk : key ≠ k := by
        rintro rfl
        exact hnodup.1 (List.mem_map.2 ⟨(key, value), hrest, rfl⟩)
      simp only [beq_eq_false_iff_ne.2 hk]
      exact ih hnodup.2 hrest

theorem lookup_eq_some_iff_mem {entries : List (String × α)} {key : String} {value : α}
    (hnodup : (entries.map Prod.fst).Nodup) :
    entries.lookup key = some value ↔ (key, value) ∈ entries :=
  ⟨mem_of_lookup_eq_some, lookup_of_mem hnodup⟩

theorem lookup_eq_none_of_not_mem {entries : List (String × α)} {key : String}
    (h : ∀ value, (key, value) ∉ entries) : entries.lookup key = none := by
  cases hlookup : entries.lookup key with
  | none => rfl
  | some value => exact absurd (mem_of_lookup_eq_some hlookup) (h value)

theorem nodup_map_fst_reverse {entries : List (String × α)} (h : (entries.map Prod.fst).Nodup) :
    (entries.reverse.map Prod.fst).Nodup := by
  rw [List.map_reverse]
  exact List.nodup_reverse.2 h

/-! ## The last entry of a key -/

/-- The last entry under a key has the value. -/
def LastUnder (entries : List (String × α)) (key : String) (value : α) : Prop :=
  ∃ before after, entries = before ++ (key, value) :: after ∧ key ∉ after.map Prod.fst

theorem forall_bne_fst_iff {entries : List (String × α)} {key : String} :
    (∀ entry ∈ entries, (key != entry.1) = true) ↔ key ∉ entries.map Prod.fst := by
  simp only [bne_iff_ne, List.mem_map, not_exists, not_and]
  exact forall₂_congr fun _ _ => ne_comm

theorem lookup_reverse_eq_none_iff {entries : List (String × α)} {key : String} :
    entries.reverse.lookup key = none ↔ key ∉ entries.map Prod.fst := by
  rw [List.lookup_eq_none_iff, forall_bne_fst_iff, List.map_reverse, List.mem_reverse]

theorem lookup_reverse_eq_some_iff {entries : List (String × α)} {key : String} {value : α} :
    entries.reverse.lookup key = some value ↔ LastUnder entries key value := by
  simp only [List.lookup_eq_some_iff, forall_bne_fst_iff]
  constructor
  · rintro ⟨after, before, hentries, hafter⟩
    refine ⟨before.reverse, after.reverse, ?_, by simpa using hafter⟩
    rw [← List.reverse_reverse entries, hentries]
    simp
  · rintro ⟨before, after, rfl, hafter⟩
    exact ⟨after.reverse, before.reverse, by simp, by simpa using hafter⟩

theorem exists_lastUnder_iff {entries : List (String × α)} {key : String} :
    (∃ value, LastUnder entries key value) ↔ key ∈ entries.map Prod.fst := by
  simp only [← lookup_reverse_eq_some_iff]
  rw [← Option.ne_none_iff_exists', ne_eq, lookup_reverse_eq_none_iff, not_not]

theorem LastUnder.filter {entries : List (String × α)} {key : String} {value : α}
    (h : LastUnder entries key value) {p : String × α → Bool} (hp : p (key, value) = true) :
    LastUnder (entries.filter p) key value := by
  obtain ⟨before, after, rfl, hafter⟩ := h
  refine ⟨before.filter p, after.filter p, by rw [List.filter_append, List.filter_cons_of_pos hp], ?_⟩
  exact fun hmem => hafter ((List.filter_sublist.map Prod.fst).subset hmem)

theorem lookup_reverse_filter (entries : List (String × α)) (key : String) :
    (entries.filter fun entry => entry.1 == key).reverse.lookup key = entries.reverse.lookup key := by
  rw [← List.filter_reverse]
  induction entries.reverse with
  | nil => rfl
  | cons entry rest ih =>
    obtain ⟨k, v⟩ := entry
    by_cases hk : k = key
    · simp [hk]
    · rw [List.filter_cons_of_neg (by simpa using hk), List.lookup_cons,
        beq_eq_false_iff_ne.2 (Ne.symm hk), ih]

/-! ## Tables -/

theorem get?_eq_some_iff_mem {t : Table α} {key : String} {value : α} :
    t.get? key = some value ↔ (key, value) ∈ t.entries :=
  lookup_eq_some_iff_mem t.distinct

theorem mem_keys_iff {t : Table α} {key : String} :
    key ∈ t.keys ↔ ∃ value, t.get? key = some value := by
  constructor
  · intro h
    obtain ⟨⟨k, value⟩, hmem, rfl⟩ := List.mem_map.1 h
    exact ⟨value, get?_eq_some_iff_mem.2 hmem⟩
  · rintro ⟨value, h⟩
    exact List.mem_map_of_mem (get?_eq_some_iff_mem.1 h)

theorem get?_eq_none_iff {t : Table α} {key : String} : t.get? key = none ↔ key ∉ t.keys := by
  rw [mem_keys_iff, ← Option.ne_none_iff_exists', not_not]

theorem eq_empty_of_get? {t : Table α} (h : ∀ key, t.get? key = none) : t = empty := by
  apply Table.ext
  apply List.eq_nil_iff_forall_not_mem.2
  rintro ⟨key, value⟩ hmem
  have hget : t.get? key = some value := get?_eq_some_iff_mem.2 hmem
  rw [h] at hget
  cases hget

theorem length_keys (t : Table α) : t.keys.length = t.entries.length := List.length_map Prod.fst

theorem perm_keys_of_get? {a b : Table α} (h : ∀ key, a.get? key = b.get? key) :
    a.keys.Perm b.keys := by
  refine (List.perm_ext_iff_of_nodup a.distinct b.distinct).2 fun key => ?_
  rw [← keys, ← keys, mem_keys_iff, mem_keys_iff, h]

theorem sameMap_iff [DecidableEq α] {a b : Table α} :
    a.sameMap b = true ↔ ∀ key, a.get? key = b.get? key := by
  simp only [sameMap, Bool.and_eq_true, beq_iff_eq, List.all_eq_true, decide_eq_true_eq]
  constructor
  · rintro ⟨hlength, hall⟩ key
    have hsubset : a.keys ⊆ b.keys := fun k hk => by
      obtain ⟨value, hvalue⟩ := mem_keys_iff.1 hk
      exact mem_keys_iff.2 ⟨value, hall _ (get?_eq_some_iff_mem.1 hvalue)⟩
    have hle : b.keys.length ≤ a.keys.length := by
      rw [length_keys, length_keys]
      omega
    have hperm : a.keys.Perm b.keys :=
      (List.subperm_of_subset a.distinct hsubset).perm_of_length_le hle
    cases hkey : a.get? key with
    | some value => exact (hall _ (get?_eq_some_iff_mem.1 hkey)).symm
    | none =>
      cases hb : b.get? key with
      | none => rfl
      | some value =>
        obtain ⟨other, hother⟩ := mem_keys_iff.1 (hperm.mem_iff.2 (mem_keys_iff.2 ⟨value, hb⟩))
        rw [hkey] at hother
        cases hother
  · intro h
    refine ⟨?_, fun entry hmem => ?_⟩
    · rw [← length_keys, ← length_keys]
      exact (perm_keys_of_get? h).length_eq
    · rw [← h]
      exact get?_eq_some_iff_mem.2 hmem

/-! ## Entries that are left out -/

theorem filter_put_of_eq_false {p : String → Bool} {key : String} (value : α)
    (entries : List (String × α)) (hkey : p key = false) :
    (put key value entries).filter (fun entry => p entry.1) =
      entries.filter fun entry => p entry.1 := by
  induction entries with
  | nil => simp [put, hkey]
  | cons entry rest ih =>
    obtain ⟨k, v⟩ := entry
    by_cases hk : k = key
    · subst hk
      simp [put, hkey]
    · simp only [put, if_neg hk, List.filter_cons, ih]

/-! ## Tables of distinct entries -/

theorem put_of_not_mem {key : String} (value : α) {entries : List (String × α)}
    (h : key ∉ entries.map Prod.fst) : put key value entries = entries ++ [(key, value)] := by
  induction entries with
  | nil => rfl
  | cons entry rest ih =>
    obtain ⟨k, v⟩ := entry
    rw [List.map_cons, List.mem_cons, not_or] at h
    rw [put, if_neg (Ne.symm h.1), ih h.2, List.cons_append]

theorem entries_insertAll {t : Table α} {entries : List (String × α)}
    (h : ((t.entries ++ entries).map Prod.fst).Nodup) :
    (t.insertAll entries).entries = t.entries ++ entries := by
  induction entries generalizing t with
  | nil => rw [List.append_nil]; rfl
  | cons entry rest ih =>
    obtain ⟨key, value⟩ := entry
    have hkey : key ∉ t.entries.map Prod.fst := by
      rw [List.map_append, List.map_cons] at h
      intro hmem
      exact (List.nodup_append.1 h).2.2 key hmem key List.mem_cons_self rfl
    have hinsert : (t.insert key value).entries = t.entries ++ [(key, value)] :=
      put_of_not_mem value hkey
    rw [insertAll_cons, ih, hinsert, List.append_assoc, List.singleton_append]
    rw [hinsert, List.append_assoc, List.singleton_append]
    exact h

theorem entries_ofList {entries : List (String × α)} (h : (entries.map Prod.fst).Nodup) :
    (ofList entries).entries = entries :=
  entries_insertAll h

theorem ofList_entries (t : Table α) : ofList t.entries = t := Table.ext (entries_ofList t.distinct)

/-! ## The order of keys -/

theorem eraseDups_of_nodup {l : List String} (h : l.Nodup) : l.eraseDups = l := by
  induction l with
  | nil => rfl
  | cons key rest ih =>
    obtain ⟨hkey, hrest⟩ := List.nodup_cons.1 h
    have hkeep : rest.filter (fun k => !k == key) = rest :=
      List.filter_eq_self.2 fun k hk => by
        simpa using fun heq : k = key => hkey (heq ▸ hk)
    rw [List.eraseDups_cons, hkeep, ih hrest]

/-- The keys of a table that entries are put to: its own, then the new ones in the order in which they
appear first. -/
theorem keys_insertAll (t : Table α) (entries : List (String × α)) :
    (t.insertAll entries).keys =
      t.keys ++ ((entries.map Prod.fst).filter (· ∉ t.keys)).eraseDups := by
  induction entries generalizing t with
  | nil => exact (List.append_nil t.keys).symm
  | cons entry rest ih =>
    obtain ⟨key, value⟩ := entry
    rw [insertAll_cons, ih, keys_insert, List.map_cons]
    by_cases hkey : key ∈ t.keys
    · rw [if_pos hkey, List.filter_cons_of_neg (by simpa using hkey)]
    · have hothers (k : String) : decide (k ∉ t.keys ++ [key]) = (!k == key && decide (k ∉ t.keys)) := by
        rw [Bool.eq_iff_iff]
        simp [and_comm]
      rw [if_neg hkey, List.filter_cons_of_pos (by simpa using hkey), List.eraseDups_cons,
        List.filter_filter, List.append_assoc]
      simp only [hothers, List.singleton_append]

theorem keys_ofList (entries : List (String × α)) :
    (ofList entries).keys = (entries.map Prod.fst).eraseDups := by
  rw [ofList, keys_insertAll]
  simp [keys, empty]

theorem isEmpty_ofList_iff {entries : List (String × α)} :
    (ofList entries).isEmpty = true ↔ entries = [] := by
  have hkeys : (ofList entries).isEmpty = true ↔ (ofList entries).keys = [] := by
    rw [isEmpty, List.isEmpty_iff, keys, List.map_eq_nil_iff]
  rw [hkeys, keys_ofList]
  cases entries with
  | nil => simp
  | cons entry rest => simp [List.eraseDups_cons]

theorem keys_insertAll_entries (t u : Table α) :
    (t.insertAll u.entries).keys = t.keys ++ u.keys.filter (· ∉ t.keys) := by
  rw [keys_insertAll, eraseDups_of_nodup (u.distinct.filter _)]
  rfl

theorem get?_ofList (entries : List (String × α)) (key : String) :
    (ofList entries).get? key = entries.reverse.lookup key := by
  rw [ofList, get?_insertAll]
  exact Option.or_none

theorem get?_insertAll_entries (t u : Table α) (key : String) :
    (t.insertAll u.entries).get? key = (u.get? key).or (t.get? key) := by
  rw [get?_insertAll, ← get?_ofList, ofList_entries]

theorem map_entries (t : Table α) :
    t.entries.map (fun entry => (entry.1, some entry.2)) = t.keys.map fun key => (key, t.get? key) := by
  rw [keys, List.map_map]
  refine List.map_congr_left fun entry hentry => ?_
  rw [Function.comp_apply, get?_eq_some_iff_mem.2 hentry]

theorem ext_get? {a b : Table α} (hkeys : a.keys = b.keys)
    (hget : ∀ key, a.get? key = b.get? key) : a = b := by
  have hentries := a.map_entries
  simp only [hkeys, hget] at hentries
  rw [← b.map_entries] at hentries
  refine Table.ext (List.map_injective_iff.2 ?_ hentries)
  rintro ⟨k, v⟩ ⟨k', v'⟩ h
  simpa using h

/-! ## Changed values -/

variable {β : Type v}

theorem put_map (f : String → α → β) (key : String) (value : α) (entries : List (String × α)) :
    (put key value entries).map (fun entry => (entry.1, f entry.1 entry.2)) =
      put key (f key value) (entries.map fun entry => (entry.1, f entry.1 entry.2)) := by
  induction entries with
  | nil => rfl
  | cons entry rest ih =>
    obtain ⟨k, v⟩ := entry
    by_cases hk : k = key
    · simp only [put, if_pos hk, List.map_cons]
    · simp only [put, if_neg hk, List.map_cons, ih]

theorem map_insertAll (f : String → α → β) (t : Table α) (entries : List (String × α)) :
    (t.insertAll entries).map f =
      (t.map f).insertAll (entries.map fun entry => (entry.1, f entry.1 entry.2)) := by
  induction entries generalizing t with
  | nil => rfl
  | cons entry rest ih =>
    obtain ⟨key, value⟩ := entry
    have hinsert : (t.insert key value).map f = (t.map f).insert key (f key value) :=
      Table.ext (put_map f key value t.entries)
    rw [insertAll_cons, ih, hinsert]
    rfl

theorem map_ofList (f : String → α → β) (entries : List (String × α)) :
    (ofList entries).map f = ofList (entries.map fun entry => (entry.1, f entry.1 entry.2)) :=
  map_insertAll f empty entries

@[simp]
theorem keys_map (f : String → α → β) (t : Table α) : (t.map f).keys = t.keys := by
  simp [keys, map]

theorem get?_map (f : String → α → β) (t : Table α) (key : String) :
    (t.map f).get? key = (t.get? key).map (f key) := by
  show (t.entries.map fun entry => (entry.1, f entry.1 entry.2)).lookup key =
    (t.entries.lookup key).map (f key)
  induction t.entries with
  | nil => rfl
  | cons entry rest ih =>
    obtain ⟨k, v⟩ := entry
    by_cases hk : key = k
    · simp [hk]
    · rw [List.map_cons, List.lookup_cons, List.lookup_cons, beq_eq_false_iff_ne.2 hk, ih]

end DataSource.Table
