import DataSource.Proofs.Name.Query

/-!
# The pairs that are written

`queryPairs` writes a pair for every field that is `needed`, and the parameters under keys that name
no field (`mem_queryPairs_iff`). No key is written twice (`nodup_keys_queryPairs`), so that reading
the pairs in any order sets the needed fields, leaves the others alone (`get_of_setAll_writtenPairs`)
and gives the parameters their written keys (`get?_params_of_setAll_writtenPairs`). The pairs can be set
if every field that is needed can be read from its spelling (`exists_setAll_writtenPairs_iff`).
-/

namespace DataSource.Name

/-! ## Fields -/

/-- Whether a field is written: it differs from what reading assumes. -/
def needed (s : Settings) : Field → Bool
  | .account => !accountInHost s
  | .database => s.database != ""
  | .schema => s.schema != ""
  | .warehouse => s.warehouse != ""
  | .role => s.role != ""
  | .region => s.region != ""
  | .protocol => s.protocol != defaultProtocol
  | .authenticator => s.authenticator != defaultAuthenticator
  | .passcode => s.passcode != ""
  | .passcodeInPassword => s.passcodeInPassword
  | .loginTimeout => s.loginTimeout != defaultLoginTimeout
  | .requestTimeout => s.requestTimeout != defaultRequestTimeout
  | .application => s.application != defaultApplication
  | .insecureMode => s.insecureMode
  | .user | .password | .host | .port => false
  | .proxyHost | .proxyPort | .proxyUser | .proxyPassword => false

/-- The pair of a field, if it is written. -/
def fieldPair (s : Settings) (f : Field) : List (String × String) :=
  match f.queryKey? with
  | none => []
  | some key => pairIf (needed s f) key (f.kind.spell (s.get f))

/-- The fields that may be written, in the order in which they are looked at. -/
def writtenFields : List Field := [
  .account, .database, .schema, .warehouse, .role, .region, .protocol, .authenticator, .passcode,
  .passcodeInPassword, .loginTimeout, .requestTimeout, .application, .insecureMode]

theorem pairIf_spell_flag (b : Bool) (key : String) :
    pairIf b key (Kind.flag.spell b) = pairIf b key "true" := by
  cases b <;> rfl

theorem queryPairs_eq (s : Settings) :
    queryPairs s = writtenFields.flatMap (fieldPair s) ++ ownParams s := by
  have hpassword : fieldPair s .passcodeInPassword =
      pairIf s.passcodeInPassword "passcodeInPassword" "true" := pairIf_spell_flag _ _
  have hinsecure : fieldPair s .insecureMode = pairIf s.insecureMode "insecureMode" "true" :=
    pairIf_spell_flag _ _
  simp only [writtenFields, List.flatMap_cons, List.flatMap_nil, hpassword, hinsecure,
    List.append_nil, ← List.append_assoc]
  rfl

theorem mem_fieldPair_iff {s : Settings} {f : Field} {key value : String} :
    (key, value) ∈ fieldPair s f ↔
      f.queryKey? = some key ∧ needed s f = true ∧ value = f.kind.spell (s.get f) := by
  unfold fieldPair
  cases hkey : f.queryKey? with
  | none => simp
  | some k =>
    unfold pairIf
    by_cases hneeded : needed s f = true
    · simp [hneeded, eq_comm]
    · simp [hneeded]

theorem mem_writtenFields_of_needed {s : Settings} {f : Field} (h : needed s f = true) :
    f ∈ writtenFields := by
  cases f <;> first | decide | cases h

theorem mem_ownParams_iff {s : Settings} {key value : String} :
    (key, value) ∈ ownParams s ↔
      s.params.get? key = some value ∧ Field.ofQueryKey? key = none := by
  simp [ownParams, Table.get?_eq_some_iff_mem]

theorem mem_queryPairs_iff {s : Settings} {key value : String} :
    (key, value) ∈ queryPairs s ↔
      (∃ f, f.queryKey? = some key ∧ needed s f = true ∧ value = f.kind.spell (s.get f)) ∨
        (s.params.get? key = some value ∧ Field.ofQueryKey? key = none) := by
  rw [queryPairs_eq, List.mem_append, mem_ownParams_iff, List.mem_flatMap]
  refine or_congr_left ⟨?_, ?_⟩
  · rintro ⟨f, -, hf⟩
    exact ⟨f, mem_fieldPair_iff.1 hf⟩
  · rintro ⟨f, hf⟩
    exact ⟨f, mem_writtenFields_of_needed hf.2.1, mem_fieldPair_iff.2 hf⟩

theorem mem_queryPairs_iff_of_queryKey? {s : Settings} {f : Field} {key value : String}
    (hf : f.queryKey? = some key) :
    (key, value) ∈ queryPairs s ↔ needed s f = true ∧ value = f.kind.spell (s.get f) := by
  have hof := Field.ofQueryKey?_of_queryKey? hf
  rw [mem_queryPairs_iff, hof]
  constructor
  · rintro (⟨g, hg, hwritten⟩ | ⟨-, hnone⟩)
    · have hgf : g = f := by
        rw [Field.ofQueryKey?_of_queryKey? hg] at hof
        exact Option.some.inj hof
      exact hgf ▸ hwritten
    · cases hnone
  · intro h
    exact Or.inl ⟨f, hf, h⟩

/-! ## Keys -/

theorem keys_fieldPairs_sublist (s : Settings) (fields : List Field) :
    ((fields.flatMap (fieldPair s)).map Prod.fst).Sublist (fields.filterMap Field.queryKey?) := by
  induction fields with
  | nil => exact List.Sublist.refl _
  | cons f rest ih =>
    rw [List.flatMap_cons, List.map_append]
    cases hkey : f.queryKey? with
    | none =>
      rw [List.filterMap_cons_none hkey, fieldPair, hkey]
      exact ih
    | some key =>
      rw [List.filterMap_cons_some hkey, fieldPair, hkey]
      simp only [pairIf]
      split
      · exact ih.cons_cons key
      · exact ih.cons key

theorem nodup_keys_ownParams (s : Settings) : ((ownParams s).map Prod.fst).Nodup :=
  (List.filter_sublist.map Prod.fst).nodup s.params.distinct

theorem nodup_keys_queryPairs (s : Settings) : ((queryPairs s).map Prod.fst).Nodup := by
  rw [queryPairs_eq, List.map_append, List.nodup_append]
  refine ⟨(keys_fieldPairs_sublist s writtenFields).nodup (by decide), nodup_keys_ownParams s, ?_⟩
  rintro key hfield _ hown rfl
  obtain ⟨⟨k, value⟩, hmem, rfl⟩ := List.mem_map.1 hfield
  obtain ⟨f, -, hpair⟩ := List.mem_flatMap.1 hmem
  obtain ⟨⟨k', value'⟩, hmem', hkeys⟩ := List.mem_map.1 hown
  have hnone := (mem_ownParams_iff.1 hmem').2
  rw [show k' = k from hkeys,
    Field.ofQueryKey?_of_queryKey? (mem_fieldPair_iff.1 hpair).1] at hnone
  cases hnone

/-! ## Reading what is written -/

/-- The pairs of the query as they are read. -/
def writtenPairs (s : Settings) : List (String × String) :=
  (sortPairs (queryPairs s)).map fun pair => (writtenKey pair.1, pair.2)

/-- The parameters as they are read: under their written keys, and without those that a field takes
the place of. -/
def writtenParams (s : Settings) : Table String where
  entries := (ownParams s).map fun pair => (writtenKey pair.1, pair.2)
  distinct := by
    have hmap : ((ownParams s).map fun pair => (writtenKey pair.1, pair.2)).map Prod.fst =
        ((ownParams s).map Prod.fst).map writtenKey := by
      simp [Function.comp_def]
    rw [hmap]
    exact (nodup_keys_ownParams s).map fun _ _ => writtenKey_injective

theorem mem_writtenPairs_iff {s : Settings} {key value : String} :
    (key, value) ∈ writtenPairs s ↔ ∃ k, key = writtenKey k ∧ (k, value) ∈ queryPairs s := by
  simp only [writtenPairs, List.mem_map, (sortPairs_perm _).mem_iff, Prod.exists, Prod.mk.injEq]
  constructor
  · rintro ⟨k, v, hmem, rfl, rfl⟩
    exact ⟨k, rfl, hmem⟩
  · rintro ⟨k, rfl, hmem⟩
    exact ⟨k, value, hmem, rfl, rfl⟩

theorem mem_writtenPairs_iff_of_queryKey? {s : Settings} {f : Field} {key value : String}
    (hf : f.queryKey? = some key) :
    (key, value) ∈ writtenPairs s ↔ needed s f = true ∧ value = f.kind.spell (s.get f) := by
  rw [mem_writtenPairs_iff, ← mem_queryPairs_iff_of_queryKey? hf]
  constructor
  · rintro ⟨k, hk, hmem⟩
    rw [← writtenKey_of_queryKey? hf] at hk
    rwa [writtenKey_injective hk]
  · intro h
    exact ⟨key, (writtenKey_of_queryKey? hf).symm, h⟩

theorem nodup_keys_writtenPairs (s : Settings) : ((writtenPairs s).map Prod.fst).Nodup := by
  have hmap : (writtenPairs s).map Prod.fst =
      ((sortPairs (queryPairs s)).map Prod.fst).map writtenKey := by
    simp [writtenPairs, Function.comp_def]
  rw [hmap]
  refine List.Nodup.map (fun _ _ => writtenKey_injective) ?_
  exact ((sortPairs_perm _).map Prod.fst).nodup_iff.2 (nodup_keys_queryPairs s)

theorem get?_writtenParams {s : Settings} {key value : String} :
    (writtenParams s).get? key = some value ↔
      ∃ k, key = writtenKey k ∧ s.params.get? k = some value ∧ Field.ofQueryKey? k = none := by
  rw [Table.get?_eq_some_iff_mem]
  simp only [writtenParams, List.mem_map, Prod.exists, Prod.mk.injEq, mem_ownParams_iff]
  constructor
  · rintro ⟨k, v, hmem, rfl, rfl⟩
    exact ⟨k, rfl, hmem⟩
  · rintro ⟨k, rfl, hmem⟩
    exact ⟨k, value, hmem, rfl, rfl⟩

theorem queryKey?_ne_none_of_needed {s : Settings} {f : Field} (h : needed s f = true) :
    ∃ key, f.queryKey? = some key := by
  cases f <;> first | exact ⟨_, rfl⟩ | cases h

theorem exists_setAll_writtenPairs_iff {n : Settings} (s : Settings) :
    (∃ t, setAll s (writtenPairs n) = .ok t) ↔
      ∀ f, needed n f = true → ∃ x, f.kind.ofText? (f.kind.spell (n.get f)) = some x := by
  rw [exists_setAll_iff]
  constructor
  · intro h f hneeded
    obtain ⟨key, hkey⟩ := queryKey?_ne_none_of_needed hneeded
    exact h (key, f.kind.spell (n.get f))
      ((mem_writtenPairs_iff_of_queryKey? hkey).2 ⟨hneeded, rfl⟩) f (Field.ofQueryKey?_of_queryKey? hkey)
  · rintro h ⟨key, value⟩ hpair f hf
    obtain ⟨hneeded, rfl⟩ :=
      (mem_writtenPairs_iff_of_queryKey? (Field.queryKey?_of_ofQueryKey? hf)).1 hpair
    exact h f hneeded

theorem exists_setAll_writtenPairs {n : Settings} (hn : n.Bounded) (s : Settings) :
    ∃ t, setAll s (writtenPairs n) = .ok t :=
  (exists_setAll_writtenPairs_iff s).2 fun f _ => ⟨n.get f, Kind.ofText?_spell (hn f)⟩

theorem get_of_setAll_writtenPairs {n s t : Settings} (h : setAll s (writtenPairs n) = .ok t)
    {f : Field} (hf : f.kind.Fits (n.get f)) :
    t.get f = if needed n f = true then n.get f else s.get f := by
  by_cases hneeded : needed n f = true
  · obtain ⟨key, hkey⟩ := queryKey?_ne_none_of_needed hneeded
    have hread := get_of_setAll_of_mem h (nodup_keys_writtenPairs n) hkey
      ((mem_writtenPairs_iff_of_queryKey? hkey).2 ⟨hneeded, rfl⟩)
    rw [Kind.ofText?_spell hf] at hread
    rw [if_pos hneeded]
    exact (Option.some.inj hread).symm
  · rw [if_neg hneeded]
    cases hkey : f.queryKey? with
    | none => exact get_of_setAll_of_queryKey?_eq_none h hkey
    | some key =>
      exact get_of_setAll_of_not_mem h hkey fun value hmem =>
        hneeded ((mem_writtenPairs_iff_of_queryKey? hkey).1 hmem).1

theorem get?_params_of_setAll_writtenPairs {n s t : Settings} (hs : s.params = .empty)
    (h : setAll s (writtenPairs n) = .ok t) (key : String) :
    t.params.get? key = (writtenParams n).get? key := by
  have hsublist : ((writtenPairs n).filter fun pair => (Field.ofQueryKey? pair.1).isNone).Sublist
      (writtenPairs n) := List.filter_sublist
  have hnodup := (hsublist.map Prod.fst).nodup (nodup_keys_writtenPairs n)
  have hempty : (Table.empty : Table String).get? key = none := rfl
  rw [params_of_setAll h, hs, Table.get?_insertAll, hempty, Option.or_none]
  refine Option.ext fun value => ?_
  rw [Table.lookup_eq_some_iff_mem (Table.nodup_map_fst_reverse hnodup), List.mem_reverse,
    List.mem_filter, mem_writtenPairs_iff, get?_writtenParams]
  constructor
  · rintro ⟨⟨k, rfl, hmem⟩, hnone⟩
    rw [ofQueryKey?_writtenKey, Option.isNone_iff_eq_none] at hnone
    rcases mem_queryPairs_iff.1 hmem with ⟨f, hf, -⟩ | hparam
    · rw [Field.ofQueryKey?_of_queryKey? hf] at hnone
      cases hnone
    · exact ⟨k, rfl, hparam⟩
  · rintro ⟨k, rfl, hparam⟩
    refine ⟨⟨k, rfl, mem_queryPairs_iff.2 (Or.inr hparam)⟩, ?_⟩
    rw [ofQueryKey?_writtenKey, hparam.2]
    rfl

end DataSource.Name
