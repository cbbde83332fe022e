import DataSource.Proofs.Name.Fault

/-!
# The last piece of a key

Pieces of a query set fields and parameters, and of the pieces of one key the last one counts. `LastWins`
says what this makes of settings without following a run, and it leaves nothing open but the order of the
parameters (`LastWins.same`). So the pieces of a query can be put in another order, as long as those of
one key stay in theirs. A query with a fault is applied up to the first one; whether there is a fault
depends neither on the order of the pieces nor on the settings (`applyQuery_lastWins`).
-/

namespace DataSource.Name

open Table (LastUnder)

/-! ## What the last pairs make of settings -/

/-- The settings `t` are `s` with the last value of every key: converted for the field of the key, or as
the parameter of a key that no field has. -/
structure LastWins (pairs : List (String × String)) (s t : Settings) : Prop where
  field : ∀ {f key value}, f.queryKey? = some key → LastUnder pairs key value →
    f.kind.ofText? value = some (t.get f)
  field_kept : ∀ f, (∀ key, f.queryKey? = some key → key ∉ pairs.map Prod.fst) → t.get f = s.get f
  param : ∀ {key value}, Field.ofQueryKey? key = none → LastUnder pairs key value →
    t.params.get? key = some value
  param_kept : ∀ key, (Field.ofQueryKey? key = none → key ∉ pairs.map Prod.fst) →
    t.params.get? key = s.params.get? key

variable {s t u : Settings} {pairs others : List (String × String)}

theorem LastWins.same (ht : LastWins pairs s t) (hu : LastWins others s u)
    (hlast : ∀ key value, LastUnder pairs key value ↔ LastUnder others key value) : t.same u = true := by
  have hkeys (key : String) : key ∈ pairs.map Prod.fst ↔ key ∈ others.map Prod.fst := by
    rw [← Table.exists_lastUnder_iff, ← Table.exists_lastUnder_iff]
    exact exists_congr (hlast key)
  rw [Settings.same_iff]
  refine ⟨fun f => ?_, fun key => ?_⟩
  · by_cases hset : ∃ key, f.queryKey? = some key ∧ key ∈ pairs.map Prod.fst
    · obtain ⟨key, hf, hmem⟩ := hset
      obtain ⟨value, hvalue⟩ := Table.exists_lastUnder_iff.2 hmem
      exact Option.some.inj ((ht.field hf hvalue).symm.trans (hu.field hf ((hlast key value).1 hvalue)))
    · push Not at hset
      rw [ht.field_kept f hset, hu.field_kept f fun key hf => mt (hkeys key).2 (hset key hf)]
  · by_cases hset : Field.ofQueryKey? key = none ∧ key ∈ pairs.map Prod.fst
    · obtain ⟨hkey, hmem⟩ := hset
      obtain ⟨value, hvalue⟩ := Table.exists_lastUnder_iff.2 hmem
      rw [ht.param hkey hvalue, hu.param hkey ((hlast key value).1 hvalue)]
    · push Not at hset
      rw [ht.param_kept key hset, hu.param_kept key fun hkey => mt (hkeys key).2 (hset hkey)]

theorem lastWins_of_setAll (h : setAll s pairs = .ok t) : LastWins pairs s t := by
  have hparams (key : String) : t.params.get? key =
      ((pairs.filter fun pair => (Field.ofQueryKey? pair.1).isNone).reverse.lookup key).or
        (s.params.get? key) := by
    rw [params_of_setAll h, Table.get?_insertAll]
  constructor
  · intro f key value hf hlast
    have hget := get_of_setAll h hf
    rwa [Table.lookup_reverse_eq_some_iff.2 hlast] at hget
  · intro f hkept
    cases hf : f.queryKey? with
    | none => exact get_of_setAll_of_queryKey?_eq_none h hf
    | some key =>
      have hget := get_of_setAll h hf
      rwa [Table.lookup_reverse_eq_none_iff.2 (hkept key hf)] at hget
  · intro key value hkey hlast
    have hforeign : LastUnder (pairs.filter fun pair => (Field.ofQueryKey? pair.1).isNone) key value :=
      hlast.filter (by rw [hkey]; rfl)
    rw [hparams, Table.lookup_reverse_eq_some_iff.2 hforeign, Option.some_or]
  · intro key hkept
    rw [hparams, Table.lookup_reverse_eq_none_iff.2, Option.none_or]
    intro hmem
    obtain ⟨pair, hpair, rfl⟩ := List.mem_map.1 hmem
    obtain ⟨hin, hnone⟩ := List.mem_filter.1 hpair
    exact hkept (Option.isNone_iff_eq_none.1 hnone) (List.mem_map_of_mem hin)

/-! ## Pieces in another order -/

/-- The key that a piece sets; a piece without an equals sign sets none. -/
def keyOf? (piece : List Char) : Option (List Char) := (splitPiece piece).map Prod.fst

/-- Pieces in another order, in which those of one key follow each other as before. -/
structure Reordered (pieces others : List (List Char)) : Prop where
  perm : others.Perm pieces
  order : ∀ key, others.filter (keyOf? · = some key) = pieces.filter (keyOf? · = some key)

theorem reordered_iff {pieces others : List (List Char)} :
    Reordered pieces others ↔ others.Perm pieces ∧ ∀ key ∈ pieces.filterMap keyOf?,
      others.filter (keyOf? · = some key) = pieces.filter (keyOf? · = some key) := by
  refine ⟨fun h => ⟨h.perm, fun key _ => h.order key⟩, fun ⟨hperm, horder⟩ => ⟨hperm, fun key => ?_⟩⟩
  by_cases hkey : key ∈ pieces.filterMap keyOf?
  · exact horder key hkey
  · have hnone : ∀ piece ∈ pieces, ¬decide (keyOf? piece = some key) = true := by
      intro piece hpiece hpair
      exact hkey (List.mem_filterMap.2 ⟨piece, hpiece, of_decide_eq_true hpair⟩)
    rw [List.filter_eq_nil_iff.2 hnone,
      List.filter_eq_nil_iff.2 fun piece hpiece => hnone piece (hperm.mem_iff.1 hpiece)]

instance (pieces others : List (List Char)) : Decidable (Reordered pieces others) :=
  decidable_of_iff _ reordered_iff.symm

theorem filter_pairOf? (piece : List Char) (key : String) :
    (pairOf? piece).filter (fun pair => pair.1 == key) =
      if keyOf? piece = some key.toList then pairOf? piece else none := by
  unfold pairOf? keyOf?
  cases splitPiece piece with
  | none => simp
  | some parts =>
    obtain ⟨text, raw⟩ := parts
    have hkey : text = key.toList ↔ String.ofList text = key := by
      rw [← String.toList_inj, String.toList_ofList]
    cases hraw : FormEscape.unescape raw with
    | error part => simp [hraw, Except.toOption]
    | ok value => by_cases h : String.ofList text = key <;> simp [hraw, Except.toOption, hkey, h]

theorem filter_pairs (pieces : List (List Char)) (key : String) :
    (pieces.filterMap pairOf?).filter (fun pair => pair.1 == key) =
      (pieces.filter (keyOf? · = some key.toList)).filterMap pairOf? := by
  rw [List.filter_filterMap, List.filterMap_filter]
  refine List.filterMap_congr fun piece _ => ?_
  simp only [filter_pairOf?, decide_eq_true_eq]

/-- What the last value of a key is depends on the pieces of the key alone. -/
theorem Reordered.lastUnder_iff {pieces others : List (List Char)} (h : Reordered pieces others)
    (key value : String) :
    LastUnder (pieces.filterMap pairOf?) key value ↔ LastUnder (others.filterMap pairOf?) key value := by
  rw [← Table.lookup_reverse_eq_some_iff, ← Table.lookup_reverse_eq_some_iff,
    ← Table.lookup_reverse_filter, filter_pairs, ← h.order key.toList, ← filter_pairs,
    Table.lookup_reverse_filter]

/-! ## Faults -/

/-- Every piece that has an equals sign has a value that can be unescaped and converted for its key. -/
def Faultless (query : List Char) : Prop :=
  ∀ piece ∈ queryPieces query, ∀ error, ¬PieceFault piece error

theorem error?_applyPieces_eq_none_iff {pieces : List (List Char)} :
    (applyPieces s pieces).error? = none ↔ ∀ piece ∈ pieces, ∀ error, ¬PieceFault piece error := by
  induction pieces generalizing s with
  | nil => simp [applyPieces]
  | cons piece rest ih =>
    rw [List.forall_mem_cons, applyPieces]
    cases hpiece : applyPiece s piece with
    | error error =>
      have hfault : PieceFault piece error := applyPiece_eq_error_iff.1 hpiece
      exact iff_of_false (Option.some_ne_none error) fun h => h.1 error hfault
    | ok t =>
      refine ih.trans (iff_and_self.2 fun _ error hfault => ?_)
      rw [applyPiece_eq_error_iff.2 hfault] at hpiece
      cases hpiece

theorem error?_applyQuery_eq_none_iff {query : List Char} :
    (applyQuery s query).error? = none ↔ Faultless query :=
  error?_applyPieces_eq_none_iff

theorem applyPieces_of_fault {before after : List (List Char)} {piece : List Char} {error : NameError}
    (hbefore : ∀ piece ∈ before, ∀ error, ¬PieceFault piece error) (hpiece : PieceFault piece error) :
    applyPieces s (before ++ piece :: after) = ⟨(applyPieces s before).settings, some error⟩ := by
  rw [applyPieces_append, error?_applyPieces_eq_none_iff.2 hbefore]
  simp only [applyPieces, applyPiece_eq_error_iff.2 hpiece]

theorem FirstFault.exists_parts {α : Type} {fault : α → NameError → Prop} {items : List α}
    {error : NameError} (h : FirstFault fault items error) :
    ∃ before item after, items = before ++ item :: after ∧ (∀ item ∈ before, ∀ e, ¬fault item e) ∧
      fault item error := by
  induction h with
  | here h => exact ⟨[], _, _, rfl, by simp, h⟩
  | later hitem _ ih =>
    obtain ⟨before, item, after, rfl, hbefore, hfault⟩ := ih
    exact ⟨_ :: before, item, after, rfl, List.forall_mem_cons.2 ⟨hitem, hbefore⟩, hfault⟩

theorem exists_fault {query : List Char} (h : ¬Faultless query) :
    ∃ before piece after error, queryPieces query = before ++ piece :: after ∧
      (∀ piece ∈ before, ∀ error, ¬PieceFault piece error) ∧ PieceFault piece error := by
  obtain ⟨error, herror⟩ : ∃ error, (applyPieces {} (queryPieces query)).error? = some error :=
    Option.ne_none_iff_exists'.1 (mt error?_applyQuery_eq_none_iff.1 h)
  have hfirst : FirstFault PieceFault (queryPieces query) error := by
    rw [← result_applyPieces_eq_error_iff (s := {}), Applied.result, herror]
  obtain ⟨before, piece, after, hparts⟩ := hfirst.exists_parts
  exact ⟨before, piece, after, error, hparts⟩

/-! ## Queries -/

theorem lastWins_applyQuery {query : List Char} (h : Faultless query) :
    LastWins (pairsOf query) s (applyQuery s query).settings := by
  apply lastWins_of_setAll
  apply setAll_of_applyPieces
  rw [Applied.result, ← applyQuery, error?_applyQuery_eq_none_iff.2 h]

theorem Faultless.perm {query other : List Char} (h : Faultless query)
    (hperm : (queryPieces other).Perm (queryPieces query)) : Faultless other :=
  fun piece hpiece => h piece (hperm.mem_iff.1 hpiece)

/-- A query without a fault sets the last value of every key, also with its pieces in another order. A
query with a fault ends at the first one, and has set what the query of the pieces before it sets. Whether
there is a fault does not depend on the settings or on the order of the pieces. -/
theorem applyQuery_lastWins (s : Settings) (query : List Char) :
    (Faultless query →
        (applyQuery s query).error? = none ∧
          LastWins (pairsOf query) s (applyQuery s query).settings ∧
          ∀ other, Reordered (queryPieces query) (queryPieces other) →
            (applyQuery s other).error? = none ∧
              (applyQuery s query).settings.same (applyQuery s other).settings = true) ∧
      (¬Faultless query →
        ∃ before piece after error, queryPieces query = before ++ piece :: after ∧
          (∀ piece ∈ before, ∀ error, ¬PieceFault piece error) ∧ PieceFault piece error ∧
          (applyQuery s (['&'].intercalate before)).error? = none ∧
          applyQuery s query = ⟨(applyQuery s (['&'].intercalate before)).settings, some error⟩) ∧
      ∀ t other, (queryPieces other).Perm (queryPieces query) →
        ((applyQuery t other).error? = none ↔ (applyQuery s query).error? = none) := by
  refine ⟨fun hquery => ?_, fun hquery => ?_, fun t other hperm => ?_⟩
  · refine ⟨error?_applyQuery_eq_none_iff.2 hquery, lastWins_applyQuery hquery, fun other h => ?_⟩
    have hother : Faultless other := hquery.perm h.perm
    exact ⟨error?_applyQuery_eq_none_iff.2 hother,
      (lastWins_applyQuery hquery).same (lastWins_applyQuery hother) h.lastUnder_iff⟩
  · obtain ⟨before, piece, after, error, hpieces, hbefore, hpiece⟩ := exists_fault hquery
    have hmark : ∀ piece ∈ before, '&' ∉ piece := fun piece hmem =>
      not_mem_of_mem_queryPieces (hpieces ▸ List.mem_append_left _ hmem)
    refine ⟨before, piece, after, error, hpieces, hbefore, hpiece, ?_⟩
    rw [applyQuery_intercalate s hmark, applyQuery, hpieces]
    exact ⟨error?_applyPieces_eq_none_iff.2 hbefore, applyPieces_of_fault hbefore hpiece⟩
  · rw [error?_applyQuery_eq_none_iff, error?_applyQuery_eq_none_iff]
    exact ⟨fun h => h.perm hperm.symm, fun h => h.perm hperm⟩

theorem applyQuery_lastWins_roles :
    Faultless "role=a&x=1&&mark&role=b%3D&x=2=3".toList ∧
      Reordered (queryPieces "role=a&x=1&&mark&role=b%3D&x=2=3".toList)
        (queryPieces "x=1&role=a&x=2=3&mark&role=b%3D&".toList) ∧
      LastWins [("role", "a"), ("x", "1"), ("role", "b="), ("x", "2=3")] {}
        { role := "b=", params := .ofList [("x", "2=3")] } ∧
      Settings.same { role := "b=", params := .ofList [("x", "2=3")] }
        (applyQuery {} "x=1&role=a&x=2=3&mark&role=b%3D&".toList).settings = true ∧
      ¬Faultless "role=a&insecureMode=maybe&role=b".toList ∧
      ∃ before piece after error,
        queryPieces "role=a&insecureMode=maybe&role=b".toList = before ++ piece :: after ∧
        (∀ piece ∈ before, ∀ error, ¬PieceFault piece error) ∧ PieceFault piece error ∧
        (applyQuery {} (['&'].intercalate before)).error? = none ∧
        applyQuery {} "role=a&insecureMode=maybe&role=b".toList =
          ⟨(applyQuery {} (['&'].intercalate before)).settings, some error⟩ := by
  have hquery : Faultless "role=a&x=1&&mark&role=b%3D&x=2=3".toList :=
    error?_applyQuery_eq_none_iff (s := {}).1 (by decide +kernel)
  have horder : Reordered (queryPieces "role=a&x=1&&mark&role=b%3D&x=2=3".toList)
      (queryPieces "x=1&role=a&x=2=3&mark&role=b%3D&".toList) := by decide +kernel
  have hfault : ¬Faultless "role=a&insecureMode=maybe&role=b".toList :=
    mt (error?_applyQuery_eq_none_iff (s := {})).2 (by decide +kernel)
  have hpairs : pairsOf "role=a&x=1&&mark&role=b%3D&x=2=3".toList =
      [("role", "a"), ("x", "1"), ("role", "b="), ("x", "2=3")] := by decide +kernel
  have hsettings : (applyQuery {} "role=a&x=1&&mark&role=b%3D&x=2=3".toList).settings =
      { role := "b=", params := .ofList [("x", "2=3")] } := by decide +kernel
  obtain ⟨-, hwins, hothers⟩ := (applyQuery_lastWins {} _).1 hquery
  rw [hpairs, hsettings] at hwins
  rw [hsettings] at hothers
  exact ⟨hquery, horder, hwins, (hothers _ horder).2, hfault, (applyQuery_lastWins {} _).2.1 hfault⟩

end DataSource.Name
