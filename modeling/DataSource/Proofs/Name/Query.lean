import DataSource.Name.Build
import DataSource.Name.Query
import DataSource.Proofs.Settings.Bounded
import DataSource.Proofs.Text.FormEscape

/-!
# Reading back the pairs of a query

A query that `queryText` writes is read pair by pair, each key as it was written (`result_queryText`).
What a run over pairs leaves behind does not depend on the run: the last pair of a field's key decides
the field (`get_of_setAll`), and the last pair of any other key the parameter (`params_of_setAll`).
So where keys are distinct the order of the pairs does not matter.
-/

namespace DataSource.Name

/-! ## Pieces -/

theorem splitPiece_eq_some_iff {piece key raw : List Char} :
    splitPiece piece = some (key, raw) ↔ '=' ∉ key ∧ piece = key ++ '=' :: raw := by
  rw [splitPiece, Text.cut_eq_some_iff]
  constructor
  · rintro ⟨c, hc, hkey, rfl⟩
    cases beq_iff_eq.1 hc
    exact ⟨fun h => by simpa using hkey '=' h, rfl⟩
  · rintro ⟨hkey, rfl⟩
    exact ⟨'=', rfl, fun c hc => beq_eq_false_iff_ne.2 (ne_of_mem_of_not_mem hc hkey), rfl⟩

theorem not_mem_of_mem_queryPieces {query piece : List Char} (h : piece ∈ queryPieces query) :
    '&' ∉ piece := by
  unfold queryPieces at h
  induction query generalizing piece with
  | nil =>
    rw [List.splitOn_nil, List.mem_singleton] at h
    simp [h]
  | cons c rest ih =>
    obtain ⟨first, others, hrest⟩ := List.exists_cons_of_ne_nil (List.splitOn_ne_nil '&' rest)
    rw [List.splitOn_cons_eq_if_modifyHead, hrest] at h
    rw [hrest] at ih
    split at h
    · rcases List.mem_cons.1 h with rfl | hpiece
      · exact List.not_mem_nil
      · exact ih hpiece
    · rename_i hc
      rw [List.modifyHead_cons] at h
      rcases List.mem_cons.1 h with rfl | hpiece
      · have hne : '&' ≠ c := fun heq => hc (beq_iff_eq.2 heq.symm)
        rw [List.mem_cons, not_or]
        exact ⟨hne, ih List.mem_cons_self⟩
      · exact ih (List.mem_cons_of_mem _ hpiece)

theorem applyQuery_intercalate (s : Settings) {pieces : List (List Char)}
    (h : ∀ piece ∈ pieces, '&' ∉ piece) :
    applyQuery s (['&'].intercalate pieces) = applyPieces s pieces := by
  rcases eq_or_ne pieces [] with rfl | hne
  · -- The query of no pieces is one piece without an equals sign, which sets nothing.
    rfl
  · rw [applyQuery, queryPieces, List.splitOn_intercalate '&' h hne]

theorem applyPiece_append_escape (s : Settings) {key : List Char} (hkey : '=' ∉ key) (value : String) :
    applyPiece s (key ++ '=' :: FormEscape.escape value.toList) =
      setByKey s (String.ofList key) value := by
  simp only [applyPiece, splitPiece_eq_some_iff.2 ⟨hkey, rfl⟩, FormEscape.unescape_escape,
    String.ofList_toList]

theorem result_applyPieces_cons (s : Settings) (piece : List Char) (rest : List (List Char)) :
    (applyPieces s (piece :: rest)).result =
      (applyPiece s piece).bind fun t => (applyPieces t rest).result := by
  rw [applyPieces]
  cases applyPiece s piece <;> rfl

theorem result_applyPieces_append (s : Settings) (first second : List (List Char)) :
    (applyPieces s (first ++ second)).result =
      (applyPieces s first).result.bind fun t => (applyPieces t second).result := by
  rw [applyPieces_append]
  cases herror : (applyPieces s first).error? with
  | none =>
    simp only [Applied.result, herror]
    rfl
  | some error =>
    simp only [Applied.result, herror]
    rfl

/-! ## A run over pairs -/

/-- Sets pairs of keys and values in order, up to the first that fails. -/
def setAll (s : Settings) (pairs : List (String × String)) : Except NameError Settings :=
  pairs.foldlM (fun s pair => setByKey s pair.1 pair.2) s

theorem setAll_cons (s : Settings) (pair : String × String) (rest : List (String × String)) :
    setAll s (pair :: rest) = (setByKey s pair.1 pair.2).bind (setAll · rest) := rfl

theorem setAll_append_singleton (s : Settings) (pairs : List (String × String))
    (pair : String × String) :
    setAll s (pairs ++ [pair]) = (setAll s pairs).bind fun t => setByKey t pair.1 pair.2 := by
  rw [setAll, List.foldlM_append]
  cases h : pairs.foldlM (fun s pair => setByKey s pair.1 pair.2) s with
  | error error => rw [setAll, h]; rfl
  | ok t =>
    rw [setAll, h]
    show (setByKey t pair.1 pair.2).bind .ok = setByKey t pair.1 pair.2
    cases setByKey t pair.1 pair.2 <;> rfl

theorem setByKey_eq_ok_iff {s t : Settings} {key value : String} :
    setByKey s key value = .ok t ↔
      (Field.ofQueryKey? key = none ∧ t = s.putParam key value) ∨
      ∃ f x, Field.ofQueryKey? key = some f ∧ f.kind.ofText? value = some x ∧ t = s.put f x := by
  unfold setByKey
  cases hkey : Field.ofQueryKey? key with
  | none => simp [eq_comm]
  | some f =>
    cases hvalue : f.kind.ofText? value with
    | none => simp [hvalue]
    | some x => simp [hvalue, eq_comm]

theorem exists_setByKey {key value : String}
    (h : ∀ f, Field.ofQueryKey? key = some f → ∃ x, f.kind.ofText? value = some x) (s : Settings) :
    ∃ t, setByKey s key value = .ok t := by
  cases hkey : Field.ofQueryKey? key with
  | none => exact ⟨_, setByKey_eq_ok_iff.2 (Or.inl ⟨hkey, rfl⟩)⟩
  | some f =>
    obtain ⟨x, hx⟩ := h f hkey
    exact ⟨_, setByKey_eq_ok_iff.2 (Or.inr ⟨f, x, hkey, hx, rfl⟩)⟩

theorem exists_setAll_iff {pairs : List (String × String)} (s : Settings) :
    (∃ t, setAll s pairs = .ok t) ↔
      ∀ pair ∈ pairs, ∀ f, Field.ofQueryKey? pair.1 = some f →
        ∃ x, f.kind.ofText? pair.2 = some x := by
  induction pairs generalizing s with
  | nil => exact ⟨fun _ => by simp, fun _ => ⟨s, rfl⟩⟩
  | cons pair rest ih =>
    rw [List.forall_mem_cons, setAll_cons]
    constructor
    · rintro ⟨u, hu⟩
      cases hpair : setByKey s pair.1 pair.2 with
      | error error =>
        rw [hpair] at hu
        cases hu
      | ok t =>
        rw [hpair] at hu
        refine ⟨fun f hf => ?_, (ih t).1 ⟨u, hu⟩⟩
        rcases setByKey_eq_ok_iff.1 hpair with ⟨hnone, -⟩ | ⟨g, x, hg, hx, -⟩
        · rw [hnone] at hf
          cases hf
        · rw [hg] at hf
          cases hf
          exact ⟨x, hx⟩
    · rintro ⟨hpair, hrest⟩
      obtain ⟨t, ht⟩ := exists_setByKey hpair s
      rw [ht]
      exact (ih t).2 hrest

theorem exists_of_setAll_append_singleton {s u : Settings} {pairs : List (String × String)}
    {pair : String × String} (h : setAll s (pairs ++ [pair]) = .ok u) :
    ∃ t, setAll s pairs = .ok t ∧ setByKey t pair.1 pair.2 = .ok u := by
  rw [setAll_append_singleton] at h
  cases hpairs : setAll s pairs with
  | error error => rw [hpairs] at h; cases h
  | ok t =>
    rw [hpairs] at h
    exact ⟨t, rfl, h⟩

theorem setAll_induction {P : Settings → Prop}
    (hparam : ∀ s key value, Field.ofQueryKey? key = none → P s → P (s.putParam key value))
    (hfield : ∀ s key value f x, Field.ofQueryKey? key = some f → f.kind.ofText? value = some x →
      P s → P (s.put f x))
    {s t : Settings} {pairs : List (String × String)} (h : setAll s pairs = .ok t) (hs : P s) :
    P t := by
  induction pairs using List.reverseRecOn generalizing t with
  | nil => cases h; exact hs
  | append_singleton pairs pair ih =>
    obtain ⟨u, hu, hstep⟩ := exists_of_setAll_append_singleton h
    rcases setByKey_eq_ok_iff.1 hstep with ⟨hkey, rfl⟩ | ⟨f, x, hkey, hx, rfl⟩
    · exact hparam _ _ _ hkey (ih hu)
    · exact hfield _ _ _ _ _ hkey hx (ih hu)

theorem get_of_setAll_of_queryKey?_eq_none {s t : Settings} {pairs : List (String × String)}
    (h : setAll s pairs = .ok t) {f : Field} (hf : f.queryKey? = none) : t.get f = s.get f := by
  refine setAll_induction (P := fun u => u.get f = s.get f) ?_ ?_ h rfl
  · intro u key value _ hu
    rw [Settings.get_putParam]
    exact hu
  · intro u key value g x hg _ hu
    have hne : f ≠ g := by
      rintro rfl
      rw [Field.queryKey?_of_ofQueryKey? hg] at hf
      cases hf
    rw [Settings.get_put_of_ne u x hne]
    exact hu

theorem get_of_setAll {s t : Settings} {pairs : List (String × String)}
    (h : setAll s pairs = .ok t) {f : Field} {key : String} (hf : f.queryKey? = some key) :
    match pairs.reverse.lookup key with
    | some value => f.kind.ofText? value = some (t.get f)
    | none => t.get f = s.get f := by
  induction pairs using List.reverseRecOn generalizing t with
  | nil => cases h; rfl
  | append_singleton pairs pair ih =>
    obtain ⟨u, hu, hstep⟩ := exists_of_setAll_append_singleton h
    have hof := Field.ofQueryKey?_of_queryKey? hf
    rw [List.reverse_append, List.reverse_singleton, List.singleton_append]
    rcases setByKey_eq_ok_iff.1 hstep with ⟨hkey, rfl⟩ | ⟨g, x, hkey, hx, rfl⟩
    · have hne : key ≠ pair.1 := by
        rintro rfl
        rw [hof] at hkey
        cases hkey
      rw [List.lookup_cons, beq_eq_false_iff_ne.2 hne]
      rw [Settings.get_putParam]
      exact ih hu
    · by_cases hg : f = g
      · subst hg
        have hkeys : key = pair.1 := by
          have := Field.queryKey?_of_ofQueryKey? hkey
          rw [hf] at this
          exact Option.some.inj this
        rw [hkeys, List.lookup_cons, beq_self_eq_true, Settings.get_put]
        exact hx
      · have hne : key ≠ pair.1 := by
          rintro rfl
          rw [hof] at hkey
          exact hg (Option.some.inj hkey)
        rw [List.lookup_cons, beq_eq_false_iff_ne.2 hne, Settings.get_put_of_ne u x hg]
        exact ih hu

theorem get_of_setAll_of_text {s t : Settings} {pairs : List (String × String)}
    (h : setAll s pairs = .ok t) {f : Field} {key : String} (hf : f.queryKey? = some key)
    (hkind : f.kind = .text) :
    cast (congrArg Kind.Content hkind) (t.get f) =
      (pairs.reverse.lookup key).getD (cast (congrArg Kind.Content hkind) (s.get f)) := by
  have hget := get_of_setAll h hf
  cases hlookup : pairs.reverse.lookup key with
  | none =>
    rw [hlookup] at hget
    rw [hget]
    rfl
  | some value =>
    rw [hlookup] at hget
    cases f with
    | passcodeInPassword | insecureMode | loginTimeout | requestTimeout | port | proxyPort =>
      cases hkind
    | _ => exact (Option.some.inj hget).symm

theorem params_of_setAll {s t : Settings} {pairs : List (String × String)}
    (h : setAll s pairs = .ok t) :
    t.params = s.params.insertAll (pairs.filter fun pair => (Field.ofQueryKey? pair.1).isNone) := by
  induction pairs using List.reverseRecOn generalizing t with
  | nil => cases h; rfl
  | append_singleton pairs pair ih =>
    obtain ⟨u, hu, hstep⟩ := exists_of_setAll_append_singleton h
    rw [List.filter_append]
    rcases setByKey_eq_ok_iff.1 hstep with ⟨hkey, rfl⟩ | ⟨g, x, hkey, hx, rfl⟩
    · rw [Settings.putParam, ih hu, List.filter_singleton, hkey]
      simp [Table.insertAll, List.foldl_append]
    · rw [Settings.params_put, ih hu, List.filter_singleton, hkey]
      simp

theorem get_of_setAll_of_mem {s t : Settings} {pairs : List (String × String)}
    (h : setAll s pairs = .ok t) (hnodup : (pairs.map Prod.fst).Nodup) {f : Field}
    {key value : String} (hf : f.queryKey? = some key) (hmem : (key, value) ∈ pairs) :
    f.kind.ofText? value = some (t.get f) := by
  have hlookup : pairs.reverse.lookup key = some value :=
    Table.lookup_of_mem (Table.nodup_map_fst_reverse hnodup) (List.mem_reverse.2 hmem)
  have := get_of_setAll h hf
  rwa [hlookup] at this

theorem get_of_setAll_of_not_mem {s t : Settings} {pairs : List (String × String)}
    (h : setAll s pairs = .ok t) {f : Field} {key : String} (hf : f.queryKey? = some key)
    (hmem : ∀ value, (key, value) ∉ pairs) : t.get f = s.get f := by
  have hlookup : pairs.reverse.lookup key = none :=
    Table.lookup_eq_none_of_not_mem fun value hvalue => hmem value (List.mem_reverse.1 hvalue)
  have := get_of_setAll h hf
  rwa [hlookup] at this

/-! ## The query that was written -/

/-- A key as it stands in a query. -/
def writtenKey (key : String) : String := String.ofList (FormEscape.escape key.toList)

theorem writtenKey_injective {a b : String} (h : writtenKey a = writtenKey b) : a = b :=
  String.toList_injective (FormEscape.escape_injective (String.ofList_injective h))

theorem writtenKey_of_queryKey? {f : Field} {key : String} (h : f.queryKey? = some key) :
    writtenKey key = key := by
  have hplain : key.toList.all FormEscape.isPlain = true := by
    cases f <;> cases h <;> decide
  rw [writtenKey, FormEscape.escape_of_isPlain (List.all_eq_true.1 hplain), String.ofList_toList]

theorem ofQueryKey?_writtenKey (key : String) :
    Field.ofQueryKey? (writtenKey key) = Field.ofQueryKey? key := by
  cases hkey : Field.ofQueryKey? key with
  | some f => rw [writtenKey_of_queryKey? (Field.queryKey?_of_ofQueryKey? hkey), hkey]
  | none =>
    cases hwritten : Field.ofQueryKey? (writtenKey key) with
    | none => rfl
    | some f =>
      have hplain := writtenKey_of_queryKey? (Field.queryKey?_of_ofQueryKey? hwritten)
      rw [writtenKey_injective hplain, hkey] at hwritten
      cases hwritten

theorem applyPiece_pieceOf (s : Settings) (pair : String × String) :
    applyPiece s (pieceOf pair) = setByKey s (writtenKey pair.1) pair.2 :=
  applyPiece_append_escape s (FormEscape.not_mem_escape pair.1.toList (by decide)) pair.2

/-- Pieces that each set a key to a value are a run over the pairs of these. -/
theorem result_applyPieces_map {α : Type} {piece : α → List Char} {pair : α → String × String}
    {items : List α}
    (h : ∀ item ∈ items, ∀ s, applyPiece s (piece item) = setByKey s (pair item).1 (pair item).2)
    (s : Settings) : (applyPieces s (items.map piece)).result = setAll s (items.map pair) := by
  induction items generalizing s with
  | nil => rfl
  | cons item rest ih =>
    obtain ⟨hitem, hrest⟩ := List.forall_mem_cons.1 h
    rw [List.map_cons, List.map_cons, result_applyPieces_cons, hitem, setAll_cons]
    cases setByKey s (pair item).1 (pair item).2 with
    | error error => rfl
    | ok t => exact ih hrest t

theorem not_mem_pieceOf {c : Char} (hc : c ∈ ['/', '@', ':', '?', '&']) (pair : String × String) :
    c ∉ pieceOf pair := by
  have hescape (text : List Char) : c ∉ FormEscape.escape text := by
    refine FormEscape.not_mem_escape text ?_
    simp only [List.mem_cons, List.not_mem_nil, or_false] at hc ⊢
    tauto
  have heq : c ≠ '=' := by
    rintro rfl
    revert hc
    decide
  simp [pieceOf, hescape, heq]

theorem queryPieces_queryText {pairs : List (String × String)} (h : pairs ≠ []) :
    queryPieces (queryText pairs) = (sortPairs pairs).map pieceOf := by
  refine List.splitOn_intercalate '&' (fun piece hpiece => ?_) ?_
  · obtain ⟨pair, -, rfl⟩ := List.mem_map.1 hpiece
    exact not_mem_pieceOf (by decide) pair
  · intro hnil
    have hperm := sortPairs_perm pairs
    rw [List.map_eq_nil_iff.1 hnil] at hperm
    exact h (List.nil_perm.1 hperm)

theorem not_mem_queryText {c : Char} (hc : c ∈ ['/', '@', ':', '?']) (pairs : List (String × String)) :
    c ∉ queryText pairs := by
  have hamp : c ≠ '&' := by
    rintro rfl
    revert hc
    decide
  have hpiece : ∀ pair, c ∉ pieceOf pair := not_mem_pieceOf (List.mem_append_left ['&'] hc)
  rw [queryText]
  induction sortPairs pairs with
  | nil => simp
  | cons pair rest ih =>
    cases rest with
    | nil => simpa using hpiece pair
    | cons next rest =>
      simp only [List.map_cons, List.intercalate_cons_cons] at ih ⊢
      simp only [List.mem_append, List.mem_singleton, not_or]
      exact ⟨⟨hpiece pair, hamp⟩, ih⟩

/-- A query that was written is read as its pairs in order of their keys. -/
theorem result_queryText {pairs : List (String × String)} (h : pairs ≠ []) (s : Settings) :
    (applyQuery s (queryText pairs)).result =
      setAll s ((sortPairs pairs).map fun pair => (writtenKey pair.1, pair.2)) := by
  rw [applyQuery, queryPieces_queryText h]
  apply result_applyPieces_map
  intro pair _ t
  exact applyPiece_pieceOf t pair

theorem result_queryText_singleton {f : Field} {key : String} (hf : f.queryKey? = some key)
    (s : Settings) (value : String) :
    (applyQuery s (queryText [(key, value)])).result = setByKey s key value := by
  rw [result_queryText (List.cons_ne_nil _ _)]
  show setAll s [(writtenKey key, value)] = _
  rw [writtenKey_of_queryKey? hf, setAll_cons]
  exact bind_pure (setByKey s key value)

end DataSource.Name
