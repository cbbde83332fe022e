import DataSource.Proofs.Name.RoundTrip

/-!
# One name for equal settings

Pairs with distinct keys have one order that sorts them (`sortPairs_eq_of_perm`), and in it their keys
increase strictly. So what is written does not depend on the order of the parameters, nor on anything
that no name carries: the proxy, and parameters under the keys of fields (`build_canonical`).
-/

namespace DataSource.Name

/-! ## Sorting -/

theorem insertPair_sorted (pair : String × String) {pairs : List (String × String)}
    (h : pairs.Pairwise fun a b => a.1 ≤ b.1) :
    (insertPair pair pairs).Pairwise fun a b => a.1 ≤ b.1 := by
  induction pairs with
  | nil => simp [insertPair]
  | cons next rest ih =>
    obtain ⟨hnext, hrest⟩ := List.pairwise_cons.1 h
    unfold insertPair
    split
    · rename_i hle
      refine List.pairwise_cons.2 ⟨?_, h⟩
      intro other hother
      rcases List.mem_cons.1 hother with rfl | hother
      · exact hle
      · exact String.le_trans hle (hnext other hother)
    · rename_i hlt
      refine List.pairwise_cons.2 ⟨?_, ih hrest⟩
      intro other hother
      rcases List.mem_cons.1 ((insertPair_perm pair rest).mem_iff.1 hother) with rfl | hother
      · exact (String.le_total next.1 other.1).resolve_right hlt
      · exact hnext other hother

theorem sortPairs_sorted (pairs : List (String × String)) :
    (sortPairs pairs).Pairwise fun a b => a.1 ≤ b.1 := by
  induction pairs with
  | nil => exact List.Pairwise.nil
  | cons pair rest ih => exact insertPair_sorted pair ih

variable {pairs others : List (String × String)}

theorem sortPairs_strict (hnodup : (pairs.map Prod.fst).Nodup) :
    (sortPairs pairs).Pairwise fun a b => a.1 < b.1 := by
  have hdistinct : (sortPairs pairs).Pairwise fun a b => a.1 ≠ b.1 :=
    List.pairwise_map.1 (((sortPairs_perm pairs).map Prod.fst).nodup_iff.2 hnodup)
  refine ((sortPairs_sorted pairs).and hdistinct).imp ?_
  intro a b h
  refine String.not_le.1 fun hle => ?_
  exact h.2 (String.le_antisymm h.1 hle)

theorem sortPairs_eq_of_perm (hnodup : (pairs.map Prod.fst).Nodup) (hperm : pairs.Perm others) :
    sortPairs pairs = sortPairs others := by
  have hothers : (others.map Prod.fst).Nodup := (hperm.map Prod.fst).nodup_iff.1 hnodup
  apply List.Perm.eq_of_pairwise _ (sortPairs_strict hnodup) (sortPairs_strict hothers)
  · exact (sortPairs_perm pairs).trans (hperm.trans (sortPairs_perm others).symm)
  · intro a b _ _ hab hba
    exact absurd (String.lt_trans hab hba) (String.lt_irrefl a.1)

/-! ## What a name does not carry -/

/-- The settings with another proxy and other parameters. -/
def withExtras (s : Settings) (proxy : Proxy) (params : Table String) : Settings :=
  { s with proxy, params }

section

variable (s : Settings) (proxy : Proxy) {params : Table String}

theorem fieldPair_withExtras (f : Field) :
    fieldPair (withExtras s proxy params) f = fieldPair s f := by
  cases f <;> rfl

theorem normalize_withExtras (params : Table String) :
    normalize (withExtras s proxy params) =
      (normalize s).map fun n => withExtras n proxy params := by
  have hmissing : (withTarget (withExtras s proxy params)).missing? = (withTarget s).missing? := rfl
  show (withTarget (withExtras s proxy params)).complete = (withTarget s).complete.map _
  rw [Settings.complete, Settings.complete, hmissing]
  cases (withTarget s).missing? <;> rfl

variable (hparams : ∀ key, Field.ofQueryKey? key = none → params.get? key = s.params.get? key)

include hparams

theorem ownParams_perm : (ownParams (withExtras s proxy params)).Perm (ownParams s) := by
  have hnodup (t : Settings) : (ownParams t).Nodup := (nodup_keys_ownParams t).of_map
  refine (List.perm_ext_iff_of_nodup (hnodup _) (hnodup _)).2 ?_
  rintro ⟨key, value⟩
  rw [mem_ownParams_iff, mem_ownParams_iff]
  refine and_congr_left fun hkey => ?_
  rw [← hparams key hkey]
  rfl

theorem queryPairs_perm :
    (queryPairs (withExtras s proxy params)).Perm (queryPairs s) := by
  have hfields : writtenFields.flatMap (fieldPair (withExtras s proxy params)) =
      writtenFields.flatMap (fieldPair s) :=
    List.flatMap_congr fun f _ => fieldPair_withExtras s proxy f
  rw [queryPairs_eq, queryPairs_eq, hfields]
  exact (ownParams_perm s proxy hparams).append_left _

theorem write_withExtras : write (withExtras s proxy params) = write s := by
  have hquery : queryText (queryPairs (withExtras s proxy params)) = queryText (queryPairs s) := by
    rw [queryText, queryText, sortPairs_eq_of_perm (nodup_keys_queryPairs _)
      (queryPairs_perm s proxy hparams)]
  rw [← String.toList_inj, toList_write, toList_write, hquery]
  rfl

theorem build_withExtras : build (withExtras s proxy params) = build s := by
  rw [build, build, normalize_withExtras]
  cases hn : normalize s with
  | error error => rfl
  | ok n =>
    have hsame : n.params = s.params := by
      obtain ⟨-, rfl⟩ := Settings.complete_eq_ok_iff.1 hn
      rfl
    exact congrArg Except.ok (write_withExtras n proxy fun key hkey => hsame ▸ hparams key hkey)

end

theorem eq_withExtras {s t : Settings}
    (h : { s with proxy := {}, params := .empty } = { t with proxy := {}, params := .empty }) :
    s = withExtras t s.proxy s.params := by
  obtain ⟨⟩ := s
  obtain ⟨⟩ := t
  simp only [Settings.mk.injEq] at h
  simp only [withExtras, Settings.mk.injEq]
  tauto

/-! ## The name -/

/-- What `build` gives depends on the fields without the proxy, and on the parameters under the keys of
no field, in whatever order. The query that it writes has strictly increasing keys: those of the needed
fields, with the contents of the fields, and those of these parameters. -/
theorem build_canonical :
    (∀ s t : Settings,
        { s with proxy := {}, params := .empty } = { t with proxy := {}, params := .empty } →
        (∀ key, Field.ofQueryKey? key = none → s.params.get? key = t.params.get? key) →
        build s = build t) ∧
      ∀ (s : Settings) (name : String), build s = .ok name →
        ∃ pairs : List (String × String),
          name.toList = joined (credentialsText (normalForm s)) (targetText (normalForm s))
            (['&'].intercalate (pairs.map pieceOf)) ∧
          (pairs.map Prod.fst).Pairwise (· < ·) ∧
          ∀ key value, (key, value) ∈ pairs ↔
            (∃ f : Field, f.queryKey? = some key ∧ needed (normalForm s) f = true ∧
              value = f.kind.spell ((normalForm s).get f)) ∨
            (s.params.get? key = some value ∧ Field.ofQueryKey? key = none) := by
  constructor
  · intro s t hfields hparams
    rw [eq_withExtras hfields]
    exact build_withExtras t s.proxy hparams
  · intro s name hname
    cases hn : normalize s with
    | error error =>
      rw [build, hn] at hname
      cases hname
    | ok n =>
      rw [build, hn] at hname
      cases hname
      obtain ⟨-, rfl⟩ := Settings.complete_eq_ok_iff.1 hn
      refine ⟨sortPairs (queryPairs (normalForm s)), toList_write (normalForm s), ?_, ?_⟩
      · exact List.pairwise_map.2 (sortPairs_strict (nodup_keys_queryPairs _))
      · intro key value
        exact (sortPairs_perm _).mem_iff.trans mem_queryPairs_iff

/-- Settings with a proxy, with parameters that are not sorted, and with one under the key of a field. -/
def crowdedSettings : Settings where
  account := "acc"
  user := "u"
  password := "p"
  role := "r"
  params := .ofList [("b c", "/"), ("role", "x"), ("Z", "1"), ("proxyHost", "y")]
  proxy := { host := "h", port := 8080 }

/-- What a name carries of them. -/
def plainSettings : Settings where
  account := "acc"
  user := "u"
  password := "p"
  role := "r"
  params := .ofList [("Z", "1"), ("b c", "/")]

theorem build_canonical_crowdedSettings :
    build plainSettings = .ok "u:p@acc.snowflakecomputing.com:443?Z=1&b+c=%2F&role=r" ∧
      build crowdedSettings = build plainSettings ∧
      ∃ pairs : List (String × String),
        ("u:p@acc.snowflakecomputing.com:443?Z=1&b+c=%2F&role=r").toList =
          joined (credentialsText (normalForm plainSettings)) (targetText (normalForm plainSettings))
            (['&'].intercalate (pairs.map pieceOf)) ∧
        (pairs.map Prod.fst).Pairwise (· < ·) ∧ ("role", "r") ∈ pairs := by
  have hname : build plainSettings =
      .ok "u:p@acc.snowflakecomputing.com:443?Z=1&b+c=%2F&role=r" := by decide +kernel
  refine ⟨hname, ?_, ?_⟩
  · refine build_canonical.1 crowdedSettings plainSettings rfl ?_
    intro key hkey
    have hrole : key ≠ "role" := by
      rintro rfl
      revert hkey
      decide
    have hproxy : key ≠ "proxyHost" := by
      rintro rfl
      revert hkey
      decide
    simp only [crowdedSettings, plainSettings, Table.ofList, Table.get?_insertAll]
    simp only [List.reverse_cons, List.reverse_nil, List.nil_append, List.cons_append,
      List.lookup_cons, beq_eq_false_iff_ne.2 hrole, beq_eq_false_iff_ne.2 hproxy]
    by_cases hz : key = "Z"
    · subst hz
      rfl
    · simp only [beq_eq_false_iff_ne.2 hz]
  · obtain ⟨pairs, htext, hincreasing, hpairs⟩ := build_canonical.2 plainSettings _ hname
    refine ⟨pairs, htext, hincreasing, (hpairs "role" "r").2 (.inl ⟨.role, ?_⟩)⟩
    decide +kernel

end DataSource.Name
