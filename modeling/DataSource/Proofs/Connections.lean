import DataSource.Connections
import DataSource.Proofs.Name.Stages
import DataSource.Proofs.Table

/-!
# Variables of other connections

The name of a variable begins with the beginning of its connection, and the key follows; the connection
and the key may both have underscores. A variable that is added for one connection does nothing to
another one if its name does not have the other's beginning (`merge_insert_of_outside`). Connections that
are named differently meet in a variable in two ways only: one is named like the other with an underscore
and more behind it, and that is the connection of the variable or stands at the beginning of its key
(`variableStart_prefix_iff`). Such a variable is a setting of both (`merge_insert_iff`).
-/

namespace DataSource.Connections

variable {name other : String}

/-! ## Variables that do not belong to a connection -/

theorem fromEnvironment_insert_of_outside (env : Environment) {varName : String} (value : String)
    (houtside : ¬(variableStart name).toList <+: varName.toList) :
    fromEnvironment (env.insert varName value) name = fromEnvironment env name := by
  have hother : (variableStart name).toList.isPrefixOf varName.toList = false := by
    rw [← Bool.not_eq_true, List.isPrefixOf_iff_prefix]
    exact houtside
  have hfilter := Table.filter_put_of_eq_false
    (p := fun varName => (variableStart name).toList.isPrefixOf varName.toList) value env.entries hother
  exact congrArg (fun entries => Table.ofList (entries.map fun entry =>
    (variableKey (variableStart name) entry.1, entry.2))) hfilter

theorem merge_insert_of_outside (tables : Table (List (String × Value))) (env : Environment)
    {varName : String} (value : String)
    (houtside : ¬(variableStart name).toList <+: varName.toList) :
    merge tables (env.insert varName value) name = merge tables env name := by
  rw [merge, merge, fromEnvironment_insert_of_outside env value houtside]

/-! ## Variables that do -/

theorem merge_of_get?_eq_none {tables : Table (List (String × Value))} (env : Environment)
    (hname : tables.get? name = none) :
    merge tables env name =
      if (fromEnvironment env name).isEmpty = true then .error (.notConfigured name)
      else .ok ((fromEnvironment env name).map fun _ value => .text value) := by
  simp only [merge, hname]

theorem isEmpty_fromEnvironment_empty (name : String) :
    (fromEnvironment .empty name).isEmpty = true := by
  simp [fromEnvironment, Table.empty, Table.ofList, Table.insertAll, Table.isEmpty]

theorem isEmpty_fromEnvironment_singleton {varName : String} (value : String)
    (hown : (variableStart name).toList <+: varName.toList) :
    (fromEnvironment (Table.empty.insert varName value) name).isEmpty = false := by
  have hfilter : (variableStart name).toList.isPrefixOf varName.toList = true :=
    List.isPrefixOf_iff_prefix.2 hown
  simp [fromEnvironment, Table.empty, Table.insert, Table.put, hfilter, Table.ofList, Table.insertAll,
    Table.isEmpty]

theorem merge_insert_empty_ne {varName : String} (value : String)
    (hown : (variableStart name).toList <+: varName.toList) :
    merge .empty (Table.empty.insert varName value) name ≠ merge .empty .empty name := by
  have hname : (Table.empty : Table (List (String × Value))).get? name = none := rfl
  rw [merge_of_get?_eq_none _ hname, merge_of_get?_eq_none _ hname,
    isEmpty_fromEnvironment_singleton value hown, isEmpty_fromEnvironment_empty, if_neg (by decide),
    if_pos rfl]
  intro hsame
  cases hsame

/-! ## Names that meet -/

/-- An underscore behind a text and one behind another text are at the same place or at different
ones, and then one of the texts reaches over the underscore behind the other. -/
theorem prefix_underscore_iff {first second : String} (hne : first ≠ second) (key : String) :
    (first ++ "_").toList <+: (second ++ "_" ++ key).toList ↔
      (first ++ "_").toList <+: second.toList ∨
        ∃ rest, first = second ++ "_" ++ rest ∧ (rest ++ "_").toList <+: key.toList := by
  have hmark : "_".toList = ['_'] := rfl
  simp only [String.toList_append, List.append_assoc, hmark, List.singleton_append]
  constructor
  · rintro ⟨tail, h⟩
    rw [List.append_assoc, List.singleton_append] at h
    rcases List.append_eq_append_iff.1 h with ⟨c, hsecond, hc⟩ | ⟨c, hfirst, hc⟩
    · rcases c with _ | ⟨d, c⟩
      · rw [List.append_nil, String.toList_inj] at hsecond
        exact absurd hsecond.symm hne
      · obtain ⟨rfl, -⟩ := List.cons.inj hc
        exact .inl ⟨c, by simp [hsecond]⟩
    · rcases c with _ | ⟨d, c⟩
      · rw [List.append_nil, String.toList_inj] at hfirst
        exact absurd hfirst hne
      · obtain ⟨rfl, hkey⟩ := List.cons.inj hc
        refine .inr ⟨String.ofList c, ?_, tail, by simp [hkey]⟩
        rw [← String.toList_inj, hfirst]
        simp
  · rintro (h | ⟨rest, rfl, tail, htail⟩)
    · exact h.trans (List.prefix_append second.toList _)
    · exact ⟨tail, by simp [← htail]⟩

theorem prefix_append_left_iff (first second third : String) :
    (first ++ second).toList <+: (first ++ third).toList ↔ second.toList <+: third.toList := by
  rw [String.toList_append, String.toList_append, List.prefix_append_right_inj]

theorem variableStart_prefix_iff (name other key : String) :
    (variableStart name).toList <+: (variableStart other ++ key).toList ↔
      (Text.upper name ++ "_").toList <+: (Text.upper other ++ "_" ++ key).toList := by
  unfold variableStart
  generalize Text.upper name = first
  generalize Text.upper other = second
  simp only [String.append_assoc]
  exact prefix_append_left_iff _ _ _

/-- A variable that is added for one connection never changes what another one is, if and only if its
name does not have the other's beginning: the other is not named by a part of the first that ends before
an underscore, and if it is named like the first with an underscore and more, the key does not go on with
that. -/
theorem merge_insert_iff (hne : Text.upper name ≠ Text.upper other) (key : String) :
    (∀ tables env value,
        merge tables (env.insert (variableStart other ++ key) value) name = merge tables env name) ↔
      ¬(Text.upper name ++ "_").toList <+: (Text.upper other).toList ∧
        ∀ rest, Text.upper name = Text.upper other ++ "_" ++ rest →
          ¬(rest ++ "_").toList <+: key.toList := by
  have houtside : (¬(variableStart name).toList <+: (variableStart other ++ key).toList) ↔
      ¬(Text.upper name ++ "_").toList <+: (Text.upper other).toList ∧
        ∀ rest, Text.upper name = Text.upper other ++ "_" ++ rest →
          ¬(rest ++ "_").toList <+: key.toList := by
    rw [variableStart_prefix_iff, prefix_underscore_iff hne]
    push Not
    rfl
  rw [← houtside]
  constructor
  · intro hsame hown
    exact merge_insert_empty_ne "" hown (hsame .empty .empty "")
  · intro hother tables env value
    exact merge_insert_of_outside tables env value hother

theorem merge_insert_dev_role :
    Text.upper "dev_eu" ≠ Text.upper "dev" ∧
      ∀ tables env value,
        merge tables (env.insert "SNOWFLAKE_CONNECTIONS_DEV_ROLE" value) "dev_eu" =
          merge tables env "dev_eu" := by
  have hne : Text.upper "dev_eu" ≠ Text.upper "dev" := by decide +kernel
  have hname : variableStart "dev" ++ "ROLE" = "SNOWFLAKE_CONNECTIONS_DEV_ROLE" := by decide +kernel
  have hother : Text.upper "dev_eu" = Text.upper "dev" ++ "_" ++ "EU" := by decide +kernel
  rw [← hname]
  refine ⟨hne, (merge_insert_iff hne "ROLE").2 ⟨by decide +kernel, fun rest hrest => ?_⟩⟩
  rw [hother, String.append_right_inj] at hrest
  rw [← hrest]
  decide

/-- A variable for the account of `dev_eu` is a setting of `dev` too, and one for the key `EU_ACCOUNT` of
`dev` is a setting of `dev_eu`; each makes a connection of what was none. -/
theorem merge_insert_dev_account :
    Text.upper "dev" ≠ Text.upper "dev_eu" ∧
      (∃ t, merge .empty (Table.empty.insert (variableStart "dev_eu" ++ "ACCOUNT") "acme") "dev" = .ok t ∧
        (t.get? "eu_account").map Value.toText = some "acme") ∧
      merge .empty .empty "dev" = .error (.notConfigured "dev") ∧
      (∃ t, merge .empty (Table.empty.insert (variableStart "dev" ++ "EU_ACCOUNT") "acme") "dev_eu" = .ok t ∧
        (t.get? "account").map Value.toText = some "acme") ∧
      merge .empty .empty "dev_eu" = .error (.notConfigured "dev_eu") := by
  have hnone (name : String) : merge .empty .empty name = .error (.notConfigured name) := by
    rw [merge_of_get?_eq_none _ rfl, if_pos (isEmpty_fromEnvironment_empty name)]
  exact ⟨by decide +kernel, by decide +kernel, hnone "dev", by decide +kernel, hnone "dev_eu"⟩

end DataSource.Connections
