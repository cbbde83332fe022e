import DataSource.Proofs.Connections
import Mathlib.Data.List.Infix

/-!
# Settings of the environment

Each variable of a connection is a setting under the key that its name has behind the beginning of the
connection's variables, in lower case; so variables that differ in case only set one key. `overrides` lists
these settings in the order of the environment. Where the beginning does not stand in a name twice, `merge`
is the table of the file with the overrides put to it (`merge_eq`): the last variable of a key counts, then
the file, and new keys come behind those of the file (`merge_overrides`). What the file has under a key that is
overridden does not matter, whether it is valid or not.
-/

namespace DataSource.Connections

variable {env : Environment} {name varName key : String}

/-! ## The key of a variable -/

/-- The key that a variable has for a connection, if it is one of its variables. -/
def overrideKey? (name varName : String) : Option String :=
  (varName.toList.dropPrefix? (variableStart name).toList).map fun rest =>
    Text.lower (String.ofList rest)

theorem overrideKey?_eq_some_iff :
    overrideKey? name varName = some key ↔
      ∃ rest, varName = variableStart name ++ rest ∧ Text.lower rest = key := by
  simp only [overrideKey?, Option.map_eq_some_iff, List.dropPrefix?_eq_some_iff, beq_iff_eq,
    exists_eq_right]
  constructor
  · rintro ⟨rest, hrest, hkey⟩
    exact ⟨String.ofList rest, String.toList_injective (by simpa using hrest), hkey⟩
  · rintro ⟨rest, rfl, hkey⟩
    exact ⟨rest.toList, String.toList_append, by rwa [String.ofList_toList]⟩

theorem overrideKey?_eq_none_iff :
    overrideKey? name varName = none ↔ ¬(variableStart name).toList <+: varName.toList := by
  rw [Option.eq_none_iff_forall_ne_some]
  constructor
  · rintro hnone ⟨rest, hrest⟩
    refine hnone (Text.lower (String.ofList rest)) (overrideKey?_eq_some_iff.2 ⟨String.ofList rest, ?_, rfl⟩)
    exact String.toList_injective (by simpa using hrest.symm)
  · intro hstart key hkey
    obtain ⟨rest, rfl, -⟩ := overrideKey?_eq_some_iff.1 hkey
    refine hstart ?_
    rw [String.toList_append]
    exact List.prefix_append _ _

/-- The beginning that makes a variable one of the connection does not stand in the name of the variable a
second time. -/
def Once (env : Environment) (name : String) : Prop :=
  ∀ varName ∈ env.keys, ∀ rest, varName = variableStart name ++ rest →
    ¬(variableStart name).toList <:+: rest.toList

theorem once_of_length_lt
    (h : ∀ varName ∈ env.keys, varName.length < (variableStart name).length + (variableStart name).length) :
    Once env name := by
  intro varName hmem rest hname hagain
  have hshort := h varName hmem
  have hlong := hagain.length_le
  rw [String.length_toList, String.length_toList] at hlong
  rw [hname, String.length_append] at hshort
  omega

section

variable {part text : List Char}

theorem eraseAll_eq_self (h : ¬part <:+: text) : eraseAll part 0 text = text := by
  induction text with
  | nil => rfl
  | cons c rest ih =>
    have hstart : part.isPrefixOf (c :: rest) = false := by
      rw [← Bool.not_eq_true, List.isPrefixOf_iff_prefix]
      exact fun hstart => h hstart.isInfix
    rw [eraseAll, hstart, if_neg Bool.false_ne_true, ih fun hrest => h (List.infix_cons hrest)]

theorem eraseAll_append (first rest : List Char) :
    eraseAll part first.length (first ++ rest) = eraseAll part 0 rest := by
  induction first with
  | nil => rfl
  | cons c first ih => exact ih

theorem eraseAll_part_append (hpart : part ≠ []) (h : ¬part <:+: text) :
    eraseAll part 0 (part ++ text) = text := by
  obtain ⟨c, rest, rfl⟩ := List.exists_cons_of_ne_nil hpart
  have hstart : (c :: rest).isPrefixOf (c :: (rest ++ text)) = true :=
    List.isPrefixOf_iff_prefix.2 (List.prefix_append (c :: rest) text)
  rw [List.cons_append, eraseAll, if_pos hstart]
  exact (eraseAll_append rest text).trans (eraseAll_eq_self h)

end

theorem variableStart_ne_nil (name : String) : (variableStart name).toList ≠ [] := by
  unfold variableStart
  generalize "SNOWFLAKE_CONNECTIONS_" ++ Text.upper name = front
  simp

theorem variableKey_append {rest : String} (h : ¬(variableStart name).toList <:+: rest.toList) :
    variableKey (variableStart name) (variableStart name ++ rest) = Text.lower rest := by
  have herased := eraseAll_part_append (variableStart_ne_nil name) h
  rw [variableKey, String.toList_append, herased, String.ofList_toList]

/-! ## The overrides -/

/-- The settings of a connection in the environment, in its order. -/
def overrides (env : Environment) (name : String) : List (String × String) :=
  env.entries.filterMap fun (varName, value) => (overrideKey? name varName).map fun key => (key, value)

def overrideKeys (env : Environment) (name : String) : List String := (overrides env name).map Prod.fst

/-- The table of a connection in a file; it is empty if the file has none. -/
def fileTable (tables : Table (List (String × Value))) (name : String) : Table Value :=
  Table.ofList ((tables.get? name).getD [])

/-- The table of a file with the overrides put to it. -/
def overridden (tables : Table (List (String × Value))) (env : Environment) (name : String) : Table Value :=
  (fileTable tables name).insertAll
    ((Table.ofList (overrides env name)).map fun _ value => .text value).entries

/-- A variable of a connection has the key that erasing the beginning from its name leaves. -/
theorem overrideKey?_eq (honce : Once env name) (hmem : varName ∈ env.keys) :
    overrideKey? name varName =
      if (variableStart name).toList.isPrefixOf varName.toList then
        some (variableKey (variableStart name) varName)
      else none := by
  by_cases hown : (variableStart name).toList <+: varName.toList
  · rw [if_pos (List.isPrefixOf_iff_prefix.2 hown)]
    obtain ⟨rest, hrest⟩ := hown
    have hname : varName = variableStart name ++ String.ofList rest :=
      String.toList_injective (by rw [String.toList_append, String.toList_ofList, hrest])
    have hkey := variableKey_append (honce varName hmem _ hname)
    rw [← hname] at hkey
    exact overrideKey?_eq_some_iff.2 ⟨_, hname, hkey.symm⟩
  · rw [if_neg (by rwa [List.isPrefixOf_iff_prefix])]
    exact overrideKey?_eq_none_iff.2 hown

theorem fromEnvironment_eq (honce : Once env name) :
    fromEnvironment env name = Table.ofList (overrides env name) := by
  rw [fromEnvironment, ← List.filterMap_eq_map, List.filterMap_filter, overrides]
  refine congrArg Table.ofList (List.filterMap_congr fun entry hentry => ?_)
  have hmem : entry.1 ∈ env.keys := List.mem_map_of_mem hentry
  simp only [overrideKey?_eq honce hmem]
  split <;> rfl

theorem merge_eq (tables : Table (List (String × Value))) (honce : Once env name) :
    merge tables env name =
      if tables.get? name = none ∧ overrides env name = [] then .error (.notConfigured name)
      else .ok (overridden tables env name) := by
  rw [overridden, fileTable, ← fromEnvironment_eq honce]
  cases htable : tables.get? name with
  | none =>
    have hempty : (fromEnvironment env name).isEmpty = true ↔ overrides env name = [] := by
      rw [fromEnvironment_eq honce, Table.isEmpty_ofList_iff]
    rw [merge_of_get?_eq_none env htable]
    simp only [hempty, true_and]
    split
    · rfl
    · exact congrArg Except.ok (Table.ofList_entries _).symm
  | some entries =>
    rw [if_neg (fun h => Option.some_ne_none entries h.1), merge, htable]
    rfl

theorem overrides_eq_nil_iff :
    overrides env name = [] ↔ ∀ varName ∈ env.keys, ¬(variableStart name).toList <+: varName.toList := by
  rw [overrides, List.filterMap_eq_nil_iff, Table.keys, List.forall_mem_map]
  refine forall₂_congr fun entry _ => ?_
  rw [Option.map_eq_none_iff, overrideKey?_eq_none_iff]

section

variable {tables tables' : Table (List (String × Value))} {value : String}

theorem get?_overridden_of_lastUnder (h : Table.LastUnder (overrides env name) key value) :
    (overridden tables env name).get? key = some (.text value) := by
  rw [overridden, Table.get?_insertAll_entries, Table.get?_map, Table.get?_ofList,
    Table.lookup_reverse_eq_some_iff.2 h]
  rfl

theorem get?_overridden_of_not_mem (h : key ∉ overrideKeys env name) :
    (overridden tables env name).get? key = (fileTable tables name).get? key := by
  rw [overridden, Table.get?_insertAll_entries, Table.get?_map, Table.get?_ofList,
    Table.lookup_reverse_eq_none_iff.2 h]
  rfl

theorem keys_overridden :
    (overridden tables env name).keys = (fileTable tables name).keys ++
      (overrideKeys env name).eraseDups.filter (· ∉ (fileTable tables name).keys) := by
  rw [overridden, Table.keys_insertAll_entries, Table.keys_map, Table.keys_ofList]
  rfl

theorem overridden_congr (hkeys : (fileTable tables name).keys = (fileTable tables' name).keys)
    (hget : ∀ key, key ∉ overrideKeys env name →
      (fileTable tables name).get? key = (fileTable tables' name).get? key) :
    overridden tables env name = overridden tables' env name := by
  refine Table.ext_get? (by rw [keys_overridden, keys_overridden, hkeys]) fun key => ?_
  by_cases hkey : key ∈ overrideKeys env name
  · obtain ⟨value, hvalue⟩ := Table.exists_lastUnder_iff.2 hkey
    rw [get?_overridden_of_lastUnder hvalue, get?_overridden_of_lastUnder hvalue]
  · rw [get?_overridden_of_not_mem hkey, get?_overridden_of_not_mem hkey, hget key hkey]

/-! ## The settings of a connection -/

theorem merge_eq_ok_iff {t : Table Value} (honce : Once env name) :
    merge tables env name = .ok t ↔
      ¬(tables.get? name = none ∧ overrides env name = []) ∧ t = overridden tables env name := by
  rw [merge_eq tables honce]
  by_cases hmissing : tables.get? name = none ∧ overrides env name = []
  · rw [if_pos hmissing]
    exact iff_of_false nofun fun h => h.1 hmissing
  · rw [if_neg hmissing, Except.ok.injEq, eq_comm]
    exact (and_iff_right hmissing).symm

theorem merge_eq_error_iff {error : Error} (honce : Once env name) :
    merge tables env name = .error error ↔
      (tables.get? name = none ∧ overrides env name = []) ∧ error = .notConfigured name := by
  rw [merge_eq tables honce]
  by_cases hmissing : tables.get? name = none ∧ overrides env name = []
  · rw [if_pos hmissing, Except.error.injEq, eq_comm]
    exact (and_iff_right hmissing).symm
  · rw [if_neg hmissing]
    exact iff_of_false nofun fun h => hmissing h.1

theorem settings_of_load {file : ConnectionsFile} (hload : load file = .ok tables) :
    settings file env name = (merge tables env name).bind fun t => Settings.ofEntries t.entries := by
  rw [settings, lookup, hload]
  rfl

end

/-- The table of a connection. It is missing if neither the file nor the environment have it. A key has the
value of the last variable that sets it, and of the file if none does; the keys of the file come first, then
the new ones of the environment. Files that differ under overridden keys only give the same settings. -/
theorem merge_overrides (tables : Table (List (String × Value))) (honce : Once env name) :
    (merge tables env name = .error (.notConfigured name) ↔
      tables.get? name = none ∧
        ∀ varName ∈ env.keys, ¬(variableStart name).toList <+: varName.toList) ∧
    (∀ error, merge tables env name = .error error → error = .notConfigured name) ∧
    (∀ t, merge tables env name = .ok t →
      (∀ key value, Table.LastUnder (overrides env name) key value → t.get? key = some (.text value)) ∧
      (∀ key, key ∉ overrideKeys env name →
        t.get? key = (fileTable tables name).get? key) ∧
      t.keys = (fileTable tables name).keys ++
        (overrideKeys env name).eraseDups.filter (· ∉ (fileTable tables name).keys)) ∧
    ∀ file file' tables', load file = .ok tables → load file' = .ok tables' →
      (tables.get? name).isSome = (tables'.get? name).isSome →
      (fileTable tables name).keys = (fileTable tables' name).keys →
      (∀ key, key ∉ overrideKeys env name →
        (fileTable tables name).get? key = (fileTable tables' name).get? key) →
      settings file env name = settings file' env name := by
  refine ⟨?_, fun error herror => ((merge_eq_error_iff honce).1 herror).2, fun t ht => ?_, ?_⟩
  · rw [merge_eq_error_iff honce, overrides_eq_nil_iff]
    exact and_iff_left rfl
  · obtain ⟨-, rfl⟩ := (merge_eq_ok_iff honce).1 ht
    exact ⟨fun _ _ => get?_overridden_of_lastUnder, fun _ => get?_overridden_of_not_mem, keys_overridden⟩
  · intro file file' tables' hload hload' hboth hkeys hget
    have hnone : tables.get? name = none ↔ tables'.get? name = none := by
      rw [← Option.isNone_iff_eq_none, ← Option.isNone_iff_eq_none, ← Option.not_isSome,
        ← Option.not_isSome, hboth]
    have hmerge : merge tables env name = merge tables' env name := by
      rw [merge_eq tables honce, merge_eq tables' honce, overridden_congr hkeys hget]
      simp only [hnone]
    rw [settings_of_load hload, settings_of_load hload', hmerge]

/-- A file with a connection that has nothing but a text for its timeout. -/
def devFile (timeout : String) : ConnectionsFile :=
  ⟨"connections.toml", some ("[dev]\nlogin_timeout = \"" ++ timeout ++ "\"\n")⟩

/-- Variables of the connection, two of them for one key, and one that is none of its own. -/
def devVariables : Environment :=
  Table.ofList [("SNOWFLAKE_CONNECTIONS_DEV_ROLE", "reader"), ("HOME", "/root"),
    ("SNOWFLAKE_CONNECTIONS_DEV_LOGIN_TIMEOUT", "15"), ("SNOWFLAKE_CONNECTIONS_DEV_Role", "writer")]

theorem overrides_devVariables : overrides devVariables "dev" =
    [("role", "reader"), ("login_timeout", "15"), ("role", "writer")] := by
  decide +kernel

theorem merge_overrides_dev :
    (∃ tables t, load (devFile "soon") = .ok tables ∧ merge tables devVariables "dev" = .ok t ∧
      t.get? "role" = some (.text "writer") ∧ t.keys = ["login_timeout", "role"]) ∧
    (∃ s, settings (devFile "soon") devVariables "dev" = .ok s ∧ s.loginTimeout.micros = 15000000) ∧
    settings (devFile "soon") devVariables "dev" = settings (devFile "later") devVariables "dev" := by
  obtain ⟨tables, hload, hthere, hfileKeys⟩ : ∃ tables, load (devFile "soon") = .ok tables ∧
      (tables.get? "dev").isSome = true ∧ (fileTable tables "dev").keys = ["login_timeout"] := by
    decide +kernel
  obtain ⟨tables', hload', hthere', hfileKeys'⟩ : ∃ tables, load (devFile "later") = .ok tables ∧
      (tables.get? "dev").isSome = true ∧ (fileTable tables "dev").keys = ["login_timeout"] := by
    decide +kernel
  have honce : Once devVariables "dev" := once_of_length_lt (by decide +kernel)
  have hoverrideKeys : overrideKeys devVariables "dev" = ["role", "login_timeout", "role"] :=
    congrArg (List.map Prod.fst) overrides_devVariables
  obtain ⟨-, -, hok, hsettings⟩ := merge_overrides tables honce
  have hmerge : merge tables devVariables "dev" = .ok (overridden tables devVariables "dev") :=
    (merge_eq_ok_iff honce).2 ⟨fun h => by simp [h.1] at hthere, rfl⟩
  obtain ⟨hlast, -, hkeys⟩ := hok _ hmerge
  rw [overrides_devVariables] at hlast
  rw [hoverrideKeys] at hkeys hsettings
  refine ⟨⟨tables, _, hload, hmerge, hlast "role" "writer" ?_, ?_⟩, by decide +kernel, ?_⟩
  · exact ⟨[("role", "reader"), ("login_timeout", "15")], [], rfl, by decide⟩
  · rw [hkeys, hfileKeys]
    decide
  · refine hsettings _ _ tables' hload hload' (hthere.trans hthere'.symm)
      (hfileKeys.trans hfileKeys'.symm) fun key hkey => ?_
    have hother : key ∉ ["login_timeout"] := by
      rintro hmem
      exact hkey (by simp [List.mem_singleton.1 hmem])
    rw [Table.get?_eq_none_iff.2 (hfileKeys ▸ hother), Table.get?_eq_none_iff.2 (hfileKeys' ▸ hother)]

end DataSource.Connections
