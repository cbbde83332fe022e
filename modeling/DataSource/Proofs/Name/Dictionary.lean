import DataSource.Proofs.Name.Query

/-!
# Dictionaries as queries

A dictionary of texts says the same as the query that has its keys as they are spelled there and its
values escaped. Entry by entry both set one field or one parameter, or both refuse a value for one
field (`agree_addEntry_setByKey`), so a whole dictionary and its query lead to the same settings or
are refused for the same value (`agree_ofEntries_applyQuery`).
-/

namespace DataSource.Name

/-! ## Keys -/

/-- The key in a query of a key in a dictionary: that of the field it names, or the key itself. -/
def queryKeyOf (key : String) : String :=
  match Field.ofName? key with
  | some f => f.queryKey?.getD key
  | none => key

/-- Whether a key can stand in a dictionary and in a query: it names a field that queries can set, or
it means no field in either of them and holds no separator of a query. -/
def Shared (key : String) : Prop :=
  match Field.ofName? key with
  | some f => f.queryKey? ≠ none
  | none => Field.ofQueryKey? key = none ∧ '&' ∉ key.toList ∧ '=' ∉ key.toList

instance (key : String) : Decidable (Shared key) := by
  unfold Shared
  split <;> exact inferInstance

example : ∀ keys ∈ [("account", "account"), ("warehouse", "warehouse"), ("database", "database"),
    ("schema", "schema"), ("role", "role"), ("region", "region"), ("protocol", "protocol"),
    ("passcode", "passcode"), ("passcode_in_password", "passcodeInPassword"),
    ("login_timeout", "loginTimeout"), ("request_timeout", "requestTimeout"),
    ("application", "application"), ("authenticator", "authenticator"),
    ("insecure_mode", "insecureMode"), ("proxy_host", "proxyHost"), ("proxy_port", "proxyPort"),
    ("proxy_user", "proxyUser"), ("proxy_password", "proxyPassword")],
    Shared keys.1 ∧ queryKeyOf keys.1 = keys.2 := by decide +kernel

theorem Shared.ofQueryKey?_queryKeyOf {key : String} (h : Shared key) :
    Field.ofQueryKey? (queryKeyOf key) = Field.ofName? key := by
  unfold Shared at h
  unfold queryKeyOf
  cases hname : Field.ofName? key with
  | some f =>
    rw [hname] at h
    obtain ⟨queryKey, hqueryKey⟩ := Option.ne_none_iff_exists'.1 h
    simp only [hqueryKey, Option.getD_some]
    exact Field.ofQueryKey?_of_queryKey? hqueryKey
  | none =>
    rw [hname] at h
    exact h.1

theorem queryKeyOf_of_ofName?_eq_none {key : String} (h : Field.ofName? key = none) :
    queryKeyOf key = key := by
  rw [queryKeyOf, h]

theorem not_mem_of_queryKey? {f : Field} {key : String} (hf : f.queryKey? = some key) :
    '&' ∉ key.toList ∧ '=' ∉ key.toList := by
  cases f <;> cases hf <;> decide

theorem Shared.not_mem_queryKeyOf {key : String} (h : Shared key) :
    '&' ∉ (queryKeyOf key).toList ∧ '=' ∉ (queryKeyOf key).toList := by
  have hfield := h.ofQueryKey?_queryKeyOf
  cases hname : Field.ofName? key with
  | some f => exact not_mem_of_queryKey? (Field.queryKey?_of_ofQueryKey? (hfield.trans hname))
  | none =>
    rw [Shared, hname] at h
    rw [queryKeyOf_of_ofName?_eq_none hname]
    exact h.2

/-! ## The query of a dictionary -/

def entryPiece (entry : String × String) : List Char :=
  (queryKeyOf entry.1).toList ++ '=' :: FormEscape.escape entry.2.toList

def dictionaryQuery (entries : List (String × String)) : List Char :=
  ['&'].intercalate (entries.map entryPiece)

theorem applyPiece_entryPiece (s : Settings) {entry : String × String} (h : Shared entry.1) :
    applyPiece s (entryPiece entry) = setByKey s (queryKeyOf entry.1) entry.2 := by
  rw [entryPiece, applyPiece_append_escape s h.not_mem_queryKeyOf.2, String.ofList_toList]

theorem not_mem_entryPiece {entry : String × String} (h : Shared entry.1) : '&' ∉ entryPiece entry := by
  have hescape : '&' ∉ FormEscape.escape entry.2.toList :=
    FormEscape.not_mem_escape entry.2.toList (by decide)
  simp [entryPiece, h.not_mem_queryKeyOf.1, hescape]

theorem applyQuery_dictionaryQuery (s : Settings) {entries : List (String × String)}
    (h : ∀ entry ∈ entries, Shared entry.1) :
    applyQuery s (dictionaryQuery entries) = applyPieces s (entries.map entryPiece) := by
  refine applyQuery_intercalate s fun piece hpiece => ?_
  obtain ⟨entry, hentry, rfl⟩ := List.mem_map.1 hpiece
  exact not_mem_entryPiece (h entry hentry)

theorem result_dictionaryQuery (s : Settings) {entries : List (String × String)}
    (h : ∀ entry ∈ entries, Shared entry.1) :
    (applyQuery s (dictionaryQuery entries)).result =
      setAll s (entries.map fun entry => (queryKeyOf entry.1, entry.2)) := by
  rw [applyQuery_dictionaryQuery s h]
  apply result_applyPieces_map
  intro entry hentry t
  exact applyPiece_entryPiece t (h entry hentry)

/-! ## Agreement -/

/-- What reading a dictionary and applying a query come to is the same: the same settings, or a
refusal of the same value for the same field, each in its own words. -/
inductive Agree : Except Error Settings → Except NameError Settings → Prop
  | ok (s : Settings) : Agree (.ok s) (.ok s)
  | refused {f : Field} {key value : String} (hkey : f.queryKey? = some key)
      (hvalue : f.kind.ofText? value = none) :
      Agree (.error (.setting f.shortName (.text value))) (.error (.parameter key value))

theorem Agree.eq_ok_iff {x : Except Error Settings} {y : Except NameError Settings} (h : Agree x y)
    {s : Settings} : x = .ok s ↔ y = .ok s := by
  cases h with
  | ok t => simp
  | refused => simp

theorem Agree.bind {x : Except Error Settings} {y : Except NameError Settings}
    {f : Settings → Except Error Settings} {g : Settings → Except NameError Settings}
    (h : Agree x y) (hfg : ∀ s, Agree (f s) (g s)) : Agree (x.bind f) (y.bind g) := by
  cases h with
  | ok s => exact hfg s
  | refused hkey hvalue => exact .refused hkey hvalue

theorem agree_addEntry_setByKey (s : Settings) {key : String} (h : Shared key) (value : String) :
    Agree (s.addEntry key (.text value)) (setByKey s (queryKeyOf key) value) := by
  have hfield := h.ofQueryKey?_queryKeyOf
  cases hname : Field.ofName? key with
  | some f =>
    rw [hname] at hfield
    simp only [Settings.addEntry, setByKey, hname, hfield, Kind.ofValue?_text]
    cases hvalue : f.kind.ofText? value with
    | some x => exact .ok (s.put f x)
    | none => exact .refused (Field.queryKey?_of_ofQueryKey? hfield) hvalue
  | none =>
    have hsame := queryKeyOf_of_ofName?_eq_none hname
    rw [hname, hsame] at hfield
    simp only [Settings.addEntry, setByKey, hname, hsame, hfield]
    exact .ok (s.putParam key value)

theorem agree_foldlM_setAll (s : Settings) {entries : List (String × String)}
    (h : ∀ entry ∈ entries, Shared entry.1) :
    Agree (entries.foldlM (fun s entry => s.addEntry entry.1 (.text entry.2)) s)
      (setAll s (entries.map fun entry => (queryKeyOf entry.1, entry.2))) := by
  induction entries generalizing s with
  | nil => exact .ok s
  | cons entry rest ih =>
    obtain ⟨hentry, hrest⟩ := List.forall_mem_cons.1 h
    rw [List.map_cons, setAll_cons]
    exact (agree_addEntry_setByKey s hentry entry.2).bind fun t => ih t hrest

theorem exists_setAll_queryKeyOf_iff (s : Settings) {entries : List (String × String)}
    (h : ∀ entry ∈ entries, Shared entry.1) :
    (∃ t, setAll s (entries.map fun entry => (queryKeyOf entry.1, entry.2)) = .ok t) ↔
      ∀ entry ∈ entries, ∀ f, Field.ofName? entry.1 = some f →
        ∃ x, f.kind.ofText? entry.2 = some x := by
  rw [exists_setAll_iff, List.forall_mem_map]
  refine forall₂_congr fun entry hentry => ?_
  rw [(h entry hentry).ofQueryKey?_queryKeyOf]

/-- A dictionary of texts and its query lead to the same settings if each value can be read for the field
of its key, and otherwise both are refused. -/
theorem agree_ofEntries_applyQuery {entries : List (String × String)}
    (h : ∀ entry ∈ entries, Shared entry.1) :
    Agree (Settings.ofEntries (entries.map fun entry => (entry.1, .text entry.2)))
        (applyQuery {} (dictionaryQuery entries)).result ∧
      ((∃ s, (applyQuery {} (dictionaryQuery entries)).result = .ok s) ↔
        ∀ entry ∈ entries, ∀ f, Field.ofName? entry.1 = some f →
          ∃ x, f.kind.ofText? entry.2 = some x) := by
  rw [result_dictionaryQuery {} h, Settings.ofEntries, List.foldlM_map]
  exact ⟨agree_foldlM_setAll {} h, exists_setAll_queryKeyOf_iff {} h⟩

theorem agree_ofEntries_applyQuery_proxyPort :
    (∀ entry ∈ [("login_timeout", "5"), ("proxy_port", "-8"), ("a b%", "x&y=z")], Shared entry.1) ∧
      dictionaryQuery [("login_timeout", "5"), ("proxy_port", "-8"), ("a b%", "x&y=z")] =
        "loginTimeout=5&proxyPort=-8&a b%=x%26y%3Dz".toList ∧
      Settings.ofEntries [("login_timeout", .text "5"), ("proxy_port", .text "-8"),
          ("a b%", .text "x&y=z")] =
        .ok { loginTimeout := ⟨5000000, by decide⟩, params := .ofList [("a b%", "x&y=z")],
              proxy := { port := -8 } } ∧
      (∀ entry ∈ [("role", "r"), ("insecure_mode", "yes")], Shared entry.1) ∧
      (applyQuery {} (dictionaryQuery [("role", "r"), ("insecure_mode", "yes")])).result =
        .error (.parameter "insecureMode" "yes") ∧
      Agree (Settings.ofEntries [("role", .text "r"), ("insecure_mode", .text "yes")])
        (.error (.parameter "insecureMode" "yes")) := by
  have hread : ∀ entry ∈ [("login_timeout", "5"), ("proxy_port", "-8"), ("a b%", "x&y=z")],
      Shared entry.1 := by decide +kernel
  have hrefused : ∀ entry ∈ [("role", "r"), ("insecure_mode", "yes")], Shared entry.1 := by
    decide +kernel
  have hquery : (applyQuery {} (dictionaryQuery [("role", "r"), ("insecure_mode", "yes")])).result =
      .error (.parameter "insecureMode" "yes") := by decide +kernel
  refine ⟨hread, by decide +kernel, ?_, hrefused, hquery, ?_⟩
  · exact (agree_ofEntries_applyQuery hread).1.eq_ok_iff.2 (by decide +kernel)
  · exact hquery ▸ (agree_ofEntries_applyQuery hrefused).1

end DataSource.Name
