import DataSource.Proofs.Name.Parsed
import DataSource.Proofs.Name.RoundTrip

/-!
# What every reading has

Each stage of reading a name adds to what its result must have. The target gives no parameters, and a
query only such as are not fields and can stand in a query (`ForeignKeys`), piece by piece; completing
the settings leaves nothing open that must not be; and whatever was read fits its field. So every name
that is read gives settings that are `Valid` (`valid_of_parse`).
-/

namespace DataSource.Name

/-! ## Parameters -/

/-- Whether no parameter has the key of a field, or a key that a query cannot hold. -/
def ForeignKeys (s : Settings) : Prop :=
  ∀ key ∈ s.params.keys, Field.ofQueryKey? key = none ∧ '&' ∉ key.toList ∧ '=' ∉ key.toList

variable {s t : Settings}

theorem ForeignKeys.of_params (hs : ForeignKeys s) (h : t.params = s.params) : ForeignKeys t := by
  intro key hkey
  rw [h] at hkey
  exact hs key hkey

theorem ForeignKeys.putParam (hs : ForeignKeys s) {key : String} (value : String)
    (hfield : Field.ofQueryKey? key = none) (hmark : '&' ∉ key.toList) (hequals : '=' ∉ key.toList) :
    ForeignKeys (s.putParam key value) := by
  intro other hother
  rw [Settings.putParam, Table.keys_insert] at hother
  split at hother
  · exact hs other hother
  · rcases List.mem_append.1 hother with hold | hnew
    · exact hs other hold
    · rw [List.mem_singleton] at hnew
      exact hnew ▸ ⟨hfield, hmark, hequals⟩

theorem foreignKeys_of_applyPiece (hs : ForeignKeys s) {piece : List Char} (hpiece : '&' ∉ piece)
    (h : applyPiece s piece = .ok t) : ForeignKeys t := by
  unfold applyPiece at h
  split at h
  · cases h
    exact hs
  · rename_i key raw hsplit
    obtain ⟨hequals, rfl⟩ := splitPiece_eq_some_iff.1 hsplit
    split at h
    · cases h
    · rcases setByKey_eq_ok_iff.1 h with ⟨hfield, rfl⟩ | ⟨f, x, -, -, rfl⟩
      · refine hs.putParam _ hfield ?_ ?_
        · rw [String.toList_ofList]
          exact fun hmem => hpiece (List.mem_append_left _ hmem)
        · rwa [String.toList_ofList]
      · exact hs.of_params (Settings.params_put s f x)

theorem foreignKeys_of_applyPieces (hs : ForeignKeys s) {pieces : List (List Char)}
    (hpieces : ∀ piece ∈ pieces, '&' ∉ piece) (h : (applyPieces s pieces).result = .ok t) :
    ForeignKeys t := by
  induction pieces generalizing s with
  | nil =>
    cases h
    exact hs
  | cons piece rest ih =>
    rw [result_applyPieces_cons] at h
    obtain ⟨u, hu, hrest⟩ := exists_of_bind_eq_ok h
    obtain ⟨hpiece, hothers⟩ := List.forall_mem_cons.1 hpieces
    exact ih (foreignKeys_of_applyPiece hs hpiece hu) hothers hrest

theorem foreignKeys_of_readQuery (hs : ForeignKeys s) {query? : Option (List Char)}
    (h : readQuery s query? = .ok t) : ForeignKeys t := by
  cases query? with
  | none =>
    cases h
    exact hs
  | some query =>
    exact foreignKeys_of_applyPieces hs (fun piece => not_mem_of_mem_queryPieces) h

theorem params_of_readTarget {text : List Char} {layout : Layout}
    (h : readTarget text layout = .ok t) : t.params = .empty := by
  unfold readTarget at h
  split at h
  · simp only at h
    split at h
    · cases h
    · cases h
      rfl
  · cases h
    rfl

theorem params_setPath (s : Settings) (text : List Char) (layout : Layout) :
    (setPath s text layout).params = s.params := by
  unfold setPath
  repeat' split
  all_goals rfl

theorem params_of_unescapeNames (h : unescapeNames s = .ok t) : t.params = s.params := by
  obtain ⟨database, schema, role, warehouse, -, -, -, -, rfl⟩ := unescapeNames_eq_ok_iff.1 h
  rfl

theorem foreignKeys_of_parse {name : String} (h : parse name = .ok s) : ForeignKeys s := by
  obtain ⟨t, u, htarget, hquery, -, hnames⟩ := exists_stages h
  have ht : ForeignKeys t := by
    intro key hkey
    rw [params_of_readTarget htarget] at hkey
    cases hkey
  refine (foreignKeys_of_readQuery ht hquery).of_params ?_
  calc
    s.params = (setAccount (setPath u name.toList (Layout.locate name.toList))).params :=
      (params_of_unescapeNames hnames).trans (Settings.params_fill _)
    _ = u.params := (params_setAccount _).trans (params_setPath u _ _)

/-! ## Settings that were read -/

/-- What a connection can rely on: whatever it needs is there, numbers have 64 bits, the times are
seconds that a duration can have, and the parameters are none of the fields. -/
structure Valid (s : Settings) : Prop where
  account_ne : s.account ≠ ""
  user_ne : s.user ≠ ""
  password_ne : s.password ≠ ""
  protocol_ne : s.protocol ≠ ""
  authenticator_ne : s.authenticator ≠ ""
  application_ne : s.application ≠ ""
  user_colon : ':' ∉ s.user.toList
  port_ne : s.port ≠ 0
  port_fits : -2 ^ 63 ≤ s.port ∧ s.port ≤ 2 ^ 63 - 1
  proxyPort_fits : -2 ^ 63 ≤ s.proxy.port ∧ s.proxy.port ≤ 2 ^ 63 - 1
  loginTimeout_ne : s.loginTimeout ≠ .zero
  loginTimeout_whole : ∃ seconds : Int, s.loginTimeout.micros = seconds * 1000000 ∧
    -86399999913600 ≤ seconds ∧ seconds ≤ 86399999999999
  requestTimeout_whole : ∃ seconds : Int, s.requestTimeout.micros = seconds * 1000000 ∧
    -86399999913600 ≤ seconds ∧ seconds ≤ 86399999999999
  params_keys : ∀ key ∈ s.params.keys,
    Field.ofQueryKey? key = none ∧ '&' ∉ key.toList ∧ '=' ∉ key.toList

/-- Every name that is read gives valid settings. -/
theorem valid_of_parse {name : String} (h : parse name = .ok s) : Valid s := by
  obtain ⟨hport, hproxy, hlogin, hrequest⟩ := Settings.bounded_iff.1 (bounded_of_parse h)
  obtain ⟨-, -, -, hcolon⟩ := credentials_of_parse h
  have hforeign := foreignKeys_of_parse h
  obtain ⟨t, u, -, -, hmissing, hnames⟩ := exists_stages h
  generalize setAccount (setPath u name.toList (Layout.locate name.toList)) = v at hmissing hnames
  obtain ⟨haccount, huser, hpassword⟩ := Settings.missing?_eq_none_iff.1 hmissing
  -- The last stage keeps the fields below as they were filled in.
  obtain ⟨database, schema, role, warehouse, -, -, -, -, rfl⟩ := unescapeNames_eq_ok_iff.1 hnames
  exact
    { account_ne := haccount
      user_ne := huser
      password_ne := hpassword
      protocol_ne := Settings.filled_ne v.protocol (by decide)
      authenticator_ne := Settings.filled_ne v.authenticator (by decide)
      application_ne := Settings.filled_ne v.application (by decide)
      user_colon := hcolon
      port_ne := port_fill_ne_zero v
      port_fits := hport
      proxyPort_fits := hproxy
      loginTimeout_ne := Settings.filled_ne v.loginTimeout (by decide)
      loginTimeout_whole := hlogin.exists_seconds
      requestTimeout_whole := hrequest.exists_seconds
      params_keys := hforeign }

theorem valid_of_parse_zeros :
    ∃ s, parse
          "u@?:p:/@acc.snowflakecomputing.com:0/?account=&protocol=&loginTimeout=0&proxyPort=-1&a?b=1" =
        .ok s ∧
      s.account = "acc" ∧ s.port = 443 ∧ s.loginTimeout = .minute ∧ s.params.keys = ["a?b"] ∧
      Valid s := by
  obtain ⟨s, hs, haccount, hport, hlogin, hkeys⟩ : ∃ s, parse
        "u@?:p:/@acc.snowflakecomputing.com:0/?account=&protocol=&loginTimeout=0&proxyPort=-1&a?b=1" =
      .ok s ∧
      s.account = "acc" ∧ s.port = 443 ∧ s.loginTimeout = .minute ∧ s.params.keys = ["a?b"] := by
    decide +kernel
  exact ⟨s, hs, haccount, hport, hlogin, hkeys, valid_of_parse hs⟩

end DataSource.Name
