import DataSource.Proofs.Name.DerivedHost
import DataSource.Proofs.Name.Region

/-!
# Names of an account

A name may have an account for its target, with its region behind a dot. Reading it gives the normal
form of the settings of that account (`parse_account`). These settings are written with a host and a
port, and with the account in the query if the host does not tell it, and that name reads as their
normal form too (`reparse_account`). So the short name and the name that is built mean the same
(`parse_account_eq_reparse`).
-/

namespace DataSource.Name

variable {account user password : String}

/-! ## The region of an account -/

theorem splitRegion_nil_suffix (account : List Char) : (splitRegion account []).1 <:+ account := by
  unfold splitRegion
  split
  · exact List.nil_suffix
  · split
    · exact List.nil_suffix
    · exact List.drop_suffix _ account

/-! ## The settings of an account -/

theorem toList_derivedHost_account (account user password : String) :
    (derivedHost { account, user, password }).toList = account.toList ++ dottedDomain.toList :=
  toList_derivedHost { account, user, password }

theorem region_withTarget_account (account user password : String) :
    (withTarget { account, user, password }).region.toList <:+ account.toList := by
  show (String.ofList (splitRegion account.toList "".toList).1).toList <:+ account.toList
  rw [String.toList_ofList]
  exact splitRegion_nil_suffix account.toList

section

variable (haccount : account ≠ "") (hdomain : ¬domain.toList <:+: account.toList)

include haccount hdomain

theorem host_normalForm_account :
    (normalForm { account, user, password }).host = account ++ dottedDomain := by
  have hdotted : ¬dottedDomain.toList <:+: account.toList := mt infix_dottedDomain hdomain
  exact host_fill_eq_self (s := withTarget { account, user, password })
    (toList_derivedHost_account account user password) (by simpa using haccount) hdotted
    (region_withTarget_account account user password)

theorem host_fill_normalForm_account :
    (normalForm { account, user, password }).fill.host =
      (normalForm { account, user, password }).host := by
  have hdotted : ¬dottedDomain.toList <:+: account.toList := mt infix_dottedDomain hdomain
  rw [host_normalForm_account haccount hdomain]
  exact host_fill_normalForm_of_suffix rfl (toList_derivedHost_account account user password)
    (by simpa using haccount) hdotted (region_withTarget_account account user password)

theorem fill_normalForm_account :
    (normalForm { account, user, password }).fill = normalForm { account, user, password } :=
  Settings.fill_fill (s := withTarget { account, user, password })
    (host_fill_normalForm_account haccount hdomain)

end

theorem ofTarget_ofHost_account (user password : String) (hdomain : ¬domain.toList <:+: account.toList) :
    ofTarget user.toList password.toList (Target.ofHost account.toList 0) =
      { withTarget { account, user, password } with port := defaultPort } := by
  have hhost : String.ofList (account.toList ++ dottedDomain.toList) =
      derivedHost { account, user, password } := by
    rw [← String.toList_inj, String.toList_ofList, toList_derivedHost_account]
  rw [ofHost_outside_domain hdomain]
  simp only [ofTarget, String.ofList_toList, hhost]
  rfl

/-! ## The two names -/

section

variable (hnonempty : account ≠ "" ∧ user ≠ "" ∧ password ≠ "")
  (huser : ':' ∉ user.toList ∧ '/' ∉ user.toList) (hpassword : '/' ∉ password.toList)
  (haccount : SeparatorFree account.toList) (hdomain : ¬domain.toList <:+: account.toList)

include hnonempty huser hpassword haccount hdomain

theorem parse_account :
    parse (user ++ ":" ++ password ++ "@" ++ account) =
      .ok (normalForm { account, user, password }) := by
  have hname : user ++ ":" ++ password ++ "@" ++ account =
      String.ofList (joined (user.toList ++ ':' :: password.toList) account.toList []) := by
    rw [← String.toList_inj, String.toList_ofList]
    simp [joined, querySuffix]
  have hmissing : (withTarget { account, user, password }).missing? = none :=
    missing?_withTarget (Settings.missing?_eq_none_iff.2 hnonempty)
  have hset : setAccount { withTarget { account, user, password } with port := defaultPort } =
      { withTarget { account, user, password } with port := defaultPort } :=
    setAccount_of_account_ne _ (Settings.missing?_eq_none_iff.1 hmissing).1
  have hcomplete : Settings.complete
      { withTarget { account, user, password } with port := defaultPort } =
      .ok (normalForm { account, user, password }) :=
    Settings.complete_eq_ok_iff.2 ⟨hmissing, rfl⟩
  have hnames : unescapeNames (normalForm { account, user, password }) =
      .ok (normalForm { account, user, password }) :=
    unescapeNames_eq_ok_iff.2 ⟨"", "", "", "", rfl, rfl, rfl, rfl, rfl⟩
  rw [hname, parse_joined_account huser hpassword haccount (by simp),
    ofTarget_ofHost_account user password hdomain]
  show (setAccount _).complete.bind unescapeNames = _
  rw [hset, hcomplete]
  exact hnames

theorem reparse_account :
    reparse { account, user, password } = .ok (normalForm { account, user, password }) := by
  have hmissing : Settings.missing? { account, user, password } = none :=
    Settings.missing?_eq_none_iff.2 hnonempty
  have hopen : SeparatorFree "".toList := by decide
  have hhost : SeparatorFree (normalForm { account, user, password }).host.toList :=
    separatorFree_host_normalForm rfl haccount hopen
  have hport : Kind.integer.Fits 0 := ⟨by decide, by decide⟩
  have hwhole : Duration.zero.IsWhole := by decide
  have hn := writable_normalForm (s := { account, user, password }) hmissing huser hpassword hhost
    (Settings.fits_port_fill hport) hwhole hwhole
  obtain ⟨params, hparams, hparse⟩ := parse_write_normalForm hn
  have hnone : params = .empty := Table.eq_empty_of_get? hparams
  have hnames : unescapeNames { account, user, password } = .ok { account, user, password } :=
    unescapeNames_eq_ok_iff.2 ⟨"", "", "", "", rfl, rfl, rfl, rfl, rfl⟩
  rw [reparse_eq hmissing, hparse, hnames, fill_normalForm_account hnonempty.1 hdomain, hnone]
  rfl

/-- An account, with a region or without one, means the same by itself and in the name that is built of
it: the user at the host of the account. -/
theorem parse_account_eq_reparse :
    ∃ s, parse (user ++ ":" ++ password ++ "@" ++ account) = .ok s ∧
      reparse { account, user, password } = .ok s ∧
      s.user = user ∧ s.password = password ∧ s.host = account ++ dottedDomain := by
  have hparse := parse_account hnonempty huser hpassword haccount hdomain
  have hreparse := reparse_account hnonempty huser hpassword haccount hdomain
  exact ⟨_, hparse, hreparse, rfl, rfl, host_normalForm_account hnonempty.1 hdomain⟩

end

theorem parse_account_eq_reparse_dots :
    (∃ s, parse ("u@x" ++ ":" ++ "p:?" ++ "@" ++ "acme..eu west.") = .ok s ∧
        reparse { account := "acme..eu west.", user := "u@x", password := "p:?" } = .ok s ∧
        s.user = "u@x" ∧ s.password = "p:?" ∧ s.host = "acme..eu west." ++ dottedDomain) ∧
      ∃ s, parse ("u@x" ++ ":" ++ "p:?" ++ "@" ++ ".acme.eu") = .ok s ∧
        reparse { account := ".acme.eu", user := "u@x", password := "p:?" } = .ok s ∧
        s.user = "u@x" ∧ s.password = "p:?" ∧ s.host = ".acme.eu" ++ dottedDomain :=
  ⟨parse_account_eq_reparse (by decide) (by decide) (by decide) (by decide) (by decide +kernel),
    parse_account_eq_reparse (by decide) (by decide) (by decide) (by decide) (by decide +kernel)⟩

end DataSource.Name
