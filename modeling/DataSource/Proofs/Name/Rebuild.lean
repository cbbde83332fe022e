import DataSource.Proofs.Name.Parsed
import DataSource.Proofs.Name.RoundTrip

/-!
# Rebuilding a name that was read

A name that is built from what another name gave has a single layout, `user:password@host:port?query`,
and writes the credentials as they are. So a slash in the credentials, which the layout of the other
name may have kept apart from its path, is then read as the beginning of a path; an account with a dot
is written without its region; and a host that was left open is written as the host of the account.
Apart from these the connection survives (`sameConnection_reparse_iff`).
-/

namespace DataSource.Name

/-- The settings that the name of settings gives when it is read. -/
def reparse (s : Settings) : Except NameError Settings := (build s).bind parse

/-- Whether two settings connect to the same place as the same user. -/
def SameConnection (a b : Settings) : Prop :=
  a.user = b.user ∧ a.password = b.password ∧ a.account = b.account ∧ a.host = b.host ∧
    a.port = b.port

instance (a b : Settings) : Decidable (SameConnection a b) := by
  unfold SameConnection
  exact inferInstance

theorem reparse_eq {s : Settings} (h : s.missing? = none) :
    reparse s = parse (write (normalForm s)) := by
  simp only [reparse, build_eq_ok h, Except.bind]

/-! ## Slashes -/

theorem not_mem_slash_of_credentials {n t : Settings} (hhost : '/' ∉ n.host.toList)
    (h : parse (write n) = .ok t) (huser : t.user = n.user) (hpassword : t.password = n.password) :
    '/' ∉ credentialsText n := by
  intro hslash
  obtain ⟨before, after, hsplit, hafter⟩ := Text.exists_last_of_mem hslash
  have htarget : '/' ∉ targetText n := by
    rw [targetText, List.mem_append, List.mem_cons]
    exact not_or.2 ⟨hhost, not_or.2 ⟨by decide, not_mem_toString (by decide) n.port⟩⟩
  have hquery : '/' ∉ querySuffix (queryText (queryPairs n)) :=
    not_mem_querySuffix (by decide) (not_mem_queryText (by decide) _)
  have hrest : '/' ∉ after ++ '@' :: (targetText n ++ querySuffix (queryText (queryPairs n))) := by
    simp [hafter, htarget, hquery]
  have hlast : Text.lastIndex? ['/'] (write n).toList = some before.length := by
    rw [toList_write, joined, hsplit, List.append_assoc, List.cons_append]
    exact Text.lastIndex?_append_cons before hrest
  -- The last slash of the name would be in the credentials, and only what is in front of it can be read as them.
  obtain ⟨atSign, hat, htake, -⟩ := credentials_of_parse h
  have hlt := atSign_lt_of_slash hlast hat
  have hle := atSign_lt_length hat
  have htaken : (write n).toList.take atSign = credentialsText n := by
    rw [htake, huser, hpassword, credentialsText]
  have hlength := congrArg List.length htaken
  rw [List.length_take, hsplit, List.length_append, List.length_cons] at hlength
  omega

/-! ## Hosts -/

theorem append_dottedDomain_ne_empty (s : String) : s ++ dottedDomain ≠ "" := by
  intro hempty
  have hdomain := (String.append_eq_empty_iff.1 hempty).2
  revert hdomain
  decide

theorem hostWithRegion_ne_empty {host : String} (h : host ≠ "") (region : String) :
    hostWithRegion host region ≠ "" := by
  unfold hostWithRegion
  split
  · exact h
  · simp only
    split
    · exact h
    · exact append_dottedDomain_ne_empty _

theorem host_fill_ne_empty {s : Settings} (h : s.host ≠ "") : s.fill.host ≠ "" := by
  show (if s.region = "" then s.host else hostWithRegion s.host s.region) ≠ ""
  split
  · exact h
  · exact hostWithRegion_ne_empty h s.region

theorem host_normalForm_ne_empty (s : Settings) : (normalForm s).host ≠ "" := by
  refine host_fill_ne_empty ?_
  show (if s.host = "" then derivedHost s else s.host) ≠ ""
  split
  · unfold derivedHost
    split <;> exact append_dottedDomain_ne_empty _
  · assumption

/-! ## The connection -/

theorem normalForm_eq_self {s : Settings} (hhost : s.host ≠ "")
    (haccount : '.' ∉ s.account.toList ∨ s.account.toList.head? = some '.') (hfill : s.fill = s) :
    normalForm s = s := by
  have hsplit := splitRegion_eq_self s.region.toList haccount
  have htarget : withTarget s = s := by
    rw [withTarget, if_neg hhost, hsplit]
    simp only [String.ofList_toList]
  rw [normalForm, htarget, hfill]

theorem sameConnection_withNames (n : Settings) (params : Table String)
    (database schema role warehouse : String) :
    SameConnection (withNames (carried n params) database schema role warehouse) n :=
  ⟨rfl, rfl, rfl, rfl, rfl⟩

/-- A name that was read, and that is completed as it stands, keeps its connection when it is rebuilt
if and only if its credentials have no slash, its account is written whole and its host is not open;
this is for a host that is written without separators, and names that can be unescaped once more. -/
theorem sameConnection_reparse_iff {name : String} {s : Settings} (hparse : parse name = .ok s)
    (hsettled : s.complete = .ok s)
    (hhost : SeparatorFree (normalForm s).host.toList)
    (hnames : ∃ t, unescapeNames s = .ok t) :
    (∃ t, reparse s = .ok t ∧ SameConnection t s) ↔
      '/' ∉ s.user.toList ∧ '/' ∉ s.password.toList ∧
        ('.' ∉ s.account.toList ∨ s.account.toList.head? = some '.') ∧ s.host ≠ "" := by
  obtain ⟨hmissing, hfill⟩ := Settings.complete_eq_ok_iff.1 hsettled
  obtain ⟨u, hu⟩ := hnames
  obtain ⟨-, -, -, hcolon⟩ := credentials_of_parse hparse
  obtain ⟨hport, -, hlogin, hrequest⟩ := Settings.bounded_iff.1 (bounded_of_parse hparse)
  have hportEq : (normalForm s).port = s.port := (congrArg Settings.port hfill).symm
  -- Without slashes the name is read back as the normal form, completed.
  have hread (huser : '/' ∉ s.user.toList) (hpassword : '/' ∉ s.password.toList) :
      ∃ t, reparse s = .ok t ∧ SameConnection t (normalForm s).fill := by
    have hn := writable_normalForm hmissing ⟨hcolon, huser⟩ hpassword hhost (hportEq ▸ hport) hlogin
      hrequest
    obtain ⟨params, -, hparams⟩ := parse_write_normalForm hn
    rw [hu] at hparams
    exact ⟨_, (reparse_eq hmissing).trans hparams, sameConnection_withNames _ _ _ _ _ _⟩
  constructor
  · rintro ⟨t, ht, huser, hpassword, haccount, hhostEq, -⟩
    have hslash : '/' ∉ credentialsText (normalForm s) :=
      not_mem_slash_of_credentials (hhost '/' (by decide)) ((reparse_eq hmissing).symm.trans ht)
        huser hpassword
    have huserSlash : '/' ∉ s.user.toList := fun h => hslash (List.mem_append_left _ h)
    have hpasswordSlash : '/' ∉ s.password.toList := fun h =>
      hslash (List.mem_append_right _ (List.mem_cons_of_mem _ h))
    obtain ⟨t', ht', -, -, haccount', hhost', -⟩ := hread huserSlash hpasswordSlash
    rw [ht] at ht'
    cases ht'
    refine ⟨huserSlash, hpasswordSlash, ?_, ?_⟩
    · have hsplit : String.ofList (splitRegion s.account.toList s.region.toList).2 = s.account :=
        haccount'.symm.trans haccount
      have htext := congrArg String.toList hsplit
      rw [String.toList_ofList] at htext
      exact splitRegion_snd_eq_iff.1 htext
    · rw [← hhostEq, hhost']
      exact host_fill_ne_empty (host_normalForm_ne_empty s)
  · rintro ⟨huser, hpassword, haccount, hopen⟩
    obtain ⟨t, ht, hsame⟩ := hread huser hpassword
    rw [normalForm_eq_self hopen haccount hfill.symm, ← hfill] at hsame
    exact ⟨t, ht, hsame⟩

/-- What `u@x:p?:q@acc.eu/db/sch?role=r%26s` reads as. -/
def sampleReading : Settings where
  account := "acc"
  user := "u@x"
  password := "p?:q"
  region := "eu"
  protocol := "https"
  host := "acc.eu.snowflakecomputing.com"
  port := 443
  database := "db"
  schema := "sch"
  role := "r&s"
  authenticator := "snowflake"
  loginTimeout := .minute
  application := "PythonDSN"

theorem sameConnection_reparse_sampleReading :
    parse "u@x:p?:q@acc.eu/db/sch?role=r%26s" = .ok sampleReading ∧
      ∃ t, reparse sampleReading = .ok t ∧ SameConnection t sampleReading := by
  have hparse : parse "u@x:p?:q@acc.eu/db/sch?role=r%26s" = .ok sampleReading := rfl
  refine ⟨hparse, (sameConnection_reparse_iff hparse ?_ ?_ ?_).2 (by decide)⟩
  · decide +kernel
  · decide +kernel
  · exact ⟨sampleReading, by decide +kernel⟩

/-- Whether a name is read, and the connection is lost when it is rebuilt. -/
def LosesConnection (name : String) : Prop :=
  ∃ s, parse name = .ok s ∧ ¬∃ t, reparse s = .ok t ∧ SameConnection t s

instance (name : String) : Decidable (LosesConnection name) :=
  inferInstanceAs (Decidable (∃ s, parse name = .ok s ∧ ¬∃ t, reparse s = .ok t ∧ SameConnection t s))

/-- A slash in the password or in the user, an account with a dot and an open host each lose the
connection. So does everything that the statement above leaves out: a name that cannot be unescaped
twice, a host that is completed differently a second time, and a host with a separator. -/
theorem losesConnection_slash :
    LosesConnection "u:p/q@acc/db" ∧ LosesConnection "a/b:p@acc/db" ∧
      LosesConnection "u:p@localhost:80?account=a.b" ∧ LosesConnection "u:p@:80?account=a" ∧
      LosesConnection "u:p@acc/%25" ∧ LosesConnection "u:p@acc?x/db" ∧
      LosesConnection "u:p@a.snowflakecomputing.com:443?region=b.snowflakecomputing.com.c" := by
  decide +kernel

end DataSource.Name
