import DataSource.Proofs.Name.Pairs
import DataSource.Proofs.Name.Parts

/-!
# Reading a written name

`write` gives a name in parts, and the query that it writes has the pairs of `writtenPairs`. Where the
separators do not occur out of place (`Writable`), reading the name gives back the target, then the
fields that were needed, then the account, which the host tells if it was not written; what was left
out is what the defaults fill in. So a written name reads as the settings completed and without their
proxy, with the written parameters and the names unescaped (`parse_write`).
-/

namespace DataSource.Name

/-! ## The parts of a written name -/

/-- The credentials of a written name. -/
def credentialsText (s : Settings) : List Char := s.user.toList ++ ':' :: s.password.toList

/-- The target of a written name. -/
def targetText (s : Settings) : List Char := s.host.toList ++ ':' :: (toString s.port).toList

theorem toList_write (s : Settings) :
    (write s).toList = joined (credentialsText s) (targetText s) (queryText (queryPairs s)) := by
  unfold write joined querySuffix credentialsText targetText
  simp only [String.toList_append]
  split <;> simp

/-- Whether a text has none of the characters that part a name. -/
def SeparatorFree (text : List Char) : Prop := ∀ c ∈ ['/', '@', ':', '?'], c ∉ text

theorem separatorFree_iff {text : List Char} :
    SeparatorFree text ↔ '/' ∉ text ∧ '@' ∉ text ∧ ':' ∉ text ∧ '?' ∉ text := by
  simp [SeparatorFree]

instance (text : List Char) : Decidable (SeparatorFree text) :=
  decidable_of_iff _ separatorFree_iff.symm

theorem SeparatorFree.append {first second : List Char} (hfirst : SeparatorFree first)
    (hsecond : SeparatorFree second) : SeparatorFree (first ++ second) := by
  intro c hc
  rw [List.mem_append]
  exact not_or.2 ⟨hfirst c hc, hsecond c hc⟩

theorem SeparatorFree.append_dot {first second : List Char} (hfirst : SeparatorFree first)
    (hsecond : SeparatorFree second) : SeparatorFree (first ++ '.' :: second) := by
  have hdot : SeparatorFree ['.'] := by decide
  exact hfirst.append (hdot.append hsecond)

/-- Settings whose parts a name keeps apart: no separator occurs out of place, and the port is a number
that can be read. -/
structure Apart (s : Settings) : Prop where
  user_colon : ':' ∉ s.user.toList
  user_slash : '/' ∉ s.user.toList
  password_slash : '/' ∉ s.password.toList
  host_clean : SeparatorFree s.host.toList
  port_ne_zero : s.port ≠ 0
  port_fits : Kind.integer.Fits s.port

/-- Settings that a name can carry: nothing is missing, the parts stay apart, and the query can spell
every field. -/
structure Writable (s : Settings) : Prop extends Apart s where
  nothing_missing : s.missing? = none
  bounded : s.Bounded

theorem not_mem_toString {c : Char} (hc : c ∈ ['/', '@', ':', '?']) (n : Int) :
    c ∉ (toString n).toList := by
  intro hmem
  rcases Integer.mem_toString hmem with hdigit | rfl
  · simp only [List.mem_cons, List.not_mem_nil, or_false] at hc
    rcases hc with rfl | rfl | rfl | rfl <;> revert hdigit <;> decide
  · revert hc
    decide

variable {n : Settings}

theorem not_mem_targetText (hn : Apart n) {c : Char} (hc : c ∈ ['/', '@', ':', '?'])
    (hcolon : c ≠ ':') : c ∉ targetText n := by
  rw [targetText, List.mem_append, List.mem_cons]
  exact not_or.2 ⟨hn.host_clean c hc, not_or.2 ⟨hcolon, not_mem_toString hc n.port⟩⟩

theorem Apart.separated (hn : Apart n) :
    Separated (credentialsText n) (targetText n) (queryText (queryPairs n)) where
  credentials_slash := by simp [credentialsText, hn.user_slash, hn.password_slash]
  target_slash := not_mem_targetText hn (by decide) (by decide)
  target_at := not_mem_targetText hn (by decide) (by decide)
  target_question := not_mem_targetText hn (by decide) (by decide)
  query_slash := not_mem_queryText (by decide) _
  query_at := not_mem_queryText (by decide) _

/-! ## Target and query -/

/-- The settings that the credentials and the target of a written name give. -/
def targetOnly (n : Settings) : Settings where
  user := n.user
  password := n.password
  host := n.host
  port := n.port

theorem read_targetText (hn : Apart n) :
    (Target.read (targetText n) 0 (targetText n).length).map
        (ofTarget n.user.toList n.password.toList) = .ok (targetOnly n) := by
  have hread : Target.read (targetText n) 0 (targetText n).length =
      .ok (Target.ofHost n.host.toList n.port) := by
    refine (read_host_port (hn.host_clean ':' (by decide)) _).trans ?_
    rw [Integer.read_toString hn.port_fits.1 hn.port_fits.2]
    rfl
  rw [hread, Target.ofHost_of_host (.inl hn.port_ne_zero)]
  simp only [Except.map, ofTarget, targetOnly, String.ofList_toList]

theorem readQuery_queryText (s n : Settings) :
    readQuery s (if (queryText (queryPairs n)).isEmpty then none
      else some (queryText (queryPairs n))) = setAll s (writtenPairs n) := by
  by_cases hpairs : queryPairs n = []
  · rw [writtenPairs, hpairs]
    rfl
  · have hresult := result_queryText hpairs s
    split
    · rename_i hempty
      rw [List.isEmpty_iff.1 hempty] at hresult
      exact hresult
    · exact hresult

/-! ## The account -/

theorem host_of_accountInHost {s : Settings} (h : accountInHost s = true) :
    Text.endsWith s.host.toList dottedDomain.toList = true ∧ '.' ∉ s.account.toList ∧
      ∃ rest, s.host.toList = s.account.toList ++ '.' :: rest := by
  obtain ⟨hdomain, hlabel⟩ := Bool.and_eq_true_iff.1 h
  obtain ⟨label, rest, hhost, hnot, htake⟩ := exists_label_of_endsWith hdomain
  have haccount : label = s.account.toList := htake.symm.trans (beq_iff_eq.1 hlabel)
  exact ⟨hdomain, haccount ▸ hnot, rest, haccount ▸ hhost⟩

theorem account_setAccount_of_written {u : Settings} (hn : n.account ≠ "")
    (hhost : u.host = n.host)
    (haccount : u.account = if needed n .account = true then n.account else "") :
    (setAccount u).account = n.account := by
  by_cases hneeded : needed n .account = true
  · rw [if_pos hneeded] at haccount
    rw [setAccount_of_account_ne u (haccount ▸ hn), haccount]
  · rw [if_neg hneeded] at haccount
    have htold : accountInHost n = true := by simpa [needed] using hneeded
    obtain ⟨hdomain, hdot, rest, hrest⟩ := host_of_accountInHost htold
    rw [← hhost] at hdomain hrest
    rw [account_setAccount_of_host haccount hrest hdomain hdot (by simpa using hn),
      String.ofList_toList]

/-! ## The whole -/

/-- What a name carries of settings: all but the proxy, and parameters of its own. -/
def carried (s : Settings) (params : Table String) : Settings := { s with proxy := {}, params }

section

variable {α : Type} [DecidableEq α]

theorem written_eq (x d : α) : (if (x != d) = true then x else d) = x := by
  by_cases hx : x = d
  · simp [hx]
  · simp [hx]

/-- What is left out if it is `d`, and is then read as `blank`, is filled in with `d` as if it had
been written. -/
theorem fill_written (x blank d : α) :
    (if (if (x != d) = true then x else blank) = blank then d
      else if (x != d) = true then x else blank) = if x = blank then d else x := by
  by_cases hx : x = d
  · simp [hx]
  · simp [hx]

end

theorem written_flag (b : Bool) : (if b = true then b else false) = b := by cases b <;> rfl

theorem parse_write_eq (hn : Apart n) :
    parse (write n) = (setAll (targetOnly n) (writtenPairs n)).bind fun u =>
      (setAccount u).complete.bind unescapeNames := by
  have hparse := parse_joined hn.separated hn.user_colon
  have htarget := read_targetText hn
  cases hread : Target.read (targetText n) 0 (targetText n).length with
  | error error =>
    rw [hread] at htarget
    cases htarget
  | ok target =>
    rw [hread] at htarget hparse
    have hbase : ofTarget n.user.toList n.password.toList target = targetOnly n :=
      Except.ok.inj htarget
    rw [← String.ofList_toList (s := write n), toList_write]
    refine hparse.trans ?_
    simp only [Except.bind, hbase, readQuery_queryText]

/-- Target and pairs of a written name, completed, have the fields of the settings that were written,
completed, if these can be spelled. -/
theorem get_fill_of_written {u : Settings} (haccount : n.account ≠ "")
    (hu : setAll (targetOnly n) (writtenPairs n) = .ok u) {f : Field} (hf : f.kind.Fits (n.get f)) :
    (setAccount u).fill.get f = (carried n.fill u.params).get f := by
  have hget {g : Field} (hg : g.kind.Fits (n.get g)) := get_of_setAll_writtenPairs hu hg
  have hset (g : Field) (hg : g ≠ .account) (hfits : g.kind.Fits (n.get g)) :=
    (get_setAccount_of_ne u hg).trans (hget hfits)
  have hregion : (setAccount u).region = n.region :=
    (hset .region (by decide) trivial).trans (written_eq n.region "")
  -- A default that was left out is filled in; everything else is read as it was written.
  cases f with
  | account =>
    have haccount : (setAccount u).account = n.account :=
      account_setAccount_of_written haccount (hget (g := .host) trivial) (hget (g := .account) trivial)
    exact haccount
  | user => exact hset .user (by decide) hf
  | password => exact hset .password (by decide) hf
  | region => exact hregion
  | host =>
    have hhost : (setAccount u).host = n.host := hset .host (by decide) hf
    show (if (setAccount u).region = "" then (setAccount u).host
      else hostWithRegion (setAccount u).host (setAccount u).region) = n.fill.host
    rw [hhost, hregion]
    rfl
  | port =>
    exact congrArg (fun port => if port = 0 then defaultPort else port) (hset .port (by decide) hf)
  | database => exact (hset .database (by decide) hf).trans (written_eq n.database "")
  | schema => exact (hset .schema (by decide) hf).trans (written_eq n.schema "")
  | warehouse => exact (hset .warehouse (by decide) hf).trans (written_eq n.warehouse "")
  | role => exact (hset .role (by decide) hf).trans (written_eq n.role "")
  | passcode => exact (hset .passcode (by decide) hf).trans (written_eq n.passcode "")
  | passcodeInPassword =>
    exact (hset .passcodeInPassword (by decide) hf).trans (written_flag n.passcodeInPassword)
  | insecureMode => exact (hset .insecureMode (by decide) hf).trans (written_flag n.insecureMode)
  | protocol =>
    refine Eq.trans ?_ (fill_written n.protocol "" defaultProtocol)
    exact congrArg (fun x => if x = "" then defaultProtocol else x) (hset .protocol (by decide) hf)
  | authenticator =>
    refine Eq.trans ?_ (fill_written n.authenticator "" defaultAuthenticator)
    exact congrArg (fun x => if x = "" then defaultAuthenticator else x)
      (hset .authenticator (by decide) hf)
  | application =>
    refine Eq.trans ?_ (fill_written n.application "" defaultApplication)
    exact congrArg (fun x => if x = "" then defaultApplication else x)
      (hset .application (by decide) hf)
  | loginTimeout =>
    refine Eq.trans ?_ (fill_written n.loginTimeout .zero defaultLoginTimeout)
    exact congrArg (fun x => if x = .zero then defaultLoginTimeout else x)
      (hset .loginTimeout (by decide) hf)
  | requestTimeout =>
    refine Eq.trans ?_ (fill_written n.requestTimeout .zero defaultRequestTimeout)
    exact congrArg (fun x => if x = .zero then defaultRequestTimeout else x)
      (hset .requestTimeout (by decide) hf)
  | proxyHost => exact hset .proxyHost (by decide) hf
  | proxyPort => exact hset .proxyPort (by decide) hf
  | proxyUser => exact hset .proxyUser (by decide) hf
  | proxyPassword => exact hset .proxyPassword (by decide) hf

theorem missing?_of_written {u : Settings} (hmissing : n.missing? = none)
    (hu : setAll (targetOnly n) (writtenPairs n) = .ok u) : (setAccount u).missing? = none := by
  obtain ⟨haccount, huser, hpassword⟩ := Settings.missing?_eq_none_iff.1 hmissing
  have hget (f : Field) (hf : f.kind.Fits (n.get f)) := get_fill_of_written haccount hu hf
  refine Settings.missing?_eq_none_iff.2 ⟨?_, ?_, ?_⟩
  · rwa [show (setAccount u).account = n.account from hget .account trivial]
  · rwa [show (setAccount u).user = n.user from hget .user trivial]
  · rwa [show (setAccount u).password = n.password from hget .password trivial]

theorem complete_of_written {u : Settings} (hn : Writable n)
    (hu : setAll (targetOnly n) (writtenPairs n) = .ok u) :
    (setAccount u).complete = .ok (carried n.fill u.params) := by
  have haccount : n.account ≠ "" := (Settings.missing?_eq_none_iff.1 hn.nothing_missing).1
  have hfill : (setAccount u).fill = carried n.fill u.params :=
    Settings.ext_get (fun f => get_fill_of_written haccount hu (hn.bounded f)) (params_setAccount u)
  exact Settings.complete_eq_ok_iff.2 ⟨missing?_of_written hn.nothing_missing hu, hfill.symm⟩

/-- A written name reads as what was written, completed, without the proxy, with the written
parameters and the names unescaped. -/
theorem parse_write (hn : Writable n) :
    ∃ params : Table String, (∀ key, params.get? key = (writtenParams n).get? key) ∧
      parse (write n) = unescapeNames (carried n.fill params) := by
  obtain ⟨u, hu⟩ := exists_setAll_writtenPairs hn.bounded (targetOnly n)
  refine ⟨u.params, get?_params_of_setAll_writtenPairs rfl hu, ?_⟩
  rw [parse_write_eq hn.toApart, hu]
  simp only [Except.bind, complete_of_written hn hu]

end DataSource.Name
