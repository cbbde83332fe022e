import DataSource.Proofs.Name.Rebuild
import DataSource.Proofs.Settings.Host

/-!
# Regions

An account and its region may be spelled `account.region` in front of everything else, or the region may
be a parameter of the query. Both are read as the same settings, with the region in the host
(`parse_region_spellings`).
-/

namespace DataSource.Name

/-! ## Names of an account and a region -/

/-- The settings of an account in a region; everything else is the default. -/
def regional (user password account region : List Char) : Settings where
  account := String.ofList account
  user := String.ofList user
  password := String.ofList password
  region := String.ofList region
  protocol := defaultProtocol
  host := String.ofList (account ++ '.' :: region) ++ dottedDomain
  port := defaultPort
  authenticator := defaultAuthenticator
  loginTimeout := defaultLoginTimeout
  requestTimeout := defaultRequestTimeout
  application := defaultApplication

theorem unescapeNames_regional (user password account region : List Char) (host : String) :
    unescapeNames { regional user password account region with host } =
      .ok { regional user password account region with host } := by
  have hempty : unescape "" = .ok "" := by decide
  exact unescapeNames_eq_ok_iff.2 ⟨_, _, _, _, hempty, hempty, hempty, hempty, rfl⟩

section

variable {user password account region : List Char}

theorem ofHost_outside_domain (hdomain : ¬domain.toList <:+: account) :
    Target.ofHost account 0 =
      { region := (splitRegion account []).1
        account := (splitRegion account []).2
        host := account ++ dottedDomain.toList
        port := defaultPort } := by
  exact Target.ofHost_of_outside fun hsuffix => hdomain hsuffix.isInfix

theorem ofHost_account (haccount : '.' ∉ account) :
    Target.ofHost account 0 =
      { region := [], account, host := account ++ dottedDomain.toList, port := defaultPort } := by
  have hdomain : ¬domain.toList <:+: account := by
    intro hpart
    exact haccount (hpart.subset (by decide))
  rw [ofHost_outside_domain hdomain, splitRegion_of_not_mem [] haccount]

theorem ofHost_region (haccount : account ≠ [] ∧ '.' ∉ account)
    (hregion : ¬domain.toList <:+: region) :
    Target.ofHost (account ++ '.' :: region) 0 =
      if domainLabel <:+ account ∧ region = domainTop then
        { region := [], account := [], host := account ++ '.' :: region, port := 0 }
      else
        { region, account, host := account ++ '.' :: region ++ dottedDomain.toList
          port := defaultPort } := by
  have hends : Text.endsWith (account ++ '.' :: region) domain.toList =
      decide (domainLabel <:+ account ∧ region = domainTop) := by
    rw [Bool.eq_iff_iff, decide_eq_true_eq, Text.endsWith, List.isSuffixOf_iff_suffix,
      domain_suffix_iff, or_iff_right (mt List.IsSuffix.isInfix hregion)]
  simp only [Target.ofHost, splitRegion_append_cons region [] haccount.2, if_neg haccount.1, hends]
  by_cases hhost : domainLabel <:+ account ∧ region = domainTop
  · simp [hhost]
  · simp [hhost]

theorem parse_joined_account {target query : List Char} (huser : ':' ∉ user ∧ '/' ∉ user)
    (hpassword : '/' ∉ password) (htarget : SeparatorFree target) (hquery : '/' ∉ query ∧ '@' ∉ query) :
    parse (String.ofList (joined (user ++ ':' :: password) target query)) =
      (readQuery (ofTarget user password (Target.ofHost target 0))
        (if query.isEmpty then none else some query)).bind fun s =>
          (setAccount s).complete.bind unescapeNames := by
  have hseparated : Separated (user ++ ':' :: password) target query :=
    ⟨by simp [huser.2, hpassword], htarget '/' (by decide), htarget '@' (by decide),
      htarget '?' (by decide), hquery.1, hquery.2⟩
  rw [parse_joined hseparated huser.1, read_host (htarget ':' (by decide))]
  rfl

/-- The query that sets a region. -/
def regionQuery (region : List Char) : List Char := String.toList "region=" ++ FormEscape.escape region

theorem regionQuery_eq (region : List Char) :
    regionQuery region = queryText [("region", String.ofList region)] := by
  have hkey : FormEscape.escape "region".toList ++ ['='] = "region=".toList := by decide
  have hpiece : queryText [("region", String.ofList region)] =
      FormEscape.escape "region".toList ++ '=' :: FormEscape.escape region := by
    simp only [queryText, sortPairs, List.foldr, insertPair, List.map_cons, List.map_nil, pieceOf,
      String.toList_ofList, List.intercalate_singleton]
  rw [hpiece, ← List.singleton_append, ← List.append_assoc, hkey]
  rfl

theorem regionQuery_ne_nil (region : List Char) : regionQuery region ≠ [] := by
  intro h
  exact absurd (List.append_eq_nil_iff.1 h).1 (by decide)

theorem readQuery_regionQuery (s : Settings) (region : List Char) :
    readQuery s (some (regionQuery region)) = .ok { s with region := String.ofList region } := by
  have hkey : Field.ofQueryKey? "region" = some .region := Field.ofQueryKey?_of_queryKey? rfl
  have hset : setByKey s "region" (String.ofList region) =
      .ok { s with region := String.ofList region } := by
    rw [setByKey, hkey]
    rfl
  have hregion : Field.region.queryKey? = some "region" := rfl
  rw [readQuery, regionQuery_eq, result_queryText_singleton hregion, hset]

theorem complete_of_region (host : List Char) (huser : user ≠ []) (hpassword : password ≠ [])
    (haccount : account ≠ []) (hregion : region ≠ []) :
    (setAccount (ofTarget user password ⟨region, account, host, defaultPort⟩)).complete.bind
        unescapeNames =
      .ok { regional user password account region with
        host := hostWithRegion (String.ofList host) (String.ofList region) } := by
  have hopen {text : List Char} (h : text ≠ []) : String.ofList text ≠ "" := by simpa using h
  have hmissing : (ofTarget user password ⟨region, account, host, defaultPort⟩).missing? = none :=
    Settings.missing?_eq_none_iff.2 ⟨hopen haccount, hopen huser, hopen hpassword⟩
  have hset : setAccount (ofTarget user password ⟨region, account, host, defaultPort⟩) =
      ofTarget user password ⟨region, account, host, defaultPort⟩ :=
    setAccount_of_account_ne _ (hopen haccount)
  have hfill : (ofTarget user password ⟨region, account, host, defaultPort⟩).fill =
      { regional user password account region with
        host := hostWithRegion (String.ofList host) (String.ofList region) } := by
    simp only [Settings.fill, ofTarget, hopen hregion, if_false]
    rfl
  rw [hset, Settings.complete_eq_ok_iff.2 ⟨hmissing, rfl⟩, hfill]
  exact unescapeNames_regional user password account region _

theorem parse_account_regionQuery (huser : user ≠ [] ∧ ':' ∉ user ∧ '/' ∉ user)
    (hpassword : password ≠ [] ∧ '/' ∉ password)
    (haccount : account ≠ [] ∧ '.' ∉ account ∧ SeparatorFree account) (hregion : region ≠ []) :
    ∃ host, parse (String.ofList
        (user ++ ':' :: password ++ '@' :: account ++ '?' :: regionQuery region)) =
        .ok { regional user password account region with host } ∧
      (¬region <:+ account → host = (regional user password account region).host) := by
  have hquery : '/' ∉ regionQuery region ∧ '@' ∉ regionQuery region := by
    rw [regionQuery_eq]
    exact ⟨not_mem_queryText (by decide) _, not_mem_queryText (by decide) _⟩
  have hnonempty : (regionQuery region).isEmpty = false :=
    List.isEmpty_eq_false_iff.2 (regionQuery_ne_nil region)
  have hname : user ++ ':' :: password ++ '@' :: account ++ '?' :: regionQuery region =
      joined (user ++ ':' :: password) account (regionQuery region) := by
    simp [joined, querySuffix, hnonempty]
  have hhost : (String.ofList (account ++ dottedDomain.toList)).toList =
      account ++ dottedDomain.toList := String.toList_ofList
  refine ⟨hostWithRegion (String.ofList (account ++ dottedDomain.toList)) (String.ofList region), ?_,
    fun hends => ?_⟩
  · rw [hname, parse_joined_account huser.2 hpassword.2 haccount.2.2 hquery, hnonempty,
      if_neg (by decide), readQuery_regionQuery, ofHost_account haccount.2.1]
    exact complete_of_region (account ++ dottedDomain.toList) huser.1 hpassword.1 haccount.1 hregion
  · rw [← String.toList_inj, toList_hostWithRegion_append hhost haccount.1
      (not_infix_of_not_mem haccount.2.1), String.toList_ofList, if_neg hends, regional,
      String.toList_append, String.toList_ofList, List.append_assoc, List.cons_append]

theorem parse_account_dot_region (huser : user ≠ [] ∧ ':' ∉ user ∧ '/' ∉ user)
    (hpassword : password ≠ [] ∧ '/' ∉ password)
    (haccount : account ≠ [] ∧ '.' ∉ account ∧ SeparatorFree account)
    (hregion : region ≠ [] ∧ SeparatorFree region ∧ ¬domain.toList <:+: region) :
    parse (String.ofList (user ++ ':' :: password ++ '@' :: account ++ '.' :: region)) =
      if domainLabel <:+ account ∧ region = domainTop then .error .emptyAccount
      else .ok (regional user password account region) := by
  have hname : user ++ ':' :: password ++ '@' :: account ++ '.' :: region =
      joined (user ++ ':' :: password) (account ++ '.' :: region) [] := by
    simp [joined, querySuffix]
  have hclean : SeparatorFree (account ++ '.' :: region) := haccount.2.2.append_dot hregion.2.1
  have hdomain : ¬dottedDomain.toList <:+: account ++ '.' :: region :=
    not_infix_append_cons haccount.2.1 hregion.2.2
  rw [hname, parse_joined_account huser.2 hpassword.2 hclean (by simp),
    ofHost_region ⟨haccount.1, haccount.2.1⟩ hregion.2.2]
  by_cases hends : domainLabel <:+ account ∧ region = domainTop
  · -- The host is the bare domain or no host of it, so the account stays open.
    rw [if_pos hends, if_pos hends]
    have hset : setAccount (ofTarget user password ⟨[], [], account ++ '.' :: region, 0⟩) =
        ofTarget user password ⟨[], [], account ++ '.' :: region, 0⟩ := by
      refine if_neg fun h => hdomain ?_
      have hhost := List.isSuffixOf_iff_suffix.1 h.2
      rw [ofTarget, String.toList_ofList] at hhost
      exact hhost.isInfix
    show (setAccount (ofTarget user password _)).complete.bind unescapeNames = _
    rw [hset]
    rfl
  · rw [if_neg hends, if_neg hends]
    have hhost : (String.ofList (account ++ '.' :: region ++ dottedDomain.toList)).toList =
        account ++ '.' :: region ++ dottedDomain.toList := String.toList_ofList
    have hsame : hostWithRegion (String.ofList (account ++ '.' :: region ++ dottedDomain.toList))
        (String.ofList region) = (regional user password account region).host := by
      rw [hostWithRegion_eq_self hhost (by simp) hdomain ⟨account ++ ['.'], by simp⟩,
        ← String.toList_inj, hhost, regional, String.toList_append, String.toList_ofList]
    refine (complete_of_region (account ++ '.' :: region ++ dottedDomain.toList) huser.1 hpassword.1
      haccount.1 hregion.1).trans ?_
    rw [hsame]

end

/-- The two spellings of a region are read as the same settings, but for the host if the account ends in
the region. Only an account and a region that end in the domain make a host, from which no account can
be taken. -/
theorem parse_region_spellings (user password account region : List Char)
    (huser : user ≠ [] ∧ ':' ∉ user ∧ '/' ∉ user) (hpassword : password ≠ [] ∧ '/' ∉ password)
    (haccount : account ≠ [] ∧ '.' ∉ account ∧ SeparatorFree account)
    (hregion : region ≠ [] ∧ SeparatorFree region ∧ ¬domain.toList <:+: region) :
    (parse (String.ofList (user ++ ':' :: password ++ '@' :: account ++ '.' :: region)) =
        if domainLabel <:+ account ∧ region = domainTop then .error .emptyAccount
        else .ok (regional user password account region)) ∧
      ∃ host, parse (String.ofList
          (user ++ ':' :: password ++ '@' :: account ++ '?' :: regionQuery region)) =
          .ok { regional user password account region with host } ∧
        (¬region <:+ account → host = (regional user password account region).host) :=
  ⟨parse_account_dot_region huser hpassword haccount hregion,
    parse_account_regionQuery huser hpassword haccount hregion.1⟩

theorem parse_region_spellings_west :
    parse (String.ofList ("u@x".toList ++ ':' :: "p:?".toList ++ '@' :: "acme".toList ++
          '.' :: "eu west".toList)) =
        .ok (regional "u@x".toList "p:?".toList "acme".toList "eu west".toList) ∧
      parse (String.ofList ("u@x".toList ++ ':' :: "p:?".toList ++ '@' :: "acme".toList ++
          '?' :: regionQuery "eu west".toList)) =
        .ok (regional "u@x".toList "p:?".toList "acme".toList "eu west".toList) := by
  obtain ⟨hdot, host, hquery, hhost⟩ := parse_region_spellings "u@x".toList "p:?".toList
    "acme".toList "eu west".toList (by decide) (by decide) (by decide) (by decide +kernel)
  rw [if_neg (by decide)] at hdot
  rw [hhost (by decide)] at hquery
  exact ⟨hdot, hquery⟩

/-- The domain is a host and no account in a region; and a region in which the account ends is not put
into the host again. -/
theorem not_region_spellings :
    parse "u:p@snowflakecomputing.com" = .error .emptyAccount ∧
      (∃ s, parse "u:p@snowflakecomputing?region=com" = .ok s ∧
        s.host = "snowflakecomputing.com.snowflakecomputing.com") ∧
      (∃ s, parse "u:p@myeu.eu" = .ok s ∧ s.host = "myeu.eu.snowflakecomputing.com") ∧
      ∃ s, parse "u:p@myeu?region=eu" = .ok s ∧ s.host = "myeu.snowflakecomputing.com" := by
  decide +kernel

end DataSource.Name
