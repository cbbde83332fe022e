import DataSource.Proofs.Name.Fault
import DataSource.Proofs.Name.Rebuild
import DataSource.Proofs.Settings.Host

/-!
# The host of open settings

Settings without a host are written with the host of their account and region as they are set, and only
then is a dotted account parted; what is behind its dot takes the place of the region. That text is put
into the host when the settings are completed to be written, and again when the name is read. So the name
reads back with the host of the account and region that it reads back with if at most one of account and
region told a region, and otherwise both regions stay in the host, but for a second one that makes the
domain with the first (`host_fill_normalForm_iff`, `host_reparse_iff`).
-/

namespace DataSource.Name

/-! ## Reading a name whose parts stay apart -/

section

variable {n : Settings}

theorem exists_setAll_writtenPairs_iff_secondsFit (s : Settings) :
    (∃ t, setAll s (writtenPairs n) = .ok t) ↔
      n.loginTimeout.SecondsFit ∧ n.requestTimeout.SecondsFit := by
  rw [exists_setAll_writtenPairs_iff]
  have hwritten {d default : Duration} (hdefault : default.SecondsFit)
      (h : (d != default) = true → ∃ x, Kind.duration.ofText? (Kind.duration.spell d) = some x) :
      d.SecondsFit := by
    by_cases hd : d = default
    · rwa [hd]
    · exact Kind.exists_ofText?_spell_duration_iff.1 (h (bne_iff_ne.2 hd))
  constructor
  · intro h
    exact ⟨hwritten (by decide) (h .loginTimeout), hwritten (by decide) (h .requestTimeout)⟩
  · rintro ⟨hlogin, hrequest⟩ f hneeded
    cases f with
    | loginTimeout => exact Kind.exists_ofText?_spell_duration_iff.2 hlogin
    | requestTimeout => exact Kind.exists_ofText?_spell_duration_iff.2 hrequest
    | port | proxyPort => cases hneeded
    | passcodeInPassword | insecureMode => exact ⟨_, Kind.ofText?_spell trivial⟩
    | _ => exact ⟨_, rfl⟩

theorem secondsFit_fill {d default : Duration} (hdefault : default.SecondsFit) :
    (if d = .zero then default else d).SecondsFit ↔ d.SecondsFit := by
  split
  · rename_i hzero
    have hfit : Duration.zero.SecondsFit := by decide
    exact iff_of_true hdefault (hzero ▸ hfit)
  · rfl

theorem exists_unescapeNames_congr {s t : Settings} (h : namesOf s = namesOf t) :
    (∃ u, unescapeNames s = .ok u) ↔ ∃ u, unescapeNames t = .ok u := by
  simp only [exists_eq_ok_iff, ne_eq, unescapeNames_eq_error_iff, h]

theorem namesOf_of_written {u : Settings} (haccount : n.account ≠ "")
    (hu : setAll (targetOnly n) (writtenPairs n) = .ok u) :
    namesOf (setAccount u).fill = namesOf n := by
  have hget (f : Field) (hf : f.kind.Fits (n.get f)) := get_fill_of_written haccount hu hf
  have hdatabase : (setAccount u).fill.database = n.database := hget .database trivial
  have hschema : (setAccount u).fill.schema = n.schema := hget .schema trivial
  have hrole : (setAccount u).fill.role = n.role := hget .role trivial
  have hwarehouse : (setAccount u).fill.warehouse = n.warehouse := hget .warehouse trivial
  simp only [namesOf, hdatabase, hschema, hrole, hwarehouse]

theorem exists_parse_write_iff (hn : Apart n) (hmissing : n.missing? = none) :
    (∃ c, parse (write n) = .ok c) ↔
      (∃ t, unescapeNames n = .ok t) ∧ n.loginTimeout.SecondsFit ∧ n.requestTimeout.SecondsFit := by
  have haccount : n.account ≠ "" := (Settings.missing?_eq_none_iff.1 hmissing).1
  have hcomplete {u : Settings} (hu : setAll (targetOnly n) (writtenPairs n) = .ok u) :
      (setAccount u).complete = .ok (setAccount u).fill :=
    Settings.complete_eq_ok_iff.2 ⟨missing?_of_written hmissing hu, rfl⟩
  rw [parse_write_eq hn, ← exists_setAll_writtenPairs_iff_secondsFit (targetOnly n)]
  constructor
  · rintro ⟨c, hc⟩
    obtain ⟨u, hu, hc⟩ := exists_of_bind_eq_ok hc
    rw [hcomplete hu] at hc
    exact ⟨(exists_unescapeNames_congr (namesOf_of_written haccount hu)).1 ⟨c, hc⟩, u, hu⟩
  · rintro ⟨hnames, u, hu⟩
    obtain ⟨c, hc⟩ := (exists_unescapeNames_congr (namesOf_of_written haccount hu)).2 hnames
    refine ⟨c, ?_⟩
    rw [hu]
    simpa only [Except.bind, hcomplete hu] using hc

theorem target_of_parse_write (hn : Apart n) (hmissing : n.missing? = none) {c : Settings}
    (h : parse (write n) = .ok c) :
    c.account = n.account ∧ c.region = n.region ∧ c.host = n.fill.host := by
  have haccount : n.account ≠ "" := (Settings.missing?_eq_none_iff.1 hmissing).1
  rw [parse_write_eq hn] at h
  obtain ⟨u, hu, h⟩ := exists_of_bind_eq_ok h
  obtain ⟨v, hv, h⟩ := exists_of_bind_eq_ok h
  obtain ⟨-, rfl⟩ := Settings.complete_eq_ok_iff.1 hv
  have hget (f : Field) (hf : f ∉ nameFields) (hfits : f.kind.Fits (n.get f)) :=
    (get_of_unescapeNames h hf).trans (get_fill_of_written haccount hu hfits)
  exact ⟨hget .account (by decide) trivial, hget .region (by decide) trivial,
    hget .host (by decide) trivial⟩

end

/-! ## The host that is written -/

section

variable {s : Settings}

theorem toList_derivedHost (s : Settings) :
    (derivedHost s).toList =
      (if s.region = "" then s.account.toList
        else s.account.toList ++ '.' :: s.region.toList) ++ dottedDomain.toList := by
  unfold derivedHost
  split <;> simp

theorem host_fill (s : Settings) :
    s.fill.host = if s.region = "" then s.host else hostWithRegion s.host s.region := rfl

theorem region_normalForm (s : Settings) : (normalForm s).region = (withTarget s).region := rfl

theorem derivedHost_normalForm (s : Settings) :
    derivedHost (normalForm s) = derivedHost (withTarget s) := rfl

theorem host_normalForm (hhost : s.host = "") :
    (normalForm s).host =
      if (withTarget s).region = "" then derivedHost s
      else hostWithRegion (derivedHost s) (withTarget s).region := by
  have htarget : (withTarget s).host = derivedHost s := if_pos hhost
  rw [normalForm, host_fill, htarget]

theorem host_fill_eq_self {before : List Char} (hhost : s.host.toList = before ++ dottedDomain.toList)
    (hbefore : before ≠ []) (hdomain : ¬dottedDomain.toList <:+: before)
    (hregion : s.region.toList <:+ before) : s.fill.host = s.host := by
  rw [host_fill, hostWithRegion_eq_self hhost hbefore hdomain hregion, ite_self]

theorem mem_splitRegion_fst {c : Char} {account region : List Char}
    (h : c ∈ (splitRegion account region).1) : c ∈ account ∨ c ∈ region := by
  unfold splitRegion at h
  split at h
  · exact .inr h
  · split at h
    · exact .inr h
    · exact .inl (List.mem_of_mem_drop h)

theorem separatorFree_derivedHost (haccount : SeparatorFree s.account.toList)
    (hregion : SeparatorFree s.region.toList) : SeparatorFree (derivedHost s).toList := by
  rw [toList_derivedHost]
  refine SeparatorFree.append ?_ (by decide)
  split
  · exact haccount
  · exact haccount.append_dot hregion

theorem separatorFree_host_normalForm (hhost : s.host = "") (haccount : SeparatorFree s.account.toList)
    (hregion : SeparatorFree s.region.toList) : SeparatorFree (normalForm s).host.toList := by
  intro c hc hmem
  have hdomain : SeparatorFree dottedDomain.toList := by decide
  have hderived : SeparatorFree (derivedHost s).toList := separatorFree_derivedHost haccount hregion
  have hsplit : c ∉ (withTarget s).region.toList := by
    show c ∉ (String.ofList (splitRegion s.account.toList s.region.toList).1).toList
    rw [String.toList_ofList]
    exact fun h => (mem_splitRegion_fst h).elim (haccount c hc) (hregion c hc)
  rw [host_normalForm hhost] at hmem
  split at hmem
  · exact hderived c hc hmem
  · rcases mem_hostWithRegion hmem with h | h | h
    · exact hderived c hc h
    · exact hsplit h
    · exact hdomain c hc h

/-! ## The host that is read back -/

theorem host_fill_normalForm_of_suffix (hhost : s.host = "") {before : List Char}
    (hderived : (derivedHost s).toList = before ++ dottedDomain.toList) (hbefore : before ≠ [])
    (hdomain : ¬dottedDomain.toList <:+: before)
    (hregion : (withTarget s).region.toList <:+ before) :
    (normalForm s).fill.host = derivedHost s := by
  have htarget : (withTarget s).host = derivedHost s := if_pos hhost
  have hnormal : (normalForm s).host = derivedHost s :=
    (host_fill_eq_self (s := withTarget s) (by rw [htarget, hderived]) hbefore hdomain hregion).trans
      htarget
  exact (host_fill_eq_self (s := normalForm s) (by rw [hnormal, hderived]) hbefore hdomain
    hregion).trans hnormal

theorem host_fill_normalForm_of_not_mem (hhost : s.host = "") (haccount : s.account ≠ "")
    (hdot : '.' ∉ s.account.toList) (hregion : ¬domain.toList <:+: s.region.toList) :
    (normalForm s).fill.host = derivedHost (normalForm s) := by
  have hsplit := splitRegion_of_not_mem s.region.toList hdot
  have haccountEq : (withTarget s).account = s.account := by
    show String.ofList (splitRegion s.account.toList s.region.toList).2 = s.account
    rw [hsplit, String.ofList_toList]
  have hregionEq : (withTarget s).region = s.region := by
    show String.ofList (splitRegion s.account.toList s.region.toList).1 = s.region
    rw [hsplit, String.ofList_toList]
  have hderived : derivedHost (normalForm s) = derivedHost s := by
    rw [derivedHost_normalForm, derivedHost, haccountEq, hregionEq, derivedHost]
  rw [hderived]
  refine host_fill_normalForm_of_suffix hhost (toList_derivedHost s) ?_ ?_ ?_
  · split
    · simpa using haccount
    · simp
  · split
    · exact not_infix_of_not_mem hdot
    · exact not_infix_append_cons hdot hregion
  · rw [hregionEq]
    split
    · rename_i hopen
      rw [hopen]
      exact List.nil_suffix
    · exact ⟨s.account.toList ++ ['.'], by simp⟩

section

variable {label rest : List Char}

theorem withTarget_of_dot (hlabel : '.' ∉ label) (hopen : label ≠ [])
    (haccount : s.account.toList = label ++ '.' :: rest) :
    (withTarget s).account = String.ofList label ∧ (withTarget s).region = String.ofList rest := by
  have hsplit : splitRegion s.account.toList s.region.toList = (rest, label) := by
    rw [haccount, splitRegion_append_cons rest s.region.toList hlabel, if_neg hopen]
  exact ⟨congrArg (String.ofList ∘ Prod.snd) hsplit, congrArg (String.ofList ∘ Prod.fst) hsplit⟩

theorem toList_derivedHost_normalForm (hlabel : '.' ∉ label) (hopen : label ≠ []) (hrest : rest ≠ [])
    (haccount : s.account.toList = label ++ '.' :: rest) :
    (derivedHost (normalForm s)).toList = label ++ '.' :: (rest ++ dottedDomain.toList) := by
  obtain ⟨haccountEq, hregionEq⟩ := withTarget_of_dot hlabel hopen haccount
  have hne : String.ofList rest ≠ "" := by simpa using hrest
  rw [derivedHost_normalForm, toList_derivedHost, haccountEq, hregionEq, if_neg hne]
  simp

theorem host_fill_normalForm_of_dot (hhost : s.host = "") (hregion : s.region = "")
    (hlabel : '.' ∉ label) (hopen : label ≠ []) (hrest : rest ≠ [])
    (haccount : s.account.toList = label ++ '.' :: rest) (hdomain : ¬domain.toList <:+: rest) :
    (normalForm s).fill.host = derivedHost (normalForm s) := by
  have hderived : (derivedHost s).toList = label ++ '.' :: rest ++ dottedDomain.toList := by
    rw [toList_derivedHost, if_pos hregion, haccount]
  have hsame : derivedHost (normalForm s) = derivedHost s := by
    rw [← String.toList_inj, toList_derivedHost_normalForm hlabel hopen hrest haccount, hderived]
    simp
  rw [hsame]
  refine host_fill_normalForm_of_suffix hhost hderived (by simp)
    (not_infix_append_cons hlabel hdomain) ?_
  rw [(withTarget_of_dot hlabel hopen haccount).2, String.toList_ofList]
  exact ⟨label ++ ['.'], by simp⟩

theorem host_fill_normalForm_iff_of_dot (hhost : s.host = "") (hregion : s.region ≠ "")
    (hlabel : '.' ∉ label) (hopen : label ≠ []) (hrest : rest ≠ [])
    (haccount : s.account.toList = label ++ '.' :: rest) (hdomain : ¬domain.toList <:+: rest) :
    (normalForm s).fill.host = derivedHost (normalForm s) ↔
      rest = domainLabel ∧ domainTop <+: s.region.toList ∧ ¬rest <:+ label := by
  have hregionEq := (withTarget_of_dot hlabel hopen haccount).2
  have hne : String.ofList rest ≠ "" := by simpa using hrest
  have hderived : (derivedHost s).toList =
      label ++ '.' :: ((String.ofList rest).toList ++ '.' :: (s.region.toList ++ dottedDomain.toList)) := by
    rw [toList_derivedHost, if_neg hregion, haccount]
    simp
  -- The host has both regions from the start, and the region of the account is put into it twice.
  have hfill : (normalForm s).fill.host =
      hostWithRegion (hostWithRegion (derivedHost s) (String.ofList rest)) (String.ofList rest) := by
    rw [host_fill, region_normalForm, host_normalForm hhost, hregionEq, if_neg hne, if_neg hne]
  have htwice := hostWithRegion_twice_iff hlabel hopen hne (by simpa using hdomain) hderived
  rw [String.toList_ofList] at htwice
  rw [hfill, ← String.toList_inj, toList_derivedHost_normalForm hlabel hopen hrest haccount, htwice]

end

/-- Whether the region in an account makes the domain with the region that was set: it is the first
label of the domain, and the region that was set begins like the second. -/
def Swallowed (account region : List Char) : Prop :=
  ∃ label, '.' ∉ label ∧ account = label ++ '.' :: domainLabel ∧ ¬domainLabel <:+ label ∧
    domainTop <+: region

/-- The completed host is the host of the account and the region that are written if and only if at most
one of account and region tells a region, or the second region is taken for a part of the domain. -/
theorem host_fill_normalForm_iff (hhost : s.host = "") (haccount : s.account ≠ "")
    (hfirst : s.account.toList.head? ≠ some '.') (hlast : s.account.toList.getLast? ≠ some '.')
    (haccountDomain : ¬domain.toList <:+: s.account.toList)
    (hregionDomain : ¬domain.toList <:+: s.region.toList) :
    (normalForm s).fill.host = derivedHost (normalForm s) ↔
      s.region = "" ∨ '.' ∉ s.account.toList ∨ Swallowed s.account.toList s.region.toList := by
  by_cases hdot : '.' ∈ s.account.toList
  · obtain ⟨label, rest, hsplit, hlabel⟩ := List.eq_append_cons_of_mem hdot
    have hopen : label ≠ [] := by
      rintro rfl
      exact hfirst (congrArg List.head? hsplit)
    have hrest : rest ≠ [] := by
      rintro rfl
      exact hlast (hsplit ▸ List.getLast?_concat)
    have hdomain : ¬domain.toList <:+: rest := by
      intro h
      refine haccountDomain (h.trans ?_)
      rw [hsplit]
      exact ⟨label ++ ['.'], [], by simp⟩
    by_cases hregion : s.region = ""
    · exact iff_of_true
        (host_fill_normalForm_of_dot hhost hregion hlabel hopen hrest hsplit hdomain) (.inl hregion)
    · rw [host_fill_normalForm_iff_of_dot hhost hregion hlabel hopen hrest hsplit hdomain,
        or_iff_right hregion, or_iff_right (not_not.2 hdot)]
      constructor
      · rintro ⟨rfl, htop, hends⟩
        exact ⟨label, hlabel, hsplit, hends, htop⟩
      · rintro ⟨label', hlabel', hsplit', hends, htop⟩
        obtain ⟨rfl, -, rfl⟩ :=
          (List.append_cons_inj_of_notMem hlabel' (by decide)).1 (hsplit'.symm.trans hsplit)
        exact ⟨rfl, htop, hends⟩
  · exact iff_of_true (host_fill_normalForm_of_not_mem hhost haccount hdot hregionDomain)
      (.inr (.inl hdot))

/-! ## The round trip -/

/-- Settings without a host are read back if and only if their times and names are, and then the host is
the host of the account and the region that are read back, unless two regions were told. -/
theorem host_reparse_iff (hhost : s.host = "")
    (hnonempty : s.account ≠ "" ∧ s.user ≠ "" ∧ s.password ≠ "")
    (huser : ':' ∉ s.user.toList ∧ '/' ∉ s.user.toList) (hpassword : '/' ∉ s.password.toList)
    (hport : Integer.min64 ≤ s.port ∧ s.port ≤ Integer.max64)
    (hdots : s.account.toList.head? ≠ some '.' ∧ s.account.toList.getLast? ≠ some '.')
    (hclean : ∀ text ∈ [s.account, s.region],
      SeparatorFree text.toList ∧ ¬domain.toList <:+: text.toList) :
    ((∃ c, reparse s = .ok c) ↔
        (∃ t, unescapeNames s = .ok t) ∧ s.loginTimeout.SecondsFit ∧ s.requestTimeout.SecondsFit) ∧
      ∀ c, reparse s = .ok c →
        (c.host = derivedHost c ↔
          s.region = "" ∨ '.' ∉ s.account.toList ∨ Swallowed s.account.toList s.region.toList) := by
  obtain ⟨haccountClean, haccountDomain⟩ := hclean s.account (by simp)
  obtain ⟨hregionClean, hregionDomain⟩ := hclean s.region (by simp)
  have hmissing : s.missing? = none := Settings.missing?_eq_none_iff.2 hnonempty
  have hn : Apart (normalForm s) :=
    apart_normalForm huser hpassword
      (separatorFree_host_normalForm hhost haccountClean hregionClean)
      (Settings.fits_port_fill (s := withTarget s) hport)
  have hmissing' : (normalForm s).missing? = none := missing?_withTarget hmissing
  rw [reparse_eq hmissing]
  constructor
  · rw [exists_parse_write_iff hn hmissing']
    refine and_congr (exists_unescapeNames_congr rfl) (and_congr ?_ ?_)
    · exact secondsFit_fill (by decide)
    · exact secondsFit_fill (by decide)
  · intro c hc
    obtain ⟨haccount, hregion, hhostEq⟩ := target_of_parse_write hn hmissing' hc
    rw [← host_fill_normalForm_iff hhost hnonempty.1 hdots.1 hdots.2 haccountDomain hregionDomain,
      hhostEq, derivedHost, haccount, hregion, derivedHost]

theorem host_reparse_acme :
    ∃ c, reparse { account := "acme", user := "u@x", password := "p:q", region := "eu" } = .ok c ∧
      c.host = derivedHost c := by
  obtain ⟨hread, hderived⟩ := host_reparse_iff
    (s := { account := "acme", user := "u@x", password := "p:q", region := "eu" }) rfl (by decide)
    (by decide) (by decide) (by decide) (by decide) (by decide +kernel)
  obtain ⟨c, hc⟩ := hread.2 ⟨⟨_, rfl⟩, by decide, by decide⟩
  exact ⟨c, hc, (hderived c hc).2 (.inr (.inl (by decide)))⟩

/-- A region in the account and one beside it both stay in the host, whether they are the same or not. -/
theorem host_reparse_two_regions :
    (∃ c, reparse { account := "a.b", user := "u", password := "p", region := "b" } = .ok c ∧
        c.account = "a" ∧ c.region = "b" ∧ c.host = "a.b.b.snowflakecomputing.com") ∧
      ∃ c, reparse { account := "a.b", user := "u", password := "p", region := "c" } = .ok c ∧
        c.account = "a" ∧ c.region = "b" ∧ c.host = "a.b.c.b.snowflakecomputing.com" := by
  decide +kernel

/-- Here the region that was set ends the domain, and what is behind it is dropped. -/
example : ∃ c, reparse
    { account := "a.snowflakecomputing", user := "u", password := "p", region := "com" } = .ok c ∧
      c.host = derivedHost c := by decide +kernel

end

end DataSource.Name
