import DataSource.Proofs.Name.Stages
import DataSource.Proofs.Settings.Bounded
import DataSource.Proofs.Settings.Host
import DataSource.Proofs.Text.Occurrence

/-!
# Completing settings twice

Completed settings can be completed again, and that changes the host at most (`fill_fill_eq`). The host
changes if the region, which stands in front of the domain now, has made another domain in front of
itself: inside the region, or across the dot that the region was put behind (`Displaced`). Then the region
is put in once more, at the new place. `complete_complete_iff`: without such a domain, and only then, the
second time changes nothing.
-/

namespace DataSource

/-! ## The first domain of a host -/

/-- The host has the domain behind `front`, and there for the first time. -/
structure DomainAfter (front host : List Char) : Prop where
  occurs : ∃ after, host = front ++ (dottedDomain.toList ++ after)
  first : ∀ i < front.length, ¬Text.OccursAt dottedDomain.toList host i

theorem DomainAfter.not_infix {front host : List Char} (h : DomainAfter front host) :
    ¬dottedDomain.toList <:+: front := by
  rintro ⟨before, after, rfl⟩
  obtain ⟨rest, hhost⟩ := h.occurs
  refine h.first before.length ?_ ⟨before, after ++ (dottedDomain.toList ++ rest), ?_, rfl⟩
  · have hlength : 0 < dottedDomain.toList.length := by decide
    simp only [List.length_append]
    omega
  · rw [hhost]
    simp

theorem DomainAfter.firstIndex? {front host : List Char} (h : DomainAfter front host) :
    Text.firstIndex? dottedDomain.toList host = some front.length := by
  obtain ⟨after, hhost⟩ := h.occurs
  exact Text.firstIndex?_eq_some_iff.2 ⟨⟨front, after, hhost, rfl⟩, h.first⟩

theorem exists_domainAfter {host : List Char} (h : dottedDomain.toList <:+: host) :
    ∃ front, DomainAfter front host := by
  obtain ⟨before, after, hhost⟩ := h
  obtain ⟨i, -, hi⟩ := Text.exists_firstIndex?_le before dottedDomain.toList after
  rw [← List.append_assoc, hhost] at hi
  obtain ⟨⟨front, rest, hfront, rfl⟩, hfirst⟩ := Text.firstIndex?_eq_some_iff.1 hi
  exact ⟨front, ⟨rest, hfront⟩, hfirst⟩

/-! ## Regions that are displaced -/

/-- The region is put into the host behind `front`, which does not end in it. -/
structure PutBehind (host region front : List Char) : Prop extends DomainAfter front host where
  nonempty : front ≠ []
  absent : ¬region <:+ front

/-- The text with the region and the domain behind `front`. -/
def putBehind (front region : List Char) : List Char :=
  front ++ '.' :: (region ++ dottedDomain.toList)

/-- A region behind `front` makes another domain in front of its own one, and does not stand there. -/
inductive Displaced (front region : List Char) : Prop
  /-- The first label of the domain ends the front, and the second one begins the region. -/
  | across {rest : List Char} (hfront : front = rest ++ '.' :: domainLabel) (htop : domainTop <+: region)
      (hrest : rest ≠ []) (habsent : ¬region <:+ rest) : Displaced front region
  /-- The region has the domain inside it. -/
  | within (hfront : ¬('.' :: domainLabel <:+ front ∧ domainTop <+: region))
      (hbegins : ¬domain.toList <+: region) (hdomain : dottedDomain.toList <:+: region) :
      Displaced front region

section

variable {front region before after : List Char}

theorem putBehind_inj {other : List Char} : putBehind front region = putBehind other region ↔ front = other :=
  List.append_left_inj _

/-- Where the domain occurs behind a front without it: across its end, at its end, or later. -/
theorem putBehind_cases (hfront : ¬dottedDomain.toList <:+: front)
    (h : putBehind front region = before ++ (dottedDomain.toList ++ after)) :
    (front = before ++ '.' :: domainLabel ∧ domainTop <+: region) ∨
      (before = front ∧ domain.toList <+: region) ∨
        ∃ rest, before = front ++ '.' :: rest ∧
          region ++ dottedDomain.toList = rest ++ (dottedDomain.toList ++ after) := by
  rcases occurrence_at_dot hfront h with ⟨hacross, htop⟩ | ⟨hat, htext⟩ | hlater
  · rw [toList_dottedDomain] at htop
    exact .inl ⟨hacross, prefix_of_append_cons (by decide) htop⟩
  · rw [toList_dottedDomain] at htext
    rcases domain_prefix_iff.1 ⟨after, htext.symm⟩ with hbegins | ⟨-, htop⟩
    · exact .inr (.inl ⟨hat, hbegins⟩)
    · exact absurd htop (by decide)
  · exact .inr (.inr hlater)

theorem putBehind_across (rest : List Char) (htop : domainTop <+: region) :
    ∃ after, putBehind (rest ++ '.' :: domainLabel) region = rest ++ (dottedDomain.toList ++ after) := by
  obtain ⟨tail, rfl⟩ := htop
  refine ⟨tail ++ dottedDomain.toList, ?_⟩
  rw [putBehind, toList_dottedDomain, toList_domain]
  simp

theorem putBehind_begins (front : List Char) (h : domain.toList <+: region) :
    ∃ after, putBehind front region = front ++ (dottedDomain.toList ++ after) := by
  obtain ⟨tail, rfl⟩ := h
  refine ⟨tail ++ dottedDomain.toList, ?_⟩
  rw [putBehind, toList_dottedDomain]
  simp

theorem infix_of_later {rest : List Char} (habsent : ¬region <:+ rest)
    (h : region ++ dottedDomain.toList = rest ++ (dottedDomain.toList ++ after)) :
    dottedDomain.toList <:+: region := by
  rcases List.append_eq_append_iff.1 h with ⟨c, hrest, hc⟩ | ⟨c, hregion, hc⟩
  · have hlength := congrArg List.length hc
    simp only [List.length_append] at hlength
    have hnil : c = [] := List.eq_nil_of_length_eq_zero (by omega)
    rw [hnil, List.append_nil] at hrest
    exact absurd (hrest ▸ List.suffix_rfl) habsent
  · rcases eq_or_ne c [] with rfl | hne
    · rw [List.append_nil] at hregion
      exact absurd (hregion ▸ List.suffix_rfl) habsent
    · -- The domain that begins inside the region ends there too, as it does not overlap itself.
      obtain ⟨tail, rfl⟩ := prefix_of_append_dottedDomain hne hc.symm
      exact ⟨rest, tail, by rw [hregion, List.append_assoc]⟩

theorem displaced_of_putBehind {other : List Char} (hfront : ¬dottedDomain.toList <:+: front)
    (hother : PutBehind (putBehind front region) region other) (hne : other ≠ front) :
    Displaced front region := by
  obtain ⟨after, htext⟩ := hother.occurs
  rcases putBehind_cases hfront htext with ⟨hacross, htop⟩ | ⟨rfl, -⟩ | ⟨rest, rfl, hregion⟩
  · exact .across hacross htop hother.nonempty hother.absent
  · exact absurd rfl hne
  · -- The domain found first is a later one, so there is none across the end of the front or at it.
    have hfirst {i : Nat} (hi : i ≤ front.length) :
        ¬Text.OccursAt dottedDomain.toList (putBehind front region) i := by
      refine hother.first i ?_
      rw [List.length_append, List.length_cons]
      omega
    refine .within ?_ (fun hbegins => ?_) ?_
    · rintro ⟨⟨rest', rfl⟩, htop⟩
      obtain ⟨after', hacross⟩ := putBehind_across rest' htop
      exact hfirst (by simp) ⟨rest', after', hacross, rfl⟩
    · obtain ⟨after', hat⟩ := putBehind_begins front hbegins
      exact hfirst le_rfl ⟨front, after', hat, rfl⟩
    · have hends : rest <:+ front ++ '.' :: rest := ⟨front ++ ['.'], by simp⟩
      exact infix_of_later (fun hsuffix => hother.absent (hsuffix.trans hends)) hregion

theorem exists_putBehind_of_displaced (hfront : ¬dottedDomain.toList <:+: front)
    (h : Displaced front region) :
    ∃ other, PutBehind (putBehind front region) region other ∧ other ≠ front := by
  cases h with
  | @across rest hacross htop hrest habsent =>
    subst hacross
    refine ⟨rest, ⟨⟨putBehind_across rest htop, ?_⟩, hrest, habsent⟩, by simp⟩
    rintro i hi ⟨before, after, htext, rfl⟩
    rcases putBehind_cases hfront htext with ⟨heq, -⟩ | ⟨rfl, -⟩ | ⟨tail, rfl, -⟩
    · rw [List.append_left_inj] at heq
      exact absurd hi (by rw [heq]; exact lt_irrefl _)
    · simp only [List.length_append] at hi
      omega
    · simp only [List.length_append] at hi
      omega
  | within hacross hbegins hdomain =>
    have hoccurs : dottedDomain.toList <:+: putBehind front region :=
      hdomain.trans ⟨front ++ ['.'], dottedDomain.toList, by simp [putBehind]⟩
    obtain ⟨other, hother⟩ := exists_domainAfter hoccurs
    obtain ⟨after, htext⟩ := hother.occurs
    rcases putBehind_cases hfront htext with ⟨rfl, htop⟩ | ⟨-, hat⟩ | ⟨rest, rfl, -⟩
    · exact absurd ⟨⟨other, rfl⟩, htop⟩ hacross
    · exact absurd hat hbegins
    · refine ⟨_, ⟨hother, by simp, fun hends => ?_⟩, by simp⟩
      exact hother.not_infix (hdomain.trans hends.isInfix)

theorem exists_putBehind_iff (hfront : ¬dottedDomain.toList <:+: front) :
    (∃ other, PutBehind (putBehind front region) region other ∧ other ≠ front) ↔
      Displaced front region := by
  constructor
  · rintro ⟨other, hother, hne⟩
    exact displaced_of_putBehind hfront hother hne
  · exact exists_putBehind_of_displaced hfront

end

/-! ## Putting a region in twice -/

section

variable {host region : String} {front : List Char}

theorem toList_hostWithRegion_of_putBehind (h : PutBehind host.toList region.toList front) :
    (hostWithRegion host region).toList = putBehind front region.toList := by
  obtain ⟨after, hhost⟩ := h.occurs
  rw [toList_hostWithRegion after hhost h.nonempty h.firstIndex?, if_neg h.absent, putBehind]

theorem hostWithRegion_of_not_putBehind (h : ∀ front, ¬PutBehind host.toList region.toList front) :
    hostWithRegion host region = host := by
  rw [hostWithRegion, Text.find?_zero]
  cases hfirst : Text.firstIndex? dottedDomain.toList host.toList with
  | none => rfl
  | some i =>
    obtain ⟨⟨front, after, hhost, rfl⟩, hbefore⟩ := Text.firstIndex?_eq_some_iff.1 hfirst
    have htake : host.toList.take front.length = front := by rw [hhost, List.take_left]
    simp only [htake]
    refine if_pos ?_
    by_contra hput
    rw [not_or, Text.endsWith, List.isSuffixOf_iff_suffix] at hput
    refine h front ⟨⟨⟨after, hhost⟩, hbefore⟩, ?_, hput.2⟩
    rintro rfl
    exact hput.1 Nat.one_pos

/-- A host into which a region was put stays as it is if and only if the region is not displaced. -/
theorem hostWithRegion_hostWithRegion_iff (host region : String) :
    hostWithRegion (hostWithRegion host region) region = hostWithRegion host region ↔
      ∀ front, PutBehind host.toList region.toList front → ¬Displaced front region.toList := by
  by_cases hput : ∃ front, PutBehind host.toList region.toList front
  · obtain ⟨front, hfront⟩ := hput
    have honce := toList_hostWithRegion_of_putBehind hfront
    have hunique (other : List Char) (h : PutBehind host.toList region.toList other) : other = front :=
      putBehind_inj.1 ((toList_hostWithRegion_of_putBehind h).symm.trans honce)
    have hagain : (∀ front, PutBehind host.toList region.toList front → ¬Displaced front region.toList) ↔
        ¬Displaced front region.toList :=
      ⟨fun h => h front hfront, fun h other hother => hunique other hother ▸ h⟩
    rw [hagain, ← exists_putBehind_iff hfront.not_infix, ← honce]
    push Not
    constructor
    · intro hsame other hother
      have htwice := toList_hostWithRegion_of_putBehind hother
      rw [hsame, honce, putBehind_inj] at htwice
      exact htwice.symm
    · intro hsame
      by_cases hother : ∃ other, PutBehind (hostWithRegion host region).toList region.toList other
      · obtain ⟨other, hother⟩ := hother
        rw [← String.toList_inj, toList_hostWithRegion_of_putBehind hother, hsame other hother, honce]
      · exact hostWithRegion_of_not_putBehind (not_exists.1 hother)
  · have hhost := hostWithRegion_of_not_putBehind (not_exists.1 hput)
    rw [hhost, hhost]
    exact iff_of_true rfl fun front hfront => absurd ⟨front, hfront⟩ hput

end

namespace Settings

theorem host_fill_eq_hostWithRegion (s : Settings) :
    s.fill.host = hostWithRegion s.host s.region := by
  show (if s.region = "" then s.host else hostWithRegion s.host s.region) = _
  by_cases hregion : s.region = ""
  · rw [if_pos hregion, hregion]
    have habsent : "".toList <:+ ([] : List Char) := List.suffix_rfl
    exact (hostWithRegion_of_not_putBehind fun front h =>
      h.absent (habsent.trans List.nil_suffix)).symm
  · rw [if_neg hregion]

/-- Settings that were completed can be completed again, which keeps everything but the host, and also
the host if and only if the region is not displaced. -/
theorem complete_complete_iff {s t : Settings} (h : s.complete = .ok t) :
    ∃ u, t.complete = .ok u ∧ u = { t with host := u.host } ∧
      (u = t ↔ ∀ front, PutBehind s.host.toList s.region.toList front →
        ¬Displaced front s.region.toList) := by
  obtain ⟨hmissing, rfl⟩ := complete_eq_ok_iff.1 h
  refine ⟨s.fill.fill, complete_eq_ok_iff.2 ⟨hmissing, rfl⟩, s.fill_fill_eq, ?_⟩
  rw [← hostWithRegion_hostWithRegion_iff, ← host_fill_eq_hostWithRegion]
  have hregion : s.fill.region = s.region := rfl
  rw [← hregion, ← host_fill_eq_hostWithRegion]
  exact ⟨congrArg Settings.host, fill_fill⟩

/-- Settings of one account at a host with a region. -/
def atHost (host region : String) : Settings :=
  { account := "acc", user := "u", password := "p", host, region }

theorem complete_complete_begins :
    ∃ t, (atHost "acc.snowflakecomputing.com" "snowflakecomputing.com-x").complete = .ok t ∧
      t.host = "acc.snowflakecomputing.com-x.snowflakecomputing.com" ∧ t.complete = .ok t ∧
      ∀ front, PutBehind "acc.snowflakecomputing.com".toList "snowflakecomputing.com-x".toList front →
        ¬Displaced front "snowflakecomputing.com-x".toList := by
  obtain ⟨t, ht, hhost, hagain⟩ :
      ∃ t, (atHost "acc.snowflakecomputing.com" "snowflakecomputing.com-x").complete = .ok t ∧
        t.host = "acc.snowflakecomputing.com-x.snowflakecomputing.com" ∧ t.complete = .ok t := by
    decide +kernel
  obtain ⟨u, hu, -, hiff⟩ := complete_complete_iff ht
  have hsame : u = t := Except.ok.inj (hu.symm.trans hagain)
  exact ⟨t, ht, hhost, hagain, hiff.1 hsame⟩

/-- A region that ends in the domain is put in twice, and one that begins like the second label of the
domain, behind the first label, is put in at an earlier place. -/
theorem complete_complete_ne :
    (∃ t, (atHost "acc.snowflakecomputing.com" "x.snowflakecomputing.com").complete = .ok t ∧
      t.host = "acc.x.snowflakecomputing.com.snowflakecomputing.com" ∧
      ∃ u, t.complete = .ok u ∧ u.host = "acc.x.x.snowflakecomputing.com.snowflakecomputing.com") ∧
    ∃ t, (atHost "acc.snowflakecomputing.snowflakecomputing.com" "com").complete = .ok t ∧
      t.host = "acc.snowflakecomputing.com.snowflakecomputing.com" ∧
      ∃ u, t.complete = .ok u ∧ u.host = "acc.com.snowflakecomputing.com" := by
  decide +kernel

end Settings

end DataSource
