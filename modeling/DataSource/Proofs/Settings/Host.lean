import DataSource.Proofs.Text.Search
import DataSource.Settings.Complete

/-!
# Hosts and regions

A region is put in front of the first occurrence of the domain in a host. The domain cannot overlap
itself, since its two labels begin differently, so a host that ends in the domain and has it nowhere
else is parted at its end (`firstIndex?_append_dottedDomain`). Putting a region into a host of an account
and two regions, the first of which it is, does not take the second out again
(`hostWithRegion_twice_iff`).
-/

namespace DataSource

/-! ## The domain -/

/-- The first label of the domain. -/
def domainLabel : List Char := "snowflakecomputing".toList

/-- The second label of the domain. -/
def domainTop : List Char := "com".toList

theorem toList_domain : domain.toList = domainLabel ++ '.' :: domainTop := by decide

theorem toList_dottedDomain : dottedDomain.toList = '.' :: domain.toList := by decide

/-- The domain has one dot, so in front of a text with a dot it ends before the dot or has its own dot
there. -/
theorem domain_prefix_iff {before after : List Char} :
    domain.toList <+: before ++ '.' :: after ↔
      domain.toList <+: before ∨ before = domainLabel ∧ domainTop <+: after := by
  constructor
  · rintro ⟨rest, h⟩
    rcases List.append_eq_append_iff.1 h with ⟨c, hbefore, -⟩ | ⟨c, hdomain, hafter⟩
    · exact .inl ⟨c, hbefore.symm⟩
    · rcases c with _ | ⟨d, c⟩
      · rw [List.append_nil] at hdomain
        exact .inl (hdomain ▸ List.prefix_rfl)
      · obtain ⟨rfl, rfl⟩ := List.cons.inj hafter
        rw [toList_domain] at hdomain
        obtain ⟨hlabel, -, htop⟩ :=
          (List.append_cons_inj_of_notMem (by decide) (by decide)).1 hdomain
        exact .inr ⟨hlabel.symm, htop ▸ List.prefix_append domainTop rest⟩
  · rintro (h | ⟨rfl, rest, rfl⟩)
    · exact h.trans (List.prefix_append before _)
    · exact ⟨rest, by rw [toList_domain]; simp⟩

theorem domain_suffix_iff {before after : List Char} :
    domain.toList <:+ before ++ '.' :: after ↔
      domain.toList <:+ after ∨ domainLabel <:+ before ∧ after = domainTop := by
  constructor
  · rintro ⟨rest, h⟩
    rcases List.append_eq_append_iff.1 h with ⟨c, hbefore, hdomain⟩ | ⟨c, hrest, hafter⟩
    · rw [toList_domain] at hdomain
      obtain ⟨rfl, -, rfl⟩ := (List.append_cons_inj_of_notMem (by decide) (by decide)).1 hdomain
      exact .inr ⟨⟨rest, hbefore.symm⟩, rfl⟩
    · rcases c with _ | ⟨d, c⟩
      · rw [toList_domain] at hafter
        exact absurd (List.cons.inj hafter).1 (by decide)
      · obtain ⟨-, rfl⟩ := List.cons.inj hafter
        exact .inl (List.suffix_append c _)
  · rintro (⟨rest, rfl⟩ | ⟨⟨rest, rfl⟩, rfl⟩)
    · exact ⟨before ++ '.' :: rest, by simp⟩
    · exact ⟨rest, by rw [toList_domain]; simp⟩

theorem infix_dottedDomain {text : List Char} (h : dottedDomain.toList <:+: text) :
    domain.toList <:+: text := by
  refine List.IsInfix.trans ?_ h
  rw [toList_dottedDomain]
  exact (List.suffix_cons '.' _).isInfix

theorem not_infix_of_not_mem {label : List Char} (hlabel : '.' ∉ label) :
    ¬dottedDomain.toList <:+: label := fun h => hlabel (h.subset (by decide))

/-- An occurrence of the dotted domain in a text with a dot, and not in front of the dot, begins at the
dot, or later, or its second dot is the dot. -/
theorem occurrence_at_dot {front text before after : List Char} (hfront : ¬dottedDomain.toList <:+: front)
    (h : front ++ '.' :: text = before ++ (dottedDomain.toList ++ after)) :
    (front = before ++ '.' :: domainLabel ∧ domainTop <+: text) ∨
      (before = front ∧ text = domain.toList ++ after) ∨
        ∃ rest, before = front ++ '.' :: rest ∧ text = rest ++ (dottedDomain.toList ++ after) := by
  rw [toList_dottedDomain, List.cons_append] at h
  rcases List.append_eq_append_iff.1 h with ⟨c, rfl, hc⟩ | ⟨c, rfl, hc⟩
  · rcases c with _ | ⟨d, c⟩
    · exact .inr (.inl ⟨List.append_nil front, (List.cons.inj hc).2⟩)
    · obtain ⟨rfl, hrest⟩ := List.cons.inj hc
      exact .inr (.inr ⟨c, rfl, by rw [toList_dottedDomain]; exact hrest⟩)
  · rcases c with _ | ⟨d, c⟩
    · exact .inr (.inl ⟨(List.append_nil before).symm, (List.cons.inj hc).2.symm⟩)
    · obtain ⟨rfl, hrest⟩ := List.cons.inj hc
      rcases domain_prefix_iff.1 ⟨after, hrest⟩ with ⟨rest, rfl⟩ | ⟨rfl, htop⟩
      · exact absurd ⟨before, rest, by rw [toList_dottedDomain]; simp⟩ hfront
      · exact .inl ⟨rfl, htop⟩

/-- The domain does not overlap itself, so in front of one it is there as a whole. -/
theorem prefix_of_append_dottedDomain {text after : List Char} (htext : text ≠ [])
    (h : text ++ dottedDomain.toList = dottedDomain.toList ++ after) : dottedDomain.toList <+: text := by
  obtain ⟨c, rest, rfl⟩ := List.exists_cons_of_ne_nil htext
  rw [toList_dottedDomain, List.cons_append, List.cons_append] at h
  obtain ⟨rfl, hrest⟩ := List.cons.inj h
  rcases domain_prefix_iff.1 ⟨after, hrest.symm⟩ with hwhole | ⟨-, htop⟩
  · rw [toList_dottedDomain]
    exact List.cons_prefix_cons.2 ⟨rfl, hwhole⟩
  · exact absurd htop (by decide)

theorem occurrence_cases {label text before after : List Char} (hlabel : '.' ∉ label)
    (h : label ++ '.' :: text = before ++ (dottedDomain.toList ++ after)) :
    before = label ∧ text = domain.toList ++ after ∨
      ∃ rest, before = label ++ '.' :: rest ∧ text = rest ++ (dottedDomain.toList ++ after) := by
  rcases occurrence_at_dot (not_infix_of_not_mem hlabel) h with ⟨rfl, -⟩ | hcases
  · exact absurd (List.mem_append_right before List.mem_cons_self) hlabel
  · exact hcases

theorem not_infix_append_cons {label text : List Char} (hlabel : '.' ∉ label)
    (h : ¬domain.toList <:+: text) : ¬dottedDomain.toList <:+: label ++ '.' :: text := by
  rintro ⟨before, after, hinfix⟩
  rw [List.append_assoc] at hinfix
  rcases occurrence_cases hlabel hinfix.symm with ⟨-, rfl⟩ | ⟨rest, -, rfl⟩
  · exact h (List.prefix_append _ after).isInfix
  · exact h (infix_dottedDomain ⟨rest, after, by simp⟩)

theorem firstIndex?_append_dottedDomain {host : List Char} (h : ¬dottedDomain.toList <:+: host) :
    Text.firstIndex? dottedDomain.toList (host ++ dottedDomain.toList) = some host.length := by
  obtain ⟨i, hle, hi⟩ := Text.exists_firstIndex?_le host dottedDomain.toList []
  rw [List.append_nil] at hi
  obtain ⟨before, after, htext, rfl⟩ := Text.exists_of_firstIndex? hi
  suffices hbefore : before = host by rw [hi, hbefore]
  rcases List.append_eq_append_iff.1 htext with ⟨c, rfl, -⟩ | ⟨c, rfl, hc⟩
  · rw [List.length_append] at hle
    rw [List.eq_nil_of_length_eq_zero (by omega : c.length = 0), List.append_nil]
  · rcases eq_or_ne c [] with rfl | hne
    · rw [List.append_nil]
    · have hbegins := prefix_of_append_dottedDomain hne hc.symm
      exact absurd (hbegins.isInfix.trans (List.suffix_append before c).isInfix) h

/-! ## Regions in hosts -/

section

variable {host region : String}

theorem toList_hostWithRegion {before : List Char} (after : List Char)
    (hhost : host.toList = before ++ (dottedDomain.toList ++ after)) (hbefore : before ≠ [])
    (hfirst : Text.firstIndex? dottedDomain.toList host.toList = some before.length) :
    (hostWithRegion host region).toList =
      if region.toList <:+ before then host.toList
      else before ++ '.' :: (region.toList ++ dottedDomain.toList) := by
  have htake : host.toList.take before.length = before := by rw [hhost, List.take_left]
  have hpos : ¬before.length < 1 := by
    have := List.length_pos_iff.2 hbefore
    omega
  rw [hostWithRegion, Text.find?_zero, hfirst]
  simp only [htake, hpos, false_or, Text.endsWith, List.isSuffixOf_iff_suffix]
  split
  · rfl
  · simp

theorem toList_hostWithRegion_append {before : List Char}
    (hhost : host.toList = before ++ dottedDomain.toList) (hbefore : before ≠ [])
    (hdomain : ¬dottedDomain.toList <:+: before) :
    (hostWithRegion host region).toList =
      if region.toList <:+ before then before ++ dottedDomain.toList
      else before ++ '.' :: (region.toList ++ dottedDomain.toList) := by
  rw [← hhost]
  refine toList_hostWithRegion [] (by simpa using hhost) hbefore ?_
  rw [hhost, firstIndex?_append_dottedDomain hdomain]

theorem hostWithRegion_eq_self {before : List Char} (hhost : host.toList = before ++ dottedDomain.toList)
    (hbefore : before ≠ []) (hdomain : ¬dottedDomain.toList <:+: before)
    (hregion : region.toList <:+ before) : hostWithRegion host region = host := by
  rw [← String.toList_inj, toList_hostWithRegion_append hhost hbefore hdomain, if_pos hregion, hhost]

theorem mem_hostWithRegion {c : Char} (h : c ∈ (hostWithRegion host region).toList) :
    c ∈ host.toList ∨ c ∈ region.toList ∨ c ∈ dottedDomain.toList := by
  unfold hostWithRegion at h
  split at h
  · exact .inl h
  · rename_i i _
    simp only at h
    split at h
    · exact .inl h
    · simp only [String.toList_append, String.toList_ofList, List.mem_append] at h
      rcases h with ((htake | hdot) | hregion) | hdomain
      · exact .inl (List.mem_of_mem_take htake)
      · have hmem : '.' ∈ dottedDomain.toList := by decide
        have hc : c = '.' := by simpa using hdot
        exact .inr (.inr (hc ▸ hmem))
      · exact .inr (.inl hregion)
      · exact .inr (.inr hdomain)

theorem prefix_of_append_cons {c : Char} {pattern before after : List Char} (hc : c ∉ pattern)
    (h : pattern <+: before ++ c :: after) : pattern <+: before := by
  obtain ⟨rest, h⟩ := h
  rcases List.append_eq_append_iff.1 h with ⟨d, hbefore, -⟩ | ⟨d, hpattern, hafter⟩
  · exact ⟨d, hbefore.symm⟩
  · rcases d with _ | ⟨e, d⟩
    · rw [List.append_nil] at hpattern
      exact hpattern ▸ List.prefix_rfl
    · obtain ⟨rfl, -⟩ := List.cons.inj hafter
      exact absurd (hpattern ▸ List.mem_append_right before List.mem_cons_self) hc

/-- A host with the domain behind its first label is parted at that label or at a later dot. -/
theorem exists_parting (region : String) {label text : List Char} (hlabel : '.' ∉ label) (hopen : label ≠ [])
    (hdomain : dottedDomain.toList <:+: '.' :: text) (hhost : host.toList = label ++ '.' :: text) :
    ∃ before after,
      (before = label ∧ text = domain.toList ++ after ∨
        ∃ rest, before = label ++ '.' :: rest ∧ text = rest ++ (dottedDomain.toList ++ after) ∧
          ¬domain.toList <+: text) ∧
      (hostWithRegion host region).toList =
        if region.toList <:+ before then host.toList
        else before ++ '.' :: (region.toList ++ dottedDomain.toList) := by
  obtain ⟨first, rest, hinfix⟩ := hdomain
  obtain ⟨i, -, hi⟩ := Text.exists_firstIndex?_le (label ++ first) dottedDomain.toList rest
  have htext : label ++ first ++ (dottedDomain.toList ++ rest) = host.toList := by
    rw [hhost, ← hinfix]
    simp
  rw [htext] at hi
  obtain ⟨before, after, hbefore, rfl⟩ := Text.exists_of_firstIndex? hi
  have hcases := occurrence_cases hlabel (hhost.symm.trans hbefore)
  refine ⟨before, after, ?_, toList_hostWithRegion after hbefore ?_ hi⟩
  · rcases hcases with hat | ⟨m, rfl, hm⟩
    · exact .inl hat
    · refine .inr ⟨m, rfl, hm, ?_⟩
      rintro ⟨last, rfl⟩
      obtain ⟨j, hle, hj⟩ := Text.exists_firstIndex?_le label dottedDomain.toList last
      have hhost' : label ++ (dottedDomain.toList ++ last) = host.toList := by
        rw [hhost, toList_dottedDomain, List.cons_append]
      rw [hhost', hi] at hj
      cases hj
      rw [List.length_append, List.length_cons] at hle
      omega
  · rcases hcases with ⟨rfl, -⟩ | ⟨m, rfl, -⟩
    · exact hopen
    · simp

/-! ## A region behind an account and in front of another -/

variable {label tail : List Char}

theorem infix_cons_append (text : List Char) :
    dottedDomain.toList <:+: '.' :: (text ++ dottedDomain.toList) := ⟨'.' :: text, [], by simp⟩

theorem append_label_ne {longer shorter : List Char} (h : shorter.length < longer.length) :
    label ++ '.' :: longer ≠ label ++ '.' :: shorter := by
  intro heq
  obtain ⟨-, rfl⟩ := List.cons.inj (List.append_cancel_left heq)
  exact Nat.lt_irrefl _ h

theorem hostWithRegion_twice_ne (hlabel : '.' ∉ label) (hopen : label ≠ []) (hregion : region ≠ "")
    (hhost : host.toList =
      label ++ '.' :: (region.toList ++ '.' :: (tail ++ dottedDomain.toList)))
    (hlater : ¬domain.toList <+: region.toList ++ '.' :: (tail ++ dottedDomain.toList)) :
    (hostWithRegion (hostWithRegion host region) region).toList ≠
      label ++ '.' :: (region.toList ++ dottedDomain.toList) := by
  obtain ⟨before, after, hcases, hset⟩ := exists_parting region hlabel hopen
    (by simpa using infix_cons_append (region.toList ++ '.' :: tail)) hhost
  rcases hcases with ⟨-, htext⟩ | ⟨rest, rfl, htext, -⟩
  · exact absurd ⟨after, htext.symm⟩ hlater
  split at hset
  · rw [String.toList_inj] at hset
    rw [hset, hset, hhost]
    refine append_label_ne ?_
    simp only [List.length_append, List.length_cons]
    omega
  rw [List.append_assoc, List.cons_append] at hset
  obtain ⟨before, after', hcases, htwice⟩ := exists_parting region hlabel hopen
    (by simpa using infix_cons_append (rest ++ '.' :: region.toList)) hset
  rcases hcases with ⟨-, htext'⟩ | ⟨rest', rfl, -, -⟩
  · -- The domain would begin behind the label, with the region for its second label.
    rcases domain_prefix_iff.1 ⟨after', htext'.symm⟩ with hwithin | ⟨rfl, htop⟩
    · refine absurd (hwithin.trans ?_) hlater
      rw [htext]
      exact List.prefix_append rest _
    · obtain ⟨c, region', hc⟩ := List.exists_cons_of_ne_nil (mt String.toList_eq_nil_iff.1 hregion)
      rw [hc] at htop htext
      obtain ⟨hcom, -⟩ := List.cons_prefix_cons.1 htop
      obtain ⟨hsnow, -⟩ := List.cons.inj htext
      exact absurd (hcom.trans hsnow) (by decide)
  · rw [htwice]
    split
    · rw [hset]
      refine append_label_ne ?_
      simp only [List.length_append, List.length_cons]
      omega
    · rw [List.append_assoc, List.cons_append]
      refine append_label_ne ?_
      simp only [List.length_append, List.length_cons]
      omega

theorem hostWithRegion_twice_iff_of_first (hlabel : '.' ∉ label) (hopen : label ≠ [])
    (hdomain : ¬domain.toList <:+: region.toList)
    (hhost : host.toList =
      label ++ '.' :: (region.toList ++ '.' :: (tail ++ dottedDomain.toList)))
    (hbegins : domain.toList <+: region.toList ++ '.' :: (tail ++ dottedDomain.toList)) :
    (hostWithRegion (hostWithRegion host region) region).toList =
        label ++ '.' :: (region.toList ++ dottedDomain.toList) ↔ ¬region.toList <:+ label := by
  obtain ⟨before, after, hcases, hset⟩ := exists_parting region hlabel hopen
    (by simpa using infix_cons_append (region.toList ++ '.' :: tail)) hhost
  rcases hcases with ⟨rfl, -⟩ | ⟨-, -, -, hlater⟩
  · by_cases hends : region.toList <:+ before
    · rw [if_pos hends, String.toList_inj] at hset
      rw [hset, hset, hhost]
      refine iff_of_false (append_label_ne ?_) (not_not.2 hends)
      simp only [List.length_append, List.length_cons]
      omega
    · rw [if_neg hends] at hset
      have hset' : (hostWithRegion host region).toList =
          before ++ '.' :: region.toList ++ dottedDomain.toList := by
        rw [hset, List.append_assoc, List.cons_append]
      refine iff_of_true ?_ hends
      rw [toList_hostWithRegion_append hset' (by simp) (not_infix_append_cons hlabel hdomain),
        if_pos ⟨before ++ ['.'], by simp⟩, List.append_assoc, List.cons_append]
  · exact absurd hbegins hlater

/-- Putting a region twice into a host of an account, the region and more leaves more in the host, unless
the region is the first label of the domain and what is behind it begins like the second. -/
theorem hostWithRegion_twice_iff (hlabel : '.' ∉ label) (hopen : label ≠ []) (hregion : region ≠ "")
    (hdomain : ¬domain.toList <:+: region.toList)
    (hhost : host.toList =
      label ++ '.' :: (region.toList ++ '.' :: (tail ++ dottedDomain.toList))) :
    (hostWithRegion (hostWithRegion host region) region).toList =
        label ++ '.' :: (region.toList ++ dottedDomain.toList) ↔
      region.toList = domainLabel ∧ domainTop <+: tail ∧ ¬region.toList <:+ label := by
  have hbegins : domain.toList <+: region.toList ++ '.' :: (tail ++ dottedDomain.toList) ↔
      region.toList = domainLabel ∧ domainTop <+: tail := by
    rw [domain_prefix_iff, or_iff_right (mt List.IsPrefix.isInfix hdomain), toList_dottedDomain]
    exact and_congr_right fun _ =>
      ⟨prefix_of_append_cons (by decide), fun h => h.trans (List.prefix_append tail _)⟩
  rw [← and_assoc, ← hbegins]
  by_cases hfirst : domain.toList <+: region.toList ++ '.' :: (tail ++ dottedDomain.toList)
  · rw [hostWithRegion_twice_iff_of_first hlabel hopen hdomain hhost hfirst, and_iff_right hfirst]
  · exact iff_of_false (hostWithRegion_twice_ne hlabel hopen hregion hhost hfirst) fun h => hfirst h.1

end

end DataSource
