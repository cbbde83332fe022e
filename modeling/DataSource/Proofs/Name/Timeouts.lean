import DataSource.Proofs.Name.RoundTrip
import DataSource.Proofs.Settings.Entries

/-!
# The seconds of a timeout

A dictionary and a query carry a timeout as a number of whole seconds. `timeout_seconds` says which number
that is, when it is right, and what becomes of it where it is read again. It is one more than the exact
seconds of a timeout that is rounded up; from the last second of the longest timeouts it is rounded to a
number that no timeout has, and then neither reader accepts it.
-/

namespace DataSource.Name

/-- The timeouts of a connection, with their keys in a query and their defaults. -/
def timeouts : List (Field × String × Duration) :=
  [(.loginTimeout, "loginTimeout", defaultLoginTimeout),
    (.requestTimeout, "requestTimeout", defaultRequestTimeout)]

variable {f : Field} {key : String} {default d : Duration} {s : Settings}

theorem mem_timeouts_iff : (f, key, default) ∈ timeouts ↔
    f = .loginTimeout ∧ key = "loginTimeout" ∧ default = defaultLoginTimeout ∨
      f = .requestTimeout ∧ key = "requestTimeout" ∧ default = defaultRequestTimeout := by
  simp [timeouts]

theorem queryKey?_of_mem_timeouts (hf : (f, key, default) ∈ timeouts) : f.queryKey? = some key := by
  obtain ⟨rfl, rfl, -⟩ | ⟨rfl, rfl, -⟩ := mem_timeouts_iff.1 hf <;> rfl

/-! ## Writing -/

theorem get?_toTable_of_duration (hd : f.kind.toValue (s.get f) = .duration d) :
    s.toTable.get? f.name = if d.wholeSeconds = 0 then none else some (.integer d.wholeSeconds) := by
  rw [Settings.get?_toTable, hd, Settings.keptValue]
  by_cases hzero : d.wholeSeconds = 0
  · simp [Value.isPresent, hzero]
  · simp [Value.isPresent, hzero]

theorem spell_of_duration {k : Kind} {x : k.Content} (h : k.toValue x = .duration d) :
    k.spell x = toString d.wholeSeconds := by
  cases k with
  | duration =>
    cases h
    rfl
  | _ => cases h

theorem toValue_get_normalForm (hf : (f, key, default) ∈ timeouts)
    (hd : f.kind.toValue (s.get f) = .duration d) :
    f.kind.toValue ((normalForm s).get f) = .duration (if d = .zero then default else d) := by
  obtain ⟨rfl, -, rfl⟩ | ⟨rfl, -, rfl⟩ := mem_timeouts_iff.1 hf
  all_goals
    cases hd
    rfl

theorem needed_iff_ne_default (hf : (f, key, default) ∈ timeouts)
    (hd : f.kind.toValue (s.get f) = .duration d) : needed s f = true ↔ d ≠ default := by
  obtain ⟨rfl, -, rfl⟩ | ⟨rfl, -, rfl⟩ := mem_timeouts_iff.1 hf
  all_goals
    cases hd
    exact bne_iff_ne

/-- A name has the whole seconds of a timeout that is set, and to something else than its default. -/
theorem mem_queryPairs_normalForm_iff (hf : (f, key, default) ∈ timeouts)
    (hd : f.kind.toValue (s.get f) = .duration d) (value : String) :
    (key, value) ∈ queryPairs (normalForm s) ↔
      (d ≠ .zero ∧ d ≠ default) ∧ value = toString d.wholeSeconds := by
  have hfilled := toValue_get_normalForm hf hd
  rw [mem_queryPairs_iff_of_queryKey? (queryKey?_of_mem_timeouts hf), needed_iff_ne_default hf hfilled,
    spell_of_duration hfilled]
  by_cases hzero : d = .zero
  · simp [hzero]
  · simp [hzero]

/-! ## Reading -/

theorem exists_content_of_ofSeconds? (hf : (f, key, default) ∈ timeouts) {e : Duration}
    (he : Duration.ofSeconds? d.wholeSeconds = some e) :
    ∃ x : f.kind.Content, f.kind.toValue x = .duration e ∧
      f.kind.ofValue? (.integer d.wholeSeconds) = some x ∧
      f.kind.ofText? (toString d.wholeSeconds) = some x := by
  have hvalue := (Kind.ofValue?_wholeSeconds d).trans he
  have htext := (Kind.ofText?_spell_duration d).trans he
  obtain ⟨rfl, -⟩ | ⟨rfl, -⟩ := mem_timeouts_iff.1 hf
  all_goals exact ⟨e, rfl, hvalue, htext⟩

theorem shortName_of_mem_timeouts (hf : (f, key, default) ∈ timeouts) : f.shortName = f.name := by
  obtain ⟨rfl, -⟩ | ⟨rfl, -⟩ := mem_timeouts_iff.1 hf <;> rfl

theorem ofValue?_ofText?_eq_none (hf : (f, key, default) ∈ timeouts)
    (he : Duration.ofSeconds? d.wholeSeconds = none) :
    f.kind.ofValue? (.integer d.wholeSeconds) = none ∧
      f.kind.ofText? (toString d.wholeSeconds) = none := by
  have hvalue := (Kind.ofValue?_wholeSeconds d).trans he
  have htext := (Kind.ofText?_spell_duration d).trans he
  obtain ⟨rfl, -⟩ | ⟨rfl, -⟩ := mem_timeouts_iff.1 hf
  all_goals exact ⟨hvalue, htext⟩

/-- Seconds that a duration can have are accepted by both readers, and make a timeout of these seconds. -/
theorem seconds_accepted (hf : (f, key, default) ∈ timeouts) {e : Duration}
    (he : Duration.ofSeconds? d.wholeSeconds = some e) :
    (∃ t, Settings.ofEntries [(f.name, .integer d.wholeSeconds)] = .ok t ∧
      f.kind.toValue (t.get f) = .duration e) ∧
    ∀ c, ∃ t, (applyQuery c (queryText [(key, toString d.wholeSeconds)])).result = .ok t ∧
      f.kind.toValue (t.get f) = .duration e := by
  have hkey := queryKey?_of_mem_timeouts hf
  obtain ⟨x, hx, hvalue, htext⟩ := exists_content_of_ofSeconds? hf he
  refine ⟨⟨Settings.put {} f x, ?_, ?_⟩, fun c => ⟨c.put f x, ?_, ?_⟩⟩
  · rw [Settings.ofEntries_singleton]
    exact Settings.addEntry_eq_ok_of_ofName? {} nofun (Field.ofName?_name f) hvalue
  · rw [Settings.get_put, hx]
  · rw [result_queryText_singleton hkey]
    exact setByKey_eq_ok_iff.2 (Or.inr ⟨f, x, Field.ofQueryKey?_of_queryKey? hkey, htext, rfl⟩)
  · rw [Settings.get_put, hx]

theorem seconds_refused (hf : (f, key, default) ∈ timeouts)
    (he : Duration.ofSeconds? d.wholeSeconds = none) :
    Settings.ofEntries [(f.name, .integer d.wholeSeconds)] =
      .error (.setting f.name (.integer d.wholeSeconds)) ∧
    ∀ c, (applyQuery c (queryText [(key, toString d.wholeSeconds)])).result =
      .error (.parameter key (toString d.wholeSeconds)) := by
  have hkey := queryKey?_of_mem_timeouts hf
  obtain ⟨hvalue, htext⟩ := ofValue?_ofText?_eq_none hf he
  constructor
  · have hnull : Value.integer d.wholeSeconds ≠ .null := nofun
    have hentry := Settings.addEntry_eq_error_of_ofName? {} hnull (Field.ofName?_name f) hvalue
    rwa [shortName_of_mem_timeouts hf, ← Settings.ofEntries_singleton] at hentry
  · intro c
    rw [result_queryText_singleton hkey, setByKey, Field.ofQueryKey?_of_queryKey? hkey]
    simp only [htext]

/-! ## Both -/

/-- What a dictionary and a name have of a timeout that is set to `d`, when it is exact, and what becomes of
it where it is read: the seconds of all but the longest timeouts make a timeout of these seconds. -/
theorem timeout_seconds (hf : (f, key, default) ∈ timeouts)
    (hd : f.kind.toValue (s.get f) = .duration d) :
    s.toTable.get? f.name = (if d.wholeSeconds = 0 then none else some (.integer d.wholeSeconds)) ∧
    (∀ name, build s = .ok name → ∃ n, normalize s = .ok n ∧ name = write n ∧
      ∀ value, (key, value) ∈ queryPairs n ↔
        (d ≠ .zero ∧ d ≠ default) ∧ value = toString d.wholeSeconds) ∧
    (d.wholeSeconds = d.micros.tdiv 1000000 ↔ ¬d.RoundsUp) ∧
    (d.micros ≤ 86399999999999992187 → ∃ e : Duration, e.micros = d.wholeSeconds * 1000000 ∧
      (∃ t, Settings.ofEntries [(f.name, .integer d.wholeSeconds)] = .ok t ∧
        f.kind.toValue (t.get f) = .duration e) ∧
      ∀ c, ∃ t, (applyQuery c (queryText [(key, toString d.wholeSeconds)])).result = .ok t ∧
        f.kind.toValue (t.get f) = .duration e) ∧
    (86399999999999992187 < d.micros →
      Settings.ofEntries [(f.name, .integer d.wholeSeconds)] =
        .error (.setting f.name (.integer d.wholeSeconds)) ∧
      ∀ c, (applyQuery c (queryText [(key, toString d.wholeSeconds)])).result =
        .error (.parameter key (toString d.wholeSeconds))) := by
  have hfit := d.secondsFit_iff
  rw [Duration.SecondsFit, ← Duration.exists_ofSeconds?_iff] at hfit
  refine ⟨get?_toTable_of_duration hd, fun name hname => ?_, d.wholeSeconds_eq_tdiv_iff, fun hmost => ?_,
    fun hmore => ?_⟩
  · obtain ⟨hnormalize, hwrite⟩ := normalize_of_build hname
    exact ⟨normalForm s, hnormalize, hwrite, mem_queryPairs_normalForm_iff hf hd⟩
  · obtain ⟨e, he⟩ := hfit.2 hmost
    exact ⟨e, Duration.micros_of_ofMicros? he, seconds_accepted hf he⟩
  · have hnone : Duration.ofSeconds? d.wholeSeconds = none :=
      Option.eq_none_iff_forall_ne_some.2 fun e he => absurd (hfit.1 ⟨e, he⟩) (by omega)
    exact seconds_refused hf hnone

/-- A connection that is given up after 5.7 seconds. -/
def hastySettings : Settings where
  account := "a"
  user := "u"
  password := "p"
  loginTimeout := ⟨5700000, by decide⟩

theorem timeout_seconds_hastySettings :
    hastySettings.toTable.get? "login_timeout" = some (.integer 5) ∧
    (∃ n, build hastySettings = .ok (write n) ∧ ("loginTimeout", "5") ∈ queryPairs n) ∧
    ∃ e : Duration, e.micros = 5000000 ∧
      (∃ t, Settings.ofEntries [("login_timeout", .integer 5)] = .ok t ∧ t.loginTimeout = e) ∧
      ∃ t, (applyQuery {} (queryText [("loginTimeout", "5")])).result = .ok t ∧ t.loginTimeout = e := by
  have hseconds : hastySettings.loginTimeout.wholeSeconds = 5 := by decide +kernel
  have hset : hastySettings.loginTimeout ≠ .zero ∧ hastySettings.loginTimeout ≠ defaultLoginTimeout := by
    decide
  have hbuild : build hastySettings = .ok (write (normalForm hastySettings)) := build_eq_ok (by decide)
  obtain ⟨htable, hname, -, haccepted, -⟩ :=
    timeout_seconds (s := hastySettings) (f := .loginTimeout) (d := hastySettings.loginTimeout)
      List.mem_cons_self rfl
  obtain ⟨n, -, hwrite, hpairs⟩ := hname _ hbuild
  obtain ⟨e, he, ⟨t, ht, hte⟩, hquery⟩ := haccepted (by decide)
  obtain ⟨u, hu, hue⟩ := hquery {}
  rw [hseconds] at htable he ht hu
  refine ⟨htable, ⟨n, hwrite ▸ hbuild, (hpairs "5").2 ⟨hset, ?_⟩⟩, e, he, ⟨t, ht, ?_⟩, u, hu, ?_⟩
  · rw [hseconds]
    rfl
  · cases hte
    rfl
  · cases hue
    rfl

/-- A connection that is never given up. -/
def longestSettings : Settings where
  account := "a"
  user := "u"
  password := "p"
  loginTimeout := ⟨86399999999999999999, by decide⟩

/-- The longest timeout is rounded to one second more than it has, and is refused wherever it is read. -/
theorem timeout_seconds_longestSettings :
    longestSettings.loginTimeout.micros.tdiv 1000000 = 86399999999999 ∧
    longestSettings.toTable.get? "login_timeout" = some (.integer 86400000000000) ∧
    Settings.ofEntries [("login_timeout", .integer 86400000000000)] =
      .error (.setting "login_timeout" (.integer 86400000000000)) ∧
    build longestSettings =
      .ok "u:p@a.snowflakecomputing.com:443?loginTimeout=86400000000000" ∧
    parse "u:p@a.snowflakecomputing.com:443?loginTimeout=86400000000000" =
      .error (.parameter "loginTimeout" "86400000000000") := by
  have hseconds : longestSettings.loginTimeout.wholeSeconds = 86400000000000 := by decide +kernel
  have htable := get?_toTable_of_duration (s := longestSettings) (f := .loginTimeout)
    (d := longestSettings.loginTimeout) rfl
  obtain ⟨hrefused, -⟩ := seconds_refused (f := .loginTimeout) (d := longestSettings.loginTimeout)
    List.mem_cons_self (by decide +kernel)
  rw [hseconds] at htable hrefused
  exact ⟨by decide, htable, hrefused, by decide +kernel, by decide +kernel⟩

end DataSource.Name
