import DataSource.Proofs.Name.Rebuild
import Mathlib.Data.Finset.Max

/-!
# Names and parameters through the round trip

Settings whose account is made of letters and digits and whose host is open are always built and read
back (`reparse_of_isAlphanum`), so what happens to a value is what the two sides do to it. The names of
database, schema, role and warehouse are escaped once and unescaped twice: they survive if and only if
there is nothing in them to unescape (`names_reparse_iff`). The keys of parameters are escaped and never
unescaped: they survive if and only if there is nothing in them to escape (`params_reparse`).
-/

namespace DataSource.Name

/-! ## Accounts of letters and digits -/

theorem not_mem_of_isAlphanum {c : Char} {text : List Char} (hc : c ∈ ['/', '@', ':', '?', '.'])
    (h : text.all Char.isAlphanum = true) : c ∉ text := by
  have hother : (['/', '@', ':', '?', '.'].all fun d => !d.isAlphanum) = true := by decide
  intro hmem
  have hnot := List.all_eq_true.1 hother c hc
  rw [List.all_eq_true.1 h c hmem] at hnot
  cases hnot

theorem host_normalForm_of_isAlphanum {s : Settings} (hhost : s.host = "") (hregion : s.region = "")
    (haccount : s.account.toList.all Char.isAlphanum = true) :
    (normalForm s).host = s.account ++ dottedDomain := by
  have hdot : '.' ∉ s.account.toList := not_mem_of_isAlphanum (by decide) haccount
  have hsplit := splitRegion_of_not_mem s.region.toList hdot
  have hopen : (withTarget s).region = "" := by
    show String.ofList (splitRegion s.account.toList s.region.toList).1 = ""
    rw [hsplit, String.ofList_toList, hregion]
  show (if (withTarget s).region = "" then (withTarget s).host
    else hostWithRegion (withTarget s).host (withTarget s).region) = _
  rw [if_pos hopen]
  show (if s.host = "" then derivedHost s else s.host) = _
  rw [if_pos hhost, derivedHost, if_pos hregion]

theorem reparse_of_isAlphanum {s : Settings} (hmissing : s.missing? = none)
    (huser : ':' ∉ s.user.toList ∧ '/' ∉ s.user.toList) (hpassword : '/' ∉ s.password.toList)
    (hhost : s.host = "") (hregion : s.region = "")
    (haccount : s.account.toList.all Char.isAlphanum = true)
    (hport : Integer.min64 ≤ s.port ∧ s.port ≤ Integer.max64)
    (hlogin : s.loginTimeout.IsWhole) (hrequest : s.requestTimeout.IsWhole) :
    ∃ params : Table String, (∀ key, params.get? key = (writtenParams s).get? key) ∧
      reparse s = (unescapeNames s).map fun u =>
        withNames (carried (normalForm s).fill params) u.database u.schema u.role u.warehouse := by
  have hclean : SeparatorFree (normalForm s).host.toList := by
    intro c hc
    have haccountClean : c ∉ s.account.toList :=
      not_mem_of_isAlphanum (List.mem_append_left ['.'] hc) haccount
    have hdomain : SeparatorFree dottedDomain.toList := by decide
    rw [host_normalForm_of_isAlphanum hhost hregion haccount, String.toList_append, List.mem_append]
    exact not_or.2 ⟨haccountClean, hdomain c hc⟩
  have hn := writable_normalForm hmissing huser hpassword hclean (Settings.fits_port_fill hport)
    hlogin hrequest
  obtain ⟨params, hparams, hparse⟩ := parse_write_normalForm hn
  exact ⟨params, hparams, (reparse_eq hmissing).trans hparse⟩

/-! ## The names of a database and its like -/

theorem unescape_eq_self_iff {name : String} :
    unescape name = .ok name ↔ '%' ∉ name.toList ∧ '+' ∉ name.toList := by
  rw [← FormEscape.unescape_eq_self_iff]
  unfold unescape
  cases FormEscape.unescape name.toList with
  | error part => simp
  | ok text =>
    simp only [Except.ok.injEq]
    constructor
    · rintro rfl
      exact (String.toList_ofList).symm
    · rintro rfl
      exact String.ofList_toList

/-- The names survive if and only if they have no percent sign and no plus sign. -/
theorem names_reparse_iff {s : Settings}
    (hnonempty : s.account ≠ "" ∧ s.user ≠ "" ∧ s.password ≠ "")
    (huser : ':' ∉ s.user.toList ∧ '/' ∉ s.user.toList) (hpassword : '/' ∉ s.password.toList)
    (hhost : s.host = "") (hregion : s.region = "")
    (haccount : s.account.toList.all Char.isAlphanum = true)
    (hport : Integer.min64 ≤ s.port ∧ s.port ≤ Integer.max64)
    (hlogin : s.loginTimeout.IsWhole) (hrequest : s.requestTimeout.IsWhole) :
    (∃ t, reparse s = .ok t ∧ t.database = s.database ∧ t.schema = s.schema ∧ t.role = s.role ∧
        t.warehouse = s.warehouse) ↔
      ∀ name ∈ [s.database, s.schema, s.role, s.warehouse], '%' ∉ name.toList ∧ '+' ∉ name.toList := by
  obtain ⟨params, -, hreparse⟩ := reparse_of_isAlphanum (Settings.missing?_eq_none_iff.2 hnonempty)
    huser hpassword hhost hregion haccount hport hlogin hrequest
  simp only [← unescape_eq_self_iff, List.forall_mem_cons, List.not_mem_nil, false_implies,
    implies_true, and_true]
  constructor
  · rintro ⟨t, ht, hdatabase, hschema, hrole, hwarehouse⟩
    rw [hreparse] at ht
    cases hnames : unescapeNames s with
    | error error =>
      rw [hnames] at ht
      cases ht
    | ok u =>
      rw [hnames] at ht
      obtain ⟨database, schema, role, warehouse, hd, hs, hr, hw, rfl⟩ :=
        unescapeNames_eq_ok_iff.1 hnames
      cases ht
      exact ⟨hd.trans (congrArg _ hdatabase), hs.trans (congrArg _ hschema),
        hr.trans (congrArg _ hrole), hw.trans (congrArg _ hwarehouse)⟩
  · rintro ⟨hdatabase, hschema, hrole, hwarehouse⟩
    have hnames : unescapeNames s = .ok (withNames s s.database s.schema s.role s.warehouse) :=
      unescapeNames_eq_ok_iff.2 ⟨_, _, _, _, hdatabase, hschema, hrole, hwarehouse, rfl⟩
    rw [hnames] at hreparse
    exact ⟨_, hreparse, rfl, rfl, rfl, rfl⟩

theorem names_reparse_punctuation :
    ∃ t, reparse
        { account := "acc", user := "u@x", password := "p:q", database := "my db", schema := "é/?&="
          warehouse := "w", loginTimeout := .minute } = .ok t ∧
      t.database = "my db" ∧ t.schema = "é/?&=" ∧ t.role = "" ∧ t.warehouse = "w" :=
  (names_reparse_iff (by decide) (by decide) (by decide) rfl rfl (by decide) (by decide) (by decide)
    (by decide)).2 (by decide)

/-- A plus sign and an escape are read as something else, and a broken escape not at all. -/
theorem names_reparse_plus :
    (∃ t, reparse { account := "acc", user := "u", password := "p", database := "a+b" } = .ok t ∧
        t.database = "a b") ∧
      (∃ t, reparse { account := "acc", user := "u", password := "p", role := "a%20b" } = .ok t ∧
        t.role = "a b") ∧
      reparse { account := "acc", user := "u", password := "p", database := "100%" } =
        .error (.escape "%") := by
  decide +kernel

/-! ## Parameters -/

/-- If a table of parameters is read back as it is, its keys have nothing to escape. A key that has
makes longer and longer keys when it is written, and every one of them is a key of the table. -/
theorem isPlain_of_get?_writtenParams {s : Settings}
    (hkeys : ∀ key ∈ s.params.keys, Field.ofQueryKey? key = none)
    (h : ∀ key, (writtenParams s).get? key = s.params.get? key) :
    ∀ key ∈ s.params.keys, key.toList.all FormEscape.isPlain = true := by
  intro key hkey
  rw [List.all_eq_true]
  by_contra hnot
  push Not at hnot
  obtain ⟨c, hc, hplain⟩ := hnot
  rw [Ne, Bool.not_eq_true] at hplain
  have hwritten (k : String) (hk : k ∈ s.params.keys) : writtenKey k ∈ s.params.keys := by
    obtain ⟨value, hvalue⟩ := Table.mem_keys_iff.1 hk
    refine Table.mem_keys_iff.2 ⟨value, ?_⟩
    rw [← h, get?_writtenParams]
    exact ⟨k, rfl, hvalue, hkeys k hk⟩
  have hgrows (k : String) (hk : ∃ d ∈ k.toList, FormEscape.isPlain d = false ∧ d ≠ ' ') :
      (∃ d ∈ (writtenKey k).toList, FormEscape.isPlain d = false ∧ d ≠ ' ') ∧
        k.toList.length < (writtenKey k).toList.length := by
    obtain ⟨d, hd, hdplain, hdspace⟩ := hk
    rw [writtenKey, String.toList_ofList]
    exact ⟨FormEscape.exists_mem_escape_not_isPlain ⟨d, hd, hdplain⟩,
      FormEscape.length_lt_length_escape hd hdplain hdspace⟩
  -- The longest of the keys that grow cannot grow.
  have hfirst : ∃ d ∈ (writtenKey key).toList, FormEscape.isPlain d = false ∧ d ≠ ' ' := by
    rw [writtenKey, String.toList_ofList]
    exact FormEscape.exists_mem_escape_not_isPlain ⟨c, hc, hplain⟩
  obtain ⟨k, hk, hlongest⟩ := Finset.exists_max_image
    (s.params.keys.toFinset.filter fun k =>
      ∃ d ∈ k.toList, FormEscape.isPlain d = false ∧ d ≠ ' ')
    (fun k => k.toList.length)
    ⟨writtenKey key, Finset.mem_filter.2 ⟨List.mem_toFinset.2 (hwritten key hkey), hfirst⟩⟩
  obtain ⟨hmem, hk⟩ := Finset.mem_filter.1 hk
  obtain ⟨hnext, hlt⟩ := hgrows k hk
  have hle := hlongest (writtenKey k)
    (Finset.mem_filter.2 ⟨List.mem_toFinset.2 (hwritten k (List.mem_toFinset.1 hmem)), hnext⟩)
  omega

theorem get?_writtenParams_of_isPlain {s : Settings}
    (hkeys : ∀ key ∈ s.params.keys, Field.ofQueryKey? key = none)
    (hplain : ∀ key ∈ s.params.keys, key.toList.all FormEscape.isPlain = true) (key : String) :
    (writtenParams s).get? key = s.params.get? key := by
  have hself (k : String) (hk : k ∈ s.params.keys) : writtenKey k = k := by
    rw [writtenKey, FormEscape.escape_of_isPlain (List.all_eq_true.1 (hplain k hk)), String.ofList_toList]
  refine Option.ext fun value => ?_
  rw [get?_writtenParams]
  constructor
  · rintro ⟨k, rfl, hvalue, -⟩
    rw [hself k (Table.mem_keys_iff.2 ⟨value, hvalue⟩)]
    exact hvalue
  · intro hvalue
    have hmem : key ∈ s.params.keys := Table.mem_keys_iff.2 ⟨value, hvalue⟩
    exact ⟨key, (hself key hmem).symm, hvalue, hkeys key hmem⟩

/-- Parameters are always read back with their values, under their escaped keys; so they survive if and
only if their keys are plain. -/
theorem params_reparse (account user password : String) (params : Table String)
    (haccount : account ≠ "" ∧ account.toList.all Char.isAlphanum = true)
    (huser : user ≠ "" ∧ user.toList.all Char.isAlphanum = true)
    (hpassword : password ≠ "" ∧ password.toList.all Char.isAlphanum = true)
    (hkeys : ∀ key ∈ params.keys, Field.ofQueryKey? key = none) :
    ∃ t, reparse { account, user, password, params } = .ok t ∧
      (∀ key ∈ params.keys, t.params.get? (writtenKey key) = params.get? key) ∧
      (t.params.sameMap params = true ↔
        ∀ key ∈ params.keys, key.toList.all FormEscape.isPlain = true) := by
  have hport : Integer.min64 ≤ 0 ∧ 0 ≤ Integer.max64 := by decide
  have hwhole : Duration.zero.IsWhole := by decide
  set s : Settings := { account, user, password, params }
  obtain ⟨read, hread, hreparse⟩ := reparse_of_isAlphanum (s := s)
    (Settings.missing?_eq_none_iff.2 ⟨haccount.1, huser.1, hpassword.1⟩)
    ⟨not_mem_of_isAlphanum (by decide) huser.2, not_mem_of_isAlphanum (by decide) huser.2⟩
    (not_mem_of_isAlphanum (by decide) hpassword.2) rfl rfl haccount.2 hport hwhole hwhole
  have hnames : unescapeNames s = .ok (withNames s "" "" "" "") :=
    unescapeNames_eq_ok_iff.2 ⟨"", "", "", "", rfl, rfl, rfl, rfl, rfl⟩
  rw [hnames] at hreparse
  refine ⟨_, hreparse, ?_, ?_⟩
  · intro key hkey
    obtain ⟨value, hvalue⟩ := Table.mem_keys_iff.1 hkey
    have hwritten : (writtenParams s).get? (writtenKey key) = some value :=
      get?_writtenParams.2 ⟨key, rfl, hvalue, hkeys key hkey⟩
    exact (hread _).trans (hwritten.trans hvalue.symm)
  · refine Table.sameMap_iff.trans ⟨?_, ?_⟩
    · intro hsame
      exact isPlain_of_get?_writtenParams (s := s) hkeys fun key =>
        (hread key).symm.trans (hsame key)
    · intro hplain key
      exact (hread key).trans (get?_writtenParams_of_isPlain (s := s) hkeys hplain key)

theorem params_reparse_session :
    ∃ t, reparse
        { account := "acc", user := "u", password := "p"
          params := ⟨[("client_session_keep_alive", "true"), ("x-y.z~", "a b&c=%25é")], by decide⟩ } =
          .ok t ∧
      t.params.get? "x-y.z~" = some "a b&c=%25é" := by
  obtain ⟨t, ht, -, hsame⟩ := params_reparse "acc" "u" "p"
    ⟨[("client_session_keep_alive", "true"), ("x-y.z~", "a b&c=%25é")], by decide⟩
    (by decide) (by decide) (by decide) (by decide)
  have hget := Table.sameMap_iff.1 (hsame.2 (by decide)) "x-y.z~"
  exact ⟨t, ht, hget⟩

/-- A key with a space or a percent sign comes back as another key. -/
theorem params_reparse_space :
    (∃ t, reparse { account := "acc", user := "u", password := "p"
                    params := ⟨[("a b", "v")], by decide⟩ } = .ok t ∧
        t.params = ⟨[("a+b", "v")], by decide⟩) ∧
      ∃ t, reparse { account := "acc", user := "u", password := "p"
                     params := ⟨[("100%", "v")], by decide⟩ } = .ok t ∧
        t.params = ⟨[("100%25", "v")], by decide⟩ := by
  decide +kernel

end DataSource.Name
