import DataSource.Proofs.Name.Written

/-!
# The round trip

`build` writes the normal form of settings: with a host, the account without its region, and completed
(`normalize_eq_ok`). Where the normal form can be written and completing it again changes nothing,
reading the name gives the normal form back, up to what a name does not carry: the proxy, the spelling
of parameter keys, and one layer of escapes in the names of database, schema, role and warehouse
(`parse_build`).
-/

namespace DataSource.Name

/-! ## The normal form -/

/-- The settings before they are completed to be written. -/
def withTarget (s : Settings) : Settings :=
  { s with
    host := if s.host = "" then derivedHost s else s.host
    region := String.ofList (splitRegion s.account.toList s.region.toList).1
    account := String.ofList (splitRegion s.account.toList s.region.toList).2 }

/-- The settings as they are written, if nothing is missing. -/
def normalForm (s : Settings) : Settings := (withTarget s).fill

theorem splitRegion_snd_ne_nil {account : List Char} (h : account ≠ []) (region : List Char) :
    (splitRegion account region).2 ≠ [] := by
  unfold splitRegion
  split
  · exact h
  · rename_i dot hdot
    split
    · exact h
    · rename_i hpos
      rw [Ne, List.take_eq_nil_iff, not_or]
      exact ⟨hpos, h⟩

theorem missing?_withTarget {s : Settings} (h : s.missing? = none) : (withTarget s).missing? = none := by
  obtain ⟨haccount, huser, hpassword⟩ := Settings.missing?_eq_none_iff.1 h
  refine Settings.missing?_eq_none_iff.2 ⟨?_, huser, hpassword⟩
  have hopen : s.account.toList ≠ [] := by simpa using haccount
  have hsplit := splitRegion_snd_ne_nil hopen s.region.toList
  simpa [withTarget] using hsplit

theorem normalize_eq_ok {s : Settings} (h : s.missing? = none) :
    normalize s = .ok (normalForm s) :=
  Settings.complete_eq_ok_iff.2 ⟨missing?_withTarget h, rfl⟩

theorem build_eq_ok {s : Settings} (h : s.missing? = none) :
    build s = .ok (write (normalForm s)) := by
  rw [build, normalize_eq_ok h]
  rfl

theorem normalize_of_build {s : Settings} {name : String} (h : build s = .ok name) :
    normalize s = .ok (normalForm s) ∧ name = write (normalForm s) := by
  rw [build] at h
  cases hnormalize : normalize s with
  | error error =>
    rw [hnormalize] at h
    cases h
  | ok n =>
    have hn : n = normalForm s := (Settings.complete_eq_ok_iff.1 hnormalize).2
    rw [hnormalize] at h
    cases h
    exact ⟨congrArg Except.ok hn, congrArg write hn⟩

/-- The settings without their proxy, which is not written. -/
def withoutProxy (s : Settings) : Settings := { s with proxy := {} }

theorem write_withoutProxy (s : Settings) : write (withoutProxy s) = write s := rfl

theorem port_fill_ne_zero (s : Settings) : s.fill.port ≠ 0 :=
  Settings.filled_ne s.port (by decide)

theorem bounded_normalForm {s : Settings}
    (hport : Integer.min64 ≤ (normalForm s).port ∧ (normalForm s).port ≤ Integer.max64)
    (hlogin : s.loginTimeout.IsWhole) (hrequest : s.requestTimeout.IsWhole) :
    (withoutProxy (normalForm s)).Bounded := by
  have hproxy : Kind.integer.Fits 0 := ⟨by decide, by decide⟩
  exact Settings.bounded_iff.2 ⟨hport, hproxy, Settings.isWhole_loginTimeout_fill hlogin,
    Settings.isWhole_requestTimeout_fill hrequest⟩

theorem Apart.withoutProxy {s : Settings} (h : Apart s) : Apart (withoutProxy s) :=
  ⟨h.user_colon, h.user_slash, h.password_slash, h.host_clean, h.port_ne_zero, h.port_fits⟩

theorem apart_normalForm {s : Settings} (huser : ':' ∉ s.user.toList ∧ '/' ∉ s.user.toList)
    (hpassword : '/' ∉ s.password.toList) (hhost : SeparatorFree (normalForm s).host.toList)
    (hport : Kind.integer.Fits (normalForm s).port) : Apart (normalForm s) where
  user_colon := huser.1
  user_slash := huser.2
  password_slash := hpassword
  host_clean := hhost
  port_ne_zero := port_fill_ne_zero (withTarget s)
  port_fits := hport

theorem writable_normalForm {s : Settings} (hmissing : s.missing? = none)
    (huser : ':' ∉ s.user.toList ∧ '/' ∉ s.user.toList) (hpassword : '/' ∉ s.password.toList)
    (hhost : SeparatorFree (normalForm s).host.toList)
    (hport : Integer.min64 ≤ (normalForm s).port ∧ (normalForm s).port ≤ Integer.max64)
    (hlogin : s.loginTimeout.IsWhole) (hrequest : s.requestTimeout.IsWhole) :
    Writable (withoutProxy (normalForm s)) where
  toApart := (apart_normalForm huser hpassword hhost hport).withoutProxy
  nothing_missing := missing?_withTarget hmissing
  bounded := bounded_normalForm hport hlogin hrequest

theorem carried_fill_withoutProxy (n : Settings) (params : Table String) :
    carried (withoutProxy n).fill params =
      withNames (carried n.fill params) n.database n.schema n.role n.warehouse := rfl

theorem same_withNames (n : Settings) {params params' : Table String}
    (h : ∀ key, params.get? key = params'.get? key) (database schema role warehouse : String) :
    (withNames (carried n params) database schema role warehouse).same
      { n with proxy := {}, params := params', database, schema, role, warehouse } = true := by
  refine Settings.same_iff.2 ⟨fun f => ?_, h⟩
  cases f <;> rfl

/-! ## The round trip -/

/-- A built name reads as the normal form, completed again, with the names unescaped. -/
theorem parse_write_normalForm {s : Settings} (hn : Writable (withoutProxy (normalForm s))) :
    ∃ params : Table String, (∀ key, params.get? key = (writtenParams s).get? key) ∧
      parse (write (normalForm s)) =
        (unescapeNames s).map fun u =>
          withNames (carried (normalForm s).fill params) u.database u.schema u.role u.warehouse := by
  obtain ⟨params, hparams, hparse⟩ := parse_write hn
  rw [write_withoutProxy, carried_fill_withoutProxy] at hparse
  exact ⟨params, hparams, hparse.trans (unescapeNames_withNames s _)⟩

/-- Building a name and reading it gives back the normal form, without the proxy, with the parameters
that are no fields under their escaped keys, and with the names of database, schema, role and warehouse
unescaped; if one of these names has a broken escape, its error is the error of reading. -/
theorem parse_build {s : Settings} (haccount : s.account ≠ "") (huser : s.user ≠ "")
    (hpassword : s.password ≠ "") (huserClean : ':' ∉ s.user.toList ∧ '/' ∉ s.user.toList)
    (hpasswordClean : '/' ∉ s.password.toList)
    (hhost : SeparatorFree (normalForm s).host.toList)
    (hsettled : (normalForm s).complete = .ok (normalForm s))
    (hport : Integer.min64 ≤ (normalForm s).port ∧ (normalForm s).port ≤ Integer.max64)
    (hlogin : s.loginTimeout.IsWhole) (hrequest : s.requestTimeout.IsWhole) :
    ∃ name, build s = .ok name ∧
      (∀ database schema role warehouse,
        unescape s.database = .ok database → unescape s.schema = .ok schema →
        unescape s.role = .ok role → unescape s.warehouse = .ok warehouse →
        ∃ t, parse name = .ok t ∧
          t.same
            { normalForm s with
              proxy := {}, params := writtenParams s, database, schema, role, warehouse } = true) ∧
      (∀ error, unescapeNames s = .error error → parse name = .error error) := by
  have hmissing : s.missing? = none :=
    Settings.missing?_eq_none_iff.2 ⟨haccount, huser, hpassword⟩
  have hn := writable_normalForm hmissing huserClean hpasswordClean hhost hport hlogin hrequest
  have hfill : normalForm s = (normalForm s).fill := (Settings.complete_eq_ok_iff.1 hsettled).2
  obtain ⟨params, hparams, hparse⟩ := parse_write_normalForm hn
  rw [← hfill] at hparse
  refine ⟨write (normalForm s), build_eq_ok hmissing, ?_, ?_⟩
  · intro database schema role warehouse hdatabase hschema hrole hwarehouse
    have hnames : unescapeNames s = .ok (withNames s database schema role warehouse) :=
      unescapeNames_eq_ok_iff.2 ⟨_, _, _, _, hdatabase, hschema, hrole, hwarehouse, rfl⟩
    rw [hnames] at hparse
    exact ⟨_, hparse, same_withNames (normalForm s) hparams database schema role warehouse⟩
  · intro error herror
    rw [hparse, herror]
    rfl

/-- An account with a region, credentials with separators, names with escapes, a time that is not the
default, and a parameter beside one that a field takes the place of. -/
def sample : Settings where
  account := "acc.eu"
  user := "u@x"
  password := "p:@?"
  database := "a%20b"
  role := "x+y"
  loginTimeout := ⟨5000000, by decide⟩
  params := ⟨[("a b", "c&d"), ("account", "other")], by decide⟩

theorem parse_build_sample :
    ∃ name t, build sample = .ok name ∧ parse name = .ok t ∧
      t.same
        { normalForm sample with
          proxy := {}, params := ⟨[("a+b", "c&d")], by decide⟩
          database := "a b", schema := "", role := "x y", warehouse := "" } = true := by
  have hparams : writtenParams sample = ⟨[("a+b", "c&d")], by decide⟩ := by decide +kernel
  obtain ⟨name, hname, hread, -⟩ := parse_build (s := sample) (by decide) (by decide) (by decide)
    (by decide) (by decide) (by decide +kernel)
    (Settings.complete_eq_ok_iff.2 ⟨by decide +kernel, by decide +kernel⟩) (by decide +kernel)
    (by decide) (by decide)
  obtain ⟨t, ht, hsame⟩ := hread "a b" "" "x y" "" (by decide +kernel) (by decide +kernel)
    (by decide +kernel) (by decide +kernel)
  exact ⟨name, t, hname, ht, hparams ▸ hsame⟩

end DataSource.Name
