import DataSource.Proofs.Number.Decimal
import DataSource.Proofs.Number.WholeSeconds
import DataSource.Proofs.Table
import DataSource.Settings.Complete
import DataSource.Settings.Dictionary

/-!
# Settings field by field

Settings are their fields and their parameters (`ext_get`, `same_iff`), so what is said of all fields
is said of the settings. `Bounded` is such a saying: numbers have 64 bits and durations are whole
seconds. It is what a query can spell: a content that fits is read back from its spelling
(`ofText?_spell`), and what was read fits (`fits_of_ofText?`).
-/

namespace DataSource

namespace Kind

/-- Whether a content can be spelled in a query: numbers have 64 bits, and durations are whole
seconds. -/
def Fits : (k : Kind) → k.Content → Prop
  | text, _ => True
  | flag, _ => True
  | duration, d => d.IsWhole
  | integer, n => Integer.min64 ≤ n ∧ n ≤ Integer.max64

/-- The spelling of a content in a query. -/
def spell : (k : Kind) → k.Content → String
  | text, s => s
  | flag, b => if b then "true" else "false"
  | duration, d => toString d.wholeSeconds
  | integer, n => toString n

theorem ofText?_spell_duration (d : Duration) :
    Kind.duration.ofText? (Kind.duration.spell d) = Duration.ofSeconds? d.wholeSeconds := by
  obtain ⟨hmin, hmax⟩ := d.wholeSeconds_bounds
  rw [spell, ofText?, readInteger_toString hmin hmax]
  rfl

theorem ofText?_spell {k : Kind} {x : k.Content} (h : k.Fits x) : k.ofText? (k.spell x) = some x := by
  cases k with
  | text => rfl
  | flag => cases x <;> decide
  | duration => exact (ofText?_spell_duration x).trans (Duration.ofSeconds?_wholeSeconds h)
  | integer =>
    show (readInteger (toString x)).toOption = some x
    rw [readInteger_toString h.1 h.2]
    rfl

theorem readInteger_eq_some_iff {text : String} {n : Int} :
    (readInteger text).toOption = some n ↔
      Integer.Spells text.toList n ∧ Integer.min64 ≤ n ∧ n ≤ Integer.max64 := by
  rw [← readInteger_eq_ok_iff]
  cases readInteger text with
  | error error => exact ⟨nofun, nofun⟩
  | ok m => exact ⟨fun h => congrArg _ (Option.some.inj h), fun h => congrArg _ (Except.ok.inj h)⟩

theorem exists_ofText?_duration_iff {text : String} :
    (∃ x, Kind.duration.ofText? text = some x) ↔
      Integer.SpellsWithin (-86399999913600) 86399999999999 text.toList := by
  simp only [ofText?, Option.bind_eq_some_iff, readInteger_eq_some_iff]
  constructor
  · rintro ⟨d, n, ⟨hspells, -⟩, hn⟩
    exact ⟨n, hspells, Duration.exists_ofSeconds?_iff.1 ⟨d, hn⟩⟩
  · rintro ⟨n, hspells, hn⟩
    obtain ⟨d, hd⟩ := Duration.exists_ofSeconds?_iff.2 hn
    refine ⟨d, n, ⟨hspells, ?_⟩, hd⟩
    rw [Integer.min64, Integer.max64]
    omega

theorem exists_ofText?_spell_duration_iff {d : Duration} :
    (∃ x, Kind.duration.ofText? (Kind.duration.spell d) = some x) ↔ d.SecondsFit := by
  rw [ofText?_spell_duration, Duration.exists_ofSeconds?_iff]
  rfl

example : ¬(⟨86399999999999999999, by decide⟩ : Duration).SecondsFit := by decide +kernel

theorem fits_of_ofText? {k : Kind} {text : String} {x : k.Content} (h : k.ofText? text = some x) :
    k.Fits x := by
  cases k with
  | text => trivial
  | flag => trivial
  | duration =>
    obtain ⟨n, -, hn⟩ := Option.bind_eq_some_iff.1 h
    exact Duration.isWhole_of_ofSeconds? hn
  | integer => exact (readInteger_eq_some_iff.1 h).2

end Kind

namespace Settings

/-! ## All fields at once -/

theorem ext_get {a b : Settings} (hget : ∀ f, a.get f = b.get f) (hparams : a.params = b.params) :
    a = b := by
  obtain ⟨account, user, password, region, protocol, host, port, database, schema, warehouse, role,
    authenticator, passcode, passcodeInPassword, loginTimeout, requestTimeout, application,
    insecureMode, params, proxyHost, proxyPort, proxyUser, proxyPassword⟩ := a
  cases hget .account
  cases hget .user
  cases hget .password
  cases hget .region
  cases hget .protocol
  cases hget .host
  cases hget .port
  cases hget .database
  cases hget .schema
  cases hget .warehouse
  cases hget .role
  cases hget .authenticator
  cases hget .passcode
  cases hget .passcodeInPassword
  cases hget .loginTimeout
  cases hget .requestTimeout
  cases hget .application
  cases hget .insecureMode
  cases hget .proxyHost
  cases hget .proxyPort
  cases hget .proxyUser
  cases hget .proxyPassword
  cases hparams
  rfl

theorem same_iff {a b : Settings} :
    a.same b = true ↔
      (∀ f, a.get f = b.get f) ∧ ∀ key, a.params.get? key = b.params.get? key := by
  rw [same, Bool.and_eq_true, decide_eq_true_eq, Table.sameMap_iff]
  refine and_congr_left fun _ => ⟨fun h f => ?_, fun h => ?_⟩
  · have hf := congrArg (·.get f) h
    cases f <;> exact hf
  · refine ext_get (fun f => ?_) rfl
    have hf := h f
    cases f <;> exact hf

/-- Whether a query can spell every field. -/
def Bounded (s : Settings) : Prop := ∀ f : Field, f.kind.Fits (s.get f)

theorem Bounded.put {s : Settings} {f : Field} {x : f.kind.Content} (h : s.Bounded)
    (hx : f.kind.Fits x) : (s.put f x).Bounded := by
  intro g
  by_cases hg : g = f
  · subst hg
    rwa [get_put]
  · rw [get_put_of_ne s x hg]
    exact h g

theorem Bounded.of_get {s t : Settings} (h : s.Bounded)
    (hget : ∀ f : Field, f.kind ≠ .text → t.get f = s.get f) : t.Bounded := by
  intro f
  by_cases hkind : f.kind = .text
  · cases f <;> trivial
  · rw [hget f hkind]
    exact h f

theorem bounded_iff {s : Settings} :
    s.Bounded ↔ Kind.integer.Fits s.port ∧ Kind.integer.Fits s.proxy.port ∧
      s.loginTimeout.IsWhole ∧ s.requestTimeout.IsWhole := by
  constructor
  · intro h
    exact ⟨h .port, h .proxyPort, h .loginTimeout, h .requestTimeout⟩
  · rintro ⟨hport, hproxy, hlogin, hrequest⟩ f
    cases f with
    | port => exact hport
    | proxyPort => exact hproxy
    | loginTimeout => exact hlogin
    | requestTimeout => exact hrequest
    | passcodeInPassword | insecureMode => trivial
    | _ => trivial

theorem Bounded.putParam {s : Settings} (h : s.Bounded) (key value : String) :
    (s.putParam key value).Bounded :=
  bounded_iff.2 (bounded_iff.1 h)

/-! ## Filling in, and filling in twice -/

section

variable {α : Type} [DecidableEq α]

theorem filled_of {P : α → Prop} {x blank default : α} (hdefault : P default) (hx : P x) :
    P (if x = blank then default else x) := by
  by_cases h : x = blank
  · rwa [if_pos h]
  · rwa [if_neg h]

theorem filled_ne (x : α) {blank default : α} (hdefault : default ≠ blank) :
    (if x = blank then default else x) ≠ blank := by
  by_cases hx : x = blank
  · rwa [if_pos hx]
  · rwa [if_neg hx]

theorem filled_twice (x blank default : α) :
    (if (if x = blank then default else x) = blank then default
      else if x = blank then default else x) = if x = blank then default else x := by
  by_cases hx : x = blank
  · simp only [if_pos hx, ite_self]
  · simp only [if_neg hx]

end

theorem fits_port_fill {s : Settings} (h : Kind.integer.Fits s.port) :
    Kind.integer.Fits s.fill.port :=
  filled_of (P := Kind.integer.Fits) ⟨by decide, by decide⟩ h

theorem isWhole_loginTimeout_fill {s : Settings} (h : s.loginTimeout.IsWhole) :
    s.fill.loginTimeout.IsWhole :=
  filled_of (P := Duration.IsWhole) (by decide) h

theorem isWhole_requestTimeout_fill {s : Settings} (h : s.requestTimeout.IsWhole) :
    s.fill.requestTimeout.IsWhole :=
  filled_of (P := Duration.IsWhole) (by decide) h

theorem Bounded.fill {s : Settings} (h : s.Bounded) : s.fill.Bounded := by
  obtain ⟨hport, hproxy, hlogin, hrequest⟩ := bounded_iff.1 h
  exact bounded_iff.2 ⟨fits_port_fill hport, hproxy, isWhole_loginTimeout_fill hlogin,
    isWhole_requestTimeout_fill hrequest⟩

theorem params_fill (s : Settings) : s.fill.params = s.params := rfl

theorem fill_fill_eq (s : Settings) : s.fill.fill = { s.fill with host := s.fill.fill.host } := by
  refine ext_get (fun f => ?_) rfl
  cases f with
  | host => rfl
  | protocol => exact filled_twice s.protocol "" defaultProtocol
  | port => exact filled_twice s.port 0 defaultPort
  | loginTimeout => exact filled_twice s.loginTimeout .zero defaultLoginTimeout
  | requestTimeout => exact filled_twice s.requestTimeout .zero defaultRequestTimeout
  | application => exact filled_twice s.application "" defaultApplication
  | authenticator => exact filled_twice s.authenticator "" defaultAuthenticator
  | _ => rfl

/-- Settings that are filled in are filled in again as they are, if their host is. -/
theorem fill_fill {s : Settings} (hhost : s.fill.fill.host = s.fill.host) : s.fill.fill = s.fill := by
  rw [fill_fill_eq, hhost]

end Settings

end DataSource
