import DataSource.Name.Target
import DataSource.Proofs.Number.Decimal
import DataSource.Proofs.Text.Search
import Mathlib.Algebra.Group.Int.Defs
import Mathlib.Logic.Basic

/-!
# Targets

A target is read by itself, whatever stands around it (`read_part`). Its text has a host text and a port
(`HostAndPort`). A host text with a port, or one inside the domain, is a host, and any other one is an
account, with its region behind its first dot; no target is both (`read_host_or_account`).
-/

namespace DataSource.Name

/-! ## Account and region -/

theorem splitRegion_of_not_mem {account : List Char} (region : List Char) (h : '.' ∉ account) :
    splitRegion account region = (region, account) := by
  rw [splitRegion, Text.find?_zero, Text.firstIndex?_of_not_mem h]

theorem splitRegion_append_cons {label : List Char} (rest region : List Char) (h : '.' ∉ label) :
    splitRegion (label ++ '.' :: rest) region =
      if label = [] then (region, '.' :: rest) else (rest, label) := by
  rw [splitRegion, Text.find?_zero, Text.firstIndex?_append_cons rest h]
  cases label with
  | nil => rfl
  | cons c cs =>
    have hdrop : (c :: cs ++ '.' :: rest).drop ((c :: cs).length + 1) = rest := by
      rw [← List.drop_drop, List.drop_left]
      rfl
    have htake : (c :: cs ++ '.' :: rest).take (c :: cs).length = c :: cs := List.take_left
    simp only [hdrop, htake]
    rfl

theorem splitRegion_snd_eq_iff {account region : List Char} :
    (splitRegion account region).2 = account ↔ '.' ∉ account ∨ account.head? = some '.' := by
  by_cases hdot : '.' ∈ account
  · obtain ⟨label, rest, rfl, hlabel⟩ := List.eq_append_cons_of_mem hdot
    rw [splitRegion_append_cons rest region hlabel]
    cases label with
    | nil => simp
    | cons c cs =>
      have hne : c ≠ '.' := by
        rintro rfl
        exact hlabel List.mem_cons_self
      simp [hne]
  · simp [splitRegion_of_not_mem region hdot, hdot]

theorem splitRegion_eq_self {account : List Char} (region : List Char)
    (h : '.' ∉ account ∨ account.head? = some '.') :
    splitRegion account region = (region, account) := by
  by_cases hdot : '.' ∈ account
  · obtain ⟨label, rest, rfl, hlabel⟩ := List.eq_append_cons_of_mem hdot
    cases label with
    | nil => exact splitRegion_append_cons rest region hlabel
    | cons c cs =>
      have hne : c ≠ '.' := by
        rintro rfl
        exact hlabel List.mem_cons_self
      simp [hne] at h
  · exact splitRegion_of_not_mem region hdot

/-- The account and the region of an account name: they stand in front of and behind its first dot, unless
the name has none or begins with it and is an account without a region. -/
inductive AccountAndRegion : List Char → List Char → List Char → Prop
  | dotted {account region : List Char} (hne : account ≠ []) (hdot : '.' ∉ account) :
      AccountAndRegion (account ++ '.' :: region) account region
  | whole {account : List Char} (h : '.' ∉ account ∨ account.head? = some '.') :
      AccountAndRegion account account []

theorem splitRegion_eq_iff {name account region : List Char} :
    splitRegion name [] = (region, account) ↔ AccountAndRegion name account region := by
  constructor
  · intro h
    by_cases hwhole : '.' ∉ name ∨ name.head? = some '.'
    · rw [splitRegion_eq_self [] hwhole] at h
      cases h
      exact .whole hwhole
    · rw [not_or, not_not] at hwhole
      obtain ⟨label, rest, rfl, hlabel⟩ := List.eq_append_cons_of_mem hwhole.1
      have hne : label ≠ [] := by
        rintro rfl
        exact hwhole.2 rfl
      rw [splitRegion_append_cons rest [] hlabel, if_neg hne] at h
      cases h
      exact .dotted hne hlabel
  · intro h
    cases h with
    | dotted hne hdot => rw [splitRegion_append_cons region [] hdot, if_neg hne]
    | whole h => exact splitRegion_eq_self [] h

/-! ## The text of a target -/

section

variable {text part host : List Char} {start stop : Int} (first rest : List Char)

theorem read_of_not_mem (htext : text = first ++ part ++ rest) (hstart : start = first.length)
    (hstop : stop = (first.length : Int) + part.length) (hcolon : ':' ∉ part) :
    Target.read text start stop = .ok (Target.ofHost part 0) := by
  simp only [Target.read, Text.find?_part first rest htext hstart hstop, Text.firstIndex?_of_not_mem hcolon,
    Option.map_none, Text.slice_part first rest htext hstart hstop]

theorem read_of_colon {host portText : List Char}
    (htext : text = first ++ (host ++ ':' :: portText) ++ rest) (hstart : start = first.length)
    (hstop : stop = (first.length : Int) + (host ++ ':' :: portText).length) (hcolon : ':' ∉ host) :
    Target.read text start stop =
      ((Integer.read portText).mapError fun _ => .port (String.ofList portText)).map
        (Target.ofHost host) := by
  have hhost : Text.slice text start ((first.length + host.length : Nat) : Int) = host :=
    Text.slice_part first (':' :: portText ++ rest) (by simp [htext]) hstart (by simp)
  have hport : Text.slice text (((first.length + host.length : Nat) : Int) + 1) stop = portText :=
    Text.slice_part (first ++ host ++ [':']) rest (by simp [htext])
      (by simp; omega) (by rw [hstop]; simp; omega)
  simp only [Target.read, Text.find?_part first rest htext hstart hstop,
    Text.firstIndex?_append_cons portText hcolon, Option.map_some, hhost, hport]
  cases Integer.read portText <;> rfl

theorem read_host (hcolon : ':' ∉ host) : Target.read host 0 host.length = .ok (Target.ofHost host 0) :=
  read_of_not_mem [] [] (List.append_nil host).symm rfl (Int.zero_add _).symm hcolon

theorem read_host_port (hcolon : ':' ∉ host) (portText : List Char) :
    Target.read (host ++ ':' :: portText) 0 (host ++ ':' :: portText).length =
      ((Integer.read portText).mapError fun _ => .port (String.ofList portText)).map
        (Target.ofHost host) :=
  read_of_colon [] [] (List.append_nil _).symm rfl (Int.zero_add _).symm hcolon

/-- A target is read by itself, whatever stands around it. -/
theorem read_part (htext : text = first ++ part ++ rest) (hstart : start = first.length)
    (hstop : stop = (first.length : Int) + part.length) :
    Target.read text start stop = Target.read part 0 part.length := by
  by_cases hcolon : ':' ∈ part
  · obtain ⟨host, portText, rfl, hhost⟩ := List.eq_append_cons_of_mem hcolon
    rw [read_of_colon first rest htext hstart hstop hhost, read_host_port hhost]
  · rw [read_of_not_mem first rest htext hstart hstop hcolon, read_host hcolon]

end

/-! ## Hosts and accounts -/

namespace Target

variable {host : List Char} {port : Int} {t : Target}

/-- A host text with a port, or one inside the domain, is a host as it is. -/
structure IsHost (host : List Char) (port : Int) (t : Target) : Prop where
  port_or_domain : port ≠ 0 ∨ domain.toList <:+ host
  eq : t = { region := [], account := [], host, port }

/-- Any other host text is an account, with a host inside the domain and the port of the service. -/
structure IsAccount (host : List Char) (port : Int) (t : Target) : Prop where
  port_eq_zero : port = 0
  outside : ¬domain.toList <:+ host
  parts : AccountAndRegion host t.account t.region
  host_eq : t.host = host ++ dottedDomain.toList
  port_eq : t.port = 443

theorem ofHost_of_host (h : port ≠ 0 ∨ domain.toList <:+ host) :
    ofHost host port = { region := [], account := [], host, port } := by
  rw [ofHost, if_neg]
  simpa [Text.endsWith, or_iff_not_imp_left] using h

theorem ofHost_of_outside (h : ¬domain.toList <:+ host) :
    ofHost host 0 =
      { region := (splitRegion host []).1
        account := (splitRegion host []).2
        host := host ++ dottedDomain.toList
        port := defaultPort } := by
  have hends : Text.endsWith host domain.toList = false := by
    rwa [← Bool.not_eq_true, Text.endsWith, List.isSuffixOf_iff_suffix]
  simp [ofHost, hends]

theorem isHost_iff (h : port ≠ 0 ∨ domain.toList <:+ host) :
    IsHost host port t ↔ t = ofHost host port := by
  rw [ofHost_of_host h]
  exact ⟨IsHost.eq, fun heq => ⟨h, heq⟩⟩

theorem isAccount_iff (h : ¬domain.toList <:+ host) : IsAccount host 0 t ↔ t = ofHost host 0 := by
  rw [ofHost_of_outside h]
  constructor
  · intro ht
    have hsplit := splitRegion_eq_iff.2 ht.parts
    obtain ⟨region, account, hostText, port⟩ := t
    obtain rfl : hostText = host ++ dottedDomain.toList := ht.host_eq
    obtain rfl : port = 443 := ht.port_eq
    rw [hsplit]
    rfl
  · rintro rfl
    exact ⟨rfl, h, splitRegion_eq_iff.1 rfl, rfl, rfl⟩

/-- What a host text and a port make is a host or an account, and not both. -/
theorem eq_ofHost_iff : t = ofHost host port ↔ Xor (IsHost host port t) (IsAccount host port t) := by
  by_cases h : port ≠ 0 ∨ domain.toList <:+ host
  · have hnot : ¬IsAccount host port t := fun ht =>
      h.elim (absurd ht.port_eq_zero) ht.outside
    rw [← isHost_iff h, eq_false hnot, xor_comm, xor_false]
    rfl
  · obtain ⟨hport, hdomain⟩ := not_or.1 h
    obtain rfl := not_not.1 hport
    have hnot : ¬IsHost host 0 t := fun ht => h ht.port_or_domain
    rw [← isAccount_iff hdomain, eq_false hnot, xor_false]
    rfl

/-! ## Reading -/

/-- The host text and the port of a target: what stands in front of its first colon, and the integer of 64
bits that is spelled behind it, or zero without a colon. -/
inductive HostAndPort : List Char → List Char → Int → Prop
  | bare {host : List Char} (hcolon : ':' ∉ host) : HostAndPort host host 0
  | port {host portText : List Char} {n : Int} (hcolon : ':' ∉ host)
      (hport : Integer.Spells portText n) (hmin : Integer.min64 ≤ n) (hmax : n ≤ Integer.max64) :
      HostAndPort (host ++ ':' :: portText) host n

section

variable {part : List Char}

theorem read_eq_ok_iff :
    Target.read part 0 part.length = .ok t ↔
      ∃ host port, HostAndPort part host port ∧ t = ofHost host port := by
  constructor
  · intro h
    by_cases hcolon : ':' ∈ part
    · obtain ⟨host, portText, rfl, hhost⟩ := List.eq_append_cons_of_mem hcolon
      rw [read_host_port hhost] at h
      cases hport : Integer.read portText with
      | error fault =>
        rw [hport] at h
        cases h
      | ok port =>
        rw [hport] at h
        cases h
        obtain ⟨hspells, hmin, hmax⟩ := Integer.read_eq_ok_iff.1 hport
        exact ⟨host, port, .port hhost hspells hmin hmax, rfl⟩
    · rw [read_host hcolon] at h
      cases h
      exact ⟨part, 0, .bare hcolon, rfl⟩
  · rintro ⟨host, port, hpart, rfl⟩
    cases hpart with
    | bare hcolon => exact read_host hcolon
    | port hcolon hport hmin hmax =>
      rw [read_host_port hcolon, Integer.read_eq_ok_iff.2 ⟨hport, hmin, hmax⟩]
      rfl

theorem read_eq_error_iff {error : NameError} :
    Target.read part 0 part.length = .error error ↔
      ∃ host portText, part = host ++ ':' :: portText ∧ ':' ∉ host ∧
        ¬Integer.SpellsWithin (-2 ^ 63) (2 ^ 63 - 1) portText ∧
        error = .port (String.ofList portText) := by
  constructor
  · intro h
    by_cases hcolon : ':' ∈ part
    · obtain ⟨host, portText, rfl, hhost⟩ := List.eq_append_cons_of_mem hcolon
      rw [read_host_port hhost] at h
      cases hport : Integer.read portText with
      | error fault =>
        rw [hport] at h
        cases h
        refine ⟨host, portText, rfl, hhost, ?_, rfl⟩
        rintro ⟨n, hn⟩
        rw [Integer.read_eq_ok_iff.2 hn] at hport
        cases hport
      | ok port =>
        rw [hport] at h
        cases h
    · rw [read_host hcolon] at h
      cases h
  · rintro ⟨host, portText, rfl, hhost, hport, rfl⟩
    rw [read_host_port hhost]
    cases hread : Integer.read portText with
    | error fault => rfl
    | ok n => exact absurd ⟨n, Integer.read_eq_ok_iff.1 hread⟩ hport

end

/-! ## Targets in a text -/

/-- The text between two positions, without the characters at them. -/
def between (text : List Char) (before stop : Int) : List Char :=
  (text.take stop.toNat).drop (before + 1).toNat

section

variable {text other : List Char} {atSign stop : Int}

theorem read_between (hat : -1 ≤ atSign) (hlt : atSign < stop) (hstop : stop ≤ text.length) :
    Target.read text (atSign + 1) stop =
      Target.read (between text atSign stop) 0 (between text atSign stop).length := by
  have htake : (text.take stop.toNat).take (atSign + 1).toNat = text.take (atSign + 1).toNat := by
    rw [List.take_take, Nat.min_eq_left (by omega)]
  refine read_part (text.take (atSign + 1).toNat) (text.drop stop.toNat) ?_ ?_ ?_
  · rw [← htake, between, List.take_append_drop, List.take_append_drop]
  · rw [List.length_take]
    omega
  · rw [between, List.length_drop, List.length_take, List.length_take]
    omega

theorem between_congr (hat : -1 ≤ atSign)
    (h : ∀ i : Nat, atSign < i → i < stop → other[i]? = text[i]?) :
    between other atSign stop = between text atSign stop := by
  refine List.ext_getElem? fun i => ?_
  rw [between, between, List.getElem?_drop, List.getElem?_drop, List.getElem?_take, List.getElem?_take]
  split
  · exact h _ (by omega) (by omega)
  · rfl

/-- A target between two positions is a host or an account, and not both, as its host text and its port
say; it is refused if there is no port where there should be one. What stands outside the positions does
not matter. -/
theorem read_host_or_account (hat : -1 ≤ atSign) (hlt : atSign < stop) (hstop : stop ≤ text.length) :
    (∀ t, Target.read text (atSign + 1) stop = .ok t ↔
      ∃ host port, HostAndPort (between text atSign stop) host port ∧
        Xor (IsHost host port t) (IsAccount host port t)) ∧
    (∀ error, Target.read text (atSign + 1) stop = .error error ↔
      ∃ host portText, between text atSign stop = host ++ ':' :: portText ∧ ':' ∉ host ∧
        ¬Integer.SpellsWithin (-2 ^ 63) (2 ^ 63 - 1) portText ∧
        error = .port (String.ofList portText)) ∧
    ∀ other : List Char, stop ≤ other.length →
      (∀ i : Nat, atSign < i → i < stop → other[i]? = text[i]?) →
      Target.read other (atSign + 1) stop = Target.read text (atSign + 1) stop := by
  refine ⟨fun t => ?_, fun error => ?_, fun other hother hsame => ?_⟩
  · simp only [read_between hat hlt hstop, read_eq_ok_iff, eq_ofHost_iff]
  · rw [read_between hat hlt hstop, read_eq_error_iff]
  · rw [read_between hat hlt hstop, read_between hat hlt hother, between_congr hat hsame]

end

/-- An account with its region; the port that is spelled behind it is none. -/
def sampleTarget : Target where
  region := "eu".toList
  account := "acc".toList
  host := "acc.eu.snowflakecomputing.com".toList
  port := 443

theorem read_host_or_account_sampleTarget :
    (∃ host port, HostAndPort (between "u:p@acc.eu:-0?x=1".toList 3 13) host port ∧
      Xor (IsHost host port sampleTarget) (IsAccount host port sampleTarget)) ∧
    Target.read "@??:acc.eu:-0:7".toList 4 13 = .ok sampleTarget := by
  have hread : Target.read "u:p@acc.eu:-0?x=1".toList 4 13 = .ok sampleTarget := by decide
  obtain ⟨hok, -, hothers⟩ :=
    @read_host_or_account "u:p@acc.eu:-0?x=1".toList 3 13 (by decide) (by decide) (by decide)
  have hsame : ∀ i < 13, 3 < i → "@??:acc.eu:-0:7".toList[i]? = "u:p@acc.eu:-0?x=1".toList[i]? := by
    decide
  refine ⟨(hok sampleTarget).1 hread, (hothers _ (by decide) fun i hlow hhigh => ?_).trans hread⟩
  exact hsame i (by omega) (by omega)

end Target

end DataSource.Name
