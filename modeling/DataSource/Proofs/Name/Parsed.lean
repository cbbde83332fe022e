import DataSource.Proofs.Name.Parts
import DataSource.Proofs.Name.Query

/-!
# What was read from a name

Settings that `parse` returns went through the stages of `exists_stages`, and each stage but the query
leaves most fields alone. So user and password are the text in front of an at sign, with a colon between
them (`credentials_of_parse`), and everything that was read can be spelled in a query again
(`bounded_of_parse`).
-/

namespace DataSource.Name

open Settings (Bounded bounded_iff)

/-! ## Queries -/

/-- The key and the unescaped value of a piece, if it has both. -/
def pairOf? (piece : List Char) : Option (String × String) :=
  (splitPiece piece).bind fun (key, raw) =>
    (FormEscape.unescape raw).toOption.map fun value => (String.ofList key, String.ofList value)

/-- The pairs of a query, with their values unescaped. -/
def pairsOf (query : List Char) : List (String × String) := (queryPieces query).filterMap pairOf?

theorem setAll_of_applyPieces {s t : Settings} {pieces : List (List Char)}
    (h : (applyPieces s pieces).result = .ok t) : setAll s (pieces.filterMap pairOf?) = .ok t := by
  induction pieces generalizing s with
  | nil => exact h
  | cons piece rest ih =>
    cases hpiece : applyPiece s piece with
    | error error =>
      rw [applyPieces, hpiece] at h
      cases h
    | ok u =>
      rw [applyPieces, hpiece] at h
      have hrest := ih h
      unfold applyPiece at hpiece
      split at hpiece
      · rename_i hsplit
        cases hpiece
        rwa [List.filterMap_cons_none (by rw [pairOf?, hsplit]; rfl)]
      · rename_i key raw hsplit
        split at hpiece
        · cases hpiece
        · rename_i value hvalue
          have hpair : pairOf? piece = some (String.ofList key, String.ofList value) := by
            simp only [pairOf?, hsplit, Option.bind_some, hvalue]
            rfl
          rw [List.filterMap_cons_some hpair, setAll_cons, hpiece]
          exact hrest

theorem setAll_of_readQuery {s t : Settings} {query? : Option (List Char)}
    (h : readQuery s query? = .ok t) : setAll s ((query?.map pairsOf).getD []) = .ok t := by
  cases query? with
  | none => exact h
  | some query => exact setAll_of_applyPieces h

theorem bounded_of_applyPiece {s t : Settings} (hs : s.Bounded) {piece : List Char}
    (h : applyPiece s piece = .ok t) : t.Bounded := by
  unfold applyPiece at h
  split at h
  · cases h
    exact hs
  · split at h
    · cases h
    · rcases setByKey_eq_ok_iff.1 h with ⟨-, rfl⟩ | ⟨f, x, -, hx, rfl⟩
      · exact hs.putParam _ _
      · exact hs.put (Kind.fits_of_ofText? hx)

theorem bounded_settings_applyPieces {s : Settings} (hs : s.Bounded) (pieces : List (List Char)) :
    (applyPieces s pieces).settings.Bounded := by
  induction pieces generalizing s with
  | nil => exact hs
  | cons piece rest ih =>
    rw [applyPieces]
    cases hpiece : applyPiece s piece with
    | error error => exact hs
    | ok t => exact ih (bounded_of_applyPiece hs hpiece)

theorem settings_of_result {a : Applied} {t : Settings} (h : a.result = .ok t) : a.settings = t := by
  unfold Applied.result at h
  split at h
  · exact Except.ok.inj h
  · cases h

theorem bounded_of_readQuery {s t : Settings} {query? : Option (List Char)}
    (h : readQuery s query? = .ok t) (hs : s.Bounded) : t.Bounded := by
  cases query? with
  | none =>
    cases h
    exact hs
  | some query => exact settings_of_result h ▸ bounded_settings_applyPieces hs (queryPieces query)

/-! ## Credentials -/

theorem atSign_lt_of_slash {text : List Char} {last atSign : Nat}
    (hlast : Text.lastIndex? ['/'] text = some last)
    (h : (Layout.locate text).atSign? = some atSign) : atSign < last := by
  rw [Layout.locate, Text.findLast?_none, hlast] at h
  simp only [Layout.locateWithPath] at h
  split at h
  · cases h
  · have hlookup : Text.findLast? text ['@'] (some (last : Int)) = some atSign := h
    rw [Text.findLast?_some] at hlookup
    have hlt := Text.lt_length_of_lastIndex? hlookup
    rw [List.length_take] at hlt
    omega

theorem atSign_lt_length {text : List Char} {atSign : Nat}
    (h : (Layout.locate text).atSign? = some atSign) : atSign < text.length := by
  cases hlast : Text.lastIndex? ['/'] text with
  | some last =>
    have hlt := atSign_lt_of_slash hlast h
    have hlength := Text.lt_length_of_lastIndex? hlast
    omega
  | none =>
    rw [Layout.locate, Text.findLast?_none, hlast] at h
    have hlookup : Text.findLast? text ['@'] = some atSign := h
    rw [Text.findLast?_none] at hlookup
    exact Text.lt_length_of_lastIndex? hlookup

theorem take_of_readCredentials {text user password : List Char} {stop : Nat}
    (hstop : stop ≤ text.length) (h : readCredentials text stop = (user, password))
    (hpassword : password ≠ []) : text.take stop = user ++ ':' :: password ∧ ':' ∉ user := by
  have hlength : (text.take stop).length = stop := by rw [List.length_take]; omega
  have hsplit := readCredentials_append (text.take stop) (text.drop stop)
  rw [List.take_append_drop, hlength, h] at hsplit
  cases hcut : Text.cut (· == ':') (text.take stop) with
  | none =>
    rw [splitCredentials, hcut] at hsplit
    exact absurd (congrArg Prod.snd hsplit) hpassword
  | some parts =>
    rw [splitCredentials, hcut] at hsplit
    cases hsplit
    obtain ⟨c, hc, huser, htake⟩ := Text.cut_eq_some_iff.1 hcut
    cases beq_iff_eq.1 hc
    exact ⟨htake, fun hcolon => by simpa using huser ':' hcolon⟩

theorem credentials_of_readTarget {text : List Char} {layout : Layout} {t : Settings}
    (h : readTarget text layout = .ok t) (hpassword : t.password ≠ "") :
    ∃ atSign, layout.atSign? = some atSign ∧
      readCredentials text atSign = (t.user.toList, t.password.toList) := by
  unfold readTarget at h
  split at h
  · cases hat : layout.atSign? with
    | none =>
      simp only [hat] at h
      split at h
      · cases h
      · cases h
        exact absurd rfl hpassword
    | some atSign =>
      simp only [hat] at h
      split at h
      · cases h
      · cases h
        refine ⟨atSign, rfl, ?_⟩
        simp
  · cases h
    exact absurd rfl hpassword

theorem credentials_of_stages {s t u : Settings} {text : List Char} {layout : Layout}
    {query? : Option (List Char)} (hquery : readQuery t query? = .ok u)
    (hnames : unescapeNames (setAccount (setPath u text layout)).fill = .ok s) {f : Field}
    (hf : f = .user ∨ f = .password) : s.get f = t.get f := by
  have hkey : f.queryKey? = none := by rcases hf with rfl | rfl <;> rfl
  have hset := get_of_setAll_of_queryKey?_eq_none (setAll_of_readQuery hquery) hkey
  have hpath : (setPath u text layout).get f = u.get f := by
    refine get_setPath_of_ne u text layout ?_ ?_ <;> rcases hf with rfl | rfl <;> decide
  have haccount : (setAccount (setPath u text layout)).get f = (setPath u text layout).get f := by
    refine get_setAccount_of_ne (setPath u text layout) ?_
    rcases hf with rfl | rfl <;> decide
  have hfill : s.get f = (setAccount (setPath u text layout)).fill.get f := by
    refine get_of_unescapeNames hnames ?_
    rcases hf with rfl | rfl <;> decide
  rw [← hset, ← hpath, ← haccount, hfill]
  rcases hf with rfl | rfl <;> rfl

/-- The credentials that were read stand in front of an at sign, with the first colon between them. -/
theorem credentials_of_parse {name : String} {s : Settings} (h : parse name = .ok s) :
    ∃ atSign, (Layout.locate name.toList).atSign? = some atSign ∧
      name.toList.take atSign = s.user.toList ++ ':' :: s.password.toList ∧
      ':' ∉ s.user.toList := by
  obtain ⟨t, u, htarget, hquery, hmissing, hnames⟩ := exists_stages h
  have huser : s.user = t.user := credentials_of_stages hquery hnames (Or.inl rfl)
  have hpassword : s.password = t.password := credentials_of_stages hquery hnames (Or.inr rfl)
  have hnonempty : s.password ≠ "" := by
    have hfill := get_of_unescapeNames hnames (f := .password) (by decide)
    exact ne_of_eq_of_ne hfill (Settings.missing?_eq_none_iff.1 hmissing).2.2
  obtain ⟨atSign, hat, hread⟩ := credentials_of_readTarget htarget (hpassword ▸ hnonempty)
  rw [← huser, ← hpassword] at hread
  refine ⟨atSign, hat, take_of_readCredentials (Nat.le_of_lt (atSign_lt_length hat)) hread ?_⟩
  simpa using hnonempty

/-! ## Bounds -/

theorem port_ofHost (host : List Char) (port : Int) :
    (Target.ofHost host port).port = port ∨ (Target.ofHost host port).port = defaultPort := by
  unfold Target.ofHost
  split
  · exact Or.inr rfl
  · exact Or.inl rfl

theorem fits_of_read {text : List Char} {start stop : Int} {target : Target}
    (h : Target.read text start stop = .ok target) : Kind.integer.Fits target.port := by
  have hofHost (host : List Char) {port : Int} (hport : Kind.integer.Fits port) :
      Kind.integer.Fits (Target.ofHost host port).port := by
    rcases port_ofHost host port with heq | heq
    · rwa [heq]
    · rw [heq]
      exact ⟨by decide, by decide⟩
  unfold Target.read at h
  split at h
  · cases h
    exact hofHost _ ⟨by decide, by decide⟩
  · simp only at h
    split at h
    · rename_i port hport
      cases h
      exact hofHost _ (Integer.read_eq_ok_iff.1 hport).2
    · cases h

theorem bounded_of_readTarget {text : List Char} {layout : Layout} {t : Settings}
    (h : readTarget text layout = .ok t) : t.Bounded := by
  have hzero : Kind.integer.Fits 0 := ⟨by decide, by decide⟩
  have hwhole : Duration.zero.IsWhole := by decide
  unfold readTarget at h
  split at h
  · simp only at h
    split at h
    · cases h
    · rename_i target hread
      cases h
      exact bounded_iff.2 ⟨fits_of_read hread, hzero, hwhole, hwhole⟩
  · cases h
    exact bounded_iff.2 ⟨hzero, hzero, hwhole, hwhole⟩

theorem bounded_of_parse {name : String} {s : Settings} (h : parse name = .ok s) : s.Bounded := by
  obtain ⟨t, u, htarget, hquery, -, hnames⟩ := exists_stages h
  have hu : u.Bounded := bounded_of_readQuery hquery (bounded_of_readTarget htarget)
  have hpath : (setPath u name.toList (Layout.locate name.toList)).Bounded := by
    refine hu.of_get fun f hf => get_setPath_of_ne u _ _ ?_ ?_
    · rintro rfl
      exact hf rfl
    · rintro rfl
      exact hf rfl
  have haccount : (setAccount (setPath u name.toList (Layout.locate name.toList))).Bounded := by
    refine hpath.of_get fun f hf => get_setAccount_of_ne _ ?_
    rintro rfl
    exact hf rfl
  refine haccount.fill.of_get fun f hf => get_of_unescapeNames hnames ?_
  intro hmem
  revert hf
  cases f <;> first | decide | exact absurd hmem (by decide)

end DataSource.Name
