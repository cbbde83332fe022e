import DataSource.Proofs.Name.Fault
import DataSource.Proofs.Settings.Masked

/-!
# Secrets in a name

Every stage of reading a name takes settings that differ in what their secrets hold to settings that
differ in no more, so two names that differ in secrets only are read alike (`map_masked_read`), and
nothing that is reported or shown tells them apart (`secrets_unseen`).
-/

namespace DataSource.Name

open Settings (masked masked_put map_masked_complete)

/-! ## Pieces -/

/-- Two pieces that are the same, but for the value of a secret. -/
inductive SamePiece : List Char → List Char → Prop
  | same (piece : List Char) : SamePiece piece piece
  | secret {key raw raw' value value' : List Char} (hkey : key ∈ secretKeys)
      (hraw : FormEscape.unescape raw = .ok value) (hvalue : value ≠ [])
      (hraw' : FormEscape.unescape raw' = .ok value') (hvalue' : value' ≠ []) :
      SamePiece (key ++ '=' :: raw) (key ++ '=' :: raw')

theorem splitPiece_of_secret {key : List Char} (hkey : key ∈ secretKeys) (raw : List Char) :
    splitPiece (key ++ '=' :: raw) = some (key, raw) := by
  refine splitPiece_eq_some_iff.2 ⟨?_, rfl⟩
  revert key
  decide

theorem maskPiece_of_same {piece piece' : List Char} (h : SamePiece piece piece') :
    maskPiece piece = maskPiece piece' := by
  cases h with
  | same => rfl
  | secret hkey => simp only [maskPiece, splitPiece_of_secret hkey, if_pos hkey]

theorem maskQuery_of_same {query query' : List Char}
    (h : List.Forall₂ SamePiece (queryPieces query) (queryPieces query')) :
    maskQuery query = maskQuery query' := by
  have hpieces : (queryPieces query).map maskPiece = (queryPieces query').map maskPiece := by
    rw [← List.forall₂_eq_eq_eq, List.forall₂_map_left_iff, List.forall₂_map_right_iff]
    exact h.imp fun _ _ => maskPiece_of_same
  rw [maskQuery, maskQuery, hpieces]

theorem mem_secretKeys_iff {f : Field} {key : String} (hf : f.queryKey? = some key) :
    key.toList ∈ secretKeys ↔ f.isSecret = true := by
  cases f <;> cases hf <;> decide

theorem exists_ofQueryKey?_of_secret {key : String} (hkey : key.toList ∈ secretKeys) :
    ∃ f, Field.ofQueryKey? key = some f := by
  have hkeys : key = "passcode" ∨ key = "proxyPassword" := by
    simpa only [secretKeys, List.mem_cons, List.not_mem_nil, or_false, String.toList_inj] using hkey
  rcases hkeys with rfl | rfl
  · exact ⟨.passcode, Field.ofQueryKey?_of_queryKey? rfl⟩
  · exact ⟨.proxyPassword, Field.ofQueryKey?_of_queryKey? rfl⟩

theorem map_masked_setByKey (s : Settings) (key value : String) :
    (setByKey s key value).map masked =
      setByKey s.masked key (if key.toList ∈ secretKeys then hidden value else value) := by
  by_cases hsecret : key.toList ∈ secretKeys
  · rw [if_pos hsecret]
    obtain ⟨f, hkey⟩ := exists_ofQueryKey?_of_secret hsecret
    have hf := Field.queryKey?_of_ofQueryKey? hkey
    have hisSecret := (mem_secretKeys_iff hf).1 hsecret
    simp only [setByKey, hkey]
    cases f with
    | passcode | proxyPassword => rfl
    | password => cases hf
    | _ => cases hisSecret
  · rw [if_neg hsecret]
    cases hkey : Field.ofQueryKey? key with
    | none => simp only [setByKey, hkey]; rfl
    | some f =>
      have hpublic : f.isSecret = false := by
        rw [← Bool.not_eq_true, ← mem_secretKeys_iff (Field.queryKey?_of_ofQueryKey? hkey)]
        exact hsecret
      simp only [setByKey, hkey]
      cases f.kind.ofText? value with
      | none => rfl
      | some x => exact congrArg Except.ok (masked_put hpublic s x)

/-! ## Stages -/

section

variable {s t : Settings}

theorem map_masked_bind {x y : Except NameError Settings}
    {f g : Settings → Except NameError Settings} (hxy : x.map masked = y.map masked)
    (hfg : ∀ s t, s.masked = t.masked → (f s).map masked = (g t).map masked) :
    (x.bind f).map masked = (y.bind g).map masked := by
  cases x with
  | error e =>
    cases y with
    | error e' => cases hxy; rfl
    | ok t => cases hxy
  | ok s =>
    cases y with
    | error e => cases hxy
    | ok t => exact hfg s t (Except.ok.inj hxy)

theorem map_masked_applyPiece {piece piece' : List Char} (h : SamePiece piece piece')
    (hst : s.masked = t.masked) :
    (applyPiece s piece).map masked = (applyPiece t piece').map masked := by
  cases h with
  | same =>
    unfold applyPiece
    rcases splitPiece piece with _ | ⟨key, raw⟩
    · exact congrArg Except.ok hst
    · simp only
      rcases FormEscape.unescape raw with part | value
      · rfl
      · simp only [map_masked_setByKey, hst]
  | @secret key raw raw' value value' hkey hraw hvalue hraw' hvalue' =>
    have hhidden {value : List Char} (hvalue : value ≠ []) : hidden (String.ofList value) = "****" :=
      hidden_of_ne (by simpa using hvalue)
    simp only [applyPiece, splitPiece_of_secret hkey, hraw, hraw', map_masked_setByKey,
      String.toList_ofList, if_pos hkey, hhidden hvalue, hhidden hvalue', hst]

theorem map_masked_applyPieces {pieces pieces' : List (List Char)}
    (h : List.Forall₂ SamePiece pieces pieces') (hst : s.masked = t.masked) :
    (applyPieces s pieces).result.map masked = (applyPieces t pieces').result.map masked := by
  induction h generalizing s t with
  | nil => exact congrArg Except.ok hst
  | cons hpiece _ ih =>
    rw [result_applyPieces_cons, result_applyPieces_cons]
    exact map_masked_bind (map_masked_applyPiece hpiece hst) fun u v huv => ih huv

theorem masked_applyPath (p : Parts) (s : Settings) :
    (p.applyPath s).masked = p.applyPath s.masked := by
  unfold Parts.applyPath
  split <;> rfl

theorem masked_setAccount (s : Settings) : (setAccount s).masked = setAccount s.masked := by
  have hself : setAccount s = { s with account := (setAccount s).account } :=
    setAccount_congr rfl rfl
  have hmasked : setAccount s.masked = { s.masked with account := (setAccount s).account } :=
    setAccount_congr rfl rfl
  rw [hmasked]
  exact congrArg masked hself

theorem map_masked_unescapeNames (s : Settings) :
    (unescapeNames s).map masked = unescapeNames s.masked :=
  (unescapeNames_map (fun _ _ _ _ _ => rfl) s).symm

end

/-! ## Names -/

theorem map_masked_base {p q : Parts} (htarget : p.target? = q.target?) (huser : p.user = q.user)
    (hpassword : hidden (String.ofList p.password) = hidden (String.ofList q.password)) :
    p.base.map masked = q.base.map masked := by
  rw [Parts.base, Parts.base, htarget, huser]
  rcases q.target? with _ | target
  · rfl
  · simp only
    rcases Target.read target 0 target.length with error | t
    · rfl
    · exact congrArg Except.ok (by simp only [masked, ofTarget, hpassword])

/-- Names that differ in secrets only are read alike: both fail with the same error, or both give
settings that differ in what their secrets hold. -/
theorem map_masked_read {p q : Parts} {query query' : List Char} (htarget : p.target? = q.target?)
    (hpath : p.path? = q.path?) (huser : p.user = q.user)
    (hpassword : hidden (String.ofList p.password) = hidden (String.ofList q.password))
    (hquery : p.query? = some query) (hquery' : q.query? = some query')
    (hpieces : List.Forall₂ SamePiece (queryPieces query) (queryPieces query')) :
    p.read.map masked = q.read.map masked := by
  have happly (s : Settings) : p.applyPath s = q.applyPath s := by
    rw [Parts.applyPath, Parts.applyPath, hpath]
  rw [Parts.read, Parts.read, hquery, hquery']
  refine map_masked_bind (map_masked_base htarget huser hpassword) fun s t hst => ?_
  refine map_masked_bind (map_masked_applyPieces hpieces hst) fun u v huv => ?_
  refine map_masked_bind ?_ fun w x hwx => ?_
  · rw [map_masked_complete, map_masked_complete, masked_setAccount, masked_setAccount,
      masked_applyPath, masked_applyPath, huv, happly]
  · rw [map_masked_unescapeNames, map_masked_unescapeNames, hwx]

/-- A name with a query: credentials, a place to connect to, with or without a path, and the query. -/
def queryName (user password place query : List Char) : String :=
  String.ofList (user ++ ':' :: password ++ '@' :: place ++ '?' :: query)

theorem exists_place {place : List Char} (hplace : '@' ∉ place ∧ '?' ∉ place) :
    ∃ target path?, place = target ++ (path?.map Path.text).getD [] ∧
      ∀ {credentials query : List Char}, '/' ∉ credentials → '/' ∉ query ∧ '@' ∉ query →
        Parts.Separated ⟨some credentials, some target, path?, some query⟩ := by
  have hfront {credentials : List Char} (h : '/' ∉ credentials) :
      '/' ∉ frontText (some credentials) := by simp [frontText, h]
  have htail {query : List Char} (h : '/' ∉ query) : '/' ∉ tailText (some query) := by
    simp [tailText, h]
  by_cases hslash : '/' ∈ place
  · obtain ⟨target, rest, rfl, htarget⟩ := List.eq_append_cons_of_mem hslash
    simp only [List.mem_append, List.mem_cons, not_or] at hplace
    obtain ⟨⟨htargetAt, -, hrestAt⟩, -, -, hrestQuestion⟩ := hplace
    by_cases hrest : '/' ∈ rest
    · obtain ⟨database, schema, rfl, hschema⟩ := Text.exists_last_of_mem hrest
      simp only [List.mem_append, List.mem_cons, not_or] at hrestAt hrestQuestion
      refine ⟨target, some ⟨database, some schema⟩, by simp [Path.text], fun hcredentials hquery => ?_⟩
      exact .schema ⟨htarget, htargetAt⟩ hrestAt.1 ⟨hschema, hrestQuestion.2.2⟩ (htail hquery.1)
    · refine ⟨target, some ⟨rest, none⟩, by simp [Path.text], fun hcredentials hquery => ?_⟩
      exact .database (by simp [frontText]) ⟨htarget, htargetAt⟩ ⟨hrest, hrestQuestion⟩ (htail hquery.1)
  · refine ⟨place, none, by simp, fun hcredentials hquery => ?_⟩
    refine .plain (hfront hcredentials) ⟨hslash, hplace⟩ ⟨htail hquery.1, ?_⟩
    simp [tailText, hquery.2]

/-- Reading a name reports its query with the secrets masked, and the summary of what was read. -/
theorem parseRecords_of_parse {p : Parts} {query : List Char} {s : Settings} (hp : p.Separated)
    (hquery : p.query? = some query) (h : parse (String.ofList p.text) = .ok s) :
    parseRecords (String.ofList p.text) =
      [⟨parseSource, .debug, "Query string: " ++ String.ofList (maskQuery query)⟩,
        ⟨parseSource, .debug, "Parsed DSN into " ++ s.summary⟩] := by
  obtain ⟨t, hbase, -⟩ := exists_of_bind_eq_ok ((parse_text hp).symm.trans h)
  simp only [parseRecords, String.toList_ofList, locate_text hp, p.readTarget_layout, hbase,
    p.queryOf?_layout, hquery, h]
  rfl

theorem password_ne_nil_of_read {p : Parts} {s : Settings} (hp : p.Separated) (h : p.read = .ok s) :
    p.password ≠ [] := by
  obtain ⟨t, hbase, h⟩ := exists_of_bind_eq_ok h
  obtain ⟨u, hquery, h⟩ := exists_of_bind_eq_ok h
  obtain ⟨v, hcomplete, -⟩ := exists_of_bind_eq_ok h
  have hmissing := (Settings.complete_eq_ok_iff.1 hcomplete).1
  rw [missing?_of_stages hp hbase hquery] at hmissing
  intro hpassword
  simp only [Parts.missing?, hpassword, if_true] at hmissing
  repeat' split at hmissing
  all_goals cases hmissing

/-- Names that differ in their password and in the secrets of their query cannot be told apart by what
reading them reports, by the summary of what was read, or by its dictionary with the secrets masked. -/
theorem secrets_unseen {user password password' place query query' : List Char} {s s' : Settings}
    (huser : ':' ∉ user ∧ '/' ∉ user) (hpassword : '/' ∉ password) (hpassword' : '/' ∉ password')
    (hplace : '@' ∉ place ∧ '?' ∉ place) (hquery : '/' ∉ query ∧ '@' ∉ query)
    (hquery' : '/' ∉ query' ∧ '@' ∉ query')
    (hpieces : List.Forall₂ SamePiece (queryPieces query) (queryPieces query'))
    (h : parse (queryName user password place query) = .ok s)
    (h' : parse (queryName user password' place query') = .ok s') :
    parseRecords (queryName user password place query) =
        parseRecords (queryName user password' place query') ∧
      s.summary = s'.summary ∧
      Report.maskSecrets s.toTable = Report.maskSecrets s'.toTable := by
  obtain ⟨target, path?, rfl, hseparated⟩ := exists_place hplace
  have hcredentials {password : List Char} (h : '/' ∉ password) : '/' ∉ user ++ ':' :: password := by
    simp [huser.2, h]
  have hname (password query : List Char) :
      queryName user password (target ++ (path?.map Path.text).getD []) query = String.ofList
        (Parts.text ⟨some (user ++ ':' :: password), some target, path?, some query⟩) := by
    simp [queryName, Parts.text, frontText, tailText]
  rw [hname] at h h'
  have hp := hseparated (hcredentials hpassword) hquery
  have hp' := hseparated (hcredentials hpassword') hquery'
  have hread := (parse_text hp).symm.trans h
  have hread' := (parse_text hp').symm.trans h'
  have hmasked : s.masked = s'.masked := by
    have hhidden {password : List Char} (h : password ≠ []) : hidden (String.ofList password) = "****" :=
      hidden_of_ne (by simpa using h)
    have hsame := map_masked_read (p := ⟨some (user ++ ':' :: password), some target, path?, some query⟩)
      (q := ⟨some (user ++ ':' :: password'), some target, path?, some query'⟩) rfl rfl ?_ ?_ rfl rfl
      hpieces
    · rw [hread, hread'] at hsame
      exact Except.ok.inj hsame
    · simp only [Parts.user, Option.map_some, Option.getD_some,
        splitCredentials_append_cons _ huser.1]
    · rw [hhidden (password_ne_nil_of_read hp hread), hhidden (password_ne_nil_of_read hp' hread')]
  have hsummary : s.summary = s'.summary := by
    rw [← s.summary_masked, hmasked, s'.summary_masked]
  refine ⟨?_, hsummary, ?_⟩
  · rw [hname, hname, parseRecords_of_parse hp rfl h, parseRecords_of_parse hp' rfl h', hsummary,
      maskQuery_of_same hpieces]
  · rw [← s.maskSecrets_toTable_masked, hmasked, s'.maskSecrets_toTable_masked]

theorem secrets_unseen_passcode :
    ∃ s s', parse (queryName "u@x".toList "p".toList "acc.eu/db/sc".toList
          "passcode=1&role=r&passcode=a%20b".toList) = .ok s ∧
      parse (queryName "u@x".toList "q:@?".toList "acc.eu/db/sc".toList
          "passcode=77&role=r&passcode=c".toList) = .ok s' ∧
      s.passcode = "a b" ∧ s'.passcode = "c" ∧ s.summary = s'.summary := by
  obtain ⟨s, hs, hpasscode⟩ : ∃ s, parse (queryName "u@x".toList "p".toList "acc.eu/db/sc".toList
      "passcode=1&role=r&passcode=a%20b".toList) = .ok s ∧ s.passcode = "a b" := by decide +kernel
  obtain ⟨s', hs', hpasscode'⟩ : ∃ s, parse (queryName "u@x".toList "q:@?".toList
      "acc.eu/db/sc".toList "passcode=77&role=r&passcode=c".toList) = .ok s ∧ s.passcode = "c" := by
    decide +kernel
  have hfirst : SamePiece ("passcode".toList ++ '=' :: "1".toList)
      ("passcode".toList ++ '=' :: "77".toList) :=
    @SamePiece.secret _ _ _ "1".toList "77".toList (by decide) (by decide +kernel) (by decide)
      (by decide +kernel) (by decide)
  have hlast : SamePiece ("passcode".toList ++ '=' :: "a%20b".toList)
      ("passcode".toList ++ '=' :: "c".toList) :=
    @SamePiece.secret _ _ _ "a b".toList "c".toList (by decide) (by decide +kernel) (by decide)
      (by decide +kernel) (by decide)
  have hpieces : List.Forall₂ SamePiece (queryPieces "passcode=1&role=r&passcode=a%20b".toList)
      (queryPieces "passcode=77&role=r&passcode=c".toList) :=
    .cons hfirst (.cons (.same "role=r".toList) (.cons hlast .nil))
  have hsame := secrets_unseen (by decide) (by decide) (by decide) (by decide) (by decide) (by decide)
    hpieces hs hs'
  exact ⟨s, s', hs, hs', hpasscode, hpasscode', hsame.2.1⟩

end DataSource.Name
