import DataSource.Name.Parse
import DataSource.Proofs.Text.Search

/-!
# The stages of reading a name

`parse` reads the target, then the query, then the path, then an open account, then what is open at all,
and unescapes the names last (`parse_eq`, `exists_stages`). The stages after the query change few fields
each: the path a database and a schema, the host an account, the last stage the four names.
-/

namespace DataSource.Name

/-- The settings after the query of a name, if it has one. -/
def readQuery (s : Settings) (query? : Option (List Char)) : Except NameError Settings :=
  match query? with
  | none => .ok s
  | some query => (applyQuery s query).result

/-- A name is read in stages: target, query, path and account, defaults, names. -/
theorem parse_eq (name : String) :
    parse name =
      (readTarget name.toList (Layout.locate name.toList)).bind fun s =>
        (readQuery s (queryOf? name.toList (Layout.locate name.toList))).bind fun u =>
          (setAccount (setPath u name.toList (Layout.locate name.toList))).complete.bind
            unescapeNames := by
  simp only [parse, readQuery]
  cases readTarget name.toList (Layout.locate name.toList) with
  | error error => rfl
  | ok s =>
    cases queryOf? name.toList (Layout.locate name.toList) <;> rfl

theorem exists_of_bind_eq_ok {α β ε : Type} {x : Except ε α} {f : α → Except ε β} {b : β}
    (h : x.bind f = .ok b) : ∃ a, x = .ok a ∧ f a = .ok b := by
  cases x with
  | error error => cases h
  | ok a => exact ⟨a, rfl, h⟩

/-- What holds of a result can be decided by computing it. -/
instance decidableExistsOk {ε α : Type} {P : α → Prop} [DecidablePred P] (x : Except ε α) :
    Decidable (∃ a, x = .ok a ∧ P a) :=
  match x with
  | .ok a => decidable_of_iff (P a) (by simp)
  | .error _ => .isFalse (by simp)

theorem exists_stages {name : String} {s : Settings} (h : parse name = .ok s) :
    ∃ t u, readTarget name.toList (Layout.locate name.toList) = .ok t ∧
      readQuery t (queryOf? name.toList (Layout.locate name.toList)) = .ok u ∧
      (setAccount (setPath u name.toList (Layout.locate name.toList))).missing? = none ∧
      unescapeNames (setAccount (setPath u name.toList (Layout.locate name.toList))).fill =
        .ok s := by
  rw [parse_eq] at h
  obtain ⟨t, ht, h⟩ := exists_of_bind_eq_ok h
  obtain ⟨u, hu, h⟩ := exists_of_bind_eq_ok h
  obtain ⟨v, hv, h⟩ := exists_of_bind_eq_ok h
  obtain ⟨hmissing, rfl⟩ := Settings.complete_eq_ok_iff.1 hv
  exact ⟨t, u, ht, hu, hmissing, h⟩

/-! ## The path -/

theorem get_setPath_of_ne (s : Settings) (text : List Char) (layout : Layout) {f : Field}
    (hdatabase : f ≠ .database) (hschema : f ≠ .schema) :
    (setPath s text layout).get f = s.get f := by
  unfold setPath
  repeat' split
  all_goals cases f <;> first | rfl | exact absurd rfl hdatabase | exact absurd rfl hschema

/-! ## The account -/

theorem get_setAccount_of_ne (s : Settings) {f : Field} (hf : f ≠ .account) :
    (setAccount s).get f = s.get f := by
  unfold setAccount
  repeat' split
  all_goals cases f <;> first | rfl | exact absurd rfl hf

theorem params_setAccount (s : Settings) : (setAccount s).params = s.params := by
  unfold setAccount
  repeat' split
  all_goals rfl

theorem setAccount_congr {s t : Settings} (haccount : t.account = s.account)
    (hhost : t.host = s.host) :
    setAccount t = { t with account := (setAccount s).account } := by
  have hkept : t = { t with account := s.account, host := s.host } := by rw [← haccount, ← hhost]
  rw [setAccount, setAccount, haccount, hhost]
  by_cases hopen : s.account = "" ∧ Text.endsWith s.host.toList dottedDomain.toList = true
  · rw [if_pos hopen, if_pos hopen]
    cases Text.find? s.host.toList ['.'] 0 with
    | none => exact hkept
    | some dot =>
      by_cases hdot : 0 < dot
      · simp only [hdot, if_true]
      · simp only [hdot, if_false]
        exact hkept
  · rw [if_neg hopen, if_neg hopen]
    exact hkept

theorem setAccount_of_account_ne (s : Settings) (h : s.account ≠ "") : setAccount s = s :=
  if_neg fun hopen => h hopen.1

theorem exists_label_of_endsWith {host : List Char}
    (hdomain : Text.endsWith host dottedDomain.toList = true) :
    ∃ label rest, host = label ++ '.' :: rest ∧ '.' ∉ label ∧
      host.takeWhile (· != '.') = label := by
  have hsuffix : dottedDomain.toList <:+ host := List.isSuffixOf_iff_suffix.1 hdomain
  obtain ⟨label, rest, rfl, hlabel⟩ :=
    List.eq_append_cons_of_mem (hsuffix.subset (show '.' ∈ dottedDomain.toList by decide))
  refine ⟨label, rest, rfl, hlabel, ?_⟩
  rw [List.takeWhile_append_of_pos]
  · simp
  · intro c hc
    simpa using ne_of_mem_of_not_mem hc hlabel

theorem account_setAccount_of_host {s : Settings} {account rest : List Char}
    (hopen : s.account = "") (hhost : s.host.toList = account ++ '.' :: rest)
    (hdomain : Text.endsWith s.host.toList dottedDomain.toList = true) (hdot : '.' ∉ account)
    (haccount : account ≠ []) : (setAccount s).account = String.ofList account := by
  have hfind : Text.find? s.host.toList ['.'] 0 = some account.length := by
    rw [Text.find?_zero, hhost]
    exact Text.firstIndex?_append_cons rest hdot
  have hpos : 0 < account.length := List.length_pos_iff.2 haccount
  rw [setAccount, if_pos ⟨hopen, hdomain⟩, hfind]
  simp only [hpos, if_true, hhost, List.take_left]

/-! ## The names of a database and its like -/

/-- The settings with other names of database, schema, role and warehouse. -/
def withNames (s : Settings) (database schema role warehouse : String) : Settings :=
  { s with database, schema, role, warehouse }

theorem unescapeNames_withNames (s t : Settings) :
    unescapeNames (withNames t s.database s.schema s.role s.warehouse) =
      (unescapeNames s).map fun u => withNames t u.database u.schema u.role u.warehouse := by
  simp only [unescapeNames, withNames]
  cases unescape s.database with
  | error error => rfl
  | ok database =>
    cases unescape s.schema with
    | error error => rfl
    | ok schema =>
      cases unescape s.role with
      | error error => rfl
      | ok role => cases unescape s.warehouse <;> rfl

theorem unescapeNames_eq_ok_iff {s t : Settings} :
    unescapeNames s = .ok t ↔
      ∃ database schema role warehouse, unescape s.database = .ok database ∧
        unescape s.schema = .ok schema ∧ unescape s.role = .ok role ∧
        unescape s.warehouse = .ok warehouse ∧
        t = withNames s database schema role warehouse := by
  simp only [unescapeNames, withNames]
  cases unescape s.database <;> cases unescape s.schema <;> cases unescape s.role <;>
    cases unescape s.warehouse <;> simp [bind, Except.bind, pure, Except.pure, eq_comm]

theorem unescapeNames_map {g : Settings → Settings}
    (hg : ∀ s database schema role warehouse,
      g (withNames s database schema role warehouse) =
        withNames (g s) database schema role warehouse) (s : Settings) :
    unescapeNames (g s) = (unescapeNames s).map g := by
  have hnames : g s = withNames (g s) s.database s.schema s.role s.warehouse :=
    hg s s.database s.schema s.role s.warehouse
  rw [hnames, unescapeNames_withNames]
  cases hread : unescapeNames s with
  | error error => rfl
  | ok t =>
    obtain ⟨database, schema, role, warehouse, -, -, -, -, rfl⟩ := unescapeNames_eq_ok_iff.1 hread
    exact congrArg Except.ok (hg s database schema role warehouse).symm

/-- The fields whose contents are unescaped last. -/
def nameFields : List Field := [.database, .schema, .role, .warehouse]

theorem get_withNames_of_not_mem (s : Settings) (database schema role warehouse : String) {f : Field}
    (hf : f ∉ nameFields) : (withNames s database schema role warehouse).get f = s.get f := by
  cases f <;> first | rfl | exact absurd (by decide) hf

theorem get_of_unescapeNames {s t : Settings} (h : unescapeNames s = .ok t) {f : Field}
    (hf : f ∉ nameFields) : t.get f = s.get f := by
  obtain ⟨database, schema, role, warehouse, -, -, -, -, rfl⟩ := unescapeNames_eq_ok_iff.1 h
  exact get_withNames_of_not_mem s database schema role warehouse hf

end DataSource.Name
