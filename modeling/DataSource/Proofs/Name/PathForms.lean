import DataSource.Proofs.Name.Parsed

/-!
# Names with a path

In front of the path the last at sign ends the credentials and the first slash ends the target. So a
target without these two keeps the credentials together, whatever they are made of; they are parted at
their first colon (`credentials_of_parse_text`). The path then has its say after the query: its database
and schema are the ones that count (`names_of_read`, `path_of_parse`).
-/

namespace DataSource.Name

theorem unescape_eq_ok_iff {name text : String} :
    unescape name = .ok text ↔ FormEscape.unescape name.toList = .ok text.toList := by
  unfold unescape
  cases FormEscape.unescape name.toList with
  | error part => exact ⟨nofun, nofun⟩
  | ok decoded => simp [← String.toList_inj]

section

variable {p : Parts} {s : Settings}

theorem credentials_of_parse_text (hp : p.Separated) {user password : List Char} (huser : ':' ∉ user)
    (hcredentials : p.credentials? = some (user ++ ':' :: password))
    (h : parse (String.ofList p.text) = .ok s) :
    s.user = String.ofList user ∧ s.password = String.ofList password := by
  obtain ⟨atSign, hat, htake, hcolon⟩ := credentials_of_parse h
  rw [String.toList_ofList] at hat htake
  rw [locate_text hp] at hat
  have hlength : atSign = (user ++ ':' :: password).length := by
    simp only [Parts.layout, hcredentials, Option.map_some, Option.some.injEq] at hat
    exact hat.symm
  have htext : p.text = (user ++ ':' :: password) ++
      '@' :: (p.target?.getD [] ++ (p.path?.map Path.text).getD [] ++ tailText p.query?) := by
    simp [Parts.text, frontText, hcredentials]
  have hsplit := splitCredentials_append_cons s.password.toList hcolon
  rw [← htake, hlength, htext, List.take_left, splitCredentials_append_cons password huser] at hsplit
  obtain ⟨rfl, rfl⟩ := Prod.mk.inj hsplit
  simp only [String.ofList_toList, and_self]

theorem names_of_read {path : Path} (hpath : p.path? = some path) (h : p.read = .ok s) :
    unescape (String.ofList path.database) = .ok s.database ∧
      unescape ((path.schema?.map String.ofList).getD defaultSchema) = .ok s.schema := by
  obtain ⟨t, -, h⟩ := exists_of_bind_eq_ok h
  obtain ⟨u, -, h⟩ := exists_of_bind_eq_ok h
  obtain ⟨v, hcomplete, hnames⟩ := exists_of_bind_eq_ok h
  obtain ⟨-, rfl⟩ := Settings.complete_eq_ok_iff.1 hcomplete
  -- The path is put over what the query gave, and nothing behind it changes the names.
  have hdatabase : (p.applyPath u).database = String.ofList path.database := by
    rw [Parts.applyPath, hpath]
  have hschema : (p.applyPath u).schema =
      (path.schema?.map String.ofList).getD defaultSchema := by
    rw [Parts.applyPath, hpath]
  generalize p.applyPath u = w at hnames hdatabase hschema
  obtain ⟨database, schema, role, warehouse, hd, hs, -, -, rfl⟩ := unescapeNames_eq_ok_iff.1 hnames
  have hdatabaseKept : (setAccount w).database = w.database :=
    get_setAccount_of_ne w (f := .database) (by decide)
  have hschemaKept : (setAccount w).schema = w.schema :=
    get_setAccount_of_ne w (f := .schema) (by decide)
  constructor
  · rw [← hdatabase, ← hdatabaseKept]
    exact hd
  · rw [← hschema, ← hschemaKept]
    exact hs

theorem path_of_parse_text (hp : p.Separated) {user password : List Char} (huser : ':' ∉ user)
    (hcredentials : p.credentials? = some (user ++ ':' :: password)) {path : Path}
    (hpath : p.path? = some path) (h : parse (String.ofList p.text) = .ok s) :
    s.user = String.ofList user ∧ s.password = String.ofList password ∧
      FormEscape.unescape path.database = .ok s.database.toList ∧
      unescape ((path.schema?.map String.ofList).getD defaultSchema) = .ok s.schema := by
  obtain ⟨huserRead, hpasswordRead⟩ := credentials_of_parse_text hp huser hcredentials h
  obtain ⟨hdatabase, hschema⟩ := names_of_read hpath ((parse_text hp).symm.trans h)
  rw [unescape_eq_ok_iff, String.toList_ofList] at hdatabase
  exact ⟨huserRead, hpasswordRead, hdatabase, hschema⟩

end

/-- A name with a path, which follows the slash behind the target, and a query if there is one. -/
def pathName (user password target path : List Char) (query? : Option (List Char)) : String :=
  String.ofList (user ++ ':' :: password ++ '@' :: target ++ '/' :: path ++ tailText query?)

theorem pathName_eq (user password target : List Char) (path : Path) (query? : Option (List Char)) :
    pathName user password target (path.database ++ (path.schema?.map ('/' :: ·)).getD []) query? =
      String.ofList (Parts.text ⟨some (user ++ ':' :: password), some target, some path, query?⟩) := by
  obtain ⟨database, _ | schema⟩ := path
  · simp [pathName, Parts.text, frontText, Path.text]
  · simp [pathName, Parts.text, frontText, Path.text]

/-- Credentials in front of a path may have any separators, and the path counts more than the query.
A path of a database and a schema keeps the two apart by its last slash, so that the database may have
slashes and question marks; a path of a database alone has the schema `public`. -/
theorem path_of_parse {user password target : List Char} {query? : Option (List Char)}
    (huser : ':' ∉ user) (htarget : '@' ∉ target ∧ '/' ∉ target)
    (hquery : ∀ query ∈ query?, '/' ∉ query) :
    (∀ (database schema : List Char) (s : Settings), '@' ∉ database → '/' ∉ schema ∧ '?' ∉ schema →
        parse (pathName user password target (database ++ '/' :: schema) query?) = .ok s →
          s.user = String.ofList user ∧ s.password = String.ofList password ∧
            FormEscape.unescape database = .ok s.database.toList ∧
            FormEscape.unescape schema = .ok s.schema.toList) ∧
      ∀ (database : List Char) (s : Settings), '/' ∉ database ∧ '?' ∉ database →
        parse (pathName user password target database query?) = .ok s →
          s.user = String.ofList user ∧ s.password = String.ofList password ∧
            FormEscape.unescape database = .ok s.database.toList ∧ s.schema = "public" := by
  have htail : '/' ∉ tailText query? := not_mem_tailText (by decide) hquery
  constructor
  · intro database schema s hdatabase hschema h
    have hp : Parts.Separated
        ⟨some (user ++ ':' :: password), some target, some ⟨database, some schema⟩, query?⟩ :=
      .schema htarget.symm hdatabase hschema htail
    have hname := pathName_eq user password target ⟨database, some schema⟩ query?
    obtain ⟨huserRead, hpasswordRead, hd, hs⟩ :=
      path_of_parse_text hp huser rfl rfl (hname.symm ▸ h)
    rw [Option.map_some, Option.getD_some, unescape_eq_ok_iff, String.toList_ofList] at hs
    exact ⟨huserRead, hpasswordRead, hd, hs⟩
  · intro database s hdatabase h
    have hp : Parts.Separated
        ⟨some (user ++ ':' :: password), some target, some ⟨database, none⟩, query?⟩ :=
      .database (by simp [frontText]) htarget.symm hdatabase htail
    have hname := pathName_eq user password target ⟨database, none⟩ query?
    simp only [Option.map_none, Option.getD_none, List.append_nil] at hname
    obtain ⟨huserRead, hpasswordRead, hd, hs⟩ := path_of_parse_text hp huser rfl rfl (hname ▸ h)
    have hpublic : unescape defaultSchema = .ok "public" := by decide
    exact ⟨huserRead, hpasswordRead, hd, (Except.ok.inj (hpublic.symm.trans hs)).symm⟩

theorem path_of_parse_separators :
    (∃ s, parse (pathName "a/b@c?".toList ":p/@?".toList "acc.eu".toList
          ("d:b/x?y%2F".toList ++ '/' :: "s%20c".toList) (some "database=e&schema=f&g@h=?".toList)) =
        .ok s ∧
      s.user = "a/b@c?" ∧ s.password = ":p/@?" ∧ s.database = "d:b/x?y/" ∧ s.schema = "s c") ∧
    ∃ s, parse (pathName "a/b@c?".toList ":p/@?".toList "acc.eu".toList "d@b".toList none) = .ok s ∧
      s.user = "a/b@c?" ∧ s.password = ":p/@?" ∧ s.database = "d@b" ∧ s.schema = "public" := by
  constructor
  · obtain ⟨s, hs, -⟩ : ∃ s, parse (pathName "a/b@c?".toList ":p/@?".toList "acc.eu".toList
        ("d:b/x?y%2F".toList ++ '/' :: "s%20c".toList) (some "database=e&schema=f&g@h=?".toList)) =
          .ok s ∧ True := by decide +kernel
    obtain ⟨huser, hpassword, hdatabase, hschema⟩ :=
      (path_of_parse (by decide) (by decide) (by decide)).1 _ _ s (by decide) (by decide) hs
    have hd : FormEscape.unescape "d:b/x?y%2F".toList = .ok "d:b/x?y/".toList := by decide +kernel
    have hc : FormEscape.unescape "s%20c".toList = .ok "s c".toList := by decide +kernel
    rw [hd, Except.ok.injEq, String.toList_inj] at hdatabase
    rw [hc, Except.ok.injEq, String.toList_inj] at hschema
    rw [String.ofList_toList] at huser hpassword
    exact ⟨s, hs, huser, hpassword, hdatabase.symm, hschema.symm⟩
  · obtain ⟨s, hs, -⟩ : ∃ s, parse (pathName "a/b@c?".toList ":p/@?".toList "acc.eu".toList
        "d@b".toList none) = .ok s ∧ True := by decide +kernel
    obtain ⟨huser, hpassword, hdatabase, hschema⟩ :=
      (path_of_parse (by decide) (by decide) (by simp)).2 _ s (by decide) hs
    have hd : FormEscape.unescape "d@b".toList = .ok "d@b".toList := by decide +kernel
    rw [hd, Except.ok.injEq, String.toList_inj] at hdatabase
    rw [String.ofList_toList] at huser hpassword
    exact ⟨s, hs, huser, hpassword, hdatabase.symm, hschema⟩

end DataSource.Name
