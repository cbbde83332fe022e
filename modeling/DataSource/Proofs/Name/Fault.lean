import DataSource.Proofs.Name.Parsed

/-!
# What is wrong with a name

A name is refused for the first fault that reading meets (`Fault`): a port that is no number, then the
first piece of the query that cannot be applied, then an account, a user or a password that is missing,
then the first name of a database, schema, role or warehouse with a broken escape. `parse_outcome`: these
faults are the errors of reading, and a name without them is read.
-/

namespace DataSource.Name

open Integer (SpellsWithin)

/-! ## Faults -/

/-- The first fault of some items, which are looked at in order. -/
inductive FirstFault {α : Type} (fault : α → NameError → Prop) : List α → NameError → Prop
  | here {item : α} {rest : List α} {error : NameError} (h : fault item error) :
      FirstFault fault (item :: rest) error
  | later {item : α} {rest : List α} {error : NameError} (hitem : ∀ e, ¬fault item e)
      (h : FirstFault fault rest error) : FirstFault fault (item :: rest) error

/-- An escape that is broken, or whose bytes are no text. -/
def EscapeFault (text : List Char) (error : NameError) : Prop :=
  ∃ part, FormEscape.unescape text = .error part ∧ error = .escape (String.ofList part)

/-- The values that a key takes: truth values have twelve spellings, and times are seconds that a
duration can have. Every other key takes any text. -/
structure Takes (key : String) (value : List Char) : Prop where
  flag : key ∈ ["passcodeInPassword", "insecureMode"] → String.ofList value ∈
    ["1", "t", "T", "true", "True", "TRUE", "0", "f", "F", "false", "False", "FALSE"]
  time : key ∈ ["loginTimeout", "requestTimeout"] →
    SpellsWithin (-86399999913600) 86399999999999 value
  port : key = "proxyPort" → SpellsWithin (-2 ^ 63) (2 ^ 63 - 1) value

/-- A piece of a query that cannot be applied. A piece without an equals sign has no fault. -/
inductive PieceFault : List Char → NameError → Prop
  | escape {key raw : List Char} {error : NameError} (hkey : '=' ∉ key) (h : EscapeFault raw error) :
      PieceFault (key ++ '=' :: raw) error
  | value {key raw value : List Char} (hkey : '=' ∉ key) (hraw : FormEscape.unescape raw = .ok value)
      (h : ¬Takes (String.ofList key) value) :
      PieceFault (key ++ '=' :: raw) (.parameter (String.ofList key) (String.ofList value))

namespace Parts

variable (p : Parts)

/-- A text behind the first colon of the target that is no number of 64 bits. -/
def PortFault (error : NameError) : Prop :=
  ∃ host port, p.target? = some (host ++ ':' :: port) ∧ ':' ∉ host ∧
    ¬SpellsWithin (-2 ^ 63) (2 ^ 63 - 1) port ∧ error = .port (String.ofList port)

def QueryFault (error : NameError) : Prop :=
  ∃ query, p.query? = some query ∧ FirstFault PieceFault (queryPieces query) error

/-- The value that the query gives a key; the last one counts. -/
def given? (key : String) : Option String := ((p.query?.map pairsOf).getD []).reverse.lookup key

/-- The target, or nothing if there is none. -/
def target : Target :=
  ((p.target?.bind fun text => (Target.read text 0 text.length).toOption)).getD
    { region := [], account := [], host := [], port := 0 }

/-- The account that the query gives, or else the target; an empty one is taken from a host of the
domain. -/
def account : List Char :=
  let told := ((p.given? "account").map String.toList).getD p.target.account
  if told = [] ∧ Text.endsWith p.target.host dottedDomain.toList then
    p.target.host.takeWhile (· != '.')
  else told

/-- What is missing before anything else is. -/
def missing? : Option NameError :=
  if p.account = [] then some .emptyAccount
  else if p.user = [] then some .emptyUser
  else if p.password = [] then some .emptyPassword
  else none

/-- The names of database, schema, role and warehouse, in this order; the path counts more than the
query. -/
def names : List String :=
  let given key := (p.given? key).getD ""
  match p.path? with
  | none => [given "database", given "schema", given "role", given "warehouse"]
  | some path =>
    [String.ofList path.database, (path.schema?.map String.ofList).getD "public", given "role",
      given "warehouse"]

/-- The first fault of a name. -/
inductive Fault : NameError → Prop
  | port {error : NameError} (h : p.PortFault error) : Fault error
  | query {error : NameError} (hport : ∀ e, ¬p.PortFault e) (h : p.QueryFault error) : Fault error
  | missing {error : NameError} (hport : ∀ e, ¬p.PortFault e) (hquery : ∀ e, ¬p.QueryFault e)
      (h : p.missing? = some error) : Fault error
  | names {error : NameError} (hport : ∀ e, ¬p.PortFault e) (hquery : ∀ e, ¬p.QueryFault e)
      (hmissing : p.missing? = none)
      (h : FirstFault (fun name => EscapeFault name.toList) p.names error) : Fault error

end Parts

/-! ## Pieces -/

theorem exists_readFlag_iff {text : String} :
    (∃ b, (readFlag text).toOption = some b) ↔
      text ∈ ["1", "t", "T", "true", "True", "TRUE", "0", "f", "F", "false", "False", "FALSE"] := by
  have hkeys : ["1", "t", "T", "true", "True", "TRUE", "0", "f", "F", "false", "False", "FALSE"] =
      flagSpellings.map Prod.fst := rfl
  rw [hkeys, readFlag]
  cases h : flagSpellings.lookup text with
  | none =>
    refine ⟨nofun, fun hmem => ?_⟩
    obtain ⟨⟨spelling, b⟩, hpair, rfl⟩ := List.mem_map.1 hmem
    rw [Table.lookup_of_mem (by decide) hpair] at h
    cases h
  | some b =>
    have hpair := Table.mem_of_lookup_eq_some h
    exact ⟨fun _ => List.mem_map.2 ⟨_, hpair, rfl⟩, fun _ => ⟨b, rfl⟩⟩

theorem exists_ofText?_iff {f : Field} {key : String} (hf : f.queryKey? = some key) {value : String} :
    (∃ x, f.kind.ofText? value = some x) ↔ Takes key value.toList := by
  have hflag : (∃ x, Kind.flag.ofText? value = some x) ↔ String.ofList value.toList ∈
      ["1", "t", "T", "true", "True", "TRUE", "0", "f", "F", "false", "False", "FALSE"] := by
    rw [String.ofList_toList]
    exact exists_readFlag_iff
  have hport : (∃ x, Kind.integer.ofText? value = some x) ↔
      SpellsWithin (-2 ^ 63) (2 ^ 63 - 1) value.toList :=
    exists_congr fun n => Kind.readInteger_eq_some_iff
  constructor
  · rintro h
    refine ⟨fun hkey => hflag.1 ?_, fun hkey => Kind.exists_ofText?_duration_iff.1 ?_,
      fun hkey => hport.1 ?_⟩
    all_goals cases f <;> cases hf <;> first | exact h | exact absurd hkey (by decide)
  · intro h
    cases f with
    | passcodeInPassword | insecureMode => cases hf; exact hflag.2 (h.flag (by decide))
    | loginTimeout | requestTimeout =>
      cases hf
      exact Kind.exists_ofText?_duration_iff.2 (h.time (by decide))
    | proxyPort => cases hf; exact hport.2 (h.port rfl)
    | port => cases hf
    | _ => exact ⟨value, rfl⟩

theorem takes_of_ofQueryKey?_eq_none {key : String} (h : Field.ofQueryKey? key = none)
    (value : List Char) : Takes key value := by
  have hkeys : ∀ k ∈ ["passcodeInPassword", "insecureMode", "loginTimeout", "requestTimeout",
      "proxyPort"], Field.ofQueryKey? k ≠ none := by decide
  have hkey := mt (hkeys key) (not_not.2 h)
  simp only [List.mem_cons, List.not_mem_nil, or_false, not_or] at hkey
  refine ⟨fun hmem => ?_, fun hmem => ?_, fun heq => absurd heq hkey.2.2.2.2⟩
  all_goals simp [hkey] at hmem

theorem setByKey_eq_error_iff {s : Settings} {key value : String} {error : NameError} :
    setByKey s key value = .error error ↔
      ¬Takes key value.toList ∧ error = .parameter key value := by
  unfold setByKey
  cases hkey : Field.ofQueryKey? key with
  | none => exact ⟨nofun, fun h => absurd (takes_of_ofQueryKey?_eq_none hkey _) h.1⟩
  | some f =>
    rw [← exists_ofText?_iff (Field.queryKey?_of_ofQueryKey? hkey)]
    cases hvalue : f.kind.ofText? value with
    | none => simp [hvalue, eq_comm]
    | some x => simp [hvalue]

theorem pieceFault_iff {piece : List Char} {error : NameError} :
    PieceFault piece error ↔ ∃ key raw, splitPiece piece = some (key, raw) ∧
      (EscapeFault raw error ∨ ∃ value, FormEscape.unescape raw = .ok value ∧
        ¬Takes (String.ofList key) value ∧
          error = .parameter (String.ofList key) (String.ofList value)) := by
  constructor
  · intro h
    cases h with
    | escape hkey h => exact ⟨_, _, splitPiece_eq_some_iff.2 ⟨hkey, rfl⟩, .inl h⟩
    | value hkey hraw h =>
      exact ⟨_, _, splitPiece_eq_some_iff.2 ⟨hkey, rfl⟩, .inr ⟨_, hraw, h, rfl⟩⟩
  · rintro ⟨key, raw, hsplit, h | ⟨value, hraw, h, rfl⟩⟩
    · obtain ⟨hkey, rfl⟩ := splitPiece_eq_some_iff.1 hsplit
      exact .escape hkey h
    · obtain ⟨hkey, rfl⟩ := splitPiece_eq_some_iff.1 hsplit
      exact .value hkey hraw h

theorem applyPiece_eq_error_iff {s : Settings} {piece : List Char} {error : NameError} :
    applyPiece s piece = .error error ↔ PieceFault piece error := by
  rw [pieceFault_iff, applyPiece]
  cases hsplit : splitPiece piece with
  | none => simp
  | some parts =>
    obtain ⟨key, raw⟩ := parts
    cases hraw : FormEscape.unescape raw with
    | error part => simp [EscapeFault, hraw, eq_comm]
    | ok value => simp [EscapeFault, hraw, setByKey_eq_error_iff]

theorem result_applyPieces_eq_error_iff {s : Settings} {pieces : List (List Char)}
    {error : NameError} :
    (applyPieces s pieces).result = .error error ↔ FirstFault PieceFault pieces error := by
  induction pieces generalizing s with
  | nil => exact ⟨nofun, nofun⟩
  | cons piece rest ih =>
    rw [applyPieces]
    cases hpiece : applyPiece s piece with
    | error e =>
      have hfault : PieceFault piece e := applyPiece_eq_error_iff.1 hpiece
      constructor
      · intro h
        cases h
        exact .here hfault
      · intro h
        cases h with
        | here h => exact hpiece.symm.trans (applyPiece_eq_error_iff.2 h)
        | later hitem h => exact absurd hfault (hitem e)
    | ok t =>
      have hgood : ∀ e, ¬PieceFault piece e := by
        intro e he
        rw [applyPiece_eq_error_iff.2 he] at hpiece
        cases hpiece
      rw [ih]
      constructor
      · exact .later hgood
      · intro h
        cases h with
        | here h => exact absurd h (hgood _)
        | later hitem h => exact h

/-! ## Escapes of names -/

theorem unescape_eq_error_iff {name : String} {error : NameError} :
    unescape name = .error error ↔ EscapeFault name.toList error := by
  unfold unescape EscapeFault
  cases FormEscape.unescape name.toList <;> simp [eq_comm]

theorem firstFault_cons {α : Type} {fault : α → NameError → Prop} {item : α} {rest : List α}
    {error : NameError} :
    FirstFault fault (item :: rest) error ↔
      fault item error ∨ (∀ e, ¬fault item e) ∧ FirstFault fault rest error := by
  constructor
  · intro h
    cases h with
    | here h => exact .inl h
    | later hitem h => exact .inr ⟨hitem, h⟩
  · rintro (h | ⟨hitem, h⟩)
    · exact .here h
    · exact .later hitem h

theorem not_firstFault_nil {α : Type} {fault : α → NameError → Prop} {error : NameError} :
    ¬FirstFault fault [] error := nofun

/-- The names that are unescaped last, in this order. -/
def namesOf (s : Settings) : List String := [s.database, s.schema, s.role, s.warehouse]

theorem namesOf_fill (s : Settings) : namesOf s.fill = namesOf s := rfl

theorem namesOf_setAccount (s : Settings) : namesOf (setAccount s) = namesOf s := by
  unfold setAccount
  repeat' split
  all_goals rfl

theorem unescapeNames_eq_error_iff {s : Settings} {error : NameError} :
    unescapeNames s = .error error ↔
      FirstFault (fun name => EscapeFault name.toList) (namesOf s) error := by
  simp only [← unescape_eq_error_iff, namesOf, firstFault_cons, not_firstFault_nil, and_false,
    or_false, unescapeNames]
  cases unescape s.database <;> cases unescape s.schema <;> cases unescape s.role <;>
    cases unescape s.warehouse <;> simp [bind, Except.bind, pure, Except.pure]

/-! ## The stages -/

section

variable {p : Parts} {s u : Settings}

theorem base_eq_error_iff {error : NameError} : p.base = .error error ↔ p.PortFault error := by
  unfold Parts.base Parts.PortFault
  rcases p.target? with _ | target
  · simp
  · simp only [Option.some.injEq, ← Target.read_eq_error_iff]
    cases Target.read target 0 target.length with
    | error e => simp [Except.map]
    | ok t => simp [Except.map]

theorem eq_ofTarget_of_base (hp : p.Separated) (h : p.base = .ok s) :
    s = ofTarget p.user p.password p.target := by
  unfold Parts.base at h
  unfold Parts.target
  cases htarget : p.target? with
  | none =>
    rw [htarget] at h
    cases h
    cases hp with
    | untargeted => rfl
    | plain | database | schema => cases htarget
  | some text =>
    simp only [htarget] at h
    cases hread : Target.read text 0 text.length with
    | error error =>
      rw [hread] at h
      cases h
    | ok target =>
      rw [hread] at h
      cases h
      simp [hread, Except.toOption]

theorem readQuery_eq_error_iff {error : NameError} :
    readQuery s p.query? = .error error ↔ p.QueryFault error := by
  unfold readQuery Parts.QueryFault
  cases p.query? with
  | none => simp
  | some query => simp [applyQuery, result_applyPieces_eq_error_iff]

theorem account_setAccount (s : Settings) :
    (setAccount s).account.toList =
      if s.account.toList = [] ∧ Text.endsWith s.host.toList dottedDomain.toList then
        s.host.toList.takeWhile (· != '.')
      else s.account.toList := by
  simp only [String.toList_eq_nil_iff]
  by_cases h : s.account = "" ∧ Text.endsWith s.host.toList dottedDomain.toList
  · obtain ⟨hopen, hdomain⟩ := h
    obtain ⟨label, rest, hhost, hlabel, htake⟩ := exists_label_of_endsWith hdomain
    rw [if_pos ⟨hopen, hdomain⟩, htake]
    by_cases hempty : label = []
    · have hfind : Text.find? s.host.toList ['.'] 0 = some 0 := by
        rw [Text.find?_zero, hhost, hempty]
        rfl
      rw [setAccount, if_pos ⟨hopen, hdomain⟩, hfind, hempty]
      simp [hopen]
    · rw [account_setAccount_of_host hopen hhost hdomain hlabel hempty, String.toList_ofList]
  · rw [setAccount, if_neg h, if_neg h]

theorem get_applyPath_of_ne (p : Parts) (s : Settings) {f : Field} (hdatabase : f ≠ .database)
    (hschema : f ≠ .schema) : (p.applyPath s).get f = s.get f := by
  unfold Parts.applyPath
  split
  · rfl
  · cases f <;> first | rfl | exact absurd rfl hdatabase | exact absurd rfl hschema

theorem toList_getD_ofList (text? : Option String) (default : List Char) :
    (text?.getD (String.ofList default)).toList = (text?.map String.toList).getD default := by
  cases text? <;> simp

theorem missing?_of_stages (hp : p.Separated) (hbase : p.base = .ok s)
    (hquery : readQuery s p.query? = .ok u) :
    (setAccount (p.applyPath u)).missing? = p.missing? := by
  have hs : s = ofTarget p.user p.password p.target := eq_ofTarget_of_base hp hbase
  have hset := setAll_of_readQuery hquery
  -- No key of a query sets the user, the password or the host.
  have hkept {f : Field} (hf : f.queryKey? = none) (hdatabase : f ≠ .database)
      (hschema : f ≠ .schema) : (p.applyPath u).get f = s.get f :=
    (get_applyPath_of_ne p u hdatabase hschema).trans (get_of_setAll_of_queryKey?_eq_none hset hf)
  have huser : (setAccount (p.applyPath u)).user = String.ofList p.user :=
    ((get_setAccount_of_ne _ (f := .user) (by decide)).trans
      (hkept rfl (by decide) (by decide))).trans (congrArg Settings.user hs)
  have hpassword : (setAccount (p.applyPath u)).password = String.ofList p.password :=
    ((get_setAccount_of_ne _ (f := .password) (by decide)).trans
      (hkept rfl (by decide) (by decide))).trans (congrArg Settings.password hs)
  have hhost : (p.applyPath u).host = String.ofList p.target.host :=
    (hkept (f := .host) rfl (by decide) (by decide)).trans (congrArg Settings.host hs)
  have htold : (p.applyPath u).account =
      (p.given? "account").getD (String.ofList p.target.account) := by
    have hpath : (p.applyPath u).account = u.account :=
      get_applyPath_of_ne p u (f := .account) (by decide) (by decide)
    have hgiven : u.account = (p.given? "account").getD s.account :=
      get_of_setAll_of_text hset (f := .account) rfl rfl
    rw [hpath, hgiven, hs]
    rfl
  have haccount : (setAccount (p.applyPath u)).account = String.ofList p.account := by
    rw [← String.toList_inj, String.toList_ofList, account_setAccount, htold, toList_getD_ofList,
      hhost, String.toList_ofList]
    rfl
  simp only [Settings.missing?, haccount, huser, hpassword, String.ofList_eq_empty_iff]
  rfl

theorem namesOf_of_stages (hp : p.Separated) (hbase : p.base = .ok s)
    (hquery : readQuery s p.query? = .ok u) :
    namesOf (setAccount (p.applyPath u)) = p.names := by
  obtain rfl : s = ofTarget p.user p.password p.target := eq_ofTarget_of_base hp hbase
  have hset := setAll_of_readQuery hquery
  have hdatabase : u.database = (p.given? "database").getD "" :=
    get_of_setAll_of_text hset (f := .database) rfl rfl
  have hschema : u.schema = (p.given? "schema").getD "" :=
    get_of_setAll_of_text hset (f := .schema) rfl rfl
  have hrole : u.role = (p.given? "role").getD "" :=
    get_of_setAll_of_text hset (f := .role) rfl rfl
  have hwarehouse : u.warehouse = (p.given? "warehouse").getD "" :=
    get_of_setAll_of_text hset (f := .warehouse) rfl rfl
  rw [namesOf_setAccount, Parts.names, Parts.applyPath]
  cases p.path? with
  | none => simp only [namesOf, hdatabase, hschema, hrole, hwarehouse]
  | some path =>
    simp only [namesOf, hrole, hwarehouse]
    rfl

end

/-! ## The whole -/

theorem bind_eq_error_iff {α β ε : Type} {x : Except ε α} {f : α → Except ε β} {error : ε} :
    x.bind f = .error error ↔ x = .error error ∨ ∃ a, x = .ok a ∧ f a = .error error := by
  cases x with
  | error e => simp [Except.bind]
  | ok a => simp [Except.bind]

theorem exists_eq_ok_iff {α ε : Type} {x : Except ε α} :
    (∃ a, x = .ok a) ↔ ∀ error, x ≠ .error error := by
  cases x with
  | error e => simp
  | ok a => simp

theorem complete_eq_error_iff {s : Settings} {error : NameError} :
    s.complete = .error error ↔ s.missing? = some error := by
  unfold Settings.complete
  cases s.missing? with
  | none => simp
  | some e => simp

/-- The faults of parts are the errors of reading them: each stage has its own, and the first counts. -/
theorem read_eq_error_iff {p : Parts} (hp : p.Separated) {error : NameError} :
    p.read = .error error ↔ p.Fault error := by
  have hport {s : Settings} (hbase : p.base = .ok s) (e : NameError) : ¬p.PortFault e := by
    rw [← base_eq_error_iff, hbase]
    nofun
  have hfault {s u : Settings} (hquery : readQuery s p.query? = .ok u) (e : NameError) :
      ¬p.QueryFault e := by
    rw [← readQuery_eq_error_iff (s := s), hquery]
    nofun
  constructor
  · intro h
    rcases bind_eq_error_iff.1 h with h | ⟨s, hbase, h⟩
    · exact .port (base_eq_error_iff.1 h)
    rcases bind_eq_error_iff.1 h with h | ⟨u, hquery, h⟩
    · exact .query (hport hbase) (readQuery_eq_error_iff.1 h)
    have hmissing := missing?_of_stages hp hbase hquery
    rcases bind_eq_error_iff.1 h with h | ⟨v, hcomplete, h⟩
    · exact .missing (hport hbase) (hfault hquery) (hmissing ▸ complete_eq_error_iff.1 h)
    obtain ⟨hnone, rfl⟩ := Settings.complete_eq_ok_iff.1 hcomplete
    refine .names (hport hbase) (hfault hquery) (hmissing ▸ hnone) ?_
    rwa [unescapeNames_eq_error_iff, namesOf_fill, namesOf_of_stages hp hbase hquery] at h
  · intro h
    -- The stages in front of the one that fails are passed.
    have hbase (hport : ∀ e, ¬p.PortFault e) : ∃ s, p.base = .ok s :=
      exists_eq_ok_iff.2 fun e he => hport e (base_eq_error_iff.1 he)
    have hquery (hfault : ∀ e, ¬p.QueryFault e) (s : Settings) :
        ∃ u, readQuery s p.query? = .ok u :=
      exists_eq_ok_iff.2 fun e he => hfault e (readQuery_eq_error_iff.1 he)
    refine bind_eq_error_iff.2 ?_
    cases h with
    | port h => exact .inl (base_eq_error_iff.2 h)
    | query hport h =>
      obtain ⟨s, hs⟩ := hbase hport
      exact .inr ⟨s, hs, bind_eq_error_iff.2 (.inl (readQuery_eq_error_iff.2 h))⟩
    | missing hport hfault h =>
      obtain ⟨s, hs⟩ := hbase hport
      obtain ⟨u, hu⟩ := hquery hfault s
      refine .inr ⟨s, hs, bind_eq_error_iff.2 (.inr ⟨u, hu, bind_eq_error_iff.2 (.inl ?_)⟩)⟩
      rwa [complete_eq_error_iff, missing?_of_stages hp hs hu]
    | names hport hfault hmissing h =>
      obtain ⟨s, hs⟩ := hbase hport
      obtain ⟨u, hu⟩ := hquery hfault s
      rw [← missing?_of_stages hp hs hu] at hmissing
      refine .inr ⟨s, hs, bind_eq_error_iff.2 (.inr ⟨u, hu, bind_eq_error_iff.2 (.inr ?_)⟩)⟩
      refine ⟨_, Settings.complete_eq_ok_iff.2 ⟨hmissing, rfl⟩, ?_⟩
      rwa [unescapeNames_eq_error_iff, namesOf_fill, namesOf_of_stages hp hs hu]

/-- There is one way to take a name apart, the faults of its parts are the errors of reading it, and a
name without a fault is read. -/
theorem parse_outcome (name : String) :
    (∀ p : Parts, p.Separated ∧ p.text = name.toList ↔ p = partsOf name.toList) ∧
      (∀ error, parse name = .error error ↔ (partsOf name.toList).Fault error) ∧
      ((∃ s, parse name = .ok s) ↔ ∀ error, ¬(partsOf name.toList).Fault error) := by
  have hparts := partsOf_spec name.toList
  have herror (error : NameError) :
      parse name = .error error ↔ (partsOf name.toList).Fault error := by
    rw [parse_eq_read, read_eq_error_iff hparts.1]
  refine ⟨fun p => ⟨fun ⟨hp, htext⟩ => ?_, fun hp => hp ▸ hparts⟩, herror, ?_⟩
  · rw [← htext, partsOf_text hp]
  · exact exists_eq_ok_iff.trans (forall_congr' fun error => not_congr (herror error))

end DataSource.Name
