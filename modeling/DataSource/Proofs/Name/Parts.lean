import DataSource.Proofs.Name.Partition
import DataSource.Proofs.Name.Stages
import DataSource.Proofs.Name.Target

/-!
# Reading a name from its parts

Each stage of reading looks at one part of a name by itself, whatever stands around it, so that a name
is read from its parts (`parse_eq_read`). `parse_joined` is the case of a name without a path.
-/

namespace DataSource.Name

/-! ## Credentials and target -/

/-- The user and the password of some credentials, which the first colon separates. -/
def splitCredentials (credentials : List Char) : List Char × List Char :=
  (Text.cut (· == ':') credentials).getD (credentials, [])

theorem splitCredentials_append_cons {user : List Char} (password : List Char) (huser : ':' ∉ user) :
    splitCredentials (user ++ ':' :: password) = (user, password) := by
  have hcut : Text.cut (· == ':') (user ++ ':' :: password) = some (user, password) := by
    refine Text.cut_eq_some_iff.2 ⟨':', rfl, fun c hc => ?_, rfl⟩
    exact beq_eq_false_iff_ne.2 (ne_of_mem_of_not_mem hc huser)
  rw [splitCredentials, hcut]
  rfl

theorem splitCredentials_of_not_mem {credentials : List Char} (h : ':' ∉ credentials) :
    splitCredentials credentials = (credentials, []) := by
  have hcut : Text.cut (· == ':') credentials = none :=
    Text.cut_eq_none_iff.2 fun c hc => beq_eq_false_iff_ne.2 (ne_of_mem_of_not_mem hc h)
  rw [splitCredentials, hcut]
  rfl

theorem readCredentials_append (credentials rest : List Char) :
    readCredentials (credentials ++ rest) credentials.length = splitCredentials credentials := by
  have hfind : Text.find? (credentials ++ rest) [':'] 0 (some (credentials.length : Int)) =
      (Text.firstIndex? [':'] credentials).map (0 + ·) :=
    Text.find?_part [] rest rfl rfl (Int.zero_add _).symm [':']
  by_cases hcolon : ':' ∈ credentials
  · obtain ⟨user, password, rfl, huser⟩ := List.eq_append_cons_of_mem hcolon
    have hslice : Text.slice ((user ++ ':' :: password) ++ rest) 0 user.length = user :=
      Text.slice_part [] (':' :: password ++ rest) (by simp) rfl (by simp)
    have hslice' : Text.slice ((user ++ ':' :: password) ++ rest) ((user.length : Int) + 1)
        (user ++ ':' :: password).length = password :=
      Text.slice_part (user ++ [':']) rest (by simp) (by simp) (by simp; omega)
    rw [Text.firstIndex?_append_cons password huser] at hfind
    rw [splitCredentials_append_cons password huser]
    simp only [readCredentials, hfind, Option.map_some, Nat.zero_add, hslice, hslice']
  · have hslice : Text.slice (credentials ++ rest) 0 credentials.length = credentials :=
      Text.slice_part [] rest rfl rfl (Int.zero_add _).symm
    rw [Text.firstIndex?_of_not_mem hcolon] at hfind
    rw [splitCredentials_of_not_mem hcolon]
    simp only [readCredentials, hfind, Option.map_none, hslice]

/-- The settings of some credentials and a target. -/
def ofTarget (user password : List Char) (target : Target) : Settings where
  user := String.ofList user
  password := String.ofList password
  region := String.ofList target.region
  account := String.ofList target.account
  host := String.ofList target.host
  port := target.port

/-! ## The stages on parts -/

namespace Parts

variable (p : Parts)

def user : List Char := ((p.credentials?.map splitCredentials).getD ([], [])).1

def password : List Char := ((p.credentials?.map splitCredentials).getD ([], [])).2

/-- The settings that credentials and target give; without a target there are no credentials. -/
def base : Except NameError Settings :=
  match p.target? with
  | none => .ok {}
  | some target => (Target.read target 0 target.length).map (ofTarget p.user p.password)

/-- The settings with the database and the schema of the path. -/
def applyPath (s : Settings) : Settings :=
  match p.path? with
  | none => s
  | some path =>
    { s with
      database := String.ofList path.database
      schema := (path.schema?.map String.ofList).getD defaultSchema }

/-- The settings that the parts give. -/
def read : Except NameError Settings :=
  p.base.bind fun s =>
    (readQuery s p.query?).bind fun u => (setAccount (p.applyPath u)).complete.bind unescapeNames

theorem readTarget_layout : readTarget p.text p.layout = p.base := by
  cases htarget : p.target? with
  | none =>
    have hhas : p.layout.hasTarget = false := by simp [layout, htarget]
    simp [readTarget, hhas, base, htarget]
  | some target =>
    have hhas : p.layout.hasTarget = true := by simp [layout, htarget]
    have hread : Target.read p.text p.layout.targetStart p.layout.targetEnd =
        Target.read target 0 target.length := by
      refine read_part (frontText p.credentials?)
        ((p.path?.map Path.text).getD [] ++ tailText p.query?) ?_ ?_ ?_
      · simp [text, htarget]
      · rw [targetStart_layout]
      · simp [layout, htarget]
    rw [readTarget, if_pos hhas, hread, base, htarget]
    cases hfront : p.credentials? with
    | none =>
      have hat : p.layout.atSign? = none := by simp [layout, hfront]
      simp only [hat, user, password, hfront, Option.map_none, Option.getD_none]
      cases Target.read target 0 target.length <;> rfl
    | some credentials =>
      have hat : p.layout.atSign? = some credentials.length := by simp [layout, hfront]
      have htext : p.text = credentials ++ '@' :: (target ++ (p.path?.map Path.text).getD [] ++
          tailText p.query?) := by
        simp [text, htarget, hfront, frontText]
      have hcredentials : readCredentials p.text credentials.length = splitCredentials credentials := by
        rw [htext, readCredentials_append]
      simp only [hat, hcredentials, user, password, hfront, Option.map_some, Option.getD_some]
      cases Target.read target 0 target.length <;> rfl

theorem setPath_layout (s : Settings) : setPath s p.text p.layout = p.applyPath s := by
  rcases hpath : p.path? with _ | ⟨database, _ | schema⟩
  · simp [setPath, layout, applyPath, hpath]
  · have hslashes : p.layout.slashes? = some (p.layout.targetEnd, p.layout.targetEnd) := by
      simp [layout, hpath]
    simp only [setPath, hslashes, if_true, p.slice_database hpath, applyPath, hpath]
    rfl
  · have hslashes : p.layout.slashes? =
        some (p.layout.targetEnd, p.layout.targetEnd + 1 + database.length) := by
      simp [layout, hpath]
    have hne : p.layout.targetEnd ≠ p.layout.targetEnd + 1 + database.length := by omega
    obtain ⟨hdatabase, hschema⟩ := p.slice_schema hpath
    simp only [setPath, hslashes, if_neg hne, hdatabase, hschema, applyPath, hpath]
    rfl

end Parts

theorem parse_text {p : Parts} (h : p.Separated) : parse (String.ofList p.text) = p.read := by
  rw [parse_eq, String.toList_ofList, locate_text h, p.readTarget_layout, p.queryOf?_layout, Parts.read]
  simp only [p.setPath_layout]

theorem parse_eq_read (name : String) : parse name = (partsOf name.toList).read := by
  obtain ⟨hseparated, htext⟩ := partsOf_spec name.toList
  rw [← parse_text hseparated, htext, String.ofList_toList]

/-! ## Names without a path -/

/-- A query with the question mark in front of it; an empty query has none. -/
def querySuffix (query : List Char) : List Char := if query.isEmpty then [] else '?' :: query

/-- The name of some parts. -/
def joined (credentials target query : List Char) : List Char :=
  credentials ++ '@' :: (target ++ querySuffix query)

/-- Parts in which no separator occurs out of place. The credentials may have at signs and question
marks, and the query question marks. -/
structure Separated (credentials target query : List Char) : Prop where
  credentials_slash : '/' ∉ credentials
  target_slash : '/' ∉ target
  target_at : '@' ∉ target
  target_question : '?' ∉ target
  query_slash : '/' ∉ query
  query_at : '@' ∉ query

variable {credentials target query : List Char}

theorem not_mem_querySuffix {c : Char} (hc : c ≠ '?') (h : c ∉ query) : c ∉ querySuffix query := by
  unfold querySuffix
  split <;> simp [h, hc]

theorem text_plain (credentials target query : List Char) :
    Parts.text ⟨some credentials, some target, none, if query.isEmpty then none else some query⟩ =
      joined credentials target query := by
  unfold joined querySuffix
  split <;> simp [Parts.text, frontText, tailText]

theorem Separated.plain (h : Separated credentials target query) :
    Parts.Separated
      ⟨some credentials, some target, none, if query.isEmpty then none else some query⟩ := by
  refine .plain ?_ ⟨h.target_slash, h.target_at, h.target_question⟩ ⟨?_, ?_⟩
  · simp [frontText, h.credentials_slash]
  · refine not_mem_tailText (by decide) fun q hq => ?_
    split at hq
    · cases hq
    · exact Option.some.inj hq ▸ h.query_slash
  · refine not_mem_tailText (by decide) fun q hq => ?_
    split at hq
    · cases hq
    · exact Option.some.inj hq ▸ h.query_at

theorem parse_joined {user password : List Char}
    (h : Separated (user ++ ':' :: password) target query) (huser : ':' ∉ user) :
    parse (String.ofList (joined (user ++ ':' :: password) target query)) =
      (Target.read target 0 target.length).bind fun t =>
        (readQuery (ofTarget user password t) (if query.isEmpty then none else some query)).bind
          fun u => (setAccount u).complete.bind unescapeNames := by
  rw [← text_plain, parse_text h.plain]
  simp only [Parts.read, Parts.base, Parts.applyPath, Parts.user, Parts.password, Option.map_some,
    Option.getD_some, splitCredentials_append_cons password huser]
  cases Target.read target 0 target.length <;> rfl

end DataSource.Name
