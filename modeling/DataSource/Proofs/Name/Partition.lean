import DataSource.Name.Parse
import DataSource.Proofs.Text.Search

/-!
# The parts of a name

A name is credentials, a target, a path and a query, with the separators between them (`Parts.text`).
Every name has parts in which no separator occurs out of place (`exists_parts`), and the layout of a
name finds them again (`partsOf_text`); so there is one way only to take a name apart.
-/

namespace DataSource.Name

/-! ## Parts -/

/-- The path of a name: a database, and a schema if there is a second slash. -/
structure Path where
  database : List Char
  schema? : Option (List Char)
  deriving DecidableEq, Repr

def Path.text (path : Path) : List Char :=
  match path.schema? with
  | none => '/' :: path.database
  | some schema => '/' :: (path.database ++ '/' :: schema)

/-- The parts of a name. Only a name whose last slash comes first has no target. -/
structure Parts where
  credentials? : Option (List Char)
  target? : Option (List Char)
  path? : Option Path
  query? : Option (List Char)
  deriving DecidableEq, Repr

/-- The credentials, if there are any, with the at sign after them. -/
def frontText (credentials? : Option (List Char)) : List Char :=
  (credentials?.map (· ++ ['@'])).getD []

/-- The query, if there is one, with the question mark in front of it. -/
def tailText (query? : Option (List Char)) : List Char := (query?.map ('?' :: ·)).getD []

namespace Parts

def text (p : Parts) : List Char :=
  frontText p.credentials? ++ p.target?.getD [] ++ (p.path?.map Path.text).getD [] ++
    tailText p.query?

/-- Whether no separator occurs out of place. The last slash decides: in front of it the last at sign
ends the credentials and the first slash ends the target, and behind it the first question mark begins
the query. Without a slash the last at sign and the first question mark behind it do. -/
inductive Separated : Parts → Prop
  | plain {credentials? : Option (List Char)} {target : List Char} {query? : Option (List Char)}
      (hfront : '/' ∉ frontText credentials?)
      (htarget : '/' ∉ target ∧ '@' ∉ target ∧ '?' ∉ target)
      (htail : '/' ∉ tailText query? ∧ '@' ∉ tailText query?) :
      Separated ⟨credentials?, some target, none, query?⟩
  | database {credentials? : Option (List Char)} {target database : List Char}
      {query? : Option (List Char)} (hopen : frontText credentials? ++ target ≠ [])
      (htarget : '/' ∉ target ∧ '@' ∉ target) (hdatabase : '/' ∉ database ∧ '?' ∉ database)
      (htail : '/' ∉ tailText query?) :
      Separated ⟨credentials?, some target, some ⟨database, none⟩, query?⟩
  | schema {credentials? : Option (List Char)} {target database schema : List Char}
      {query? : Option (List Char)} (htarget : '/' ∉ target ∧ '@' ∉ target)
      (hdatabase : '@' ∉ database) (hschema : '/' ∉ schema ∧ '?' ∉ schema)
      (htail : '/' ∉ tailText query?) :
      Separated ⟨credentials?, some target, some ⟨database, some schema⟩, query?⟩
  | untargeted {database : List Char} {query? : Option (List Char)}
      (hdatabase : '/' ∉ database ∧ '?' ∉ database) (htail : '/' ∉ tailText query?) :
      Separated ⟨none, none, some ⟨database, none⟩, query?⟩

end Parts

/-! ## Every name has parts -/

theorem not_mem_tailText {c : Char} {query? : Option (List Char)} (hc : c ≠ '?')
    (h : ∀ query ∈ query?, c ∉ query) : c ∉ tailText query? := by
  cases query? with
  | none => simp [tailText]
  | some query => simpa [tailText, hc] using h query rfl

theorem exists_frontText (text : List Char) :
    ∃ credentials? rest, text = frontText credentials? ++ rest ∧ '@' ∉ rest := by
  by_cases h : '@' ∈ text
  · obtain ⟨before, after, rfl, hafter⟩ := Text.exists_last_of_mem h
    exact ⟨some before, after, by simp [frontText], hafter⟩
  · exact ⟨none, text, rfl, h⟩

theorem exists_tailText (text : List Char) :
    ∃ first query?, text = first ++ tailText query? ∧ '?' ∉ first := by
  by_cases h : '?' ∈ text
  · obtain ⟨before, after, rfl, hbefore⟩ := List.eq_append_cons_of_mem h
    exact ⟨before, some after, rfl, hbefore⟩
  · exact ⟨text, none, (List.append_nil text).symm, h⟩

theorem exists_parts (text : List Char) : ∃ p : Parts, p.Separated ∧ p.text = text := by
  by_cases hslash : '/' ∈ text
  · obtain ⟨head, after, rfl, hafter⟩ := Text.exists_last_of_mem hslash
    obtain ⟨last, query?, rfl, hlast⟩ := exists_tailText after
    obtain ⟨hlastSlash, htail⟩ := not_or.1 (mt List.mem_append.2 hafter)
    obtain ⟨credentials?, rest, rfl, hrest⟩ := exists_frontText head
    by_cases hfirst : '/' ∈ rest
    · obtain ⟨target, database, rfl, htarget⟩ := List.eq_append_cons_of_mem hfirst
      simp only [List.mem_append, List.mem_cons, not_or] at hrest
      refine ⟨⟨credentials?, some target, some ⟨database, some last⟩, query?⟩,
        .schema ⟨htarget, hrest.1⟩ hrest.2.2 ⟨hlastSlash, hlast⟩ htail, ?_⟩
      simp [Parts.text, Path.text]
    · by_cases hopen : frontText credentials? ++ rest = []
      · refine ⟨_, .untargeted ⟨hlastSlash, hlast⟩ htail, ?_⟩
        rw [hopen]
        simp [Parts.text, Path.text, frontText]
      · refine ⟨_, .database hopen ⟨hfirst, hrest⟩ ⟨hlastSlash, hlast⟩ htail, ?_⟩
        simp [Parts.text, Path.text]
  · obtain ⟨credentials?, rest, rfl, hrest⟩ := exists_frontText text
    obtain ⟨target, query?, rfl, htarget⟩ := exists_tailText rest
    simp only [List.mem_append, not_or] at hslash hrest
    refine ⟨_, .plain hslash.1 ⟨hslash.2.1, hrest.1, htarget⟩ ⟨hslash.2.2, hrest.2⟩, ?_⟩
    simp [Parts.text]

/-! ## The layout of parts -/

/-- Where the parts lie. -/
def Parts.layout (p : Parts) : Layout :=
  let targetEnd := (frontText p.credentials?).length + (p.target?.getD []).length
  { atSign? := p.credentials?.map List.length
    targetEnd
    slashes? := p.path?.map fun path =>
      (targetEnd, match path.schema? with
        | none => targetEnd
        | some _ => targetEnd + 1 + path.database.length)
    queryStart := targetEnd + ((p.path?.map Path.text).getD []).length
    hasTarget := p.target?.isSome }

theorem lastIndex?_frontText (credentials? : Option (List Char)) {rest : List Char}
    (h : '@' ∉ rest) :
    Text.lastIndex? ['@'] (frontText credentials? ++ rest) = credentials?.map List.length := by
  cases credentials? with
  | none => exact Text.lastIndex?_of_not_mem h
  | some credentials =>
    have htext : frontText (some credentials) ++ rest = credentials ++ '@' :: rest := by
      simp [frontText]
    rw [htext, Text.lastIndex?_append_cons credentials h]
    rfl

theorem getD_map_length (credentials? : Option (List Char)) :
    ((credentials?.map List.length).map (· + 1)).getD 0 = (frontText credentials?).length := by
  cases credentials? <;> simp [frontText]

theorem queryFrom_tailText (before : List Char) {middle : List Char} (h : '?' ∉ middle)
    (query? : Option (List Char)) :
    Layout.queryFrom (before ++ (middle ++ tailText query?)) before.length =
      before.length + middle.length := by
  rw [Layout.queryFrom, Text.find?_rest before _ rfl rfl]
  cases query? with
  | none => simp [tailText, Text.firstIndex?_of_not_mem h]
  | some query =>
    rw [show tailText (some query) = '?' :: query from rfl, Text.firstIndex?_append_cons query h]
    simp

theorem locate_of_last (head : List Char) {last : List Char} {query? : Option (List Char)}
    (hlast : '/' ∉ last ∧ '?' ∉ last) (htail : '/' ∉ tailText query?) :
    Layout.locate (head ++ '/' :: (last ++ tailText query?)) =
        Layout.locateWithPath (head ++ '/' :: (last ++ tailText query?)) head.length ∧
      Layout.queryFrom (head ++ '/' :: (last ++ tailText query?)) (head.length + 1) =
        head.length + 1 + last.length := by
  have hafter : '/' ∉ last ++ tailText query? := by simp [hlast.1, htail]
  constructor
  · rw [Layout.locate, Text.findLast?_none, Text.lastIndex?_append_cons head hafter]
  · have hquery := queryFrom_tailText (head ++ ['/']) hlast.2 query?
    rwa [List.append_assoc, List.singleton_append, List.length_append, List.length_singleton] at hquery

theorem locateWithPath_frontText {credentials? : Option (List Char)} {rest : List Char}
    (after : List Char) (hopen : frontText credentials? ++ rest ≠ []) (hrest : '@' ∉ rest) :
    let text := frontText credentials? ++ rest ++ '/' :: after
    let last := (frontText credentials? ++ rest).length
    let first := ((Text.firstIndex? ['/'] rest).map ((frontText credentials?).length + ·)).getD last
    Layout.locateWithPath text last =
      { atSign? := credentials?.map List.length
        targetEnd := first
        slashes? := some (first, last)
        queryStart := Layout.queryFrom text (last + 1)
        hasTarget := true } := by
  intro text last first
  have hat : Text.findLast? text ['@'] (some (last : Int)) = credentials?.map List.length := by
    rw [Text.findLast?_some, List.take_left]
    exact lastIndex?_frontText credentials? hrest
  have hfirst : Text.find? text ['/'] ((frontText credentials?).length : Nat) (some (last : Int)) =
      (Text.firstIndex? ['/'] rest).map ((frontText credentials?).length + ·) :=
    Text.find?_part (frontText credentials?) ('/' :: after) rfl rfl (by simp [last]) ['/']
  have hne : last ≠ 0 := fun h => hopen (List.eq_nil_of_length_eq_zero h)
  rw [Layout.locateWithPath, if_neg hne]
  simp only [hat, getD_map_length, hfirst, first]

/-- The parts of a name lie where its layout says. -/
theorem locate_text {p : Parts} (h : p.Separated) : Layout.locate p.text = p.layout := by
  cases h with
  | @plain credentials? target query? hfront htarget htail =>
    have htext : Parts.text ⟨credentials?, some target, none, query?⟩ =
        frontText credentials? ++ (target ++ tailText query?) := by simp [Parts.text]
    have hslash : '/' ∉ frontText credentials? ++ (target ++ tailText query?) := by
      simp [hfront, htarget.1, htail.1]
    have hat : '@' ∉ target ++ tailText query? := by simp [htarget.2.1, htail.2]
    rw [htext, Layout.locate, Text.findLast?_none, Text.lastIndex?_of_not_mem hslash]
    simp only [Layout.locateWithoutPath, Text.findLast?_none, lastIndex?_frontText credentials? hat,
      getD_map_length, queryFrom_tailText _ htarget.2.2]
    rfl
  | @database credentials? target database query? hopen htarget hdatabase htail =>
    have htext : Parts.text ⟨credentials?, some target, some ⟨database, none⟩, query?⟩ =
        frontText credentials? ++ target ++ '/' :: (database ++ tailText query?) := by
      simp [Parts.text, Path.text]
    obtain ⟨hlocate, hquery⟩ := locate_of_last (frontText credentials? ++ target) hdatabase htail
    rw [htext, hlocate, locateWithPath_frontText _ hopen htarget.2, hquery,
      Text.firstIndex?_of_not_mem htarget.1]
    simp [Parts.layout, Path.text]
    omega
  | @schema credentials? target database schema query? htarget hdatabase hschema htail =>
    have htext : Parts.text ⟨credentials?, some target, some ⟨database, some schema⟩, query?⟩ =
        frontText credentials? ++ (target ++ '/' :: database) ++ '/' :: (schema ++ tailText query?) := by
      simp [Parts.text, Path.text]
    obtain ⟨hlocate, hquery⟩ :=
      locate_of_last (frontText credentials? ++ (target ++ '/' :: database)) hschema htail
    rw [htext, hlocate, locateWithPath_frontText _ (by simp) (by simp [htarget.2, hdatabase]), hquery,
      Text.firstIndex?_append_cons database htarget.1]
    simp [Parts.layout, Path.text]
    omega
  | @untargeted database query? hdatabase htail =>
    have htext : Parts.text ⟨none, none, some ⟨database, none⟩, query?⟩ =
        [] ++ '/' :: (database ++ tailText query?) := by
      simp [Parts.text, Path.text, frontText]
    obtain ⟨hlocate, hquery⟩ := locate_of_last [] hdatabase htail
    rw [htext, hlocate, Layout.locateWithPath]
    simp only [List.length_nil, if_true] at hquery ⊢
    rw [hquery]
    simp [Parts.layout, Path.text, frontText]
    omega

/-! ## Taking a name apart -/

/-- What lies between the positions of a layout. -/
def Layout.parts (l : Layout) (text : List Char) : Parts where
  credentials? := l.atSign?.map fun atSign => Text.slice text 0 atSign
  target? := if l.hasTarget then some (Text.slice text l.targetStart l.targetEnd) else none
  path? := l.slashes?.map fun (first, last) =>
    if first = last then ⟨Text.slice text (last + 1) l.queryStart, none⟩
    else ⟨Text.slice text (first + 1) last, some (Text.slice text (last + 1) l.queryStart)⟩
  query? := queryOf? text l

/-- The parts of a name. -/
def partsOf (text : List Char) : Parts := (Layout.locate text).parts text

namespace Parts

variable (p : Parts)

theorem targetStart_layout : p.layout.targetStart = (frontText p.credentials?).length :=
  getD_map_length p.credentials?

theorem slice_credentials {credentials : List Char} (h : p.credentials? = some credentials) :
    Text.slice p.text 0 credentials.length = credentials := by
  refine Text.slice_part [] ('@' :: (p.target?.getD [] ++ (p.path?.map Path.text).getD [] ++
    tailText p.query?)) ?_ rfl (Int.zero_add _).symm
  simp [text, frontText, h]

theorem queryOf?_layout : queryOf? p.text p.layout = p.query? := by
  have hstart : p.layout.queryStart =
      (frontText p.credentials? ++ p.target?.getD [] ++ (p.path?.map Path.text).getD []).length := by
    simp [layout, Nat.add_assoc]
  cases hquery : p.query? with
  | none =>
    rw [queryOf?, if_neg]
    rw [hstart]
    simp [text, tailText, hquery]
  | some query =>
    rw [queryOf?, if_pos]
    · refine congrArg some (Text.slice_part (frontText p.credentials? ++ p.target?.getD [] ++
        (p.path?.map Path.text).getD [] ++ ['?']) [] ?_ ?_ ?_)
      · simp [text, tailText, hquery]
      · rw [hstart]
        simp
        omega
      · simp [text, tailText, hquery]
        omega
    · rw [hstart]
      simp [text, tailText, hquery]

theorem slice_target {target : List Char} (h : p.target? = some target) :
    Text.slice p.text p.layout.targetStart p.layout.targetEnd = target := by
  refine Text.slice_part (frontText p.credentials?)
    ((p.path?.map Path.text).getD [] ++ tailText p.query?) ?_ ?_ ?_
  · simp [text, h]
  · rw [targetStart_layout]
  · simp [layout, h]

theorem slice_database {database : List Char} (h : p.path? = some ⟨database, none⟩) :
    Text.slice p.text ((p.layout.targetEnd : Int) + 1) p.layout.queryStart = database := by
  refine Text.slice_part (frontText p.credentials? ++ p.target?.getD [] ++ ['/'])
    (tailText p.query?) ?_ ?_ ?_
  · simp [text, h, Path.text]
  · simp [layout]
    omega
  · simp [layout, h, Path.text]
    omega

theorem slice_schema {database schema : List Char} (h : p.path? = some ⟨database, some schema⟩) :
    Text.slice p.text ((p.layout.targetEnd : Int) + 1)
        ((p.layout.targetEnd + 1 + database.length : Nat) : Int) = database ∧
      Text.slice p.text (((p.layout.targetEnd + 1 + database.length : Nat) : Int) + 1)
        p.layout.queryStart = schema := by
  constructor
  · refine Text.slice_part (frontText p.credentials? ++ p.target?.getD [] ++ ['/'])
      ('/' :: schema ++ tailText p.query?) ?_ ?_ ?_
    · simp [text, h, Path.text]
    · simp [layout]
      omega
    · simp [layout]
      omega
  · refine Text.slice_part (frontText p.credentials? ++ p.target?.getD [] ++ '/' :: database ++ ['/'])
      (tailText p.query?) ?_ ?_ ?_
    · simp [text, h, Path.text]
    · simp [layout]
      omega
    · simp [layout, h, Path.text]
      omega

theorem parts_layout : p.layout.parts p.text = p := by
  have hcredentials : (p.layout.parts p.text).credentials? = p.credentials? := by
    cases h : p.credentials? with
    | none => simp [Layout.parts, layout, h]
    | some credentials => simp [Layout.parts, layout, h, p.slice_credentials h]
  have htarget : (p.layout.parts p.text).target? = p.target? := by
    cases h : p.target? with
    | none => simp [Layout.parts, layout, h]
    | some target =>
      have hhas : p.layout.hasTarget = true := by simp [layout, h]
      simp only [Layout.parts, hhas, if_true, p.slice_target h]
  have hpath : (p.layout.parts p.text).path? = p.path? := by
    rcases h : p.path? with _ | ⟨database, _ | schema⟩
    · simp [Layout.parts, layout, h]
    · have hslashes : p.layout.slashes? = some (p.layout.targetEnd, p.layout.targetEnd) := by
        simp [layout, h]
      simp only [Layout.parts, hslashes, Option.map_some, if_true, p.slice_database h]
    · have hslashes : p.layout.slashes? =
          some (p.layout.targetEnd, p.layout.targetEnd + 1 + database.length) := by
        simp [layout, h]
      have hne : p.layout.targetEnd ≠ p.layout.targetEnd + 1 + database.length := by omega
      obtain ⟨hdatabase, hschema⟩ := p.slice_schema h
      simp only [Layout.parts, hslashes, Option.map_some, if_neg hne, hdatabase, hschema]
  have hquery : (p.layout.parts p.text).query? = p.query? := p.queryOf?_layout
  calc
    p.layout.parts p.text = ⟨p.credentials?, p.target?, p.path?, p.query?⟩ := by
      rw [← hcredentials, ← htarget, ← hpath, ← hquery]
    _ = p := rfl

end Parts

theorem partsOf_text {p : Parts} (h : p.Separated) : partsOf p.text = p := by
  rw [partsOf, locate_text h, p.parts_layout]

theorem partsOf_spec (text : List Char) : (partsOf text).Separated ∧ (partsOf text).text = text := by
  obtain ⟨p, hp, rfl⟩ := exists_parts text
  rw [partsOf_text hp]
  exact ⟨hp, rfl⟩

end DataSource.Name
