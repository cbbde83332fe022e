import DataSource.Proofs.Name.Parts
import DataSource.Proofs.Name.Query

/-!
# One parameter more

A piece behind the last one of a query moves no boundary of a name, whatever its layout
(`separated_extend`), and a query whose last piece sets a parameter that is no field has the settings of
the query without it and this parameter (`readQuery_extend`). Every stage behind the query keeps
parameters as they are, so the name reads as before, with one parameter more or with the same error
(`parse_addParam`).
-/

namespace DataSource.Name

/-! ## The parts -/

/-- The parts with one more piece at the end of the query, or with a query that is this piece. -/
def Parts.extend (p : Parts) (piece : List Char) : Parts :=
  { p with query? := some ((p.query?.map (· ++ ['&'])).getD [] ++ piece) }

section

variable {p : Parts} {piece : List Char}

theorem text_extend (p : Parts) (piece : List Char) :
    (p.extend piece).text = p.text ++ (if p.query?.isSome then '&' else '?') :: piece := by
  cases hquery : p.query? with
  | none => simp [Parts.text, Parts.extend, tailText, hquery]
  | some query => simp [Parts.text, Parts.extend, tailText, hquery]

theorem not_mem_tailText_extend {c : Char} (hc : c ≠ '?' ∧ c ≠ '&') (hpiece : c ∉ piece)
    (h : c ∉ tailText p.query?) : c ∉ tailText (p.extend piece).query? := by
  cases hquery : p.query? with
  | none => simp [tailText, Parts.extend, hquery, hc, hpiece]
  | some query =>
    rw [hquery] at h
    simp [tailText, hc] at h
    simp [tailText, Parts.extend, hquery, hc, hpiece, h]

theorem separated_extend (hp : p.Separated) (hslash : '/' ∉ piece) (hat : '@' ∉ piece) :
    (p.extend piece).Separated := by
  have hkeep {c : Char} (hc : c ≠ '?' ∧ c ≠ '&') (hpiece : c ∉ piece) :=
    not_mem_tailText_extend (p := p) hc hpiece
  cases hp with
  | plain hfront htarget htail =>
    exact .plain hfront htarget
      ⟨hkeep (by decide) hslash htail.1, hkeep (by decide) hat htail.2⟩
  | database hopen htarget hdatabase htail =>
    exact .database hopen htarget hdatabase (hkeep (by decide) hslash htail)
  | schema htarget hdatabase hschema htail =>
    exact .schema htarget hdatabase hschema (hkeep (by decide) hslash htail)
  | untargeted hdatabase htail => exact .untargeted hdatabase (hkeep (by decide) hslash htail)

end

/-! ## The stages -/

section

variable {key value : String}

/-- The piece of a query that sets a key to a value. -/
def paramPiece (key value : String) : List Char :=
  key.toList ++ '=' :: FormEscape.escape value.toList

theorem not_mem_paramPiece {c : Char} (hc : c ∈ ['&', '/', '@']) (hkey : c ∉ key.toList) :
    c ∉ paramPiece key value := by
  have hescape : c ∉ FormEscape.escape value.toList := by
    refine FormEscape.not_mem_escape value.toList ?_
    simp only [List.mem_cons, List.not_mem_nil, or_false] at hc ⊢
    tauto
  have hequals : c ≠ '=' := by
    rintro rfl
    revert hc
    decide
  simp [paramPiece, hkey, hequals, hescape]

theorem bind_map_comm {α β ε : Type} {x : Except ε α} {f : α → Except ε β} {g : α → α} {k : β → β}
    (h : ∀ a, f (g a) = (f a).map k) : (x.map g).bind f = (x.bind f).map k := by
  cases x with
  | error e => rfl
  | ok a => exact h a

theorem setAccount_putParam (s : Settings) (key value : String) :
    setAccount (s.putParam key value) = (setAccount s).putParam key value := by
  have hself : setAccount s = { s with account := (setAccount s).account } :=
    setAccount_congr rfl rfl
  have hmore : setAccount (s.putParam key value) =
      { s.putParam key value with account := (setAccount s).account } := setAccount_congr rfl rfl
  rw [hmore]
  exact congrArg (·.putParam key value) hself.symm

theorem applyPath_putParam (p : Parts) (s : Settings) (key value : String) :
    p.applyPath (s.putParam key value) = (p.applyPath s).putParam key value := by
  unfold Parts.applyPath
  split <;> rfl

theorem complete_putParam (s : Settings) (key value : String) :
    (s.putParam key value).complete = s.complete.map (·.putParam key value) := by
  have hmissing : (s.putParam key value).missing? = s.missing? := rfl
  rw [Settings.complete, Settings.complete, hmissing]
  cases s.missing? <;> rfl

theorem unescapeNames_putParam (s : Settings) (key value : String) :
    unescapeNames (s.putParam key value) = (unescapeNames s).map (·.putParam key value) :=
  unescapeNames_map (g := (·.putParam key value)) (fun _ _ _ _ _ => rfl) s

theorem applyPieces_paramPiece (s : Settings) (hfield : Field.ofQueryKey? key = none)
    (hequals : '=' ∉ key.toList) :
    (applyPieces s [paramPiece key value]).result = .ok (s.putParam key value) := by
  have hset : setByKey s key value = .ok (s.putParam key value) :=
    setByKey_eq_ok_iff.2 (.inl ⟨hfield, rfl⟩)
  rw [result_applyPieces_cons, paramPiece, applyPiece_append_escape s hequals, String.ofList_toList, hset]
  rfl

theorem readQuery_extend (p : Parts) (s : Settings) (hfield : Field.ofQueryKey? key = none)
    (hmark : '&' ∉ key.toList) (hequals : '=' ∉ key.toList) :
    readQuery s (p.extend (paramPiece key value)).query? =
      (readQuery s p.query?).map (·.putParam key value) := by
  have hpiece : '&' ∉ paramPiece key value := not_mem_paramPiece (by decide) hmark
  cases hquery : p.query? with
  | none =>
    have hsingle : queryPieces (paramPiece key value) = [paramPiece key value] :=
      List.splitOn_eq_singleton hpiece
    simp only [Parts.extend, hquery, Option.map_none, Option.getD_none, List.nil_append, readQuery,
      applyQuery, hsingle]
    exact applyPieces_paramPiece s hfield hequals
  | some query =>
    have hpieces : queryPieces (query ++ ['&'] ++ paramPiece key value) =
        queryPieces query ++ [paramPiece key value] := by
      rw [List.append_assoc, List.singleton_append, queryPieces, List.splitOn_append_cons_self,
        List.splitOn_eq_singleton hpiece, queryPieces]
    simp only [Parts.extend, hquery, Option.map_some, Option.getD_some, readQuery, applyQuery, hpieces,
      result_applyPieces_append]
    cases (applyPieces s (queryPieces query)).result with
    | error error => rfl
    | ok t => exact applyPieces_paramPiece t hfield hequals

/-- Parts with one parameter more are read as before, with this parameter or with the same error. -/
theorem read_extend (p : Parts) (hfield : Field.ofQueryKey? key = none) (hmark : '&' ∉ key.toList)
    (hequals : '=' ∉ key.toList) :
    (p.extend (paramPiece key value)).read = p.read.map (·.putParam key value) := by
  have hbase : (p.extend (paramPiece key value)).base = p.base := rfl
  have hpath : (p.extend (paramPiece key value)).applyPath = p.applyPath := rfl
  rw [Parts.read, Parts.read, hbase, hpath]
  cases p.base with
  | error error => rfl
  | ok s =>
    show (readQuery s (p.extend (paramPiece key value)).query?).bind _ =
      ((readQuery s p.query?).bind _).map _
    rw [readQuery_extend p s hfield hmark hequals]
    apply bind_map_comm
    intro u
    rw [applyPath_putParam, setAccount_putParam, complete_putParam]
    exact bind_map_comm fun v => unescapeNames_putParam v key value

end

/-! ## The name -/

/-- A name with one parameter more: behind its query if it has one, else as its query. -/
def addParam (name key value : String) : String :=
  let text := name.toList
  let mark := if (Layout.locate text).queryStart < text.length then '&' else '?'
  String.ofList (text ++ mark :: paramPiece key value)

theorem isSome_queryOf? (text : List Char) (layout : Layout) :
    (queryOf? text layout).isSome = decide (layout.queryStart < text.length) := by
  by_cases hquery : layout.queryStart < text.length
  · simp [queryOf?, hquery]
  · simp [queryOf?, hquery]

theorem addParam_eq (name key value : String) :
    addParam name key value =
      String.ofList ((partsOf name.toList).extend (paramPiece key value)).text := by
  obtain ⟨-, htext⟩ := partsOf_spec name.toList
  have hquery : (partsOf name.toList).query?.isSome =
      decide ((Layout.locate name.toList).queryStart < name.toList.length) :=
    isSome_queryOf? name.toList (Layout.locate name.toList)
  rw [addParam, text_extend, htext, hquery]
  simp only [decide_eq_true_eq]

theorem parse_addParam_eq_map {name key value : String} (hfield : Field.ofQueryKey? key = none)
    (hmarks : ∀ c ∈ ['&', '=', '/', '@'], c ∉ key.toList) :
    parse (addParam name key value) = (parse name).map (·.putParam key value) := by
  have hslash : '/' ∉ paramPiece key value :=
    not_mem_paramPiece (by decide) (hmarks _ (by decide))
  have hat : '@' ∉ paramPiece key value :=
    not_mem_paramPiece (by decide) (hmarks _ (by decide))
  have hseparated := separated_extend (partsOf_spec name.toList).1 hslash hat
  calc
    parse (addParam name key value)
      = ((partsOf name.toList).extend (paramPiece key value)).read := by
        rw [addParam_eq, parse_text hseparated]
    _ = (partsOf name.toList).read.map (·.putParam key value) :=
        read_extend _ hfield (hmarks _ (by decide)) (hmarks _ (by decide))
    _ = (parse name).map (·.putParam key value) := by rw [← parse_eq_read]

/-- Adding a parameter that is no field changes nothing else: not another parameter, not a field and
not an error. -/
theorem parse_addParam {name key value : String} (hfield : Field.ofQueryKey? key = none)
    (hmarks : ∀ c ∈ ['&', '=', '/', '@'], c ∉ key.toList) :
    (∀ s, parse name = .ok s →
        ∃ t, parse (addParam name key value) = .ok t ∧ t.params.get? key = some value ∧
          (∀ f : Field, t.get f = s.get f) ∧
          ∀ k, k ≠ key → t.params.get? k = s.params.get? k) ∧
      ∀ error, parse name = .error error → parse (addParam name key value) = .error error := by
  have hadd : parse (addParam name key value) = (parse name).map (·.putParam key value) :=
    parse_addParam_eq_map hfield hmarks
  constructor
  · intro s hs
    rw [hs] at hadd
    refine ⟨s.putParam key value, hadd, ?_, ?_, ?_⟩
    · rw [Settings.putParam, Table.get?_insert, if_pos rfl]
    · intro f
      exact s.get_putParam key value f
    · intro k hk
      rw [Settings.putParam, Table.get?_insert, if_neg hk]
  · intro error herror
    rw [hadd, herror]
    rfl

theorem parse_addParam_separators :
    (∃ t, parse "u/@?:p@acc.eu/db?x=1&role=r%2F&a?:%+=v%26%3D%2F%40%3F" = .ok t ∧
        t.params.get? "a?:%+" = some "v&=/@?" ∧ t.params.get? "x" = some "1" ∧ t.role = "r/") ∧
      parse "u:p@host:8o?a?:%+=v%26" = .error (.port "8o") := by
  have hmarks : ∀ c ∈ ['&', '=', '/', '@'], c ∉ "a?:%+".toList := by simp
  constructor
  · have hadd : addParam "u/@?:p@acc.eu/db?x=1&role=r%2F" "a?:%+" "v&=/@?" =
        "u/@?:p@acc.eu/db?x=1&role=r%2F&a?:%+=v%26%3D%2F%40%3F" := by decide +kernel
    obtain ⟨s, hs, hx, hrole⟩ : ∃ s, parse "u/@?:p@acc.eu/db?x=1&role=r%2F" = .ok s ∧
        s.params.get? "x" = some "1" ∧ s.role = "r/" := by decide +kernel
    obtain ⟨t, ht, hvalue, hfields, hparams⟩ := (parse_addParam (by decide) hmarks).1 s hs
    rw [hadd] at ht
    exact ⟨t, ht, hvalue, (hparams "x" (by decide)).trans hx, (hfields .role).trans hrole⟩
  · have hadd : addParam "u:p@host:8o" "a?:%+" "v&" = "u:p@host:8o?a?:%+=v%26" := by
      decide +kernel
    have herror : parse "u:p@host:8o" = .error (.port "8o") := by decide +kernel
    rw [← hadd]
    exact (parse_addParam (by decide) hmarks).2 _ herror

end DataSource.Name
