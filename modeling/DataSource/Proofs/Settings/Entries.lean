import DataSource.Proofs.Settings.Bounded

/-!
# The dictionary of settings

`toTable` leaves out what is not set and writes durations in whole seconds, so its dictionary is read
back as the settings if and only if the settings are `Bounded` (`ofEntries_toTable_iff`). In the other
direction a dictionary without durations gives settings that are (`Bounded.ofEntries`).
-/

namespace DataSource

namespace Kind

/-- What a field of a kind holds while it is not set. -/
def blank : (k : Kind) → k.Content
  | text => ""
  | flag => false
  | duration => .zero
  | integer => 0

/-! ## Contents in a dictionary -/

variable {k : Kind} {x : k.Content}

theorem bounds_of_toInteger {value : Value} {n : Int} (h : value.toInteger.toOption = some n) :
    Integer.min64 ≤ n ∧ n ≤ Integer.max64 := by
  cases value with
  | integer m =>
    rw [Value.toInteger] at h
    cases hfit : Integer.fit m with
    | error fault =>
      rw [hfit] at h
      cases h
    | ok m' =>
      rw [hfit] at h
      cases h
      obtain ⟨rfl, hbounds⟩ := Integer.fit_eq_ok_iff.1 hfit
      exact hbounds
  | text s => exact (readInteger_eq_some_iff.1 h).2
  | _ => cases h

theorem fits_of_ofValue? {value : Value} (hvalue : ∀ d, value ≠ .duration d)
    (h : k.ofValue? value = some x) : k.Fits x := by
  cases k with
  | text => trivial
  | flag => trivial
  | duration =>
    have hseconds : value.toInteger.toOption.bind Duration.ofSeconds? = some x := by
      cases value with
      | duration d => exact absurd rfl (hvalue d)
      | _ => exact h
    obtain ⟨n, -, hn⟩ := Option.bind_eq_some_iff.1 hseconds
    exact Duration.isWhole_of_ofSeconds? hn
  | integer => exact bounds_of_toInteger h

theorem ofValue?_wholeSeconds (d : Duration) :
    Kind.duration.ofValue? (.integer d.wholeSeconds) = Duration.ofSeconds? d.wholeSeconds := by
  have hfit : Integer.fit d.wholeSeconds = .ok d.wholeSeconds :=
    Integer.fit_eq_ok_iff.2 ⟨rfl, d.wholeSeconds_bounds⟩
  show (Value.toInteger (.integer d.wholeSeconds)).toOption.bind Duration.ofSeconds? = _
  rw [Value.toInteger, hfit]
  rfl

end Kind

namespace Settings

theorem keptValue_toValue_ne_duration {k : Kind} (x : k.Content) (d : Duration) :
    keptValue (k.toValue x) ≠ .duration d := by
  cases k <;> exact nofun

theorem keptValue_toValue_ne_null {k : Kind} (x : k.Content) : keptValue (k.toValue x) ≠ .null := by
  cases k <;> exact nofun

theorem ofValue?_keptValue {k : Kind} {x : k.Content} (h : k.Fits x) :
    k.ofValue? (keptValue (k.toValue x)) = some x := by
  cases k with
  | text => rfl
  | flag => rfl
  | duration => exact (Kind.ofValue?_wholeSeconds x).trans (Duration.ofSeconds?_wholeSeconds h)
  | integer =>
    show (Value.toInteger (.integer x)).toOption = some x
    rw [Value.toInteger, Integer.fit_eq_ok_iff.2 ⟨rfl, h⟩]
    rfl

theorem eq_blank_of_isPresent_eq_false {k : Kind} {x : k.Content} (hx : k.Fits x)
    (h : (keptValue (k.toValue x)).isPresent = false) : x = k.blank := by
  cases k with
  | text =>
    show x = ""
    simpa [keptValue, Kind.toValue, Value.isPresent] using h
  | flag => exact h
  | duration =>
    have hzero : x.wholeSeconds = 0 := by
      simpa [keptValue, Kind.toValue, Value.isPresent] using h
    have hmicros := Duration.wholeSeconds_mul hx
    rw [hzero] at hmicros
    exact Duration.ext hmicros.symm
  | integer =>
    show x = 0
    simpa [keptValue, Kind.toValue, Value.isPresent] using h

theorem get_blank (f : Field) : ({} : Settings).get f = f.kind.blank := by cases f <;> rfl

/-! ## Entries -/

theorem ofEntries_singleton (key : String) (value : Value) :
    ofEntries [(key, value)] = ({} : Settings).addEntry key value :=
  bind_pure _

theorem addEntry_eq_ok_of_ofName? (s : Settings) {key : String} {value : Value} {f : Field}
    {x : f.kind.Content} (hvalue : value ≠ .null) (hkey : Field.ofName? key = some f)
    (hx : f.kind.ofValue? value = some x) : s.addEntry key value = .ok (s.put f x) := by
  cases value with
  | null => exact absurd rfl hvalue
  | _ => simp only [addEntry, hkey, hx]

theorem addEntry_eq_error_of_ofName? (s : Settings) {key : String} {value : Value} {f : Field}
    (hvalue : value ≠ .null) (hkey : Field.ofName? key = some f) (hx : f.kind.ofValue? value = none) :
    s.addEntry key value = .error (.setting f.shortName value) := by
  cases value with
  | null => exact absurd rfl hvalue
  | _ => simp only [addEntry, hkey, hx]

/-- The parameters of an entry that names no field: those of a dictionary under `params`, or its own. -/
def paramsOf (key : String) (value : Value) : List (String × String) :=
  match key, value with
  | "params", .mapping nested => nested.map fun (k, v) => (k, paramText v)
  | _, _ => [(key, paramText value)]

theorem paramsOf_eq_own {key : String} {value : Value}
    (h : ∀ nested, key = "params" → value = .mapping nested → False) :
    paramsOf key value = [(key, paramText value)] := by
  unfold paramsOf
  split
  · exact (h _ rfl rfl).elim
  · rfl

theorem addEntry_eq_ok_of_ofName?_eq_none (s : Settings) {key : String} {value : Value}
    (hvalue : value ≠ .null) (hkey : Field.ofName? key = none) :
    s.addEntry key value = .ok { s with params := s.params.insertAll (paramsOf key value) } := by
  unfold addEntry
  split
  · exact absurd rfl hvalue
  · simp only [hkey]
    split
    · rfl
    · next hother =>
      rw [paramsOf_eq_own hother]
      rfl

/-- An entry does nothing, sets the field that its key names, or only changes the parameters. -/
theorem addEntry_cases {s t : Settings} {key : String} {value : Value}
    (h : s.addEntry key value = .ok t) :
    t = s ∨ (∃ f x, Field.ofName? key = some f ∧ f.kind.ofValue? value = some x ∧ t = s.put f x) ∨
      ∃ params, t = { s with params } := by
  by_cases hvalue : value = .null
  · subst hvalue
    cases h
    exact .inl rfl
  · cases hkey : Field.ofName? key with
    | some f =>
      cases hx : f.kind.ofValue? value with
      | some x =>
        rw [addEntry_eq_ok_of_ofName? s hvalue hkey hx] at h
        cases h
        exact .inr (.inl ⟨f, x, rfl, hx, rfl⟩)
      | none =>
        rw [addEntry_eq_error_of_ofName? s hvalue hkey hx] at h
        cases h
    | none =>
      rw [addEntry_eq_ok_of_ofName?_eq_none s hvalue hkey] at h
      cases h
      exact .inr (.inr ⟨_, rfl⟩)

theorem Bounded.addEntry {s t : Settings} (hs : s.Bounded) {key : String} {value : Value}
    (hvalue : ∀ d, value ≠ .duration d) (h : s.addEntry key value = .ok t) : t.Bounded := by
  rcases addEntry_cases h with rfl | ⟨f, x, -, hx, rfl⟩ | ⟨params, rfl⟩
  · exact hs
  · exact hs.put (Kind.fits_of_ofValue? hvalue hx)
  · exact bounded_iff.2 (bounded_iff.1 hs)

theorem Bounded.foldlM_addEntry {s t : Settings} (hs : s.Bounded) {entries : List (String × Value)}
    (hentries : ∀ entry ∈ entries, ∀ d, entry.2 ≠ .duration d)
    (h : entries.foldlM (fun s entry => s.addEntry entry.1 entry.2) s = .ok t) : t.Bounded := by
  induction entries generalizing s with
  | nil =>
    cases h
    exact hs
  | cons entry rest ih =>
    obtain ⟨hentry, hrest⟩ := List.forall_mem_cons.1 hentries
    rw [List.foldlM_cons] at h
    cases hstep : s.addEntry entry.1 entry.2 with
    | error error =>
      rw [hstep] at h
      cases h
    | ok u =>
      rw [hstep] at h
      exact ih (hs.addEntry hentry hstep) hrest h

theorem bounded_blank : ({} : Settings).Bounded := by
  have hzero : Kind.integer.Fits 0 := ⟨by decide, by decide⟩
  exact bounded_iff.2 ⟨hzero, hzero, by decide, by decide⟩

theorem Bounded.ofEntries {s : Settings} {entries : List (String × Value)}
    (hentries : ∀ entry ∈ entries, ∀ d, entry.2 ≠ .duration d)
    (h : Settings.ofEntries entries = .ok s) : s.Bounded :=
  bounded_blank.foldlM_addEntry hentries h

/-! ## The dictionary of settings -/

/-- The entries of those of some fields that are set. -/
def fieldEntries (s : Settings) (fields : List Field) : List (String × Value) :=
  fields.filterMap fun f =>
    let value := keptValue (f.kind.toValue (s.get f))
    if value.isPresent then some (f.name, value) else none

def paramsEntries (s : Settings) : List (String × Value) :=
  if s.params.isEmpty then [] else [("params", s.paramsValue)]

theorem fieldEntries_cons (s : Settings) (f : Field) (rest : List Field) :
    s.fieldEntries (f :: rest) =
      if (keptValue (f.kind.toValue (s.get f))).isPresent then
        (f.name, keptValue (f.kind.toValue (s.get f))) :: s.fieldEntries rest
      else s.fieldEntries rest := by
  unfold fieldEntries
  rw [List.filterMap_cons]
  split <;> simp_all

theorem exists_of_mem_fieldEntries {s : Settings} {fields : List Field} {entry : String × Value}
    (h : entry ∈ s.fieldEntries fields) :
    ∃ f : Field, entry = (f.name, keptValue (f.kind.toValue (s.get f))) := by
  obtain ⟨f, -, hf⟩ := List.mem_filterMap.1 h
  simp only [Option.ite_none_right_eq_some, Option.some.injEq] at hf
  exact ⟨f, hf.2.symm⟩

theorem keys_fieldEntries_sublist (s : Settings) (fields : List Field) :
    ((s.fieldEntries fields).map Prod.fst).Sublist (fields.map Field.name) := by
  induction fields with
  | nil => exact List.Sublist.refl _
  | cons f rest ih =>
    rw [fieldEntries_cons]
    split
    · exact ih.cons_cons f.name
    · exact ih.cons f.name

theorem keys_paramsEntries_sublist (s : Settings) :
    ((s.paramsEntries).map Prod.fst).Sublist ["params"] := by
  unfold paramsEntries
  split
  · exact List.nil_sublist _
  · exact List.Sublist.refl _

theorem entries_toTable (s : Settings) :
    s.toTable.entries = s.fieldEntries Field.all ++ s.paramsEntries := by
  have hnames : (Field.all.map Field.name ++ ["params"]).Nodup := by decide
  refine Table.entries_ofList (hnames.sublist ?_)
  rw [List.map_append]
  exact (s.keys_fieldEntries_sublist Field.all).append s.keys_paramsEntries_sublist

theorem ne_duration_of_mem_toTable {s : Settings} {entry : String × Value}
    (h : entry ∈ s.toTable.entries) (d : Duration) : entry.2 ≠ .duration d := by
  rw [entries_toTable, List.mem_append] at h
  rcases h with hfield | hparams
  · obtain ⟨f, rfl⟩ := exists_of_mem_fieldEntries hfield
    exact keptValue_toValue_ne_duration (s.get f) d
  · unfold paramsEntries at hparams
    split at hparams
    · cases hparams
    · cases List.mem_singleton.1 hparams
      exact nofun

theorem get?_toTable (s : Settings) (f : Field) :
    s.toTable.get? f.name =
      if (keptValue (f.kind.toValue (s.get f))).isPresent then some (keptValue (f.kind.toValue (s.get f)))
      else none := by
  have hmem (value : Value) : s.toTable.get? f.name = some value ↔
      (keptValue (f.kind.toValue (s.get f))).isPresent = true ∧
        keptValue (f.kind.toValue (s.get f)) = value := by
    rw [Table.get?_eq_some_iff_mem, entries_toTable, List.mem_append, fieldEntries, List.mem_filterMap]
    simp only [Option.ite_none_right_eq_some, Option.some.injEq, Prod.mk.injEq]
    constructor
    · rintro (⟨g, -, hpresent, hname, rfl⟩ | hparams)
      · obtain rfl : g = f := Option.some.inj <| by
          rw [← Field.ofName?_name g, hname, Field.ofName?_name]
        exact ⟨hpresent, rfl⟩
      · have hnone : Field.ofName? "params" = none := by decide
        have hkey := (s.keys_paramsEntries_sublist).subset (List.mem_map_of_mem hparams)
        rw [← List.mem_singleton.1 hkey, Field.ofName?_name] at hnone
        cases hnone
    · rintro ⟨hpresent, hvalue⟩
      exact Or.inl ⟨f, f.mem_all, hpresent, rfl, hvalue⟩
  split
  next hpresent => exact (hmem _).2 ⟨hpresent, rfl⟩
  next hpresent =>
    rw [Option.eq_none_iff_forall_ne_some]
    exact fun value hvalue => hpresent ((hmem value).1 hvalue).1

/-! ## Reading the dictionary back -/

/-- Settings on the way to others: every field is as it is there, or it is blank and among the fields
that are still to come. -/
def Approaches (t s : Settings) (fields : List Field) : Prop :=
  ∀ f, t.get f = s.get f ∨ f ∈ fields ∧ t.get f = f.kind.blank

section

variable {s t : Settings} {g : Field} {rest : List Field}

theorem approaches_blank (s : Settings) : Approaches {} s Field.all := by
  intro f
  exact Or.inr ⟨f.mem_all, get_blank f⟩

theorem Approaches.put (h : Approaches t s (g :: rest)) :
    Approaches (t.put g (s.get g)) s rest := by
  intro f
  by_cases hf : f = g
  · subst hf
    exact Or.inl (get_put t f (s.get f))
  · rw [get_put_of_ne t (s.get g) hf]
    refine (h f).imp_right fun ⟨hmem, hblank⟩ => ⟨?_, hblank⟩
    exact (List.mem_cons.1 hmem).resolve_left hf

theorem Approaches.skip (h : Approaches t s (g :: rest)) (hg : s.get g = g.kind.blank) :
    Approaches t s rest := by
  intro f
  rcases h f with hsame | ⟨hmem, hf⟩
  · exact Or.inl hsame
  · rcases List.mem_cons.1 hmem with rfl | hrest
    · exact Or.inl (hf.trans hg.symm)
    · exact Or.inr ⟨hrest, hf⟩

theorem Approaches.eq (h : Approaches t s []) : t = { s with params := t.params } := by
  refine ext_get (fun f => ?_) rfl
  rw [(h f).resolve_right (by simp)]
  cases f <;> rfl

theorem foldlM_fieldEntries (hs : s.Bounded) {fields : List Field} (h : Approaches t s fields) :
    (s.fieldEntries fields).foldlM (fun s entry => s.addEntry entry.1 entry.2) t =
      .ok { s with params := t.params } := by
  induction fields generalizing t with
  | nil => exact congrArg Except.ok h.eq
  | cons g rest ih =>
    rw [fieldEntries_cons]
    split
    · have hstep : t.addEntry g.name (keptValue (g.kind.toValue (s.get g))) =
          .ok (t.put g (s.get g)) :=
        addEntry_eq_ok_of_ofName? t (keptValue_toValue_ne_null _) (Field.ofName?_name g)
          (ofValue?_keptValue (hs g))
      rw [List.foldlM_cons, hstep, ← params_put t g (s.get g)]
      exact ih h.put
    · rename_i hpresent
      exact ih (h.skip (eq_blank_of_isPresent_eq_false (hs g) (Bool.eq_false_iff.2 hpresent)))

end

theorem foldlM_paramsEntries (s : Settings) :
    s.paramsEntries.foldlM (fun s entry => s.addEntry entry.1 entry.2) { s with params := .empty } =
      .ok s := by
  unfold paramsEntries
  split
  · rename_i hempty
    have hparams : s.params = .empty := Table.ext (List.isEmpty_iff.1 hempty)
    rw [← hparams]
    rfl
  · have hkey : Field.ofName? "params" = none := by decide
    have hparams : paramsOf "params" s.paramsValue = s.params.entries := by
      rw [paramsValue, paramsOf, List.map_map]
      exact List.map_id _
    have hvalue : s.paramsValue ≠ .null := nofun
    rw [List.foldlM_cons, addEntry_eq_ok_of_ofName?_eq_none _ hvalue hkey, hparams]
    exact congrArg (fun params => Except.ok { s with params }) s.params.ofList_entries

/-- The dictionary of settings is read back as the settings if and only if they are bounded: of other
settings it has rounded durations, or numbers that are refused. -/
theorem ofEntries_toTable_iff {s : Settings} : ofEntries s.toTable.entries = .ok s ↔ s.Bounded := by
  constructor
  · intro h
    exact Bounded.ofEntries (fun _ => ne_duration_of_mem_toTable) h
  · intro hs
    rw [ofEntries, entries_toTable, List.foldlM_append, foldlM_fieldEntries hs (approaches_blank s)]
    exact foldlM_paramsEntries s

end Settings

end DataSource
