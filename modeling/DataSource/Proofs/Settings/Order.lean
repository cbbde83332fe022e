import DataSource.Proofs.Settings.Entries
import Mathlib.Data.List.Perm.Basic
import Mathlib.Logic.Function.Basic

/-!
# The order of entries

What an entry of a dictionary says does not depend on the settings that it is put to: its value is refused,
or it sets one field or some parameters (`Change`). Changes of two fields commute, and so do those of
parameters under different keys (`update_comm`). So a dictionary whose entries do not meet in a field or in
a parameter is read as the same settings in every order of its entries, or refused in every order
(`ofEntries_perm`); which of the values at fault is named is all that the order decides.
-/

namespace DataSource.Settings

/-! ## What an entry says -/

/-- An entry names a field, and its value is not of the kind of the field; a null is no value. -/
def Refused (entry : String × Value) (f : Field) : Prop :=
  entry.2 ≠ .null ∧ Field.ofName? entry.1 = some f ∧ f.kind.ofValue? entry.2 = none

/-- What an entry makes of settings: it sets a field, or some parameters. -/
inductive Change where
  | field (f : Field) (x : f.kind.Content)
  | params (given : List (String × String))

def Change.apply (s : Settings) : Change → Settings
  | field f x => s.put f x
  | params given => { s with params := s.params.insertAll given }

/-- What an entry says, unless it is refused. -/
def change? : String × Value → Option Change
  | (_, .null) => some (.params [])
  | (key, value) =>
    match Field.ofName? key with
    | some f => (f.kind.ofValue? value).map (.field f)
    | none => some (.params (paramsOf key value))

variable {entry : String × Value} {s t : Settings} {c d : Change}

theorem change?_of_ofName? {key : String} {value : Value} (hvalue : value ≠ .null) :
    change? (key, value) =
      match Field.ofName? key with
      | some f => (f.kind.ofValue? value).map (.field f)
      | none => some (.params (paramsOf key value)) := by
  cases value with
  | null => exact absurd rfl hvalue
  | _ => rfl

theorem addEntry_of_change? (h : change? entry = some c) (s : Settings) :
    s.addEntry entry.1 entry.2 = .ok (c.apply s) := by
  obtain ⟨key, value⟩ := entry
  by_cases hvalue : value = .null
  · subst hvalue
    cases h
    rfl
  · rw [change?_of_ofName? hvalue] at h
    cases hkey : Field.ofName? key with
    | some f =>
      rw [hkey] at h
      obtain ⟨x, hx, rfl⟩ := Option.map_eq_some_iff.1 h
      exact addEntry_eq_ok_of_ofName? s hvalue hkey hx
    | none =>
      rw [hkey] at h
      cases h
      exact addEntry_eq_ok_of_ofName?_eq_none s hvalue hkey

theorem addEntry_of_refused {f : Field} (h : Refused entry f) (s : Settings) :
    s.addEntry entry.1 entry.2 = .error (.setting f.shortName entry.2) :=
  addEntry_eq_error_of_ofName? s h.1 h.2.1 h.2.2

theorem exists_refused_iff : (∃ f, Refused entry f) ↔ change? entry = none := by
  obtain ⟨key, value⟩ := entry
  by_cases hvalue : value = .null
  · subst hvalue
    exact iff_of_false (fun ⟨_, hnull, _⟩ => hnull rfl) nofun
  · rw [change?_of_ofName? hvalue]
    cases hkey : Field.ofName? key with
    | some f =>
      simp only [Option.map_eq_none_iff]
      constructor
      · rintro ⟨g, -, hg, hnone⟩
        cases hkey.symm.trans hg
        exact hnone
      · intro hnone
        exact ⟨f, hvalue, hkey, hnone⟩
    | none =>
      refine iff_of_false ?_ nofun
      rintro ⟨f, -, hf, -⟩
      cases hkey.symm.trans hf

/-! ## Runs -/

theorem foldlM_of_change? {entries : List (String × Value)}
    (h : ∀ entry ∈ entries, change? entry ≠ none) (s : Settings) :
    entries.foldlM (fun s entry => s.addEntry entry.1 entry.2) s =
      .ok ((entries.filterMap change?).foldl Change.apply s) := by
  induction entries generalizing s with
  | nil => rfl
  | cons entry rest ih =>
    obtain ⟨hentry, hrest⟩ := List.forall_mem_cons.1 h
    obtain ⟨c, hc⟩ := Option.ne_none_iff_exists'.1 hentry
    rw [List.foldlM_cons, addEntry_of_change? hc, List.filterMap_cons_some hc]
    exact ih hrest (c.apply s)

theorem foldlM_of_refused {entries : List (String × Value)}
    (h : ∃ entry ∈ entries, change? entry = none) (s : Settings) :
    ∃ entry ∈ entries, ∃ f, Refused entry f ∧
      entries.foldlM (fun s entry => s.addEntry entry.1 entry.2) s =
        .error (.setting f.shortName entry.2) := by
  induction entries generalizing s with
  | nil => simp at h
  | cons entry rest ih =>
    cases hentry : change? entry with
    | none =>
      obtain ⟨f, hf⟩ := exists_refused_iff.2 hentry
      refine ⟨entry, List.mem_cons_self, f, hf, ?_⟩
      rw [List.foldlM_cons, addEntry_of_refused hf]
      rfl
    | some c =>
      have hrest : ∃ entry ∈ rest, change? entry = none := by
        obtain ⟨other, hmem, hnone⟩ := h
        rcases List.mem_cons.1 hmem with rfl | hmem
        · rw [hentry] at hnone
          cases hnone
        · exact ⟨other, hmem, hnone⟩
      obtain ⟨other, hmem, f, hf, hrun⟩ := ih hrest (c.apply s)
      refine ⟨other, List.mem_cons_of_mem _ hmem, f, hf, ?_⟩
      rw [List.foldlM_cons, addEntry_of_change? hentry]
      exact hrun

/-! ## Changes that commute -/

/-- What settings may hold: a content of every field, and a parameter or none under every key. -/
abbrev Contents := ((f : Field) → f.kind.Content) × (String → Option String)

def contents (s : Settings) : Contents := (s.get, s.params.get?)

theorem same_iff_contents : s.same t = true ↔ s.contents = t.contents := by
  rw [same_iff, contents, contents, Prod.mk.injEq, funext_iff, funext_iff]

/-- What a change makes of what settings hold. -/
def Change.update (v : Contents) : Change → Contents
  | field f x => (Function.update v.1 f x, v.2)
  | params given => (v.1, fun key => (given.reverse.lookup key).or (v.2 key))

theorem contents_apply (c : Change) (s : Settings) : (c.apply s).contents = c.update s.contents := by
  cases c with
  | field f x =>
    have hget : (s.put f x).get = Function.update s.get f x := by
      funext g
      by_cases hg : g = f
      · subst hg
        rw [get_put, Function.update_self]
      · rw [get_put_of_ne s x hg, Function.update_of_ne hg]
    show ((s.put f x).get, (s.put f x).params.get?) = _
    rw [hget, params_put]
    rfl
  | params given =>
    have hget : ({ s with params := s.params.insertAll given } : Settings).get = s.get := by
      funext f
      cases f <;> rfl
    refine Prod.ext hget (funext fun key => ?_)
    exact Table.get?_insertAll s.params given key

/-- Changes that do not meet in a field or in a parameter. -/
def Change.Apart : Change → Change → Prop
  | field f _, field g _ => f ≠ g
  | params given, params others => ∀ key ∈ given.map Prod.fst, key ∉ others.map Prod.fst
  | _, _ => True

theorem update_comm (h : c.Apart d) (v : Contents) : d.update (c.update v) = c.update (d.update v) := by
  cases c with
  | field f x =>
    cases d with
    | field g y =>
      have hfields : Function.update (Function.update v.1 f x) g y =
          Function.update (Function.update v.1 g y) f x := Function.update_comm h x y v.1
      exact Prod.ext hfields rfl
    | params others => rfl
  | params given =>
    cases d with
    | field g y => rfl
    | params others =>
      refine Prod.ext rfl (funext fun key => ?_)
      show (others.reverse.lookup key).or ((given.reverse.lookup key).or (v.2 key)) =
        (given.reverse.lookup key).or ((others.reverse.lookup key).or (v.2 key))
      -- At most one of the two has a parameter under the key.
      by_cases hkey : key ∈ given.map Prod.fst
      · rw [Table.lookup_reverse_eq_none_iff.2 (h key hkey), Option.none_or, Option.none_or]
      · rw [Table.lookup_reverse_eq_none_iff.2 hkey, Option.none_or, Option.none_or]

theorem contents_foldl (changes : List Change) (s : Settings) :
    (changes.foldl Change.apply s).contents = changes.foldl Change.update s.contents :=
  (List.foldl_hom contents fun s c => (contents_apply c s).symm).symm

theorem same_foldl_of_perm {changes others : List Change} (hperm : changes.Perm others)
    (hapart : ∀ c ∈ changes, ∀ d ∈ changes, c = d ∨ c.Apart d) (s : Settings) :
    (changes.foldl Change.apply s).same (others.foldl Change.apply s) = true := by
  rw [same_iff_contents, contents_foldl, contents_foldl]
  refine hperm.foldl_eq' (fun c hc d hd v => ?_) s.contents
  rcases hapart c hc d hd with rfl | h
  · rfl
  · exact update_comm h v

/-! ## Entries that do not meet -/

/-- An entry gives a parameter under a key: its own, or one in a dictionary of parameters. -/
inductive Gives : String × Value → String → Prop
  | own {key : String} {value : Value} (hkey : Field.ofName? key = none) : Gives (key, value) key
  | nested {nested : List (String × Value)} {key : String} (h : key ∈ nested.map Prod.fst) :
      Gives ("params", .mapping nested) key

theorem gives_of_mem_paramsOf {key k : String} {value : Value} (hkey : Field.ofName? key = none)
    (h : k ∈ (paramsOf key value).map Prod.fst) : Gives (key, value) k := by
  unfold paramsOf at h
  split at h
  · rw [List.map_map] at h
    exact .nested h
  · rw [List.map_singleton, List.mem_singleton] at h
    exact h ▸ .own hkey

theorem change?_cases (h : change? entry = some c) :
    (∃ f x, Field.ofName? entry.1 = some f ∧ c = .field f x) ∨
      ∃ given, c = .params given ∧ ∀ key ∈ given.map Prod.fst, Gives entry key := by
  obtain ⟨key, value⟩ := entry
  by_cases hvalue : value = .null
  · subst hvalue
    cases h
    exact .inr ⟨[], rfl, nofun⟩
  · rw [change?_of_ofName? hvalue] at h
    cases hkey : Field.ofName? key with
    | some f =>
      rw [hkey] at h
      obtain ⟨x, -, rfl⟩ := Option.map_eq_some_iff.1 h
      exact .inl ⟨f, x, rfl, rfl⟩
    | none =>
      rw [hkey] at h
      cases h
      exact .inr ⟨_, rfl, fun k hk => gives_of_mem_paramsOf hkey hk⟩

section

variable {entries others : List (String × Value)} {e e' : String × Value}

/-- No key of a dictionary of parameters is the key of a parameter outside it. -/
def Separate (entries : List (String × Value)) : Prop :=
  ∀ nested, ("params", .mapping nested) ∈ entries → ∀ key ∈ nested.map Prod.fst,
    Field.ofName? key = none → key ≠ "params" → key ∉ entries.map Prod.fst

/-- Under distinct keys no two entries give one parameter, if those in a dictionary are separate. -/
theorem not_gives_both (hseparate : Separate entries) (he : e ∈ entries) (he' : e' ∈ entries)
    (hne : e.1 ≠ e'.1) {key : String} (h : Gives e key) : ¬Gives e' key := by
  intro h'
  cases h with
  | own hkey =>
    cases h' with
    | own => exact hne rfl
    | nested hmem =>
      refine hseparate _ he' key hmem hkey ?_ (List.mem_map_of_mem he)
      rintro rfl
      exact hne rfl
  | nested hmem =>
    cases h' with
    | own hkey =>
      refine hseparate _ he key hmem hkey ?_ (List.mem_map_of_mem he')
      rintro rfl
      exact hne rfl
    | nested => exact hne rfl

theorem apart_of_ne (hseparate : Separate entries) (he : e ∈ entries) (he' : e' ∈ entries)
    (hne : e.1 ≠ e'.1) (hc : change? e = some c) (hd : change? e' = some d) : c.Apart d := by
  rcases change?_cases hc with ⟨f, x, hf, rfl⟩ | ⟨given, rfl, hgiven⟩
  · rcases change?_cases hd with ⟨g, y, hg, rfl⟩ | ⟨_, rfl, -⟩
    · show f ≠ g
      rintro rfl
      exact hne ((Field.name_of_ofName? hf).symm.trans (Field.name_of_ofName? hg))
    · trivial
  · rcases change?_cases hd with ⟨g, y, hg, rfl⟩ | ⟨others, rfl, hothers⟩
    · trivial
    · exact fun key hkey hkey' =>
        not_gives_both hseparate he he' hne (hgiven key hkey) (hothers key hkey')

/-- Entries under distinct keys are read alike in every order: as the same settings, or for none at all,
with one of the values that are refused named. -/
theorem ofEntries_perm (hperm : others.Perm entries) (hkeys : (entries.map Prod.fst).Nodup)
    (hseparate : Separate entries) :
    ((∀ entry ∈ entries, ∀ f, ¬Refused entry f) ∧
      ∃ s t, ofEntries entries = .ok s ∧ ofEntries others = .ok t ∧ s.same t = true) ∨
    (∃ entry ∈ entries, ∃ f, Refused entry f ∧
      ofEntries entries = .error (.setting f.shortName entry.2)) ∧
    ∃ entry ∈ entries, ∃ f, Refused entry f ∧
      ofEntries others = .error (.setting f.shortName entry.2) := by
  by_cases hall : ∃ entry ∈ entries, change? entry = none
  · obtain ⟨entry, hmem, hnone⟩ := hall
    obtain ⟨other, hother, hrun⟩ := foldlM_of_refused ⟨entry, hperm.mem_iff.2 hmem, hnone⟩ {}
    exact .inr ⟨foldlM_of_refused ⟨entry, hmem, hnone⟩ {}, other, hperm.mem_iff.1 hother, hrun⟩
  · have hsome : ∀ entry ∈ entries, change? entry ≠ none := fun entry hmem hnone =>
      hall ⟨entry, hmem, hnone⟩
    refine .inl ⟨fun entry hmem f hf => hsome entry hmem (exists_refused_iff.1 ⟨f, hf⟩), _, _,
      foldlM_of_change? hsome {},
      foldlM_of_change? (fun entry hmem => hsome entry (hperm.mem_iff.1 hmem)) {},
      same_foldl_of_perm (hperm.symm.filterMap change?) (fun c hc d hd => ?_) {}⟩
    obtain ⟨e, he, hec⟩ := List.mem_filterMap.1 hc
    obtain ⟨e', he', hed⟩ := List.mem_filterMap.1 hd
    by_cases hne : e.1 = e'.1
    · cases List.inj_on_of_nodup_map hkeys he he' hne
      exact .inl (Option.some.inj (hec.symm.trans hed))
    · exact .inr (apart_of_ne hseparate he he' hne hec hed)

end

/-- Fields, one of them of the proxy and one without a value, and parameters in a dictionary and outside of
it; one of those in the dictionary has the name of a field, and one the key of the dictionary. -/
def sampleEntries : List (String × Value) := [
  ("user", .text "reader"), ("proxy_port", .text "+08"), ("role", .null),
  ("params", .mapping [("user", .text "other"), ("params", .flag true), ("trace", .null)]),
  ("proxy", .flag false), ("login_timeout", .duration .minute)]

theorem ofEntries_perm_sampleEntries :
    sampleEntries.reverse.Perm sampleEntries ∧ (sampleEntries.map Prod.fst).Nodup ∧
      Separate sampleEntries ∧
      ∃ s t, ofEntries sampleEntries = .ok s ∧ ofEntries sampleEntries.reverse = .ok t ∧
        s.same t = true := by
  have hkeys : (sampleEntries.map Prod.fst).Nodup := by decide
  have hseparate : Separate sampleEntries := by
    intro nested hmem
    have hnested : nested = [("user", .text "other"), ("params", .flag true), ("trace", .null)] := by
      simpa [sampleEntries] using hmem
    subst hnested
    decide
  have hsome : ∀ entry ∈ sampleEntries, (change? entry).isSome := by decide
  refine ⟨List.reverse_perm _, hkeys, hseparate, ?_⟩
  rcases ofEntries_perm (List.reverse_perm sampleEntries) hkeys hseparate with
    ⟨-, h⟩ | ⟨⟨entry, hmem, f, hf, -⟩, -⟩
  · exact h
  · exact absurd (exists_refused_iff.1 ⟨f, hf⟩) (Option.isSome_iff_ne_none.1 (hsome entry hmem))

/-- Of two values at fault the first is named. -/
example :
    ofEntries [("port", .flag true), ("login_timeout", .text "1 s")] =
        .error (.setting "port" (.flag true)) ∧
      ofEntries [("login_timeout", .text "1 s"), ("port", .flag true)] =
        .error (.setting "login_timeout" (.text "1 s")) :=
  ⟨rfl, rfl⟩

end DataSource.Settings
