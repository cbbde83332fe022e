import DataSource.Proofs.Name.Partition
import DataSource.Proofs.Text.Bounds

/-!
# The positions of a layout

What the layout of a text is can be said without its scans: its positions stand at separators, and no
separator stands between them where one would have been taken (`Layout.Marks`). Each position is then
the first or the last separator of a part of the text that earlier positions bound, so that every text
has one such layout, and what lies between the positions gives the text back.
-/

namespace DataSource.Name

open Text (Free IsFirst IsLast)

namespace Layout

/-! ## Positions and separators -/

def lastSlash? (l : Layout) : Option Nat := l.slashes?.map Prod.snd

/-- The positions of a layout are in order and stand at separators, and no separator stands where it
would have been taken in place of another. Without a path at signs are looked for up to the end of the
text, and question marks from the target on. -/
structure Marks (l : Layout) (text : List Char) : Prop where
  atSign : ∀ i ∈ l.atSign?, i < l.targetEnd ∧ text[i]? = some '@'
  targetEnd_le : l.targetEnd ≤ l.queryStart
  queryStart_le : l.queryStart ≤ text.length
  slashes : ∀ first last, l.slashes? = some (first, last) →
    l.targetEnd = first ∧ first ≤ last ∧ last < l.queryStart ∧
      text[first]? = some '/' ∧ text[last]? = some '/'
  pathless : l.slashes? = none → l.targetEnd = l.queryStart
  question : l.queryStart < text.length → text[l.queryStart]? = some '?'
  no_slash_behind : Free '/' text ((l.lastSlash?.map (· + 1)).getD 0) text.length
  no_slash_in_target : Free '/' text l.targetStart l.targetEnd
  no_at_sign : Free '@' text l.targetStart (l.lastSlash?.getD text.length)
  no_question : Free '?' text ((l.lastSlash?.map (· + 1)).getD l.targetStart) l.queryStart
  hasTarget : l.hasTarget = false ↔ l.lastSlash? = some 0

/-! ## The scans find such positions -/

theorem isFirst_queryFrom {text : List Char} {start : Nat} (h : start ≤ text.length) :
    IsFirst '?' text start text.length (queryFrom text start) := by
  rw [queryFrom, ← Text.find?_length]
  exact Text.isFirst_find? '?' h (Nat.le_refl text.length)

theorem getD_map_succ_le_iff {i? : Option Nat} {bound : Nat} :
    (i?.map (· + 1)).getD 0 ≤ bound ↔ ∀ i ∈ i?, i < bound := by
  cases i? with
  | none => exact ⟨fun _ => nofun, fun _ => Nat.zero_le bound⟩
  | some i => exact ⟨fun h j hj => Option.mem_some_iff.1 hj ▸ h, fun h => h i rfl⟩

theorem marks_of_scans {text : List Char} {atSign? : Option Nat} {query : Nat}
    (hslash : IsLast '/' text text.length none) (hat : IsLast '@' text text.length atSign?)
    (hquery : IsFirst '?' text ((atSign?.map (· + 1)).getD 0) text.length query) :
    Marks ⟨atSign?, query, none, query, true⟩ text where
  atSign i hi := ⟨getD_map_succ_le_iff.1 hquery.start_le i hi, (hat.occurs i hi).2⟩
  targetEnd_le := Nat.le_refl query
  queryStart_le := hquery.le_stop
  slashes := nofun
  pathless _ := rfl
  question := hquery.occurs
  no_slash_behind := hslash.free
  no_slash_in_target i _ hlt := hslash.free i (Nat.zero_le i) (Nat.lt_of_lt_of_le hlt hquery.le_stop)
  no_at_sign := hat.free
  no_question := hquery.free
  hasTarget := by simp [lastSlash?]

theorem marks_of_scans_path {text : List Char} {atSign? : Option Nat} {first last query : Nat}
    (hpos : last ≠ 0) (hlast : IsLast '/' text text.length (some last))
    (hat : IsLast '@' text last atSign?)
    (hfirst : IsFirst '/' text ((atSign?.map (· + 1)).getD 0) last first)
    (hquery : IsFirst '?' text (last + 1) text.length query) :
    Marks ⟨atSign?, first, some (first, last), query, true⟩ text where
  atSign i hi := ⟨getD_map_succ_le_iff.1 hfirst.start_le i hi, (hat.occurs i hi).2⟩
  targetEnd_le := Nat.le_trans hfirst.le_stop (Nat.le_of_lt hquery.start_le)
  queryStart_le := hquery.le_stop
  slashes := by
    rintro _ _ ⟨⟩
    have hslash := (hlast.occurs last rfl).2
    refine ⟨rfl, hfirst.le_stop, hquery.start_le, ?_, hslash⟩
    rcases Nat.lt_or_eq_of_le hfirst.le_stop with hlt | heq
    · exact hfirst.occurs hlt
    · rw [heq, hslash]
  pathless := nofun
  question := hquery.occurs
  no_slash_behind := hlast.free
  no_slash_in_target := hfirst.free
  no_at_sign := hat.free
  no_question := hquery.free
  hasTarget := by simp [lastSlash?, hpos]

theorem marks_of_scans_zero {text : List Char} {query : Nat}
    (hlast : IsLast '/' text text.length (some 0))
    (hquery : IsFirst '?' text 1 text.length query) :
    Marks ⟨none, 0, some (0, 0), query, false⟩ text where
  atSign := nofun
  targetEnd_le := Nat.zero_le query
  queryStart_le := hquery.le_stop
  slashes := by
    rintro _ _ ⟨⟩
    have hslash := (hlast.occurs 0 rfl).2
    exact ⟨rfl, Nat.le_refl 0, hquery.start_le, hslash, hslash⟩
  pathless := nofun
  question := hquery.occurs
  no_slash_behind := hlast.free
  no_slash_in_target i _ hlt := absurd hlt (Nat.not_lt_zero i)
  no_at_sign i _ hlt := absurd hlt (Nat.not_lt_zero i)
  no_question := hquery.free
  hasTarget := by simp [lastSlash?]

theorem marks_locate (text : List Char) : (locate text).Marks text := by
  have hslash : IsLast '/' text text.length (Text.findLast? text ['/']) :=
    Text.isLast_findLast? '/' text text.length
  rw [locate]
  cases hlast : Text.findLast? text ['/'] with
  | none =>
    rw [hlast] at hslash
    have hat : IsLast '@' text text.length (Text.findLast? text ['@']) :=
      Text.isLast_findLast? '@' text text.length
    exact marks_of_scans hslash hat
      (isFirst_queryFrom (getD_map_succ_le_iff.2 fun i hi => (hat.occurs i hi).1))
  | some last =>
    rw [hlast] at hslash
    have hlt : last < text.length := (hslash.occurs last rfl).1
    simp only [locateWithPath]
    split
    · rename_i hzero
      subst hzero
      exact marks_of_scans_zero hslash (isFirst_queryFrom hlt)
    · rename_i hpos
      have hat : IsLast '@' text last (Text.findLast? text ['@'] (some (last : Int))) :=
        Text.isLast_findLast? '@' text last
      exact marks_of_scans_path hpos hslash hat
        (Text.isFirst_find? '/' (getD_map_succ_le_iff.2 fun i hi => (hat.occurs i hi).1) (Nat.le_of_lt hlt))
        (isFirst_queryFrom hlt)

/-! ## There are no other positions -/

namespace Marks

variable {l l' : Layout} {text : List Char}

theorem targetEnd_eq (h : l.Marks text) :
    l.targetEnd = (l.slashes?.map Prod.fst).getD l.queryStart := by
  cases hslashes : l.slashes? with
  | none => exact h.pathless hslashes
  | some slashes => exact (h.slashes slashes.1 slashes.2 hslashes).1

theorem targetStart_le (h : l.Marks text) : l.targetStart ≤ l.targetEnd :=
  getD_map_succ_le_iff.2 fun i hi => (h.atSign i hi).1

theorem targetEnd_le_lastSlash (h : l.Marks text) :
    l.targetEnd ≤ l.lastSlash?.getD text.length := by
  rw [lastSlash?]
  cases hslashes : l.slashes? with
  | none => exact Nat.le_trans h.targetEnd_le h.queryStart_le
  | some slashes =>
    obtain ⟨hend, hle, -⟩ := h.slashes slashes.1 slashes.2 hslashes
    exact hend ▸ hle

theorem isLast_slash (h : l.Marks text) : IsLast '/' text text.length l.lastSlash? where
  occurs i hi := by
    obtain ⟨⟨first, last⟩, hslashes, rfl⟩ := Option.map_eq_some_iff.1 hi
    obtain ⟨-, -, hlt, -, hslash⟩ := h.slashes first last hslashes
    exact ⟨Nat.lt_of_lt_of_le hlt h.queryStart_le, hslash⟩
  free := h.no_slash_behind

theorem isLast_atSign (h : l.Marks text) :
    IsLast '@' text (l.lastSlash?.getD text.length) l.atSign? where
  occurs i hi := by
    obtain ⟨hlt, hat⟩ := h.atSign i hi
    exact ⟨Nat.lt_of_lt_of_le hlt h.targetEnd_le_lastSlash, hat⟩
  free := h.no_at_sign

theorem isFirst_slash (h : l.Marks text) {slashes : Nat × Nat} (hslashes : l.slashes? = some slashes) :
    IsFirst '/' text l.targetStart slashes.2 slashes.1 := by
  obtain ⟨hend, hle, -, hfirst, -⟩ := h.slashes slashes.1 slashes.2 hslashes
  exact ⟨hend ▸ h.targetStart_le, hle, fun _ => hfirst, hend ▸ h.no_slash_in_target⟩

theorem isFirst_question (h : l.Marks text) :
    IsFirst '?' text ((l.lastSlash?.map (· + 1)).getD l.targetStart) text.length l.queryStart where
  start_le := by
    rw [lastSlash?]
    cases hslashes : l.slashes? with
    | none => exact Nat.le_trans h.targetStart_le h.targetEnd_le
    | some slashes => exact (h.slashes slashes.1 slashes.2 hslashes).2.2.1
  le_stop := h.queryStart_le
  occurs := h.question
  free := h.no_question

theorem slashes_eq (h : l.Marks text) (h' : l'.Marks text) (hstart : l.targetStart = l'.targetStart) :
    l.slashes? = l'.slashes? := by
  have hlast : l.lastSlash? = l'.lastSlash? := h.isLast_slash.unique h'.isLast_slash
  cases hslashes : l.slashes? with
  | none =>
    rw [lastSlash?, lastSlash?, hslashes, eq_comm, Option.map_none, Option.map_eq_none_iff] at hlast
    exact hlast.symm
  | some slashes =>
    rw [lastSlash?, lastSlash?, hslashes, eq_comm, Option.map_some, Option.map_eq_some_iff] at hlast
    obtain ⟨slashes', hslashes', hlast⟩ := hlast
    have hfirst : slashes.1 = slashes'.1 :=
      (h.isFirst_slash hslashes).unique (hlast ▸ hstart ▸ h'.isFirst_slash hslashes')
    rw [hslashes', Prod.ext hfirst hlast.symm]

/-- Each position is determined by those that bound its scan: the last slash, then the at sign, then the
first slash and the question mark. -/
theorem unique (h : l.Marks text) (h' : l'.Marks text) : l = l' := by
  have hlast : l.lastSlash? = l'.lastSlash? := h.isLast_slash.unique h'.isLast_slash
  have hat : l.atSign? = l'.atSign? := h.isLast_atSign.unique (hlast ▸ h'.isLast_atSign)
  have hstart : l.targetStart = l'.targetStart := by rw [targetStart, hat, targetStart]
  have hslashes : l.slashes? = l'.slashes? := h.slashes_eq h' hstart
  have hquery : l.queryStart = l'.queryStart :=
    h.isFirst_question.unique (hlast ▸ hstart ▸ h'.isFirst_question)
  have hend : l.targetEnd = l'.targetEnd := by rw [h.targetEnd_eq, h'.targetEnd_eq, hslashes, hquery]
  have hhas : l.hasTarget = l'.hasTarget := by
    rw [Bool.eq_iff_iff, ← Bool.not_eq_false, ← Bool.not_eq_false, h.hasTarget, h'.hasTarget, hlast]
  calc
    l = ⟨l.atSign?, l.targetEnd, l.slashes?, l.queryStart, l.hasTarget⟩ := rfl
    _ = ⟨l'.atSign?, l'.targetEnd, l'.slashes?, l'.queryStart, l'.hasTarget⟩ := by
      rw [hat, hend, hslashes, hquery, hhas]
    _ = l' := rfl

end Marks

/-- A text has one layout whose positions stand at its separators, the one that is located, and what
lies between the positions gives the text back. -/
theorem locate_partitions (text : List Char) :
    (∀ l : Layout, l.Marks text ↔ locate text = l) ∧ (partsOf text).text = text := by
  refine ⟨fun l => ⟨fun h => (marks_locate text).unique h, ?_⟩, (partsOf_spec text).2⟩
  rintro rfl
  exact marks_locate text

end Layout

end DataSource.Name
