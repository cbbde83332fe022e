import DataSource.Proofs.Table
import DataSource.Report.Print
import DataSource.Settings.Complete
import DataSource.Settings.Dictionary

/-!
# Settings with their secrets hidden

`Settings.masked` hides the contents of the secrets and keeps whether there are any. What is shown of
settings does not depend on more: neither their summary (`summary_masked`) nor their dictionary with
the secrets masked (`maskSecrets_toTable_masked`). Setting a field and completing settings hides or shows
nothing either.
-/

namespace DataSource

/-! ## Hidden secrets -/

/-- A text with its contents hidden; an empty text stays empty. -/
def hidden (text : String) : String := if text = "" then "" else "****"

theorem hidden_of_ne {text : String} (h : text ≠ "") : hidden text = "****" := if_neg h

theorem hidden_eq_empty_iff {text : String} : hidden text = "" ↔ text = "" := by
  unfold hidden
  split <;> simp [*]

namespace Settings

/-- The settings with the contents of their secrets hidden. -/
def masked (s : Settings) : Settings :=
  { s with
    password := hidden s.password
    passcode := hidden s.passcode
    proxy := { s.proxy with password := hidden s.proxy.password } }

theorem masked_put {f : Field} (hf : f.isSecret = false) (s : Settings) (x : f.kind.Content) :
    (s.put f x).masked = s.masked.put f x := by
  cases f <;> first | rfl | cases hf

theorem missing?_masked (s : Settings) : s.masked.missing? = s.missing? := by
  have hpassword : s.masked.password = "" ↔ s.password = "" := hidden_eq_empty_iff
  simp only [missing?, hpassword]
  rfl

theorem map_masked_complete (s : Settings) : s.complete.map masked = s.masked.complete := by
  rw [complete, complete, missing?_masked]
  cases s.missing? <;> rfl

/-! ## What is shown -/

theorem summary_masked (s : Settings) : s.masked.summary = s.summary := rfl

/-- The entry of a field with its secret masked, if the field is set. -/
def shownEntry? (s : Settings) (f : Field) : Option (String × Value) :=
  let value := keptValue (f.kind.toValue (s.get f))
  if value.isPresent then some (f.name, if f.name ∈ Report.secretKeys then Report.mask else value)
  else none

theorem isPresent_hidden (text : String) :
    (Value.text (hidden text)).isPresent = (Value.text text).isPresent := by
  by_cases h : text = ""
  · rw [h]
    rfl
  · have hpresent : (Value.text text).isPresent = true := by simpa [Value.isPresent] using h
    rw [hidden_of_ne h, hpresent]
    rfl

theorem shownEntry?_masked (s : Settings) (f : Field) : s.masked.shownEntry? f = s.shownEntry? f := by
  have hsecret {name : String} (text : String) (hname : name ∈ Report.secretKeys) :
      (if (Value.text (hidden text)).isPresent then
        some (name, if name ∈ Report.secretKeys then Report.mask else .text (hidden text)) else none) =
      if (Value.text text).isPresent then
        some (name, if name ∈ Report.secretKeys then Report.mask else .text text) else none := by
    rw [if_pos hname, if_pos hname, isPresent_hidden]
  cases f with
  | password => exact hsecret s.password (by decide)
  | passcode => exact hsecret s.passcode (by decide)
  | proxyPassword => exact hsecret s.proxy.password (by decide)
  | _ => rfl

theorem maskSecrets_toTable (s : Settings) :
    Report.maskSecrets s.toTable =
      Table.ofList (Field.all.filterMap s.shownEntry? ++
        if s.params.isEmpty then [] else [("params", s.paramsValue)]) := by
  rw [Report.maskSecrets, toTable, Table.map_ofList, List.map_append, List.map_filterMap]
  congr 2
  · refine List.filterMap_congr fun f _ => ?_
    unfold shownEntry?
    simp only
    split
    · simp [*]
    · rfl
  · split <;> rfl

theorem maskSecrets_toTable_masked (s : Settings) :
    Report.maskSecrets s.masked.toTable = Report.maskSecrets s.toTable := by
  rw [maskSecrets_toTable, maskSecrets_toTable, funext s.shownEntry?_masked]
  rfl

end Settings

end DataSource
