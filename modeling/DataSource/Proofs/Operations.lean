import DataSource.Proofs.Name.Rebuild
import DataSource.Proofs.Settings.Entries

/-!
# Settings that a program can hold

A program starts with blank settings and replaces or changes them by operations, some of which fail: a
query that fails has set what its earlier pieces say, and any other operation that fails has done
nothing. Every operation keeps settings `Bounded` (`Bounded.run`), so whatever settings a program
comes to hold are read back from their dictionary (`ofEntries_toTable_runAll`).
-/

namespace DataSource

open Settings (Bounded)

/-- A copy of settings, with a parameter table and a proxy of its own. -/
def Settings.clone (s : Settings) : Settings :=
  { s with
    params := .ofList s.params.entries
    proxy :=
      { host := s.proxy.host, port := s.proxy.port, user := s.proxy.user,
        password := s.proxy.password } }

theorem Settings.clone_eq (s : Settings) : s.clone = s := by
  rw [clone, s.params.ofList_entries]

/-- What a program does to the settings it holds. A dictionary that it reads has no durations. -/
inductive Operation where
  | parse (name : String)
  | applyQuery (query : String)
  | complete
  | ofEntries (entries : List (String × Value))
      (hentries : ∀ entry ∈ entries, ∀ d, entry.2 ≠ .duration d)
  | clone
  | reparse

namespace Operation

/-- The settings after an operation, whether it fails or not. -/
def run (s : Settings) : Operation → Settings
  | parse name => (Name.parse name).toOption.getD s
  | applyQuery query => (Name.applyQuery s query.toList).settings
  | complete => s.complete.toOption.getD s
  | ofEntries entries _ => (Settings.ofEntries entries).toOption.getD s
  | clone => s.clone
  | reparse => (Name.reparse s).toOption.getD s

/-- The settings that operations lead to, one after another, from blank settings. -/
def runAll (ops : List Operation) : Settings := ops.foldl (fun s op => op.run s) {}

end Operation

/-! ## What the operations keep -/

section

variable {s t : Settings}

theorem bounded_getD {ε : Type} {x : Except ε Settings} (hs : s.Bounded)
    (hx : ∀ t, x = .ok t → t.Bounded) : (x.toOption.getD s).Bounded := by
  cases x with
  | error error => exact hs
  | ok t => exact hx t rfl

theorem bounded_of_complete (hs : s.Bounded) (h : s.complete = .ok t) : t.Bounded := by
  obtain ⟨-, rfl⟩ := Settings.complete_eq_ok_iff.1 h
  exact hs.fill

theorem bounded_of_reparse (h : Name.reparse s = .ok t) : t.Bounded := by
  obtain ⟨name, -, hname⟩ := Name.exists_of_bind_eq_ok h
  exact Name.bounded_of_parse hname

theorem Settings.Bounded.run (hs : s.Bounded) (op : Operation) : (op.run s).Bounded := by
  cases op with
  | parse name => exact bounded_getD hs fun t => Name.bounded_of_parse
  | applyQuery query => exact Name.bounded_settings_applyPieces hs _
  | complete => exact bounded_getD hs fun t => bounded_of_complete hs
  | ofEntries entries hentries => exact bounded_getD hs fun t => Bounded.ofEntries hentries
  | clone => exact s.clone_eq.symm ▸ hs
  | reparse => exact bounded_getD hs fun t => bounded_of_reparse

theorem Settings.Bounded.foldl_run (hs : s.Bounded) (ops : List Operation) :
    (ops.foldl (fun s op => op.run s) s).Bounded := by
  induction ops generalizing s with
  | nil => exact hs
  | cons op rest ih => exact ih (hs.run op)

end

/-- Every operation keeps settings bounded, and so the settings that any operations lead to are bounded
and are read back from their dictionary, with their parameters in order. -/
theorem ofEntries_toTable_runAll :
    (∀ (s : Settings) (op : Operation), s.Bounded → (op.run s).Bounded) ∧
      ∀ ops : List Operation,
        (Operation.runAll ops).Bounded ∧
          Settings.ofEntries (Operation.runAll ops).toTable.entries = .ok (Operation.runAll ops) := by
  refine ⟨fun s op hs => hs.run op, fun ops => ?_⟩
  have hbounded : (Operation.runAll ops).Bounded := Settings.bounded_blank.foldl_run ops
  exact ⟨hbounded, Settings.ofEntries_toTable_iff.2 hbounded⟩

/-- Operations of every kind; the query fails at its fourth piece, and the dictionary at its first
entry. -/
def sampleOperations : List Operation := [
  .parse "u:p@acc.eu/db",
  .reparse,
  .applyQuery "params=x&loginTimeout=90&proxyPort=-1&insecureMode=maybe&role=r",
  .ofEntries [("port", .text "443x"), ("user", .text "v")] (by simp),
  .complete,
  .clone]

/-- What the sample operations lead to. -/
def sampleSettings : Settings where
  account := "acc"
  user := "u"
  password := "p"
  region := "eu"
  protocol := "https"
  host := "acc.eu.snowflakecomputing.com"
  port := 443
  database := "db"
  schema := "public"
  authenticator := "snowflake"
  loginTimeout := ⟨90000000, by decide⟩
  application := "PythonDSN"
  params := .ofList [("params", "x")]
  proxy := { port := -1 }

theorem ofEntries_toTable_sampleSettings :
    ({} : Settings).Bounded ∧ (Operation.run {} (.applyQuery "proxyPort=-1&role")).Bounded ∧
      Operation.runAll sampleOperations = sampleSettings ∧
      Settings.ofEntries sampleSettings.toTable.entries = .ok sampleSettings := by
  have hrun : Operation.runAll sampleOperations = sampleSettings := by decide +kernel
  refine ⟨Settings.bounded_blank, ofEntries_toTable_runAll.1 _ _ Settings.bounded_blank, hrun, ?_⟩
  exact hrun ▸ (ofEntries_toTable_runAll.2 sampleOperations).2

end DataSource
