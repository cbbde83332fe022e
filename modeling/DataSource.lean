import DataSource.Main
import DataSource.Proofs.Name.Query
import DataSource.Proofs.Text.Utf8
import DataSource.Proofs.Text.FormRuns
import DataSource.Proofs.Text.FormEscape
import DataSource.Proofs.Text.FormBytes
import DataSource.Proofs.Text.FormFault
import DataSource.Proofs.Text.Search
import DataSource.Proofs.Text.Occurrence
import DataSource.Proofs.Text.Bounds
import DataSource.Proofs.Number.PlaceValue
import DataSource.Proofs.Name.Layout
import DataSource.Proofs.Name.Target
import DataSource.Proofs.Name.Parts
import DataSource.Proofs.Name.Pairs
import DataSource.Proofs.Name.Written
import DataSource.Proofs.Name.RoundTrip
import DataSource.Proofs.Name.Parsed
import DataSource.Proofs.Name.Rebuild
import DataSource.Proofs.Name.Survival
import DataSource.Proofs.Name.Fault
import DataSource.Proofs.Settings.Masked
import DataSource.Proofs.Name.Secrets
import DataSource.Proofs.Settings.Host
import DataSource.Proofs.Name.Region
import DataSource.Proofs.Name.DerivedHost
import DataSource.Proofs.Name.Account
import DataSource.Proofs.Name.Dictionary
import DataSource.Proofs.Connections
import DataSource.Proofs.Settings.Entries
import DataSource.Proofs.Operations
import DataSource.Proofs.Name.Canonical
import DataSource.Proofs.Name.Valid
import DataSource.Proofs.Name.PathForms
import DataSource.Proofs.Name.Extension
import DataSource.Proofs.Name.LastWins
import DataSource.Proofs.Settings.Order
import DataSource.Proofs.Settings.Twice
import DataSource.Proofs.Name.Timeouts
import DataSource.Proofs.Overrides
