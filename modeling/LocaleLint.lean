import LocaleLint.Main
import LocaleLint.Proofs.Suppression
import LocaleLint.Proofs.Table.Reading
import LocaleLint.Proofs.Table.Written
import LocaleLint.Proofs.Table.Directive
import LocaleLint.Proofs.Table.RoundTrip
import LocaleLint.Proofs.Baseline
import LocaleLint.Proofs.Baseline.Filling
import LocaleLint.Proofs.Baseline.Index
import LocaleLint.Proofs.Session.Operation
import LocaleLint.Proofs.Session.Soundness
import LocaleLint.Proofs.Session.Pass
import LocaleLint.Proofs.Session.Silence
import LocaleLint.Proofs.Session.Filtering
import LocaleLint.Proofs.Session.BasePass
import LocaleLint.Proofs.Session.Course
import LocaleLint.Proofs.Disk.Path
import LocaleLint.Proofs.Survey.Ingestion
import LocaleLint.Proofs.Session.Independence
import LocaleLint.Proofs.Survey.History
import LocaleLint.Proofs.Session.Conforming
import LocaleLint.Proofs.Survey.Consistency
import LocaleLint.Proofs.Session.Mirroring
import LocaleLint.Proofs.Session.Swapping
import LocaleLint.Proofs.Report
import LocaleLint.Proofs.Survey.Grouping
import LocaleLint.Proofs.Disk.Trail
import LocaleLint.Proofs.Config.Discovery
import LocaleLint.Proofs.Command.Status
import LocaleLint.Proofs.Table.Ending
import LocaleLint.Proofs.Table.Shape
import LocaleLint.Proofs.Encoding.Assignment
import LocaleLint.Proofs.Survey.Recognition
import LocaleLint.Proofs.Session.Repetition
import LocaleLint.Proofs.Config.Resolution
import LocaleLint.Proofs.Text.Sorted
import LocaleLint.Proofs.Config.Merging
import LocaleLint.Proofs.Report.Reading
import LocaleLint.Proofs.Session.Logging
import LocaleLint.Proofs.Survey.Log
import LocaleLint.Proofs.Session.Subject
import LocaleLint.Proofs.Survey.Subject
import LocaleLint.Proofs.Text.Terminator
import LocaleLint.Proofs.Encoding.Listing
import LocaleLint.Proofs.Encoding.Spelling
import LocaleLint.Proofs.Config.Creation
