import BulkLoad.Engine.Rehearsal
import BulkLoad.Proofs.Load.Course
import BulkLoad.Proofs.Load.Calls
import BulkLoad.Proofs.Load.Accounting
import BulkLoad.Proofs.Query.InsertText
import BulkLoad.Proofs.Query.Completion
import BulkLoad.Proofs.Query.CreateText
import BulkLoad.Proofs.Encoding.Utf8Text
import BulkLoad.Proofs.Stream.Transcoding
import BulkLoad.Proofs.Delimited.Endings
import BulkLoad.Proofs.Delimited.Moves
import BulkLoad.Proofs.Delimited.Places
import BulkLoad.Proofs.Delimited.FirstRow
import BulkLoad.Proofs.Source.Opening
import BulkLoad.Proofs.Source.Transport
import BulkLoad.Proofs.Load.FromSource
import BulkLoad.Proofs.Source.Interruption
import BulkLoad.Proofs.Delimited.Quoted
import BulkLoad.Proofs.Source.Quoting
import BulkLoad.Proofs.Load.Lacking
import BulkLoad.Proofs.Source.Sampling
import BulkLoad.Proofs.Source.Lines
import BulkLoad.Proofs.Source.Marks
import BulkLoad.Proofs.Source.HeaderLine
import BulkLoad.Proofs.Json.Literals
import BulkLoad.Proofs.Json.Pretty
import BulkLoad.Proofs.Schema.Offence
import BulkLoad.Proofs.Definition.Described
import BulkLoad.Proofs.Definition.Acceptance
import BulkLoad.Proofs.Load.Scripted
import BulkLoad.Proofs.Load.Rounds
import BulkLoad.Proofs.Workspace.Frame
import BulkLoad.Proofs.CommandLine.RenderedScript
import BulkLoad.Proofs.Load.Splitting
import BulkLoad.Proofs.Load.Stages
import BulkLoad.Proofs.Load.ScriptLines
import BulkLoad.Proofs.CommandLine.ExitStatus
import BulkLoad.Proofs.Json.Members
import BulkLoad.Proofs.Load.ReportText
import BulkLoad.Proofs.Load.Told
import BulkLoad.Proofs.Query.Refusal
import BulkLoad.Proofs.Schema.FirstFault
import BulkLoad.Proofs.Definition.Format
import BulkLoad.Proofs.Definition.Spelling
import BulkLoad.Proofs.Query.Integers
import BulkLoad.Proofs.Load.Variants
import BulkLoad.Proofs.Delimited.Prevalence
import BulkLoad.Proofs.Stream.Resumption
import BulkLoad.Proofs.Source.FaultLine
import BulkLoad.Proofs.Encoding.Mending
import BulkLoad.Proofs.Delimited.Patches
import BulkLoad.Proofs.Source.Mended
import BulkLoad.Proofs.Text.Lines
import BulkLoad.Proofs.Engine.Reason
import BulkLoad.Proofs.Load.Causes
