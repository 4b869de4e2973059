import Nurture.Action
import Nurture.Api.Access
import Nurture.Api.Command
import Nurture.Api.Exchange
import Nurture.Api.Route
import Nurture.Api.Server
import Nurture.Api.Target
import Nurture.Calendar.Date
import Nurture.Calendar.Iso
import Nurture.Calendar.Lenient
import Nurture.Calendar.Moment
import Nurture.Calendar.Span
import Nurture.Calendar.Zone
import Nurture.Calendar.ZoneTable
import Nurture.CommandLine
import Nurture.Delivery.AddressList
import Nurture.Delivery.Cloud
import Nurture.Delivery.Console
import Nurture.Delivery.EncodedWord
import Nurture.Delivery.Header
import Nurture.Delivery.Mailbox
import Nurture.Delivery.Smtp
import Nurture.Engine.Condition
import Nurture.Engine.Pass
import Nurture.Engine.Placeholder
import Nurture.Engine.Report
import Nurture.Engine.SendWindow
import Nurture.Engine.Step
import Nurture.Engine.StepResult
import Nurture.Engine.Trigger
import Nurture.Engine.Walk
import Nurture.Execution
import Nurture.Failure
import Nurture.Funnel.Graph
import Nurture.Funnel.Node
import Nurture.Funnel.Reading
import Nurture.Funnel.SendTime
import Nurture.Funnel.Writing
import Nurture.Journal
import Nurture.Json.Bytes
import Nurture.Json.Display
import Nurture.Json.Dump
import Nurture.Json.Equality
import Nurture.Json.Printer
import Nurture.Json.Reader
import Nurture.Json.Value
import Nurture.Lead
import Nurture.Main
import Nurture.Number.Binary64
import Nurture.Number.Numeral
import Nurture.Number.Shortest
import Nurture.Number.Word
import Nurture.Program
import Nurture.Proofs.AcceptedMessages
import Nurture.Proofs.Admission
import Nurture.Proofs.ClocksPutBack
import Nurture.Proofs.ClosedGraphs
import Nurture.Proofs.CloudDelivery
import Nurture.Proofs.Cohorts
import Nurture.Proofs.Courses
import Nurture.Proofs.Delays
import Nurture.Proofs.Departures
import Nurture.Proofs.DirectoryAnswers
import Nurture.Proofs.Driving
import Nurture.Proofs.EngineFrame
import Nurture.Proofs.ExecutionChanges
import Nurture.Proofs.ExecutionRows
import Nurture.Proofs.ExecutionTable
import Nurture.Proofs.Frame
import Nurture.Proofs.FunnelShelf
import Nurture.Proofs.FunnelTable
import Nurture.Proofs.Isolation
import Nurture.Proofs.LeadNumbers
import Nurture.Proofs.LeadRows
import Nurture.Proofs.LeadTable
import Nurture.Proofs.LifeCycle
import Nurture.Proofs.LowerCase
import Nurture.Proofs.NodeData
import Nurture.Proofs.OnTime
import Nurture.Proofs.OpenCourses
import Nurture.Proofs.Operations
import Nurture.Proofs.Orphans
import Nurture.Proofs.ParallelRuns
import Nurture.Proofs.ParkAndWake
import Nurture.Proofs.PassLog
import Nurture.Proofs.PassReading
import Nurture.Proofs.PassReport
import Nurture.Proofs.PassRows
import Nurture.Proofs.Passes
import Nurture.Proofs.PatchedExecutions
import Nurture.Proofs.Polling
import Nurture.Proofs.Presentation
import Nurture.Proofs.ReadableRows
import Nurture.Proofs.Results
import Nurture.Proofs.Retries
import Nurture.Proofs.Rounding
import Nurture.Proofs.Rows
import Nurture.Proofs.RunningOnce
import Nurture.Proofs.SendWindows
import Nurture.Proofs.SettledPasses
import Nurture.Proofs.SoleWorker
import Nurture.Proofs.Starts
import Nurture.Proofs.StepEffects
import Nurture.Proofs.StepParts
import Nurture.Proofs.Steps
import Nurture.Proofs.StockCreation
import Nurture.Proofs.StockFunnel
import Nurture.Proofs.StockRun
import Nurture.Proofs.StoreReads
import Nurture.Proofs.StoredGraphs
import Nurture.Proofs.Subscriptions
import Nurture.Proofs.TagEvents
import Nurture.Proofs.Traversal
import Nurture.Proofs.Triggers
import Nurture.Proofs.UnhinderedPasses
import Nurture.Proofs.UniqueTags
import Nurture.Proofs.Validated
import Nurture.Proofs.ZoneChanges
import Nurture.Proofs.ZoneReadings
import Nurture.Record
import Nurture.Rehearsal
import Nurture.Reply
import Nurture.Settings
import Nurture.Signature
import Nurture.Stock
import Nurture.Store.Column
import Nurture.Store.Executions
import Nurture.Store.Funnels
import Nurture.Store.Leads
import Nurture.Store.Rows
import Nurture.Store.Templates
import Nurture.Template
import Nurture.Text.Base64
import Nurture.Text.Blank
import Nurture.Text.CaseTables
import Nurture.Text.DecimalDigit
import Nurture.Text.DigitForm
import Nurture.Text.Half
import Nurture.Text.LowerCase
import Nurture.Text.Percent
import Nurture.Text.Printable
import Nurture.Text.Quoted
import Nurture.Text.Ranges
import Nurture.Text.Search
import Nurture.Text.Utf
import Nurture.Validation.Checked
import Nurture.Validation.Issue
import Nurture.Validation.Scalar
import Nurture.Worker
import Nurture.World
import Nurture.Proofs.FilledTemplates
import Nurture.Proofs.FailedCalls
import Nurture.Proofs.ConstantZones
import Nurture.Proofs.SendTimes
import Nurture.Proofs.Occurrences
import Nurture.Proofs.LoopGuard
import Nurture.Proofs.SafeSendTimes
