import PromptCanvas.Address
import PromptCanvas.Address.Host
import PromptCanvas.Address.Path
import PromptCanvas.Asset
import PromptCanvas.Autosave
import PromptCanvas.Canvas
import PromptCanvas.Canvas.Basic
import PromptCanvas.Canvas.Pointer
import PromptCanvas.CommandLine
import PromptCanvas.Debounce
import PromptCanvas.Debounce.Trial
import PromptCanvas.Document
import PromptCanvas.Document.Json
import PromptCanvas.Domain
import PromptCanvas.Domain.Direction
import PromptCanvas.Domain.Direction.Table
import PromptCanvas.Domain.Joiner
import PromptCanvas.Domain.Joiner.Table
import PromptCanvas.Domain.Meaning
import PromptCanvas.Domain.Meaning.Table
import PromptCanvas.Element
import PromptCanvas.Element.Json
import PromptCanvas.Errand
import PromptCanvas.Error
import PromptCanvas.EventStream
import PromptCanvas.Geometry
import PromptCanvas.Gesture
import PromptCanvas.Gesture.Resize
import PromptCanvas.Http
import PromptCanvas.Http.Envelope
import PromptCanvas.Http.Status
import PromptCanvas.Input
import PromptCanvas.Input.Json
import PromptCanvas.Job
import PromptCanvas.Job.Submission
import PromptCanvas.Json.Reader
import PromptCanvas.Json.Record
import PromptCanvas.Json.Value
import PromptCanvas.Main
import PromptCanvas.Metrics
import PromptCanvas.Placement
import PromptCanvas.Process
import PromptCanvas.Process.Follow
import PromptCanvas.Process.Generate
import PromptCanvas.Process.Save
import PromptCanvas.Prompt
import PromptCanvas.Prompt.Directive
import PromptCanvas.Prompt.Reference
import PromptCanvas.Proofs.Canvas.Effects
import PromptCanvas.Proofs.Document.Image
import PromptCanvas.Proofs.Document.Json
import PromptCanvas.Proofs.Document.RoundTrip
import PromptCanvas.Proofs.Element.Json
import PromptCanvas.Proofs.EventStream.Chunks
import PromptCanvas.Proofs.Job.Course
import PromptCanvas.Proofs.Job.Verdict
import PromptCanvas.Proofs.JobQueue.Accounting
import PromptCanvas.Proofs.JobQueue.Drain
import PromptCanvas.Proofs.JobQueue.Exclusion
import PromptCanvas.Proofs.JobQueue.Order
import PromptCanvas.Proofs.JobQueue.Targets
import PromptCanvas.Proofs.JobQueue.Workshop
import PromptCanvas.Proofs.Json.Record
import PromptCanvas.Proofs.Placement.Order
import PromptCanvas.Proofs.Placement.Rings
import PromptCanvas.Proofs.Placement.Search
import PromptCanvas.Proofs.Run.Delivery
import PromptCanvas.Proofs.Scalar
import PromptCanvas.Proofs.Scalar.Exact
import PromptCanvas.Proofs.Scalar.Order
import PromptCanvas.Proofs.Scalar.Whole
import PromptCanvas.Proofs.Scene
import PromptCanvas.Proofs.Scene.Layers
import PromptCanvas.Proofs.Store.Announcements
import PromptCanvas.Proofs.Store.Operations
import PromptCanvas.Retry
import PromptCanvas.Run.Event
import PromptCanvas.Scalar
import PromptCanvas.Scene
import PromptCanvas.Scene.Json
import PromptCanvas.Scene.Layers
import PromptCanvas.Selection
import PromptCanvas.Service.Error
import PromptCanvas.Service.Exchange
import PromptCanvas.Service.Memory
import PromptCanvas.Service.Rehearsal
import PromptCanvas.Service.Stream
import PromptCanvas.Session
import PromptCanvas.Session.Agenda
import PromptCanvas.Session.Answer
import PromptCanvas.Session.Basic
import PromptCanvas.Session.Step
import PromptCanvas.Settings
import PromptCanvas.Size
import PromptCanvas.Store
import PromptCanvas.Text.Blank
import PromptCanvas.Text.CharTable
import PromptCanvas.Text.Combining
import PromptCanvas.Text.Combining.Table
import PromptCanvas.Text.Composition
import PromptCanvas.Text.Composition.Table
import PromptCanvas.Text.Numeral
import PromptCanvas.Text.Percent
import PromptCanvas.Text.Punycode
import PromptCanvas.Text.Quoted
import PromptCanvas.Text.Scientific
import PromptCanvas.Text.Utf8
import PromptCanvas.Viewport
import PromptCanvas.Viewport.FrameSync
import PromptCanvas.Workspace
import PromptCanvas.Proofs.Run.FirstResult
import PromptCanvas.Proofs.Scene.References
import PromptCanvas.Proofs.Document.Sound
import PromptCanvas.Proofs.Autosave.Archive
import PromptCanvas.Proofs.Autosave.Unsaved
import PromptCanvas.Proofs.Autosave.Session
import PromptCanvas.Proofs.Canvas.Gestures
import PromptCanvas.Proofs.Canvas.WellFormed
import PromptCanvas.Proofs.Store.WellFormed
import PromptCanvas.Proofs.Document.Shown
import PromptCanvas.Proofs.Job.Notice
import PromptCanvas.Proofs.Debounce.Diary
import PromptCanvas.Proofs.Debounce.Schedule
import PromptCanvas.Proofs.Debounce.Runs
import PromptCanvas.Proofs.Debounce.Trial
import PromptCanvas.Proofs.Autosave.Turns
import PromptCanvas.Proofs.Job.Keeping
import PromptCanvas.Proofs.Submission.Rejection
import PromptCanvas.Proofs.Workspace.Reload
import PromptCanvas.Proofs.Json.Formats
import PromptCanvas.Proofs.Document.Settled
import PromptCanvas.Proofs.EventStream.Framing
import PromptCanvas.Proofs.Canvas.Viewing
import PromptCanvas.Proofs.Viewport.Moves
import PromptCanvas.Proofs.Canvas.Contents
import PromptCanvas.Proofs.Gesture.Resize
import PromptCanvas.Proofs.Run.Decision
import PromptCanvas.Proofs.Run.Hearing
import PromptCanvas.Proofs.Scene.Stacking
import PromptCanvas.Proofs.Prompt.Spans
import PromptCanvas.Proofs.Prompt.Normal
import PromptCanvas.Proofs.Job.Uploads
import PromptCanvas.Proofs.Prompt.Extraction
import PromptCanvas.Proofs.Canvas.Marquee
import PromptCanvas.Proofs.Canvas.Dragging
import PromptCanvas.Proofs.Canvas.Fitting
import PromptCanvas.Proofs.Viewport.Zooming
import PromptCanvas.Proofs.Viewport.Transition
import PromptCanvas.Proofs.Geometry
import PromptCanvas.Proofs.Document.Layout
import PromptCanvas.Proofs.Store.Atomic
import PromptCanvas.Proofs.Http.Answers
import PromptCanvas.Proofs.Retry
import PromptCanvas.Proofs.Process.Attempts
import PromptCanvas.Proofs.Text.Percent
import PromptCanvas.Proofs.Address.Segments
import PromptCanvas.Proofs.Address.Endpoints
import PromptCanvas.Proofs.Http.Endpoints
import PromptCanvas.Proofs.Submission.Acceptance
import PromptCanvas.Proofs.Submission.Planned
import PromptCanvas.Proofs.Size.Fitting
