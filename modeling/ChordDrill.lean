import ChordDrill.App
import ChordDrill.App.Turn
import ChordDrill.Attempt.Matcher
import ChordDrill.Attempt.Outcome
import ChordDrill.Attempt.Verdict
import ChordDrill.Catalog
import ChordDrill.Catalog.Builtin
import ChordDrill.Catalog.Context
import ChordDrill.Catalog.Entry
import ChordDrill.Catalog.File
import ChordDrill.Combo.Fault
import ChordDrill.Combo.Printer
import ChordDrill.Combo.Reader
import ChordDrill.Combo.Token
import ChordDrill.Combo.Tokens
import ChordDrill.Deck
import ChordDrill.Device.Discovery
import ChordDrill.Device.Held
import ChordDrill.Device.Listener
import ChordDrill.Device.Record
import ChordDrill.Drill
import ChordDrill.Drill.Event
import ChordDrill.Drill.Line
import ChordDrill.Drill.Rehearsal
import ChordDrill.Folder
import ChordDrill.Json
import ChordDrill.Key
import ChordDrill.Key.Keycode
import ChordDrill.Key.Scancode
import ChordDrill.Key.Tally
import ChordDrill.Keyboard
import ChordDrill.Keyboard.Snapshot
import ChordDrill.Lookahead
import ChordDrill.Main
import ChordDrill.Motion
import ChordDrill.Random.Choose
import ChordDrill.Random.Draw
import ChordDrill.Random.Stream
import ChordDrill.Screen.Color
import ChordDrill.Screen.Frame
import ChordDrill.Screen.Grid
import ChordDrill.Screen.KeyboardView
import ChordDrill.Screen.Panels
import ChordDrill.Screen.Paragraph
import ChordDrill.Screen.Picture
import ChordDrill.Screen.Rect
import ChordDrill.Screen.StatusBar
import ChordDrill.Settings
import ChordDrill.Settings.File
import ChordDrill.Settings.Record
import ChordDrill.Startup
import ChordDrill.Text.Blank
import ChordDrill.Text.CaseMap
import ChordDrill.Text.CaseTable
import ChordDrill.Text.Column
import ChordDrill.Text.ColumnTable
import ChordDrill.Text.Digit
import ChordDrill.Text.Parts
import ChordDrill.Text.Range
import ChordDrill.Text.Symbol
import ChordDrill.Text.SymbolTable
import ChordDrill.Toml.Document
import ChordDrill.Toml.Fields
import ChordDrill.Toml.Lexeme
import ChordDrill.Toml.Moment
import ChordDrill.Toml.Number
import ChordDrill.Toml.Printer
import ChordDrill.Toml.Value
import ChordDrill.Proofs.Combo.Discipline
import ChordDrill.Proofs.Combo.Written
import ChordDrill.Proofs.Combo.Folding
import ChordDrill.Proofs.Combo.Grammar
import ChordDrill.Proofs.Combo.Rejection
import ChordDrill.Proofs.Combo.RoundTrip
import ChordDrill.Proofs.Combo.Rendering
import ChordDrill.Proofs.Combo.Concatenation
import ChordDrill.Proofs.Attempt.Classification
import ChordDrill.Proofs.Motion.Alternation
import ChordDrill.Proofs.Attempt.Drain
import ChordDrill.Proofs.Device.Holders
import ChordDrill.Proofs.Drill.Trace
import ChordDrill.Proofs.Drill.Transition
import ChordDrill.Proofs.Drill.Course
import ChordDrill.Proofs.Drill.Run
import ChordDrill.Proofs.Drill.Dialogue
import ChordDrill.Proofs.App.Mirror
import ChordDrill.Proofs.Drill.Schedule
import ChordDrill.Proofs.Attempt.Performance
import ChordDrill.Proofs.Attempt.Relay
import ChordDrill.Proofs.Device.Typing
import ChordDrill.Proofs.Drill.Account
import ChordDrill.Proofs.Drill.LateRelease
import ChordDrill.Proofs.Drill.Cancellation
import ChordDrill.Proofs.App.Loop
import ChordDrill.Proofs.Keyboard.Replay
import ChordDrill.Proofs.Device.Keyboards
import ChordDrill.Proofs.Device.Sources
import ChordDrill.Proofs.Catalog.Loading
import ChordDrill.Proofs.Toml.Quoted
import ChordDrill.Proofs.Toml.Rendered
import ChordDrill.Proofs.Settings.Saving
import ChordDrill.Proofs.Device.Polling
import ChordDrill.Proofs.Keyboard.History
import ChordDrill.Proofs.Device.KeyboardTest
import ChordDrill.Proofs.Catalog.Selection
import ChordDrill.Proofs.Deck.Dealing
import ChordDrill.Proofs.Device.Opening
import ChordDrill.Proofs.Combo.Scan
import ChordDrill.Proofs.Lookahead.Cursor
import ChordDrill.Proofs.Screen.Painting
import ChordDrill.Proofs.Screen.Writing
import ChordDrill.Proofs.Screen.Widgets
import ChordDrill.Proofs.Device.Report
