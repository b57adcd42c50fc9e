import CommandLog.Address
import CommandLog.Bytes
import CommandLog.Bytes.Packed
import CommandLog.Calendar
import CommandLog.Client
import CommandLog.Command
import CommandLog.CommandLine.ClientProgram
import CommandLog.CommandLine.Outcome
import CommandLog.CommandLine.ServerProgram
import CommandLog.DataFile
import CommandLog.DataFile.Workspace
import CommandLog.Device
import CommandLog.Device.Rack
import CommandLog.Failure
import CommandLog.FileSystem
import CommandLog.LineBuffer
import CommandLog.Main
import CommandLog.Network
import CommandLog.Numeral
import CommandLog.Options
import CommandLog.Options.Similarity
import CommandLog.Proofs.Ring.Layout
import CommandLog.Proofs.Ring.Queue
import CommandLog.Request
import CommandLog.Ring
import CommandLog.Server
import CommandLog.Server.Run
import CommandLog.Server.Session
import CommandLog.Server.Shared
import CommandLog.Stop.Interleaving
import CommandLog.Stop.Tokens
import CommandLog.Storage
import CommandLog.Text.Blank
import CommandLog.Text.Quoted
import CommandLog.Text.Unseen
import CommandLog.Text.Utf8
import CommandLog.Timestamp
import CommandLog.Timestamp.Reader
import CommandLog.Workers
import CommandLog.Proofs.Bytes.Lines
import CommandLog.Proofs.Server.LineByLine
import CommandLog.Proofs.Device.Chronicle
import CommandLog.Proofs.Device.History
import CommandLog.Proofs.Device.Reading
import CommandLog.Proofs.Device.Pieces
import CommandLog.Proofs.Device.Reply
import CommandLog.Proofs.Device.Written
import CommandLog.Proofs.Ring.Address
import CommandLog.Proofs.Server.Erasure
import CommandLog.Proofs.Server.Steps
import CommandLog.Proofs.Server.Isolation
import CommandLog.Proofs.Server.Replies
import CommandLog.Proofs.Server.OneBatch
import CommandLog.Proofs.Server.Beside
import CommandLog.Proofs.Server.Refusals
import CommandLog.Proofs.DataFile.OpenFile
import CommandLog.Proofs.Server.Retention
import CommandLog.Proofs.Server.Closing
import CommandLog.Proofs.Server.Poisoned
import CommandLog.Proofs.Server.Ending
import CommandLog.Proofs.Workers.Register
import CommandLog.Proofs.Numeral.Decimal
import CommandLog.Proofs.Request.Grammar
import CommandLog.Proofs.LineBuffer.Calls
import CommandLog.Proofs.Client.Agreement
import CommandLog.Proofs.Client.OverDevice
import CommandLog.Proofs.DataFile.Names
import CommandLog.Proofs.DataFile.Appends
import CommandLog.Proofs.CommandLine.SecondStart
import CommandLog.Proofs.Server.Likeness
import CommandLog.Proofs.CommandLine.Background
import CommandLog.Proofs.Timestamp.Lines
import CommandLog.Proofs.Storage.Growing
import CommandLog.Proofs.Server.Outline
import CommandLog.Proofs.Server.Annotated
import CommandLog.Proofs.Server.AnnotatedRun
import CommandLog.Proofs.Server.Timestamps
import CommandLog.Proofs.Request.Classification
import CommandLog.Proofs.Device.Seeking
import CommandLog.Proofs.Stop.Requests
import CommandLog.Proofs.Ring.Circle
import CommandLog.Proofs.Device.Dump
import CommandLog.Proofs.Device.Words
import CommandLog.Proofs.Device.Bounds
import CommandLog.Proofs.Calendar.Days
import CommandLog.Proofs.Timestamp.Parts
import CommandLog.Proofs.Timestamp.Lossless
import CommandLog.Proofs.DataFile.Setbacks
