import StreamingChat.Main
import StreamingChat.Conversation.Transcript
import StreamingChat.Terminal.Render
import StreamingChat.Proofs.Conversation.NewNumbers
import StreamingChat.Proofs.Conversation.Resuming
import StreamingChat.Proofs.Send.Company
import StreamingChat.Proofs.Send.Meaning
import StreamingChat.Proofs.Send.Serializability
import StreamingChat.Proofs.Send.Window
import StreamingChat.Proofs.Terminal.Strokes
import StreamingChat.Proofs.Terminal.Rendering
import StreamingChat.Proofs.Terminal.Resumed
import StreamingChat.Proofs.Text.Input
import StreamingChat.Proofs.Http.Exchange
import StreamingChat.Proofs.Send.Transmission
import StreamingChat.Proofs.Session.Steps
import StreamingChat.Proofs.Session.Rounds
import StreamingChat.Proofs.Session.Loop
import StreamingChat.Proofs.Session.Opening
import StreamingChat.Proofs.Forum.Steps
import StreamingChat.Proofs.Forum.Growth
import StreamingChat.Proofs.Forum.Numbering
import StreamingChat.Proofs.Forum.Readers
import StreamingChat.Proofs.Text.Utf8.Lines
import StreamingChat.Proofs.Event.Damage
import StreamingChat.Proofs.Json.Grammar
import StreamingChat.Proofs.Json.Skipping
import StreamingChat.Proofs.Json.Records
import StreamingChat.Proofs.Event.Payload
import StreamingChat.Proofs.Event.Reading
import StreamingChat.Proofs.Text.Utf8.Incremental
import StreamingChat.Proofs.Text.Utf8.Cuts
import StreamingChat.Proofs.Event.CutOff
import StreamingChat.Proofs.Send.CutOff
import StreamingChat.Proofs.Text.Utf8.Withheld
import StreamingChat.Proofs.Event.LineEnds
import StreamingChat.Proofs.Send.LineEnds
import StreamingChat.Proofs.Terminal.LineStarts
import StreamingChat.Proofs.Terminal.AnswerLine
import StreamingChat.Proofs.Text.Framing
import StreamingChat.Proofs.Terminal.LineBeginnings
import StreamingChat.Proofs.Terminal.FailureNotes
import StreamingChat.Proofs.Settings.Endpoint
import StreamingChat.Proofs.Settings.Server
import StreamingChat.Proofs.Settings.Layers
import StreamingChat.Proofs.Terminal.Colours
