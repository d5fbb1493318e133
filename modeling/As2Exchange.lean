import As2Exchange.Main
import As2Exchange.Sender.Scripted
import As2Exchange.Registry.Shared
import As2Exchange.Proofs.Receipt.RoundTrip
import As2Exchange.Proofs.Sender.Acceptance
import As2Exchange.Proofs.Sender.Guards
import As2Exchange.Proofs.Sender.Terms
import As2Exchange.Proofs.Send.Report
import As2Exchange.Proofs.Send.Confirmed
import As2Exchange.Proofs.Send.Row
import As2Exchange.Proofs.Message.Unique
import As2Exchange.Proofs.KeyStore.History
import As2Exchange.Proofs.Session.Opening
import As2Exchange.Proofs.Base64.Lines
import As2Exchange.Proofs.Sender.Payload
import As2Exchange.Proofs.Send.Tracking
import As2Exchange.Proofs.Receipt.Unreadable
import As2Exchange.Proofs.Send.Transmission
import As2Exchange.Proofs.Send.Kept
import As2Exchange.Proofs.Send.Progress
import As2Exchange.Proofs.Registry.Memory
import As2Exchange.Proofs.Registry.Shared
import As2Exchange.Proofs.Registry.Copies
import As2Exchange.Proofs.Sender.Status
import As2Exchange.Proofs.Send.Password
import As2Exchange.Proofs.CommandLine.Printing
import As2Exchange.Proofs.CommandLine.ExitCode
import As2Exchange.Proofs.Mime.Mixed
import As2Exchange.Proofs.Mime.Enclosed
import As2Exchange.Proofs.Receipt.Legible
import As2Exchange.Proofs.KeyStore.Pairing
import As2Exchange.Proofs.MimeBody.Declared
import As2Exchange.Proofs.Message.Escape
import As2Exchange.Proofs.MimeBody.Rendering
import As2Exchange.Proofs.Template.Written
import As2Exchange.Proofs.Message.Verbatim
import As2Exchange.Proofs.Registry.Completion
import As2Exchange.Proofs.Receipt.Disposition
import As2Exchange.Proofs.Sender.Disposition
import As2Exchange.Proofs.Receipt.Announced
import As2Exchange.Proofs.Receipt.Returned
import As2Exchange.Proofs.Config.Password
