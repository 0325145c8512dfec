import UrlMask.Main
import UrlMask.Proofs.Mask.OneSection
import UrlMask.Proofs.Mask.Unclosed
import UrlMask.Proofs.Mask.Quoted
import UrlMask.Proofs.Mask.Distinct
import UrlMask.Proofs.Mask.OnePass
import UrlMask.Proofs.Url.Collision
import UrlMask.Proofs.Url.NormalForm
import UrlMask.Proofs.Request.Fields
import UrlMask.Proofs.Json.Order
import UrlMask.Proofs.Json.Style
import UrlMask.Proofs.Json.OneLine
import UrlMask.Proofs.Json.Scalar
import UrlMask.Proofs.Json.Reading
import UrlMask.Proofs.Command.Filter
import UrlMask.Proofs.Request.Written
import UrlMask.Proofs.Request.Restored
import UrlMask.Proofs.Mask.Requests
import UrlMask.Proofs.Command.Output
import UrlMask.Proofs.Command.Check
import UrlMask.Proofs.Command.Agreement
import UrlMask.Proofs.Command.Configured
import UrlMask.Proofs.Toml.Keys
import UrlMask.Proofs.Config.Template
import UrlMask.Proofs.CommandLine.Writing
import UrlMask.Proofs.Program.SecondRun
import UrlMask.Proofs.Program.Unlogged
import UrlMask.Proofs.Request.Faults
import UrlMask.Proofs.Command.Verdicts
