import CodeAddress.Change.Summary
import CodeAddress.Client.Basic
import CodeAddress.ErrorKind
import CodeAddress.Proofs.Client.Accepted
import CodeAddress.Proofs.Ref.Refusal
import CodeAddress.Settings.Load
import CodeAddress.Proofs.Ref.Normal
import CodeAddress.Proofs.Ref.Head
import CodeAddress.Proofs.Route.Grammar
import CodeAddress.Proofs.Route.Rebuild
import CodeAddress.Proofs.Ref.Definition
import CodeAddress.Proofs.Text.Form
import CodeAddress.Proofs.Url.Reread
import CodeAddress.Proofs.Route.Query
import CodeAddress.Proofs.Toml.Distinct
import CodeAddress.Proofs.Settings.Layers
import CodeAddress.Proofs.Real.Reader
import CodeAddress.Proofs.Settings.Timeout
import CodeAddress.Proofs.Change.Partition
import CodeAddress.Proofs.Route.Compile
