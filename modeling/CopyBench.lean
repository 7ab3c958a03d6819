import CopyBench.Buffer.Workspace
import CopyBench.Suite.Scripted
import CopyBench.Text.Lines
import CopyBench.Main
import CopyBench.Proofs.Pool.Accounts
import CopyBench.Proofs.Pool.Retrying
import CopyBench.Proofs.Pool.InOrder
import CopyBench.Proofs.Pool.Turns
import CopyBench.Proofs.Pool.Fences
import CopyBench.Proofs.Buffer.Observed
import CopyBench.Proofs.Buffer.Extent
import CopyBench.Proofs.Buffer.Remnants
import CopyBench.Proofs.Buffer.Epochs
import CopyBench.Proofs.Suite.Teardown
import CopyBench.Proofs.Suite.Releases
import CopyBench.Proofs.Suite.Balance
import CopyBench.Proofs.Suite.Cleanup
import CopyBench.Proofs.Suite.Reporting
import CopyBench.Proofs.Suite.Outcome
import CopyBench.Proofs.Severity
import CopyBench.Proofs.Buffer.Creation
import CopyBench.Proofs.Buffer.Unobserved
import CopyBench.Proofs.Bootstrap.Selection
import CopyBench.Proofs.Bootstrap.Enabling
import CopyBench.Proofs.Sample.Summary
import CopyBench.Proofs.CommandLine.AnyOrder
