import BuildJdk.Main
import BuildJdk.Proofs.Resolution
import BuildJdk.Proofs.Memory
import BuildJdk.Proofs.Steady
import BuildJdk.Proofs.Validation
import BuildJdk.Proofs.Oracle
import BuildJdk.Proofs.FastPath
import BuildJdk.Proofs.Scan
import BuildJdk.Proofs.Canonical
import BuildJdk.Proofs.Verdict
import BuildJdk.Proofs.Output
import BuildJdk.Proofs.VersionPattern
import BuildJdk.Proofs.Requirements
import BuildJdk.Proofs.LocalLabels
import BuildJdk.Proofs.Numbering
import BuildJdk.Proofs.LineText
import BuildJdk.Proofs.ReleaseText
import BuildJdk.Proofs.SettingsText
import BuildJdk.Proofs.Naming
import BuildJdk.Proofs.Precedence
import BuildJdk.Proofs.Columns
import BuildJdk.Proofs.PairText
import BuildJdk.Proofs.Launcher
import BuildJdk.Proofs.ScanDocument
import BuildJdk.Proofs.Loading
import BuildJdk.Proofs.OwnText
import BuildJdk.Proofs.Messages
