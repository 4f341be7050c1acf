import BundleFront.Diagnostic.Collector
import BundleFront.Options.Change
import BundleFront.Options.Record
import BundleFront.Toolchain.Script
import BundleFront.Session
import BundleFront.Proofs.Build
import BundleFront.Proofs.Settings.Output
import BundleFront.Proofs.Transform
import BundleFront.Proofs.Diagnostic.Order
import BundleFront.Proofs.Define
import BundleFront.Proofs.Filter
import BundleFront.Proofs.Plugin.Setup
import BundleFront.Proofs.Plugin.Sharing
import BundleFront.Proofs.Plugin.Alike
import BundleFront.Proofs.Toolchain.Respect
import BundleFront.Proofs.Toolchain.Script
import BundleFront.Proofs.Session
import BundleFront.Proofs.Plugin.Dispatch
import BundleFront.Proofs.Diagnostic.Collector
import BundleFront.Proofs.Reporting
import BundleFront.Proofs.Json.Shape
import BundleFront.Proofs.Json.Record
import BundleFront.Proofs.Options.RoundTrip
import BundleFront.Proofs.Toolchain.AfterError
import BundleFront.Proofs.Path
import BundleFront.Proofs.Settings.Paths
import BundleFront.Proofs.FileSystem
import BundleFront.Proofs.Version
import BundleFront.Proofs.Feature
import BundleFront.Proofs.Diagnostic.Report
import BundleFront.Proofs.Feature.Monotone
import BundleFront.Proofs.Version.Numerals
import BundleFront.Proofs.Version.Comparison
import BundleFront.Proofs.Text.Utf8
import BundleFront.Proofs.Double.Arithmetic
import BundleFront.Proofs.Json.NumberText
import BundleFront.Proofs.Json.StringText
import BundleFront.Proofs.Define.Meaning
import BundleFront.Proofs.Settings.Shared
import BundleFront.Proofs.Path.Spelling
import BundleFront.Proofs.Settings.Externals
import BundleFront.Proofs.Json.Padding
import BundleFront.Proofs.Options.Padding
import BundleFront.Proofs.Diagnostic.Presentation
import BundleFront.Proofs.Options.Steps
import BundleFront.Proofs.Settings.Extensions
import BundleFront.Proofs.Double.Arithmetic
import BundleFront.Proofs.Json.NumberValue
import BundleFront.Proofs.Json.NumberAccuracy
