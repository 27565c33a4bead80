import GrowthScan.FileSystem
import GrowthScan.Main
import GrowthScan.Proofs.Algorithm.Normal
import GrowthScan.Proofs.Algorithm.Recognition
import GrowthScan.Proofs.Analysis.RoundTrip
import GrowthScan.Proofs.Analysis.Verdict
import GrowthScan.Proofs.CommandLine.Inputs
import GrowthScan.Proofs.CommandLine.Presentation
import GrowthScan.Proofs.CommandLine.Walk
import GrowthScan.Proofs.Directive.Region
import GrowthScan.Proofs.Growth.Label
import GrowthScan.Proofs.Growth.Merge
import GrowthScan.Proofs.Loop.Blocks
import GrowthScan.Proofs.Loop.Degree
import GrowthScan.Proofs.Loop.Depth
import GrowthScan.Proofs.Loop.Opening
import GrowthScan.Proofs.Report.Ceilings
import GrowthScan.Proofs.Report.Colour
import GrowthScan.Proofs.Report.Compact
import GrowthScan.Proofs.Report.RoundTrip
import GrowthScan.Proofs.SelfCalls.Names
import GrowthScan.Proofs.SelfCalls.Prototype
import GrowthScan.Proofs.Settings.RoundTrip
import GrowthScan.Proofs.Source.Layout
import GrowthScan.Proofs.Space.Merge
