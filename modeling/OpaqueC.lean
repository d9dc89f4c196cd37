import OpaqueC.Main
import OpaqueC.Proofs.Catalog.Validity
import OpaqueC.Proofs.Emission.Steps
import OpaqueC.Proofs.MemberCode.Codes
import OpaqueC.Proofs.Conditional.Region
import OpaqueC.Proofs.Emission.Outcome
import OpaqueC.Proofs.Conditional.Guard
import OpaqueC.Proofs.Conditional.Artifact
import OpaqueC.Proofs.Conditional.SourceRegions
import OpaqueC.Proofs.Conditional.HeaderRegions
import OpaqueC.Proofs.Conditional.Projection
import OpaqueC.Proofs.Interface.Agreement
import OpaqueC.Proofs.Naming.Linkage
import OpaqueC.Proofs.Generation.Aborted
import OpaqueC.Proofs.Generation.Confinement
import OpaqueC.Proofs.Report.Warnings
import OpaqueC.Proofs.Fragment.Layout
import OpaqueC.Proofs.Emission.Recorded
import OpaqueC.Proofs.Emission.Limit
import OpaqueC.Proofs.Conditional.Includes
import OpaqueC.Proofs.Conditional.IncludeGuards
import OpaqueC.Proofs.FileTree.Insertions
import OpaqueC.Proofs.Generation.Repeated
import OpaqueC.Proofs.Generation.Recording
import OpaqueC.Proofs.Report.DryRun
import OpaqueC.Proofs.Interface.Independence
import OpaqueC.Proofs.Conditional.Balance
import OpaqueC.Proofs.Emission.Banner
import OpaqueC.Proofs.Emission.History
import OpaqueC.Proofs.Emission.Incomplete
import OpaqueC.Proofs.MemberCode.NestedCalls
import OpaqueC.Proofs.Emission.MemberOrder
import OpaqueC.Proofs.MemberCode.Assignment
import OpaqueC.Proofs.Interface.NestedClasses
import OpaqueC.Proofs.Naming.Collisions
import OpaqueC.Proofs.Catalog.Positions
import OpaqueC.Proofs.Catalog.Selection
import OpaqueC.Proofs.Conditional.TrimmedGuards
import OpaqueC.Proofs.Fragment.Items
import OpaqueC.Proofs.IncludeSet.Runs
import OpaqueC.Proofs.Naming.Identifiers
import OpaqueC.Proofs.Declaration.TypeText
