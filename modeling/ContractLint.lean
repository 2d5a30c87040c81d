import ContractLint.Analysis.Script
import ContractLint.Detector.Script
import ContractLint.Flow.Script
import ContractLint.Main
import ContractLint.Proofs.Analysis.Interface
import ContractLint.Proofs.Flow.Depth
import ContractLint.Proofs.Report.Summary
import ContractLint.Proofs.Survey.Import
import ContractLint.Survey.Rust
import ContractLint.Workload.Program
import ContractLint.Workload.Tree
import ContractLint.Proofs.Service.Socket
import ContractLint.Proofs.Solidity.Preorder
import ContractLint.Proofs.Audit.Failure
import ContractLint.Proofs.Analysis.Consistency
import ContractLint.Proofs.Service.Retrieval
import ContractLint.Proofs.Detector.Override
import ContractLint.Proofs.Analysis.Statistics
import ContractLint.Proofs.Report.Reference
import ContractLint.Proofs.CommandLine.Status
import ContractLint.Proofs.Report.Page
import ContractLint.Proofs.Analysis.Return
import ContractLint.Proofs.Flow.Recursion
import ContractLint.Proofs.Scan.Block
import ContractLint.Proofs.Scan.Complexity
import ContractLint.Proofs.Service.LetterCase
import ContractLint.Proofs.Service.Record
import ContractLint.Proofs.Config
import ContractLint.Proofs.Service.Export
import ContractLint.Proofs.Scan.Located
