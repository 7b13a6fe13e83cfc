import ValidatorReader.Log.Setup
import ValidatorReader.Main
import ValidatorReader.Proofs.Abi.Forms
import ValidatorReader.Proofs.Abi.Truncation
import ValidatorReader.Proofs.Address.Coercion
import ValidatorReader.Proofs.CommandLine.ContractOption
import ValidatorReader.Proofs.CommandLine.ContractSource
import ValidatorReader.Proofs.CommandLine.CounterLine
import ValidatorReader.Proofs.CommandLine.Failures
import ValidatorReader.Proofs.CommandLine.JsonOption
import ValidatorReader.Proofs.CommandLine.ValidatorsTable
import ValidatorReader.Proofs.Contract.Canonical
import ValidatorReader.Proofs.Contract.Registered
import ValidatorReader.Proofs.Contract.Registration
import ValidatorReader.Proofs.Contract.Rejections
import ValidatorReader.Proofs.Log.Agreement
import ValidatorReader.Proofs.Log.Backups
import ValidatorReader.Proofs.Log.FailedSetups
import ValidatorReader.Proofs.Log.Line
import ValidatorReader.Proofs.Log.Moves
import ValidatorReader.Proofs.Log.Opening
import ValidatorReader.Proofs.Log.Retention
import ValidatorReader.Proofs.Log.Rotation
import ValidatorReader.Proofs.Log.Setups
import ValidatorReader.Proofs.Log.Shown
import ValidatorReader.Proofs.Log.Ways
import ValidatorReader.Proofs.Node.Reasons
import ValidatorReader.Proofs.Node.Transactions
import ValidatorReader.Proofs.Number.DecimalText
import ValidatorReader.Proofs.Number.Digits
import ValidatorReader.Proofs.Number.Literals
import ValidatorReader.Proofs.Number.Numerals
import ValidatorReader.Proofs.Number.Underflow
import ValidatorReader.Proofs.Settings.Normal
import ValidatorReader.Proofs.Settings.Timeout
import ValidatorReader.Proofs.Terminal.Words
