import EightBit.Main
import EightBit.Machine.Session
import EightBit.Proofs.Step
import EightBit.Proofs.Execution
import EightBit.Proofs.InstructionSet
import EightBit.Proofs.Core
import EightBit.Proofs.Runs
import EightBit.Proofs.Termination
import EightBit.Proofs.History
import EightBit.Proofs.Schedule
import EightBit.Proofs.Atomicity
import EightBit.Proofs.Evaluation
import EightBit.Proofs.Stack
import EightBit.Proofs.Slices
import EightBit.Proofs.SingleRun
import EightBit.Proofs.Lines
import EightBit.Proofs.ImageGrammar
import EightBit.Proofs.Dependence
import EightBit.Proofs.PowerOn
import EightBit.Proofs.Tracing
import EightBit.Proofs.Interrupts
import EightBit.Proofs.StackRange
import EightBit.Proofs.Attempts
import EightBit.Proofs.Records
import EightBit.Proofs.Footprint
import EightBit.Proofs.Decoding
import EightBit.Proofs.Stages
import EightBit.Proofs.Concatenation
import EightBit.Proofs.Layout
import EightBit.Proofs.Disassembly
import EightBit.Proofs.Drains
import EightBit.Proofs.LastWrite
import EightBit.Proofs.FaultReports
import EightBit.Proofs.IntegerArithmetic
import EightBit.Proofs.WellFormedText
import EightBit.Proofs.MarkedBytes
import EightBit.Proofs.Operands
import EightBit.Proofs.TraceLines
