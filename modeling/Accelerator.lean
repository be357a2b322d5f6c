import Accelerator.Main
import Accelerator.Proofs.EditReports
import Accelerator.Proofs.FailingSinks
import Accelerator.Proofs.Finite
import Accelerator.Proofs.LatticeEvents
import Accelerator.Proofs.ObjectReading
import Accelerator.Proofs.PatternSafety
import Accelerator.Proofs.RecordEquality
import Accelerator.Proofs.ReportExchange
import Accelerator.Proofs.ReportLines
import Accelerator.Proofs.Tables
import Accelerator.Proofs.Texts
import Accelerator.Shape.Replacement
