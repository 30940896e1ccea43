import EcmaEdition.Main
import EcmaEdition.Proofs.Analysis.Sequence
import EcmaEdition.Proofs.Command.Independence
import EcmaEdition.Proofs.Command.Item
import EcmaEdition.Proofs.Command.Outcome
import EcmaEdition.Proofs.Command.Warning
import EcmaEdition.Proofs.Detection.Comment
import EcmaEdition.Proofs.Detection.Constructor
import EcmaEdition.Proofs.Detection.Element
import EcmaEdition.Proofs.Detection.Enclosure
import EcmaEdition.Proofs.Detection.Escape
import EcmaEdition.Proofs.Detection.Member
import EcmaEdition.Proofs.Detection.MethodName
import EcmaEdition.Proofs.Detection.Options
import EcmaEdition.Proofs.Detection.Renaming
import EcmaEdition.Proofs.Detection.Session
import EcmaEdition.Proofs.Detection.Template
import EcmaEdition.Proofs.Edition.Numeral
import EcmaEdition.Proofs.Feature.Recency
import EcmaEdition.Proofs.Report.Document
import EcmaEdition.Proofs.Report.Listing
import EcmaEdition.Proofs.Text.Parts
