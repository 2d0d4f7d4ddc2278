import ClassMold.Main
import ClassMold.Files.Tree
import ClassMold.Settings.Session
import ClassMold.Showcase
import ClassMold.Proofs.Inference.CustomTypes
import ClassMold.Proofs.Inference.Refusals
import ClassMold.Proofs.Inference.Likeness
import ClassMold.Proofs.Inference.ClassScopes
import ClassMold.Proofs.Inference.Outlines
import ClassMold.Proofs.Inference.BuildLog
import ClassMold.Proofs.Inference.RepeatedKeys
import ClassMold.Proofs.Naming.Alphabet
import ClassMold.Proofs.Naming.FieldNames
import ClassMold.Proofs.Naming.SharedNames
import ClassMold.Proofs.Naming.WordNames
import ClassMold.Proofs.Naming.NormalNames
import ClassMold.Proofs.Naming.PluralNames
import ClassMold.Proofs.Settings.Flags
import ClassMold.Proofs.Source.Parts
import ClassMold.Proofs.Source.Legibility
import ClassMold.Proofs.Source.Layout
import ClassMold.Proofs.Source.UniqueReading
import ClassMold.Proofs.Source.StandAlone
import ClassMold.Proofs.Source.Members
import ClassMold.Proofs.Source.Signatures
import ClassMold.Proofs.Source.FinalFields
import ClassMold.Proofs.Source.ConstructorSignatures
import ClassMold.Proofs.Source.DeclaredOnce
import ClassMold.Proofs.Source.FieldTypes
import ClassMold.Proofs.Source.FinalMethods
import ClassMold.Proofs.Source.AddedAccessors
import ClassMold.Proofs.Source.PrintableSources
import ClassMold.Proofs.Text.Printable
import ClassMold.Proofs.Text.Bytes
import ClassMold.Proofs.Files.Paths
import ClassMold.Proofs.Files.Growth
import ClassMold.Proofs.Files.Staging
import ClassMold.Proofs.Files.Generated
import ClassMold.Proofs.Files.Room
import ClassMold.Proofs.Sample.JsonKinds
import ClassMold.Proofs.Sample.Spelling
import ClassMold.Proofs.Sample.Numerals
import ClassMold.Proofs.Sample.Reading
import ClassMold.Proofs.Sample.Values
import ClassMold.Proofs.Sample.RoundTrip
import ClassMold.Proofs.Sample.NumberForms
import ClassMold.Proofs.Sample.LastMembers
import ClassMold.Proofs.Sample.Documents
import ClassMold.Proofs.Sample.LineEnds
import ClassMold.Proofs.Settings.Accepted
import ClassMold.Proofs.Settings.Reports
import ClassMold.Proofs.Settings.Requirements
import ClassMold.Proofs.Settings.Verdicts
import ClassMold.Proofs.Settings.PublishedSchema
import ClassMold.Proofs.Settings.WrittenBack
import ClassMold.Proofs.Settings.Assignments
import ClassMold.Proofs.Command.Seen
import ClassMold.Proofs.Command.Wording
import ClassMold.Proofs.Command.Views
import ClassMold.Proofs.Command.AllOrNothing
import ClassMold.Proofs.Command.PrintedAsWritten
import ClassMold.Proofs.Command.ConfigAsFlags
import ClassMold.Proofs.Command.Endings
import ClassMold.Proofs.Command.Inspected
import ClassMold.Proofs.Command.ShownSources
