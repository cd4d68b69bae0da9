import SchemaModels.Json.Reader
import SchemaModels.Model.Generation
import SchemaModels.Settings.Choice
import SchemaModels.Proofs.Script.Scan
import SchemaModels.Proofs.Script.Token
import SchemaModels.Proofs.Naming.TameWords
import SchemaModels.Proofs.Script.Value
import SchemaModels.Proofs.Model.Plain
import SchemaModels.Proofs.ColumnType.TypeText
import SchemaModels.Proofs.Schema.DefaultText
import SchemaModels.Proofs.Model.DefinitionText
import SchemaModels.Proofs.Model.TypedText
import SchemaModels.Proofs.Entries
import SchemaModels.Proofs.Model.ModuleText
import SchemaModels.Proofs.Json.ReadBack
import SchemaModels.Proofs.Schema.ReadBack
import SchemaModels.Proofs.Model.ManagedColumns
import SchemaModels.Proofs.Settings.ReadBack
import SchemaModels.Proofs.Model.ModuleImports
import SchemaModels.Proofs.Model.ColumnViews
import SchemaModels.Proofs.Model.AssociationBlocks
import SchemaModels.Proofs.Model.Drafts
import SchemaModels.Proofs.Model.WrittenNames
import SchemaModels.Proofs.ColumnType.MemberFamilies
import SchemaModels.Proofs.Model.KeyUnions
import SchemaModels.Proofs.Model.Engines
import SchemaModels.Proofs.Text.Indentation
import SchemaModels.Proofs.Model.Layout
import SchemaModels.Proofs.Model.Composition
import SchemaModels.Proofs.Model.Diagnostics
import SchemaModels.Proofs.Naming.InflectionFailures
import SchemaModels.Proofs.Model.Failures
import SchemaModels.Proofs.Schema.DefaultMeaning
import SchemaModels.Proofs.Model.ObjectKeys
import SchemaModels.Proofs.Model.PropertyKeys
import SchemaModels.Proofs.Model.RepeatedKeys
import SchemaModels.Proofs.Model.OwnFile
import SchemaModels.Proofs.Script.QuoteScan
import SchemaModels.Proofs.Schema.DefaultSafety
import SchemaModels.Proofs.Schema.DefaultReadings
import SchemaModels.Proofs.Schema.CurrentTime
import SchemaModels.Proofs.Schema.ArrayDefaults
import SchemaModels.Proofs.ColumnType.EnumTypes
import SchemaModels.Proofs.Script.TypeExpression
import SchemaModels.Proofs.ColumnType.ElementTypes
import SchemaModels.Proofs.ColumnType.NumberWords
import SchemaModels.Proofs.ColumnType.DeclaredLengths
import SchemaModels.Proofs.Model.MixinImports
import SchemaModels.Proofs.Naming.EndingShapes
import SchemaModels.Proofs.Naming.WordChanges
import SchemaModels.Proofs.Naming.OneForm
import SchemaModels.Proofs.Model.AccessorNames
import SchemaModels.Proofs.Model.DueAttributes
import SchemaModels.Proofs.Model.CountingColumns
import SchemaModels.Proofs.Model.BlockShape
import SchemaModels.Proofs.Text.ReadsOff
import SchemaModels.Proofs.Model.IndexText
import SchemaModels.Proofs.Schema.RepeatedColumns
import SchemaModels.Proofs.Model.SharedOptions
import SchemaModels.Proofs.Naming.StyledIdentifiers
import SchemaModels.Proofs.Model.ClassNames
import SchemaModels.Proofs.Script.Encoding
import SchemaModels.Proofs.Schema.RedundantBrackets
