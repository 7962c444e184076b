import SwiftConnections.Config.Save
import SwiftConnections.Main
import SwiftConnections.Proofs.Http.QuotedValue
import SwiftConnections.Proofs.Http.RuleStrings
import SwiftConnections.Proofs.Text.Lines
import SwiftConnections.Proofs.Text.Occurrence
import SwiftConnections.Proofs.Http.OptionLines
import SwiftConnections.Proofs.Http.TypedReading
import SwiftConnections.Proofs.Http.BindingSource
import SwiftConnections.Proofs.Swift.Layout
import SwiftConnections.Proofs.Connections.Coverage
import SwiftConnections.Proofs.Plugin.OutputNames
import SwiftConnections.Proofs.Proto.RuleFields
import SwiftConnections.Proofs.Http.OptionReading
import SwiftConnections.Proofs.Except
import SwiftConnections.Proofs.Proto.TypeLookup
import SwiftConnections.Proofs.Plugin.Generation
import SwiftConnections.Proofs.Proto.WireReading
import SwiftConnections.Proofs.Plugin.ResponseReading
import SwiftConnections.Proofs.Plugin.SinkTurns
import SwiftConnections.Proofs.Plugin.Delivery
import SwiftConnections.Proofs.Text.Pieces
import SwiftConnections.Proofs.Swift.Composition
import SwiftConnections.Proofs.Swift.StringLiteral
import SwiftConnections.Proofs.Http.PathText
import SwiftConnections.Proofs.Connections.RestPath
import SwiftConnections.Proofs.Identifiers
import SwiftConnections.Proofs.Swift.TypeNames
import SwiftConnections.Proofs.Plugin.PlainNames
import SwiftConnections.Proofs.Proto.TypeOrder
import SwiftConnections.Proofs.Plugin.FileOrder
import SwiftConnections.Proofs.Config.ParameterMeaning
import SwiftConnections.Proofs.Plugin.UnknownTypes
import SwiftConnections.Proofs.Connections.MethodCode
import SwiftConnections.Proofs.Connections.NativeFunctions
import SwiftConnections.Proofs.Connections.DeclaredNames
import SwiftConnections.Proofs.Proto.SentRequest
import SwiftConnections.Proofs.Proto.RequestReading
import SwiftConnections.Proofs.Plugin.LeastNumber
import SwiftConnections.Proofs.Plugin.Numbering
import SwiftConnections.Proofs.Toml.QuotedReading
import SwiftConnections.Proofs.Toml.DocumentReading
import SwiftConnections.Proofs.Config.SavedConfig
import SwiftConnections.Proofs.Swift.Tidying
import SwiftConnections.Proofs.Connections.FileParts
import SwiftConnections.Proofs.Plugin.PathScan
import SwiftConnections.Proofs.Proto.TypeHistory
import SwiftConnections.Proofs.Proto.ModelBuilding
import SwiftConnections.Proofs.Swift.LimitedRoom
import SwiftConnections.Proofs.Swift.Reindenting
import SwiftConnections.Proofs.Connections.CodeLevels
import SwiftConnections.Proofs.Connections.MockLists
import SwiftConnections.Proofs.Connections.RestBodies
import SwiftConnections.Proofs.Http.PathPieces
import SwiftConnections.Proofs.Swift.IndentLevel
import SwiftConnections.Proofs.Swift.TidyForm
import SwiftConnections.Proofs.CamelCase
import SwiftConnections.Proofs.Config.PrintedParameter
import SwiftConnections.Proofs.WordCuts
import SwiftConnections.Proofs.JsonText
import SwiftConnections.Proofs.Proto.ModelDump
