import TestScribe.Locate.Candidate
import TestScribe.Text.CaseTable
import TestScribe.Text.CasedTable
import TestScribe.Text.GraphemeExtendTable
import TestScribe.Text.Hexadecimal
import TestScribe.Text.LetterCase
import TestScribe.Text.Quoted
import TestScribe.Text.Utf8
import TestScribe.Locate.FunctionRecord
import TestScribe.Locate.LanguageTag
import TestScribe.Locate.Registry
import TestScribe.Json.Printer
import TestScribe.Json.Reader
import TestScribe.Locate.FunctionRecordJson
import TestScribe.Path.Components
import TestScribe.Path.FileName
import TestScribe.Path.Language
import TestScribe.Path.TestFile
import TestScribe.Skeleton.Framework
import TestScribe.Skeleton.Template
import TestScribe.Toml.Document
import TestScribe.Configuration.Settings
import TestScribe.Configuration.SettingsJson
import TestScribe.Configuration.SettingsToml
import TestScribe.Workspace.Access
import TestScribe.Backend.Client
import TestScribe.Backend.Url
import TestScribe.CommandLine.Arguments
import TestScribe.CommandLine.Run
import TestScribe.Backend.Wire
import TestScribe.Main
import TestScribe.Proofs.Source.Lines
import TestScribe.Proofs.Locate.BlockEnd
import TestScribe.Proofs.Locate.Extract
import TestScribe.Proofs.Locate.Excerpt
import TestScribe.Proofs.Locate.Innermost
import TestScribe.Proofs.Header.Reading
import TestScribe.Proofs.Header.Definition
import TestScribe.Proofs.Locate.Nesting
import TestScribe.Proofs.Header.Heading
import TestScribe.Proofs.Header.FunctionHeading
import TestScribe.Proofs.Header.MethodHeading
import TestScribe.Proofs.Header.DefinitionHeading
import TestScribe.Proofs.Locate.Written
import TestScribe.Proofs.Locate.BraceNesting
import TestScribe.Proofs.Locate.Surroundings
import TestScribe.Proofs.Header.Grammar
import TestScribe.Proofs.Header.DeclarationGrammar
import TestScribe.Proofs.Workspace.FileTree
import TestScribe.Proofs.Workspace.Segments
import TestScribe.Proofs.Workspace.Way
import TestScribe.Proofs.Workspace.Writable
import TestScribe.Proofs.Path.Parts
import TestScribe.Proofs.Path.Parent
import TestScribe.Proofs.Path.TestFile
import TestScribe.Proofs.Path.Place
import TestScribe.Proofs.Skeleton.ImportedModule
import TestScribe.Proofs.Session.Generate
import TestScribe.Proofs.Session.FileHistory
import TestScribe.Proofs.Locate.Registry
import TestScribe.Proofs.Locate.RegistryHistory
import TestScribe.Proofs.Backend.Client
import TestScribe.Proofs.Configuration.Settings
import TestScribe.Proofs.Configuration.EndpointUrl
import TestScribe.Proofs.Session.Fallback
import TestScribe.Proofs.Configuration.Layers
import TestScribe.Proofs.Session.ResolvedSettings
import TestScribe.Proofs.Locate.Positions
import TestScribe.Proofs.Header.Signature
import TestScribe.Proofs.Header.Occurrence
import TestScribe.Proofs.Header.Parentheses
import TestScribe.Proofs.Header.ControlStatement
import TestScribe.Proofs.Header.ClassMethod
import TestScribe.Proofs.Header.CallBeforeColon
import TestScribe.Proofs.Header.TypedMethod
import TestScribe.Proofs.Header.Constructor
import TestScribe.Proofs.Header.GenericType
import TestScribe.Proofs.Locate.Clean
import TestScribe.Proofs.Locate.InsertedLine
import TestScribe.Proofs.Locate.BlankLine
import TestScribe.Proofs.Locate.MatchingBrace
import TestScribe.Proofs.Json.Literal
import TestScribe.Proofs.Json.Number
import TestScribe.Proofs.Json.Reading
import TestScribe.Proofs.Json.Printing
import TestScribe.Proofs.Locate.FunctionRecordJson
import TestScribe.Proofs.Lookup
import TestScribe.Proofs.Text.Utf8
import TestScribe.Proofs.Json.Accepted
import TestScribe.Proofs.Header.DefinitionGrammar
import TestScribe.Proofs.Backend.Answer
import TestScribe.Proofs.Backend.Payload
import TestScribe.Proofs.Locate.RecordLayout
