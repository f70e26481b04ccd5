import TypedText.Ascii
import TypedText.Capitalization
import TypedText.Capitalize
import TypedText.CaseMapper
import TypedText.Character
import TypedText.CommaList
import TypedText.CommandLine.Arguments
import TypedText.CommandLine.Footprint
import TypedText.CommandLine.Request
import TypedText.CommandLine.Run
import TypedText.Config.File
import TypedText.Config.Settings
import TypedText.Console.Markup
import TypedText.Console.Screen
import TypedText.Double
import TypedText.Double.Shortest
import TypedText.Editing
import TypedText.FileTree
import TypedText.Hex
import TypedText.Listing
import TypedText.Log
import TypedText.Main
import TypedText.Path
import TypedText.Separators
import TypedText.Suggestions
import TypedText.System
import TypedText.Text
import TypedText.Text.Buffer
import TypedText.Text.CodePoints
import TypedText.Text.Position
import TypedText.Text.Quoted
import TypedText.Text.Reading
import TypedText.TextError
import TypedText.TrailingContext
import TypedText.Unicode.CaseIgnorable
import TypedText.Unicode.CaseMappings
import TypedText.Unicode.CasedLetters
import TypedText.Unicode.Casing
import TypedText.Unicode.Letters
import TypedText.Unicode.Printable
import TypedText.Unicode.Run
import TypedText.Unicode.Spaces
import TypedText.Utf8
import TypedText.Value
import TypedText.Value.Merge
import TypedText.Value.Schema
import TypedText.Yaml.Cursor
import TypedText.Yaml.Document
import TypedText.Yaml.Lexer
import TypedText.Yaml.Loader
import TypedText.Yaml.Node
import TypedText.Yaml.Scalar
import TypedText.Yaml.Tag
import TypedText.Yaml.Token
import TypedText.Proofs.Text.Encoding
import TypedText.Proofs.Text.Spans
import TypedText.Proofs.Text.Unpaired
import TypedText.Proofs.Text.Moves
import TypedText.Proofs.Text.Whole
import TypedText.Proofs.Text.Shortcuts
import TypedText.Proofs.Text.Cuts
import TypedText.Proofs.Text.Boundaries
import TypedText.Proofs.Text.Backward
import TypedText.Proofs.Unicode.CaseForms
import TypedText.Proofs.Capitalize
import TypedText.Proofs.CaseCalls
import TypedText.Proofs.Scans
import TypedText.Proofs.Representation
import TypedText.Proofs.Separators
import TypedText.Proofs.Unicode.FixedForms
import TypedText.Proofs.Unicode.RepeatedForms
import TypedText.Proofs.Capitalization
import TypedText.Proofs.CaseContext
import TypedText.Proofs.TurkicCase
import TypedText.Proofs.Words
import TypedText.Proofs.SimpleCase
import TypedText.Proofs.WordStarts
import TypedText.Proofs.RepeatedCase
import TypedText.Proofs.WholeTextCase
import TypedText.Proofs.Editing
import TypedText.Proofs.TrailingUrl
import TypedText.Proofs.TrailingQuote
import TypedText.Proofs.UrlReach
import TypedText.Proofs.TrailingReach
import TypedText.Proofs.CommaValues
import TypedText.Proofs.CommaEdits
import TypedText.Proofs.Text.Buffer
import TypedText.Proofs.Text.Copying
import TypedText.Proofs.FileTree
import TypedText.Proofs.System
import TypedText.Proofs.Utf8
import TypedText.Proofs.Value.Merge
import TypedText.Proofs.Value.Layers
import TypedText.Proofs.Value.Schema
import TypedText.Proofs.Value.SchemaPlaces
import TypedText.Proofs.Yaml.Values
import TypedText.Proofs.Config.Settings
import TypedText.Proofs.Config.Reading
import TypedText.Proofs.Config.Loading
import TypedText.Proofs.CommandLine.Separators
import TypedText.Proofs.Typing
import TypedText.Proofs.Classification
import TypedText.Proofs.Config.Writing
import TypedText.Proofs.CommaRemovals
import TypedText.Proofs.Text.NullTerminated
import TypedText.Proofs.LowerCopy
import TypedText.Proofs.Hex
import TypedText.Proofs.Console.Verbatim
import TypedText.Proofs.Console.Tags
import TypedText.Proofs.SeparatorOrder
import TypedText.Proofs.Suggestions
import TypedText.Proofs.CommandLine.InitConfig
