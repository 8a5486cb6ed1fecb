import CollectionTypes.Client.Basic
import CollectionTypes.Client.Duration
import CollectionTypes.Client.Error
import CollectionTypes.Client.Retry
import CollectionTypes.Client.Wire
import CollectionTypes.Collection.Basic
import CollectionTypes.Collection.Document
import CollectionTypes.Collection.Record
import CollectionTypes.CommandLine.Basic
import CollectionTypes.CommandLine.Option
import CollectionTypes.CommandLine.Reader
import CollectionTypes.Config.Basic
import CollectionTypes.Config.Quoted
import CollectionTypes.Config.Tokens
import CollectionTypes.Credentials.Basic
import CollectionTypes.Credentials.Plain
import CollectionTypes.Credentials.Sealed
import CollectionTypes.Directory.Content
import CollectionTypes.Directory.Path
import CollectionTypes.Directory.Tree
import CollectionTypes.EnvFile.Basic
import CollectionTypes.EnvFile.Line
import CollectionTypes.Failure
import CollectionTypes.Generator.Basic
import CollectionTypes.Generator.Symbols
import CollectionTypes.Go.Accessor
import CollectionTypes.Go.Header
import CollectionTypes.Go.Name
import CollectionTypes.Go.Record
import CollectionTypes.Go.Struct
import CollectionTypes.Go.Types
import CollectionTypes.Json.Decoder
import CollectionTypes.Json.Fault
import CollectionTypes.Json.NumberText
import CollectionTypes.Json.Tree
import CollectionTypes.Json.Value
import CollectionTypes.Json.Writer
import CollectionTypes.Log
import CollectionTypes.Main
import CollectionTypes.Naming.Namespace
import CollectionTypes.Naming.Pascal
import CollectionTypes.Number.Double
import CollectionTypes.Number.Shortest
import CollectionTypes.Prompt.Credentials
import CollectionTypes.Prompt.Selection
import CollectionTypes.Prompt.Terminal
import CollectionTypes.Proofs.Client.Address
import CollectionTypes.Proofs.Client.Attempts
import CollectionTypes.Proofs.Client.Course
import CollectionTypes.Proofs.Client.Delays
import CollectionTypes.Proofs.Client.Ending
import CollectionTypes.Proofs.Client.Pages
import CollectionTypes.Proofs.Client.Retries
import CollectionTypes.Proofs.Client.Token
import CollectionTypes.Proofs.Collection.Defaults
import CollectionTypes.Proofs.Collection.Shapes
import CollectionTypes.Proofs.Collection.Stated
import CollectionTypes.Proofs.Collection.Written
import CollectionTypes.Proofs.Credentials.Merged
import CollectionTypes.Proofs.Credentials.Plain
import CollectionTypes.Proofs.Credentials.Sealed
import CollectionTypes.Proofs.Directory.Confined
import CollectionTypes.Proofs.Directory.Tree
import CollectionTypes.Proofs.Generator.Allocation
import CollectionTypes.Proofs.Generator.Alone
import CollectionTypes.Proofs.Generator.Flags
import CollectionTypes.Proofs.Generator.Hidden
import CollectionTypes.Proofs.Generator.Imports
import CollectionTypes.Proofs.Generator.Literals
import CollectionTypes.Proofs.Generator.Options
import CollectionTypes.Proofs.Generator.Outline
import CollectionTypes.Proofs.Generator.Pool
import CollectionTypes.Proofs.Generator.References
import CollectionTypes.Proofs.Generator.Requests
import CollectionTypes.Proofs.Generator.Shapes
import CollectionTypes.Proofs.Generator.Stability
import CollectionTypes.Proofs.Generator.Symbols
import CollectionTypes.Proofs.Generator.TopLevel
import CollectionTypes.Proofs.Generator.TypeSites
import CollectionTypes.Proofs.Generator.Unselected
import CollectionTypes.Proofs.Go.Clause
import CollectionTypes.Proofs.Go.Code
import CollectionTypes.Proofs.Go.Embedding
import CollectionTypes.Proofs.Go.Exported
import CollectionTypes.Proofs.Go.Literals
import CollectionTypes.Proofs.Go.Methods
import CollectionTypes.Proofs.Go.Packages
import CollectionTypes.Proofs.Go.Parameters
import CollectionTypes.Proofs.Go.Quotation
import CollectionTypes.Proofs.Go.Tag
import CollectionTypes.Proofs.Go.Typing
import CollectionTypes.Proofs.Go.Usage
import CollectionTypes.Proofs.Json.Bracketed
import CollectionTypes.Proofs.Json.Congruence
import CollectionTypes.Proofs.Json.Differences
import CollectionTypes.Proofs.Json.Entries
import CollectionTypes.Proofs.Json.Spelled
import CollectionTypes.Proofs.Json.Written
import CollectionTypes.Proofs.Naming.Identifier
import CollectionTypes.Proofs.Naming.Namespace
import CollectionTypes.Proofs.Naming.Settled
import CollectionTypes.Proofs.Naming.Word
import CollectionTypes.Proofs.Prompt.Missing
import CollectionTypes.Proofs.Prompt.Positions
import CollectionTypes.Proofs.Prompt.Selection
import CollectionTypes.Proofs.Property.Diagnostics
import CollectionTypes.Proofs.Property.DistinctEnums
import CollectionTypes.Proofs.Property.Unstated
import CollectionTypes.Proofs.Seal.Authenticated
import CollectionTypes.Proofs.Selection.Names
import CollectionTypes.Proofs.Selection.Warnings
import CollectionTypes.Proofs.Session.Accepted
import CollectionTypes.Proofs.Session.Precedence
import CollectionTypes.Proofs.Session.Runs
import CollectionTypes.Proofs.Session.Saved
import CollectionTypes.Proofs.Session.Whole
import CollectionTypes.Proofs.Text.Base64
import CollectionTypes.Proofs.Text.Decimal
import CollectionTypes.Proofs.Text.Ends
import CollectionTypes.Proofs.Text.Literals
import CollectionTypes.Proofs.Text.Lowercase
import CollectionTypes.Proofs.Text.Pieces
import CollectionTypes.Proofs.Text.Quoted
import CollectionTypes.Proofs.Text.Words
import CollectionTypes.Proofs.TypeScript.Literals
import CollectionTypes.Proofs.TypeScript.Members
import CollectionTypes.Property.Basic
import CollectionTypes.Property.Interpretation
import CollectionTypes.Property.Kind
import CollectionTypes.Seal.Authenticated
import CollectionTypes.Seal.Bytes
import CollectionTypes.Seal.Cipher
import CollectionTypes.Seal.Derivation
import CollectionTypes.Seal.Digest
import CollectionTypes.Selection.Policy
import CollectionTypes.Session.Basic
import CollectionTypes.Session.Collections
import CollectionTypes.Session.Commands
import CollectionTypes.Session.Credentials
import CollectionTypes.Settings
import CollectionTypes.Target
import CollectionTypes.Text.Alphanumeric
import CollectionTypes.Text.Base64
import CollectionTypes.Text.Basic
import CollectionTypes.Text.Cased
import CollectionTypes.Text.Digits
import CollectionTypes.Text.Escaped
import CollectionTypes.Text.Lowercase
import CollectionTypes.Text.Quoted
import CollectionTypes.TypeScript.Declaration
import CollectionTypes.TypeScript.Name
import CollectionTypes.TypeScript.Types
import CollectionTypes.Proofs.Go.Declarations
import CollectionTypes.Proofs.Go.WellTyped
