import PredicateSql.Text.Printable
import PredicateSql.Text.Quoted
import PredicateSql.Sql.Identifier
import PredicateSql.Yaml.Error
import PredicateSql.Error
import PredicateSql.Operator
import PredicateSql.KeyType
import PredicateSql.Text.Blank
import PredicateSql.Text.Hex
import PredicateSql.Decimal.Shortest
import PredicateSql.Decimal.Text
import PredicateSql.Decimal.Read
import PredicateSql.Time
import PredicateSql.Value
import PredicateSql.Params
import PredicateSql.Record
import PredicateSql.Entity
import PredicateSql.Property
import PredicateSql.Predicate
import PredicateSql.Predicate.Build
import PredicateSql.Mapping
import PredicateSql.Mapping.Auto
import PredicateSql.Mapping.Builder
import PredicateSql.Sql.Render
import PredicateSql.Registry
import PredicateSql.Text.Bytes
import PredicateSql.Text.Case
import PredicateSql.Value.Literal
import PredicateSql.Yaml.Token
import PredicateSql.Yaml.Reader
import PredicateSql.Yaml.Scanner
import PredicateSql.Yaml.Resolve
import PredicateSql.Yaml.Node
import PredicateSql.Yaml.Parser
import PredicateSql.Yaml.Decode
import PredicateSql.Load.Mappings
import PredicateSql.Load.Predicate
import PredicateSql.Load.Schema
import PredicateSql.Cli.Json
import PredicateSql.Cli.Flags
import PredicateSql.Cli.Help
import PredicateSql.Cli.Complete
import PredicateSql.Cli.ShellScript
import PredicateSql.Cli.Command
import PredicateSql.Main
import PredicateSql.Proofs.Pass
import PredicateSql.Proofs.Walk
import PredicateSql.Proofs.Skeleton
import PredicateSql.Proofs.Layout
import PredicateSql.Proofs.Statement
import PredicateSql.Proofs.Denotation
import PredicateSql.Proofs.Meaning
import PredicateSql.Proofs.Numbering
import PredicateSql.Proofs.Registration
import PredicateSql.Proofs.WriteOnce
import PredicateSql.Proofs.AutoMapping
import PredicateSql.Proofs.AutoMapRules
import PredicateSql.Proofs.WellFormed
import PredicateSql.Proofs.MintedNames
import PredicateSql.Proofs.Assembly
import PredicateSql.Proofs.Documents
import PredicateSql.Proofs.Constructed
import PredicateSql.Proofs.Quoting
import PredicateSql.Proofs.Sink
import PredicateSql.Proofs.Validation
import PredicateSql.Proofs.Fluent
import PredicateSql.Proofs.SchemaImport
import PredicateSql.Proofs.Accessors
import PredicateSql.Proofs.SortTerms
