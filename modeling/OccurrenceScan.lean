import OccurrenceScan.Bindings.Charmaps
import OccurrenceScan.Bindings.Charset
import OccurrenceScan.Bindings.Charset.Big5
import OccurrenceScan.Bindings.Charset.Cp932
import OccurrenceScan.Bindings.Charset.Cp950
import OccurrenceScan.Bindings.Charset.Gb18030
import OccurrenceScan.Bindings.Charset.Gb2312
import OccurrenceScan.Bindings.Charset.Gbk
import OccurrenceScan.Bindings.Charset.Hkscs
import OccurrenceScan.Bindings.Charset.Jis0208
import OccurrenceScan.Bindings.Charset.Jis0212
import OccurrenceScan.Bindings.Charset.Jis0213
import OccurrenceScan.Bindings.Charset.Ksx1001
import OccurrenceScan.Bindings.Charset.Uhc
import OccurrenceScan.Bindings.Codec
import OccurrenceScan.Bindings.Decoding
import OccurrenceScan.Bindings.Escapes
import OccurrenceScan.Bindings.Identifier
import OccurrenceScan.Bindings.Multibyte
import OccurrenceScan.Bindings.Multibyte.Chinese
import OccurrenceScan.Bindings.Multibyte.Codecs
import OccurrenceScan.Bindings.Multibyte.Iso2022
import OccurrenceScan.Bindings.Multibyte.Japanese
import OccurrenceScan.Bindings.Multibyte.Korean
import OccurrenceScan.Bindings.Punycode
import OccurrenceScan.Bindings.Source
import OccurrenceScan.Bindings.Tokens
import OccurrenceScan.Cli.Args
import OccurrenceScan.Cli.ExitCode
import OccurrenceScan.Cli.Result
import OccurrenceScan.Cli.Run
import OccurrenceScan.Config.Load
import OccurrenceScan.Config.Payload
import OccurrenceScan.Config.Settings
import OccurrenceScan.Config.Toml.Document
import OccurrenceScan.Config.Toml.Lexeme
import OccurrenceScan.Config.Toml.Marks
import OccurrenceScan.Config.Toml.Value
import OccurrenceScan.FileSystem
import OccurrenceScan.Index.Basic
import OccurrenceScan.Index.Decode
import OccurrenceScan.Index.Encode
import OccurrenceScan.Index.Read
import OccurrenceScan.Log
import OccurrenceScan.Main
import OccurrenceScan.Path
import OccurrenceScan.Range
import OccurrenceScan.Report
import OccurrenceScan.Scan
import OccurrenceScan.Suffix
import OccurrenceScan.Text.Blank
import OccurrenceScan.Text.Cells
import OccurrenceScan.Text.Console
import OccurrenceScan.Text.Emoji
import OccurrenceScan.Text.EmojiNames
import OccurrenceScan.Text.JsonString
import OccurrenceScan.Text.Literal
import OccurrenceScan.Text.Numeral
import OccurrenceScan.Text.Printable
import OccurrenceScan.Text.Utf8
import OccurrenceScan.Wire.Field
import OccurrenceScan.Wire.Varint
import OccurrenceScan.Workspace
import OccurrenceScan.Proofs.ScanReport
import OccurrenceScan.Proofs.Utf8
import OccurrenceScan.Proofs.Wire
import OccurrenceScan.Proofs.RoundTrip
import OccurrenceScan.Proofs.WireGrammar
import OccurrenceScan.Proofs.WellFormed
import OccurrenceScan.Proofs.Merge
import OccurrenceScan.Proofs.UnknownFields
import OccurrenceScan.Proofs.StringFields
import OccurrenceScan.Proofs.RangeValues
import OccurrenceScan.Proofs.FileWrites
import OccurrenceScan.Proofs.ReadOnlyRuns
import OccurrenceScan.Proofs.ScanStages
import OccurrenceScan.Proofs.RangeDisplay
import OccurrenceScan.Proofs.SuffixSets
import OccurrenceScan.Proofs.JsonValue
import OccurrenceScan.Proofs.JsonText
import OccurrenceScan.Proofs.JsonLines
import OccurrenceScan.Proofs.PayloadSplit
import OccurrenceScan.Proofs.SettingsTable
import OccurrenceScan.Proofs.SettingsDiscovery
import OccurrenceScan.Proofs.TextLines
import OccurrenceScan.Proofs.PathNormalForm
import OccurrenceScan.Proofs.QuotedLiterals
import OccurrenceScan.Proofs.LoadFailures
