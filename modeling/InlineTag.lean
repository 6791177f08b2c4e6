import InlineTag.Main
import InlineTag.Store
import InlineTag.Proofs.Markers
import InlineTag.Proofs.Outlines
import InlineTag.Proofs.Trimming
import InlineTag.Proofs.Lookups
import InlineTag.Proofs.Reading
import InlineTag.Proofs.Spelling
import InlineTag.Proofs.Placeholders
import InlineTag.Proofs.Validity
import InlineTag.Proofs.Configured
import InlineTag.Proofs.ConfigRendering
import InlineTag.Proofs.DeclaredAttributes
import InlineTag.Proofs.UsableNames
import InlineTag.Proofs.NamesInLines
import InlineTag.Proofs.DistinctKeys
import InlineTag.Proofs.TableReading
import InlineTag.Proofs.DocumentShape
import InlineTag.Proofs.SharedLock
import InlineTag.Proofs.SharedCalls
import InlineTag.Proofs.ByteOrder
import InlineTag.Proofs.Registrations
import InlineTag.Proofs.StoreRuns
import InlineTag.Service
import InlineTag.Proofs.Pipelines
import InlineTag.Proofs.Services
import InlineTag.Proofs.QuotedTexts
import InlineTag.Proofs.WrittenStrings
import InlineTag.Proofs.Displays
import InlineTag.Proofs.Substitution
import InlineTag.Proofs.ConfigSources
import InlineTag.Proofs.DataPairs
import InlineTag.Proofs.TypeRows
import InlineTag.Proofs.VerboseOption
import InlineTag.Proofs.LogLevels
import InlineTag.Proofs.Endings
import InlineTag.Proofs.Seams
import InlineTag.Proofs.TrailingAttributes
import InlineTag.Proofs.Spacing
import InlineTag.Proofs.DataHint
import InlineTag.Proofs.KeptText
import InlineTag.Proofs.Vocabulary
import InlineTag.Proofs.DocumentOrder
import InlineTag.Proofs.FirstFault
import InlineTag.Proofs.DataBags
import InlineTag.Proofs.Ascents
import InlineTag.Proofs.AddedFiles
import InlineTag.Proofs.NearestConfig
import InlineTag.Proofs.Notices
import InlineTag.Proofs.MarkerSpans
import InlineTag.Proofs.TypeColumns
import InlineTag.Proofs.PassedRequests
