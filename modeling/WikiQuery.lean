import WikiQuery.Main
import WikiQuery.Proofs.Domain
import WikiQuery.Proofs.Gathering
import WikiQuery.Proofs.OpenReferences
import WikiQuery.Proofs.Verdict
import WikiQuery.Proofs.Lowering
import WikiQuery.Proofs.Rendering
import WikiQuery.Proofs.Sorting
import WikiQuery.Proofs.TableLayout
import WikiQuery.Proofs.AllowList
import WikiQuery.Proofs.Ending
import WikiQuery.Proofs.ExactTitle
import WikiQuery.Proofs.KeyText
import WikiQuery.Proofs.Selection
import WikiQuery.Proofs.Capitals
import WikiQuery.Proofs.KeyForm
import WikiQuery.Proofs.CachedResults
import WikiQuery.Proofs.FlagReplay
import WikiQuery.Proofs.Richness
import WikiQuery.Proofs.StoredKeys
import WikiQuery.Proofs.TitleOrder
import WikiQuery.Proofs.Ampersand
import WikiQuery.Proofs.CategoryLine
import WikiQuery.Proofs.Descent
import WikiQuery.Proofs.TagRemoval
import WikiQuery.Proofs.TitleText
import WikiQuery.Proofs.MainTitle
import WikiQuery.Proofs.TitleLength
import WikiQuery.Proofs.Decimal
import WikiQuery.Proofs.PaddedDigits
import WikiQuery.Proofs.ProperTime
import WikiQuery.Proofs.ResultCount
import WikiQuery.Proofs.TimeReading
import WikiQuery.Proofs.TableSeparators
import WikiQuery.Proofs.TimeStamp
import WikiQuery.Proofs.NamespaceCase
import WikiQuery.Proofs.PageNames
import WikiQuery.Proofs.TitleBounds
import WikiQuery.Proofs.CategoryRange
import WikiQuery.Proofs.Lines
import WikiQuery.Proofs.Verbosity
import WikiQuery.Proofs.TableIndex
import WikiQuery.Proofs.CategoryTerms
