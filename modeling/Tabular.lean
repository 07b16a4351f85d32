import Tabular.Main
import Tabular.Proofs.CacheCoherence
import Tabular.Proofs.ClauseForm
import Tabular.Proofs.CombinatorForms
import Tabular.Proofs.DatabaseNames
import Tabular.Proofs.Deadlines
import Tabular.Proofs.EmbeddedOperators
import Tabular.Proofs.ExactIntegers
import Tabular.Proofs.FilterMeaning
import Tabular.Proofs.FilterRoundTrip
import Tabular.Proofs.InsertionText
import Tabular.Proofs.KeyTexts
import Tabular.Proofs.LatestError
import Tabular.Proofs.ParameterBinding
import Tabular.Proofs.RepeatedNames
import Tabular.Proofs.RequestOffences
import Tabular.Proofs.RequestStages
import Tabular.Proofs.RowIteration
import Tabular.Proofs.RowRequests
import Tabular.Proofs.SchemaWords
import Tabular.Proofs.SettingSources
import Tabular.Proofs.StatementColumns
import Tabular.Proofs.StatementForm
import Tabular.Proofs.TableListing
