import Criteria.Session
import Criteria.Value.Numeral
import Criteria.Proofs.Accounts
import Criteria.Proofs.Alternatives
import Criteria.Proofs.Arrival
import Criteria.Proofs.Boosts
import Criteria.Proofs.Compositional
import Criteria.Proofs.DisplayedNames
import Criteria.Proofs.Distances
import Criteria.Proofs.Escaping
import Criteria.Proofs.FieldKeys
import Criteria.Proofs.FieldNames
import Criteria.Proofs.Folding
import Criteria.Proofs.Intake
import Criteria.Proofs.Layout
import Criteria.Proofs.Lenient
import Criteria.Proofs.Meaning
import Criteria.Proofs.Opposites
import Criteria.Proofs.PositiveBoosts
import Criteria.Proofs.Registering
import Criteria.Proofs.Renaming
import Criteria.Proofs.Strictness
import Criteria.Proofs.Views
