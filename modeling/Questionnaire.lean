import Questionnaire.Main
import Questionnaire.Proofs.Answer.Blank
import Questionnaire.Proofs.Answer.RoundTrip
import Questionnaire.Proofs.Route.Interview
import Questionnaire.Proofs.Route.Leads
import Questionnaire.Proofs.Route.Past
import Questionnaire.Proofs.Survey.RoundTrip
import Questionnaire.Proofs.Table.Covered
import Questionnaire.Proofs.Visibility.FillingIn
import Questionnaire.Proofs.Visibility.Groups
import Questionnaire.Proofs.Lint.Checks
import Questionnaire.Proofs.Route.Dangling
import Questionnaire.Proofs.Visibility.Views
import Questionnaire.Proofs.CommandLine.Files
import Questionnaire.Proofs.CommandLine.Next
import Questionnaire.Proofs.Table.Hits
import Questionnaire.Proofs.Table.Combinators
import Questionnaire.Proofs.Table.Exclusive
import Questionnaire.Proofs.Visibility.Policy
import Questionnaire.Proofs.Lint.Cycles
import Questionnaire.Proofs.Condition.Guards
import Questionnaire.Proofs.Table.NearestCover
import Questionnaire.Proofs.Table.Expansion
import Questionnaire.Proofs.Answer.Classified
