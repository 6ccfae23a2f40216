import DocQuery.Extension.Operators
import DocQuery.Fixture
import DocQuery.Json.Reader
import DocQuery.Proofs.ArrayRecords
import DocQuery.Proofs.Elements
import DocQuery.Proofs.EqualityArguments
import DocQuery.Proofs.Interchange
import DocQuery.Proofs.Nesting
import DocQuery.Proofs.Sessions
import DocQuery.Proofs.Documents
import DocQuery.Proofs.Absence
import DocQuery.Proofs.Rearranging
import DocQuery.Proofs.Forms
import DocQuery.Proofs.Negation
import DocQuery.Proofs.Paths
import DocQuery.Proofs.Membership
import DocQuery.Proofs.Conversions
import DocQuery.Proofs.Positions
import DocQuery.Proofs.Tracing
import DocQuery.Proofs.Comparisons
import DocQuery.Proofs.Dates
import DocQuery.Proofs.JsonForms
import DocQuery.Proofs.Remainders
import DocQuery.Proofs.Leaves
import DocQuery.Proofs.PlainKeys
