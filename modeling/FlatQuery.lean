import FlatQuery.Json.Write
import FlatQuery.Proofs.Outcome
import FlatQuery.Proofs.Standing
import FlatQuery.Query.Event
import FlatQuery.Record.OfText
import FlatQuery.Session
import FlatQuery.Proofs.Pieces
import FlatQuery.Proofs.Survey
import FlatQuery.Proofs.Condition
import FlatQuery.Proofs.Entries
import FlatQuery.Proofs.Aggregate
import FlatQuery.Proofs.Splitting
import FlatQuery.Proofs.Tidy
import FlatQuery.Proofs.Bodies
import FlatQuery.Proofs.Draft
import FlatQuery.Proofs.Joined
import FlatQuery.Proofs.Canonical
import FlatQuery.Proofs.Selection
import FlatQuery.Proofs.Grammar
import FlatQuery.Proofs.JsonText
import FlatQuery.Proofs.Restoring
import FlatQuery.Proofs.HandOff
import FlatQuery.Proofs.Assembly
import FlatQuery.Proofs.Tiling
import FlatQuery.Proofs.Unquoting
import FlatQuery.Proofs.QuotedValues
import FlatQuery.Proofs.BaseQuery
import FlatQuery.Proofs.Lead
import FlatQuery.Proofs.Repetition
import FlatQuery.Proofs.Alike
import FlatQuery.Proofs.Restyling
import FlatQuery.Proofs.Locating
import FlatQuery.Proofs.Admission
import FlatQuery.Proofs.StoredLists
import FlatQuery.Proofs.Foremost
import FlatQuery.Proofs.Sides
import FlatQuery.Proofs.Division
import FlatQuery.Proofs.Opening
import FlatQuery.Proofs.CallPattern
import FlatQuery.Proofs.Matching
import FlatQuery.Proofs.Filing
