import FlatQuery.Query.Parse
import FlatQuery.Record.OfJson

/-!
# FlatQuery.Session

A run of queries: options that may change on the way, and the queries that have been read so far.
-/

namespace FlatQuery

/-- The options in force and the stored queries, the oldest first. -/
structure Session where
  options : Options := {}
  queries : List Query := []

namespace Session

/-- The session under other options. -/
def configure (s : Session) (options : Options) : Session := { s with options := options }

def get? (s : Session) (index : Nat) : Option Query := s.queries[index]?

def store (s : Session) (q : Query) : Session := { s with queries := s.queries ++ [q] }

/-- Reads a query under the options in force. -/
def parse (s : Session) (t : Text) : Except QueryError Query := Query.parse s.options t

end Session

end FlatQuery
