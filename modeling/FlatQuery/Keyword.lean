import FlatQuery.Word

/-!
# FlatQuery.Keyword

The seven keywords of the query language.

* `Keyword.word_name` — the spelling that is looked for and the name that is shown are one word.
-/

namespace FlatQuery

/-- The keywords.  `source` is written `from`, and `filter` is written `where`. -/
inductive Keyword where
  | select
  | source
  | filter
  | groupBy
  | orderBy
  | and
  | or
deriving DecidableEq

namespace Keyword

def all : List Keyword := [select, source, filter, groupBy, orderBy, and, or]

/-- The clauses that may follow the source, in the order in which they are written. -/
def optionalClauses : List Keyword := [filter, groupBy, orderBy]

/-- The keywords that join conditions. -/
def connectives : List Keyword := [and, or]

@[simp] theorem mem_optionalClauses_iff {k : Keyword} :
    k ∈ optionalClauses ↔ k = filter ∨ k = groupBy ∨ k = orderBy := by
  simp [optionalClauses]

@[simp] theorem mem_connectives_iff {k : Keyword} : k ∈ connectives ↔ k = and ∨ k = or := by
  simp [connectives]

/-- The keyword as messages show it. -/
def name : Keyword → Text
  | select => "select".toList
  | source => "from".toList
  | filter => "where".toList
  | groupBy => "group by".toList
  | orderBy => "order by".toList
  | and => "and".toList
  | or => "or".toList

/-- The letters of the keyword, in upper case. -/
def letters : Keyword → Text
  | select => "SELECT".toList
  | source => "FROM".toList
  | filter => "WHERE".toList
  | groupBy => "GROUP BY".toList
  | orderBy => "ORDER BY".toList
  | and => "AND".toList
  | or => "OR".toList

/-- The keyword as a word to look for. -/
def word (k : Keyword) : Word := ⟨k.letters⟩

/-- A keyword is looked for by its name. -/
@[simp] theorem word_name (k : Keyword) : Word.ofText k.name = k.word := by
  cases k <;> decide

@[simp] theorem text_word (k : Keyword) : k.word.text = k.name := by
  cases k <;> decide

end Keyword

end FlatQuery
