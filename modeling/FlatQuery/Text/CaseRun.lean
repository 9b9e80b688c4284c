import FlatQuery.Text.Basic

/-!
# FlatQuery.Text.CaseRun

Case mappings as a table of runs: stretches of code points that all move by one distance.

* `CaseRun.mem_of_image?` — an image found in a table comes from one of its runs.
-/

namespace FlatQuery

/-- Every `step`-th code point from `first` to `last`, each mapped to the code point that is as far
from `target` as it is from `first`. -/
structure CaseRun where
  first : Nat
  last : Nat
  step : Nat
  target : Nat

namespace CaseRun

/-- The code point that a run holds for `n`. -/
def Holds (r : CaseRun) (n : Nat) : Prop := r.first ≤ n ∧ n ≤ r.last ∧ (n - r.first) % r.step = 0

/-- The image of `n` under a table of disjoint runs in increasing order. -/
def image? : List CaseRun → Nat → Option Nat
  | [], _ => none
  | r :: rest, n =>
      if n < r.first then none
      else if n ≤ r.last ∧ (n - r.first) % r.step = 0 then some (r.target + (n - r.first))
      else image? rest n

/-- An image found in a table comes from one of its runs. -/
theorem mem_of_image? {table : List CaseRun} {n m : Nat} (h : image? table n = some m) :
    ∃ r ∈ table, r.Holds n ∧ m = r.target + (n - r.first) := by
  induction table with
  | nil => simp [image?] at h
  | cons r rest ih =>
      simp only [image?] at h
      split at h
      · simp at h
      · split at h
        · exact ⟨r, List.mem_cons_self, ⟨by omega, by omega, by omega⟩, by simpa using h.symm⟩
        · obtain ⟨q, hq, hn⟩ := ih h
          exact ⟨q, List.mem_cons_of_mem _ hq, hn⟩

end CaseRun

/-- The case mapping of one character: its listed expansion, its image in the runs, or itself. -/
def mapCase (expansions : List (Nat × List Nat)) (runs : List CaseRun) (c : Char) : Text :=
  match expansions.lookup c.toNat with
  | some codes => codes.map Char.ofNat
  | none => match CaseRun.image? runs c.toNat with
    | some code => [Char.ofNat code]
    | none => [c]

end FlatQuery
