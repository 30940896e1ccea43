/-!
# Editions of ECMAScript

The editions from the seventh to the sixteenth, and `next`, which stands for whatever is newer than
all of them. Editions are ordered by recency, which the rank expresses as a number.
-/

set_option autoImplicit false

namespace EcmaEdition

/-- An edition of the language standard. -/
inductive Edition where
  | es7 | es8 | es9 | es10 | es11 | es12 | es13 | es14 | es15 | es16 | next
  deriving DecidableEq, Repr

namespace Edition

/-- All editions, the earliest first. -/
def all : List Edition :=
  [.es7, .es8, .es9, .es10, .es11, .es12, .es13, .es14, .es15, .es16, .next]

/-- The number of an edition. No numbered edition reaches the rank of `next`. -/
def rank : Edition → Nat
  | .es7 => 7
  | .es8 => 8
  | .es9 => 9
  | .es10 => 10
  | .es11 => 11
  | .es12 => 12
  | .es13 => 13
  | .es14 => 14
  | .es15 => 15
  | .es16 => 16
  | .next => 99

/-- An edition precedes another when its rank is smaller. -/
instance : LT Edition := ⟨fun a b => a.rank < b.rank⟩

/-- The order of recency with equality. -/
instance : LE Edition := ⟨fun a b => a.rank ≤ b.rank⟩

/-- Comparing editions is comparing their ranks. -/
instance (a b : Edition) : Decidable (a < b) :=
  inferInstanceAs (Decidable (a.rank < b.rank))

/-- Comparing editions is comparing their ranks. -/
instance (a b : Edition) : Decidable (a ≤ b) :=
  inferInstanceAs (Decidable (a.rank ≤ b.rank))

/-- The year of an edition is its rank counted from this one. -/
def yearZero : Nat := 2009

/-- The year in which a numbered edition appeared. -/
def year? (edition : Edition) : Option Nat :=
  if edition = .next then none else some (yearZero + edition.rank)

/-- The short name shown in reports. -/
def label : Edition → String
  | .next => "ESNext"
  | edition => "ES" ++ toString edition.rank

/-- The identifier of an edition in data: its label in capitals. -/
def name : Edition → String
  | .next => "ESNEXT"
  | edition => edition.label

/-- The label, followed by the year where there is one. -/
def describe (edition : Edition) : String :=
  match edition.year? with
  | some year => edition.label ++ " (" ++ toString year ++ ")"
  | none => edition.label

/-- The later of two editions. -/
def later (a b : Edition) : Edition :=
  if a < b then b else a

/-- The latest of some editions, and nothing for no editions. -/
def latest? : List Edition → Option Edition
  | [] => none
  | edition :: rest => some (rest.foldl later edition)

/-- Editions in ascending order of recency, repetitions kept. -/
def sort (editions : List Edition) : List Edition :=
  editions.mergeSort (· ≤ ·)

end Edition

end EcmaEdition
