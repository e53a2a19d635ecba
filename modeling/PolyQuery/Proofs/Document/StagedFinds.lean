import PolyQuery.Proofs.Document.PagedPipelines

namespace PolyQuery

open Failing

/-!
# Finds in stages

A find filters, sorts, cuts and projects at one go. The pipeline whose stages do
the same one after the other answers the same documents, and fails with the same
error: no stage behind the first can fail on arguments of its own kind, and what
is not given is a stage that is left out. Likewise a count is what a filter
followed by a counting stage answers.
-/

namespace Pipeline

/-- The stage of an operator, if it is given an argument. -/
def stageOf
    (operator : String)
    (argument : Option Json) :
    List Json :=
  (argument.map fun given => .object [(operator, given)]).toList

/--
The stages of a find: those after the first are left out where nothing is given.
-/
def finding
    (filter : Document)
    (projection : Option Document)
    (sort : Option Document)
    (skip : Option Nat)
    (limit : Option Nat) :
    List Json :=
  selecting filter sort ++ stageOf "$skip" (skip.map Json.ofNat) ++
    stageOf "$limit" (limit.map Json.ofNat) ++
      stageOf "$project" (projection.map Json.object)

/-- The stages of a count, which is answered under a name. -/
def counting
    (filter : Document)
    (name : String) :
    List Json :=
  selecting filter none ++ stageOf "$count" (some (.string name))

/-- As many documents as a limit admits, if there is one. -/
def limitedBy
    (limit : Option Nat)
    (documents : List Document) :
    List Document :=
  match limit with
  | some count => documents.take count
  | none => documents

/-- What a projection leaves of documents, if there is one. -/
def projectedBy
    (projection : Option Document)
    (documents : List Document) :
    List Document :=
  match projection with
  | some fields => documents.map (Collection.project fields)
  | none => documents

section Stages

variable (documents : List Document)

theorem run_stageOf
    (operator : String)
    (argument : Json) :
    run (stageOf operator (some argument)) documents =
      stage operator argument documents := by
  change run [.object [(operator, argument)]] documents = _
  rw [run]
  cases stage operator argument documents <;> rfl

theorem run_skipping
    {skip : Option Nat}
    (representable : ∀ count ∈ skip, count ≤ unsignedMax) :
    run (stageOf "$skip" (skip.map Json.ofNat)) documents =
      .ok (documents.drop (skip.getD 0)) := by
  cases skip with
  | none =>
      rfl
  | some count =>
      rw [Option.map_some, run_stageOf, stage,
        countArgument_ofNat (representable count rfl)]
      rfl

theorem run_limiting
    {limit : Option Nat}
    (representable : ∀ count ∈ limit, count ≤ unsignedMax) :
    run (stageOf "$limit" (limit.map Json.ofNat)) documents =
      .ok (limitedBy limit documents) := by
  cases limit with
  | none =>
      rfl
  | some count =>
      rw [Option.map_some, run_stageOf, stage,
        countArgument_ofNat (representable count rfl)]
      rfl

theorem run_projecting
    (projection : Option Document) :
    run (stageOf "$project" (projection.map Json.object)) documents =
      .ok (projectedBy projection documents) := by
  cases projection with
  | none =>
      rfl
  | some fields =>
      rw [Option.map_some, run_stageOf]
      rfl

/--
The number of the documents that reach it is all that a counting stage answers.
-/
theorem run_counting
    (filter : Document)
    (name : String) :
    run (counting filter name) documents =
      (Collection.matching filter documents).map fun found =>
        [[(name, .ofNat found.length)]] := by
  rw [counting, run_append, run_matching_sorting]
  cases Collection.matching filter documents <;> rfl

end Stages

end Pipeline

namespace Collection

/--
A find is the pipeline of its stages, and a count is a filter with a counting
stage.

For every collection, filter, sort, projection, skip and limit, the latter two
unsigned 64-bit integers, the pipeline and the find answer the same documents in
the same order, or fail with the same error.
-/
theorem find_eq_pipeline
    {skip limit : Option Nat}
    (skipFits : ∀ count ∈ skip, count ≤ unsignedMax)
    (limitFits : ∀ count ∈ limit, count ≤ unsignedMax)
    (collection : Collection)
    (filter : Document)
    (projection sort : Option Document) :
    Pipeline.run (Pipeline.finding filter projection sort skip limit)
      collection.documents =
        collection.find filter projection sort skip limit ∧
      ∀ name,
        Pipeline.run (Pipeline.counting filter name) collection.documents =
          (collection.count filter).map fun total =>
            [[(name, .ofNat total)]] := by
  constructor
  · simp only [Pipeline.finding, Pipeline.run_append,
      Pipeline.run_matching_sorting, find]
    cases matching filter collection.documents with
    | error cause =>
        rfl
    | ok found =>
        change
          ((Pipeline.run _ (Pipeline.arrangedBy sort found) >>=
            Pipeline.run _) >>=
            Pipeline.run _) = _
        rw [Pipeline.run_skipping _ skipFits]
        change (Pipeline.run _ _ >>= Pipeline.run _) = _
        rw [Pipeline.run_limiting _ limitFits]
        change Pipeline.run _ _ = _
        rw [Pipeline.run_projecting]
        rfl
  · intro name
    rw [Pipeline.run_counting, count]
    cases matching filter collection.documents <;> rfl

/-- Four persons, one of whom has no score and two of whom have the same. -/
def scoredPersons : Collection :=
  {
    name := "person"
    documents := [
      [("_id", .ofInt 1), ("score", .ofInt 5)],
      [("_id", .ofInt 2), ("score", .ofInt 7)],
      [("_id", .ofInt 3)],
      [("_id", .ofInt 4), ("score", .ofInt 7)]]
  }

/-- The persons with a score of five or more. -/
def scoring : Document :=
  [("score", .object [("$gte", .ofInt 5)])]

/--
The highest score comes first and is skipped, and the limit is as
large as one can be.
-/
theorem find_eq_pipeline_of_scored :
    (∀ count ∈ some 1, count ≤ unsignedMax) ∧
    (∀ count ∈ some unsignedMax, count ≤ unsignedMax) ∧
    Pipeline.run
        (Pipeline.finding scoring
          (some [("score", .ofInt 1), ("_id", .ofInt 0)])
          (some [("score", .ofInt (-1))]) (some 1) (some unsignedMax))
        scoredPersons.documents =
      .ok [[("score", .ofInt 7)], [("score", .ofInt 5)]] ∧
    Pipeline.run (Pipeline.counting scoring "persons") scoredPersons.documents =
      .ok [[("persons", .ofNat 3)]] := by
  have skipFits : ∀ count ∈ some 1, count ≤ unsignedMax := by
    rintro _ ⟨⟩
    decide
  have limitFits : ∀ count ∈ some unsignedMax, count ≤ unsignedMax := by
    rintro _ ⟨⟩
    exact Nat.le_refl unsignedMax
  have answered :=
    find_eq_pipeline skipFits limitFits scoredPersons scoring
      (some [("score", .ofInt 1), ("_id", .ofInt 0)])
      (some [("score", .ofInt (-1))])
  refine ⟨skipFits, limitFits, ?_, ?_⟩
  · rw [answered.1]
    decide +kernel
  · rw [answered.2]
    decide +kernel

end Collection

end PolyQuery
