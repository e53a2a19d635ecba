import PolyQuery.Query.Request

namespace PolyQuery

/-!
# Calls on a builder

What a window changes of a builder, and the builders that no call allowed to
touch the full table. A request may be among the calls if it does not allow it
either.
-/

namespace Builder

/--
The order of every page: the builder's own, or else by the
identifier if so configured.
-/
def stableOrder
    (builder : Builder)
    (orderByIdentifier : Bool) :
    List OrderTerm :=
  if orderByIdentifier && !builder.hasOrder then
    match builder.schema.bind Schema.primaryKey? with
    | some key => builder.order ++ [⟨.field key.name, .ascending⟩]
    | none => builder.order
  else
    builder.order

/--
A window changes the limit, the offset and the order only, the order
alike for all pages.
-/
theorem windowed_eq
    (builder : Builder)
    (request : PageRequest)
    (orderByIdentifier : Bool) :
    builder.windowed request orderByIdentifier =
      { builder with
        limit := request.limit
        offset := request.offset
        order := builder.stableOrder orderByIdentifier } := by
  have sameTest :
      Builder.hasOrder
          { builder with limit := request.limit, offset := request.offset } =
        builder.hasOrder :=
    rfl
  simp only [windowed, stableOrder, sameTest]
  split
  · cases builder.schema.bind Schema.primaryKey? <;> rfl
  · rfl

/--
A call on a builder other than the one that allows mutations of the full table.
-/
inductive Call where
  | model (schema : Schema)
  | constrain (field : String) (asked : FieldFilter)
  | constrainAll (filter : Filter)
  | alternative (field : String) (tag : String) (operand : Json)
  | alternativeAll (alternatives : AlternativeFilter)
  | orderBy (target : Target) (direction : Direction)
  | groupBy (target : Target)
  | groupCondition (target : Target) (tag : String) (operand : Json)
  | distinctRows
  | distinctOn (fields : List String)
  | project (fields : List String)
  | projectRaw (expression : String)
  | write (values : Mutation)
  | take (limit : Nat)
  | drop (offset : Nat)
  | touchingOne
  | insertingIfAbsent
  | windowed (request : PageRequest) (orderByIdentifier : Bool)
  | apply (request : Request) (guarded : request.allowFullTable = false)

/-- The builder after a call. -/
def Call.applyTo
    (builder : Builder) :
    Call →
    Builder
  | .model schema => builder.model schema
  | .constrain field asked => builder.constrain field asked
  | .constrainAll filter => builder.constrainAll filter
  | .alternative field tag operand => builder.alternative field tag operand
  | .alternativeAll alternatives => builder.alternativeAll alternatives
  | .orderBy target direction => builder.orderBy target direction
  | .groupBy target => builder.groupBy target
  | .groupCondition target tag operand =>
      builder.groupCondition target tag operand
  | .distinctRows => builder.distinctRows
  | .distinctOn fields => builder.distinctOn fields
  | .project fields => builder.project fields
  | .projectRaw expression => builder.projectRaw expression
  | .write values => builder.write values
  | .take limit => builder.take limit
  | .drop offset => builder.drop offset
  | .touchingOne => builder.touchingOne
  | .insertingIfAbsent => builder.insertingIfAbsent
  | .windowed request orderByIdentifier =>
      builder.windowed request orderByIdentifier
  | .apply request _ => request.applyTo builder

/-- The builder after some calls, from an empty one. -/
def afterCalls
    (calls : List Call) :
    Builder :=
  calls.foldl Call.applyTo {}

theorem allowFullTable_distinctRows
    (builder : Builder) :
    builder.distinctRows.allowFullTable = builder.allowFullTable := by
  unfold distinctRows
  split <;> rfl

theorem allowFullTable_windowed
    (builder : Builder)
    (request : PageRequest)
    (orderByIdentifier : Bool) :
    (builder.windowed request orderByIdentifier).allowFullTable =
      builder.allowFullTable := by
  rw [windowed_eq]

section Views

variable
  {β : Type}
  {view : Builder → β}

theorem view_foldl
    {α : Type}
    (view : Builder → β)
    (step : Builder → α → Builder)
    (kept : ∀ builder item, view (step builder item) = view builder)
    (items : List α)
    (builder : Builder) :
    view (items.foldl step builder) = view builder := by
  induction items generalizing builder with
  | nil =>
      rfl
  | cons item rest inductionHypothesis =>
      rw [List.foldl_cons, inductionHypothesis, kept]

theorem view_onlyIf
    {change : Builder → Builder}
    (kept : ∀ builder, view (change builder) = view builder)
    (condition : Bool)
    (builder : Builder) :
    view (Request.onlyIf condition change builder) = view builder := by
  unfold Request.onlyIf
  split
  · exact kept builder
  · rfl

theorem view_ifGiven
    {α : Type}
    {change : Builder → α → Builder}
    (kept : ∀ builder value, view (change builder value) = view builder)
    (value : Option α)
    (builder : Builder) :
    view (Request.ifGiven value change builder) = view builder := by
  cases value with
  | none =>
      rfl
  | some given =>
      exact kept builder given

/--
A part of a builder that only calls about filters and about
the full table change.
-/
structure Unmoved
    (view : Builder → β) :
    Prop where
  orderBy :
    ∀ builder target direction,
      view (orderBy builder target direction) = view builder
  groupBy : ∀ builder target, view (groupBy builder target) = view builder
  groupCondition :
    ∀ builder target tag operand,
      view (groupCondition builder target tag operand) = view builder
  distinctRows : ∀ builder, view (distinctRows builder) = view builder
  distinctOn : ∀ builder fields, view (distinctOn builder fields) = view builder
  project : ∀ builder fields, view (project builder fields) = view builder
  projectRaw :
    ∀ builder expression, view (projectRaw builder expression) = view builder
  write : ∀ builder values, view (write builder values) = view builder
  take : ∀ builder limit, view (take builder limit) = view builder
  drop : ∀ builder offset, view (drop builder offset) = view builder
  touchingOne : ∀ builder, view (touchingOne builder) = view builder
  insertingIfAbsent : ∀ builder, view (insertingIfAbsent builder) = view builder

/--
Such a part of a builder is after a request what the filters of
the request make of it.
-/
theorem Unmoved.request
    (unmoved : Unmoved view)
    {request : Request}
    (guarded :
      request.allowFullTable = false ∨ ∀ builder,
        view (allowingFullTable builder) = view builder)
    (builder : Builder) :
    view (request.applyTo builder) =
      view
        ((builder.constrainAll (Filter.ofMembers request.filter)).alternativeAll
          (AlternativeFilter.ofMembers request.alternatives)) := by
  have opensOrNot :
      ∀ builder,
        view (Request.onlyIf request.allowFullTable allowingFullTable builder) =
          view builder := by
    intro builder
    rcases guarded with closed | kept
    · rw [closed]
      rfl
    · exact view_onlyIf kept _ builder
  simp only [Request.applyTo]
  rw [view_onlyIf unmoved.insertingIfAbsent, view_onlyIf unmoved.touchingOne,
    opensOrNot, view_ifGiven unmoved.write, view_ifGiven unmoved.drop,
    view_ifGiven unmoved.take,
    view_onlyIf fun builder => unmoved.distinctOn builder request.distinctOn,
    view_onlyIf unmoved.distinctRows,
    view_foldl view _ fun builder _ => unmoved.groupCondition builder _ _ _,
    view_foldl view _ fun builder _ => unmoved.groupBy builder _,
    view_foldl view _ fun builder _ => unmoved.orderBy builder _ _,
    view_foldl view Builder.projectRaw unmoved.projectRaw, unmoved.project]

end Views

/--
A request that does not allow the full table leaves a builder
as guarded as it was.
-/
theorem allowFullTable_request
    {request : Request}
    (guarded : request.allowFullTable = false)
    (builder : Builder) :
    (request.applyTo builder).allowFullTable = builder.allowFullTable := by
  have unmoved : Unmoved fun builder => builder.allowFullTable := by
    constructor
    case distinctRows => exact allowFullTable_distinctRows
    all_goals intros; rfl
  exact unmoved.request (.inl guarded) builder

/-- No call but the one left out allows the full table. -/
theorem Call.allowFullTable_applyTo
    (call : Call)
    (builder : Builder) :
    (call.applyTo builder).allowFullTable = builder.allowFullTable := by
  cases call with
  | distinctRows =>
      exact allowFullTable_distinctRows builder
  | windowed request orderByIdentifier =>
      exact allowFullTable_windowed builder request orderByIdentifier
  | apply request guarded =>
      exact allowFullTable_request guarded builder
  | _ =>
      rfl

/-- Without opting in a builder is guarded, whatever was called on it. -/
theorem allowFullTable_afterCalls
    (calls : List Call) :
    (afterCalls calls).allowFullTable = false :=
  view_foldl (fun builder => builder.allowFullTable) Call.applyTo
    (fun builder call => call.allowFullTable_applyTo builder) calls {}

end Builder

end PolyQuery
