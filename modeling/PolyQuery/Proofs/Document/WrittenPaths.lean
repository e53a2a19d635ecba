import PolyQuery.Proofs.Document.PlainKeys

namespace PolyQuery

/-!
# Written paths

A write puts an object wherever its path meets anything else, a list included,
and reading goes through objects by the same names. So what is written at a path
is read back there, whatever the document held on the way. A further write at
the path goes through the objects that the first one has left and replaces its
value alone: nothing tells that there was a first one.
-/

namespace Path

/-- What a write at a route makes of the value under the segment before it. -/
def rewritten
    (route : List String)
    (value : Json)
    (existing : Option Json) :
    Json :=
  if route = [] then value else .object (set route value (membersOf existing))

theorem set_cons
    (first : String)
    (route : List String)
    (value : Json)
    (document : Document) :
    set (first :: route) value document =
      Entries.alter document first (rewritten route value) := by
  cases route with
  | nil => rfl
  | cons second route => rfl

/-- What is written at a route is read back there. -/
theorem get?_set
    (first : String)
    (rest : List String)
    (value : Json)
    (document : Document) :
    get? (first :: rest) (.object (set (first :: rest) value document)) =
      some value := by
  induction rest generalizing first document with
  | nil =>
      simp [set, get?, Entries.get?_insert]
  | cons second rest inductionHypothesis =>
      have stored :
          Entries.get? (set (first :: second :: rest) value document) first =
            some (.object
              (set (second :: rest) value
                (membersOf (Entries.get? document first)))) := by
        rw [set, Entries.get?_alter, if_pos rfl]
        exact List.cons_ne_nil second rest
      rw [get?, stored]
      exact inductionHypothesis second _

/--
Of two values written at one route the later one stays, and nothing
else of the two writes.
-/
theorem set_set
    (route : List String)
    (value other : Json)
    (document : Document) :
    set route other (set route value document) = set route other document := by
  induction route generalizing document with
  | nil =>
      rfl
  | cons first route inductionHypothesis =>
      rw [set_cons, set_cons, set_cons, Entries.alter_alter]
      congr 1
      funext existing
      -- the first write has left an object to go through, unless the route ends
      -- here
      by_cases ends : route = []
      · simp only [rewritten, if_pos ends]
      · simp only [rewritten, if_neg ends, membersOf, inductionHypothesis]

end Path

namespace Document

theorem lookup?_setPath
    (document : Document)
    (path : String)
    (value : Json) :
    (document.setPath path value).lookup? path = some value := by
  obtain ⟨rest, isRoute, -⟩ := Path.segments_eq_cons path
  rw [setPath, lookup?, isRoute]
  exact Path.get?_set _ rest value document

theorem setPath_setPath
    (document : Document)
    (path : String)
    (value other : Json) :
    (document.setPath path value).setPath path other =
      document.setPath path other :=
  Path.set_set (Path.segments path) value other document

/--
The value that was written last at a path is found there, and leaves no trace
of the values that were written there before it.
-/
theorem last_written_value_found
    (document : Document)
    (path : String)
    (value other : Json) :
    (document.setPath path value).lookup? path = some value ∧
      (document.setPath path value).setPath path other =
        document.setPath path other :=
  ⟨lookup?_setPath document path value,
    setPath_setPath document path value other⟩

/--
A write through a list, at empty segments and at a number,
leaves objects on its way.
-/
example :
    setPath [("a", .array [.ofInt 7])] "a.0.." .null =
      [("a", .object [("0", .object [("", .object [("", .null)])])])] := by
  rfl

end Document

end PolyQuery
