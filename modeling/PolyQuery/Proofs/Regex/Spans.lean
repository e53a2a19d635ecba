import PolyQuery.Regex.Pattern

namespace PolyQuery.Regex

/-!
# What the search for a match finds

A pattern spans a text from one place to another as its form says: a sequence
by way of a place between its two parts, a repetition by so many spans of its
body in a row. The search for the ends of a match finds exactly the places that
the pattern spans to. A repetition may stop searching early because a step that
does not move on can be left out, and every other step uses up a character.
-/

/-- So many steps lead from one place to another. -/
def Steps
    (leads : Nat → Nat → Prop) :
    Nat →
    Nat →
    Nat →
    Prop
  | 0, start, finish => start = finish
  | count + 1, start, finish =>
      ∃ between, leads start between ∧ Steps leads count between finish

namespace Steps

variable {leads : Nat → Nat → Prop}

theorem append
    {count more start between finish : Nat}
    (first : Steps leads count start between)
    (second : Steps leads more between finish) :
    Steps leads (count + more) start finish := by
  induction count generalizing start with
  | zero =>
      cases first
      simpa using second
  | succ count inductionHypothesis =>
      obtain ⟨next, step, further⟩ := first
      rw [Nat.add_right_comm]
      exact ⟨next, step, inductionHypothesis further⟩

theorem split
    {count more start finish : Nat}
    (steps : Steps leads (count + more) start finish) :
    ∃ between,
      Steps leads count start between ∧ Steps leads more between finish := by
  induction count generalizing start with
  | zero =>
      exact ⟨start, rfl, by simpa using steps⟩
  | succ count inductionHypothesis =>
      rw [Nat.add_right_comm] at steps
      obtain ⟨next, step, further⟩ := steps
      obtain ⟨between, first, second⟩ := inductionHypothesis further
      exact ⟨between, ⟨next, step, first⟩, second⟩

theorem congr
    {other : Nat → Nat → Prop}
    (same : ∀ start finish, leads start finish ↔ other start finish)
    {count start finish : Nat} :
    Steps leads count start finish ↔ Steps other count start finish := by
  induction count generalizing start with
  | zero =>
      rfl
  | succ count inductionHypothesis =>
      simp only [Steps, same, inductionHypothesis]

/--
Steps that stay or move on within a bound stay or move on within it together.
-/
theorem onward
    {bound : Nat}
    (forward :
      ∀ start finish,
        leads start finish → start = finish ∨ start < finish ∧ finish ≤ bound)
    {count start finish : Nat}
    (steps : Steps leads count start finish) :
    start = finish ∨ start < finish ∧ finish ≤ bound := by
  induction count generalizing start with
  | zero =>
      exact .inl steps
  | succ count inductionHypothesis =>
      obtain ⟨next, step, further⟩ := steps
      have first := forward start next step
      have second := inductionHypothesis further
      omega

/--
Without the steps that stay where they are, no more are needed than
there are places ahead.
-/
theorem shortened
    {bound : Nat}
    (forward :
      ∀ start finish,
        leads start finish → start = finish ∨ start < finish ∧ finish ≤ bound)
    {count start finish : Nat}
    (steps : Steps leads count start finish) :
    ∃ fewer,
      fewer ≤ count ∧ fewer ≤ bound - start ∧
        Steps leads fewer start finish := by
  induction count generalizing start with
  | zero =>
      exact ⟨0, Nat.le_refl 0, Nat.zero_le _, steps⟩
  | succ count inductionHypothesis =>
      obtain ⟨next, step, further⟩ := steps
      obtain ⟨fewer, atMost, ahead, shorter⟩ := inductionHypothesis further
      rcases forward start next step with rfl | ⟨moves, within⟩
      · exact ⟨fewer, by omega, ahead, shorter⟩
      · exact ⟨fewer + 1, by omega, by omega, next, step, shorter⟩

end Steps

section Search

variable {step : Nat → List Nat}

theorem mem_advance
    {places : List Nat}
    {finish : Nat} :
    finish ∈ advance step places ↔ ∃ start ∈ places, finish ∈ step start := by
  simp [advance]

theorem mem_iterate
    {count : Nat}
    {places : List Nat}
    {finish : Nat} :
    finish ∈ iterate step count places ↔
      ∃ start ∈ places,
        Steps (fun start finish => finish ∈ step start) count start finish := by
  induction count generalizing places with
  | zero =>
      simp [iterate, Steps]
  | succ count inductionHypothesis =>
      cases places with
      | nil =>
          simp [iterate]
      | cons place rest =>
          simp only [iterate, List.isEmpty_cons, Bool.false_eq_true, if_false,
            inductionHypothesis, mem_advance, Steps]
          grind

/-- Places that every step from them stays in are never left. -/
theorem Steps.stay
    {places : List Nat}
    (closed : ∀ start ∈ places, ∀ finish ∈ step start, finish ∈ places)
    {count start finish : Nat}
    (within : start ∈ places)
    (steps :
      Steps (fun start finish => finish ∈ step start) count start finish) :
    finish ∈ places := by
  induction count generalizing start with
  | zero =>
      cases steps
      exact within
  | succ count inductionHypothesis =>
      obtain ⟨next, one, further⟩ := steps
      exact inductionHypothesis (closed start within next one) further

/-- The places that a round is the first to reach. -/
def fresh
    (step : Nat → List Nat)
    (reached latest : List Nat) :
    List Nat :=
  (advance step latest).filter fun place => !reached.contains place

variable {reached latest : List Nat}

theorem mem_fresh
    {place : Nat} :
    place ∈ fresh step reached latest ↔
      (∃ start ∈ latest, place ∈ step start) ∧ place ∉ reached := by
  simp [fresh, mem_advance]

theorem closure_succ
    (count : Nat) :
    closure step (count + 1) reached latest =
      if (fresh step reached latest).isEmpty then
        reached
      else
        closure step count (reached ++ fresh step reached latest)
          (fresh step reached latest) :=
  rfl

/-- A step from a place reached before a round leads to one reached after it. -/
theorem mem_append_fresh
    (covered :
      ∀ start ∈ reached,
        start ∈ latest ∨ ∀ finish ∈ step start, finish ∈ reached)
    {start finish : Nat}
    (within : start ∈ reached)
    (one : finish ∈ step start) :
    finish ∈ reached ++ fresh step reached latest := by
  by_cases old : finish ∈ reached
  · exact List.mem_append_left _ old
  · rcases covered start within with late | inside
    · exact List.mem_append_right _ (mem_fresh.mpr ⟨⟨start, late, one⟩, old⟩)
    · exact absurd (inside finish one) old

/--
Rounds that go on from the latest places reach what so many steps lead to.

Only the latest places may have steps out of those that have been reached.
-/
theorem mem_closure
    {count : Nat}
    (covered :
      ∀ start ∈ reached,
        start ∈ latest ∨ ∀ finish ∈ step start, finish ∈ reached)
    (known : ∀ start ∈ latest, start ∈ reached)
    {finish : Nat} :
    finish ∈ closure step count reached latest ↔
      ∃ fewer ≤ count, ∃ start ∈ reached,
        Steps (fun start finish => finish ∈ step start) fewer start finish := by
  induction count generalizing reached latest with
  | zero =>
      simp [closure, Steps]
  | succ count inductionHypothesis =>
      rw [closure_succ]
      split
      next noneFresh =>
        -- Nothing is new, so that no number of steps leads out of what has been
        -- reached.
        have still :
            ∀ start ∈ reached, ∀ place ∈ step start, place ∈ reached := by
          intro start within place one
          have after := mem_append_fresh covered within one
          rwa [List.isEmpty_iff.mp noneFresh, List.append_nil] at after
        constructor
        · exact fun within => ⟨0, Nat.zero_le _, finish, within, rfl⟩
        · rintro ⟨fewer, -, start, within, steps⟩
          exact steps.stay still within
      next =>
        have coveredNext :
            ∀ start ∈ reached ++ fresh step reached latest,
              start ∈ fresh step reached latest ∨
                ∀ place ∈ step start,
                  place ∈ reached ++ fresh step reached latest := by
          intro start within
          rcases List.mem_append.mp within with old | new
          · exact .inr fun place one => mem_append_fresh covered old one
          · exact .inl new
        rw [inductionHypothesis coveredNext fun start new =>
          List.mem_append_right _ new]
        constructor
        · rintro ⟨fewer, atMost, start, within, steps⟩
          rcases List.mem_append.mp within with old | new
          · exact ⟨fewer, by omega, start, old, steps⟩
          · obtain ⟨⟨earlier, late, one⟩, -⟩ := mem_fresh.mp new
            exact ⟨fewer + 1, by omega, earlier, known earlier late, start, one,
              steps⟩
        · rintro ⟨fewer, atMost, start, within, steps⟩
          cases fewer with
          | zero =>
              exact ⟨0, Nat.zero_le _, start, List.mem_append_left _ within,
                steps⟩
          | succ fewer =>
              obtain ⟨place, one, further⟩ := steps
              exact ⟨fewer, by omega, place,
                mem_append_fresh covered within one, further⟩

end Search

namespace Pattern

/-- A pattern spans a text from one place to another. -/
def Spans
    (text : Array Char) :
    Pattern →
    Nat →
    Nat →
    Prop
  | .empty, start, finish => start = finish
  | .one set, start, finish =>
      start + 1 = finish ∧
        ∃ character,
          text[start]? = some character ∧ set.contains character
  | .assertion asserted, start, finish =>
      start = finish ∧ asserted.holds text start
  | .sequence first second, start, finish =>
      ∃ between,
        Spans text first start between ∧ Spans text second between finish
  | .choice left right, start, finish =>
      Spans text left start finish ∨ Spans text right start finish
  | .repeated body least most, start, finish =>
      ∃ count,
        least ≤ count ∧ (∀ limit, most = some limit → count ≤ max least limit) ∧
        Steps (Spans text body) count start finish

/-- A match uses up no character, or characters of the text. -/
theorem Spans.onward
    {text : Array Char}
    {pattern : Pattern}
    {start finish : Nat}
    (spans : Spans text pattern start finish) :
    start = finish ∨ start < finish ∧ finish ≤ text.size := by
  induction pattern generalizing start finish with
  | empty =>
      exact .inl spans
  | one set =>
      obtain ⟨rfl, character, present, -⟩ := spans
      have within : start < text.size :=
        (Array.getElem?_eq_some_iff.mp present).1
      exact .inr ⟨by omega, by omega⟩
  | assertion asserted =>
      exact .inl spans.1
  | sequence first second firstOnward secondOnward =>
      obtain ⟨between, before, after⟩ := spans
      have first := firstOnward before
      have second := secondOnward after
      omega
  | choice left right leftOnward rightOnward =>
      rcases spans with spans | spans
      · exact leftOnward spans
      · exact rightOnward spans
  | repeated body least most bodyOnward =>
      obtain ⟨count, -, -, steps⟩ := spans
      exact steps.onward fun _ _ => bodyOnward

/-- The search finds the ends of matches, and all of them. -/
theorem mem_ends
    {text : Array Char}
    {pattern : Pattern}
    {start finish : Nat} :
    finish ∈ pattern.ends text start ↔ pattern.Spans text start finish := by
  induction pattern generalizing start finish with
  | empty =>
      simp [ends, Spans, eq_comm]
  | one set =>
      cases present : text[start]? with
      | none =>
          simp [ends, Spans, after?, present]
      | some character =>
          by_cases member : set.contains character = true
          · simp [ends, Spans, after?, present, member,
              eq_comm (a := start + 1)]
          · simp [ends, Spans, after?, present, member]
  | assertion asserted =>
      by_cases holds : asserted.holds text start = true
      · simp [ends, Spans, holds, eq_comm]
      · simp [ends, Spans, holds]
  | sequence first second firstFound secondFound =>
      simp only [ends, Spans, mem_advance, firstFound, secondFound]
  | choice left right leftFound rightFound =>
      simp [ends, Spans, leftFound, rightFound]
  | repeated body least most found =>
      have stepped : ∀ {count start finish},
          Steps (fun start finish => finish ∈ body.ends text start) count start
              finish ↔
            Steps (body.Spans text) count start finish :=
        Steps.congr fun _ _ => found
      simp only [ends, Spans]
      rw [mem_closure (fun _ => .inl) fun _ => id]
      simp only [mem_iterate, List.mem_singleton, exists_eq_left, stepped]
      constructor
      · rintro ⟨more, atMost, between, forced, further⟩
        refine ⟨least + more, by omega, ?_, forced.append further⟩
        rintro limit rfl
        simp only at atMost
        omega
      · rintro ⟨count, enough, limited, steps⟩
        obtain ⟨more, rfl⟩ := Nat.exists_eq_add_of_le enough
        obtain ⟨between, forced, further⟩ := steps.split
        obtain ⟨fewer, atMost, ahead, shorter⟩ :=
          further.shortened fun _ _ => Spans.onward
        have begun := forced.onward fun _ _ => Spans.onward
        refine ⟨fewer, ?_, between, forced, shorter⟩
        cases most with
        | none =>
            simp only
            omega
        | some limit =>
            have bounded := limited limit rfl
            simp only
            omega

/--
A pattern matches in a text exactly if it spans from some
place of it to another.
-/
theorem matchesIn_iff
    {pattern : Pattern}
    {subject : String} :
    pattern.matchesIn subject = true ↔
      ∃ start finish,
        start ≤ subject.toList.length ∧
          pattern.Spans subject.toList.toArray start finish := by
  simp only [matchesIn, List.any_eq_true, List.mem_range, Bool.not_eq_true',
    List.isEmpty_eq_false_iff_exists_mem, mem_ends, List.size_toArray,
    Nat.lt_succ_iff]
  constructor
  · rintro ⟨start, within, finish, spans⟩
    exact ⟨start, finish, within, spans⟩
  · rintro ⟨start, finish, within, spans⟩
    exact ⟨start, within, finish, spans⟩

end Pattern

end PolyQuery.Regex
