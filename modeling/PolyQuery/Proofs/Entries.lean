import Mathlib.Data.List.Nodup
import PolyQuery.Entries

namespace PolyQuery.Entries

/-!
# Laws of ordered entries

A name is contained exactly if it is among the keys. Entries under new names
join at the end, one or several at a time, so that storing them is appending.
Storing and erasing under one name leaves the entries under another alone.
-/

variable {α : Type}

theorem contains_iff_mem_keys
    {entries : Entries α}
    {key : String} :
    contains entries key = true ↔ key ∈ keys entries := by
  induction entries with
  | nil =>
      simp [contains, keys]
  | cons entry rest inductionHypothesis =>
      obtain ⟨name, value⟩ := entry
      by_cases sameName : name = key
      · simp [contains, keys, sameName]
      · simp only [contains, keys] at inductionHypothesis
        simp [contains, keys, sameName, inductionHypothesis, Ne.symm sameName]

theorem contains_eq_false_iff
    {entries : Entries α}
    {key : String} :
    contains entries key = false ↔ key ∉ keys entries := by
  rw [← contains_iff_mem_keys, Bool.not_eq_true]

theorem mem_keys_of_mem
    {entries : Entries α}
    {entry : String × α}
    (member : entry ∈ entries) :
    entry.1 ∈ keys entries :=
  List.mem_map_of_mem member

@[simp] theorem keys_cons
    (entry : String × α)
    (rest : Entries α) :
    keys (entry :: rest) = entry.1 :: keys rest :=
  rfl

@[simp] theorem keys_append
    (first second : Entries α) :
    keys (first ++ second) = keys first ++ keys second :=
  List.map_append

theorem get?_eq_none_iff
    {entries : Entries α}
    {key : String} :
    get? entries key = none ↔ key ∉ keys entries := by
  rw [← contains_eq_false_iff, contains, Option.isSome_eq_false_iff,
    Option.isNone_iff_eq_none]

/--
The value of a name in joined entries is the one in the first of
them, if it has one.
-/
theorem get?_append
    (first second : Entries α)
    (key : String) :
    get? (first ++ second) key = (get? first key).or (get? second key) := by
  induction first with
  | nil =>
      rfl
  | cons entry rest inductionHypothesis =>
      obtain ⟨name, value⟩ := entry
      by_cases sameName : name = key
      · simp [sameName]
      · simp [sameName, inductionHypothesis]

/-- What is stored under a new name joins at the end. -/
theorem alter_of_not_mem
    {entries : Entries α}
    {key : String}
    (absent : key ∉ keys entries)
    (update : Option α → α) :
    alter entries key update = entries ++ [(key, update none)] := by
  induction entries with
  | nil =>
      rfl
  | cons entry rest inductionHypothesis =>
      obtain ⟨name, stored⟩ := entry
      simp only [keys_cons, List.mem_cons, not_or] at absent
      have different : name ≠ key := Ne.symm absent.1
      simp [alter, different, inductionHypothesis absent.2]

/--
What is stored under a name that is there depends on what is
made of its value alone.
-/
theorem alter_congr
    {entries : Entries α}
    {key : String}
    (present : key ∈ keys entries)
    {update other : Option α → α}
    (same : ∀ value, update (some value) = other (some value)) :
    alter entries key update = alter entries key other := by
  induction entries with
  | nil =>
      cases present
  | cons entry rest inductionHypothesis =>
      obtain ⟨name, value⟩ := entry
      by_cases sameName : name = key
      · rw [alter, alter, if_pos sameName, if_pos sameName, same]
      · have inRest : key ∈ keys rest :=
          (List.mem_cons.mp present).resolve_left (Ne.symm sameName)
        rw [alter, alter, if_neg sameName, if_neg sameName,
          inductionHypothesis inRest]

/-- A new name joins at the end. -/
theorem insert_of_not_mem
    {entries : Entries α}
    {key : String}
    (absent : key ∉ keys entries)
    (value : α) :
    insert entries key value = entries ++ [(key, value)] :=
  alter_of_not_mem absent fun _ => value

/-- Storing pairs under distinct new names appends them. -/
theorem insertAll_of_disjoint
    {entries pairs : Entries α}
    (distinct : Distinct (entries ++ pairs)) :
    insertAll entries pairs = entries ++ pairs := by
  induction pairs generalizing entries with
  | nil =>
      simp [insertAll]
  | cons pair rest inductionHypothesis =>
      obtain ⟨key, value⟩ := pair
      have absent : key ∉ keys entries := by
        intro member
        have separate :=
          (List.nodup_append.mp (by simpa [Distinct] using distinct)).2.2
        exact separate key member key (by simp) rfl
      have step :
          insertAll entries ((key, value) :: rest) =
            insertAll (entries ++ [(key, value)]) rest := by
        simp only [insertAll, List.foldl_cons]
        rw [insert_of_not_mem absent]
      rw [step, inductionHypothesis (by simpa using distinct)]
      simp

/-- Pairs with distinct names are entries as they stand. -/
theorem ofList_of_distinct
    {pairs : Entries α}
    (distinct : Distinct pairs) :
    ofList pairs = pairs := by
  rw [ofList, insertAll_of_disjoint (by simpa using distinct)]
  rfl

/--
The entries under a name, of which entries with distinct names have one at most.
-/
def under
    (entries : Entries α)
    (key : String) :
    Entries α :=
  entries.filter fun entry => entry.1 = key

theorem get?_eq_head?_under
    (entries : Entries α)
    (key : String) :
    get? entries key = (under entries key).head?.map Prod.snd := by
  induction entries with
  | nil =>
      rfl
  | cons entry rest inductionHypothesis =>
      obtain ⟨name, value⟩ := entry
      by_cases sameName : name = key
      · simp [under, sameName]
      · simpa [under, sameName] using inductionHypothesis

/-- Entries with distinct names have one under a name at most. -/
theorem length_under_le
    {entries : Entries α}
    (distinct : Distinct entries)
    (key : String) :
    (under entries key).length ≤ 1 := by
  induction entries with
  | nil =>
      exact Nat.zero_le 1
  | cons entry rest inductionHypothesis =>
      obtain ⟨notAgain, restDistinct⟩ := List.nodup_cons.mp distinct
      by_cases sameName : entry.1 = key
      · have noneElse : under rest key = [] := by
          rw [under, List.filter_eq_nil_iff]
          intro other member isKey
          rw [← sameName, decide_eq_true_eq] at isKey
          exact notAgain (isKey ▸ mem_keys_of_mem member)
        have alone : under (entry :: rest) key = entry :: under rest key := by
          simp [under, sameName]
        rw [alone, noneElse]
        exact Nat.le_refl 1
      · have elsewhere : under (entry :: rest) key = under rest key := by
          simp [under, sameName]
        rw [elsewhere]
        exact inductionHypothesis restDistinct

/--
A name has the value that it had if the one entry under it is what it was.
-/
theorem get?_of_under_perm
    {before after : Entries α}
    {key : String}
    (same : (under after key).Perm (under before key))
    (once : (under before key).length ≤ 1) :
    get? after key = get? before key := by
  rw [get?_eq_head?_under, get?_eq_head?_under]
  cases there : under before key with
  | nil =>
      rw [there] at same
      rw [List.perm_nil.mp same]
  | cons entry rest =>
      rw [there, List.length_cons] at once
      have noneElse : rest = [] := List.length_eq_zero_iff.mp (by omega)
      rw [there, noneElse] at same
      rw [List.perm_singleton.mp same, noneElse]

/-- Distinct names have the same values in any order. -/
theorem get?_of_perm
    {entries others : Entries α}
    (distinct : Distinct entries)
    (order : entries.Perm others)
    (key : String) :
    get? others key = get? entries key :=
  get?_of_under_perm (order.symm.filter _) (length_under_le distinct key)

/-- What is stored under one name does not change the entries under another. -/
theorem under_alter_of_ne
    {key other : String}
    (different : key ≠ other)
    (entries : Entries α)
    (update : Option α → α) :
    under (alter entries key update) other = under entries other := by
  induction entries with
  | nil =>
      simp [alter, under, different]
  | cons entry rest inductionHypothesis =>
      obtain ⟨name, value⟩ := entry
      by_cases sameName : name = key
      · subst sameName
        simp [alter, under, different]
      · have headStays :
            alter ((name, value) :: rest) key update =
              (name, value) :: alter rest key update := by
          simp [alter, sameName]
        simp only [under] at inductionHypothesis
        rw [headStays]
        simp [under, List.filter_cons, inductionHypothesis]

/--
Erasing a name moves an entry, but leaves those under
another name what they are.
-/
theorem under_erase_of_ne
    {key other : String}
    (different : key ≠ other)
    (entries : Entries α) :
    (under (erase entries key) other).Perm (under entries other) := by
  induction entries with
  | nil =>
      exact .refl _
  | cons entry rest inductionHypothesis =>
      obtain ⟨name, value⟩ := entry
      by_cases sameName : name = key
      · subst sameName
        have headLeaves :
            under ((name, value) :: rest) other = under rest other := by
          simp [under, different]
        rw [headLeaves]
        rcases List.eq_nil_or_concat' rest with isNil | ⟨front, last, isConcat⟩
        · subst rest
          simp [erase, under]
        · subst rest
          have moved :
              erase ((name, value) :: (front ++ [last])) name =
                last :: front := by
            simp [erase]
          rw [moved]
          exact (List.perm_append_singleton last front).symm.filter _
      · have headStays :
            erase ((name, value) :: rest) key =
              (name, value) :: erase rest key := by
          simp [erase, sameName]
        rw [headStays]
        by_cases sameOther : name = other <;>
          simpa [under, sameOther] using inductionHypothesis

/-- Erasing a name leaves the value of another one what it is. -/
theorem get?_erase_of_ne
    {entries : Entries α}
    {key other : String}
    (distinct : Distinct entries)
    (different : key ≠ other) :
    get? (erase entries key) other = get? entries other :=
  get?_of_under_perm (under_erase_of_ne different entries)
    (length_under_le distinct other)

/--
After a change under a name every entry is what became of the name
or was there before.
-/
theorem mem_alter
    {entries : Entries α}
    {key : String}
    {update : Option α → α}
    {entry : String × α}
    (member : entry ∈ alter entries key update) :
    entry ∈ entries ∨
      entry = (key, update none) ∨
        ∃ present,
          (key, present) ∈ entries ∧ entry = (key, update (some present)) := by
  induction entries with
  | nil =>
      exact .inr (.inl (List.mem_singleton.mp member))
  | cons first rest inductionHypothesis =>
      obtain ⟨name, stored⟩ := first
      rw [alter] at member
      split at member
      next sameName =>
        subst sameName
        rcases List.mem_cons.mp member with isHead | inRest
        · exact .inr (.inr ⟨stored, List.mem_cons_self, isHead⟩)
        · exact .inl (List.mem_cons_of_mem _ inRest)
      next =>
        rcases List.mem_cons.mp member with isHead | inRest
        · exact .inl (List.mem_cons.mpr (.inl isHead))
        · rcases inductionHypothesis inRest with
              wasThere | isNew | ⟨present, inEntries, isChanged⟩
          · exact .inl (List.mem_cons_of_mem _ wasThere)
          · exact .inr (.inl isNew)
          · exact .inr
              (.inr ⟨present, List.mem_cons_of_mem _ inEntries, isChanged⟩)

/-- After a store every entry is the stored one or was there before. -/
theorem mem_insert
    {entries : Entries α}
    {key : String}
    {value : α}
    {entry : String × α}
    (member : entry ∈ insert entries key value) :
    entry = (key, value) ∨ entry ∈ entries := by
  induction entries with
  | nil =>
      exact .inl (List.mem_singleton.mp member)
  | cons first rest inductionHypothesis =>
      obtain ⟨name, stored⟩ := first
      simp only [insert, alter] at member inductionHypothesis
      split at member
      next sameName =>
        rcases List.mem_cons.mp member with isHead | inRest
        · exact .inl (by rw [isHead, sameName])
        · exact .inr (List.mem_cons_of_mem _ inRest)
      next =>
        rcases List.mem_cons.mp member with isHead | inRest
        · exact .inr (by rw [isHead]; exact List.mem_cons_self)
        · exact (inductionHypothesis inRest).imp_right (List.mem_cons_of_mem _)

theorem mem_of_mem_erase
    {entries : Entries α}
    {key : String}
    {entry : String × α}
    (member : entry ∈ erase entries key) :
    entry ∈ entries := by
  induction entries with
  | nil =>
      exact member
  | cons head rest inductionHypothesis =>
      obtain ⟨name, value⟩ := head
      rw [erase] at member
      split at member
      · -- The last entry takes the place of the erased one.
        split at member
        · cases member
        · next last isLast =>
          rcases List.mem_cons.mp member with isMoved | inRest
          · rw [isMoved]
            exact List.mem_cons_of_mem _ (List.mem_of_getLast? isLast)
          · exact List.mem_cons_of_mem _ (List.dropLast_subset rest inRest)
      · rcases List.mem_cons.mp member with isHead | inRest
        · rw [isHead]
          exact List.mem_cons_self
        · exact List.mem_cons_of_mem _ (inductionHypothesis inRest)

/-- Erasing a name takes away the first entry under it, and nothing else. -/
theorem erase_perm
    {entries : Entries α}
    {key : String}
    {value : α}
    (found : get? entries key = some value) :
    ((key, value) :: erase entries key).Perm entries := by
  induction entries with
  | nil =>
      cases found
  | cons entry rest inductionHypothesis =>
      obtain ⟨name, stored⟩ := entry
      by_cases sameName : name = key
      · rw [get?_cons, if_pos sameName] at found
        cases found
        subst sameName
        rcases List.eq_nil_or_concat' rest with isNil | ⟨front, last, isConcat⟩
        · subst rest
          simp [erase]
        · subst rest
          have moved :
              erase ((name, value) :: (front ++ [last])) name =
                last :: front := by
            simp [erase]
          rw [moved]
          exact (List.perm_append_singleton last front).symm.cons _
      · rw [get?_cons, if_neg sameName] at found
        have headStays :
            erase ((name, stored) :: rest) key =
              (name, stored) :: erase rest key := by
          simp [erase, sameName]
        rw [headStays]
        exact (List.Perm.swap _ _ _).trans ((inductionHypothesis found).cons _)

/--
Every entry that storing pairs leads to was there before or is one of the pairs.
-/
theorem mem_insertAll
    {entries pairs : Entries α}
    {entry : String × α}
    (member : entry ∈ insertAll entries pairs) :
    entry ∈ entries ∨ entry ∈ pairs := by
  induction pairs generalizing entries with
  | nil =>
      exact .inl member
  | cons pair rest inductionHypothesis =>
      have later : entry ∈ insertAll (insert entries pair.1 pair.2) rest :=
        member
      rcases inductionHypothesis later with inserted | inRest
      · rcases mem_insert inserted with isPair | wasThere
        · exact .inr (by rw [isPair]; exact List.mem_cons_self)
        · exact .inl wasThere
      · exact .inr (List.mem_cons_of_mem _ inRest)

/-- Every entry made of a list of pairs is one of them. -/
theorem mem_of_mem_ofList
    {pairs : Entries α}
    {entry : String × α}
    (member : entry ∈ ofList pairs) :
    entry ∈ pairs := by
  rcases mem_insertAll member with inNone | inPairs
  · cases inNone
  · exact inPairs

theorem keys_alter
    (entries : Entries α)
    (key : String)
    (update : Option α → α) :
    keys (alter entries key update) =
      if key ∈ keys entries then keys entries else keys entries ++ [key] := by
  induction entries with
  | nil =>
      rfl
  | cons entry rest inductionHypothesis =>
      obtain ⟨name, stored⟩ := entry
      by_cases sameName : name = key
      · simp [alter, keys_cons, sameName]
      · have different : key ≠ name := Ne.symm sameName
        simp only [alter, sameName, if_false, keys_cons, inductionHypothesis,
          List.mem_cons, different, false_or]
        split <;> rfl

theorem keys_insert
    (entries : Entries α)
    (key : String)
    (value : α) :
    keys (insert entries key value) =
      if key ∈ keys entries then keys entries else keys entries ++ [key] :=
  keys_alter entries key fun _ => value

theorem distinct_alter
    {entries : Entries α}
    (distinct : Distinct entries)
    (key : String)
    (update : Option α → α) :
    Distinct (alter entries key update) := by
  unfold Distinct
  rw [keys_alter]
  split
  next =>
    exact distinct
  next absent =>
    exact List.nodup_append.mpr
      ⟨distinct, List.nodup_singleton key, by
        intro name member other isKey same
        rw [List.mem_singleton.mp isKey] at same
        exact absent (same ▸ member)⟩

theorem distinct_insert
    {entries : Entries α}
    (distinct : Distinct entries)
    (key : String)
    (value : α) :
    Distinct (insert entries key value) :=
  distinct_alter distinct key fun _ => value

theorem distinct_erase
    {entries : Entries α}
    {key : String}
    {value : α}
    (distinct : Distinct entries)
    (found : get? entries key = some value) :
    Distinct (erase entries key) := by
  have whole : (keys ((key, value) :: erase entries key)).Nodup :=
    ((erase_perm found).map Prod.fst).nodup_iff.mpr distinct
  exact whole.of_cons

theorem distinct_insertAll
    {entries : Entries α}
    (distinct : Distinct entries)
    (pairs : Entries α) :
    Distinct (insertAll entries pairs) := by
  induction pairs generalizing entries with
  | nil =>
      exact distinct
  | cons pair rest inductionHypothesis =>
      exact inductionHypothesis (distinct_insert distinct pair.1 pair.2)

/--
A store under a name puts its value in the place of all that
stood under the name.
-/
theorem insert_perm
    {entries : Entries α}
    (distinct : Distinct entries)
    (key : String)
    (value : α) :
    (insert entries key value).Perm
      ((key, value) :: entries.filter fun entry => entry.1 ≠ key) := by
  induction entries with
  | nil =>
      exact .refl _
  | cons entry rest inductionHypothesis =>
      obtain ⟨name, stored⟩ := entry
      obtain ⟨absent, restDistinct⟩ := List.nodup_cons.mp distinct
      by_cases sameName : name = key
      · subst sameName
        have othersStay : rest.filter (fun entry => entry.1 ≠ name) = rest := by
          rw [List.filter_eq_self]
          intro other member
          have elsewhere : other.1 ≠ name := by
            intro same
            have inKeys := mem_keys_of_mem member
            rw [same] at inKeys
            exact absent inKeys
          simpa using elsewhere
        have replaced :
            insert ((name, stored) :: rest) name value =
              (name, value) :: rest := by
          simp [insert, alter]
        have dropped :
            ((name, stored) :: rest).filter (fun entry => entry.1 ≠ name) =
              rest := by
          simpa using othersStay
        rw [replaced, dropped]
      · have headStays :
            insert ((name, stored) :: rest) key value =
              (name, stored) :: insert rest key value := by
          simp [insert, alter, sameName]
        have headKept :
            ((name, stored) :: rest).filter (fun entry => entry.1 ≠ key) =
              (name, stored) :: rest.filter fun entry => entry.1 ≠ key := by
          simp [sameName]
        rw [headStays, headKept]
        exact ((inductionHypothesis restDistinct).cons _).trans (.swap _ _ _)

/-- A change that keeps the value of a name changes nothing. -/
theorem alter_of_get?
    {entries : Entries α}
    {key : String}
    {value : α}
    {update : Option α → α}
    (found : get? entries key = some value)
    (kept : update (some value) = value) :
    alter entries key update = entries := by
  induction entries with
  | nil =>
      cases found
  | cons entry rest inductionHypothesis =>
      obtain ⟨name, stored⟩ := entry
      by_cases sameName : name = key
      · simp only [get?_cons, sameName, if_true, Option.some.injEq] at found
        simp [alter, sameName, found, kept]
      · simp only [get?_cons, sameName, if_false] at found
        simp [alter, sameName, inductionHypothesis found]

/-- Storing the value that a name has already changes nothing. -/
theorem insert_of_get?
    {entries : Entries α}
    {key : String}
    {value : α}
    (found : get? entries key = some value) :
    insert entries key value = entries :=
  alter_of_get? found rfl

/--
Two changes under one name, one after the other, are the second one of
what the first makes.
-/
theorem alter_alter
    (entries : Entries α)
    (key : String)
    (first second : Option α → α) :
    alter (alter entries key first) key second =
      alter entries key fun existing => second (some (first existing)) := by
  induction entries with
  | nil =>
      simp [alter]
  | cons entry rest inductionHypothesis =>
      obtain ⟨name, stored⟩ := entry
      by_cases sameName : name = key
      · simp [alter, sameName]
      · simp [alter, sameName, inductionHypothesis]

/-- Of two values stored under one name the later one stays. -/
theorem insert_insert
    (entries : Entries α)
    (key : String)
    (first second : α) :
    insert (insert entries key first) key second = insert entries key second :=
  alter_alter entries key _ _

theorem mem_of_get?
    {entries : Entries α}
    {key : String}
    {value : α}
    (found : get? entries key = some value) :
    (key, value) ∈ entries := by
  induction entries with
  | nil =>
      cases found
  | cons entry rest inductionHypothesis =>
      obtain ⟨name, stored⟩ := entry
      by_cases sameName : name = key
      · subst sameName
        simp only [get?_cons, if_true, Option.some.injEq] at found
        rw [found]
        exact List.mem_cons_self
      · simp only [get?_cons, sameName, if_false] at found
        exact List.mem_cons_of_mem _ (inductionHypothesis found)

theorem get?_of_mem
    {entries : Entries α}
    (distinct : entries.Distinct)
    {key : String}
    {value : α}
    (member : (key, value) ∈ entries) :
    get? entries key = some value := by
  induction entries with
  | nil =>
      cases member
  | cons entry rest inductionHypothesis =>
      obtain ⟨notAgain, restDistinct⟩ := List.nodup_cons.mp distinct
      rcases List.mem_cons.mp member with isHead | inRest
      · rw [← isHead, get?_cons, if_pos rfl]
      · have otherName : entry.1 ≠ key := by
          intro sameName
          exact notAgain (sameName ▸ mem_keys_of_mem inRest)
        rw [get?_cons, if_neg otherName]
        exact inductionHypothesis restDistinct inRest

/--
The order of entries with distinct names does not matter to what is
stored under a name.
-/
theorem get?_reverse
    {entries : Entries α}
    (distinct : entries.Distinct)
    (key : String) :
    get? entries.reverse key = get? entries key := by
  have reversedDistinct : Distinct entries.reverse := by
    rw [Distinct, keys, List.map_reverse, List.nodup_reverse]
    exact distinct
  cases found : get? entries key with
  | none =>
      rw [get?_eq_none_iff] at found ⊢
      rw [keys, List.map_reverse, List.mem_reverse]
      exact found
  | some value =>
      exact get?_of_mem reversedDistinct
        (List.mem_reverse.mpr (mem_of_get? found))

/--
After storing pairs a name has the value of its last pair, or
the one it had before.
-/
theorem get?_insertAll
    (entries pairs : Entries α)
    (key : String) :
    get? (insertAll entries pairs) key =
      (get? pairs.reverse key).or (get? entries key) := by
  induction pairs generalizing entries with
  | nil =>
      rfl
  | cons pair rest inductionHypothesis =>
      obtain ⟨name, value⟩ := pair
      have step :
          insertAll entries ((name, value) :: rest) =
            insertAll (insert entries name value) rest :=
        rfl
      rw [step, inductionHypothesis, List.reverse_cons, get?_append,
        Option.or_assoc, get?_insert]
      by_cases sameName : name = key <;> simp [sameName]

/-- A mapping made of pairs holds the last value of each name. -/
theorem get?_ofList
    (pairs : Entries α)
    (key : String) :
    get? (ofList pairs) key = get? pairs.reverse key := by
  rw [ofList, get?_insertAll, get?_nil, Option.or_none]

theorem get?_reverse_eq_none_iff
    {pairs : Entries α}
    {key : String} :
    get? pairs.reverse key = none ↔ pairs.get? key = none := by
  rw [get?_eq_none_iff, get?_eq_none_iff, keys, keys, List.map_reverse,
    List.mem_reverse]

theorem contains_ofList_iff
    {pairs : Entries α}
    {key : String} :
    contains (ofList pairs) key = true ↔ key ∈ keys pairs := by
  rw [← contains_iff_mem_keys, contains, contains, get?_ofList,
    Option.isSome_iff_ne_none, Option.isSome_iff_ne_none, ne_eq, ne_eq,
    get?_reverse_eq_none_iff]

/-- A name that only one value is given for has it. -/
theorem get?_ofList_of_alone
    {pairs : Entries α}
    {key : String}
    {value : α}
    (member : (key, value) ∈ pairs)
    (alone : ∀ entry ∈ pairs, entry.1 = key → entry.2 = value) :
    get? (ofList pairs) key = some value := by
  rw [get?_ofList]
  cases found : get? pairs.reverse key with
  | none =>
      rw [get?_reverse_eq_none_iff, get?_eq_none_iff] at found
      exact absurd (mem_keys_of_mem member) found
  | some last =>
      have isLast := List.mem_reverse.mp (mem_of_get? found)
      exact congrArg some (alone _ isLast rfl)

/-- The entries under other names. -/
def besides
    (entries : Entries α)
    (key : String) :
    Entries α :=
  entries.filter fun entry => entry.1 ≠ key

theorem besides_cons_self
    {entry : String × α}
    {key : String}
    (sameName : entry.1 = key)
    (rest : Entries α) :
    besides (entry :: rest) key = besides rest key :=
  List.filter_cons_of_neg (by simp [sameName])

theorem besides_cons_of_ne
    {entry : String × α}
    {key : String}
    (otherName : entry.1 ≠ key)
    (rest : Entries α) :
    besides (entry :: rest) key = entry :: besides rest key :=
  List.filter_cons_of_pos (decide_eq_true otherName)

theorem besides_insert_self
    (entries : Entries α)
    (key : String)
    (value : α) :
    besides (insert entries key value) key = besides entries key := by
  induction entries with
  | nil =>
      exact besides_cons_self rfl []
  | cons entry rest inductionHypothesis =>
      obtain ⟨name, stored⟩ := entry
      rw [insert, alter]
      split
      next sameName =>
        rw [besides_cons_self sameName, besides_cons_self sameName]
      next otherName =>
        rw [besides_cons_of_ne otherName, besides_cons_of_ne otherName]
        exact congrArg (List.cons _) inductionHypothesis

theorem besides_insert_of_ne
    {key other : String}
    (different : other ≠ key)
    (entries : Entries α)
    (value : α) :
    besides (insert entries other value) key =
      insert (besides entries key) other value := by
  induction entries with
  | nil =>
      exact besides_cons_of_ne different []
  | cons entry rest inductionHypothesis =>
      obtain ⟨name, stored⟩ := entry
      simp only [insert] at inductionHypothesis
      simp only [insert, alter]
      by_cases isKey : name = key
      · have otherName : name ≠ other :=
          fun same => different (same.symm.trans isKey)
        rw [if_neg otherName, besides_cons_self isKey, besides_cons_self isKey]
        exact inductionHypothesis
      · by_cases sameName : name = other
        · rw [if_pos sameName, besides_cons_of_ne isKey,
            besides_cons_of_ne isKey, alter, if_pos sameName]
        · rw [if_neg sameName, besides_cons_of_ne isKey,
            besides_cons_of_ne isKey, alter, if_neg sameName,
            inductionHypothesis]

/-- Store every pair of a list whose name has no value yet. -/
def fill
    (entries pairs : Entries α) :
    Entries α :=
  pairs.foldl (fun stored pair => insertIfAbsent stored pair.1 pair.2) entries

/--
Filling keeps the values that are there and takes the first one
of every other name.
-/
theorem get?_fill
    (entries pairs : Entries α)
    (key : String) :
    get? (fill entries pairs) key = (get? entries key).or (get? pairs key) := by
  induction pairs generalizing entries with
  | nil =>
      exact (Option.or_none).symm
  | cons pair rest inductionHypothesis =>
      obtain ⟨name, value⟩ := pair
      have step :
          fill entries ((name, value) :: rest) =
            fill (insertIfAbsent entries name value) rest :=
        rfl
      rw [step, inductionHypothesis, insertIfAbsent, get?_alter, get?_cons]
      by_cases sameName : name = key
      · subst sameName
        cases get? entries name <;> simp
      · rw [if_neg sameName, if_neg sameName]

/-- What fills entries adds nothing under a name that has a value. -/
theorem fill_besides
    {entries : Entries α}
    {key : String}
    (present : contains entries key = true)
    (pairs : Entries α) :
    fill entries (besides pairs key) = fill entries pairs := by
  induction pairs generalizing entries with
  | nil =>
      rfl
  | cons pair rest inductionHypothesis =>
      obtain ⟨name, value⟩ := pair
      have stillPresent :
          contains (insertIfAbsent entries name value) key = true := by
        rw [contains, insertIfAbsent, get?_alter]
        split
        · rfl
        · exact present
      by_cases isKey : name = key
      · subst isKey
        obtain ⟨stored, found⟩ := Option.isSome_iff_exists.mp present
        have nothingAdded : insertIfAbsent entries name value = entries :=
          alter_of_get? found rfl
        rw [besides_cons_self rfl, inductionHypothesis present]
        exact congrArg (fill · rest) nothingAdded.symm
      · rw [besides_cons_of_ne isKey]
        exact inductionHypothesis stillPresent

end PolyQuery.Entries
