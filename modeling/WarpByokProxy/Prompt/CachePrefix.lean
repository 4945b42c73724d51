import WarpByokProxy.Prompt.CachePlacement

/-
  Cached prefixes from one turn to the next.

  The last cache point of a turn ends the prefix that the
  model provider caches. On the next turn, when the model's
  answers and one message of the user have been added, the
  message at the same position is tagged again, now as the
  first of two, and the prefix up to it is the same apart
  from the cache points before it.

  Key definitions include:
    * `cachedMessages`
    * `Tags`
    * `LastTag`
    * `eraseTagsBefore`
    * `PrefixSurvives`

  Key theorems include:
    * `tags_iff_isLast`
    * `lastTag_iff`
    * `tags_next_iff`
    * `prefixSurvives_of_lastTag`
-/

------------------------------------------------------------
-- Prefixes
------------------------------------------------------------

namespace WarpByokProxy

variable {F : Type}

/- The messages once cache points are injected. -/
def cachedMessages
    (messages : List (Json F))
    (system : Option (Json F)) : List (Json F) :=
  (applyCachePoints
    { enabled := true
      messages := messages
      system := system }).messages

/- The message at the position is given a cache point. -/
def Tags
    (messages : List (Json F))
    (system : Option (Json F))
    (i : Nat) : Prop :=
  (cachedMessages messages system)[i]? ≠ messages[i]?

/- The last message that is given a cache point. -/
structure LastTag
    (messages : List (Json F))
    (system : Option (Json F))
    (p : Nat) : Prop where
  tagged : Tags messages system p
  last : ∀ i, Tags messages system i → i ≤ p

/- The result without the blocks added before a position. -/
def eraseTagsBefore
    (p : Nat)
    (before after : List (Json F)) : List (Json F) :=
  after.mapIdx (fun i message =>
    if i < p ∧ isTagged before i = true then
      dropTrailingBlock message
    else
      message)

/-
  On the next turn the message at the position is the first
  of the two tagged ones, and ends the same prefix.
-/
structure PrefixSurvives
    (messages next : List (Json F))
    (system nextSystem : Option (Json F))
    (p : Nat) : Prop where
  retagged :
    ∃ q, p < q ∧
      ∀ i, Tags next nextSystem i ↔ i = p ∨ i = q
  samePrefix :
    (eraseTagsBefore p messages
        (cachedMessages messages system)).take (p + 1) =
      (eraseTagsBefore p next
        (cachedMessages next nextSystem)).take (p + 1)

end WarpByokProxy

------------------------------------------------------------
-- Tags As Last Matches
------------------------------------------------------------

namespace WarpByokProxy

variable {F : Type}

/- The content of every message is an array. -/
def ArrayContents
    (messages : List (Json F)) : Prop :=
  ∀ message ∈ messages,
    (contentArray message).isSome = true

/- Array content is content. -/
theorem ArrayContents.usersHaveContent
    {messages : List (Json F)}
    (hContents : ArrayContents messages) :
    UsersHaveContent messages := by
  intro message hMem _
  have hContent := hContents message hMem
  unfold contentArray at hContent
  cases hGet : message.get "content" with
  | none =>
      rw [hGet] at hContent
      contradiction
  | some value => rfl

/- The tagged messages are the last two of the user. -/
theorem tags_iff_isLast
    {messages : List (Json F)}
    (hContents : ArrayContents messages)
    (system : Option (Json F))
    (i : Nat) :
    Tags messages system i ↔
      LastMatches.IsLast (hasRole "user") 2 messages i := by
  have hTags :
      Tags messages system i ↔
        isTagged messages i = true :=
    getElem?_tagLastTwo_ne_iff hContents.usersHaveContent i
  rw [hTags, ← LastMatches.mem_last_iff]
  cases hGet : messages[i]? with
  | none =>
      have hNot : ¬ isTagged messages i = true := by
        simp [isTagged, hGet]
      refine iff_of_false hNot ?_
      rw [LastMatches.mem_last_iff]
      rintro ⟨message, hSome, -, -⟩
      rw [hGet] at hSome
      contradiction
  | some message =>
      rw [isTagged_iff messages hGet]
      exact and_iff_left
        (hContents message (List.mem_of_getElem? hGet))

/- The last tagged message is the last one of the user. -/
theorem lastTag_iff
    {messages : List (Json F)}
    (hContents : ArrayContents messages)
    (system : Option (Json F))
    (p : Nat) :
    LastTag messages system p ↔
      LastMatches.IsLast (hasRole "user") 1 messages p := by
  constructor
  · rintro ⟨hTagged, hLast⟩
    rw [tags_iff_isLast hContents] at hTagged
    rcases hTagged with ⟨message, hGet, hRole, -⟩
    rcases LastMatches.exists_isLast_one
        (List.mem_of_getElem? hGet) hRole with ⟨q, hQ⟩
    have hLe : p ≤ q := hQ.le hGet hRole
    have hGe : q ≤ p := by
      apply hLast
      rw [tags_iff_isLast hContents]
      exact hQ.mono (Nat.le_succ 1)
    rw [Nat.le_antisymm hLe hGe]
    exact hQ
  · intro hLast
    refine { tagged := ?_, last := ?_ }
    · rw [tags_iff_isLast hContents]
      exact hLast.mono (Nat.le_succ 1)
    · intro i hTagged
      rw [tags_iff_isLast hContents] at hTagged
      rcases hTagged with ⟨message, hGet, hRole, -⟩
      exact hLast.le hGet hRole

end WarpByokProxy

------------------------------------------------------------
-- The Next Turn
------------------------------------------------------------

namespace WarpByokProxy

variable {F : Type}

/- A message of the assistant is none of the user. -/
theorem not_user_of_assistant
    {message : Json F}
    (hRole : hasRole "assistant" message = true) :
    hasRole "user" message = false := by
  have hAssistant :
      message.getStr "role" = some "assistant" :=
    of_decide_eq_true hRole
  rw [hasRole, hAssistant]
  rfl

/-
  After the answers and a message of the user, the tagged
  messages are that message and the last one before it.
-/
theorem tags_next_iff
    {messages answers : List (Json F)}
    {user : Json F}
    (hContents :
      ArrayContents (messages ++ answers ++ [user]))
    (hAnswers :
      ∀ message ∈ answers,
        hasRole "assistant" message = true)
    (hUser : hasRole "user" user = true)
    (system : Option (Json F))
    (i : Nat) :
    Tags (messages ++ answers ++ [user]) system i ↔
      LastMatches.IsLast (hasRole "user") 1 messages i ∨
        i = (messages ++ answers).length := by
  rw [tags_iff_isLast hContents]
  by_cases hNew : i = (messages ++ answers).length
  · subst hNew
    rw [LastMatches.isLast_length_append_iff]
    exact iff_of_true hUser (Or.inr rfl)
  · have hSilent :
        ∀ message ∈ answers,
          hasRole "user" message = false :=
      fun message hMem =>
        not_user_of_assistant (hAnswers message hMem)
    rw [LastMatches.isLast_append_singleton_iff _ 1 _ user
        hNew, if_pos hUser,
      LastMatches.isLast_append_iff_of_forall hSilent]
    exact (or_iff_left hNew).symm

/-
  Below the position the erased result is the input, and at
  the position it is the tagged message.
-/
theorem getElem?_eraseTagsBefore
    {messages : List (Json F)}
    (hContents : ArrayContents messages)
    (system : Option (Json F))
    {p i : Nat}
    (hTagged : isTagged messages p = true)
    (hLe : i ≤ p) :
    (eraseTagsBefore p messages
        (cachedMessages messages system))[i]? =
      messages[i]?.map (fun message =>
        if i = p then tagMessage message else message) := by
  have hCached :
      (cachedMessages messages system)[i]? =
        messages[i]?.map (fun message =>
          if isTagged messages i then
            tagMessage message
          else
            message) :=
    getElem?_tagLastTwo hContents.usersHaveContent i
  rw [eraseTagsBefore, List.getElem?_mapIdx, hCached,
    Option.map_map]
  cases hGet : messages[i]? with
  | none => rfl
  | some message =>
      rw [Option.map_some, Option.map_some,
        Option.some.injEq, Function.comp_apply]
      by_cases hEq : i = p
      · subst hEq
        rw [if_neg (fun hBoth => Nat.lt_irrefl i hBoth.1),
          if_pos hTagged, if_pos rfl]
      · have hLt : i < p := Nat.lt_of_le_of_ne hLe hEq
        rw [if_neg hEq]
        by_cases hEarlier : isTagged messages i = true
        · have hContent :=
            hContents message (List.mem_of_getElem? hGet)
          rw [if_pos ⟨hLt, hEarlier⟩, if_pos hEarlier]
          exact
            (appendsToContent_tagMessage
              hContent).dropTrailingBlock_eq
        · rw [if_neg (fun hBoth => hEarlier hBoth.2),
            if_neg hEarlier]

/-
  The prefix that ends with the last cache point survives to
  the next turn.
-/
theorem prefixSurvives_of_lastTag
    {messages answers : List (Json F)}
    {user : Json F}
    (hContents :
      ArrayContents (messages ++ answers ++ [user]))
    (hUsers :
      ∃ message ∈ messages,
        hasRole "user" message = true)
    (hAnswers :
      ∀ message ∈ answers,
        hasRole "assistant" message = true)
    (hUser : hasRole "user" user = true)
    (system nextSystem : Option (Json F)) :
    (∃ p, LastTag messages system p) ∧
      ∀ p, LastTag messages system p →
        PrefixSurvives messages
          (messages ++ answers ++ [user]) system nextSystem
          p := by
  have hMessages : ArrayContents messages := by
    intro message hMem
    apply hContents message
    exact List.mem_append_left _
      (List.mem_append_left _ hMem)
  constructor
  · rcases hUsers with ⟨message, hMem, hRole⟩
    rcases LastMatches.exists_isLast_one hMem hRole with
      ⟨p, hLast⟩
    exact ⟨p, (lastTag_iff hMessages system p).mpr hLast⟩
  · intro p hLast
    have hMatch := (lastTag_iff hMessages system p).mp hLast
    have hNext :
        ∀ i,
          Tags (messages ++ answers ++ [user]) nextSystem
              i ↔
            i = p ∨ i = (messages ++ answers).length := by
      intro i
      rw [tags_next_iff hContents hAnswers hUser]
      constructor
      · rintro (hOther | hEnd)
        · exact Or.inl (hOther.unique hMatch)
        · exact Or.inr hEnd
      · rintro (rfl | hEnd)
        · exact Or.inl hMatch
        · exact Or.inr hEnd
    have hLt : p < messages.length := by
      rcases hMatch with ⟨message, hGet, -, -⟩
      exact (List.getElem?_eq_some_iff.mp hGet).1
    refine
      { retagged :=
          ⟨(messages ++ answers).length, ?_, hNext⟩
        samePrefix := ?_ }
    · rw [List.length_append]
      exact Nat.lt_of_lt_of_le hLt (Nat.le_add_right _ _)
    · have hTagged : isTagged messages p = true :=
        (getElem?_tagLastTwo_ne_iff
          hMessages.usersHaveContent p).mp hLast.tagged
      have hRetagged :
          isTagged (messages ++ answers ++ [user]) p =
            true :=
        (getElem?_tagLastTwo_ne_iff
          hContents.usersHaveContent p).mp
            ((hNext p).mpr (Or.inl rfl))
      apply List.ext_getElem?
      intro i
      by_cases hLe : i ≤ p
      · rw [List.getElem?_take_of_lt (Nat.lt_succ_of_le hLe),
          List.getElem?_take_of_lt (Nat.lt_succ_of_le hLe),
          getElem?_eraseTagsBefore hMessages _ hTagged hLe,
          getElem?_eraseTagsBefore hContents _ hRetagged
            hLe,
          List.append_assoc,
          List.getElem?_append_left
            (Nat.lt_of_le_of_lt hLe hLt)]
      · have hGt : ¬ i < p + 1 :=
          fun hLt => hLe (Nat.le_of_lt_succ hLt)
        rw [List.getElem?_take, List.getElem?_take,
          if_neg hGt, if_neg hGt]

/- A third answer and a fourth question. -/
theorem prefixSurvives_fourth_question :
    (∃ p, LastTag threeQuestions none p) ∧
      ∀ p, LastTag threeQuestions none p →
        PrefixSurvives threeQuestions
          (threeQuestions ++ [messageOf "assistant" "3"] ++
            [messageOf "user" "four"])
          none none p :=
  prefixSurvives_of_lastTag
    (List.all_eq_true.mp rfl)
    ⟨messageOf "user" "one", List.mem_cons_self, rfl⟩
    (List.all_eq_true.mp rfl)
    rfl none none

end WarpByokProxy
