import WarpByokProxy.Cache

/-
  Where cache points are placed, and what they leave alone.

  A message is tagged exactly when it is a user message with
  fewer than two user messages after it and its content is
  an array. Tagging appends one block to that array, and
  nothing else changes.

  Key definitions include:
    * `contentArray`
    * `isTagged`
    * `AppendsToContent`
    * `dropTrailingBlock`
    * `PlacesCachePoints`

  Key theorems include:
    * `getElem?_tagLastTwo`
    * `appendsToContent_tagMessage`
    * `length_taggedPositions_le`
    * `placesCachePoints_applyCachePoints`
-/

------------------------------------------------------------
-- Tagged Messages
------------------------------------------------------------

namespace WarpByokProxy

variable {F : Type}

/- The blocks of a message whose content is an array. -/
def contentArray
    (message : Json F) : Option (List (Json F)) :=
  (message.get "content").bind Json.asArray

/-
  The position holds a user message with array content and
  fewer than two later user messages.
-/
def isTagged
    (messages : List (Json F))
    (i : Nat) : Bool :=
  messages[i]?.any (fun message =>
    hasRole "user" message &&
      decide
        ((messages.drop (i + 1)).countP (hasRole "user") <
          2) &&
      (contentArray message).isSome)

/-
  The objects differ only in one block, which the second has
  at the end of its content array.
-/
def AppendsToContent
    (block before after : Json F) : Prop :=
  ∃ first items rest,
    before =
        .object
          (first ++ ("content", .array items) :: rest) ∧
      "content" ∉ first.map Prod.fst ∧
      after =
        .object
          (first ++
            ("content", .array (items ++ [block])) :: rest)

/- The array without its last item. -/
def dropLastItem : Json F → Json F
  | .array items => .array items.dropLast
  | json => json

/- The message without the last block of its content. -/
def dropTrailingBlock
    (message : Json F) : Json F :=
  message.indexMut "content" dropLastItem

/- The messages without the blocks that tagging added. -/
def dropAdded
    (before after : List (Json F)) : List (Json F) :=
  after.mapIdx (fun i message =>
    if isTagged before i then
      dropTrailingBlock message
    else
      message)

/- The block that marks a cache point, written out. -/
def markerBlock : Json F :=
  .object
    [("cachePoint", .object [("type", .string "default")])]

/- What injecting cache points does to messages and system. -/
structure PlacesCachePoints
    (messages : List (Json F))
    (system : Option (Json F))
    (result : CacheResult F) : Prop where
  length : result.messages.length = messages.length
  differs :
    ∀ i,
      result.messages[i]? ≠ messages[i]? ↔
        isTagged messages i = true
  appended :
    ∀ i before after,
      messages[i]? = some before →
      result.messages[i]? = some after →
      isTagged messages i = true →
        AppendsToContent markerBlock before after
  systemTagged :
    result.system =
      system.map (fun value =>
        match value with
        | .array items => .array (items ++ [markerBlock])
        | other => other)
  atMostTwo :
    ∀ tagged : List Nat,
      tagged.Nodup →
      (∀ i ∈ tagged, result.messages[i]? ≠ messages[i]?) →
        tagged.length ≤ 2
  restored : dropAdded messages result.messages = messages
  systemRestored : result.system.map dropLastItem = system

end WarpByokProxy

------------------------------------------------------------
-- One Message
------------------------------------------------------------

namespace WarpByokProxy

variable {F : Type}

/- Array content stands at the first entry of its key. -/
theorem exists_entries_of_contentArray
    {message : Json F}
    {items : List (Json F)}
    (hContent : contentArray message = some items) :
    ∃ first rest,
      message =
          .object
            (first ++ ("content", .array items) :: rest) ∧
        "content" ∉ first.map Prod.fst := by
  have hGet : message.get "content" = some (.array items) :=
    (Json.bind_asArray_eq_some_iff _ items).mp hContent
  rcases Json.exists_entries_of_get_eq_some hGet with
    ⟨entries, rfl⟩
  rcases Json.exists_append_of_lookup_eq_some hGet with
    ⟨first, rest, rfl, hFirst⟩
  exact ⟨first, rest, rfl, hFirst⟩

/- Mutating content changes its first entry only. -/
theorem indexMut_content
    {first : List (String × Json F)}
    (hFirst : "content" ∉ first.map Prod.fst)
    (f : Json F → Json F)
    (value : Json F)
    (rest : List (String × Json F)) :
    (Json.object
        (first ++ ("content", value) :: rest)).indexMut
          "content" f =
      .object (first ++ ("content", f value) :: rest) := by
  rw [Json.indexMut, Json.lookup_append_cons hFirst,
    Option.isSome_some, if_pos rfl,
    Json.modifyEntry_append_cons hFirst]

/- Tagging appends one block to array content. -/
theorem appendsToContent_tagMessage
    {message : Json F}
    (hContent : (contentArray message).isSome = true) :
    AppendsToContent cachePointBlock message
      (tagMessage message) := by
  rcases Option.isSome_iff_exists.mp hContent with
    ⟨items, hItems⟩
  rcases exists_entries_of_contentArray hItems with
    ⟨first, rest, rfl, hFirst⟩
  refine ⟨first, items, rest, rfl, hFirst, ?_⟩
  rw [tagMessage, indexMut_content hFirst]
  rfl

/- Tagging leaves any other content alone. -/
theorem tagMessage_of_contentArray_eq_none
    {message : Json F}
    (hKey : (message.get "content").isSome = true)
    (hContent : contentArray message = none) :
    tagMessage message = message := by
  rcases Option.isSome_iff_exists.mp hKey with
    ⟨value, hGet⟩
  rcases Json.exists_entries_of_get_eq_some hGet with
    ⟨entries, rfl⟩
  rcases Json.exists_append_of_lookup_eq_some hGet with
    ⟨first, rest, rfl, hFirst⟩
  rw [contentArray, hGet, Option.bind_some] at hContent
  rw [tagMessage, indexMut_content hFirst,
    Json.push_of_asArray_eq_none hContent]

/- Dropping the last item undoes an append. -/
theorem dropLastItem_push
    (item json : Json F) :
    dropLastItem (Json.push item json) = json := by
  cases json with
  | array items =>
      exact congrArg Json.array List.dropLast_concat
  | null => rfl
  | bool value => rfl
  | number value => rfl
  | string value => rfl
  | object entries => rfl

/- An appended block makes a difference. -/
theorem AppendsToContent.ne
    {block before after : Json F}
    (hAppends : AppendsToContent block before after) :
    after ≠ before := by
  rcases hAppends with ⟨first, items, rest, rfl, -, rfl⟩
  intro hEq
  have hEntries := Json.object.inj hEq
  have hTails := List.append_cancel_left hEntries
  have hValues := (Prod.mk.inj (List.cons.inj hTails).1).2
  have hItems := Json.array.inj hValues
  exact List.cons_ne_nil _ _
    (List.append_right_eq_self.mp hItems)

/- Dropping the last block undoes an append. -/
theorem AppendsToContent.dropTrailingBlock_eq
    {block before after : Json F}
    (hAppends : AppendsToContent block before after) :
    dropTrailingBlock after = before := by
  rcases hAppends with
    ⟨first, items, rest, rfl, hFirst, rfl⟩
  rw [dropTrailingBlock, indexMut_content hFirst,
    dropLastItem, List.dropLast_concat]

end WarpByokProxy

------------------------------------------------------------
-- All Messages
------------------------------------------------------------

namespace WarpByokProxy

variable {F : Type}

/- The content key is present in every message of the user. -/
def UsersHaveContent
    (messages : List (Json F)) : Prop :=
  ∀ message ∈ messages,
    hasRole "user" message = true →
      (message.get "content").isSome = true

/- A tagged position is one of the last two of the user. -/
theorem isTagged_iff
    (messages : List (Json F))
    {i : Nat}
    {message : Json F}
    (hGet : messages[i]? = some message) :
    isTagged messages i = true ↔
      i ∈ LastMatches.last (hasRole "user") 2 messages ∧
        (contentArray message).isSome = true := by
  rw [LastMatches.mem_last_iff, isTagged, hGet,
    Option.any_some, Bool.and_eq_true, Bool.and_eq_true,
    decide_eq_true_iff]
  constructor
  · rintro ⟨⟨hRole, hFew⟩, hContent⟩
    exact ⟨⟨message, hGet, hRole, hFew⟩, hContent⟩
  · rintro ⟨⟨other, hOther, hRole, hFew⟩, hContent⟩
    rw [hGet, Option.some.injEq] at hOther
    subst hOther
    exact ⟨⟨hRole, hFew⟩, hContent⟩

/- Each message is tagged or left alone. -/
theorem getElem?_tagLastTwo
    {messages : List (Json F)}
    (hUsers : UsersHaveContent messages)
    (i : Nat) :
    (tagLastTwo messages)[i]? =
      messages[i]?.map (fun message =>
        if isTagged messages i then
          tagMessage message
        else
          message) := by
  have hMap :
      (tagLastTwo messages)[i]? =
        messages[i]?.map (fun message =>
          if i ∈ LastMatches.last (hasRole "user") 2
              messages then
            tagMessage message
          else
            message) :=
    List.getElem?_mapIdx
  rw [hMap]
  cases hGet : messages[i]? with
  | none => rfl
  | some message =>
      rw [Option.map_some, Option.map_some,
        Option.some.injEq]
      have hIff := isTagged_iff messages hGet
      by_cases hLast :
          i ∈ LastMatches.last (hasRole "user") 2 messages
      · rw [if_pos hLast]
        by_cases hTagged : isTagged messages i = true
        · rw [if_pos hTagged]
        · -- A user message whose content is not an array.
          rw [if_neg hTagged]
          rw [hIff, not_and] at hTagged
          rcases (LastMatches.mem_last_iff _ _ _ _).mp hLast
            with ⟨other, hOther, hRole, -⟩
          rw [hGet, Option.some.injEq] at hOther
          subst hOther
          apply tagMessage_of_contentArray_eq_none
          · exact hUsers message
              (List.mem_of_getElem? hGet) hRole
          · exact Option.not_isSome_iff_eq_none.mp
              (hTagged hLast)
      · have hTagged : ¬ isTagged messages i = true := by
          rw [hIff]
          exact fun hBoth => hLast hBoth.1
        rw [if_neg hLast, if_neg hTagged]

/- The positions that differ are the tagged ones. -/
theorem getElem?_tagLastTwo_ne_iff
    {messages : List (Json F)}
    (hUsers : UsersHaveContent messages)
    (i : Nat) :
    (tagLastTwo messages)[i]? ≠ messages[i]? ↔
      isTagged messages i = true := by
  rw [getElem?_tagLastTwo hUsers]
  cases hGet : messages[i]? with
  | none => simp [isTagged, hGet]
  | some message =>
      rw [Option.map_some, Ne, Option.some.injEq]
      by_cases hTagged : isTagged messages i = true
      · have hContent :=
          ((isTagged_iff messages hGet).mp hTagged).2
        rw [if_pos hTagged]
        exact iff_of_true
          (appendsToContent_tagMessage hContent).ne hTagged
      · rw [if_neg hTagged]
        exact iff_of_false (fun hNe => hNe rfl) hTagged

/- Different tagged positions are at most two. -/
theorem length_taggedPositions_le
    {messages : List (Json F)}
    {tagged : List Nat}
    (hNodup : tagged.Nodup)
    (hTagged : ∀ i ∈ tagged, isTagged messages i = true) :
    tagged.length ≤ 2 := by
  have hSubset :
      tagged ⊆
        LastMatches.last (hasRole "user") 2 messages := by
    intro i hMem
    cases hGet : messages[i]? with
    | none =>
        have hFalse := hTagged i hMem
        simp [isTagged, hGet] at hFalse
    | some message =>
        exact
          ((isTagged_iff messages hGet).mp
            (hTagged i hMem)).1
  exact Nat.le_trans (hNodup.length_le_of_subset hSubset)
    (LastMatches.length_last_le _ 2 messages)

/- Dropping the added blocks gives the messages back. -/
theorem dropAdded_tagLastTwo
    {messages : List (Json F)}
    (hUsers : UsersHaveContent messages) :
    dropAdded messages (tagLastTwo messages) = messages := by
  apply List.ext_getElem?
  intro i
  rw [dropAdded, List.getElem?_mapIdx,
    getElem?_tagLastTwo hUsers, Option.map_map]
  cases hGet : messages[i]? with
  | none => rfl
  | some message =>
      rw [Option.map_some, Option.some.injEq,
        Function.comp_apply]
      by_cases hTagged : isTagged messages i = true
      · have hContent :=
          ((isTagged_iff messages hGet).mp hTagged).2
        rw [if_pos hTagged, if_pos hTagged]
        exact
          (appendsToContent_tagMessage
            hContent).dropTrailingBlock_eq
      · rw [if_neg hTagged, if_neg hTagged]

/-
  Injection places its cache points, and is the identity
  when caching is disabled.
-/
theorem placesCachePoints_applyCachePoints
    {messages : List (Json F)}
    (hUsers : UsersHaveContent messages)
    (system : Option (Json F)) :
    PlacesCachePoints messages system
        (applyCachePoints
          { enabled := true
            messages := messages
            system := system }) ∧
      applyCachePoints
          { enabled := false
            messages := messages
            system := system } =
        { messages := messages, system := system } := by
  refine ⟨?_, rfl⟩
  refine
    { length := List.length_mapIdx
      differs := getElem?_tagLastTwo_ne_iff hUsers
      appended := ?_
      systemTagged := ?_
      atMostTwo := ?_
      restored := dropAdded_tagLastTwo hUsers
      systemRestored := ?_ }
  · intro i before after hBefore hAfter hTagged
    have hContent :=
      ((isTagged_iff messages hBefore).mp hTagged).2
    have hTag : tagMessage before = after := by
      have hGet := getElem?_tagLastTwo hUsers i
      rw [hBefore, Option.map_some, if_pos hTagged] at hGet
      exact Option.some.inj (hGet.symm.trans hAfter)
    rw [← hTag]
    exact appendsToContent_tagMessage hContent
  · cases system with
    | none => rfl
    | some value => cases value <;> rfl
  · intro tagged hNodup hDiffer
    apply length_taggedPositions_le hNodup
    intro i hMem
    exact (getElem?_tagLastTwo_ne_iff hUsers i).mp
      (hDiffer i hMem)
  · rw [applyCachePoints]
    cases system with
    | none => rfl
    | some value =>
        exact congrArg some
          (dropLastItem_push cachePointBlock value)

/- A message of one text. -/
def messageOf
    (role text : String) : Json Empty :=
  .object
    [("role", .string role),
      ("content", .array
        [.ofStrings [("type", "text"), ("text", text)]])]

/- Three questions, two of which have been answered. -/
def threeQuestions : List (Json Empty) :=
  [messageOf "user" "one", messageOf "assistant" "1",
    messageOf "user" "two", messageOf "assistant" "2",
    messageOf "user" "three"]

theorem placesCachePoints_applyCachePoints_three_questions :
    PlacesCachePoints threeQuestions (some (.array []))
        (applyCachePoints
          { enabled := true
            messages := threeQuestions
            system := some (.array []) }) ∧
      applyCachePoints
          { enabled := false
            messages := threeQuestions
            system := some (.array []) } =
        { messages := threeQuestions
          system := some (.array []) } := by
  have hContents :
      ∀ message ∈ threeQuestions,
        (message.get "content").isSome = true :=
    List.all_eq_true.mp rfl
  exact
    placesCachePoints_applyCachePoints
      (fun message hMem _ => hContents message hMem)
      (some (.array []))

end WarpByokProxy
