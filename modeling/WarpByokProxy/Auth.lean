import WarpByokProxy.Library.Trim
import WarpByokProxy.Translator

/-
  Authentication, translated from `auth.rs`, with the client
  factory of `bedrock_client.rs`.

  What the loader of the SDK is told is recorded as the
  settings of the client.

  Key definitions include:
    * `AuthInputs`
    * `ResolvedAuth`
    * `resolveAuth`
    * `ClientSettings`
    * `buildClient`
    * `AuthInputs.Resolves`

  Key theorems include:
    * `not_trimIsEmpty_afterBearer`
    * `resolveAuth_eq_ok_iff`
-/

------------------------------------------------------------
-- Modes And Inputs
------------------------------------------------------------

namespace WarpByokProxy

/- The mode that the configuration names. -/
inductive Config.AuthMode where
  | apiKey
  | profile
  | credentials
  | defaultChain
deriving DecidableEq, Repr

/- The mode that is resolved. -/
inductive AuthMode where
  | apiKey
  | profile
  | credentials
  | defaultChain
deriving DecidableEq, Repr

/- Modes of the configuration are modes. -/
def AuthMode.ofConfig : Config.AuthMode → AuthMode
  | .apiKey => .apiKey
  | .profile => .profile
  | .credentials => .credentials
  | .defaultChain => .defaultChain

structure AuthInputs where
  mode : AuthMode
  apiKey : Option String
  profile : Option String
  accessKey : Option String
  secretKey : Option String
  sessionToken : Option String
  region : Option String
  skipAuth : Bool

/- The inputs when nothing is given. -/
def AuthInputs.default : AuthInputs where
  mode := .defaultChain
  apiKey := none
  profile := none
  accessKey := none
  secretKey := none
  sessionToken := none
  region := none
  skipAuth := false

inductive ResolvedAuth where
  | bearerToken (token : String)
  | profile (name : String)
  | explicitKeys
      (accessKey secretKey : String)
      (sessionToken : Option String)
  | defaultChain
  | skipped
deriving DecidableEq, Repr

inductive AuthError where
  | apiKeyEmpty
  | apiKeyBearerOnly
  | profileMissing
  | accessKeyMissing
  | secretKeyMissing
deriving DecidableEq, Repr

/- The text of an error. -/
def AuthError.text : AuthError → String
  | .apiKeyEmpty => "api key is empty or whitespace-only"
  | .apiKeyBearerOnly =>
      "api key is a literal 'Bearer' prefix with no token"
  | .profileMissing => "profile mode requires a profile name"
  | .accessKeyMissing =>
      "credentials mode requires access_key"
  | .secretKeyMissing =>
      "credentials mode requires secret_key"

end WarpByokProxy

------------------------------------------------------------
-- Resolution
------------------------------------------------------------

namespace WarpByokProxy

open StringParts (startsWith)

/- `str::trim`. -/
def trim
    (text : String) : String :=
  String.ofList (Trim.both charIsWhitespace text.toList)

/- `str::eq_ignore_ascii_case`. -/
def eqIgnoreAsciiCase
    (left right : String) : Bool :=
  left.toList.map Char.toLower =
    right.toList.map Char.toLower

/- The text is given and not blank. -/
def nonBlank
    (text : Option String) : Option String :=
  text.filter (fun s => !trimIsEmpty s)

/- Resolve the inputs of the selected mode. -/
def resolveAuth
    (inp : AuthInputs) : Except AuthError ResolvedAuth :=
  if inp.skipAuth then
    .ok .skipped
  else
    match inp.mode with
    | .apiKey =>
        let key := inp.apiKey.getD ""
        let trimmed := trim key
        if trimmed.isEmpty then
          .error .apiKeyEmpty
        else if eqIgnoreAsciiCase trimmed "bearer" ||
            startsWith "Bearer " trimmed &&
              trimIsEmpty
                (String.ofList (trimmed.toList.drop 7)) then
          .error .apiKeyBearerOnly
        else
          .ok (.bearerToken trimmed)
    | .profile =>
        match nonBlank inp.profile with
        | some p => .ok (.profile p)
        | none => .error .profileMissing
    | .credentials =>
        match nonBlank inp.accessKey with
        | none => .error .accessKeyMissing
        | some accessKey =>
            match nonBlank inp.secretKey with
            | none => .error .secretKeyMissing
            | some secretKey =>
                .ok
                  (.explicitKeys accessKey secretKey
                    inp.sessionToken)
    | .defaultChain => .ok .defaultChain

end WarpByokProxy

------------------------------------------------------------
-- The Client
------------------------------------------------------------

namespace WarpByokProxy

/- What the SDK's client is set up with. -/
structure ClientSettings where
  region : String
  profileName : Option String
  credentials : Option (String × String × Option String)
  endpointUrl : Option String
deriving DecidableEq, Repr

/- Set up a client; this does not fail. -/
def buildClient
    (auth : ResolvedAuth)
    (region : String)
    (endpoint : Option String) :
    Except String ClientSettings :=
  let settings : ClientSettings :=
    match auth with
    | .profile p =>
        { region := region
          profileName := some p
          credentials := none
          endpointUrl := none }
    | .explicitKeys accessKey secretKey sessionToken =>
        { region := region
          profileName := none
          credentials :=
            some (accessKey, secretKey, sessionToken)
          endpointUrl := none }
    | _ =>
        { region := region
          profileName := none
          credentials := none
          endpointUrl := none }
  .ok { settings with endpointUrl := endpoint }

end WarpByokProxy

------------------------------------------------------------
-- What Resolves
------------------------------------------------------------

namespace WarpByokProxy

open StringParts (startsWith)

/- Only a blank text has nothing left when it is trimmed. -/
theorem isEmpty_trim
    (text : String) :
    (trim text).isEmpty = trimIsEmpty text := by
  rw [Bool.eq_iff_iff, String.isEmpty_iff,
    ← String.toList_inj, trim, String.toList_ofList,
    trimIsEmpty, List.all_eq_true]
  exact Trim.both_eq_nil_iff charIsWhitespace text.toList

/-
  Behind a beginning that ends in a space there is always
  something left of a trimmed text.
-/
theorem not_trimIsEmpty_afterBearer
    {key : String}
    (hStart : startsWith "Bearer " (trim key) = true) :
    trimIsEmpty
        (String.ofList ((trim key).toList.drop 7)) =
      false := by
  rw [StringParts.startsWith_iff] at hStart
  rcases hStart with ⟨rest, hRest⟩
  rw [Bool.eq_false_iff, trimIsEmpty, String.toList_ofList,
    ← hRest]
  intro hBlank
  rw [List.all_eq_true] at hBlank
  have hTrim :
      (trim key).toList =
        Trim.both charIsWhitespace key.toList :=
    String.toList_ofList
  -- The space and what follows it would be a blank end.
  have hSuffix :
      ' ' :: rest <:+
        Trim.both charIsWhitespace key.toList := by
    refine ⟨"Bearer".toList, ?_⟩
    rw [← hTrim, ← hRest]
    rfl
  have hNil :
      ' ' :: rest = [] := by
    apply Trim.eq_nil_of_suffix hSuffix
    intro c hMem
    rcases List.mem_cons.mp hMem with rfl | hMem
    · decide
    · exact hBlank c hMem
  exact List.cons_ne_nil _ _ hNil

/-
  What the inputs resolve to. A key that is blank, or the
  word `Bearer` in any case and alone, resolves to nothing.
-/
def AuthInputs.Resolves
    (inp : AuthInputs) : ResolvedAuth → Prop
  | .skipped => inp.skipAuth = true
  | .bearerToken token =>
      inp.skipAuth = false ∧ inp.mode = .apiKey ∧
        ∃ key,
          nonBlank inp.apiKey = some key ∧
            eqIgnoreAsciiCase (trim key) "bearer" = false ∧
            trim key = token
  | .profile name =>
      inp.skipAuth = false ∧ inp.mode = .profile ∧
        nonBlank inp.profile = some name
  | .explicitKeys accessKey secretKey sessionToken =>
      inp.skipAuth = false ∧ inp.mode = .credentials ∧
        nonBlank inp.accessKey = some accessKey ∧
        nonBlank inp.secretKey = some secretKey ∧
        inp.sessionToken = sessionToken
  | .defaultChain =>
      inp.skipAuth = false ∧ inp.mode = .defaultChain

theorem nonBlank_some
    (s : String) :
    nonBlank (some s) =
      if trimIsEmpty s then none else some s := by
  rw [nonBlank, Option.filter_some]
  cases trimIsEmpty s with
  | true => rfl
  | false => rfl

/- Of the guards on a key, one never applies by itself. -/
theorem resolveAuth_apiKey
    {inp : AuthInputs}
    (hSkip : inp.skipAuth = false)
    (hMode : inp.mode = .apiKey) :
    resolveAuth inp =
      match nonBlank inp.apiKey with
      | none => .error .apiKeyEmpty
      | some key =>
          if eqIgnoreAsciiCase (trim key) "bearer" then
            .error .apiKeyBearerOnly
          else
            .ok (.bearerToken (trim key)) := by
  have hRest :
      ∀ key,
        (startsWith "Bearer " (trim key) &&
          trimIsEmpty
            (String.ofList ((trim key).toList.drop 7))) =
          false := by
    intro key
    cases hStart : startsWith "Bearer " (trim key) with
    | false => exact Bool.false_and _
    | true =>
        rw [Bool.true_and,
          not_trimIsEmpty_afterBearer hStart]
  have hNone : trimIsEmpty "" = true := rfl
  unfold resolveAuth
  simp only [hSkip, hMode, isEmpty_trim, hRest,
    Bool.or_false, Bool.false_eq_true, if_false]
  cases hKey : inp.apiKey with
  | none =>
      rw [Option.getD_none, hNone]
      rfl
  | some key =>
      rw [Option.getD_some, nonBlank_some]
      cases trimIsEmpty key with
      | true => rw [if_pos rfl, if_pos rfl]
      | false =>
          rw [if_neg Bool.false_ne_true,
            if_neg Bool.false_ne_true]

/- The inputs resolve to what they are meant to. -/
theorem resolveAuth_eq_ok_iff
    (inp : AuthInputs)
    (resolved : ResolvedAuth) :
    resolveAuth inp = .ok resolved ↔
      inp.Resolves resolved := by
  cases hSkip : inp.skipAuth with
  | true =>
      rw [resolveAuth, if_pos hSkip, Except.ok.injEq]
      cases resolved <;> simp [AuthInputs.Resolves, hSkip]
  | false =>
      cases hMode : inp.mode with
      | apiKey =>
          rw [resolveAuth_apiKey hSkip hMode]
          cases hKey : nonBlank inp.apiKey with
          | none =>
              cases resolved <;>
                simp [AuthInputs.Resolves, hSkip, hMode, hKey]
          | some key =>
              cases hWord :
                  eqIgnoreAsciiCase (trim key) "bearer" <;>
                cases resolved <;>
                simp [AuthInputs.Resolves, hSkip, hMode, hKey,
                  hWord]
      | profile =>
          cases hProfile : nonBlank inp.profile <;>
            cases resolved <;>
            simp [resolveAuth, AuthInputs.Resolves, hSkip,
              hMode, hProfile]
      | credentials =>
          cases hAccess : nonBlank inp.accessKey <;>
            cases hSecret : nonBlank inp.secretKey <;>
            cases resolved <;>
            simp [resolveAuth, AuthInputs.Resolves, hSkip,
              hMode, hAccess, hSecret]
      | defaultChain =>
          cases resolved <;>
            simp [resolveAuth, AuthInputs.Resolves, hSkip,
              hMode]

end WarpByokProxy
