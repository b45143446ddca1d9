import ImageOwnership.Proofs.TokenDiscipline

/-!
What an answer of the token service is good for. An answer that is no object ends the validation; from an
object a token is taken whether or not it states one, and the document is asked for with what was taken.
-/

namespace ImageOwnership

open Http

variable {World : Type}

/-! ### Answers -/

namespace Token

/-- A body that is an object with a token: a text that is not empty. -/
structure States (body : List UInt8) (token : List CodePoint) : Prop where
  named : ∃ members, Json.load body = .ok (.object members) ∧
    Json.lastNamed (CodePoint.ofString "token") members = some (.string token)
  nonempty : token ≠ []

/-- A body that either states a token or is refused as an answer. -/
structure Sound (body : List UInt8) : Prop where
  shallow : ∀ container, Json.load body ≠ .error (.unreadable (.tooDeep container))
  stated : ∀ members, Json.load body = .ok (.object members) → ∃ token, States body token

theorem text_string (token : List CodePoint) : text (some (.string token)) = token := by
  cases token with
  | nil => rfl
  | cons first rest => rfl

/-- Of what is no object only what is too deep fails in a way of its own. -/
theorem read_other {body : List UInt8} (other : ∀ members, Json.load body ≠ .ok (.object members)) :
    ∃ failure, read body = .error failure ∧ (∀ named, failure ≠ .rateLimited named) ∧
      (failure.kind = .token ↔
        ∀ container, Json.load body ≠ .error (.unreadable (.tooDeep container))) := by
  unfold read
  split
  case h_4 container deep => exact ⟨_, rfl, nofun, nofun, fun shallow => absurd deep (shallow container)⟩
  case h_5 members loaded => exact absurd loaded (other members)
  all_goals
    rename_i loaded
    refine ⟨_, rfl, nofun, fun _ container deep => ?_, fun _ => rfl⟩
    rw [loaded] at deep
    cases deep

end Token

/-! ### Calls with a token -/

/-- The first of the calls is for the document of a stage, and each attempt at it begins with the
token; only a token of ASCII characters gets that far. -/
def Stage.AskedWith (stage : Stage) (token : List CodePoint) (calls : List Exchange) : Prop :=
  ∃ next rest, calls = next :: rest ∧ next.purpose = .document stage (some token) ∧
    ∀ request ∈ issued next.events,
      request.Bears token ∧ ∀ point ∈ token, isAsciiPoint point = true

theorem Http.ascii_plain {text : List CodePoint} {written : String} (ascii : ascii text = .ok written) :
    ∀ point ∈ text, isAsciiPoint point = true := by
  unfold Http.ascii at ascii
  split at ascii
  · rename_i nothing
    exact List.dropWhile_eq_nil_iff.mp nothing
  · cases ascii

/-- What is called for with a token is authorized by it, whatever the client adds. -/
theorem Purpose.bears_of_request {names : Url.HostNames} {cookies : Cookies} {registry : Registry}
    {image : Image.Reference} {client : Client} {request : Request} {stage : Stage}
    {token : List CodePoint}
    (written : ((Purpose.document stage (some token)).call registry image).request names cookies
      client = .ok request) :
    request.Bears token ∧ ∀ point ∈ token, isAsciiPoint point = true := by
  obtain ⟨given, headers, _, kept⟩ := Call.request_headers written
  have here : request.authorization? = (client.headers.update given).get? "authorization" :=
    kept "authorization" (by decide) (by decide)
  have drafted : Headers.write (registry.requestHeaders stage.accept (some token)) = .ok given := headers
  obtain ⟨impossible, _⟩ | ⟨bearer, value, same, ascii, rfl⟩ :=
    Headers.write_requestHeaders_cases drafted
  · cases impossible
  · cases same
    refine ⟨⟨value, ?_, ofString_ascii ascii⟩, fun point member => ?_⟩
    · rw [here]
      exact Headers.get?_update (by simp [Headers.get?])
    · exact ascii_plain ascii point (List.mem_append_right _ member)

/-- A conversation goes on after each of its calls from the position that the call leads to. -/
theorem Conversation.resumed {transport : Transport World} {registry : Registry}
    {image : Image.Reference} {isOpen : Bool} {position : Position} {world after : World}
    {exchanges earlier later : List Exchange} {exchange : Exchange}
    {result : Except Failure Image.Labels}
    (conversation : Conversation transport registry image isOpen position world exchanges result after)
    (split : exchanges = earlier ++ exchange :: later) :
    ∃ middle, Conversation transport registry image isOpen
      (registry.after image exchange.purpose exchange.ending) middle later result after := by
  induction conversation generalizing earlier with
  | finished =>
      have impossible := congrArg List.length split
      simp at impossible
  | calls _ rest ih =>
      cases earlier with
      | nil =>
          obtain ⟨rfl, rfl⟩ := List.cons.inj split
          exact ⟨_, rest⟩
      | cons first others => exact ih (List.cons.inj split).2

namespace Claim

/-- The token is refused: there are no more calls, and the failure says that there is no token. -/
def RefusesToken (result : Except Failure Unit) (later : List Exchange) : Prop :=
  later = [] ∧ ∃ failure, result = .error failure ∧ failure.kind = .token

/-- What becomes of a body that the token service answers with, told by the calls after it and by what
the validation comes to. -/
structure UsesToken (result : Except Failure Unit) (stage : Stage) (body : List UInt8)
    (later : List Exchange) : Prop where
  /-- What is no object ends the validation, and as a refusal unless it is too deep. -/
  unread : (∀ members, Json.load body ≠ .ok (.object members)) → later = [] ∧
    ∃ failure, result = .error failure ∧ (failure.kind = .token ↔
      ∀ container, Json.load body ≠ .error (.unreadable (.tooDeep container)))
  /-- From an object a token is taken in any case. -/
  taken : ∀ members, Json.load body = .ok (.object members) →
    stage.AskedWith (Token.text (Json.lastNamed (CodePoint.ofString "token") members)) later
  /-- The body is refused or used with the token that it states exactly if it is sound. -/
  sound_iff : RefusesToken result later ∨
    (∃ token, Token.States body token ∧ stage.AskedWith token later) ↔ Token.Sound body

theorem UsesToken.of_cases {result : Except Failure Unit} {stage : Stage} {body : List UInt8}
    {later : List Exchange}
    (unread : (∀ members, Json.load body ≠ .ok (.object members)) → later = [] ∧
      ∃ failure, result = .error failure ∧ (failure.kind = .token ↔
        ∀ container, Json.load body ≠ .error (.unreadable (.tooDeep container))))
    (taken : ∀ members, Json.load body = .ok (.object members) →
      stage.AskedWith (Token.text (Json.lastNamed (CodePoint.ofString "token") members)) later) :
    UsesToken result stage body later where
  unread := unread
  taken := taken
  sound_iff := by
    constructor
    · intro kept
      obtain ⟨rfl, failure, failed, refused⟩ | ⟨token, states, _⟩ := kept
      · have other (members : _) (loaded : Json.load body = .ok (.object members)) : False := by
          obtain ⟨_, _, impossible, _⟩ := taken members loaded
          cases impossible
        obtain ⟨_, cause, same, shallow⟩ := unread other
        rw [failed] at same
        cases same
        exact ⟨shallow.mp refused, fun members loaded => (other members loaded).elim⟩
      · obtain ⟨members, loaded, named⟩ := states.named
        refine ⟨?_, fun _ _ => ⟨token, states⟩⟩
        intro container deep
        rw [loaded] at deep
        cases deep
    · intro sound
      by_cases object : ∃ members, Json.load body = .ok (.object members)
      · obtain ⟨members, loaded⟩ := object
        obtain ⟨token, states⟩ := sound.stated members loaded
        have asked := taken members loaded
        obtain ⟨_, again, named⟩ := states.named
        rw [loaded] at again
        cases again
        rw [named, Token.text_string] at asked
        exact .inr ⟨token, states, asked⟩
      · obtain ⟨last, failure, failed, shallow⟩ :=
          unread fun members loaded => object ⟨members, loaded⟩
        exact .inl ⟨last, failure, failed, shallow.mpr sound.shallow⟩

variable {claim : Claim} {transport : Transport World}
  {environment : Settings.Environment} {run : Run World Log.Entry} {target : Target}
  {registry : Registry} {exchanges : List Exchange}

theorem Exchanged.usesToken
    (exchanged : claim.Exchanged transport environment run target registry exchanges)
    {earlier later : List Exchange} {exchange : Exchange} {url : String} {stage : Stage}
    {body : List UInt8} (split : exchanges = earlier ++ exchange :: later)
    (asked : exchange.purpose = .token url stage) (present : exchange.body? = some body) :
    UsesToken (Action.perform (claim.validateImage transport environment) run).1 stage body later := by
  obtain ⟨fetched, _, cancelled, conversation, concluded⟩ := exchanged.concluded
  obtain ⟨_, resumed⟩ := conversation.resumed split
  obtain ⟨absent, _⟩ | ⟨_, same, received⟩ := registry.after_cases target.image exchange
  · rw [absent] at present
    cases present
  · rw [present] at same
    cases same
    rw [received, asked] at resumed
    simp only [Registry.receiving, Registry.granting] at resumed
    refine .of_cases (fun other => ?_) (fun members loaded => ?_)
    · obtain ⟨failure, failed, unlimited, kind⟩ := Token.read_other other
      rw [failed] at resumed
      cases resumed
      refine ⟨rfl, failure, ?_, kind⟩
      rw [concluded]
      exact target.conclusion_other unlimited
    · rw [Token.read_eq_ok_iff.mpr ⟨members, loaded, rfl⟩] at resumed
      generalize Token.text (Json.lastNamed (CodePoint.ofString "token") members) = token at resumed ⊢
      cases resumed with
      | @calls _ _ events ending _ others _ _ course _ =>
          refine ⟨_, others, rfl, rfl, fun request begun => ?_⟩
          obtain ⟨_, first, written, rfl⟩ := course.issued begun
          have member : ⟨.document stage (some token), events, ending⟩ ∈ exchanges := by
            rw [split]
            exact List.mem_append_right _ (List.mem_cons_of_mem _ List.mem_cons_self)
          rw [(exchanged.first_of_token member rfl written).2]
          exact Purpose.bears_of_request written

/-- In every validation the answers of the token service are refused or used in this way. -/
theorem validateImage_usesToken (claim : Claim) (transport : Transport World)
    (environment : Settings.Environment) (run : Run World Log.Entry) :
    (Action.perform (claim.validateImage transport environment) run).2.trace = run.trace ∨
      ∃ target registry exchanges,
        claim.Exchanged transport environment run target registry exchanges ∧
        ∀ earlier exchange later url stage body, exchanges = earlier ++ exchange :: later →
          exchange.purpose = .token url stage → exchange.body? = some body →
            UsesToken (Action.perform (claim.validateImage transport environment) run).1 stage body
              later := by
  obtain silent | ⟨target, registry, exchanges, exchanged⟩ :=
    claim.silent_or_exchanged transport environment run
  · exact .inl silent
  · exact .inr ⟨target, registry, exchanges, exchanged, fun _ _ _ _ _ _ split asked present =>
      exchanged.usesToken split asked present⟩

/-- An answer without a token: an empty object. -/
def namelessBody : List UInt8 :=
  Utf8.encode "\x7b\x7d".toList

/-- A run in which the answer for a token names none, and the image is not found. -/
def namelessRun : Run Script.World Log.Entry where
  world := { entries := [{ answer := .ok ⟨200, none, namelessBody⟩ }, { answer := .ok ⟨404, none, []⟩ }] }

def authorizations (events : List Event) : List (Option String) :=
  events.filterMap fun
    | .sent request => some request.authorization?
    | _ => none

/-- An object that states no token is taken for one: the manifest is asked for with an empty token. -/
theorem nameless_authorizes :
    (∀ token, ¬ Token.States namelessBody token) ∧
      (Action.perform ((atBase "https://docker.io").validateImage Script.transport fun _ => none)
          namelessRun).1 = .error (.imageNotFound ⟨⟨"me", "server"⟩, "1"⟩ 404) ∧
      authorizations (Action.perform ((atBase "https://docker.io").validateImage Script.transport
          fun _ => none) namelessRun).2.trace = [none, some "Bearer "] := by
  have taken : Token.read namelessBody = .ok [] := by decide +kernel
  refine ⟨fun token states => ?_, ?_, ?_⟩
  · obtain ⟨members, loaded, named⟩ := states.named
    have stated : Token.read namelessBody = .ok token :=
      Token.read_eq_ok_iff.mpr ⟨members, loaded, by rw [named, Token.text_string]⟩
    rw [taken] at stated
    cases stated
    exact states.nonempty rfl
  · decide +kernel
  · decide +kernel

end Claim

end ImageOwnership
