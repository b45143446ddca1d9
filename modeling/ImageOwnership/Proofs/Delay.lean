import ImageOwnership.Proofs.Http.Delay
import ImageOwnership.Proofs.Session

/-!
Validations whose answers come late. Before each answer there may be as many timeouts as a call may be
repeated. They change nothing about the result, and nothing about the requests that are answered, as long
as all cookies last: a cookie may end during a pause, and then it is missing when a call is repeated.
-/

namespace ImageOwnership

open Http
open Http.Script (Lags transportWith)

section Calls

variable {registry : Registry} {image : Image.Reference} {isOpen : Bool}
  {world late after : Script.World} {exchanges : List Exchange}
  {result : Except Failure Image.Labels} {names : Url.HostNames} {rules : Script.CookieRules}
  {lasts : String → Prop}

/-- Call by call, late answers lead a conversation the same way as prompt ones. -/
theorem Conversation.delayed {position : Position} (lasting : rules.Lasting lasts)
    (conversation : Conversation (transportWith names rules) registry image isOpen position world
      exchanges result after)
    (lags : Lags lasts registry.settings.retries world late) :
    ∃ others lateAfter,
      Conversation (transportWith names rules) registry image isOpen position late others result
        lateAfter ∧
      Lags lasts registry.settings.retries after lateAfter ∧
      ∀ rest, Afresh rest → Afresh (others.flatMap Exchange.events ++ rest) ∧
        (transportWith names rules).withoutTimeouts late (others.flatMap Exchange.events ++ rest) =
          exchanges.flatMap Exchange.events ++
            (transportWith names rules).withoutTimeouts lateAfter rest := by
  induction conversation generalizing late with
  | finished => exact ⟨[], late, .finished, lags, fun _ afresh => ⟨afresh, rfl⟩⟩
  | @calls purpose world events ending middle exchanges result after course following ih =>
      obtain ⟨same, lateEvents, answer, next, lateMiddle, prompt, slow, lagging, erased⟩ :=
        Course.delayed names lasting registry.client isOpen (purpose.call registry image) lags
          (Nat.le_refl _) 0
      -- The call with prompt answers has one course only, which is the one that is given.
      obtain ⟨rfl, rfl, rfl⟩ := course.unique prompt
      obtain ⟨others, lateAfter, conversation, lagged, onward⟩ := ih lagging
      refine ⟨⟨purpose, lateEvents, ending⟩ :: others, lateAfter, .calls slow conversation, lagged, ?_⟩
      intro rest afresh
      obtain ⟨again, dropped⟩ := onward rest afresh
      simp only [List.flatMap_cons, List.append_assoc]
      refine ⟨slow.afresh again, ?_⟩
      rw [erased _ again, dropped]

end Calls

theorem Registry.afresh_closing (registry : Registry) (isOpen : Bool) :
    Afresh (registry.closing isOpen) := by
  unfold closing
  split <;> trivial

theorem Registry.withoutTimeouts_opening {World : Type} (transport : Transport World)
    (registry : Registry) (world : World) (rest : List Event) :
    transport.withoutTimeouts world (registry.opening ++ rest) =
      registry.opening ++ transport.withoutTimeouts world rest := by
  unfold opening
  split <;> rfl

theorem Registry.withoutTimeouts_closing {World : Type} (transport : Transport World)
    (registry : Registry) (isOpen : Bool) (world : World) :
    transport.withoutTimeouts world (registry.closing isOpen) = registry.closing isOpen := by
  unfold closing
  split <;> rfl

theorem Registry.isCancelled_leaving {world : Script.World} (undisturbed : world.Undisturbed)
    (names : Url.HostNames) (rules : Script.CookieRules) (registry : Registry) (isOpen : Bool) :
    ((transportWith names rules).isCancelled
      (registry.leaving (transportWith names rules) isOpen world)).1 = false := by
  have closed : (transportWith names rules).close world = world := undisturbed.close
  unfold leaving
  split
  · rw [closed, undisturbed.isCancelled]
  · rw [undisturbed.isCancelled]

namespace Claim

/-- A validation has the same result when its answers come late, as long as no more timeouts come before
an answer than a call may be repeated, and all cookies last. Without the attempts that time out and
without the pauses its events are those of the validation whose answers are prompt. -/
theorem validateImage_delayed (claim : Claim) (environment : Settings.Environment)
    {settings : Settings} (given : claim.settingsIn environment = .ok settings)
    (names : Url.HostNames) {rules : Script.CookieRules} {lasts : String → Prop}
    (lasting : rules.Lasting lasts) (run : Run Script.World Log.Entry) {late : Script.World}
    (lags : Lags lasts settings.retries run.world late) :
    (Action.perform (claim.validateImage (transportWith names rules) environment)
        { run with world := late }).1 =
      (Action.perform (claim.validateImage (transportWith names rules) environment) run).1 ∧
    ∃ events lateEvents,
      (Action.perform (claim.validateImage (transportWith names rules) environment) run).2.trace =
        run.trace ++ events ∧
      (Action.perform (claim.validateImage (transportWith names rules) environment)
        { run with world := late }).2.trace = run.trace ++ lateEvents ∧
      (transportWith names rules).withoutTimeouts late lateEvents = events := by
  obtain ⟨failure, notes, failed⟩ | ⟨target, registry, settled, made⟩ :=
    claim.fails_or_made (transportWith names rules) environment
  · rw [failed, failed]
    exact ⟨rfl, [], [], by simp, by simp, rfl⟩
  · have retries : registry.settings = settings := by
      have read := (target_eq_ok_iff.mp settled).1
      rw [given] at read
      cases read
      exact (made_ok made).2
    rw [← retries] at lags
    obtain ⟨exchanges, fetched, world, notes, conversation, performed⟩ :=
      perform_validateImage (transportWith names rules) settled made run
    obtain ⟨others, lateWorld, again, lagged, erased⟩ := conversation.delayed lasting lags
    let lateRun : Run Script.World Log.Entry := { run with world := late }
    obtain ⟨more, repeated⟩ : ∃ more, Action.perform _ lateRun = (_, Run.noting _ more) :=
      perform_validateImage_of_conversation (transportWith names rules) settled made again
    obtain ⟨_, dropped⟩ := erased _ (registry.afresh_closing run.isOpen)
    have uncancelled :=
      Registry.isCancelled_leaving lagged.undisturbed names rules registry run.isOpen
    have lateUncancelled :=
      Registry.isCancelled_leaving lagged.lateUndisturbed names rules registry run.isOpen
    rw [performed, repeated]
    refine ⟨?_, registry.opening ++ exchanges.flatMap Exchange.events ++ registry.closing run.isOpen,
      registry.opening ++ others.flatMap Exchange.events ++ registry.closing run.isOpen, ?_, ?_, ?_⟩
    · simp only [lateRun]
      rw [uncancelled, lateUncancelled]
    · simp [Registry.left, List.append_assoc]
    · simp [Registry.left, List.append_assoc, lateRun]
    · rw [List.append_assoc, Registry.withoutTimeouts_opening, dropped,
        Registry.withoutTimeouts_closing, List.append_assoc]

/-- A claim whose calls may be repeated once. -/
def ofTagPatient (tag : String) : Claim :=
  { ofTag tag with settings := (ofTag tag).settings.map fun settings => { settings with retries := 1 } }

def slowAnswer : Script.Answer where
  result := .error ⟨.readTimeout, "slow"⟩

def manifestAnswer : Script.Answer where
  result := .ok ⟨200, none, Utf8.encode "\x7b\"config\":\x7b\"digest\":\"c\"\x7d\x7d".toList⟩

def configAnswer : Script.Answer where
  result := .ok ⟨200, none, Utf8.encode ("\x7b\"config\":\x7b\"Labels\":\x7b\"" ++ ownerLabel ++
    "\":\"me/server\"\x7d\x7d\x7d").toList⟩

/-- A line that sets a cookie for all addresses of the host that it came from. -/
def lastingLine : String :=
  "a=b; Path=/"

def briefLine : String :=
  lastingLine ++ "; Max-Age=1"

/-- Where cookies of the two lines are kept; one that came with the brief line is gone after a second. -/
def pairCookies : Script.CookieRules := fun lines seconds =>
  if lines.isEmpty then
    none
  else
    some fun url =>
      if lines.any fun line => line.url.host = url.host &&
          (line.line = lastingLine || line.line = briefLine && seconds < line.seconds + 1) then
        some "a=b"
      else
        none

theorem pairCookies_undated {lines : List Script.CookieLine}
    (lasting : ∀ line ∈ lines, line.line = lastingLine) (seconds : Nat) :
    pairCookies lines seconds =
      if (lines.map Script.CookieLine.undated).isEmpty then none
      else some fun url =>
        if (lines.map Script.CookieLine.undated).any fun said => said.1.host = url.host then some "a=b"
        else none := by
  have kept (url : Url) : (lines.any fun line => line.url.host = url.host &&
      (line.line = lastingLine || line.line = briefLine && seconds < line.seconds + 1)) =
        (lines.map Script.CookieLine.undated).any fun said => said.1.host = url.host := by
    rw [List.any_map, Bool.eq_iff_iff, List.any_eq_true, List.any_eq_true]
    refine exists_congr fun line => and_congr_right fun member => ?_
    simp [lasting line member, Script.CookieLine.undated]
  simp only [pairCookies, kept, List.isEmpty_map]

theorem pairCookies_lasting : Script.CookieRules.Lasting pairCookies (· = lastingLine) := by
  intro lines others lasting same seconds otherSeconds
  have othersLast : ∀ line ∈ others, line.line = lastingLine := by
    intro line member
    have said : line.undated ∈ lines.map Script.CookieLine.undated :=
      same ▸ List.mem_map_of_mem member
    obtain ⟨origin, stated, alike⟩ := List.mem_map.mp said
    have text : origin.line = line.line := congrArg Prod.snd alike
    exact text ▸ lasting origin stated
  rw [pairCookies_undated lasting, pairCookies_undated othersLast, same]

/-- What comes of the claim on the first tag when some answers are given. -/
def answeredPatiently (rules : Script.CookieRules) (answers : List Script.Answer) :
    Except Failure Unit × Run Script.World Log.Entry :=
  Action.perform ((ofTagPatient "1").validateImage (transportWith .verbatim rules) fun _ => none)
    { world := .ofAnswers answers }

/-- The manifest with a line that sets a cookie. -/
def cookieAnswer (line : String) : Script.Answer :=
  { manifestAnswer with cookieLines := [line] }

theorem slowAnswer_timedOut : ∀ timeout ∈ [slowAnswer], timedOut timeout.result = true := by
  simp [slowAnswer, timedOut, RequestError.Kind.isTimeout]

theorem configAnswer_prompt (lasts : String → Prop) : Script.Prompt lasts configAnswer := by
  refine ⟨rfl, ?_, by simp [configAnswer]⟩
  rintro _ ⟨⟩
  rfl

/-- The owner is proven as well when there is a timeout before each of the answers. A cookie that lasts
goes with the repeated request as it goes with the prompt one. -/
theorem proven_delayed :
    (answeredPatiently pairCookies
        [slowAnswer, cookieAnswer lastingLine, slowAnswer, configAnswer]).1 = .ok () ∧
    (transportWith .verbatim pairCookies).withoutTimeouts
        (.ofAnswers [slowAnswer, cookieAnswer lastingLine, slowAnswer, configAnswer])
        (answeredPatiently pairCookies
          [slowAnswer, cookieAnswer lastingLine, slowAnswer, configAnswer]).2.trace =
      (answeredPatiently pairCookies [cookieAnswer lastingLine, configAnswer]).2.trace := by
  have prompt : ∀ answer ∈ [cookieAnswer lastingLine, configAnswer],
      Script.Prompt (· = lastingLine) answer := by
    intro answer member
    simp only [List.mem_cons, List.not_mem_nil, or_false] at member
    obtain rfl | rfl := member
    · refine ⟨rfl, ?_, by simp [cookieAnswer]⟩
      rintro _ ⟨⟩
      rfl
    · exact configAnswer_prompt _
  have delayed : Script.Delayed 1 [cookieAnswer lastingLine, configAnswer]
      [slowAnswer, cookieAnswer lastingLine, slowAnswer, configAnswer] :=
    .cons slowAnswer_timedOut (Nat.le_refl 1) (.cons slowAnswer_timedOut (Nat.le_refl 1) .nil)
  have proven :
      (answeredPatiently pairCookies [cookieAnswer lastingLine, configAnswer]).1 = .ok () := by
    decide +kernel
  obtain ⟨same, events, lateEvents, trace, lateTrace, erased⟩ :=
    validateImage_delayed (ofTagPatient "1") (fun _ => none) rfl .verbatim pairCookies_lasting
      { world := .ofAnswers [cookieAnswer lastingLine, configAnswer] } (.ofAnswers prompt delayed)
  refine ⟨same.trans proven, ?_⟩
  unfold answeredPatiently
  rw [trace, lateTrace]
  exact erased

/-- A timeout of no particular kind. -/
def vagueAnswer : Script.Answer where
  result := .error ⟨.anyTimeout, "slow"⟩

/-- One timeout is noticed, although a call may be repeated once, when the cookie for the request ends
during the pause, or when the call has a timeout of no particular kind to get over already. -/
theorem delay_noticed :
    (Script.Delayed 1 [cookieAnswer briefLine, configAnswer]
        [cookieAnswer briefLine, slowAnswer, configAnswer] ∧
      (transportWith .verbatim pairCookies).withoutTimeouts
          (.ofAnswers [cookieAnswer briefLine, slowAnswer, configAnswer])
          (answeredPatiently pairCookies [cookieAnswer briefLine, slowAnswer, configAnswer]).2.trace ≠
        (answeredPatiently pairCookies [cookieAnswer briefLine, configAnswer]).2.trace) ∧
    Script.Delayed 1 [vagueAnswer, manifestAnswer, configAnswer]
        [slowAnswer, vagueAnswer, manifestAnswer, configAnswer] ∧
      (answeredPatiently (fun _ _ => none)
          [slowAnswer, vagueAnswer, manifestAnswer, configAnswer]).1 ≠
        (answeredPatiently (fun _ _ => none) [vagueAnswer, manifestAnswer, configAnswer]).1 := by
  have untimely : ∀ timeout ∈ ([] : List Script.Answer), timedOut timeout.result = true := by
    simp
  refine ⟨⟨?_, ?_⟩, ?_, ?_⟩
  · exact .cons untimely (Nat.zero_le 1) (.cons slowAnswer_timedOut (Nat.le_refl 1) .nil)
  · decide +kernel
  · exact .cons slowAnswer_timedOut (Nat.le_refl 1)
      (.cons untimely (Nat.zero_le 1) (.cons untimely (Nat.zero_le 1) .nil))
  · decide +kernel

end Claim

end ImageOwnership
