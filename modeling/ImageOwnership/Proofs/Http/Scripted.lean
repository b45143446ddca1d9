import ImageOwnership.Http.Client
import ImageOwnership.Http.Script

/-!
Scripts read as sequences of answers. As long as nobody cancels, a request takes the first answer that is
left, whatever it asks for, with the cookies that it sets; pauses take nothing but time. Where cookies
last, what is kept of them depends on the lines that set them and not on the clock.
-/

namespace ImageOwnership.Http.Script

/-- The answers that an entry stands for. -/
def Entry.answers (entry : Entry) : List Answer :=
  List.replicate entry.times entry.given

/-- The answers that are left in a world, in order. -/
def World.answers (world : World) : List Answer :=
  world.entries.flatMap Entry.answers

/-- The answer that comes next. -/
def World.first (world : World) : Answer :=
  world.answers.head?.getD ⟨.error exhausted, []⟩

/-- The caller has not cancelled, and nothing that happens makes the caller do so. -/
structure World.Undisturbed (world : World) : Prop where
  now : world.cancelled ≠ some true
  answering : ∀ entry ∈ world.entries, entry.cancels = false
  pausing : world.cancelsOnPause = none
  closing : world.cancelsOnClose = false

/-- A world that gives some answers, each once, and in which nobody cancels. -/
def World.ofAnswers (answers : List Answer) : World where
  entries := answers.map fun answer => { answer := answer.result, cookieLines := answer.cookieLines }

theorem World.answers_ofAnswers (answers : List Answer) : (ofAnswers answers).answers = answers := by
  induction answers with
  | nil => rfl
  | cons answer others ih =>
      have rest : (ofAnswers others).entries.flatMap Entry.answers = others := ih
      simp only [ofAnswers] at rest
      simp [ofAnswers, World.answers, rest, Entry.answers, Entry.given]

theorem World.undisturbed_ofAnswers (answers : List Answer) : (ofAnswers answers).Undisturbed where
  now := nofun
  answering := by simp [ofAnswers]
  pausing := rfl
  closing := rfl

variable {world late : World}

theorem World.Undisturbed.isCancelled (undisturbed : world.Undisturbed) (names : Url.HostNames)
    (rules : CookieRules) : (transportWith names rules).isCancelled world = (false, world) := by
  have now := undisturbed.now
  simp [transportWith, now]

theorem World.Undisturbed.pause (undisturbed : world.Undisturbed) (seconds : Nat) :
    (world.pause seconds).Undisturbed ∧ (world.pause seconds).answers = world.answers ∧
      (world.pause seconds).cookieLines = world.cookieLines := by
  have calm : world.pause seconds =
      { world with pauses := world.pauses + 1, clock := world.clock + seconds } := by
    simp [World.pause, undisturbed.pausing]
  rw [calm]
  exact ⟨⟨undisturbed.now, undisturbed.answering, undisturbed.pausing, undisturbed.closing⟩, rfl, rfl⟩

theorem World.Undisturbed.close (undisturbed : world.Undisturbed) : world.close = world := by
  simp [World.close, undisturbed.closing]

/-- What is taken is the first answer that is left, and the others stay. -/
theorem World.take?_answers (entries : List Entry) :
    (take? entries = none ∧ entries.flatMap Entry.answers = []) ∨
      ∃ entry rest, take? entries = some (entry, rest) ∧
        entries.flatMap Entry.answers = entry.given :: rest.flatMap Entry.answers ∧
        ((∀ entry ∈ entries, entry.cancels = false) →
          entry.cancels = false ∧ ∀ other ∈ rest, other.cancels = false) := by
  induction entries with
  | nil => exact .inl ⟨rfl, rfl⟩
  | cons first others ih =>
      rcases times : first.times with _ | _ | more
      · simp only [take?, times, List.flatMap_cons, Entry.answers, List.replicate_zero,
          List.nil_append, List.mem_cons, forall_eq_or_imp]
        obtain none | ⟨entry, rest, taken, answers, calm⟩ := ih
        · exact .inl none
        · exact .inr ⟨entry, rest, taken, answers, fun quiet => calm quiet.2⟩
      · refine .inr ⟨first, others, by simp [take?, times],
          by simp [Entry.answers, times], ?_⟩
        intro quiet
        exact ⟨quiet first (by simp), fun other member => quiet other (by simp [member])⟩
      · refine .inr ⟨first, { first with times := more + 1 } :: others, by simp [take?, times],
          by simp [Entry.answers, Entry.given, times, List.replicate_succ], ?_⟩
        intro quiet
        refine ⟨quiet first (by simp), ?_⟩
        intro other member
        obtain rfl | later := List.mem_cons.mp member
        · exact quiet first (by simp)
        · exact quiet other (by simp [later])

/-- A request gets the first answer that is left, and the lines of that answer are kept. -/
theorem World.Undisturbed.respond (undisturbed : world.Undisturbed) (url : Url) :
    ∃ after, world.respond url = (world.first.result, after) ∧
      after.answers = world.answers.tail ∧
      after.cookieLines = world.cookieLines ++ world.first.linesFrom world.clock url ∧
      after.Undisturbed := by
  obtain ⟨none, answers⟩ | ⟨entry, rest, taken, answers, calm⟩ := take?_answers world.entries
  · refine ⟨world, ?_, ?_, ?_, undisturbed⟩
    · simp [World.respond, none, World.first, World.answers, answers]
    · simp [World.answers, answers]
    · simp [World.first, World.answers, answers, Answer.linesFrom]
  · obtain ⟨quiet, others⟩ := calm undisturbed.answering
    have first : world.first = entry.given := by
      simp [World.first, World.answers, answers]
    refine ⟨{ world with
      entries := rest
      cookieLines := world.cookieLines ++ entry.given.linesFrom world.clock url }, ?_, ?_, ?_, ?_⟩
    · simp [World.respond, taken, quiet, first, Entry.given]
    · simp [World.answers, answers]
    · rw [first]
    · exact ⟨undisturbed.now, others, undisturbed.pausing, undisturbed.closing⟩

/-- A request of one of the two schemes takes an answer. -/
theorem respond_supported {request : Request} (names : Url.HostNames) (rules : CookieRules)
    (supported : unsupported? request.url.scheme = none) (world : World) :
    (transportWith names rules).respond request world = world.respond request.url := by
  simp [transportWith, supported]

theorem respond_unsupported {request : Request} {error : RequestError} (names : Url.HostNames)
    (rules : CookieRules) (unsupported : unsupported? request.url.scheme = some error) (world : World) :
    (transportWith names rules).respond request world = (.error error, world) := by
  simp [transportWith, unsupported]

/-! ### Cookies that last -/

/-- A line without the time at which it came. -/
def CookieLine.undated (line : CookieLine) : Url × String :=
  (line.url, line.line)

/-- Some lines set cookies that last: while there are only such lines, what is kept of them is the same
at all times, and it does not matter when they came. -/
def CookieRules.Lasting (rules : CookieRules) (lasts : String → Prop) : Prop :=
  ∀ lines others : List CookieLine, (∀ line ∈ lines, lasts line.line) →
    lines.map CookieLine.undated = others.map CookieLine.undated →
    ∀ seconds otherSeconds, rules lines seconds = rules others otherSeconds

/-- The same lines that last have come in two worlds, perhaps at other times. -/
structure World.SameCookies (lasts : String → Prop) (world late : World) : Prop where
  lasting : ∀ line ∈ world.cookieLines, lasts line.line
  same : world.cookieLines.map CookieLine.undated = late.cookieLines.map CookieLine.undated

section Cookies

variable {lasts : String → Prop} {rules : CookieRules}

theorem World.SameCookies.cookies (cookies : world.SameCookies lasts late)
    (lasting : rules.Lasting lasts) (names : Url.HostNames) :
    (transportWith names rules).cookies late = (transportWith names rules).cookies world :=
  (lasting _ _ cookies.lasting cookies.same _ _).symm

theorem World.SameCookies.request (cookies : world.SameCookies lasts late)
    (lasting : rules.Lasting lasts) (names : Url.HostNames) (call : Call) (client : Client) :
    (transportWith names rules).request late call client =
      (transportWith names rules).request world call client := by
  rw [Transport.request, Transport.request, cookies.cookies lasting]

theorem World.SameCookies.refl (lasting : ∀ line ∈ world.cookieLines, lasts line.line) :
    world.SameCookies lasts world :=
  ⟨lasting, rfl⟩

theorem Answer.undated_linesFrom (answer : Answer) (seconds otherSeconds : Nat) (url : Url) :
    (answer.linesFrom seconds url).map CookieLine.undated =
      (answer.linesFrom otherSeconds url).map CookieLine.undated := by
  cases result : answer.result with
  | error error => simp [linesFrom, result]
  | ok response =>
      simp only [linesFrom, result, List.map_map]
      rfl

/-- The lines of an answer, as long as they last, keep the cookies of two worlds the same. -/
theorem World.SameCookies.answered {after lateAfter : World} {answer : Answer} {url : Url}
    (cookies : world.SameCookies lasts late) (answerLasts : ∀ line ∈ answer.cookieLines, lasts line)
    (here : after.cookieLines = world.cookieLines ++ answer.linesFrom world.clock url)
    (there : lateAfter.cookieLines = late.cookieLines ++ answer.linesFrom late.clock url) :
    after.SameCookies lasts lateAfter := by
  constructor
  · intro line member
    rw [here] at member
    obtain earlier | new := List.mem_append.mp member
    · exact cookies.lasting line earlier
    · unfold Answer.linesFrom at new
      split at new
      · obtain ⟨text, stated, rfl⟩ := List.mem_map.mp new
        exact answerLasts text stated
      · cases new
  · rw [here, there, List.map_append, List.map_append, cookies.same,
      answer.undated_linesFrom world.clock late.clock]

end Cookies

end ImageOwnership.Http.Script
