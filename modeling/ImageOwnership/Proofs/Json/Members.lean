import ImageOwnership.Json.Parsing
import ImageOwnership.Proofs.Json.Tokens
import ImageOwnership.Proofs.Result
import ImageOwnership.Proofs.Text.Utf8

/-!
Members of an object side by side. What members stand for in an object of their own they stand for in any
object, after the members that were read before: those lie at the bottom of the open containers, and
nothing looks at them until the object is closed.
-/

namespace ImageOwnership.Json

/-! ### Members that were read before -/

/-- The members of an object that were read, the last one first. -/
abbrev Done := List (List CodePoint × Read)

def Frame.atop (older : Done) : Frame → Frame
  | .items done => .items done
  | .member done key => .member (done ++ older) key

/-- The open containers, when the one at the bottom has older members. -/
def framesAtop (older : Done) : List Frame → List Frame
  | [] => []
  | [bottom] => [bottom.atop older]
  | top :: next :: below => top :: framesAtop older (next :: below)

namespace State

def atop (older : Done) : State → State
  | .awaitingValue frames => .awaitingValue (framesAtop older frames)
  | .openedArray frames => .openedArray (framesAtop older frames)
  | .openedObject frames => .openedObject (framesAtop older frames)
  | .awaitingKey done [] => .awaitingKey (done ++ older) []
  | .awaitingKey done frames => .awaitingKey done (framesAtop older frames)
  | .awaitingColon done key [] => .awaitingColon (done ++ older) key []
  | .awaitingColon done key frames => .awaitingColon done key (framesAtop older frames)
  | .complete value frames => .complete value (framesAtop older frames)

/-- A container is open that has been begun. -/
def IsOpen : State → Prop
  | .awaitingValue frames => frames ≠ []
  | .openedArray frames => frames ≠ []
  | .openedObject frames => frames ≠ []
  | .awaitingKey _ _ => True
  | .awaitingColon _ _ _ => True
  | .complete _ frames => frames ≠ []

end State

section Atop

variable (older : Done) {limits : Limits} {frames : List Frame} {token : Token} {next : State}

theorem framesAtop_cons {top : Frame} (more : frames ≠ []) :
    framesAtop older (top :: frames) = top :: framesAtop older frames := by
  cases frames with
  | nil => exact absurd rfl more
  | cons => rfl

@[simp] theorem length_framesAtop : (framesAtop older frames).length = frames.length := by
  induction frames with
  | nil => rfl
  | cons top below ih =>
      cases below with
      | nil => rfl
      | cons => simpa [framesAtop] using ih

@[simp] theorem framesAtop_eq_nil_iff : framesAtop older frames = [] ↔ frames = [] := by
  rw [← List.length_eq_zero_iff, length_framesAtop, List.length_eq_zero_iff]

namespace State

theorem atop_awaitingColon {done : Done} {key : List CodePoint} (more : frames ≠ []) :
    (awaitingColon done key frames).atop older =
      .awaitingColon done key (framesAtop older frames) := by
  cases frames with
  | nil => exact absurd rfl more
  | cons => rfl

theorem begin_atop (more : frames ≠ []) (went : begin limits frames token = .ok next) :
    next.IsOpen ∧ begin limits (framesAtop older frames) token = .ok (next.atop older) := by
  cases token with
  | numeric number =>
      simp only [begin] at went ⊢
      split at went
      · cases went
      · rename_i short
        cases went
        exact ⟨more, if_neg short⟩
  | atom | quoted =>
      cases went
      exact ⟨more, rfl⟩
  | openArray | openObject =>
      simp only [begin, length_framesAtop] at went ⊢
      split at went
      · rename_i shallow
        cases went
        exact ⟨more, if_pos shallow⟩
      · cases went
  | _ => cases went

theorem follow_atop {value : Read} (went : follow value frames token = .ok next) :
    (next.IsOpen ∧ follow value (framesAtop older frames) token = .ok (next.atop older)) ∨
      ∃ outermost, next = .complete outermost [] := by
  -- Only the innermost container is looked at, so it matters whether that is the outermost as well.
  cases frames with
  | nil => cases went
  | cons top below =>
      cases below with
      | nil =>
          cases top <;> cases token <;> cases went
          case cons.nil.items.comma.refl => exact .inl ⟨by simp [IsOpen], rfl⟩
          case cons.nil.member.comma.refl => exact .inl ⟨trivial, rfl⟩
          all_goals exact .inr ⟨_, rfl⟩
      | cons inner outer =>
          refine .inl ?_
          cases top <;> cases token <;> cases went
          all_goals exact ⟨by simp [IsOpen], rfl⟩

/-- No token looks at the members that were read before in the outermost object, as long as it is
open. -/
theorem step_atop {state : State} (isOpen : state.IsOpen) (went : step limits state token = .ok next) :
    (next.IsOpen ∧ step limits (state.atop older) token = .ok (next.atop older)) ∨
      ∃ outermost, next = .complete outermost [] := by
  cases state with
  | awaitingValue frames => exact .inl (begin_atop older isOpen went)
  | openedArray frames =>
      refine .inl ?_
      cases token
      case closeArray =>
        cases went
        exact ⟨isOpen, rfl⟩
      all_goals
        simp only [step] at went
        split at went
        · rename_i shallow
          obtain ⟨stillOpen, begun⟩ := begin_atop older (List.cons_ne_nil _ frames) went
          rw [framesAtop_cons older isOpen] at begun
          refine ⟨stillOpen, ?_⟩
          simp only [atop, step, length_framesAtop, if_pos shallow]
          exact begun
        · cases went
  | openedObject frames =>
      refine .inl ?_
      cases token
      case closeObject =>
        cases went
        exact ⟨isOpen, rfl⟩
      case quoted key =>
        simp only [step] at went
        split at went
        · rename_i shallow
          cases went
          rw [atop_awaitingColon older isOpen]
          exact ⟨trivial, if_pos (by simpa using shallow)⟩
        · cases went
      all_goals cases went
  | awaitingKey done frames =>
      refine .inl ?_
      cases token
      case quoted key =>
        cases went
        refine ⟨trivial, ?_⟩
        cases frames <;> rfl
      all_goals cases went
  | awaitingColon done key frames =>
      refine .inl ?_
      cases token
      case colon =>
        cases went
        refine ⟨List.cons_ne_nil _ _, ?_⟩
        cases frames <;> rfl
      all_goals cases went
  | complete value frames => exact follow_atop older went

theorem step_complete_ne {value : Read} : step limits (.complete value []) token ≠ .ok next := by
  intro went
  cases went

theorem run_atop {tokens : List Token} {state last : State} (isOpen : state.IsOpen)
    (ran : tokens.foldlM (step limits) state = .ok last) (still : last.IsOpen) :
    tokens.foldlM (step limits) (state.atop older) = .ok (last.atop older) := by
  induction tokens generalizing state with
  | nil =>
      cases ran
      rfl
  | cons token rest ih =>
      simp only [List.foldlM_cons, Result.bind_eq_ok] at ran ⊢
      obtain ⟨next, went, ran⟩ := ran
      obtain ⟨stillOpen, went⟩ | ⟨outermost, rfl⟩ := step_atop older isOpen went
      · exact ⟨_, went, ih stillOpen ran⟩
      · -- Nothing can follow the outermost container.
        cases rest with
        | nil =>
            cases ran
            exact absurd rfl still
        | cons =>
            simp only [List.foldlM_cons, Result.bind_eq_ok] at ran
            obtain ⟨_, went, _⟩ := ran
            exact absurd went step_complete_ne

end State

end Atop

/-! ### Tokens and members -/

/-- Tokens between the braces of an object, and the members that they stand for. -/
inductive MembersOf (limits : Limits) (tokens : List Token) : Done → Prop where
  | read {value : Read} {done : Done} {key : List CodePoint} (opens : limits.depth.mayOpen 0 = true)
      (ran : tokens.foldlM (State.step limits) (.openedObject []) =
        .ok (.complete value [.member done key])) :
      MembersOf limits tokens ((key, value) :: done).reverse

namespace MembersOf

variable {limits : Limits} {tokens others : List Token} {members more : Done}

theorem step_openObject_eq_ok_iff {state : State} :
    State.step limits (.awaitingValue []) .openObject = .ok state ↔
      limits.depth.mayOpen 0 = true ∧ state = .openedObject [] := by
  simp only [State.step, State.begin, List.length_nil]
  split
  · rename_i opens
    simp [opens, eq_comm]
  · rename_i deep
    simp [deep]

theorem ofTokens_braced :
    ofTokens limits (.openObject :: tokens ++ [.closeObject]) =
      (do
        let opened ← State.step limits (.awaitingValue []) .openObject
        let state ← tokens.foldlM (State.step limits) opened
        let last ← state.step limits .closeObject
        last.finish) := by
  simp only [ofTokens, List.cons_append, List.foldlM_cons, List.foldlM_append, List.foldlM_nil,
    bind_pure, bind_assoc]

theorem of_object (nonempty : members ≠ [])
    (read : ofTokens limits (.openObject :: tokens ++ [.closeObject]) = .ok (.object members)) :
    MembersOf limits tokens members := by
  rw [ofTokens_braced] at read
  simp only [Result.bind_eq_ok, step_openObject_eq_ok_iff] at read
  obtain ⟨_, ⟨opens, rfl⟩, state, ran, last, went, finished⟩ := read
  obtain rfl : last = .complete (.object members) [] := by
    unfold State.finish at finished
    split at finished
    · cases finished
      rfl
    · cases finished
  cases state with
  | openedObject frames =>
      cases went
      exact absurd rfl nonempty
  | complete value frames =>
      obtain _ | ⟨_ | ⟨done, key⟩, below⟩ := frames
      case cons.member =>
        cases went
        exact .read opens ran
      all_goals cases went
  | openedArray frames =>
      simp only [State.step] at went
      split at went <;> cases went
  | _ => cases went

theorem object (stands : MembersOf limits tokens members) :
    ofTokens limits (.openObject :: tokens ++ [.closeObject]) = .ok (.object members) := by
  cases stands with
  | read opens ran =>
      rw [ofTokens_braced, step_openObject_eq_ok_iff.mpr ⟨opens, rfl⟩, Result.ok_bind, ran]
      rfl

/-- Behind a comma members are read like behind the opening brace. -/
theorem awaited (stands : MembersOf limits tokens members) (older : Done) :
    ∃ value done key, members = ((key, value) :: done).reverse ∧
      tokens.foldlM (State.step limits) (.awaitingKey older []) =
        .ok (.complete value [.member (done ++ older) key]) := by
  cases stands with
  | @read value done key _ ran =>
      refine ⟨value, done, key, rfl, ?_⟩
      cases tokens with
      | nil => cases ran
      | cons token rest =>
          simp only [List.foldlM_cons, Result.bind_eq_ok] at ran ⊢
          obtain ⟨next, went, ran⟩ := ran
          cases token
          case quoted key =>
            simp only [State.step] at went
            split at went
            · cases went
              have isOpen : (State.awaitingColon [] key []).IsOpen := trivial
              exact ⟨_, rfl, State.run_atop older isOpen ran (List.cons_ne_nil _ _)⟩
            · cases went
          case closeObject =>
            cases went
            cases rest with
            | nil => cases ran
            | cons =>
                simp only [List.foldlM_cons, Result.bind_eq_ok] at ran
                obtain ⟨_, went, _⟩ := ran
                exact absurd went State.step_complete_ne
          all_goals cases went

theorem append (first : MembersOf limits tokens members) (second : MembersOf limits others more) :
    MembersOf limits (tokens ++ .comma :: others) (members ++ more) := by
  cases first with
  | @read value done key opens ran =>
      obtain ⟨last, younger, name, rfl, also⟩ := second.awaited ((key, value) :: done)
      have joined : ((key, value) :: done).reverse ++ ((name, last) :: younger).reverse =
          ((name, last) :: (younger ++ (key, value) :: done)).reverse := by
        simp
      rw [joined]
      refine .read opens ?_
      rw [List.foldlM_append, ran, Result.ok_bind, List.foldlM_cons]
      exact also

end MembersOf

/-! ### Texts and members -/

theorem State.sound_of_run {limits : Limits} {tokens : List Token} {state last : State}
    (ran : tokens.foldlM (step limits) state = .ok last) : .malformed ∉ tokens := by
  induction tokens generalizing state with
  | nil => simp
  | cons token rest ih =>
      simp only [List.foldlM_cons, Result.bind_eq_ok] at ran
      obtain ⟨next, went, ran⟩ := ran
      rw [List.mem_cons, not_or]
      refine ⟨?_, ih ran⟩
      rintro rfl
      cases state with
      | openedArray frames =>
          simp only [step] at went
          split at went <;> cases went
      | complete value frames => obtain _ | ⟨_ | _, _⟩ := frames <;> cases went
      | _ => cases went

/-- A text before a mark, and the members that it stands for. -/
def MemberText (limits : Limits) (text : List CodePoint) (members : Done) : Prop :=
  ∃ before, MembersOf limits before members ∧ ∀ (mark : Mark) (after : List CodePoint),
    tokens (text ++ mark.point :: after) = before ++ mark.token :: tokens after

theorem tokens_blanks {blanks : List CodePoint} (blank : ∀ point ∈ blanks, Token.isBlank point = true)
    (rest : List CodePoint) : tokens (blanks ++ rest) = tokens rest := by
  induction blanks with
  | nil => rfl
  | cons first blanks ih =>
      rw [List.cons_append, tokens_blank (blank first List.mem_cons_self)]
      exact ih fun point member => blank point (List.mem_cons_of_mem first member)

namespace MemberText

variable {limits : Limits} {text other : List CodePoint} {members more : Done}

theorem of_braced (nonempty : members ≠ [])
    (read : parse limits (.char '\x7b' :: (text ++ [.char '\x7d'])) = .ok (.object members)) :
    MemberText limits text members := by
  have opened : tokens (.char '\x7b' :: (text ++ [.char '\x7d'])) =
      .openObject :: tokens (text ++ [Mark.closeObject.point]) := tokens_next rfl _
  rw [parse, opened] at read
  obtain ⟨last, ran, _⟩ := Result.bind_eq_ok.mp read
  obtain ⟨before, leaves⟩ :=
    tokens_leaves fun member => State.sound_of_run ran (List.mem_cons_of_mem _ member)
  rw [leaves, tokens_nil, ← List.cons_append] at read
  exact ⟨before, .of_object nonempty read, leaves⟩

theorem join (first : MemberText limits text members) (second : MemberText limits other more) :
    MemberText limits (text ++ .char ',' :: other) (members ++ more) := by
  obtain ⟨before, stands, leaves⟩ := first
  obtain ⟨behind, standing, leaving⟩ := second
  refine ⟨before ++ .comma :: behind, stands.append standing, ?_⟩
  intro mark after
  have comma : tokens (text ++ .char ',' :: (other ++ mark.point :: after)) =
      before ++ .comma :: tokens (other ++ mark.point :: after) := leaves .comma _
  rw [List.append_assoc, List.cons_append, comma, leaving, List.append_assoc, List.cons_append]

/-- An object with blanks around it. -/
theorem parse_object {front back : List CodePoint} (stands : MemberText limits text members)
    (before : ∀ point ∈ front, Token.isBlank point = true)
    (behind : ∀ point ∈ back, Token.isBlank point = true) :
    parse limits (front ++ .char '\x7b' :: (text ++ .char '\x7d' :: back)) =
      .ok (.object members) := by
  obtain ⟨inside, stands, leaves⟩ := stands
  have closed : tokens (text ++ .char '\x7d' :: back) = inside ++ .closeObject :: tokens back :=
    leaves .closeObject back
  have ended := tokens_blanks behind []
  rw [List.append_nil, tokens_nil] at ended
  rw [parse, tokens_blanks before, tokens_next rfl]
  simp only [Token.next, closed, ended]
  exact stands.object

end MemberText

/-! ### Documents -/

theorem mapMembers?_append {Source Target : Type} (convert? : Source → Option Target)
    (front back : List (Source × Json Source)) :
    mapMembers? convert? (front ++ back) =
      (mapMembers? convert? front).bind fun mapped =>
        (mapMembers? convert? back).map (mapped ++ ·) := by
  induction front with
  | nil => simp [mapMembers?]
  | cons member rest ih =>
      obtain ⟨name, value⟩ := member
      simp only [List.cons_append, mapMembers?, ih, Option.bind_eq_bind]
      cases convert? name <;> cases mapText? convert? value <;>
        cases mapMembers? convert? rest <;> cases mapMembers? convert? back <;> simp

theorem decode?_encode_eq_object_iff {text : List Char} {members : List (String × Json String)} :
    decode? (Utf8.encode text) = some (.object members) ↔
      ∃ done, parse documentLimits (text.map .char) = .ok (.object done) ∧
        mapMembers? CodePoint.toString? done = some members := by
  simp only [decode?, Utf8.decode_encode, Except.toOption, Option.bind_eq_bind, Option.bind_some]
  cases parse documentLimits (text.map .char) with
  | error fault => simp
  | ok value => cases value <;> simp [mapText?]

/-- A text that is read, alone between braces, as a member. -/
def StandsFor (text : List Char) (member : String × Json String) : Prop :=
  decode? (Utf8.encode ('\x7b' :: (text ++ ['\x7d']))) = some (.object [member])

theorem StandsFor.memberText {text : List Char} {member : String × Json String}
    (stands : StandsFor text member) :
    ∃ done, MemberText documentLimits (text.map .char) done ∧
      mapMembers? CodePoint.toString? done = some [member] := by
  obtain ⟨done, read, mapped⟩ := decode?_encode_eq_object_iff.mp stands
  refine ⟨done, .of_braced ?_ (by simpa using read), mapped⟩
  rintro rfl
  cases mapped

theorem MemberText.parts {parts : List (List Char × String × Json String)} (nonempty : parts ≠ [])
    (each : ∀ part ∈ parts, StandsFor part.1 part.2) :
    ∃ done, MemberText documentLimits (([','].intercalate (parts.map Prod.fst)).map .char) done ∧
      mapMembers? CodePoint.toString? done = some (parts.map Prod.snd) := by
  induction parts with
  | nil => exact absurd rfl nonempty
  | cons part rest ih =>
      obtain ⟨first, stands, mapped⟩ := (each part List.mem_cons_self).memberText
      cases rest with
      | nil => exact ⟨first, by simpa using stands, mapped⟩
      | cons next rest =>
          obtain ⟨others, standing, mapping⟩ := ih (List.cons_ne_nil _ _)
            fun part member => each part (List.mem_cons_of_mem _ member)
          refine ⟨first ++ others, ?_, ?_⟩
          · simpa [List.intercalate] using stands.join standing
          · simp [mapMembers?_append, mapped, mapping]

/-- Texts that stand for members, divided by commas, are read as an object of these members. -/
theorem decode?_object {parts : List (List Char × String × Json String)} (nonempty : parts ≠ [])
    (each : ∀ part ∈ parts, StandsFor part.1 part.2) {front back : List Char}
    (before : ∀ char ∈ front, Token.isBlank (.char char) = true)
    (behind : ∀ char ∈ back, Token.isBlank (.char char) = true) :
    decode? (Utf8.encode
        (front ++ '\x7b' :: ([','].intercalate (parts.map Prod.fst) ++ '\x7d' :: back))) =
      some (.object (parts.map Prod.snd)) := by
  obtain ⟨done, stands, mapped⟩ := MemberText.parts nonempty each
  refine decode?_encode_eq_object_iff.mpr ⟨done, ?_, mapped⟩
  simp only [List.map_append, List.map_cons]
  exact stands.parse_object (by simpa using before) (by simpa using behind)

end ImageOwnership.Json
