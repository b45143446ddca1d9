import ImageOwnership.Http.Script
import ImageOwnership.Proofs.Endings

/-!
Failures that pass through a validation unclassified. A call breaks when its address, its host or one
of its headers, a cookie among them, cannot be written, when the host of an answered request cannot be
told, or when a redirect leads nowhere; a token may be hidden too deep in its answer. Nothing else gets
through.
-/

namespace ImageOwnership

open Http

variable {World : Type}

namespace Http

/-- What breaks a call, with the fault that comes of it. The faults of a request that cannot be written
are those of its address and its headers, and those of a host that is a form without a name or, where
cookies are kept, cannot be told; a redirect to where no request can be written has the same faults. -/
inductive Call.Breaks (transport : Transport World) (client : Client) (isOpen : Bool) (call : Call)
    (events : List Event) : Fault → Prop where
  | unwritable {before : World} {fault : Fault}
      (written : transport.request before call client = .error fault) :
      Breaks transport client isOpen call events fault
  | closed (shut : isOpen = false) : Breaks transport client isOpen call events .clientClosed
  | unknownHost {request : Request} {before middle : World} {response : Response}
      {fault : Url.Host.Fault} (sent : .sent request ∈ events)
      (answer : transport.respond request before = (.ok response, middle))
      (host : request.url.checkHost = .error fault) :
      Breaks transport client isOpen call events (.host fault)
  | astray {request : Request} {before middle : World} {response : Response} {location : String}
      {fault : Fault} (sent : .sent request ∈ events)
      (answer : transport.respond request before = (.ok response, middle))
      (redirected : response.redirect? = some location)
      (lost : transport.next middle request location = .error fault) :
      Breaks transport client isOpen call events fault

variable {transport : Transport World} {client : Client} {isOpen : Bool} {call : Call}
  {world after : World} {events more : List Event} {fault : Fault}

theorem Call.Breaks.weaken (broken : call.Breaks transport client isOpen events fault)
    (kept : ∀ event ∈ events, event ∈ more) : call.Breaks transport client isOpen more fault := by
  cases broken with
  | unwritable written => exact .unwritable written
  | closed shut => exact .closed shut
  | unknownHost sent answer host => exact .unknownHost (kept _ sent) answer host
  | astray sent answer redirected lost => exact .astray (kept _ sent) answer redirected lost

theorem Answered.answer {request : Request} {response : Response}
    (answered : Answered transport request world (.ok response) after) :
    transport.respond request world = (.ok response, after) := by
  cases answered with
  | delivered answer _ => exact answer

theorem Hops.breaks {left : Nat} {request : Request}
    (hops : Hops transport left request world events (.error fault) after)
    (foreign : fault.Foreign) : call.Breaks transport client isOpen events fault := by
  generalize failed : (Except.error fault : Except Fault Reply) = result at hops
  induction hops with
  | failed answered =>
      cases failed
      cases answered with
      | failed _ => exact absurd rfl (foreign _)
      | unreadable answer host => exact .unknownHost (List.mem_singleton_self _) answer host
  | arrived => cases failed
  | astray answered redirected lost =>
      cases failed
      exact .astray (List.mem_singleton_self _) answered.answer redirected lost
  | tooMany =>
      cases failed
      exact absurd rfl (foreign _)
  | onward _ _ _ _ ih => exact (ih failed).weaken fun _ => List.mem_cons_of_mem _

theorem Attempt.breaks
    (attempt : Attempt transport client isOpen call world events (.error fault) after)
    (foreign : fault.Foreign) : call.Breaks transport client isOpen events fault := by
  cases attempt with
  | unwritable written => exact .unwritable written
  | closed _ shut => exact .closed shut
  | sent _ _ hops => exact (hops.breaks foreign).weaken fun _ => List.mem_cons_of_mem _

/-- A foreign fault ends a call only if something broke the call. -/
theorem Course.breaks {left pauses : Nat}
    (course : Course transport client isOpen call left pauses world events (.error (.fault fault))
      after)
    (foreign : fault.Foreign) : call.Breaks transport client isOpen events fault := by
  generalize failed : (Except.error (.fault fault) : Except Stop Reply) = result at course
  induction course with
  | cancelledBefore => cases failed
  | cancelledDuring => cases failed
  | replied => cases failed
  | failed _ attempt _ =>
      cases failed
      exact attempt.breaks foreign
  | repeated _ _ _ _ ih => exact (ih failed).weaken fun event member => by simp [member]

end Http

/-- The failure that escapes from a call unclassified. -/
inductive Exchange.Escapes (transport : Transport World) (registry : Registry)
    (image : Image.Reference) (isOpen : Bool) : Exchange → Failure → Prop where
  | broken {purpose : Purpose} {events : List Event} {fault : Fault} (foreign : fault.Foreign)
      (breaks : (purpose.call registry image).Breaks transport registry.client isOpen events fault) :
      Escapes transport registry image isOpen ⟨purpose, events, .error (.fault fault)⟩
        (.stopped (.fault fault))
  | deepToken {url : String} {stage : Stage} {events : List Event} {reply : Reply}
      {container : Json.Container} (success : reply.status = 200)
      (deep : Token.read reply.body = .error (.deepToken container)) :
      Escapes transport registry image isOpen ⟨.token url stage, events, .ok reply⟩
        (.deepToken container)

section Escapes

variable {transport : Transport World} {registry : Registry} {image : Image.Reference}
  {isOpen : Bool} {exchange : Exchange} {failure : Failure}

theorem Exchange.Escapes.unclassified
    (escapes : exchange.Escapes transport registry image isOpen failure) :
    failure.isClassified = false := by
  cases escapes with
  | broken => rfl
  | deepToken => rfl

theorem Exchange.Escapes.ended
    (escapes : exchange.Escapes transport registry image isOpen failure) :
    registry.after image exchange.purpose exchange.ending = .ended (.error failure) := by
  cases escapes with
  | @broken purpose events fault foreign =>
      cases fault with
      | request error => exact absurd rfl (foreign error)
      | _ => rfl
  | deepToken success deep =>
      simp [Registry.after, success, Registry.receiving, Registry.granting, deep]

theorem Token.read_unclassified {body : List UInt8} (failed : Token.read body = .error failure)
    (unclassified : failure.isClassified = false) : ∃ container, failure = .deepToken container := by
  unfold Token.read at failed
  split at failed
  all_goals cases failed
  all_goals first | exact ⟨_, rfl⟩ | cases unclassified

theorem Stage.failure_isClassified (stage : Stage) (image : Image.Reference) (fault : FetchFault) :
    (stage.failure image fault).isClassified = true := by
  cases stage with
  | tag =>
      simp only [Stage.failure, Registry.tagFailure]
      split <;> rfl
  | platform digest => rfl
  | config digest => rfl

/-- The stages classify all that they give a meaning to. -/
theorem Registry.FailsAfter.unclassified {purpose : Purpose} {ending : Except Stop Reply}
    (fails : FailsAfter image purpose ending failure) (unclassified : failure.isClassified = false) :
    (∃ fault, fault.Foreign ∧ ending = .error (.fault fault) ∧ failure = .stopped (.fault fault)) ∨
      ∃ url stage reply container, purpose = .token url stage ∧ ending = .ok reply ∧
        reply.status = 200 ∧ Token.read reply.body = .error (.deepToken container) ∧
        failure = .deepToken container := by
  cases fails with
  | @request error =>
      cases purpose with
      | token url stage => cases unclassified
      | document stage bearer =>
          rw [Purpose.failed, Stage.failure_isClassified] at unclassified
          cases unclassified
  | fault foreign => exact .inl ⟨_, foreign, rfl, rfl⟩
  | cancelled => cases unclassified
  | refused _ =>
      cases purpose with
      | token url stage => cases unclassified
      | document stage bearer =>
          rw [Purpose.refused, Stage.failure_isClassified] at unclassified
          cases unclassified
  | ungranted success unreadable =>
      obtain ⟨container, rfl⟩ := Token.read_unclassified unreadable unclassified
      exact .inr ⟨_, _, _, container, rfl, rfl, success, unreadable, rfl⟩
  | malformed _ _ =>
      rw [Stage.failure_isClassified] at unclassified
      cases unclassified
  | unnamed _ _ _ _ => cases unclassified

/-- What is fetched is an unclassified failure exactly when the last call let it escape. -/
theorem Conversation.unclassified_iff {stage : Stage} {world after : World}
    {exchanges : List Exchange} {fetched : Except Failure Image.Labels}
    (conversation : Conversation transport registry image isOpen (registry.entering stage) world
      exchanges fetched after) :
    fetched = .error failure ∧ failure.isClassified = false ↔
      ∃ earlier last, exchanges = earlier ++ [last] ∧
        last.Escapes transport registry image isOpen failure := by
  obtain ⟨earlier, last, rfl, ended⟩ := conversation.concluded_entering
  constructor
  · intro unclassified
    obtain ⟨rfl, unclassified⟩ := unclassified
    refine ⟨earlier, last, rfl, ?_⟩
    have fails := Registry.after_failed ended
    have member : last ∈ earlier ++ [last] := List.mem_append_right _ (List.mem_singleton_self _)
    obtain ⟨_, _, course⟩ := conversation.coursed member
    obtain ⟨purpose, events, ending⟩ := last
    obtain ⟨fault, foreign, rfl, rfl⟩ | ⟨url, stage, reply, container, rfl, rfl, success, deep, rfl⟩ :=
      fails.unclassified unclassified
    · exact .broken foreign (course.breaks foreign)
    · exact .deepToken success deep
  · intro escaped
    obtain ⟨others, final, split, escapes⟩ := escaped
    obtain ⟨_, rfl⟩ := List.append_inj' split rfl |>.imp_right List.singleton_inj.mp
    rw [escapes.ended] at ended
    cases ended
    exact ⟨rfl, escapes.unclassified⟩

end Escapes

namespace Claim

variable {claim : Claim} {target : Target} {environment : Settings.Environment} {failure : Failure}

/-- What is wrong before anything is asked for is classified, unless there are no settings. -/
theorem target_unclassified (unsettled : claim.target environment = .error failure) :
    failure.isClassified = false ↔ claim.settingsIn environment = .error failure := by
  obtain ⟨unset, fault, rfl⟩ | ⟨settings, given, ⟨_, rfl⟩ | rfl⟩ := target_failed unsettled
  · exact ⟨fun _ => unset, fun _ => rfl⟩
  · simp [given, Failure.isClassified]
  · simp [given, Failure.isClassified]

theorem verifyLabels_classified {labels : Image.Labels} {owner : String} {image : Image.Reference}
    (failed : verifyLabels labels owner image = .error failure) : failure.isClassified = true := by
  obtain ⟨_, rfl⟩ | ⟨_, _, _, rfl⟩ := verifyLabels_failed failed
  · rfl
  · rfl

/-- The verdict adds no unclassified failure, and it keeps each one. -/
theorem conclusion_unclassified_iff {cancelled : Bool} {fetched : Except Failure Image.Labels} :
    target.conclusion (claim.judgement target cancelled fetched) = .error failure ∧
        failure.isClassified = false ↔
      fetched = .error failure ∧ failure.isClassified = false := by
  constructor
  · intro verdict
    obtain ⟨failed, unclassified⟩ := verdict
    obtain fetched | ⟨labels, _, rfl | failed⟩ := judgement_failed (target.conclusion_failed failed).1
    · exact ⟨fetched, unclassified⟩
    · cases unclassified
    · rw [verifyLabels_classified failed] at unclassified
      cases unclassified
  · intro escaped
    obtain ⟨rfl, unclassified⟩ := escaped
    refine ⟨target.conclusion_other ?_, unclassified⟩
    intro image limited
    rw [limited] at unclassified
    cases unclassified

/-- A validation fails unclassified exactly when there are no settings, when no client can be made, or
when the last call lets a failure escape. -/
theorem validateImage_unclassified_iff (claim : Claim) (transport : Transport World)
    (environment : Settings.Environment) (run : Run World Log.Entry) (failure : Failure) :
    (Action.perform (claim.validateImage transport environment) run).1 = .error failure ∧
        failure.isClassified = false ↔
      claim.settingsIn environment = .error failure ∨
        ∃ target, claim.target environment = .ok target ∧
          (claim.made target = .error failure ∨
            ∃ registry earlier last fetched world, claim.made target = .ok registry ∧
              Conversation transport registry target.image run.isOpen (registry.entering .tag)
                run.world (earlier ++ [last]) fetched world ∧
              last.Escapes transport registry target.image run.isOpen failure) := by
  cases settled : claim.target environment with
  | error fault =>
      rw [perform_validateImage_unsettled transport settled]
      constructor
      · intro failed
        obtain ⟨same, unclassified⟩ := failed
        cases same
        exact .inl ((target_unclassified settled).mp unclassified)
      · intro cause
        obtain unset | ⟨_, impossible, _⟩ := cause
        · have same : fault = failure := by
            simpa [Claim.target, unset, bind, Except.bind, eq_comm] using settled
          subst same
          exact ⟨rfl, (target_unclassified settled).mpr unset⟩
        · cases impossible
  | ok target =>
      have given := (target_eq_ok_iff.mp settled).1
      simp only [given, reduceCtorEq, false_or, Except.ok.injEq, exists_eq_left']
      cases made : claim.made target with
      | error fault =>
          rw [perform_validateImage_unmade transport settled made]
          obtain ⟨_, cause, rfl, _⟩ := made_error made
          constructor
          · intro failed
            obtain ⟨same, _⟩ := failed
            cases same
            exact .inl rfl
          · intro failed
            obtain same | ⟨_, _, _, _, _, impossible, _⟩ := failed
            · cases same
              exact ⟨rfl, rfl⟩
            · cases impossible
      | ok registry =>
          obtain ⟨exchanges, fetched, world, notes, conversation, performed⟩ :=
            perform_validateImage transport settled made run
          rw [performed, conclusion_unclassified_iff, conversation.unclassified_iff]
          constructor
          · intro escaped
            obtain ⟨earlier, last, rfl, escapes⟩ := escaped
            exact .inr ⟨registry, earlier, last, fetched, world, rfl, conversation, escapes⟩
          · intro escaped
            obtain impossible | ⟨_, earlier, last, _, _, same, again, escapes⟩ := escaped
            · cases impossible
            cases same
            obtain ⟨rfl, _, _⟩ := conversation.unique again
            exact ⟨earlier, last, rfl, escapes⟩

example :
    (Action.perform ((atBase "https://xn--.gcr.io").validateImage Http.Script.transport fun _ => none)
      unansweredRun).1 =
        .error (.stopped (.fault (.host
          (.unreadableName "Malformed A-label, no Punycode eligible content found")))) := by
  decide +kernel

/-- A line break in a tag gets into the address, which then cannot be read. -/
theorem lineBreak_unclassified :
    ∃ failure, (Action.perform ((ofTag "1\n").validateImage Http.Script.transport fun _ => none)
        { world := { entries := [] } }).1 = .error failure ∧
      failure.isClassified = false := by
  have failed : (Action.perform ((ofTag "1\n").validateImage Http.Script.transport fun _ => none)
      { world := { entries := [] } }).1 = .error (.stopped (.fault (.url (.control '\n' 40)))) := by
    decide +kernel
  exact ⟨_, failed, rfl⟩

end Claim

end ImageOwnership
