import ImageOwnership.Proofs.Destination
import ImageOwnership.Proofs.ExitCode

/-!
Inputs that are refused. They are looked at in a fixed order, and the first one that is wrong gives the
failure of a validation that has not begun. Once a request has been sent no input is refused any more; only
a host that cannot be told ends a validation with the kind of failure that missing settings have.
-/

namespace ImageOwnership

open Http

variable {World : Type}

/-! ### What is wrong with an input -/

namespace Claim

section Inputs

variable (claim : Claim) (environment : Settings.Environment)

/-- There are no settings: none are given, and the environment has none. -/
def Unset : Prop :=
  claim.settings = none ∧ ∃ fault, Settings.ofEnvironment environment = .error fault

/-- The address that is meant has no entry in the table, and no rule accepts it. -/
def Unsupported : Prop :=
  claim.providers.origins.lookup (claim.providers.effectiveUrl claim.descriptor.registryBaseUrl) =
      none ∧
    ∀ rule ∈ claim.providers.rules,
      rule.accepts (claim.providers.effectiveUrl claim.descriptor.registryBaseUrl) = false

def Misnamed : Prop :=
  2 ≤ claim.descriptor.identifier.toList.count '/'

end Inputs

variable {claim : Claim} {environment : Settings.Environment}

theorem settingsIn_unset (unset : claim.Unset environment) :
    ∃ fault, claim.settingsIn environment = .error (.settings fault) := by
  obtain ⟨absent, fault, failed⟩ := unset
  exact ⟨fault, by simp [settingsIn, absent, failed, Except.mapError]⟩

theorem settingsIn_set (set : ¬ claim.Unset environment) :
    ∃ settings, claim.settingsIn environment = .ok settings := by
  unfold settingsIn
  cases given : claim.settings with
  | some settings => exact ⟨settings, rfl⟩
  | none =>
      cases read : Settings.ofEnvironment environment with
      | error fault => exact absurd ⟨given, fault, read⟩ set
      | ok settings => exact ⟨settings, rfl⟩

theorem origin_unsupported (unsupported : claim.Unsupported) :
    ∃ fault, claim.origin = .error (.baseUrl fault) := by
  unfold origin
  cases resolved : claim.providers.resolve claim.descriptor.registryBaseUrl with
  | error fault => exact ⟨fault, rfl⟩
  | ok origin => exact absurd unsupported (Provider.Table.resolves_iff.mp ⟨origin, resolved⟩)

theorem origin_supported (supported : ¬ claim.Unsupported) :
    ∃ origin, claim.origin = .ok origin := by
  obtain ⟨origin, resolved⟩ := Provider.Table.resolves_iff.mpr supported
  exact ⟨origin, by simp [Claim.origin, resolved, Except.mapError]⟩

theorem repository_misnamed (misnamed : claim.Misnamed) :
    claim.repository = .error (.identifier claim.descriptor.identifier) := by
  unfold repository
  cases named : Image.Repository.ofIdentifier? claim.descriptor.identifier with
  | none => rfl
  | some found =>
      have single := Image.Repository.ofIdentifier?_isSome_iff.mp (Option.isSome_of_eq_some named)
      unfold Misnamed at misnamed
      omega

theorem repository_named (named : ¬ claim.Misnamed) :
    ∃ repository, claim.repository = .ok repository := by
  unfold Misnamed at named
  have single : claim.descriptor.identifier.toList.count '/' ≤ 1 := by omega
  obtain ⟨found, read⟩ :=
    Option.isSome_iff_exists.mp (Image.Repository.ofIdentifier?_isSome_iff.mpr single)
  exact ⟨found, by simp [repository, read]⟩

/-- How the inputs stand after the registry type: the first one that is wrong, or the target. -/
inductive Inspected (claim : Claim) (environment : Settings.Environment) : Except Failure Target → Prop
  where
  | unset {fault : Settings.Fault} (unset : claim.Unset environment) :
      Inspected claim environment (.error (.settings fault))
  | unsupported {fault : Provider.Unsupported} (set : ¬ claim.Unset environment)
      (unsupported : claim.Unsupported) : Inspected claim environment (.error (.baseUrl fault))
  | misnamed (set : ¬ claim.Unset environment) (supported : ¬ claim.Unsupported)
      (misnamed : claim.Misnamed) :
      Inspected claim environment (.error (.identifier claim.descriptor.identifier))
  | settled {target : Target} (set : ¬ claim.Unset environment) (supported : ¬ claim.Unsupported)
      (named : ¬ claim.Misnamed) : Inspected claim environment (.ok target)

theorem inspected (claim : Claim) (environment : Settings.Environment) :
    claim.Inspected environment (claim.target environment) := by
  unfold target
  by_cases unset : claim.Unset environment
  · obtain ⟨fault, failed⟩ := settingsIn_unset unset
    rw [failed]
    exact .unset unset
  obtain ⟨settings, given⟩ := settingsIn_set unset
  rw [given]
  by_cases unsupported : claim.Unsupported
  · obtain ⟨fault, failed⟩ := origin_unsupported unsupported
    rw [failed]
    exact .unsupported unset unsupported
  obtain ⟨origin, resolved⟩ := origin_supported unsupported
  rw [resolved]
  by_cases misnamed : claim.Misnamed
  · rw [repository_misnamed misnamed]
    exact .misnamed unset unsupported misnamed
  obtain ⟨repository, named⟩ := repository_named misnamed
  rw [named]
  exact .settled unset unsupported misnamed

end Claim

/-! ### Failures of calls -/

theorem Token.read_unpremature {body : List UInt8} {failure : Failure}
    (failed : Token.read body = .error failure) : failure.isPremature = false := by
  unfold Token.read at failed
  split at failed
  all_goals cases failed
  all_goals rfl

theorem Stage.failure_unpremature (stage : Stage) (image : Image.Reference) (fault : FetchFault) :
    (stage.failure image fault).isPremature = false := by
  cases stage with
  | tag =>
      simp only [Stage.failure, Registry.tagFailure]
      split <;> rfl
  | platform digest => rfl
  | config digest => rfl

/-- No call fails as an input does, and only a host that cannot be told as settings do. -/
theorem Registry.FailsAfter.unpremature {image : Image.Reference} {purpose : Purpose}
    {ending : Except Stop Reply} {failure : Failure}
    (fails : FailsAfter image purpose ending failure) : failure.isPremature = false := by
  cases fails with
  | request | refused =>
      cases purpose with
      | token url stage => rfl
      | document stage bearer => exact stage.failure_unpremature image _
  | malformed => exact Stage.failure_unpremature _ image _
  | ungranted _ unreadable => exact Token.read_unpremature unreadable
  | fault | cancelled | unnamed => rfl

namespace Failure

variable {failure : Failure}

theorem kind_of_unpremature (later : failure.isPremature = false) :
    failure.kind ∉ [.registryType, .baseUrl, .identifier] := by
  cases failure with
  | registryType | baseUrl | identifier => cases later
  | stopped stop =>
      rcases stop with (_ | _ | unknown | _ | _) | _
      case fault.host => cases unknown <;> simp [kind, hostKind]
      all_goals simp [kind]
  | manifest fault | platformManifest fault | config fault => cases fault <;> simp [kind]
  | _ => simp [kind]

theorem stopped_of_value (later : failure.isPremature = false) (value : failure.kind = .value) :
    ∃ unknown, failure = .stopped (.fault (.host unknown)) ∧ hostKind unknown = .value := by
  cases failure with
  | settings => cases later
  | stopped stop =>
      rcases stop with (_ | _ | unknown | _ | _) | _
      case fault.host => exact ⟨unknown, rfl, value⟩
      all_goals cases value
  | manifest fault | platformManifest fault | config fault => cases fault <;> cases value
  | _ => cases value

end Failure

namespace Claim

section Order

variable (claim : Claim) (transport : Transport World) (environment : Settings.Environment)
  (run : Run World Log.Entry)

def Fails (kind : Failure.Kind) : Prop :=
  ∃ failure, (Action.perform (claim.validate transport environment) run).1 = .error failure ∧
    failure.kind = kind

/-- The last call of the validation came to a host that cannot be told. It has sent a request before, or
cookies are kept, and then an earlier call has sent one, unless they are kept from the beginning. -/
def LosesHost : Prop :=
  ∃ target registry earlier last unknown,
    claim.Exchanged transport environment run target registry (earlier ++ [last]) ∧
    last.ending = .error (.fault (.host unknown)) ∧ Failure.hostKind unknown = .value ∧
    ((∃ request, .sent request ∈ last.events) ∨
      (∃ kept, transport.cookies kept ≠ none) ∧
        ((∃ request, .sent request ∈ earlier.flatMap Exchange.events) ∨
          ∃ begun, transport.isCancelled run.world = (false, begun) ∧ transport.cookies begun ≠ none))

/-- The inputs of a validation are refused in their order, and before anything is done. -/
structure RefusesInOrder : Prop where
  registryType : claim.Fails transport environment run .registryType ↔
    claim.descriptor.registryType ≠ .oci
  /-- A validation may also fail as missing settings make it fail once it has made a call. -/
  settings : claim.descriptor.registryType = .oci →
    (claim.Fails transport environment run .value ↔
      claim.Unset environment ∨ claim.LosesHost transport environment run)
  baseUrl : claim.descriptor.registryType = .oci → ¬ claim.Unset environment →
    (claim.Fails transport environment run .baseUrl ↔ claim.Unsupported)
  identifier : claim.descriptor.registryType = .oci → ¬ claim.Unset environment →
    ¬ claim.Unsupported → (claim.Fails transport environment run .identifier ↔ claim.Misnamed)
  /-- What is refused for an input is refused by any means, and these are left as they are. -/
  untouched : claim.descriptor.registryType ≠ .oci ∨ claim.Unset environment ∨ claim.Unsupported ∨
      claim.Misnamed →
    ∃ failure, ∀ (other : Transport World) (start : Run World Log.Entry),
      Action.perform (claim.validate other environment) start = (.error failure, start)
  /-- Once a request has been sent it is too late. -/
  sent : ∀ events, (Action.perform (claim.validate transport environment) run).2.trace =
      run.trace ++ events → (∃ request, .sent request ∈ events) →
    ∀ kind ∈ [.registryType, .baseUrl, .identifier], ¬ claim.Fails transport environment run kind

end Order

variable {claim : Claim} {transport : Transport World} {environment : Settings.Environment}
  {run : Run World Log.Entry} {failure : Failure}

section Later

variable {target : Target} {registry : Registry} {exchanges : List Exchange}

theorem verifyLabels_unpremature {labels : Image.Labels} {owner : String} {image : Image.Reference}
    (failed : verifyLabels labels owner image = .error failure) : failure.isPremature = false := by
  obtain ⟨_, rfl⟩ | ⟨_, _, _, rfl⟩ := verifyLabels_failed failed
  · rfl
  · rfl

/-- A validation that has come to its calls fails for no input any more. -/
theorem Exchanged.unpremature
    (exchanged : claim.Exchanged transport environment run target registry exchanges)
    (failed : (Action.perform (claim.validateImage transport environment) run).1 = .error failure) :
    failure.isPremature = false := by
  obtain ⟨fetched, _, cancelled, conversation, concluded⟩ := exchanged.concluded
  rw [concluded] at failed
  obtain rfl | ⟨labels, _, rfl | unverified⟩ := judgement_failed (target.conclusion_failed failed).1
  · obtain ⟨_, _, rfl, ended⟩ := conversation.concluded_entering
    exact (Registry.after_failed ended).unpremature
  · rfl
  · exact verifyLabels_unpremature unverified

theorem Exchanged.losesHost
    (exchanged : claim.Exchanged transport environment run target registry exchanges)
    {unknown : Url.Host.Fault} (value : Failure.hostKind unknown = .value)
    (failed : (Action.perform (claim.validateImage transport environment) run).1 =
      .error (.stopped (.fault (.host unknown)))) : claim.LosesHost transport environment run := by
  obtain ⟨fetched, _, cancelled, conversation, concluded⟩ := exchanged.concluded
  rw [concluded] at failed
  have escaped := conclusion_unclassified_iff.mp ⟨failed, rfl⟩
  obtain ⟨earlier, last, rfl, escapes⟩ := conversation.unclassified_iff.mp escaped
  cases escapes with
  | broken => exact ⟨_, _, _, _, _, exchanged, rfl, value, conversation.sent_of_host rfl value⟩

theorem LosesHost.failed (loses : claim.LosesHost transport environment run) :
    ∃ unknown, Failure.hostKind unknown = .value ∧
      (Action.perform (claim.validateImage transport environment) run).1 =
        .error (.stopped (.fault (.host unknown))) := by
  obtain ⟨target, registry, earlier, last, unknown, exchanged, ended, value, _⟩ := loses
  obtain ⟨fetched, _, cancelled, conversation, concluded⟩ := exchanged.concluded
  have final : registry.after target.image last.purpose last.ending =
      .ended (.error (.stopped (.fault (.host unknown)))) := by
    rw [ended]
    rfl
  obtain rfl := conversation.ended (List.mem_append_right _ (List.mem_singleton_self last)) final
  refine ⟨unknown, value, concluded.trans (target.conclusion_other ?_)⟩
  intro image same
  cases same

end Later

section Validation

theorem validate_image (image : claim.descriptor.registryType = .oci) :
    claim.validate transport environment = claim.validateImage transport environment := by
  rw [validate, image]

theorem perform_validate_other (other : claim.descriptor.registryType ≠ .oci) :
    Action.perform (claim.validate transport environment) run =
      (.error (.registryType claim.descriptor.registryType), run) := by
  unfold validate
  split
  · rename_i image
    exact absurd image other
  · exact Action.perform_throw run _

theorem LosesHost.settled (loses : claim.LosesHost transport environment run) :
    ∃ target, claim.target environment = .ok target := by
  obtain ⟨target, _, _, _, _, exchanged, _⟩ := loses
  exact ⟨target, exchanged.settled⟩

/-- A claim that is refused for an input, told by the kind of the failure. -/
theorem RefusesInOrder.of_refused
    (refused : ∀ (other : Transport World) (start : Run World Log.Entry),
      Action.perform (claim.validate other environment) start = (.error failure, start))
    (unsettled : claim.descriptor.registryType = .oci →
      ∀ target, claim.target environment ≠ .ok target)
    (registryType : failure.kind = .registryType ↔ claim.descriptor.registryType ≠ .oci)
    (settings : claim.descriptor.registryType = .oci → (failure.kind = .value ↔ claim.Unset environment))
    (baseUrl : claim.descriptor.registryType = .oci → ¬ claim.Unset environment →
      (failure.kind = .baseUrl ↔ claim.Unsupported))
    (identifier : claim.descriptor.registryType = .oci → ¬ claim.Unset environment →
      ¬ claim.Unsupported → (failure.kind = .identifier ↔ claim.Misnamed)) :
    claim.RefusesInOrder transport environment run := by
  have fails (kind : Failure.Kind) :
      claim.Fails transport environment run kind ↔ failure.kind = kind := by
    simp [Fails, refused]
  have unlost (image : claim.descriptor.registryType = .oci) :
      ¬ claim.LosesHost transport environment run := by
    intro loses
    obtain ⟨target, settled⟩ := loses.settled
    exact unsettled image target settled
  simp only [← fails] at registryType settings baseUrl identifier
  refine ⟨registryType, fun image => ?_, baseUrl, identifier, fun _ => ⟨failure, refused⟩, ?_⟩
  · simp only [settings image, unlost image, or_false]
  · intro events unchanged sent
    obtain ⟨request, member⟩ := sent
    rw [refused, eq_comm, List.append_right_eq_self] at unchanged
    rw [unchanged] at member
    cases member

/-- A claim whose inputs are in order fails for none of them. -/
theorem RefusesInOrder.of_settled (image : claim.descriptor.registryType = .oci)
    (set : ¬ claim.Unset environment) (supported : ¬ claim.Unsupported) (named : ¬ claim.Misnamed)
    (never : ∀ kind ∈ [.registryType, .baseUrl, .identifier],
      ¬ claim.Fails transport environment run kind)
    (value : claim.Fails transport environment run .value ↔
      claim.LosesHost transport environment run) :
    claim.RefusesInOrder transport environment run where
  registryType := by simp [image, never .registryType]
  settings := fun _ => by simp [set, value]
  baseUrl := fun _ _ => by simp [supported, never .baseUrl]
  identifier := fun _ _ _ => by simp [named, never .identifier]
  untouched := fun wrong => by simp [image, set, supported, named] at wrong
  sent := fun _ _ _ => never

theorem Exchanged.refusesInOrder {target : Target} {registry : Registry} {exchanges : List Exchange}
    (image : claim.descriptor.registryType = .oci) (set : ¬ claim.Unset environment)
    (supported : ¬ claim.Unsupported) (named : ¬ claim.Misnamed)
    (exchanged : claim.Exchanged transport environment run target registry exchanges) :
    claim.RefusesInOrder transport environment run := by
  refine .of_settled image set supported named ?_ ⟨?_, ?_⟩
  · intro kind refusal fails
    obtain ⟨failure, failed, rfl⟩ := fails
    rw [validate_image image] at failed
    exact Failure.kind_of_unpremature (exchanged.unpremature failed) refusal
  · intro fails
    obtain ⟨failure, failed, value⟩ := fails
    rw [validate_image image] at failed
    obtain ⟨unknown, rfl, untold⟩ := Failure.stopped_of_value (exchanged.unpremature failed) value
    exact exchanged.losesHost untold failed
  · intro loses
    obtain ⟨unknown, value, failed⟩ := loses.failed
    rw [← validate_image image] at failed
    exact ⟨_, failed, value⟩

/-- No client can be made: that is no fault of an input, and it comes before the first call. -/
theorem RefusesInOrder.of_unmade {target : Target} (image : claim.descriptor.registryType = .oci)
    (set : ¬ claim.Unset environment) (supported : ¬ claim.Unsupported) (named : ¬ claim.Misnamed)
    (settled : claim.target environment = .ok target) (unmade : claim.made target = .error failure) :
    claim.RefusesInOrder transport environment run := by
  have fails (kind : Failure.Kind) :
      claim.Fails transport environment run kind ↔ kind = .other := by
    obtain ⟨_, fault, rfl, _⟩ := made_error unmade
    rw [Fails, validate_image image, perform_validateImage_unmade transport settled unmade]
    simp [Failure.kind, eq_comm]
  refine .of_settled image set supported named ?_ ?_
  · simp [fails]
  · simp only [fails, reduceCtorEq, false_iff]
    rintro ⟨other, registry, _, _, _, exchanged, _⟩
    have again := exchanged.settled
    rw [settled] at again
    cases again
    have made := exchanged.made
    rw [unmade] at made
    cases made

theorem perform_validate_unsettled (image : claim.descriptor.registryType = .oci)
    (unsettled : claim.target environment = .error failure) (other : Transport World)
    (start : Run World Log.Entry) :
    Action.perform (claim.validate other environment) start = (.error failure, start) := by
  rw [validate_image image, perform_validateImage_unsettled other unsettled]

end Validation

/-- Every validation refuses its inputs in their order. -/
theorem validate_refusesInOrder (claim : Claim) (transport : Transport World)
    (environment : Settings.Environment) (run : Run World Log.Entry) :
    claim.RefusesInOrder transport environment run := by
  by_cases image : claim.descriptor.registryType = .oci
  case neg =>
    refine .of_refused (fun other start => perform_validate_other image) (absurd · image) ?_
      (absurd · image) (absurd · image) (absurd · image)
    simp [Failure.kind, image]
  have inspected := claim.inspected environment
  cases settled : claim.target environment with
  | error failure =>
      have refused (other : Transport World) (start : Run World Log.Entry) :=
        perform_validate_unsettled image settled other start
      have unsettled (target : Target) : claim.target environment ≠ .ok target := by simp [settled]
      rw [settled] at inspected
      cases inspected with
      | unset unset =>
          exact .of_refused refused (fun _ => unsettled) (by simp [Failure.kind, image])
            (fun _ => by simp [Failure.kind, unset]) (fun _ set => absurd unset set)
            (fun _ set => absurd unset set)
      | unsupported set unsupported =>
          exact .of_refused refused (fun _ => unsettled) (by simp [Failure.kind, image])
            (fun _ => by simp [Failure.kind, set]) (fun _ _ => by simp [Failure.kind, unsupported])
            (fun _ _ supported => absurd unsupported supported)
      | misnamed set supported misnamed =>
          exact .of_refused refused (fun _ => unsettled) (by simp [Failure.kind, image])
            (fun _ => by simp [Failure.kind, set]) (fun _ _ => by simp [Failure.kind, supported])
            (fun _ _ _ => by simp [Failure.kind, misnamed])
  | ok target =>
      rw [settled] at inspected
      cases inspected with
      | settled set supported named =>
          cases made : claim.made target with
          | error failure => exact .of_unmade image set supported named settled made
          | ok registry =>
              obtain ⟨exchanges, _, _, _, conversation, _⟩ :=
                perform_validateImage transport settled made run
              exact Exchanged.refusesInOrder image set supported named
                (exchanged_of_conversation settled made conversation)

/-- A claim on an image whose settings are to be read from the environment. -/
def withoutSettings : Claim :=
  { ofTag "1" with settings := none }

/-- A run in which the first answer is a redirect to a host that is no address. -/
def strayRun : Run Script.World Log.Entry where
  world := { entries := [{ answer := .ok ⟨302, some "//[fe80::1%]]/b", []⟩ }] }

/-- The environment has settings, and yet the validation fails as it does without any. -/
theorem stray_fails :
    withoutSettings.descriptor.registryType = .oci ∧ ¬ withoutSettings.Unset (fun _ => none) ∧
      withoutSettings.Fails Script.transport (fun _ => none) strayRun .value := by
  have read : (Settings.ofEnvironment fun _ => none).toOption.isSome = true := by decide +kernel
  have failed : (Action.perform (withoutSettings.validate Script.transport fun _ => none) strayRun).1 =
      .error (.stopped (.fault (.host .misplacedBracket))) := by
    decide +kernel
  refine ⟨rfl, ?_, _, failed, rfl⟩
  rintro ⟨_, fault, unset⟩
  rw [unset] at read
  cases read

end Claim

end ImageOwnership
