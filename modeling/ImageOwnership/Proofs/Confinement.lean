import ImageOwnership.Proofs.Destination
import ImageOwnership.Proofs.Url.Named

/-!
Which hosts the public table leads to. The hosts of its entries are listed ones; an address that a rule
accepts for some text in it leads wherever its authority says.
-/

namespace ImageOwnership

open Http

namespace Provider

/-- How the hosts of the families end. -/
def familyEndings : List String :=
  ["-docker.pkg.dev", ".gcr.io", ".amazonaws.com", ".azurecr.io"]

def loopbackHosts : List String :=
  ["127.0.0.1", "localhost"]

/-- A host that the public table is meant for. -/
def IsListed (host : String) : Prop :=
  "https://" ++ host ∈ publicTable.origins.map Prod.snd ∨
    (∃ ending ∈ familyEndings, ending.toList <:+ host.toList) ∨ host ∈ loopbackHosts

instance (host : String) : Decidable (IsListed host) :=
  inferInstanceAs (Decidable (_ ∨ _ ∨ _))

theorem listed_of_entry {key origin : String} {address : Url}
    (entry : (key, origin) ∈ publicTable.origins) {names : Url.HostNames}
    (read : Url.parse names (Registry.withoutLastSlashes origin) = .ok address) :
    IsListed address.host := by
  have bare := publicTable_bare _ entry
  rw [bare.unslashed, bare.read] at read
  cases read
  exact .inl (List.mem_map.mpr ⟨(key, origin), entry, bare.written.symm⟩)

/-- The beginning of an address that names a host of the loopback and a port. -/
def loopbackStart (host : String) : String :=
  "http://" ++ host ++ ":"

/-- An address that begins so leads to the loopback, unless what it begins with is a user. -/
theorem listed_of_loopback {host url : String} {address : Url} (loopback : host ∈ loopbackHosts)
    (begins : (loopbackStart host).toList <+: url.toList) {names : Url.HostNames}
    (read : Url.parse names (Registry.withoutLastSlashes url) = .ok address)
    (anonymous : address.userinfo = "") : IsListed address.host := by
  have checked : ∀ host ∈ loopbackHosts, host.toList.all (!Url.isMark ·) = true ∧
      Url.isAscii host.toList = true ∧
      (Url.normalHost .verbatim host.toList).toOption = some host.toList ∧ host.toList ≠ [] := by
    decide +kernel
  obtain ⟨plain, ascii, normal, some⟩ := checked host loopback
  have same := Url.normalHost_ascii ascii names .verbatim
  have unmarked (char : Char) (member : char ∈ host.toList) : Url.isMark char = false := by
    simpa using List.all_eq_true.mp plain char member
  obtain ⟨rest, whole⟩ := begins
  have front : url.toList = ("http://".toList ++ host.toList) ++ ':' :: rest := by
    rw [← whole]
    simp [loopbackStart]
  obtain ⟨kept, begun⟩ := Registry.toList_withoutLastSlashes (by decide) front
  rw [List.append_assoc] at begun
  have leads := Url.parse_named begun unmarked (same.trans (Result.toOption_eq_some_iff.mp normal))
    some read anonymous
  rw [String.ofList_toList] at leads
  rw [leads]
  exact .inr (.inr loopback)

end Provider

namespace Claim

variable {World : Type} {claim : Claim}

/-- Under the public table the manifest of a tag is asked for at the host of an entry, or at the host
that the address of the registry names by itself. That host is a listed one exactly if the address has
an entry or names such a host: what else stands in an address that a rule accepts makes no host
listed. An address that begins as the loopback does leads there if it names no user. -/
theorem validateImage_destination (published : claim.providers = Provider.publicTable)
    (transport : Transport World) (environment : Settings.Environment) (run : Run World Log.Entry) :
    (Action.perform (claim.validateImage transport environment) run).2.trace = run.trace ∨
      ∃ target registry exchanges,
        claim.Exchanged transport environment run target registry exchanges ∧
        ((claim.registryUrl, target.origin) ∈ Provider.publicTable.origins ∨
          claim.registryUrl = target.origin) ∧
        ∀ exchange ∈ exchanges, ∀ bearer, exchange.purpose = .document .tag bearer →
          ∀ request ∈ issued exchange.events,
            request.url.scheme = "" ∧ request.url.host = "" ∨
              ∃ address,
                Url.parse transport.names (Registry.withoutLastSlashes target.origin) = .ok address ∧
                request.url.SameAuthority address ∧
                (Provider.IsListed request.url.host ↔
                  (claim.registryUrl, target.origin) ∈ Provider.publicTable.origins ∨
                    Provider.IsListed address.host) ∧
                ∀ host ∈ Provider.loopbackHosts,
                  (Provider.loopbackStart host).toList <+: claim.registryUrl.toList →
                  request.url.userinfo = "" → Provider.IsListed request.url.host := by
  obtain silent | ⟨target, registry, exchanges, exchanged⟩ :=
    claim.silent_or_exchanged transport environment run
  · exact .inl silent
  · have origin := origin_cases exchanged.settled
    rw [published] at origin
    refine .inr ⟨target, registry, exchanges, exchanged, origin, ?_⟩
    intro exchange member bearer asked request sent
    obtain ⟨_, first, written, rfl⟩ := exchanged.issued member sent
    rw [asked] at written
    rw [Request.url_withCredentials]
    have unended := Registry.getLast?_withoutLastSlashes target.origin
    rw [← made_origin exchanged.made] at unended ⊢
    obtain nowhere | ⟨address, whole, same⟩ := Stage.authority_of_request unended written
    · exact .inl nowhere
    · have read := whole
      rw [made_origin exchanged.made] at read
      refine .inr ⟨address, whole, same, ?_, ?_⟩
      · rw [same.host]
        refine ⟨.inr, ?_⟩
        rintro (entry | listed)
        · exact Provider.listed_of_entry entry read
        · exact listed
      · intro host loopback begins anonymous
        rw [same.host]
        obtain entry | itself := origin
        · exact Provider.listed_of_entry entry read
        · rw [← itself] at read
          exact Provider.listed_of_loopback loopback begins read (same.userinfo ▸ anonymous)

/-- An address of a family leads to its own host, which is a listed one. -/
theorem family_destination :
    ∃ target registry exchanges,
      (atBase "https://eu.gcr.io").Exchanged Script.transport (fun _ => none) unansweredRun target
        registry exchanges ∧
      ∀ exchange ∈ exchanges, ∀ bearer, exchange.purpose = .document .tag bearer →
        ∀ request ∈ issued exchange.events,
          request.url.scheme = "" ∧ request.url.host = "" ∨
            request.url.host = "eu.gcr.io" ∧ Provider.IsListed request.url.host := by
  have known : (atBase "https://eu.gcr.io").providers = Provider.publicTable := rfl
  have seen : ¬ (Action.perform ((atBase "https://eu.gcr.io").validateImage Script.transport
      fun _ => none) unansweredRun).2.trace = unansweredRun.trace := by
    decide +kernel
  obtain ⟨target, registry, exchanges, exchanged, origin, stays⟩ :=
    (validateImage_destination known Script.transport (fun _ => none) unansweredRun).resolve_left seen
  have unlisted : ∀ entry ∈ Provider.publicTable.origins, entry.1 ≠ "https://eu.gcr.io" := by
    decide +kernel
  have itself : "https://eu.gcr.io" = target.origin :=
    origin.resolve_left fun entry => unlisted _ entry rfl
  refine ⟨target, registry, exchanges, exchanged, ?_⟩
  intro exchange member bearer asked request sent
  obtain nowhere | ⟨address, whole, same, listed, _⟩ := stays exchange member bearer asked request sent
  · exact .inl nowhere
  · have read : (Url.parse Script.transport.names
        (Registry.withoutLastSlashes "https://eu.gcr.io")).toOption.map Url.host =
        some "eu.gcr.io" := by
      decide +kernel
    rw [itself, whole] at read
    have host : address.host = "eu.gcr.io" := Option.some.inj read
    refine .inr ⟨same.host.trans host, listed.mpr (.inr ?_)⟩
    rw [host]
    decide +kernel

/-- The text of a family in the path makes a foreign host acceptable. -/
theorem path_destination :
    (Action.perform ((atBase "https://evil.example/.gcr.io").validateImage Script.transport
        fun _ => none) unansweredRun).2.trace =
      [.called "https://evil.example/.gcr.io/v2/me/server/manifests/1",
        .sent ⟨⟨"https", "", "evil.example", none, "/.gcr.io/v2/me/server/manifests/1", none, none⟩,
          [("accept", Registry.tagAccept), ("user-agent", Settings.defaultUserAgent),
            ("host", "evil.example")], .whole 10⟩] ∧
      ¬ Provider.IsListed "evil.example" := by
  decide +kernel

end Claim

end ImageOwnership
