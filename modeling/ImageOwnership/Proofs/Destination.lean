import ImageOwnership.Proofs.FirstMatch
import ImageOwnership.Proofs.Http.Issued
import ImageOwnership.Proofs.Session

/-!
Where the requests for documents go. The address of a document is written below the origin of its
registry, so that they go to the authority that the origin names by itself. The origins of the public
table are nothing but a secure scheme and a host.
-/

namespace ImageOwnership

open Http

/-! ### Addresses of documents -/

namespace Registry

variable {text : String}

theorem getLast?_withoutLastSlashes (text : String) :
    (withoutLastSlashes text).toList.getLast? ≠ some '/' := by
  have stops := List.head?_dropWhile_not (· = '/') text.toList.reverse
  simp only [withoutLastSlashes, String.toList_ofList, List.getLast?_reverse]
  cases first : (text.toList.reverse.dropWhile (· = '/')).head? with
  | none => simp
  | some char =>
      rw [first] at stops
      simpa using stops

theorem toList_withoutLastSlashes {front rest : List Char} {char : Char} (other : char ≠ '/')
    (whole : text.toList = front ++ char :: rest) :
    ∃ kept, (withoutLastSlashes text).toList = front ++ char :: kept := by
  refine ⟨(rest.reverse.dropWhile (· = '/')).reverse, ?_⟩
  have stops : decide (char = '/') = false := decide_eq_false other
  simp only [withoutLastSlashes, String.toList_ofList, whole, List.reverse_append,
    List.reverse_cons, List.append_assoc, List.singleton_append]
  rw [Url.dropWhile_append_stop (· = '/') stops]
  simp

end Registry

namespace Stage

/-- The kind of a document, as its address names it. -/
def collection : Stage → String
  | config _ => "blobs"
  | _ => "manifests"

/-- What a document is called in its repository. -/
def reference (image : Image.Reference) : Stage → String
  | tag => image.tag
  | platform digest => digest
  | config digest => digest

/-- What is written below the origin of a registry to ask for a document. -/
def below (image : Image.Reference) (stage : Stage) : String :=
  "v2/" ++ image.repository.space ++ "/" ++ image.repository.name ++ "/" ++ stage.collection ++ "/" ++
    stage.reference image

theorem url_eq (registry : Registry) (image : Image.Reference) (stage : Stage) :
    stage.url registry image = registry.origin ++ "/" ++ stage.below image := by
  apply String.toList_inj.mp
  cases stage <;>
    simp [url, below, collection, reference, Registry.manifestUrl, Registry.configUrl,
      Registry.repositoryUrl, Image.Repository.path]

theorem head?_below (image : Image.Reference) (stage : Stage) :
    (stage.below image).toList.head? ≠ some '/' := by
  simp [below]

end Stage

/-! ### The public table -/

namespace Provider

theorem Table.mem_of_lookup {table : Table} {url origin : String}
    (found : table.origins.lookup url = some origin) : (url, origin) ∈ table.origins := by
  obtain ⟨before, after, origins, _⟩ := List.lookup_eq_some_iff.mp found
  simp [origins]

/-- The host in an origin of the secure scheme. -/
def hostOf (origin : String) : String :=
  String.ofList (origin.toList.drop "https://".length)

/-- The address of a host in the secure scheme. -/
def secure (host : String) : Url where
  scheme := "https"
  userinfo := ""
  host := host
  port := none
  path := ""
  query := none
  fragment := none

/-- An origin that is a secure scheme and a host, and nothing else. -/
structure IsBare (origin : String) : Prop where
  unslashed : Registry.withoutLastSlashes origin = origin
  whole : Url.afterAuthority origin.toList = []
  read : ∀ names, Url.parse names origin = .ok (secure (hostOf origin))
  hosted : hostOf origin ≠ ""
  written : "https://" ++ hostOf origin = origin

theorem publicTable_bare : ∀ entry ∈ publicTable.origins, IsBare entry.2 := by
  have checked : ∀ entry ∈ publicTable.origins,
      Registry.withoutLastSlashes entry.2 = entry.2 ∧ Url.afterAuthority entry.2.toList = [] ∧
        Url.isAscii (Url.split entry.2.toList).host = true ∧
        (Url.parse .verbatim entry.2).toOption = some (secure (hostOf entry.2)) ∧
        hostOf entry.2 ≠ "" ∧ "https://" ++ hostOf entry.2 = entry.2 := by
    decide +kernel
  intro entry member
  obtain ⟨unslashed, whole, plain, read, hosted, written⟩ := checked entry member
  refine ⟨unslashed, whole, fun names => ?_, hosted, written⟩
  rw [Url.parse_ascii plain names .verbatim]
  exact Result.toOption_eq_some_iff.mp read

theorem IsBare.unended {origin : String} (bare : IsBare origin) :
    origin.toList.getLast? ≠ some '/' := by
  have last := Registry.getLast?_withoutLastSlashes origin
  rw [bare.unslashed] at last
  exact last

end Provider

namespace Claim

variable {claim : Claim} {environment : Settings.Environment} {target : Target}

/-- The address of the registry as it is meant. -/
def registryUrl (claim : Claim) : String :=
  claim.providers.effectiveUrl claim.descriptor.registryBaseUrl

theorem origin_cases (settled : claim.target environment = .ok target) :
    (claim.registryUrl, target.origin) ∈ claim.providers.origins ∨
      claim.registryUrl = target.origin := by
  obtain ⟨_, resolved, _, _⟩ := target_eq_ok_iff.mp settled
  obtain entry | ⟨_, _, same⟩ := Provider.Table.resolve_eq_ok_iff.mp resolved
  · exact .inl (Provider.Table.mem_of_lookup entry)
  · exact .inr same

end Claim

/-! ### Requests -/

section Requests

variable {registry : Registry} {image : Image.Reference} {stage : Stage}
  {bearer : Option (List CodePoint)} {client : Client} {request : Request} {names : Url.HostNames}
  {cookies : Cookies}

theorem Stage.address_of_request
    (written : ((Purpose.document stage bearer).call registry image).request names cookies client =
      .ok request) :
    ∃ read, Url.parse names (registry.origin ++ "/" ++ stage.below image) = .ok read ∧
      (read.isAbsolute = true ∧ request.url = read ∨
        read.isAbsolute = false ∧ request.url.scheme = "" ∧ request.url.host = "") := by
  rw [← Stage.url_eq]
  exact Call.address_of_request rfl written

/-- A request for a document goes where the origin leads by itself, or nowhere at all. -/
theorem Stage.authority_of_request (last : registry.origin.toList.getLast? ≠ some '/')
    (written : ((Purpose.document stage bearer).call registry image).request names cookies client =
      .ok request) :
    request.url.scheme = "" ∧ request.url.host = "" ∨
      ∃ address, Url.parse names registry.origin = .ok address ∧ request.url.SameAuthority address := by
  obtain ⟨read, parsed, ⟨absolute, same⟩ | ⟨_, nowhere⟩⟩ := Stage.address_of_request written
  · have first := stage.head?_below image
    have hosted : read.host ≠ "" := by
      intro empty
      simp [Url.isAbsolute, empty] at absolute
    obtain ⟨address, whole⟩ := Url.parse_origin last first parsed hosted
    rw [same]
    exact .inr ⟨address, whole, Url.sameAuthority_below last first whole parsed⟩
  · exact .inl nowhere

theorem Provider.IsBare.address_of_request (bare : IsBare registry.origin)
    (written : ((Purpose.document stage bearer).call registry image).request names cookies client =
      .ok request) :
    Url.parse names (registry.origin ++ "/" ++ stage.below image) = .ok request.url ∧
      request.url.SameAuthority (secure (hostOf registry.origin)) := by
  obtain ⟨read, parsed, placed⟩ := Stage.address_of_request written
  have same := Url.sameAuthority_below bare.unended (stage.head?_below image) (bare.read names) parsed
  obtain ⟨_, rfl⟩ | ⟨relative, _⟩ := placed
  · exact ⟨parsed, same⟩
  · have absolute : read.isAbsolute = true := by
      simp [Url.isAbsolute, same.scheme, same.host, secure, bare.hosted]
    rw [absolute] at relative
    cases relative

variable {World : Type} {claim : Claim} {transport : Transport World}
  {environment : Settings.Environment} {run : Run World Log.Entry} {target : Claim.Target}
  {exchanges : List Exchange} {exchange : Exchange}

/-- An attempt begins with the request that the call of its exchange means. -/
theorem Claim.Exchanged.issued
    (exchanged : claim.Exchanged transport environment run target registry exchanges)
    (member : exchange ∈ exchanges) (sent : request ∈ Http.issued exchange.events) :
    ∃ world first,
      transport.request world (exchange.purpose.call registry target.image) registry.client =
        .ok first ∧
      request = first.withCredentials := by
  obtain ⟨_, _, course⟩ := exchanged.coursed member
  exact course.issued sent

end Requests

end ImageOwnership
