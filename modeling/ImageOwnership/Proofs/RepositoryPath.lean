import ImageOwnership.Proofs.Destination
import ImageOwnership.Proofs.Url.Segments

/-!
What is asked for at the registries of the public table. The address of a document names the namespace,
the repository and the reference that it is written from exactly when none of them has a mark of a query
or a fragment or a segment of dots. Identifiers, tags and digests are not looked at for that, so that
one of them can lead to another repository.
-/

namespace ImageOwnership

open Http Url

/-- A text as it stands in a path. -/
def Url.written (text : String) : String :=
  String.ofList (Percent.encode pathKeeps text.toList)

theorem Url.toList_written (text : String) :
    (Url.written text).toList = Percent.encode pathKeeps text.toList :=
  String.toList_ofList

theorem Url.encode_append (first second : List Char) :
    Percent.encode pathKeeps (first ++ second) =
      Percent.encode pathKeeps first ++ Percent.encode pathKeeps second :=
  List.flatMap_append

theorem Url.encode_cons_slash (text : List Char) :
    Percent.encode pathKeeps ('/' :: text) = '/' :: Percent.encode pathKeeps text := rfl

/-- The address of exactly the document of a stage in the repository of an image. -/
structure Url.Names (url : Url) (image : Image.Reference) (stage : Stage) : Prop where
  path : url.path =
    "/v2/" ++ Url.written image.repository.space ++ "/" ++ Url.written image.repository.name ++ "/" ++
      stage.collection ++ "/" ++ Url.written (stage.reference image)
  query : url.query = none
  fragment : url.fragment = none

/-- Names that stay what they are in a path. -/
structure Stage.IsPlain (image : Image.Reference) (stage : Stage) : Prop where
  space : Url.IsPlain image.repository.space.toList
  name : Url.IsPlain image.repository.name.toList
  reference : Url.IsPlain (stage.reference image).toList

namespace Stage

variable {registry : Registry} {image : Image.Reference} {stage : Stage}
  {bearer : Option (List CodePoint)} {client : Client} {request : Request} {names : HostNames}
  {cookies : Cookies}

theorem collection_cases (stage : Stage) :
    stage.collection = "manifests" ∨ stage.collection = "blobs" := by
  cases stage with
  | config digest => exact .inr rfl
  | _ => exact .inl rfl

theorem toList_below (image : Image.Reference) (stage : Stage) :
    '/' :: (stage.below image).toList =
      [] ++ '/' :: ("v2".toList ++ '/' :: (image.repository.space.toList ++
        '/' :: (image.repository.name.toList ++ '/' :: (stage.collection.toList ++
          '/' :: (stage.reference image).toList)))) := by
  simp [below]

theorem isPlain_below : Url.IsPlain ('/' :: (stage.below image).toList) ↔ stage.IsPlain image := by
  have version : Url.IsPlain "v2".toList := by decide
  have collection : Url.IsPlain stage.collection.toList := by
    obtain same | same := stage.collection_cases
    · rw [same]
      decide
    · rw [same]
      decide
  have nothing : Url.IsPlain [] := by decide
  rw [toList_below]
  simp only [isPlain_append, version, collection, nothing, true_and]
  constructor
  · rintro ⟨space, name, reference⟩
    exact ⟨space, name, reference⟩
  · rintro ⟨space, name, reference⟩
    exact ⟨space, name, reference⟩

theorem written_below :
    String.ofList (Percent.encode pathKeeps ('/' :: (stage.below image).toList)) =
      "/v2/" ++ Url.written image.repository.space ++ "/" ++ Url.written image.repository.name ++
        "/" ++ stage.collection ++ "/" ++ Url.written (stage.reference image) := by
  have version : Percent.encode pathKeeps "v2".toList = "v2".toList := by decide
  have collection : Percent.encode pathKeeps stage.collection.toList = stage.collection.toList := by
    obtain same | same := stage.collection_cases
    · rw [same]
      decide
    · rw [same]
      decide
  apply String.toList_inj.mp
  rw [toList_below, String.toList_ofList]
  simp only [List.nil_append, encode_append, encode_cons_slash, version, collection,
    String.toList_append, toList_written, List.append_assoc]
  rfl

theorem names_iff_of_bare (bare : Provider.IsBare registry.origin)
    (written : ((Purpose.document stage bearer).call registry image).request names cookies client =
      .ok request) :
    request.url.Names image stage ↔ stage.IsPlain image := by
  obtain ⟨parsed, same⟩ := bare.address_of_request written
  obtain ⟨host, port, _, _, normal⟩ := parse_below bare.unended (stage.head?_below image) parsed
  rw [bare.whole, List.nil_append] at normal
  have hosted : host ≠ [] := by
    rintro rfl
    rw [normal] at same
    exact bare.hosted same.host.symm
  have plain := Parts.normal_plain_iff (split registry.origin.toList) port
    ('/' :: (stage.below image).toList) hosted rfl
  rw [← normal, Stage.written_below, Stage.isPlain_below] at plain
  rw [← plain]
  constructor
  · rintro ⟨path, query, fragment⟩
    exact ⟨path, query, fragment⟩
  · rintro ⟨path, query, fragment⟩
    exact ⟨path, query, fragment⟩

end Stage

namespace Claim

variable {World : Type} {claim : Claim} {environment : Settings.Environment} {target : Target}

theorem bare_of_known (published : claim.providers = Provider.publicTable)
    (known : claim.descriptor.registryBaseUrl = "" ∨
      claim.descriptor.registryBaseUrl ∈ Provider.publicTable.origins.map Prod.fst)
    (settled : claim.target environment = .ok target) : Provider.IsBare target.origin := by
  have key : claim.registryUrl ∈ Provider.publicTable.origins.map Prod.fst := by
    unfold registryUrl Provider.Table.effectiveUrl
    rw [published]
    obtain empty | listed := known
    · rw [empty]
      decide +kernel
    · split
      · decide +kernel
      · exact listed
  obtain ⟨_, resolved, _, _⟩ := target_eq_ok_iff.mp settled
  rw [published] at resolved
  obtain entry | ⟨missing, _, _⟩ := Provider.Table.resolve_eq_ok_iff.mp resolved
  · exact Provider.publicTable_bare _ (Provider.Table.mem_of_lookup entry)
  · obtain ⟨⟨_, origin⟩, member, rfl⟩ := List.mem_map.mp key
    have other := List.lookup_eq_none_iff.mp missing _ member
    simp [registryUrl, published] at other

/-- For a known address each document is asked for at the origin of its entry, in the secure scheme and
at no port of its own. Its address is the one of the repository and the reference, as they are written,
exactly when the namespace, the name and the reference are plain. -/
theorem validateImage_readsRepository (published : claim.providers = Provider.publicTable)
    (known : claim.descriptor.registryBaseUrl = "" ∨
      claim.descriptor.registryBaseUrl ∈ Provider.publicTable.origins.map Prod.fst)
    (transport : Transport World) (environment : Settings.Environment) (run : Run World Log.Entry) :
    (Action.perform (claim.validateImage transport environment) run).2.trace = run.trace ∨
      ∃ target registry exchanges,
        claim.Exchanged transport environment run target registry exchanges ∧
        ∀ exchange ∈ exchanges, ∀ stage bearer, exchange.purpose = .document stage bearer →
          ∀ request ∈ issued exchange.events,
            request.url.scheme = "https" ∧ request.url.userinfo = "" ∧ request.url.port = none ∧
              "https://" ++ request.url.host = target.origin ∧
              (request.url.Names target.image stage ↔ stage.IsPlain target.image) := by
  obtain silent | ⟨target, registry, exchanges, exchanged⟩ :=
    claim.silent_or_exchanged transport environment run
  · exact .inl silent
  · have bare := bare_of_known published known exchanged.settled
    refine .inr ⟨target, registry, exchanges, exchanged, ?_⟩
    intro exchange member stage bearer asked request sent
    obtain ⟨_, first, written, rfl⟩ := exchanged.issued member sent
    rw [asked] at written
    have origin : registry.origin = target.origin := by
      rw [made_origin exchanged.made, bare.unslashed]
    rw [← origin] at bare ⊢
    obtain ⟨_, same⟩ := bare.address_of_request written
    have named := Stage.names_iff_of_bare bare written
    rw [Request.url_withCredentials]
    refine ⟨same.scheme, same.userinfo, same.port, ?_, named⟩
    rw [same.host]
    exact bare.written

/-- The manifest of a plain tag is asked for by its name. -/
theorem plainTag_readsRepository :
    ∃ target registry exchanges,
      (ofTag "1.0").Exchanged Script.transport (fun _ => none) unansweredRun target registry exchanges ∧
      target.image = ⟨⟨"me", "server"⟩, "1.0"⟩ ∧
      ∀ exchange ∈ exchanges, ∀ bearer, exchange.purpose = .document .tag bearer →
        ∀ request ∈ issued exchange.events,
          "https://" ++ request.url.host = target.origin ∧ request.url.Names target.image .tag := by
  have known : (ofTag "1.0").descriptor.registryBaseUrl ∈
      Provider.publicTable.origins.map Prod.fst := by
    decide +kernel
  have seen : ¬ (Action.perform ((ofTag "1.0").validateImage Script.transport
      fun _ => none) unansweredRun).2.trace = unansweredRun.trace := by
    decide +kernel
  obtain ⟨target, registry, exchanges, exchanged, reads⟩ :=
    (validateImage_readsRepository rfl (.inr known) Script.transport (fun _ => none)
      unansweredRun).resolve_left seen
  have image : target.image = ⟨⟨"me", "server"⟩, "1.0"⟩ := by
    have parts : ((ofTag "1.0").target fun _ => none).toOption.map Target.image =
        some ⟨⟨"me", "server"⟩, "1.0"⟩ := by
      decide +kernel
    rw [exchanged.settled] at parts
    exact Option.some.inj parts
  refine ⟨target, registry, exchanges, exchanged, image, ?_⟩
  intro exchange member bearer asked request sent
  obtain ⟨_, _, _, host, named⟩ := reads exchange member .tag bearer asked request sent
  refine ⟨host, named.mpr ?_⟩
  rw [image]
  exact ⟨by decide, by decide, by decide⟩

/-- A tag with segments of dots makes the manifest of another repository count. -/
theorem dots_leadAway :
    (Action.perform ((ofTag "../../../victim/app/manifests/1").validateImage Script.transport
        fun _ => none) unansweredRun).2.trace =
      [.called "https://ghcr.io/v2/me/server/manifests/../../../victim/app/manifests/1",
        .sent ⟨⟨"https", "", "ghcr.io", none, "/v2/victim/app/manifests/1", none, none⟩,
          [("accept", Registry.tagAccept), ("user-agent", Settings.defaultUserAgent),
            ("host", "ghcr.io")], .whole 10⟩] := by
  decide +kernel

end Claim

end ImageOwnership
