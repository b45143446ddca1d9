import ImageOwnership.Proofs.Http.Alike
import ImageOwnership.Proofs.Http.Headers
import ImageOwnership.Proofs.Image.Documents
import ImageOwnership.Registry

/-!
Documents that may stand for each other. Where the answers of two transports are as good as each other,
the steps that read a manifest or an image config are the same steps.
-/

namespace ImageOwnership

open Http

variable {World : Type}

/-- Bodies that hold values as good as each other are read as these are. -/
theorem Document.read_alike {α β : Type} (decode : Json String → Decoded α) (see : Decoded α → β)
    {Alike : Json String → Json String → Prop}
    (same : ∀ first second, Alike first second → see (decode first) = see (decode second))
    {body other : List UInt8} (alike : Option.Rel Alike (Json.decode? body) (Json.decode? other)) :
    see (read decode body) = see (read decode other) := by
  unfold read
  generalize Json.decode? body = first at alike ⊢
  generalize Json.decode? other = second at alike ⊢
  cases alike with
  | none => rfl
  | some stand => exact same _ _ stand

namespace Registry

variable (registry : Registry)

/-- A body that may stand for another one: both are JSON values that are alike, or neither is one. Where a
request cannot be told from one for a token, both have to give the same token. -/
structure Swaps (Alike : Json String → Json String → Prop) (request : Request)
    (body other : List UInt8) : Prop where
  alike : Option.Rel Alike (Json.decode? body) (Json.decode? other)
  token : registry.authorization ≠ .anonymous →
    request.headers.get? "accept" = registry.client.headers.get? "accept" →
    Token.read body = Token.read other

variable {registry} {first second : Transport World} {swaps : Request → List UInt8 → List UInt8 → Prop}

/-- Where transports are alike, a call may go through either, if no swapped body makes a difference to
what comes after it. -/
theorem call_bind_alike {α : Type} (alike : first.Alike swaps second) {url : String}
    {parameters : Option (List (String × String))} {headers : List (String × List CodePoint)}
    {next : Except Stop Reply → Action World α}
    (same : ∀ request body other world written, swaps request body other →
      first.request world ⟨url, parameters, headers, registry.settings.timeout⟩ registry.client =
        .ok written →
      request.Akin written → ∀ address status location,
        next (.ok ⟨address, ⟨status, location, body⟩⟩) = next (.ok ⟨address, ⟨status, location, other⟩⟩)) :
    registry.call first url parameters headers >>= next =
      registry.call second url parameters headers >>= next := by
  apply Action.ext
  intro run
  obtain ⟨events, ending, after, course⟩ := Course.exists first registry.client run.isOpen
    ⟨url, parameters, headers, registry.settings.timeout⟩ registry.settings.retries 0 run.world
  obtain ⟨other, again, ends⟩ := course.alike alike
  have swapped : next ending = next other := by
    cases ends with
    | same => rfl
    | swapped sent swap =>
        obtain ⟨world, written, wrote, akin⟩ := course.akin sent
        exact same _ _ _ world written swap wrote akin _ _ _
  have performed : Action.perform (registry.call first url parameters headers) run =
      (.ok ending, run.advance events after) := by
    rw [Registry.call, Action.perform_outcome, Retry.get, course.performed rfl rfl]
  have repeated : Action.perform (registry.call second url parameters headers) run =
      (.ok other, run.advance events after) := by
    rw [Registry.call, Action.perform_outcome, Retry.get, again.performed rfl rfl]
  rw [Action.perform_bind, Action.perform_bind, performed, repeated]
  simp only [swapped]

section Fetch

variable (alike : first.Alike swaps second)
  (tokens : ∀ request body other, swaps request body other → registry.authorization ≠ .anonymous →
    request.headers.get? "accept" = registry.client.headers.get? "accept" →
    Token.read body = Token.read other)

include alike tokens

theorem authorize_alike (repository : Image.Repository) :
    registry.authorize first repository = registry.authorize second repository := by
  unfold authorize
  cases guarded : registry.authorization with
  | anonymous => rfl
  | token url =>
      have granted : registry.requestToken first url repository =
          registry.requestToken second url repository := by
        unfold requestToken
        refine congrArg _ (funext fun _ => call_bind_alike alike ?_)
        intro request body other world written swap wrote akin address status location
        have accepted : request.headers.get? "accept" = registry.client.headers.get? "accept" := by
          rw [akin.headers _ (by decide)]
          exact Call.accept_of_bare rfl wrote
        have same := tokens request body other swap (by simp [guarded]) accepted
        simp only [Reply.status, Reply.body]
        by_cases success : status = 200
        · simp only [success, if_true, same]
        · simp only [success, if_false]
      simp only [granted]

/-- A document is fetched through either, as far as it is seen. -/
theorem fetch_alike {α β : Type} {decode : List UInt8 → Document.Decoded α} (view : α → β)
    (documents : ∀ request body other, swaps request body other →
      (decode body).map view = (decode other).map view)
    (failure : FetchFault → Failure) (accept : String) (repository : Image.Repository) (url : String) :
    view <$> registry.fetch first decode failure accept repository url =
      view <$> registry.fetch second decode failure accept repository url := by
  unfold fetch
  rw [authorize_alike alike tokens]
  simp only [map_bind]
  refine congrArg _ (funext fun token => call_bind_alike alike ?_)
  intro request body other _ _ swap _ _ address status location
  simp only [Reply.status, Reply.body]
  by_cases success : status = 200
  · simp only [success, if_true, Action.map_ofExcept, Result.map_mapError,
      documents request body other swap]
  · simp only [success, if_false]

theorem fetch_same {α : Type} {decode : List UInt8 → Document.Decoded α}
    (documents : ∀ request body other, swaps request body other → decode body = decode other)
    (failure : FetchFault → Failure) (accept : String) (repository : Image.Repository) (url : String) :
    registry.fetch first decode failure accept repository url =
      registry.fetch second decode failure accept repository url := by
  have viewed (request : Request) (body other : List UInt8) (swap : swaps request body other) :
      (decode body).map id = (decode other).map id := by
    rw [documents request body other swap]
  have seen := fetch_alike alike tokens id viewed failure accept repository url
  simpa only [id_map] using seen

end Fetch

/-! ### Documents that stand for each other -/

section Documents

theorem manifest_alike (alike : first.Alike (registry.Swaps Image.Manifest.Alike) second)
    (image : Image.Reference) : registry.manifest first image = registry.manifest second image := by
  have documents (request : Request) (body other : List UInt8)
      (swap : registry.Swaps Image.Manifest.Alike request body other) :
      Image.Manifest.read body = Image.Manifest.read other :=
    Document.read_alike Image.Manifest.ofJson id (fun _ _ => Image.Manifest.ofJson_alike) swap.alike
  have fetched (failure : FetchFault → Failure) (accept url : String) :
      registry.fetch first Image.Manifest.read failure accept image.repository url =
        registry.fetch second Image.Manifest.read failure accept image.repository url :=
    fetch_same alike (fun _ _ _ swap => swap.token) documents failure accept image.repository url
  simp only [manifest, fetched]

theorem configDigest_alike (alike : first.Alike (registry.Swaps Image.Manifest.Alike) second)
    (image : Image.Reference) :
    registry.configDigest first image = registry.configDigest second image := by
  simp only [configDigest, manifest_alike alike]

theorem labels_alike (alike : first.Alike (registry.Swaps Image.Config.Alike) second)
    (image : Image.Reference) (digest : String) :
    registry.labels first image digest = registry.labels second image digest := by
  have documents (request : Request) (body other : List UInt8)
      (swap : registry.Swaps Image.Config.Alike request body other) :
      (Image.Config.read body).map Image.Config.labels =
        (Image.Config.read other).map Image.Config.labels :=
    Document.read_alike Image.Config.ofJson (·.map Image.Config.labels)
      (fun _ _ => Image.Config.ofJson_alike) swap.alike
  have fetched := fetch_alike alike (fun _ _ _ swap => swap.token) Image.Config.labels documents
    .config configAccept image.repository (registry.configUrl image.repository digest)
  simp only [labels, bind_pure_comp, fetched]

end Documents

variable (registry)

/-- How the documents of a registry are read. -/
structure ReadsDocuments (image : Image.Reference) : Prop where
  /-- Manifests are the objects that the rules describe, and hold what these say. -/
  manifest : ∀ value manifest,
    Image.Manifest.ofJson value = .ok manifest ↔ Image.Manifest.Describes value manifest
  config : ∀ value config,
    Image.Config.ofJson value = .ok config ↔ Image.Config.Describes value config
  /-- It makes no difference how a part is left out, or what is not read. -/
  manifestAlike : ∀ first second, Image.Manifest.Alike first second →
    Image.Manifest.ofJson first = Image.Manifest.ofJson second
  configAlike : ∀ first second, Image.Config.Alike first second →
    (Image.Config.ofJson first).map Image.Config.labels =
      (Image.Config.ofJson second).map Image.Config.labels
  /-- At each level only the known members are read. -/
  overlooked : Document.Overlooks ["manifests", "config"] Image.Manifest.Alike ∧
    Document.Overlooks ["digest"] Image.Manifest.DescriptorAlike ∧
    Document.Overlooks ["config"] Image.Config.Alike ∧
    Document.Overlooks ["Labels"] Image.Config.ContainerAlike
  /-- The config digest of an image is found in the same way in manifests as good as each other. -/
  configDigest : ∀ (World : Type) (first second : Transport World),
    first.Alike (registry.Swaps Image.Manifest.Alike) second →
      registry.configDigest first image = registry.configDigest second image
  /-- And so are its labels in image configs as good as each other. -/
  labels : ∀ (World : Type) (first second : Transport World) (digest : String),
    first.Alike (registry.Swaps Image.Config.Alike) second →
      registry.labels first image digest = registry.labels second image digest

/-- The documents of every registry are read as the rules describe them. -/
theorem reads_documents (image : Image.Reference) : registry.ReadsDocuments image where
  manifest := fun _ _ => Image.Manifest.ofJson_eq_ok
  config := fun _ _ => Image.Config.ofJson_eq_ok
  manifestAlike := fun _ _ => Image.Manifest.ofJson_alike
  configAlike := fun _ _ => Image.Config.ofJson_alike
  overlooked := ⟨Image.Manifest.alike_overlooks, Image.Manifest.descriptorAlike_overlooks,
    Image.Config.alike_overlooks, Image.Config.containerAlike_overlooks⟩
  configDigest := fun _ _ _ alike => configDigest_alike alike image
  labels := fun _ _ _ digest alike => labels_alike alike image digest

end Registry

end ImageOwnership
