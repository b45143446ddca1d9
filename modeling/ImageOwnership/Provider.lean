/-!
Registry providers: from the public address of a registry to the origin of its interface. Known
addresses stand in a table; the open families of addresses are told by rules, asked in order, and an
address that a rule accepts is its own origin.
-/

namespace ImageOwnership.Provider

/-- A family of addresses that are accepted without an entry in the table. -/
structure Rule where
  name : String
  accepts : String → Bool

namespace Rule

/-- Whether a text occurs somewhere in another one. -/
def occurs (part : List Char) : List Char → Bool
  | [] => part.isEmpty
  | first :: rest => decide (part <+: first :: rest) || occurs part rest

theorem occurs_iff {part text : List Char} : occurs part text = true ↔ part <:+: text := by
  induction text with
  | nil => simp [occurs]
  | cons first rest induction => simp [occurs, List.infix_cons_iff, induction]

/-- The addresses that hold a text. -/
def holding (name text : String) : Rule :=
  ⟨name, fun url => occurs text.toList url.toList⟩

/-- The addresses that begin with one of some texts. -/
def beginning (name : String) (texts : List String) : Rule :=
  ⟨name, fun url => texts.any fun text => decide (text.toList <+: url.toList)⟩

end Rule

/-- The families that are accepted unless a table says otherwise. -/
def commonRules : List Rule :=
  [.holding "artifact-registry-regional" "-docker.pkg.dev",
    .holding "gcr-regional" ".gcr.io",
    .holding "ecr-account" ".amazonaws.com",
    .holding "acr-instance" ".azurecr.io",
    .beginning "loopback" ["http://127.0.0.1:", "http://localhost:"]]

/-- The origin whose registry hands out tokens. -/
def dockerOrigin : String := "https://registry-1.docker.io"

structure Table where
  /-- The origins of known addresses. -/
  origins : List (String × String)
  rules : List Rule := commonRules
  /-- The address that an empty one stands for. -/
  defaultUrl : String := "https://docker.io"
  /-- The registries named to a user whose own is not supported. -/
  examples : List String :=
    ["docker.io", "ghcr.io", "gcr.io", "quay.io", "artifactregistry.googleapis.com"]

/-- An address that no entry and no rule knows, with the examples to name. -/
structure Unsupported where
  url : String
  examples : List String
deriving DecidableEq, Repr

def Unsupported.message (unsupported : Unsupported) : String :=
  "unsupported OCI registry: '" ++ unsupported.url ++ "'. Supported registries: " ++
    ", ".intercalate unsupported.examples

/-- How an address was resolved: the address that was meant, how many of the rules were asked, and the
origin if there is one. -/
structure Resolution where
  url : String
  asked : Nat
  origin? : Option String
deriving DecidableEq, Repr

namespace Table

/-- The address that is meant. -/
def effectiveUrl (table : Table) (baseUrl : String) : String :=
  if baseUrl.isEmpty then table.defaultUrl else baseUrl

/-- How many rules are asked about an address, and whether the last of them accepts it. -/
def ask (url : String) : List Rule → Nat × Bool
  | [] => (0, false)
  | rule :: rest =>
      if rule.accepts url then (1, true) else ((ask url rest).1 + 1, (ask url rest).2)

def resolution (table : Table) (baseUrl : String) : Resolution :=
  let url := table.effectiveUrl baseUrl
  match table.origins.lookup url with
  | some origin => ⟨url, 0, some origin⟩
  | none => ⟨url, (ask url table.rules).1, if (ask url table.rules).2 then some url else none⟩

def resolve (table : Table) (baseUrl : String) : Except Unsupported String :=
  match (table.resolution baseUrl).origin? with
  | some origin => .ok origin
  | none => .error ⟨table.effectiveUrl baseUrl, table.examples⟩

/-- A call of a rule: which rule is asked, and about what. -/
abbrev RuleCall := Rule × String

/-- Asks one rule after the other until one accepts, and writes down each call. -/
def consult (url : String) : List Rule → StateM (List RuleCall) Bool
  | [] => return false
  | rule :: rest => do
      modify (· ++ [(rule, url)])
      if rule.accepts url then return true else consult url rest

/-- Resolves an address, and writes down each call of a rule. -/
def consultFor (table : Table) (baseUrl : String) :
    StateM (List RuleCall) (Except Unsupported String) := do
  let url := table.effectiveUrl baseUrl
  match table.origins.lookup url with
  | some origin => return .ok origin
  | none =>
      if ← consult url table.rules then return .ok url else return .error ⟨url, table.examples⟩

/-- The calls that are made to resolve an address, in order. -/
def calls (table : Table) (baseUrl : String) : List RuleCall :=
  ((table.consultFor baseUrl).run []).2

end Table

/-- An address that is its own origin. -/
private def itself (url : String) : String × String :=
  (url, url)

/-- The public registries. -/
def publicTable : Table where
  origins :=
    [("https://docker.io", dockerOrigin),
      ("https://hub.docker.com", dockerOrigin),
      itself "https://ghcr.io",
      itself "https://artifactregistry.googleapis.com",
      itself "https://gcr.io",
      itself "https://public.ecr.aws",
      itself "https://azurecr.io",
      itself "https://quay.io",
      itself "https://registry.gitlab.com",
      itself "https://jfrog.io",
      itself "https://goharbor.io",
      itself "https://cr.console.aliyun.com",
      itself "https://icr.io",
      itself "https://container-registry.oracle.com",
      itself "https://registry.digitalocean.com"]

end ImageOwnership.Provider
