import VllmSourceGateway.Availability
import VllmSourceGateway.CatalogConfig
import VllmSourceGateway.CatalogTemplate
import VllmSourceGateway.JsonText

set_option autoImplicit false

/-! The HTML page of the model catalog. -/
namespace VllmSourceGateway.CatalogPage
open PyText SourceResolution CatalogConfig CatalogTemplate HtmlText JsonText
open Availability hiding summaryCards

/-- `str | int | None` -/
inductive TextValue where
  | none
  | str (value : String)
  | int (value : ℤ)

def TextValue.ofOption : Option String → TextValue
  | Option.none => .none
  | some value => .str value

def withCommas : Text → Text
  | a :: b :: c :: d :: digits => a :: b :: c :: ',' :: withCommas (d :: digits)
  | digits => digits

def formatThousands (value : ℤ) : String :=
  let digits := (withCommas (Nat.toDigits 10 value.natAbs).reverse).reverse
  String.ofList (if value < 0 then '-' :: digits else digits)

def text : TextValue → String
  | .none => "Not documented"
  | .int value => escape (formatThousands value)
  | .str value =>
    if stripString value = "" then "Not documented" else escape (stripString value)

def bulletList (values : List String) : String :=
  if values = [] then "<span class=\"muted\">Not documented</span>"
  else
    let items := String.join (values.map fun value => "<li>" ++ escape value ++ "</li>")
    "<ul class=\"bullet-list\">" ++ items ++ "</ul>"

def chips (values : List String) : String :=
  if values = [] then "<span class=\"muted\">Not documented</span>"
  else String.join (values.map fun value => "<span class=\"chip\">" ++ escape value ++ "</span>")

/-- Neither absent nor empty: what Python takes for true. -/
def documented : Option String → Bool
  | none => false
  | some value => value ≠ ""

def displayName (value : Option String) : String :=
  if documented value then "<p>" ++ escape (value.getD "") ++ "</p>" else ""

def statusText : CatalogStatus → String
  | .online => "online"
  | .degraded => "degraded"
  | .offline => "offline"

def summaryCards (models : List ModelAvailability) : String :=
  let (total, counts) := Availability.summaryCards models
  lines [
    "",
    "      <section class=\"summary-grid\" aria-label=\"model availability summary\">",
    "        <article class=\"summary-card\">",
    "          <span class=\"summary-label\">Total models</span>",
    "          <strong>" ++ toString total ++ "</strong>",
    "        </article>",
    "        <article class=\"summary-card\">",
    "          <span class=\"summary-label\">Online</span>",
    "          <strong>" ++ toString counts.online ++ "</strong>",
    "        </article>",
    "        <article class=\"summary-card\">",
    "          <span class=\"summary-label\">Degraded</span>",
    "          <strong>" ++ toString counts.degraded ++ "</strong>",
    "        </article>",
    "        <article class=\"summary-card\">",
    "          <span class=\"summary-label\">Offline</span>",
    "          <strong>" ++ toString counts.offline ++ "</strong>",
    "        </article>",
    "      </section>",
    "    "]

def fieldOf (field : ModelCatalogEntry → Option String) (catalogEntry : Option ModelCatalogEntry) :
    Option String := catalogEntry.bind field

def listOf (field : ModelCatalogEntry → List String) (catalogEntry : Option ModelCatalogEntry) :
    List String := (catalogEntry.map field).getD []

def examplePrompt (catalogEntry : Option ModelCatalogEntry) : String :=
  let prompt := fieldOf ModelCatalogEntry.examplePrompt catalogEntry
  if documented prompt then prompt.getD "" else "Say hello."

def selectedPath (catalogEntry : Option ModelCatalogEntry) : String :=
  (listOf ModelCatalogEntry.apiPaths catalogEntry).head?.getD "chat"

def userMessage (prompt : String) : Document :=
  .arr [.obj [("role", .str "user"), ("content", .str prompt)]]

def exampleBody (path modelName prompt : String) : Document :=
  if path = "responses" then .obj [("model", .str modelName), ("input", .str prompt)]
  else if path = "messages" then
    .obj [("model", .str modelName), ("max_tokens", .int 64), ("messages", userMessage prompt)]
  else .obj [("model", .str modelName), ("messages", userMessage prompt)]

def exampleOptions (path : String) : String :=
  if path = "responses" then
    "curl -sS -H 'content-type: application/json' -H 'x-api-key: $\x7bAPI_KEY\x7d' " ++
      "-X POST '$\x7bGATEWAY_URL\x7d/v1/responses' "
  else if path = "messages" then
    "curl -sS -H 'content-type: application/json' -H 'x-api-key: $\x7bAPI_KEY\x7d' " ++
      "-H 'anthropic-version: 2023-06-01' " ++ "-X POST '$\x7bGATEWAY_URL\x7d/v1/messages' "
  else
    "curl -sS -H 'content-type: application/json' -H 'x-api-key: $\x7bAPI_KEY\x7d' " ++
      "-X POST '$\x7bGATEWAY_URL\x7d/v1/chat/completions' "

def exampleCommand (modelName : String) (catalogEntry : Option ModelCatalogEntry) : String :=
  let path := selectedPath catalogEntry
  let body := String.ofList (dumps (exampleBody path modelName (examplePrompt catalogEntry)))
  exampleOptions path ++ "--data '" ++ body ++ "'"

def exampleCurl (modelName : String) (catalogEntry : Option ModelCatalogEntry) : String :=
  escape (exampleCommand modelName catalogEntry)

def renderCard (model : ModelAvailability) (catalogEntry : Option ModelCatalogEntry) : String :=
  let status := statusText (catalogStatus model)
  lines [
    "",
    "      <article class=\"model-card\">",
    "        <header class=\"model-card-header\">",
    "          <div>",
    "            <h2>" ++ escape model.modelName ++ "</h2>",
    "            " ++ displayName (fieldOf ModelCatalogEntry.displayName catalogEntry),
    "          </div>",
    "          <div class=\"status-wrap\">",
    "            <span class=\"status status-" ++ escape status ++ "\">" ++ escape status ++
      "</span>",
    "            <span class=\"upstream-count\">",
    "              " ++ toString model.healthyUpstreamCount ++ "/" ++
      toString model.totalUpstreamCount ++ " upstreams",
    "            </span>",
    "          </div>",
    "        </header>",
    "",
    "        <dl class=\"model-details\">",
    "          <div>",
    "            <dt>Hosted on</dt>",
    "            <dd>" ++ text (.ofOption (fieldOf ModelCatalogEntry.hostedOn catalogEntry)) ++
      "</dd>",
    "          </div>",
    "          <div>",
    "            <dt>Context window</dt>",
    "            <dd>" ++ text (.ofOption (fieldOf ModelCatalogEntry.contextWindow catalogEntry)) ++
      "</dd>",
    "          </div>",
    "        </dl>",
    "",
    "        <section>",
    "          <h3>API paths</h3>",
    "          <div class=\"chip-row\">" ++
      chips (listOf ModelCatalogEntry.apiPaths catalogEntry) ++ "</div>",
    "        </section>",
    "        <section>",
    "          <h3>Use cases</h3>",
    "          <div class=\"chip-row\">" ++
      chips (listOf ModelCatalogEntry.useCases catalogEntry) ++ "</div>",
    "        </section>",
    "        <section>",
    "          <h3>Recommended for</h3>",
    "          " ++ bulletList (listOf ModelCatalogEntry.recommendedFor catalogEntry),
    "        </section>",
    "        <section>",
    "          <h3>Known limits</h3>",
    "          " ++ bulletList (listOf ModelCatalogEntry.knownLimits catalogEntry),
    "        </section>",
    "        <section>",
    "          <h3>Example curl</h3>",
    "          <pre><code>" ++ exampleCurl model.modelName catalogEntry ++ "</code></pre>",
    "        </section>",
    "      </article>",
    "    "]

def renderCatalogPage (models : List ModelAvailability)
    (modelCatalog : List (String × ModelCatalogEntry)) : String :=
  let cards := lines (models.map fun model =>
    renderCard model (PyDict.get? modelCatalog model.modelName))
  pageHead ++ summaryCards models ++ pageMiddle ++ cards ++ pageEnd

end VllmSourceGateway.CatalogPage
