import VllmSourceGateway.HtmlText

set_option autoImplicit false

/-! The fixed parts of the model catalog's page, as they stand in its template. -/
namespace VllmSourceGateway.CatalogTemplate
open HtmlText

def lines (ls : List String) : String := "\n".intercalate ls

theorem markup_lines (ls : List String) : markup (lines ls) = (ls.map markup).flatten := by
  have hnewline : markup "\n" = [] := by simp [markup, isMarkup]
  rw [lines, markup_intercalate, hnewline]
  induction ls with
  | nil => rfl
  | cons line ls ih =>
    cases ls with
    | nil => rw [List.map_singleton, List.intercalate_singleton, List.flatten_singleton]
    | cons next ls =>
      rw [List.map_cons, List.map_cons, List.intercalate_cons_cons, ← List.map_cons, ih,
        List.append_nil, List.flatten_cons]

def pageHead : String :=
  lines [
    "<!doctype html>",
    "<html lang=\"en\">",
    "  <head>",
    "    <meta charset=\"utf-8\">",
    "    <meta name=\"viewport\" content=\"width=device-width, initial-scale=1\">",
    "    <title>vLLM Model Catalog</title>",
    "    <style>",
    "      :root \x7b",
    "        color-scheme: light;",
    "        --bg: #f6f4ee;",
    "        --panel: #fffaf1;",
    "        --panel-strong: #ffffff;",
    "        --ink: #18211f;",
    "        --muted: #65716d;",
    "        --line: #ded7c9;",
    "        --accent: #245c4f;",
    "        --chip: #e7efe9;",
    "        --online: #177245;",
    "        --degraded: #b36b00;",
    "        --offline: #a33a2b;",
    "        --shadow: 0 18px 45px rgba(44, 35, 20, 0.09);",
    "      \x7d",
    "",
    "      * \x7b box-sizing: border-box; \x7d",
    "",
    "      body \x7b",
    "        margin: 0;",
    "        background:",
    "          radial-gradient(circle at top left, rgba(36, 92, 79, 0.14), transparent 32rem),",
    "          linear-gradient(135deg, #f8f5ef 0%, #efe8da 100%);",
    "        color: var(--ink);",
    "        font-family:",
    "          ui-sans-serif,",
    "          system-ui,",
    "          -apple-system,",
    "          BlinkMacSystemFont,",
    "          \"Segoe UI\",",
    "          sans-serif;",
    "      \x7d",
    "",
    "      main \x7b max-width: 1180px; margin: 0 auto; padding: 3rem 1.25rem; \x7d",
    "",
    "      .hero \x7b",
    "        display: grid;",
    "        gap: 0.75rem;",
    "        margin-bottom: 1.5rem;",
    "      \x7d",
    "",
    "      .eyebrow \x7b",
    "        color: var(--accent);",
    "        font-size: 0.78rem;",
    "        font-weight: 800;",
    "        letter-spacing: 0.12em;",
    "        text-transform: uppercase;",
    "      \x7d",
    "",
    "      h1 \x7b font-size: clamp(2.1rem, 4vw, 4rem); letter-spacing: -0.05em; margin: 0; \x7d",
    "      h2 \x7b font-size: 1.25rem; letter-spacing: -0.03em; margin: 0; \x7d",
    "      h3 \x7b",
    "        color: var(--ink);",
    "        font-size: 0.78rem;",
    "        font-weight: 900;",
    "        letter-spacing: 0.08em;",
    "        margin: 0 0 0.45rem;",
    "        text-transform: uppercase;",
    "      \x7d",
    "      p \x7b color: var(--muted); line-height: 1.6; margin: 0; \x7d",
    "",
    "      .summary-grid \x7b",
    "        display: grid;",
    "        gap: 0.85rem;",
    "        grid-template-columns: repeat(4, minmax(0, 1fr));",
    "        margin: 2rem 0;",
    "      \x7d",
    "",
    "      .summary-card \x7b",
    "        background: rgba(255, 250, 241, 0.82);",
    "        border: 1px solid var(--line);",
    "        border-radius: 1.1rem;",
    "        padding: 1rem;",
    "        box-shadow: var(--shadow);",
    "      \x7d",
    "",
    "      .summary-label \x7b color: var(--muted); display: block; font-size: 0.82rem; \x7d",
    "      .summary-card strong \x7b display: block; font-size: 2rem; margin-top: 0.25rem; \x7d",
    "",
    "      .model-grid \x7b",
    "        display: grid;",
    "        gap: 1rem;",
    "        grid-template-columns: repeat(auto-fit, minmax(320px, 1fr));",
    "      \x7d",
    "",
    "      .model-card \x7b",
    "        background: var(--panel);",
    "        border: 1px solid var(--line);",
    "        border-radius: 1.35rem;",
    "        box-shadow: var(--shadow);",
    "        display: grid;",
    "        gap: 1rem;",
    "        padding: 1.15rem;",
    "      \x7d",
    "",
    "      .model-card-header \x7b",
    "        align-items: flex-start;",
    "        display: flex;",
    "        gap: 1rem;",
    "        justify-content: space-between;",
    "      \x7d",
    "",
    "      .status-wrap \x7b display: grid; gap: 0.35rem; justify-items: end; " ++
      "white-space: nowrap; \x7d",
    "      .status \x7b",
    "        border-radius: 999px;",
    "        color: white;",
    "        font-size: 0.78rem;",
    "        font-weight: 800;",
    "        padding: 0.25rem 0.65rem;",
    "      \x7d",
    "      .status-online \x7b background: var(--online); \x7d",
    "      .status-degraded \x7b background: var(--degraded); \x7d",
    "      .status-offline \x7b background: var(--offline); \x7d",
    "      .upstream-count, .muted \x7b color: var(--muted); font-size: 0.85rem; \x7d",
    "",
    "      .model-details \x7b",
    "        display: grid;",
    "        gap: 0.75rem;",
    "        grid-template-columns: repeat(2, minmax(0, 1fr));",
    "        margin: 0;",
    "      \x7d",
    "",
    "      .model-details div \x7b",
    "        background: var(--panel-strong);",
    "        border: 1px solid var(--line);",
    "        border-radius: 0.9rem;",
    "        padding: 0.8rem;",
    "      \x7d",
    "      dt \x7b color: var(--muted); font-size: 0.78rem; font-weight: 700; " ++
      "text-transform: uppercase; \x7d",
    "      dd \x7b margin: 0.2rem 0 0; \x7d",
    "",
    "      .chip-row \x7b display: flex; flex-wrap: wrap; gap: 0.45rem; \x7d",
    "      .chip \x7b",
    "        background: var(--chip);",
    "        border: 1px solid #ccdcd1;",
    "        border-radius: 999px;",
    "        color: var(--accent);",
    "        font-size: 0.82rem;",
    "        font-weight: 700;",
    "        padding: 0.25rem 0.6rem;",
    "      \x7d",
    "",
    "      .bullet-list \x7b",
    "        color: var(--muted);",
    "        line-height: 1.55;",
    "        margin: 0;",
    "        padding-left: 1.15rem;",
    "      \x7d",
    "",
    "      .bullet-list li + li \x7b margin-top: 0.25rem; \x7d",
    "",
    "      pre \x7b",
    "        background: #17211f;",
    "        border-radius: 0.95rem;",
    "        color: #eef7ef;",
    "        margin: 0;",
    "        overflow-x: auto;",
    "        padding: 0.85rem;",
    "      \x7d",
    "",
    "      code \x7b font-size: 0.82rem; white-space: pre-wrap; word-break: break-word; \x7d",
    "",
    "      @media (max-width: 760px) \x7b",
    "        main \x7b padding: 2rem 1rem; \x7d",
    "        .summary-grid \x7b grid-template-columns: repeat(2, minmax(0, 1fr)); \x7d",
    "        .model-card-header \x7b display: grid; \x7d",
    "        .status-wrap \x7b justify-items: start; \x7d",
    "        .model-details \x7b grid-template-columns: 1fr; \x7d",
    "      \x7d",
    "    </style>",
    "  </head>",
    "  <body>",
    "    <main>",
    "      <section class=\"hero\">",
    "        <span class=\"eyebrow\">Internal service catalog</span>",
    "        <h1>vLLM Model Catalog</h1>",
    "        <p>",
    "          A read-only guide for choosing the right model and API path. Use",
    "          <code>/v1/models</code> for machine-readable model discovery.",
    "        </p>",
    "      </section>",
    "      "]

def pageMiddle : String :=
  lines [
    "",
    "      <section class=\"model-grid\" aria-label=\"models\">",
    "        "]

def pageEnd : String :=
  lines [
    "",
    "      </section>",
    "    </main>",
    "  </body>",
    "</html>",
    ""]

end VllmSourceGateway.CatalogTemplate
