import VllmSourceGateway.CatalogPage
import VllmSourceGateway.LoadConfig
import VllmSourceGateway.ShellWords

set_option autoImplicit false

/-! The example request of a card, as a reader of the page pastes it into a shell.
The document in it is put in single quotes, in which a shell knows no escapes. -/
namespace VllmSourceGateway.CurlExample
open PyText SourceResolution ConfigValidation CatalogConfig LoadConfig JsonText ShellWords
open CatalogPage Validation
open HtmlText hiding escapeChar

/-- The words before the document. -/
def commandArguments (path : String) : List Argument :=
  [.bare "curl", .bare "-sS", .bare "-H", .quoted "content-type: application/json", .bare "-H",
    .quoted "x-api-key: $\x7bAPI_KEY\x7d"] ++
  (if path = "responses" then
    [.bare "-X", .bare "POST", .quoted "$\x7bGATEWAY_URL\x7d/v1/responses"]
  else if path = "messages" then
    [.bare "-H", .quoted "anthropic-version: 2023-06-01", .bare "-X", .bare "POST",
      .quoted "$\x7bGATEWAY_URL\x7d/v1/messages"]
  else [.bare "-X", .bare "POST", .quoted "$\x7bGATEWAY_URL\x7d/v1/chat/completions"])

def exampleDocument (modelName : String) (catalogEntry : Option ModelCatalogEntry) : Document :=
  exampleBody (selectedPath catalogEntry) modelName (examplePrompt catalogEntry)

theorem exampleOptions_words (path : String) :
    (exampleOptions path).toList = leading ((commandArguments path).map Argument.source) ∧
      (commandArguments path).all Argument.literal = true ∧
      "--data".toList ∉ (commandArguments path).map Argument.text := by
  by_cases hresponses : path = "responses"
  · subst hresponses
    decide +kernel
  · by_cases hmessages : path = "messages"
    · subst hmessages
      decide +kernel
    · simp only [exampleOptions, commandArguments, hresponses, hmessages, if_false]
      decide +kernel

def commandWords (path : String) : List Argument := commandArguments path ++ [.bare "--data"]

theorem commandWords_literal (path : String) :
    (commandWords path).all Argument.literal = true := by
  rw [commandWords, List.all_append, (exampleOptions_words path).2.1, Bool.true_and]
  decide +kernel

theorem exampleCommand_line (modelName : String) (catalogEntry : Option ModelCatalogEntry) :
    (exampleCommand modelName catalogEntry).toList =
      leading ((commandWords (selectedPath catalogEntry)).map Argument.source) ++
        quoted (dumps (exampleDocument modelName catalogEntry)) := by
  have hdata : "--data '".toList = leading ["--data".toList] ++ ['\''] := by decide +kernel
  have hclose : "'".toList = ['\''] := by decide +kernel
  have hwords : leading ((commandWords (selectedPath catalogEntry)).map Argument.source) =
      (exampleOptions (selectedPath catalogEntry)).toList ++ leading ["--data".toList] := by
    rw [commandWords, List.map_append, leading, List.flatMap_append,
      (exampleOptions_words _).1]
    rfl
  simp only [exampleCommand, String.toList_append, String.toList_ofList, hwords, hdata, hclose,
    exampleDocument, quoted, List.append_assoc, List.cons_append, List.nil_append]

def dataArgument (words : List Text) : Option Text :=
  (words.dropWhile (· ≠ "--data".toList)).tail.head?

theorem dataArgument_words (path : String) (more : List Text) :
    dataArgument ((commandWords path).map Argument.text ++ more) = more.head? := by
  have hbefore : ∀ word ∈ (commandArguments path).map Argument.text,
      decide (word ≠ "--data".toList) = true := fun word hword =>
    decide_eq_true fun heq => (exampleOptions_words path).2.2 (heq ▸ hword)
  rw [commandWords, List.map_append, List.append_assoc, dataArgument,
    List.dropWhile_append_of_pos hbefore]
  simp only [List.map_cons, List.map_nil, Argument.text, List.cons_append, List.nil_append]
  rw [List.dropWhile_cons_of_neg (by simp)]
  rfl

def decodedModel : Document → Option String
  | .obj fields =>
    match PyDict.get? fields "model" with
    | some (.str modelName) => some modelName
    | _ => none
  | _ => none

/-- The text of the request: the input, or the one message. -/
def decodedPrompt : Document → Option String
  | .obj fields =>
    match PyDict.get? fields "input", PyDict.get? fields "messages" with
    | some (.str prompt), _ => some prompt
    | _, some (.arr [.obj message]) =>
      match PyDict.get? message "content" with
      | some (.str prompt) => some prompt
      | _ => none
    | _, _ => none
  | _ => none

theorem decoded_exampleBody (path modelName prompt : String) :
    decodedModel (exampleBody path modelName prompt) = some modelName ∧
      decodedPrompt (exampleBody path modelName prompt) = some prompt := by
  simp only [exampleBody]
  split_ifs <;> exact ⟨rfl, rfl⟩

theorem not_mem_hex4 (n : ℕ) : '\'' ∉ hex4 n := by
  have hdigit : ∀ d < 16, Nat.digitChar d ≠ '\'' := by decide
  simp only [hex4, List.mem_cons, List.not_mem_nil, or_false, not_or]
  exact ⟨(hdigit _ (Nat.mod_lt _ (by decide))).symm, (hdigit _ (Nat.mod_lt _ (by decide))).symm,
    (hdigit _ (Nat.mod_lt _ (by decide))).symm, (hdigit _ (Nat.mod_lt _ (by decide))).symm⟩

/-- No escape has a quote in it, and a quote is not escaped. -/
theorem mem_escapeChar (c : Char) : '\'' ∈ escapeChar c ↔ c = '\'' := by
  simp only [escapeChar]
  split_ifs with hquote hbackslash hn hr ht hf hb hprintable hbasic
  · simp [hquote]
  · simp [hbackslash]
  · simp [hn]
  · simp [hr]
  · simp [ht]
  · refine iff_of_false (by simp) ?_
    rintro rfl
    exact absurd hf (by decide)
  · refine iff_of_false (by simp) ?_
    rintro rfl
    exact absurd hb (by decide)
  · rw [List.mem_singleton, eq_comm]
  · refine iff_of_false (by simp [not_mem_hex4]) ?_
    rintro rfl
    exact hprintable (by decide)
  · refine iff_of_false (by simp [not_mem_hex4]) ?_
    rintro rfl
    exact hprintable (by decide)

theorem mem_dumpsString (s : String) : '\'' ∈ dumpsString s ↔ '\'' ∈ s.toList := by
  simp [dumpsString, mem_escapeChar]

theorem mem_exampleBody (path modelName prompt : String) :
    '\'' ∈ dumps (exampleBody path modelName prompt) ↔
      '\'' ∈ modelName.toList ∨ '\'' ∈ prompt.toList := by
  have hnumber : '\'' ∉ Nat.toDigits 10 64 := by decide
  have hkeys : ∀ key ∈ ["model", "input", "max_tokens", "messages", "role", "user", "content"],
      '\'' ∉ dumpsString key := by
    simp only [mem_dumpsString]
    decide +kernel
  simp only [List.forall_mem_cons] at hkeys
  obtain ⟨hmodel, hinput, hmax, hmessages, hrole, huser, hcontent, _⟩ := hkeys
  simp only [exampleBody, userMessage]
  split_ifs
  · simp [dumps, dumpsFields, mem_dumpsString modelName, mem_dumpsString prompt, hmodel, hinput]
  · simp [dumps, dumpsFields, dumpsItems, dumpsInt, mem_dumpsString modelName,
      mem_dumpsString prompt, hmodel, hmax, hmessages, hrole, huser, hcontent, hnumber]
  · simp [dumps, dumpsFields, dumpsItems, mem_dumpsString modelName, mem_dumpsString prompt,
      hmodel, hmessages, hrole, huser, hcontent]

structure Sends (words : List Text) (modelName : String)
    (catalogEntry : Option ModelCatalogEntry) : Prop where
  data : dataArgument words = some (dumps (exampleDocument modelName catalogEntry))
  decodes : loads (dumps (exampleDocument modelName catalogEntry)) =
    some (exampleDocument modelName catalogEntry)
  model : decodedModel (exampleDocument modelName catalogEntry) = some modelName
  content : decodedPrompt (exampleDocument modelName catalogEntry) =
    some (examplePrompt catalogEntry)

/-- The example on the page, unescaped, is one simple command of literal words. -/
def RoundTrips (refs : CharacterReferences) (modelName : String)
    (catalogEntry : Option ModelCatalogEntry) : Prop :=
  ∃ words, simpleCommand (unescape refs (exampleCurl modelName catalogEntry).toList) = some words ∧
    Sends words modelName catalogEntry

section
variable (refs : CharacterReferences) (modelName : String) (catalogEntry : Option ModelCatalogEntry)

theorem unescape_exampleCurl : unescape refs (exampleCurl modelName catalogEntry).toList =
    leading ((commandWords (selectedPath catalogEntry)).map Argument.source) ++
      quoted (dumps (exampleDocument modelName catalogEntry)) := by
  rw [exampleCurl, escape, String.toList_ofList, unescape_escape, exampleCommand_line]

theorem round_trips_of_no_quote
    (h : '\'' ∉ dumps (exampleDocument modelName catalogEntry)) :
    RoundTrips refs modelName catalogEntry := by
  have hdecoded := decoded_exampleBody (selectedPath catalogEntry) modelName
    (examplePrompt catalogEntry)
  have hread := simpleCommand_spelled
    (arguments_spell (commandWords_literal (selectedPath catalogEntry))) (spells_quoted h)
  rw [← unescape_exampleCurl refs] at hread
  exact ⟨_, hread, dataArgument_words _ _, loads_dumps _, hdecoded.1, hdecoded.2⟩

/-- The quote closes the quotes around the document, and what the shell then makes of
it is shorter. -/
theorem no_quote_of_round_trips (h : RoundTrips refs modelName catalogEntry) :
    '\'' ∉ dumps (exampleDocument modelName catalogEntry) := by
  intro hquote
  obtain ⟨words, hread, hsends⟩ := h
  rw [unescape_exampleCurl] at hread
  obtain ⟨more, rfl, hshorter⟩ :=
    simpleCommand_broken (arguments_spell (commandWords_literal _)) hquote hread
  have hdata := hsends.data
  rw [dataArgument_words] at hdata
  obtain ⟨rest, rfl⟩ := List.head?_eq_some_iff.mp hdata
  rw [List.map_cons, List.sum_cons] at hshorter
  omega

/-- The prompt that is shown has a quote only where the entry's has one. -/
theorem mem_examplePrompt : '\'' ∈ (examplePrompt catalogEntry).toList ↔
    ∃ prompt ∈ fieldOf ModelCatalogEntry.examplePrompt catalogEntry, '\'' ∈ prompt.toList := by
  simp only [examplePrompt]
  cases hprompt : fieldOf ModelCatalogEntry.examplePrompt catalogEntry with
  | none =>
    refine iff_of_false (by decide +kernel) ?_
    rintro ⟨prompt, hnone, _⟩
    cases hnone
  | some prompt =>
    by_cases hempty : prompt = ""
    · subst hempty
      refine iff_of_false (by decide +kernel) ?_
      rintro ⟨prompt, heq, hmem⟩
      cases heq
      revert hmem
      decide +kernel
    · have hdocumented : documented (some prompt) = true := decide_eq_true hempty
      rw [if_pos hdocumented, Option.getD_some]
      constructor
      · exact fun hmem => ⟨prompt, rfl, hmem⟩
      · rintro ⟨other, heq, hmem⟩
        cases heq
        exact hmem

end

/-- The example of an accepted entry is its own prompt, sent to a path the gateway serves. -/
theorem accepted_example {env : Environment} {unicode : UnicodeTables} {raw : RawConfig}
    {config : LoadedConfig} (h : modelValidate env unicode raw = .ok config) {modelName : String}
    {entry : ModelCatalogEntry} (hentry : PyDict.get? config.modelCatalog modelName = some entry) :
    selectedPath (some entry) ∈ supportedApiPaths ∧
      ∀ prompt ∈ entry.examplePrompt, examplePrompt (some entry) = prompt := by
  have hnormalized : Normalized entry :=
    (modelValidate_ok env unicode h).2.2 _ (PyDict.mem_of_get? hentry)
  constructor
  · simp only [selectedPath, listOf, Option.map_some, Option.getD_some]
    cases hpaths : entry.apiPaths with
    | nil => decide
    | cons path rest => exact hnormalized.apiPaths path (by simp [hpaths])
  · intro prompt hprompt
    have hfield : fieldOf ModelCatalogEntry.examplePrompt (some entry) = some prompt := hprompt
    have hdocumented : documented (some prompt) = true :=
      decide_eq_true (hnormalized.prompt prompt hprompt).1
    simp only [examplePrompt, hfield]
    rw [if_pos hdocumented, Option.getD_some]

/-- The example of a card is a command that sends its document exactly when there is
no apostrophe in the model's name or in the entry's prompt. -/
theorem example_curl_round_trips_iff (refs : CharacterReferences) (modelName : String)
    (catalogEntry : Option ModelCatalogEntry) :
    RoundTrips refs modelName catalogEntry ↔
      '\'' ∉ modelName.toList ∧
        ∀ prompt ∈ fieldOf ModelCatalogEntry.examplePrompt catalogEntry,
          '\'' ∉ prompt.toList := by
  have hdocument : RoundTrips refs modelName catalogEntry ↔
      '\'' ∉ dumps (exampleDocument modelName catalogEntry) :=
    ⟨no_quote_of_round_trips refs modelName catalogEntry,
      round_trips_of_no_quote refs modelName catalogEntry⟩
  rw [hdocument, exampleDocument, mem_exampleBody, mem_examplePrompt, not_or]
  simp only [not_exists, not_and]

/-- The references that escaping produces, and no others. -/
def basicReferences : CharacterReferences where
  named := fun name =>
    if name = ['a', 'm', 'p', ';'] then some ['&']
    else if name = ['l', 't', ';'] then some ['<']
    else if name = ['g', 't', ';'] then some ['>']
    else if name = ['q', 'u', 'o', 't', ';'] then some ['"']
    else none
  numeric := fun n => [Char.ofNat n]
  amp := rfl
  lt := rfl
  gt := rfl
  quot := rfl
  semicolon := fun name hended => by
    split_ifs with hamp hlt hgt hquot
    · rw [hamp] at hended
      simp at hended
    · rw [hlt] at hended
      simp at hended
    · rw [hgt] at hended
      simp at hended
    · rw [hquot] at hended
      simp at hended
    · rfl
  apostrophe := rfl

def noTables : UnicodeTables := ⟨fun _ => false, fun _ => false, fun _ => false⟩

def promptEntry (prompt : String) : ModelCatalogEntry where
  displayName := none
  hostedOn := none
  useCases := []
  apiPaths := []
  contextWindow := none
  recommendedFor := []
  knownLimits := []
  examplePrompt := some prompt

/-- The sample with an example prompt for one of its models. -/
def promptRaw : RawConfig :=
  { sampleRaw with
    health := ⟨true, "/v1/models"⟩
    modelCatalog := [("llama", promptEntry "What's new?")] }

theorem promptRaw_isOk :
    (modelValidate sampleEnvironment noTables promptRaw).toOption.isSome = true := by
  decide +kernel

def promptConfig : LoadedConfig :=
  (modelValidate sampleEnvironment noTables promptRaw).toOption.get promptRaw_isOk

/-- The configuration is accepted, and the example of the model is broken. -/
theorem example_curl_apostrophe :
    ¬ ∀ (refs : CharacterReferences) (env : Environment) (unicode : UnicodeTables)
        (raw : RawConfig) (config : LoadedConfig), modelValidate env unicode raw = .ok config →
        ∀ modelName ∈ Availability.configModelNames config.toAppConfig,
          RoundTrips refs modelName (PyDict.get? config.modelCatalog modelName) := by
  intro h
  have htrips := h basicReferences sampleEnvironment noTables promptRaw promptConfig
    (eq_ok_get promptRaw_isOk) "llama" (by decide +kernel)
  refine absurd (no_quote_of_round_trips _ _ _ htrips) (not_not.mpr ?_)
  rw [exampleDocument, mem_exampleBody]
  right
  decide +kernel

end VllmSourceGateway.CurlExample
