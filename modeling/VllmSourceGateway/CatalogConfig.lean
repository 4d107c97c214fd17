import VllmSourceGateway.ConfigValidation

set_option autoImplicit false

/-! The entries of `model_catalog` and what validation makes of them. -/
namespace VllmSourceGateway.CatalogConfig
open PyText SourceResolution ConfigValidation

/-- The tables of Unicode behind `\d`, `\w` and `str.isprintable`. -/
structure UnicodeTables where
  isDecimal : Char → Bool
  isWord : Char → Bool
  isPrintable : Char → Bool

structure ModelCatalogEntry where
  displayName : Option String
  hostedOn : Option String
  useCases : List String
  apiPaths : List String
  contextWindow : Option String
  recommendedFor : List String
  knownLimits : List String
  examplePrompt : Option String
  deriving DecidableEq

def normalizeOptionalString (value : Option String) : Option String := value.bind strippedOrNone

def normalizeStringList (values : List String) : List String := strippedNonEmpty values

section
variable (unicode : UnicodeTables)

/-- `\b` between the character before and the text after. -/
def wordBoundary (before : Option Char) (after : Text) : Bool :=
  before.any unicode.isWord != after.head?.any unicode.isWord

/-- `\d{1,3}` and then what `next` matches. -/
def digitsThen (next : Option Char → Text → Bool) (text : Text) : Bool :=
  [1, 2, 3].any fun count =>
    decide (count ≤ text.length) && (text.take count).all unicode.isDecimal &&
      next (text.take count).getLast? (text.drop count)

def matchesNumbers : ℕ → Text → Bool
  | 0, text => digitsThen unicode (wordBoundary unicode) text
  | dotted + 1, text =>
    digitsThen unicode (fun _ rest =>
      match rest with
      | '.' :: rest => matchesNumbers dotted rest
      | _ => false) text

/-- `re.search` from behind the character before. -/
def searchIpAddress (before : Option Char) : Text → Bool
  | [] => wordBoundary unicode before [] && matchesNumbers unicode 3 []
  | c :: text =>
    wordBoundary unicode before (c :: text) && matchesNumbers unicode 3 (c :: text) ||
      searchIpAddress (some c) text

def validateHostedOn (value : Option String) : Except Problem Unit :=
  match value with
  | none => .ok ()
  | some value =>
    if "://".toList <:+: value.toList ∨ searchIpAddress unicode none value.toList = true then
      .error (.message ("model_catalog hosted_on must be an abstract location description, " ++
        "not an upstream URL or IP address"))
    else .ok ()

def hexDigits (width n : ℕ) : Text :=
  let digits := Nat.toDigits 16 n
  List.replicate (width - digits.length) '0' ++ digits

def reprChar (quote c : Char) : Text :=
  if c = quote ∨ c = '\\' then ['\\', c]
  else if c = '\n' then ['\\', 'n']
  else if c = '\r' then ['\\', 'r']
  else if c = '\t' then ['\\', 't']
  else if unicode.isPrintable c then [c]
  else if c.toNat < 0x100 then '\\' :: 'x' :: hexDigits 2 c.toNat
  else if c.toNat < 0x10000 then '\\' :: 'u' :: hexDigits 4 c.toNat
  else '\\' :: 'U' :: hexDigits 8 c.toNat

def reprString (s : String) : String :=
  let quote := if '\'' ∈ s.toList ∧ '"' ∉ s.toList then '"' else '\''
  String.ofList (quote :: (s.toList.flatMap (reprChar unicode quote) ++ [quote]))

def reprList (values : List String) : String :=
  "[" ++ ", ".intercalate (values.map (reprString unicode)) ++ "]"

def supportedApiPaths : List String := ["chat", "responses", "messages"]

def unsupportedApiPaths (apiPaths : List String) : List String :=
  PyDict.sortedNames (apiPaths.filter (· ∉ supportedApiPaths))

def normalizeFields (raw : ModelCatalogEntry) : Except Problem ModelCatalogEntry :=
  match validateHostedOn unicode (normalizeOptionalString raw.hostedOn) with
  | .error problem => .error problem
  | .ok () =>
    let apiPaths := normalizeStringList raw.apiPaths
    if unsupportedApiPaths apiPaths = [] then
      .ok {
        displayName := normalizeOptionalString raw.displayName
        hostedOn := normalizeOptionalString raw.hostedOn
        useCases := normalizeStringList raw.useCases
        apiPaths := apiPaths
        contextWindow := normalizeOptionalString raw.contextWindow
        recommendedFor := normalizeStringList raw.recommendedFor
        knownLimits := normalizeStringList raw.knownLimits
        examplePrompt := normalizeOptionalString raw.examplePrompt }
    else
      .error (.message ("model_catalog api_paths may only include supported gateway paths: " ++
        "chat, responses, messages; got " ++ reprList unicode (unsupportedApiPaths apiPaths)))

/-- Stripped texts that are not empty, and paths that the gateway serves. -/
structure Normalized (entry : ModelCatalogEntry) : Prop where
  prompt : ∀ prompt ∈ entry.examplePrompt, prompt ≠ "" ∧ stripString prompt = prompt
  apiPaths : ∀ path ∈ entry.apiPaths, path ∈ supportedApiPaths

theorem strippedOrNone_some {value stripped : String} (h : strippedOrNone value = some stripped) :
    stripped ≠ "" ∧ stripString value = stripped := by
  simp only [strippedOrNone] at h
  split at h
  · cases h
  · rename_i hne
    cases h
    exact ⟨hne, rfl⟩

theorem normalizeFields_ok {raw entry : ModelCatalogEntry}
    (h : normalizeFields unicode raw = .ok entry) : Normalized entry := by
  simp only [normalizeFields] at h
  split at h
  · cases h
  · split at h
    · rename_i hpaths
      cases h
      refine ⟨fun prompt hprompt => ?_, fun path hpath => ?_⟩
      · obtain ⟨value, _, hvalue⟩ := Option.bind_eq_some_iff.mp hprompt
        obtain ⟨hne, rfl⟩ := strippedOrNone_some hvalue
        refine ⟨hne, ?_⟩
        simp only [stripString, String.toList_ofList, strip_strip]
      · by_contra hunsupported
        have hmem : path ∈ unsupportedApiPaths (normalizeStringList raw.apiPaths) :=
          PyDict.mem_sortedNames.mpr (List.mem_filter.mpr ⟨hpath, decide_eq_true hunsupported⟩)
        rw [hpaths] at hmem
        cases hmem
    · cases h

end

end VllmSourceGateway.CatalogConfig
