import VllmSourceGateway.CapacityReport
import VllmSourceGateway.PyDict
import VllmSourceGateway.PyText

set_option autoImplicit false

/-! The lists on the command line of the capacity baseline tool, and the line of its
report that spells a mix of models out again. -/
namespace VllmSourceGateway.CapacityArguments
open PyText

abbrev Concurrency := {concurrency : ℕ // 0 < concurrency}

abbrev MixedModels := List (String × Concurrency)

section
variable (decimal : Char → Option ℕ)

/-- `ArgumentTypeError`, or a `ValueError` that `argparse` words itself. -/
inductive ArgumentError where
  | message (text : String)
  | value
  deriving DecidableEq

def parseCsv (value : Text) : List Text := ((value.splitOn ',').map strip).filter (· ≠ [])

def positive (concurrency : ℤ) : Option Concurrency :=
  if h : 0 < concurrency then some ⟨concurrency.toNat, by omega⟩ else none

def parseIntCsv (value : Text) : Except ArgumentError (List Concurrency) :=
  match (parseCsv value).mapM (int decimal) with
  | none => .error .value
  | some [] => .error (.message "must include at least one integer")
  | some parsed =>
    match parsed.mapM positive with
    | none => .error (.message "all concurrency levels must be positive")
    | some levels => .ok levels

/-- `item.rsplit(":", 1)`, none where there is no colon. -/
def rsplitColon (item : Text) : Option (Text × Text) :=
  match item.reverse.dropWhile (· ≠ ':') with
  | [] => none
  | _ :: before => some (before.reverse, (item.reverse.takeWhile (· ≠ ':')).reverse)

/-- The body of the loop of `parse_mixed_models`. -/
def addMixedModel (entries : MixedModels) (item : Text) : Except ArgumentError MixedModels :=
  match rsplitColon item with
  | none => .error (.message "mixed models must use model:concurrency entries")
  | some (before, concurrencyText) =>
    let model := String.ofList (strip before)
    if strip before = [] then .error (.message "mixed model name cannot be empty")
    else
      match int decimal concurrencyText with
      | none => .error (.message ("invalid concurrency for mixed model " ++ model ++ ": " ++
          String.ofList concurrencyText))
      | some concurrency =>
        match positive concurrency with
        | none => .error (.message ("mixed model concurrency must be positive for " ++ model))
        | some concurrency => .ok (PyDict.set entries model concurrency)

def parseMixedModels (value : Text) : Except ArgumentError MixedModels :=
  match (parseCsv value).foldlM (addMixedModel decimal) [] with
  | .error e => .error e
  | .ok [] => .error (.message "must include at least one model:concurrency entry")
  | .ok entries => .ok entries

end

/-! ## The check of the arguments together -/

def pathToEndpoint : List (String × String) :=
  [("chat", "/v1/chat/completions"), ("responses", "/v1/responses"), ("messages", "/v1/messages")]

/-- What `validate_args` looks at; no mix is an empty one. -/
structure ParsedArguments where
  apiKey : Option String
  model : Option String
  mixedModels : MixedModels
  mixedModels_unique : PyDict.Unique mixedModels
  paths : List String
  concurrencyLevels : List Concurrency
  requestsPerLevel : ℤ
  failOnError : Bool

def missing (text : Option String) : Bool := (text.getD "").isEmpty

def unsupportedPaths (args : ParsedArguments) : List String :=
  PyDict.sortedNames (args.paths.filter fun path => (PyDict.get? pathToEndpoint path).isNone)

def validateArgs (args : ParsedArguments) : Except String CapacityBaseline.Arguments :=
  if missing args.apiKey then .error "missing --api-key or API_KEY"
  else if missing args.model && args.mixedModels.isEmpty then
    .error "missing --model or MODEL_NAME"
  else if h : args.requestsPerLevel ≤ 0 then .error "--requests-per-level must be positive"
  else if !(unsupportedPaths args).isEmpty then
    .error ("unsupported --paths value(s): " ++ ",".intercalate (unsupportedPaths args))
  else
    .ok ⟨args.model.getD "", args.mixedModels, args.mixedModels_unique, args.paths,
      args.concurrencyLevels, args.requestsPerLevel.toNat, args.failOnError, by omega⟩

def mixedItem (entry : String × Concurrency) : Text :=
  entry.1.toList ++ ':' :: Nat.toDigits 10 entry.2.val

def mixedDescription (entries : MixedModels) : Text := [','].intercalate (entries.map mixedItem)

/-- What is relied on of the table of decimal digits. -/
structure DecimalTable (decimal : Char → Option ℕ) : Prop where
  ascii : ∀ c, c.isDigit = true → decimal c = some (c.toNat - 48)
  digit : ∀ c d, decimal c = some d → d < 10

theorem intStrip_digits {t : Text} (ht : ∀ c ∈ t, c.isDigit = true) : intStrip t = t := by
  have hspace : ∀ c : Char, c.isDigit = true → intSpace c = false := by
    intro c hc
    have hrange : 48 ≤ c.toNat ∧ c.toNat ≤ 57 := by
      simpa [Char.isDigit, UInt32.le_iff_toNat_le] using hc
    simp only [intSpace, Bool.or_eq_false_iff, Bool.and_eq_false_iff, decide_eq_false_iff_not,
      beq_eq_false_iff_ne]
    omega
  have hdrop {u : Text} (hu : ∀ c ∈ u, c.isDigit = true) : u.dropWhile intSpace = u := by
    cases u with
    | nil => rfl
    | cons c u =>
      rw [List.dropWhile_cons_of_neg]
      rw [hspace c (hu c List.mem_cons_self)]
      exact Bool.false_ne_true
  unfold intStrip
  rw [hdrop ht, hdrop fun c hc => ht c (List.mem_reverse.mp hc), List.reverse_reverse]

section
variable {decimal : Char → Option ℕ} (hdecimal : DecimalTable decimal)
include hdecimal

theorem intDigits_ascii {t : Text} (ht : ∀ c ∈ t, c.isDigit = true) (hne : t ≠ []) :
    intDigits decimal t = some (t.map fun c => c.toNat - 48) := by
  induction t with
  | nil => exact absurd rfl hne
  | cons c t ih =>
    obtain ⟨hc, hrest⟩ := List.forall_mem_cons.mp ht
    cases t with
    | nil =>
      rw [intDigits, hdecimal.ascii c hc]
      rfl
    | cons d t =>
      have hunderscore : d ≠ '_' := by
        rintro rfl
        exact absurd (hrest '_' List.mem_cons_self) (by decide)
      rw [intDigits.eq_4 _ _ _ (List.cons_ne_nil d t) (fun _ h => hunderscore (by cases h; rfl)),
        hdecimal.ascii c hc, ih hrest (List.cons_ne_nil d t)]
      rfl

/-- `int(str(n))` is `n`. -/
theorem int_toDigits {n : ℕ} (hn : (Nat.toDigits 10 n).length ≤ 4300) :
    int decimal (Nat.toDigits 10 n) = some (n : ℤ) := by
  have hdigits : ∀ c ∈ Nat.toDigits 10 n, c.isDigit = true := fun c hc =>
    Nat.isDigit_of_mem_toDigits (by decide) (by decide) hc
  have hvalue : intValue decimal (Nat.toDigits 10 n) = some n := by
    have hfold : ((Nat.toDigits 10 n).map fun c => c.toNat - 48).foldl (fun n d => 10 * n + d) 0 =
        n := by
      rw [List.foldl_map]
      exact Nat.ofDigitChars_ten_toDigits
    unfold intValue
    rw [intDigits_ascii hdecimal hdigits Nat.toDigits_ne_nil]
    dsimp only
    rw [List.length_map, if_neg (by omega), hfold]
  unfold int
  rw [intStrip_digits hdigits]
  split
  · rename_i t heq
    exact absurd (hdigits '-' (by rw [heq]; exact List.mem_cons_self)) (by decide)
  · rename_i t heq
    exact absurd (hdigits '+' (by rw [heq]; exact List.mem_cons_self)) (by decide)
  · rw [hvalue]
    rfl

theorem intDigits_lt {t : Text} {ds : List ℕ} (h : intDigits decimal t = some ds) :
    ∀ d ∈ ds, d < 10 := by
  fun_induction intDigits decimal t generalizing ds with
  | case1 => cases h
  | case2 c =>
    obtain ⟨d, hd, rfl⟩ := Option.map_eq_some_iff.mp h
    exact List.forall_mem_singleton.mpr (hdecimal.digit c d hd)
  | case3 c t d rest hrest hd ih | case5 c t hmore hother d rest hrest hd ih =>
    cases h
    exact List.forall_mem_cons.mpr ⟨hdecimal.digit c d hd, ih hrest⟩
  | case4 | case6 => cases h

omit hdecimal in
theorem foldl_lt {ds : List ℕ} (h : ∀ d ∈ ds, d < 10) (n : ℕ) :
    ds.foldl (fun n d => 10 * n + d) n < (n + 1) * 10 ^ ds.length := by
  induction ds generalizing n with
  | nil => simp
  | cons d ds ih =>
    obtain ⟨hd, hrest⟩ := List.forall_mem_cons.mp h
    calc
      ds.foldl (fun n d => 10 * n + d) (10 * n + d)
      _ < (10 * n + d + 1) * 10 ^ ds.length := ih hrest (10 * n + d)
      _ ≤ (10 * (n + 1)) * 10 ^ ds.length := Nat.mul_le_mul_right _ (by omega)
      _ = (n + 1) * 10 ^ (d :: ds).length := by
        rw [List.length_cons, Nat.pow_succ]
        ring

theorem intValue_length {t : Text} {n : ℕ} (h : intValue decimal t = some n) :
    (Nat.toDigits 10 n).length ≤ 4300 := by
  unfold intValue at h
  split at h
  · cases h
  · rename_i ds hds
    split at h
    · cases h
    · rename_i hlength
      have hlt := foldl_lt (intDigits_lt hdecimal hds) 0
      rw [Nat.zero_add, Nat.one_mul, Option.some.inj h] at hlt
      have hbound (k : ℕ) (hk : 0 < k) (hle : ds.length ≤ k) : (Nat.toDigits 10 n).length ≤ k :=
        (Nat.length_toDigits_le_iff (by decide) hk).mpr
          (hlt.trans_le (Nat.pow_le_pow_right (by decide) hle))
      exact hbound 4300 (by decide) (by omega)

/-- A positive number that was read can be written and read again. -/
theorem int_length {t : Text} {n : ℤ} (hn : 0 < n) (h : int decimal t = some n) :
    (Nat.toDigits 10 n.toNat).length ≤ 4300 := by
  unfold int at h
  split at h
  · obtain ⟨m, _, rfl⟩ := Option.map_eq_some_iff.mp h
    omega
  · obtain ⟨m, hm, rfl⟩ := Option.map_eq_some_iff.mp h
    exact intValue_length hdecimal hm
  · obtain ⟨m, hm, rfl⟩ := Option.map_eq_some_iff.mp h
    exact intValue_length hdecimal hm

end

/-- Of the entries of a mix, all but that there are some. -/
structure Entries (entries : MixedModels) : Prop where
  unique : PyDict.Unique entries
  name : ∀ entry ∈ entries, strip entry.1.toList = entry.1.toList ∧ entry.1.toList ≠ [] ∧
    ',' ∉ entry.1.toList
  writable : ∀ entry ∈ entries, (Nat.toDigits 10 entry.2.val).length ≤ 4300

theorem mem_of_mem_strip {c : Char} {t : Text} (h : c ∈ strip t) : c ∈ t := by
  obtain ⟨before, after, _, _, heq⟩ := exists_strip t
  rw [heq]
  exact List.mem_append_right _ (List.mem_append_left _ h)

theorem not_mem_of_mem_splitOn {sep : Char} {t part : Text} (h : part ∈ t.splitOn sep) :
    sep ∉ part := by
  induction t generalizing part with
  | nil =>
    rw [List.splitOn_nil, List.mem_singleton] at h
    rw [h]
    exact List.not_mem_nil
  | cons c t ih =>
    rw [List.splitOn_cons_eq_if_modifyHead] at h
    split at h
    · rcases List.mem_cons.mp h with rfl | hrest
      · exact List.not_mem_nil
      · exact ih hrest
    · rename_i hc
      cases hparts : t.splitOn sep with
      | nil => exact absurd hparts (List.splitOn_ne_nil sep t)
      | cons first parts =>
        rw [hparts] at h ih
        rcases List.mem_cons.mp h with rfl | hrest
        · rw [List.mem_cons, not_or]
          refine ⟨?_, ih List.mem_cons_self⟩
          rintro rfl
          exact hc (beq_self_eq_true _)
        · exact ih (List.mem_cons_of_mem _ hrest)

theorem mem_parseCsv {value item : Text} (h : item ∈ parseCsv value) :
    item ≠ [] ∧ ',' ∉ item := by
  obtain ⟨hmem, hne⟩ := List.mem_filter.mp h
  obtain ⟨part, hpart, rfl⟩ := List.mem_map.mp hmem
  exact ⟨of_decide_eq_true hne, fun hcomma =>
    not_mem_of_mem_splitOn hpart (mem_of_mem_strip hcomma)⟩

theorem rsplitColon_before {item before after : Text}
    (h : rsplitColon item = some (before, after)) :
    ∀ c ∈ before, c ∈ item := by
  unfold rsplitColon at h
  split at h
  · cases h
  · rename_i colon rest hdrop
    cases h
    intro c hc
    have hmem : c ∈ item.reverse.dropWhile (· ≠ ':') := by
      rw [hdrop]
      exact List.mem_cons_of_mem _ (List.mem_reverse.mp hc)
    exact List.mem_reverse.mp ((List.dropWhile_suffix _).subset hmem)

theorem positive_val {concurrency : ℤ} {n : Concurrency} (h : positive concurrency = some n) :
    0 < concurrency ∧ n.val = concurrency.toNat := by
  unfold positive at h
  split at h
  · rename_i hpos
    cases h
    exact ⟨hpos, rfl⟩
  · cases h

section
variable {decimal : Char → Option ℕ}

theorem addMixedModel_entries (hdecimal : DecimalTable decimal) {entries entries' : MixedModels}
    {item : Text} (hentries : Entries entries) (hcomma : ',' ∉ item)
    (h : addMixedModel decimal entries item = .ok entries') :
    Entries entries' := by
  unfold addMixedModel at h
  split at h
  · cases h
  · rename_i before concurrencyText hsplit
    dsimp only at h
    split at h
    · cases h
    · rename_i hname
      split at h
      · cases h
      · rename_i concurrency hint
        split at h
        · cases h
        · rename_i n hpositive
          cases h
          obtain ⟨hpos, hval⟩ := positive_val hpositive
          have hnew : ∀ entry ∈ PyDict.set entries (String.ofList (strip before)) n,
              entry = (String.ofList (strip before), n) ∨ entry ∈ entries := fun entry hmem =>
            PyDict.mem_set hmem
          refine ⟨PyDict.set_unique hentries.unique _ _, ?_, ?_⟩
          · intro entry hmem
            rcases hnew entry hmem with rfl | hold
            · rw [String.toList_ofList]
              exact ⟨strip_strip before, hname, fun hmem =>
                hcomma (rsplitColon_before hsplit _ (mem_of_mem_strip hmem))⟩
            · exact hentries.name entry hold
          · intro entry hmem
            rcases hnew entry hmem with rfl | hold
            · rw [hval]
              exact int_length hdecimal hpos hint
            · exact hentries.writable entry hold

theorem foldlM_entries (hdecimal : DecimalTable decimal) {items : List Text}
    {entries entries' : MixedModels} (hentries : Entries entries)
    (hcomma : ∀ item ∈ items, ',' ∉ item)
    (h : items.foldlM (addMixedModel decimal) entries = .ok entries') : Entries entries' := by
  induction items generalizing entries with
  | nil =>
    cases h
    exact hentries
  | cons item items ih =>
    obtain ⟨hfirst, hrest⟩ := List.forall_mem_cons.mp hcomma
    rw [List.foldlM_cons] at h
    cases hadd : addMixedModel decimal entries item with
    | error e =>
      rw [hadd] at h
      cases h
    | ok next =>
      rw [hadd] at h
      exact ih (addMixedModel_entries hdecimal hentries hfirst hadd) hrest h

theorem head_of_stripped {t : Text} (h : strip t = t) : ∀ c ∈ t.head?, isSpace c = false := by
  intro c hc
  cases t with
  | nil => cases hc
  | cons d t =>
    cases hc
    cases hspace : isSpace c with
    | false => rfl
    | true =>
      have hdrop : strip (c :: t) = strip t :=
        strip_append_left (s := [c]) (List.forall_mem_singleton.mpr hspace) t
      have hlength : (strip t).length ≤ t.length := by
        obtain ⟨before, after, _, _, heq⟩ := exists_strip t
        have hsum := congrArg List.length heq
        rw [List.length_append, List.length_append] at hsum
        omega
      rw [hdrop] at h
      rw [h, List.length_cons] at hlength
      omega

theorem toDigits_not_space (n : ℕ) : ∀ c ∈ Nat.toDigits 10 n, isSpace c = false := by
  intro c hc
  have hdigit := Nat.isDigit_of_mem_toDigits (by decide) (by decide) hc
  have hrange : 48 ≤ c.toNat ∧ c.toNat ≤ 57 := by
    simpa [Char.isDigit, UInt32.le_iff_toNat_le] using hdigit
  simp only [isSpace, Bool.or_eq_false_iff, Bool.and_eq_false_iff, decide_eq_false_iff_not,
    beq_eq_false_iff_ne]
  omega

theorem lstrip_eq_self {t : Text} (h : ∀ c ∈ t.head?, isSpace c = false) : lstrip t = t := by
  cases t with
  | nil => rfl
  | cons c t =>
    unfold lstrip
    rw [List.dropWhile_cons_of_neg]
    rw [h c rfl]
    exact Bool.false_ne_true

theorem strip_mixedItem {entry : String × Concurrency}
    (hname : strip entry.1.toList = entry.1.toList) (hne : entry.1.toList ≠ []) :
    strip (mixedItem entry) = mixedItem entry := by
  have hfirst : lstrip (mixedItem entry) = mixedItem entry := by
    apply lstrip_eq_self
    intro c hc
    unfold mixedItem at hc
    rw [List.head?_append_of_ne_nil _ hne] at hc
    exact head_of_stripped hname c hc
  have hlast : lstrip (mixedItem entry).reverse = (mixedItem entry).reverse := by
    apply lstrip_eq_self
    intro c hc
    unfold mixedItem at hc
    rw [List.reverse_append, List.reverse_cons, List.append_assoc,
      List.head?_append_of_ne_nil _ (List.reverse_ne_nil_iff.mpr Nat.toDigits_ne_nil)] at hc
    exact toDigits_not_space _ c (List.mem_reverse.mp (List.mem_of_mem_head? hc))
  unfold strip
  rw [hfirst, hlast, List.reverse_reverse]

/-- A model's name may contain colons; its concurrency does not. -/
theorem rsplitColon_mixedItem (entry : String × Concurrency) :
    rsplitColon (mixedItem entry) = some (entry.1.toList, Nat.toDigits 10 entry.2.val) := by
  have hdigits : ∀ c ∈ (Nat.toDigits 10 entry.2.val).reverse, decide (c ≠ ':') = true := by
    intro c hc
    have hdigit := Nat.isDigit_of_mem_toDigits (by decide) (by decide) (List.mem_reverse.mp hc)
    apply decide_eq_true
    rintro rfl
    exact absurd hdigit (by decide)
  have hreverse : (mixedItem entry).reverse =
      (Nat.toDigits 10 entry.2.val).reverse ++ ':' :: entry.1.toList.reverse := by
    simp [mixedItem]
  unfold rsplitColon
  rw [hreverse, List.dropWhile_append_of_pos hdigits, List.takeWhile_append_of_pos hdigits]
  simp

theorem addMixedModel_mixedItem (hdecimal : DecimalTable decimal) {entries : MixedModels}
    {entry : String × Concurrency} (hfresh : PyDict.get? entries entry.1 = none)
    (hname : strip entry.1.toList = entry.1.toList) (hne : entry.1.toList ≠ [])
    (hwritable : (Nat.toDigits 10 entry.2.val).length ≤ 4300) :
    addMixedModel decimal entries (mixedItem entry) = .ok (entries ++ [entry]) := by
  have hpos : positive (entry.2.val : ℤ) = some entry.2 := by
    have hlt := entry.2.property
    unfold positive
    rw [dif_pos (by omega)]
    rfl
  unfold addMixedModel
  rw [rsplitColon_mixedItem]
  dsimp only
  rw [hname, if_neg hne, int_toDigits hdecimal hwritable]
  dsimp only
  rw [hpos]
  dsimp only
  rw [String.ofList_toList, PyDict.set_fresh hfresh]

theorem foldlM_mixedItems (hdecimal : DecimalTable decimal) {entries rest : MixedModels}
    (h : Entries (entries ++ rest)) :
    (rest.map mixedItem).foldlM (addMixedModel decimal) entries = .ok (entries ++ rest) := by
  induction rest generalizing entries with
  | nil => simp; rfl
  | cons entry rest ih =>
    have hmem : entry ∈ entries ++ entry :: rest := by simp
    obtain ⟨hname, hne, _⟩ := h.name entry hmem
    have hfresh : PyDict.get? entries entry.1 = none := by
      have hunique := h.unique
      unfold PyDict.Unique at hunique
      rw [List.map_append, List.map_cons, List.nodup_append] at hunique
      rw [Option.eq_none_iff_forall_ne_some]
      intro n hget
      have hold := PyDict.get?_isSome_iff.mp (Option.isSome_of_eq_some hget)
      exact hunique.2.2 entry.1 hold entry.1 List.mem_cons_self rfl
    have hadd := addMixedModel_mixedItem hdecimal hfresh hname hne (h.writable entry hmem)
    have hrest : Entries (entries ++ [entry] ++ rest) := by rwa [← List.append_cons]
    rw [List.map_cons, List.foldlM_cons, hadd, List.append_cons entries entry rest]
    exact ih hrest

theorem parseCsv_description {entries : MixedModels} (h : Entries entries) (hne : entries ≠ []) :
    parseCsv (mixedDescription entries) = entries.map mixedItem := by
  have hcomma : ∀ item ∈ entries.map mixedItem, ',' ∉ item := by
    intro item hitem
    obtain ⟨entry, hentry, rfl⟩ := List.mem_map.mp hitem
    unfold mixedItem
    rw [List.mem_append, List.mem_cons, not_or, not_or]
    refine ⟨(h.name entry hentry).2.2, by decide, fun hmem => ?_⟩
    exact absurd (Nat.isDigit_of_mem_toDigits (by decide) (by decide) hmem) (by decide)
  have hsplit : (mixedDescription entries).splitOn ',' = entries.map mixedItem :=
    List.splitOn_intercalate ',' hcomma (by simpa using hne)
  have hstrip : (entries.map mixedItem).map strip = entries.map mixedItem := by
    rw [List.map_map]
    apply List.map_congr_left
    intro entry hentry
    obtain ⟨hname, hne, _⟩ := h.name entry hentry
    exact strip_mixedItem hname hne
  unfold parseCsv
  rw [hsplit, hstrip, List.filter_eq_self]
  intro item hitem
  obtain ⟨entry, _, rfl⟩ := List.mem_map.mp hitem
  simp [mixedItem]

/-- The mixes that are accepted are those with some entries, no model twice, names
without commas or spaces around them and numbers of at most 4300 digits; and each is
what its description in the report is read as. -/
theorem mixedModels_roundtrip (hdecimal : DecimalTable decimal) :
    (∀ value entries, parseMixedModels decimal value = .ok entries →
      entries ≠ [] ∧ Entries entries) ∧
    (∀ entries, entries ≠ [] → Entries entries →
      parseMixedModels decimal (mixedDescription entries) = .ok entries) := by
  constructor
  · intro value entries haccepted
    unfold parseMixedModels at haccepted
    split at haccepted
    · cases haccepted
    · cases haccepted
    · rename_i parsed hempty hparsed
      cases haccepted
      have hnone : Entries [] := ⟨List.nodup_nil, by simp, by simp⟩
      refine ⟨fun hnil => ?_, foldlM_entries hdecimal hnone (fun item hitem =>
        (mem_parseCsv hitem).2) hparsed⟩
      subst hnil
      exact hempty rfl
  · intro entries hne hentries
    have hparsed : (entries.map mixedItem).foldlM (addMixedModel decimal) [] = .ok ([] ++ entries) :=
      foldlM_mixedItems hdecimal hentries
    unfold parseMixedModels
    rw [parseCsv_description hentries hne, hparsed]
    cases entries with
    | nil => exact absurd rfl hne
    | cons entry entries => rfl

end

/-! ## From the command line to the run -/

theorem unsupportedPaths_nil {args : ParsedArguments} (h : unsupportedPaths args = []) :
    ∀ path ∈ args.paths, (PyDict.get? pathToEndpoint path).isSome = true := by
  intro path hpath
  cases hget : PyDict.get? pathToEndpoint path with
  | some endpoint => rfl
  | none =>
    have hmem : path ∈ unsupportedPaths args := by
      unfold unsupportedPaths
      rw [PyDict.mem_sortedNames, List.mem_filter]
      exact ⟨hpath, by rw [hget]; rfl⟩
    rw [h] at hmem
    cases hmem

/-- The tool never takes the maximum of no level. -/
theorem parseIntCsv_inhabited {decimal : Char → Option ℕ} {value : Text}
    {levels : List Concurrency} (h : parseIntCsv decimal value = .ok levels) : levels ≠ [] := by
  unfold parseIntCsv at h
  split at h
  · cases h
  · cases h
  · rename_i parsed hparsed _
    split at h
    · cases h
    · rename_i levels' hlevels
      cases h
      cases parsed with
      | nil => exact absurd rfl hparsed
      | cons concurrency parsed =>
        rw [List.mapM_cons] at hlevels
        obtain ⟨level, _, hrest⟩ := Option.bind_eq_some_iff.mp hlevels
        obtain ⟨rest, _, hcons⟩ := Option.bind_eq_some_iff.mp hrest
        cases hcons
        exact List.cons_ne_nil level rest

/-- Of arguments that pass the check, every level that is run has an endpoint. -/
theorem validateArgs_endpoint {args : ParsedArguments} {valid : CapacityBaseline.Arguments}
    (h : validateArgs args = .ok valid) :
    ∀ stage ∈ CapacityBaseline.stages valid, ∀ level ∈ stage,
      (PyDict.get? pathToEndpoint level.path).isSome = true := by
  intro stage hstage level hlevel
  obtain ⟨_, path, hpath, hpaths⟩ := CapacityReport.stage_concurrency hstage
  rw [hpaths level hlevel]
  unfold validateArgs at h
  split at h
  · cases h
  · split at h
    · cases h
    · split at h
      · cases h
      · split at h
        · cases h
        · rename_i hunsupported
          cases h
          apply unsupportedPaths_nil ?_ path hpath
          simpa using hunsupported

/-! A colon in a name, spaces, an underscore in a number and empty items. -/

theorem asciiDecimal_table : DecimalTable asciiDecimal := by
  constructor
  · intro c hc
    unfold asciiDecimal
    rw [if_pos hc]
  · intro c d hd
    unfold asciiDecimal at hd
    split at hd
    · rename_i hc
      have hrange : 48 ≤ c.toNat ∧ c.toNat ≤ 57 := by
        simpa [Char.isDigit, UInt32.le_iff_toNat_le] using hc
      cases hd
      omega
    · cases hd

def spelled : Text := " org/llama:7b : 1_0 ,phi:5,,".toList

def mix : MixedModels := [("org/llama:7b", ⟨10, by decide⟩), ("phi", ⟨5, by decide⟩)]

theorem mixedModels_roundtrip_colon :
    parseMixedModels asciiDecimal (mixedDescription mix) = .ok mix := by
  have haccepted : parseMixedModels asciiDecimal spelled = .ok mix := by decide +kernel
  obtain ⟨haccepts, hreads⟩ := mixedModels_roundtrip asciiDecimal_table
  obtain ⟨hne, hentries⟩ := haccepts spelled mix haccepted
  exact hreads mix hne hentries

end VllmSourceGateway.CapacityArguments
