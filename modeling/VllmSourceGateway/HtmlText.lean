import VllmSourceGateway.PyText

set_option autoImplicit false

/-! HTML text content: escaping, character references, and the characters that make
markup. -/
namespace VllmSourceGateway.HtmlText
open PyText

def escapeChar (c : Char) : Text :=
  if c = '&' then ['&', 'a', 'm', 'p', ';']
  else if c = '<' then ['&', 'l', 't', ';']
  else if c = '>' then ['&', 'g', 't', ';']
  else if c = '"' then ['&', 'q', 'u', 'o', 't', ';']
  else if c = '\'' then ['&', '#', 'x', '2', '7', ';']
  else [c]

/-- `html.escape` of a text, quotes included. -/
def escapeText (t : Text) : Text := t.flatMap escapeChar

def escape (s : String) : String := String.ofList (escapeText s.toList)

def isMarkup (c : Char) : Bool := c = '<' || c = '>' || c = '"'

def markup (s : String) : Text := s.toList.filter isMarkup

theorem markup_append (s t : String) : markup (s ++ t) = markup s ++ markup t := by
  rw [markup, String.toList_append, List.filter_append, markup, markup]

theorem escapeChar_plain (c : Char) : ∀ d ∈ escapeChar c, isMarkup d = false := by
  simp only [escapeChar]
  split_ifs with hamp hlt hgt hquot hapostrophe
  · simp [isMarkup]
  · simp [isMarkup]
  · simp [isMarkup]
  · simp [isMarkup]
  · simp [isMarkup]
  · intro d hd
    rw [List.mem_singleton.mp hd]
    simp only [isMarkup, hlt, hgt, hquot, decide_false, Bool.or_self]

theorem markup_escape (s : String) : markup (escape s) = [] := by
  rw [markup, escape, String.toList_ofList, List.filter_eq_nil_iff]
  intro d hd
  obtain ⟨c, _, hdc⟩ := List.mem_flatMap.mp hd
  rw [escapeChar_plain c d hdc]
  exact Bool.false_ne_true

theorem markup_intercalate (separator : String) (parts : List String) :
    markup (separator.intercalate parts) = (markup separator).intercalate (parts.map markup) := by
  induction parts with
  | nil => rw [String.intercalate_nil]; rfl
  | cons part parts ih =>
    cases parts with
    | nil => rw [String.intercalate_singleton, List.map_singleton, List.intercalate_singleton]
    | cons next parts =>
      rw [String.intercalate_cons_cons, markup_append, markup_append, ih]
      simp only [List.map_cons, List.intercalate_cons_cons]

theorem markup_join (parts : List String) :
    markup (String.join parts) = (parts.map markup).flatten := by
  induction parts with
  | nil => rw [String.join_nil]; rfl
  | cons part parts ih =>
    rw [String.join_cons, markup_append, ih, List.map_cons, List.flatten_cons]

/-- The references a reader of HTML knows: names without the ampersand, where a
semicolon can only come last, and numbers. -/
structure CharacterReferences where
  named : Text → Option Text
  numeric : ℕ → Text
  amp : named ['a', 'm', 'p', ';'] = some ['&']
  lt : named ['l', 't', ';'] = some ['<']
  gt : named ['g', 't', ';'] = some ['>']
  quot : named ['q', 'u', 'o', 't', ';'] = some ['"']
  semicolon : ∀ name, ';' ∈ name.dropLast → named name = none
  apostrophe : numeric 0x27 = ['\'']

/-- The longest name that starts with `name` and goes on in the text, with how much
of the text belongs to it. -/
def longestName (named : Text → Option Text) (name : Text) : Text → Option (Text × ℕ)
  | [] => (named name).map (·, 0)
  | c :: t =>
    match longestName named (name ++ [c]) t with
    | some (text, n) => some (text, n + 1)
    | none => (named name).map (·, 0)

def isHexDigit (c : Char) : Bool :=
  c.isDigit || ('a' ≤ c && c ≤ 'f') || ('A' ≤ c && c ≤ 'F')

def hexValue (digits : Text) : ℕ :=
  digits.foldl (fun n c => 16 * n + if c.isDigit then c.toNat - 48 else c.toLower.toNat - 87) 0

def numericReference (refs : CharacterReferences) (isDigit : Char → Bool) (value : Text → ℕ)
    (t : Text) : Option (Text × ℕ) :=
  let digits := t.takeWhile isDigit
  if digits = [] then none
  else
    let ended := if (t.drop digits.length).head? = some ';' then 1 else 0
    some (refs.numeric (value digits), digits.length + ended)

def reference (refs : CharacterReferences) : Text → Option (Text × ℕ)
  | '#' :: 'x' :: t => (numericReference refs isHexDigit hexValue t).map (Prod.map id (· + 2))
  | '#' :: 'X' :: t => (numericReference refs isHexDigit hexValue t).map (Prod.map id (· + 2))
  | '#' :: t =>
    (numericReference refs Char.isDigit (Nat.ofDigitChars 10 · 0) t).map (Prod.map id (· + 1))
  | t => longestName refs.named [] t

def unescapeFrom (refs : CharacterReferences) : ℕ → Text → Text
  | _, [] => []
  | n + 1, _ :: t => unescapeFrom refs n t
  | 0, c :: t =>
    if c = '&' then
      match reference refs t with
      | some (text, n) => text ++ unescapeFrom refs n t
      | none => c :: unescapeFrom refs 0 t
    else c :: unescapeFrom refs 0 t

def unescape (refs : CharacterReferences) (t : Text) : Text := unescapeFrom refs 0 t

section
variable (refs : CharacterReferences)

theorem unescapeFrom_drop (n : ℕ) (t : Text) : unescapeFrom refs n t = unescape refs (t.drop n) := by
  induction t generalizing n with
  | nil => cases n <;> rfl
  | cons c t ih =>
    cases n with
    | zero => rfl
    | succ n => exact ih n

theorem unescape_reference {name text : Text} (rest : Text)
    (h : reference refs (name ++ rest) = some (text, name.length)) :
    unescape refs ('&' :: name ++ rest) = text ++ unescape refs rest := by
  rw [unescape, List.cons_append, unescapeFrom, if_pos rfl, h]
  dsimp only
  rw [unescapeFrom_drop, List.drop_left]

/-- Nothing goes on behind a semicolon. -/
theorem longestName_ended {name : Text} (h : ';' ∈ name.dropLast) (t : Text) :
    longestName refs.named name t = none := by
  induction t generalizing name with
  | nil => rw [longestName, refs.semicolon name h, Option.map_none]
  | cons c t ih =>
    have hlonger : ';' ∈ (name ++ [c]).dropLast := by
      rw [List.dropLast_concat]
      exact List.dropLast_subset name h
    rw [longestName, ih hlonger, refs.semicolon name h, Option.map_none]

theorem longestName_name {name text : Text} (hnamed : refs.named name = some text)
    (hended : ';' ∈ name) (rest : Text) :
    longestName refs.named name rest = some (text, 0) := by
  cases rest with
  | nil => rw [longestName, hnamed, Option.map_some]
  | cons c rest =>
    have hlonger : ';' ∈ (name ++ [c]).dropLast := by rwa [List.dropLast_concat]
    rw [longestName, longestName_ended refs hlonger, hnamed, Option.map_some]

/-- The characters of a name are read one by one. -/
theorem longestName_append (before : Text) {name text : Text}
    (hnamed : refs.named (before ++ name) = some text) (hended : ';' ∈ before ++ name)
    (rest : Text) :
    longestName refs.named before (name ++ rest) = some (text, name.length) := by
  induction name generalizing before with
  | nil =>
    rw [List.append_nil] at hnamed hended
    exact longestName_name refs hnamed hended rest
  | cons c name ih =>
    have hsplit : before ++ c :: name = (before ++ [c]) ++ name := by simp
    rw [hsplit] at hnamed hended
    rw [List.cons_append, longestName, ih (before ++ [c]) hnamed hended, List.length_cons]

theorem reference_apostrophe (rest : Text) :
    reference refs (['#', 'x', '2', '7', ';'] ++ rest) = some (['\''], 5) := by
  have hnumeric : refs.numeric (hexValue ['2', '7']) = ['\''] := refs.apostrophe
  simp [reference, numericReference, isHexDigit, hnumeric]

theorem reference_name {name text : Text} (hnamed : refs.named name = some text)
    (hended : ';' ∈ name) (hname : name.head? ≠ some '#') (rest : Text) :
    reference refs (name ++ rest) = some (text, name.length) := by
  have hlongest : longestName refs.named [] (name ++ rest) = some (text, name.length) :=
    longestName_append refs [] hnamed hended rest
  cases name with
  | nil => cases hended
  | cons c name =>
    have hc : c ≠ '#' := fun hc => hname (by rw [hc]; rfl)
    rw [List.cons_append] at hlongest ⊢
    unfold reference
    split
    · rename_i heq
      exact absurd (List.cons.inj heq).1 hc
    · rename_i heq
      exact absurd (List.cons.inj heq).1 hc
    · rename_i heq
      exact absurd (List.cons.inj heq).1 hc
    · exact hlongest

/-- Reading an escaped character gives it back. -/
theorem unescape_escapeChar (c : Char) (rest : Text) :
    unescape refs (escapeChar c ++ rest) = c :: unescape refs rest := by
  have hnamed {name text : Text} (hname : refs.named name = some text) (hended : ';' ∈ name)
      (hstart : name.head? ≠ some '#') :
      unescape refs ('&' :: name ++ rest) = text ++ unescape refs rest :=
    unescape_reference refs rest (reference_name refs hname hended hstart rest)
  simp only [escapeChar]
  split_ifs with hamp hlt hgt hquot hapostrophe
  · subst hamp
    exact hnamed refs.amp (by decide) (by decide)
  · subst hlt
    exact hnamed refs.lt (by decide) (by decide)
  · subst hgt
    exact hnamed refs.gt (by decide) (by decide)
  · subst hquot
    exact hnamed refs.quot (by decide) (by decide)
  · subst hapostrophe
    exact unescape_reference refs rest (reference_apostrophe refs rest)
  · rw [List.singleton_append, unescape, unescapeFrom, if_neg hamp]
    rfl

theorem unescape_escape (t : Text) : unescape refs (escapeText t) = t := by
  induction t with
  | nil => rfl
  | cons c t ih =>
    rw [escapeText, List.flatMap_cons, unescape_escapeChar]
    exact congrArg (c :: ·) ih

end

end VllmSourceGateway.HtmlText
