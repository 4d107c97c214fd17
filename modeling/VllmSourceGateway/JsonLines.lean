import VllmSourceGateway.JsonText

set_option autoImplicit false

/-! Streams of JSON values, one on a line: how values that may hold floats are written
without blanks, and how a line and a stream are read. -/
namespace VllmSourceGateway.JsonLines
open PyText JsonText

/-- What numbers and the names of constants consist of. -/
def isScalarChar (c : Char) : Bool := c.isAlphanum || c = '-' || c = '+' || c = '.'

def isIntChar (c : Char) : Bool := c.isDigit || c = '-'

def nullText : Text := ['n', 'u', 'l', 'l']
def trueText : Text := ['t', 'r', 'u', 'e']
def falseText : Text := ['f', 'a', 'l', 's', 'e']

/-- A float as it is written, `NaN` and the infinities included: with a character that no
integer has. -/
structure FloatText where
  text : Text
  scalar : text.all isScalarChar = true
  fraction : text.all isIntChar = false
  constant : text ∉ [nullText, trueText, falseText]
  deriving DecidableEq

inductive Value where
  | null
  | bool (b : Bool)
  | int (n : ℤ)
  | float (x : FloatText)
  | str (s : String)
  | list (items : List Value)
  | dict (fields : List (String × Value))

mutual

/-- `json.dumps` with the separators `,` and `:`. -/
def dumps : Value → Text
  | .null => nullText
  | .bool true => trueText
  | .bool false => falseText
  | .int n => dumpsInt n
  | .float x => x.text
  | .str s => dumpsString s
  | .list [] => ['[', ']']
  | .list (item :: items) => '[' :: dumps item ++ dumpsItems items
  | .dict [] => ['\x7b', '\x7d']
  | .dict ((key, value) :: fields) =>
    '\x7b' :: dumpsString key ++ ':' :: dumps value ++ dumpsFields fields

def dumpsItems : List Value → Text
  | [] => [']']
  | item :: items => ',' :: dumps item ++ dumpsItems items

def dumpsFields : List (String × Value) → Text
  | [] => ['\x7d']
  | (key, value) :: fields => ',' :: dumpsString key ++ ':' :: dumps value ++ dumpsFields fields

end

def readScalar (t : Text) : Option (Value × Text) :=
  let token := t.takeWhile isScalarChar
  let rest := t.drop token.length
  if token = nullText then some (.null, rest)
  else if token = trueText then some (.bool true, rest)
  else if token = falseText then some (.bool false, rest)
  else if token.all isIntChar then (readInt token).map fun (n, _) => (.int n, rest)
  else if h : token.all isScalarChar = true ∧ token.all isIntChar = false ∧
      token ∉ [nullText, trueText, falseText] then
    some (.float ⟨token, h.1, h.2.1, h.2.2⟩, rest)
  else none

mutual

def readValue : ℕ → Text → Option (Value × Text)
  | 0, _ => none
  | _ + 1, [] => none
  | fuel + 1, c :: t =>
    if c = '"' then (readLiteralString t).map (Prod.map .str id)
    else if c = '[' then
      if t.head? = some ']' then some (.list [], t.tail)
      else (readItems fuel t).map (Prod.map .list id)
    else if c = '\x7b' then
      if t.head? = some '\x7d' then some (.dict [], t.tail)
      else (readFields fuel t).map (Prod.map .dict id)
    else readScalar (c :: t)

def readItems : ℕ → Text → Option (List Value × Text)
  | 0, _ => none
  | fuel + 1, t =>
    match readValue fuel t with
    | some (item, ',' :: t) => (readItems fuel t).map (Prod.map (item :: ·) id)
    | some (item, ']' :: t) => some ([item], t)
    | _ => none

def readFields : ℕ → Text → Option (List (String × Value) × Text)
  | fuel + 1, '"' :: t =>
    match readLiteralString t with
    | some (key, ':' :: t) =>
      match readValue fuel t with
      | some (value, ',' :: t) => (readFields fuel t).map (Prod.map ((key, value) :: ·) id)
      | some (value, '\x7d' :: t) => some ([(key, value)], t)
      | _ => none
    | _ => none
  | _, _ => none

end

def readLine (t : Text) : Option Value :=
  match readValue t.length t with
  | some (value, []) => some value
  | _ => none

def linesOf (t : Text) : List Text := (t.splitOn '\n').dropLast

def isPrintable (c : Char) : Bool := 0x20 ≤ c.toNat && c.toNat ≤ 0x7E

theorem all_cons_of {c : Char} {t : Text} (hc : isPrintable c = true)
    (ht : t.all isPrintable = true) : (c :: t).all isPrintable = true := by
  rw [List.all_cons, hc, ht]
  rfl

theorem digitChar_printable : ∀ d < 16, isPrintable (Nat.digitChar d) = true := by decide

theorem hex4_printable (n : ℕ) : (hex4 n).all isPrintable = true := by
  have hdigit (m : ℕ) : isPrintable (Nat.digitChar (m % 16)) = true :=
    digitChar_printable _ (Nat.mod_lt _ (by decide))
  simp [hex4, hdigit]

theorem escapeChar_printable (c : Char) : (escapeChar c).all isPrintable = true := by
  unfold escapeChar
  dsimp only
  split_ifs with hquote hbackslash hn hr ht hf hb hprintable hbasic
  · decide
  · decide
  · decide
  · decide
  · decide
  · decide
  · decide
  · simp [isPrintable, hprintable]
  · exact all_cons_of (by decide) (all_cons_of (by decide) (hex4_printable _))
  · rw [List.all_append, Bool.and_eq_true]
    exact ⟨all_cons_of (by decide) (all_cons_of (by decide) (hex4_printable _)),
      all_cons_of (by decide) (all_cons_of (by decide) (hex4_printable _))⟩

theorem dumpsString_printable (s : String) : (dumpsString s).all isPrintable = true := by
  have hescaped : (s.toList.flatMap escapeChar).all isPrintable = true := by
    rw [List.all_flatMap]
    exact List.all_eq_true.mpr fun c _ => escapeChar_printable c
  rw [dumpsString, List.all_append, all_cons_of (by decide) hescaped]
  decide

theorem isScalarChar_printable {c : Char} (h : isScalarChar c = true) : isPrintable c = true := by
  simp only [isScalarChar, Char.isAlphanum, Char.isAlpha, Char.isUpper, Char.isLower, Char.isDigit,
    Bool.or_eq_true, Bool.and_eq_true, decide_eq_true_eq, UInt32.le_iff_toNat_le, ge_iff_le] at h
  simp only [isPrintable, Bool.and_eq_true, decide_eq_true_eq]
  change (((((65 ≤ c.toNat ∧ c.toNat ≤ 90) ∨ (97 ≤ c.toNat ∧ c.toNat ≤ 122)) ∨
    (48 ≤ c.toNat ∧ c.toNat ≤ 57)) ∨ c = '-') ∨ c = '+') ∨ c = '.' at h
  rcases h with (((hletter | hdigit) | rfl) | rfl) | rfl
  · omega
  · omega
  · decide
  · decide
  · decide

theorem isIntChar_dumpsInt (n : ℤ) : (dumpsInt n).all isIntChar = true := by
  have hdigits (n : ℕ) : (Nat.toDigits 10 n).all isIntChar = true := by
    refine List.all_eq_true.mpr fun c hc => ?_
    have hdigit := Nat.isDigit_of_mem_toDigits (by decide) (by decide) hc
    simp [isIntChar, hdigit]
  cases n with
  | ofNat n => exact hdigits n
  | negSucc n =>
    rw [dumpsInt, List.all_cons, hdigits]
    decide

theorem isScalarChar_of_int {c : Char} (h : isIntChar c = true) : isScalarChar c = true := by
  simp only [isIntChar, Bool.or_eq_true] at h
  simp only [isScalarChar, Char.isAlphanum, Bool.or_eq_true]
  tauto

theorem scalars_printable {t : Text} (h : t.all isScalarChar = true) :
    t.all isPrintable = true :=
  List.all_eq_true.mpr fun c hc => isScalarChar_printable (List.all_eq_true.mp h c hc)

theorem scalars_of_ints {t : Text} (h : t.all isIntChar = true) : t.all isScalarChar = true :=
  List.all_eq_true.mpr fun c hc => isScalarChar_of_int (List.all_eq_true.mp h c hc)

mutual

theorem dumps_printable : ∀ value : Value, (dumps value).all isPrintable = true
  | .null => by decide
  | .bool true => by decide
  | .bool false => by decide
  | .int n => scalars_printable (scalars_of_ints (isIntChar_dumpsInt n))
  | .float x => scalars_printable x.scalar
  | .str s => dumpsString_printable s
  | .list [] => by decide
  | .list (item :: items) => by
    rw [dumps, List.all_append, all_cons_of (by decide) (dumps_printable item),
      dumpsItems_printable items]
    rfl
  | .dict [] => by decide
  | .dict ((key, value) :: fields) => by
    have hvalue := all_cons_of (c := ':') (by decide) (dumps_printable value)
    rw [dumps, List.all_append, List.all_append, all_cons_of (by decide) (dumpsString_printable key),
      hvalue, dumpsFields_printable fields]
    rfl

theorem dumpsItems_printable : ∀ items : List Value, (dumpsItems items).all isPrintable = true
  | [] => by decide
  | item :: items => by
    rw [dumpsItems, List.all_append, all_cons_of (by decide) (dumps_printable item),
      dumpsItems_printable items]
    rfl

theorem dumpsFields_printable :
    ∀ fields : List (String × Value), (dumpsFields fields).all isPrintable = true
  | [] => by decide
  | (key, value) :: fields => by
    have hvalue := all_cons_of (c := ':') (by decide) (dumps_printable value)
    rw [dumpsFields, List.all_append, List.all_append,
      all_cons_of (by decide) (dumpsString_printable key), hvalue, dumpsFields_printable fields]
    rfl

end

theorem newline_not_mem_dumps (value : Value) : '\n' ∉ dumps value := fun hmem =>
  absurd (List.all_eq_true.mp (dumps_printable value) _ hmem) (by decide)

/-- Lines without newlines that are ended one by one are the lines of the text. -/
theorem linesOf_flatMap {lines : List Text} (h : ∀ line ∈ lines, '\n' ∉ line) :
    linesOf (lines.flatMap fun line => line ++ ['\n']) = lines := by
  have hsplit : (lines.flatMap fun line => line ++ ['\n']).splitOn '\n' = lines ++ [[]] := by
    induction lines with
    | nil => rfl
    | cons line lines ih =>
      obtain ⟨hline, hlines⟩ := List.forall_mem_cons.mp h
      rw [List.flatMap_cons, List.append_assoc, List.singleton_append,
        List.splitOn_append_cons_self_of_not_mem hline, ih hlines]
      rfl
  rw [linesOf, hsplit, List.dropLast_concat]

/-- The text that follows does not go on with a number or a constant. -/
def EndsScalar (rest : Text) : Prop := ∀ c ∈ rest.head?, isScalarChar c = false

theorem takeWhile_scalar {token rest : Text} (htoken : token.all isScalarChar = true)
    (hrest : EndsScalar rest) : (token ++ rest).takeWhile isScalarChar = token := by
  rw [List.takeWhile_append_of_pos fun c hc => List.all_eq_true.mp htoken c hc]
  cases rest with
  | nil => exact List.append_nil _
  | cons c rest =>
    rw [List.takeWhile_cons_of_neg (by simp [hrest c rfl]), List.append_nil]

/-- What `readScalar` makes of a token. -/
theorem readScalar_token {token rest : Text} (htoken : token.all isScalarChar = true)
    (hrest : EndsScalar rest) : readScalar (token ++ rest) =
      if token = nullText then some (.null, rest)
      else if token = trueText then some (.bool true, rest)
      else if token = falseText then some (.bool false, rest)
      else if token.all isIntChar then (readInt token).map fun (n, _) => (.int n, rest)
      else if h : token.all isScalarChar = true ∧ token.all isIntChar = false ∧
          token ∉ [nullText, trueText, falseText] then
        some (.float ⟨token, h.1, h.2.1, h.2.2⟩, rest)
      else none := by
  have hdrop : (token ++ rest).drop token.length = rest := List.drop_left
  simp only [readScalar, takeWhile_scalar htoken hrest, hdrop]

theorem readScalar_int (n : ℤ) {rest : Text} (hrest : EndsScalar rest) :
    readScalar (dumpsInt n ++ rest) = some (.int n, rest) := by
  have hint := isIntChar_dumpsInt n
  have hne {constant : Text} (hconstant : constant.all isIntChar = false) :
      dumpsInt n ≠ constant := by
    rintro rfl
    cases hint.symm.trans hconstant
  have hnothing : NoDigit [] := fun _ hc => by cases hc
  have hread := readInt_dumpsInt n hnothing
  rw [List.append_nil] at hread
  rw [readScalar_token (scalars_of_ints hint) hrest, if_neg (hne (by decide)),
    if_neg (hne (by decide)), if_neg (hne (by decide)), if_pos hint, hread]
  rfl

theorem readScalar_float (x : FloatText) {rest : Text} (hrest : EndsScalar rest) :
    readScalar (x.text ++ rest) = some (.float x, rest) := by
  have hconstant := x.constant
  simp only [List.mem_cons, List.not_mem_nil, or_false, not_or] at hconstant
  obtain ⟨hnull, htrue, hfalse⟩ := hconstant
  rw [readScalar_token x.scalar hrest, if_neg hnull, if_neg htrue, if_neg hfalse,
    if_neg (by simp [x.fraction]), dif_pos ⟨x.scalar, x.fraction, x.constant⟩]

theorem ends_dumpsItems (items : List Value) (rest : Text) :
    EndsScalar (dumpsItems items ++ rest) := by
  intro c hc
  cases items <;> cases hc <;> decide

theorem ends_dumpsFields (fields : List (String × Value)) (rest : Text) :
    EndsScalar (dumpsFields fields ++ rest) := by
  intro c hc
  rcases fields with _ | ⟨⟨key, value⟩, fields⟩ <;> cases hc <;> decide

/-- A number starts like no other value and like no end of a list. -/
theorem scalar_start {token : Text} (htoken : token.all isScalarChar = true) (hsome : token ≠ []) :
    ∃ c t, token = c :: t ∧ c ≠ '"' ∧ c ≠ '[' ∧ c ≠ '\x7b' ∧ c ≠ ']' := by
  obtain ⟨c, t, rfl⟩ := List.exists_cons_of_ne_nil hsome
  have hc : isScalarChar c = true := List.all_eq_true.mp htoken c List.mem_cons_self
  have hne {d : Char} (hd : isScalarChar d = false) : c ≠ d := by
    rintro rfl
    cases hd.symm.trans hc
  exact ⟨c, t, rfl, hne (by decide), hne (by decide), hne (by decide), hne (by decide)⟩

theorem FloatText.ne_nil (x : FloatText) : x.text ≠ [] := fun hnil => by
  have hfraction := x.fraction
  rw [hnil] at hfraction
  cases hfraction

theorem dumpsInt_ne_nil (n : ℤ) : dumpsInt n ≠ [] := by
  obtain ⟨c, t, heq, _⟩ := dumpsInt_start n
  rw [heq]
  exact List.cons_ne_nil c t

/-- Every value is some text, and none starts with what closes a list. -/
theorem dumps_start (value : Value) : ∃ c t, dumps value = c :: t ∧ c ≠ ']' := by
  rcases value with _ | b | n | x | s | items | fields
  · exact ⟨_, _, rfl, by decide⟩
  · cases b <;> exact ⟨_, _, rfl, by decide⟩
  · obtain ⟨c, t, heq, _, _, _, hclose⟩ :=
      scalar_start (scalars_of_ints (isIntChar_dumpsInt n)) (dumpsInt_ne_nil n)
    exact ⟨c, t, heq, hclose⟩
  · obtain ⟨c, t, heq, _, _, _, hclose⟩ := scalar_start x.scalar x.ne_nil
    exact ⟨c, t, heq, hclose⟩
  · exact ⟨_, _, rfl, by decide⟩
  · cases items <;> exact ⟨_, _, rfl, by decide⟩
  · rcases fields with _ | ⟨⟨key, value⟩, fields⟩ <;> exact ⟨_, _, rfl, by decide⟩

/-- Where a scalar starts, the reader reads a scalar. -/
theorem readValue_scalar {token : Text} (htoken : token.all isScalarChar = true)
    (hsome : token ≠ []) (fuel : ℕ) (rest : Text) :
    readValue (fuel + 1) (token ++ rest) = readScalar (token ++ rest) := by
  obtain ⟨c, t, rfl, hquote, hlist, hdict, _⟩ := scalar_start htoken hsome
  rw [List.cons_append, readValue, if_neg hquote, if_neg hlist, if_neg hdict]

/-- What a reader with this much fuel reads. -/
structure Reads (fuel : ℕ) : Prop where
  value : ∀ (value : Value) (rest : Text), (dumps value).length ≤ fuel → EndsScalar rest →
    readValue fuel (dumps value ++ rest) = some (value, rest)
  items : ∀ (item : Value) (items : List Value) (rest : Text),
    (dumps item ++ dumpsItems items).length ≤ fuel →
    readItems fuel (dumps item ++ (dumpsItems items ++ rest)) = some (item :: items, rest)
  fields : ∀ (key : String) (value : Value) (fields : List (String × Value)) (rest : Text),
    (dumpsString key ++ ':' :: dumps value ++ dumpsFields fields).length ≤ fuel →
    readFields fuel (dumpsString key ++ ':' :: (dumps value ++ (dumpsFields fields ++ rest))) =
      some ((key, value) :: fields, rest)

theorem Reads.zero : Reads 0 where
  value value rest hlength _ := by
    obtain ⟨c, t, heq, _⟩ := dumps_start value
    rw [heq] at hlength
    exact absurd hlength (Nat.not_succ_le_zero _)
  items item items rest hlength := by
    obtain ⟨c, t, heq, _⟩ := dumps_start item
    rw [heq] at hlength
    exact absurd hlength (Nat.not_succ_le_zero _)
  fields key value fields rest hlength := absurd hlength (Nat.not_succ_le_zero _)

section
variable {fuel : ℕ} (h : Reads fuel)
include h

theorem Reads.list_succ (items : List Value) (rest : Text)
    (hlength : (dumps (.list items)).length ≤ fuel + 1) :
    readValue (fuel + 1) (dumps (.list items) ++ rest) = some (.list items, rest) := by
  cases items with
  | nil => rfl
  | cons item items =>
    rw [dumps, List.length_append, List.length_cons] at hlength
    have hitems := h.items item items rest (by rw [List.length_append]; omega)
    obtain ⟨c, t, hstart, hclose⟩ := dumps_start item
    have hopen : (dumps item ++ (dumpsItems items ++ rest)).head? ≠ some ']' := by
      simp [hstart, hclose]
    rw [dumps, List.cons_append, List.cons_append, List.append_assoc, readValue, if_neg (by decide),
      if_pos rfl, if_neg hopen, hitems]
    rfl

theorem Reads.dict_succ (fields : List (String × Value)) (rest : Text)
    (hlength : (dumps (.dict fields)).length ≤ fuel + 1) :
    readValue (fuel + 1) (dumps (.dict fields) ++ rest) = some (.dict fields, rest) := by
  rcases fields with _ | ⟨⟨key, value⟩, fields⟩
  · rfl
  · have hfields := h.fields key value fields rest (by
      simp only [dumps, List.length_append, List.length_cons] at hlength ⊢
      omega)
    have hopen (t : Text) : (dumpsString key ++ t).head? ≠ some '\x7d' := by
      simp [dumpsString]
    simp only [dumps, List.cons_append, List.append_assoc] at hfields ⊢
    rw [readValue, if_neg (by decide), if_neg (by decide), if_pos rfl, if_neg (hopen _)]
    exact congrArg (Option.map (Prod.map Value.dict id)) hfields

theorem Reads.value_succ (value : Value) (rest : Text) (hlength : (dumps value).length ≤ fuel + 1)
    (hrest : EndsScalar rest) :
    readValue (fuel + 1) (dumps value ++ rest) = some (value, rest) := by
  rcases value with _ | b | n | x | s | items | fields
  · rw [dumps, readValue_scalar (by decide) (by decide), readScalar_token (by decide) hrest]
    rfl
  · cases b
    all_goals
      rw [dumps, readValue_scalar (by decide) (by decide), readScalar_token (by decide) hrest]
      rfl
  · rw [dumps, readValue_scalar (scalars_of_ints (isIntChar_dumpsInt n)) (dumpsInt_ne_nil n),
      readScalar_int n hrest]
  · rw [dumps, readValue_scalar x.scalar x.ne_nil, readScalar_float x hrest]
  · rw [dumps, dumpsString, List.append_assoc, List.cons_append, readValue, if_pos rfl,
      List.singleton_append, readLiteralString_dumpsString]
    rfl
  · exact h.list_succ items rest hlength
  · exact h.dict_succ fields rest hlength

theorem Reads.items_succ (item : Value) (items : List Value) (rest : Text)
    (hlength : (dumps item ++ dumpsItems items).length ≤ fuel + 1) :
    readItems (fuel + 1) (dumps item ++ (dumpsItems items ++ rest)) =
      some (item :: items, rest) := by
  have hnext : 0 < (dumpsItems items).length := by cases items <;> exact Nat.succ_pos _
  rw [List.length_append] at hlength
  rw [readItems, h.value item _ (by omega) (ends_dumpsItems items rest)]
  cases items with
  | nil => rfl
  | cons next items =>
    simp only [dumpsItems, List.length_append, List.length_cons] at hlength
    have hitems := h.items next items rest (by rw [List.length_append]; omega)
    change (readItems fuel (dumps next ++ dumpsItems items ++ rest)).map
      (Prod.map (item :: ·) id) = _
    rw [List.append_assoc, hitems]
    rfl

theorem Reads.fields_succ (key : String) (value : Value) (fields : List (String × Value))
    (rest : Text)
    (hlength : (dumpsString key ++ ':' :: dumps value ++ dumpsFields fields).length ≤ fuel + 1) :
    readFields (fuel + 1) (dumpsString key ++ ':' :: (dumps value ++
      (dumpsFields fields ++ rest))) = some ((key, value) :: fields, rest) := by
  have hnext : 0 < (dumpsFields fields).length := by
    rcases fields with _ | ⟨⟨key, value⟩, fields⟩ <;> exact Nat.succ_pos _
  simp only [List.length_append, List.length_cons] at hlength
  rw [dumpsString, List.cons_append, List.cons_append, List.append_assoc, List.singleton_append,
    readFields, readLiteralString_dumpsString]
  change (match readValue fuel (dumps value ++ (dumpsFields fields ++ rest)) with
    | some (value, ',' :: t) => (readFields fuel t).map (Prod.map ((key, value) :: ·) id)
    | some (value, '\x7d' :: t) => some ([(key, value)], t)
    | _ => none) = _
  rw [h.value value _ (by omega) (ends_dumpsFields fields rest)]
  rcases fields with _ | ⟨⟨next, nextValue⟩, fields⟩
  · rfl
  · simp only [dumpsFields, List.length_append, List.length_cons] at hlength
    have hfields := h.fields next nextValue fields rest (by
      simp only [List.length_append, List.length_cons]
      omega)
    change (readFields fuel (dumpsString next ++ ':' :: dumps nextValue ++
      dumpsFields fields ++ rest)).map (Prod.map ((key, value) :: ·) id) = _
    simp only [List.append_assoc, List.cons_append] at hfields ⊢
    rw [hfields]
    rfl

theorem Reads.succ : Reads (fuel + 1) := ⟨h.value_succ, h.items_succ, h.fields_succ⟩

end

theorem reads (fuel : ℕ) : Reads fuel := by
  induction fuel with
  | zero => exact .zero
  | succ fuel ih => exact ih.succ

theorem readLine_dumps (value : Value) : readLine (dumps value) = some value := by
  have hread := (reads (dumps value).length).value value [] (le_refl _) fun _ hc => by cases hc
  rw [List.append_nil] at hread
  rw [readLine, hread]

end VllmSourceGateway.JsonLines
