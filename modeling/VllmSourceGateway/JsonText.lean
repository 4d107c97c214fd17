import VllmSourceGateway.PyText

set_option autoImplicit false

/-! The text of JSON documents whose numbers are integers: how it is written, with
everything outside printable ASCII escaped, and how it is read. -/
namespace VllmSourceGateway.JsonText
open PyText

inductive Document where
  | null
  | bool (b : Bool)
  | int (n : ℤ)
  | str (s : String)
  | arr (items : List Document)
  | obj (fields : List (String × Document))

def hex4 (n : ℕ) : Text :=
  [Nat.digitChar (n / 0x1000 % 16), Nat.digitChar (n / 0x100 % 16), Nat.digitChar (n / 0x10 % 16),
    Nat.digitChar (n % 16)]

/-- A character in a string literal; those beyond the basic plane take two escapes. -/
def escapeChar (c : Char) : Text :=
  let n := c.toNat
  if c = '"' then ['\\', '"']
  else if c = '\\' then ['\\', '\\']
  else if c = '\n' then ['\\', 'n']
  else if c = '\r' then ['\\', 'r']
  else if c = '\t' then ['\\', 't']
  else if n = 0x0C then ['\\', 'f']
  else if n = 0x08 then ['\\', 'b']
  else if 0x20 ≤ n ∧ n ≤ 0x7E then [c]
  else if n < 0x10000 then '\\' :: 'u' :: hex4 n
  else
    '\\' :: 'u' :: hex4 (0xD800 + (n - 0x10000) / 0x400) ++
      '\\' :: 'u' :: hex4 (0xDC00 + (n - 0x10000) % 0x400)

def dumpsString (s : String) : Text := '"' :: s.toList.flatMap escapeChar ++ ['"']

def dumpsInt : ℤ → Text
  | .ofNat n => Nat.toDigits 10 n
  | .negSucc n => '-' :: Nat.toDigits 10 (n + 1)

mutual

/-- `json.dumps` with its default separators. -/
def dumps : Document → Text
  | .null => ['n', 'u', 'l', 'l']
  | .bool true => ['t', 'r', 'u', 'e']
  | .bool false => ['f', 'a', 'l', 's', 'e']
  | .int n => dumpsInt n
  | .str s => dumpsString s
  | .arr [] => ['[', ']']
  | .arr (item :: items) => '[' :: dumps item ++ dumpsItems items
  | .obj [] => ['\x7b', '\x7d']
  | .obj ((key, value) :: fields) =>
    '\x7b' :: dumpsString key ++ ':' :: ' ' :: dumps value ++ dumpsFields fields

def dumpsItems : List Document → Text
  | [] => [']']
  | item :: items => ',' :: ' ' :: dumps item ++ dumpsItems items

def dumpsFields : List (String × Document) → Text
  | [] => ['\x7d']
  | (key, value) :: fields =>
    ',' :: ' ' :: dumpsString key ++ ':' :: ' ' :: dumps value ++ dumpsFields fields

end

def hexValue? (c : Char) : Option ℕ :=
  if c.isDigit then some (c.toNat - 48)
  else if 'a' ≤ c ∧ c ≤ 'f' then some (c.toNat - 87)
  else if 'A' ≤ c ∧ c ≤ 'F' then some (c.toNat - 55)
  else none

def readHex4 : Text → Option (ℕ × Text)
  | a :: b :: c :: d :: t =>
    match hexValue? a, hexValue? b, hexValue? c, hexValue? d with
    | some a, some b, some c, some d => some (0x1000 * a + 0x100 * b + 0x10 * c + d, t)
    | _, _, _, _ => none
  | _ => none

def charOf? (n : ℕ) : Option Char := if n.isValidChar then some (Char.ofNat n) else none

/-- What `\u` stands for: a character, or with a second escape one beyond the basic
plane. A surrogate on its own is no character. -/
def readUnicode (t : Text) : Option (Char × Text) :=
  match readHex4 t with
  | none => none
  | some (n, t) =>
    if 0xD800 ≤ n ∧ n ≤ 0xDBFF then
      match t with
      | '\\' :: 'u' :: t =>
        match readHex4 t with
        | none => none
        | some (m, t) =>
          if 0xDC00 ≤ m ∧ m ≤ 0xDFFF then
            (charOf? (0x10000 + (n - 0xD800) * 0x400 + (m - 0xDC00))).map (·, t)
          else none
      | _ => none
    else (charOf? n).map (·, t)

def unescapeChar : Char → Option Char
  | '"' => some '"'
  | '\\' => some '\\'
  | '/' => some '/'
  | 'b' => some (Char.ofNat 0x08)
  | 'f' => some (Char.ofNat 0x0C)
  | 'n' => some '\n'
  | 'r' => some '\r'
  | 't' => some '\t'
  | _ => none

def readChar : Text → Option (Char × Text)
  | '\\' :: 'u' :: t => readUnicode t
  | '\\' :: c :: t => (unescapeChar c).map (·, t)
  | '\\' :: [] => none
  | c :: t => if c.toNat < 0x20 then none else some (c, t)
  | [] => none

def readString : ℕ → Text → Option (Text × Text)
  | 0, _ => none
  | _ + 1, '"' :: t => some ([], t)
  | fuel + 1, t =>
    match readChar t with
    | none => none
    | some (c, t) => (readString fuel t).map (Prod.map (c :: ·) id)

/-! ### What is written is read -/

theorem hexValue?_digitChar : ∀ d < 16, hexValue? (Nat.digitChar d) = some d := by decide

theorem readHex4_hex4 {n : ℕ} (hn : n < 0x10000) (rest : Text) :
    readHex4 (hex4 n ++ rest) = some (n, rest) := by
  simp only [hex4, List.cons_append, List.nil_append, readHex4,
    hexValue?_digitChar _ (Nat.mod_lt _ (by decide : 0 < 16)), Option.some.injEq, Prod.mk.injEq,
    and_true]
  omega

theorem charOf?_toNat (c : Char) : charOf? c.toNat = some c := by
  have hvalid : c.toNat.isValidChar := c.valid
  rw [charOf?, if_pos hvalid, Char.ofNat_toNat]

theorem readUnicode_basic {c : Char} (hc : c.toNat < 0x10000) (rest : Text) :
    readUnicode (hex4 c.toNat ++ rest) = some (c, rest) := by
  have hsurrogate : ¬ (0xD800 ≤ c.toNat ∧ c.toNat ≤ 0xDBFF) := by
    rintro ⟨hge, hle⟩
    have hvalid : c.toNat.isValidChar := c.valid
    rcases hvalid with hlow | ⟨hhigh, _⟩ <;> omega
  rw [readUnicode, readHex4_hex4 hc]
  simp only [if_neg hsurrogate, charOf?_toNat, Option.map_some]

theorem readUnicode_pair {c : Char} (hc : 0x10000 ≤ c.toNat) (rest : Text) :
    readUnicode (hex4 (0xD800 + (c.toNat - 0x10000) / 0x400) ++
      '\\' :: 'u' :: (hex4 (0xDC00 + (c.toNat - 0x10000) % 0x400) ++ rest)) = some (c, rest) := by
  have hbound : c.toNat < 0x110000 := by
    have hvalid : c.toNat.isValidChar := c.valid
    rcases hvalid with hlow | ⟨_, hhigh⟩ <;> omega
  have hhigh : 0xD800 ≤ 0xD800 + (c.toNat - 0x10000) / 0x400 ∧
      0xD800 + (c.toNat - 0x10000) / 0x400 ≤ 0xDBFF := by omega
  have hlow : 0xDC00 ≤ 0xDC00 + (c.toNat - 0x10000) % 0x400 ∧
      0xDC00 + (c.toNat - 0x10000) % 0x400 ≤ 0xDFFF := by omega
  have hsum : 0x10000 + (0xD800 + (c.toNat - 0x10000) / 0x400 - 0xD800) * 0x400 +
      (0xDC00 + (c.toNat - 0x10000) % 0x400 - 0xDC00) = c.toNat := by omega
  rw [readUnicode, readHex4_hex4 (by omega)]
  simp only [if_pos hhigh]
  rw [readHex4_hex4 (by omega)]
  simp only [if_pos hlow, hsum, charOf?_toNat, Option.map_some]

theorem readChar_plain {c : Char} (hbackslash : c ≠ '\\') (hc : 0x20 ≤ c.toNat) (rest : Text) :
    readChar (c :: rest) = some (c, rest) := by
  unfold readChar
  split
  · rename_i heq
    exact absurd (List.cons.inj heq).1 hbackslash
  · rename_i heq
    exact absurd (List.cons.inj heq).1 hbackslash
  · rename_i heq
    exact absurd (List.cons.inj heq).1 hbackslash
  · rename_i heq
    cases heq
    rw [if_neg (not_lt.mpr hc)]
  · rename_i heq
    cases heq

theorem readChar_unicode (t : Text) : readChar ('\\' :: 'u' :: t) = readUnicode t := rfl

theorem readChar_escapeChar (c : Char) (rest : Text) :
    readChar (escapeChar c ++ rest) = some (c, rest) := by
  simp only [escapeChar]
  split_ifs with hquote hbackslash hn hr ht hf hb hprintable hbasic
  · rw [hquote]
    rfl
  · rw [hbackslash]
    rfl
  · rw [hn]
    rfl
  · rw [hr]
    rfl
  · rw [ht]
    rfl
  · rw [← Char.ofNat_toNat c, hf]
    rfl
  · rw [← Char.ofNat_toNat c, hb]
    rfl
  · exact readChar_plain hbackslash hprintable.1 rest
  · rw [List.cons_append, List.cons_append, readChar_unicode, readUnicode_basic hbasic]
  · simp only [List.cons_append, List.append_assoc]
    rw [readChar_unicode, readUnicode_pair (not_lt.mp hbasic)]

/-- An escaped character does not close the literal. -/
theorem escapeChar_head (c : Char) (rest : Text) : (escapeChar c ++ rest).head? ≠ some '"' := by
  simp only [escapeChar]
  split_ifs with hquote <;> simp [*]

theorem readString_escaped (s rest : Text) (fuel : ℕ) (hfuel : s.length < fuel) :
    readString fuel (s.flatMap escapeChar ++ '"' :: rest) = some (s, rest) := by
  induction s generalizing fuel with
  | nil =>
    cases fuel with
    | zero => exact absurd hfuel (Nat.not_lt_zero _)
    | succ fuel => rfl
  | cons c s ih =>
    cases fuel with
    | zero => exact absurd hfuel (Nat.not_lt_zero _)
    | succ fuel =>
      rw [List.flatMap_cons, List.append_assoc]
      have hhead := escapeChar_head c (s.flatMap escapeChar ++ '"' :: rest)
      have hread := readChar_escapeChar c (s.flatMap escapeChar ++ '"' :: rest)
      generalize escapeChar c ++ (s.flatMap escapeChar ++ '"' :: rest) = t at hhead hread ⊢
      unfold readString
      split
      · rename_i heq
        cases heq
      · exact absurd rfl hhead
      · rename_i heq _
        cases heq
        rw [hread]
        simp only [ih fuel (by simpa using hfuel), Option.map_some, Prod.map_apply, id]

theorem length_le_escaped (s : Text) : s.length ≤ (s.flatMap escapeChar).length := by
  induction s with
  | nil => exact le_refl 0
  | cons c s ih =>
    have hpos : 0 < (escapeChar c).length := by
      simp only [escapeChar]
      split_ifs <;> simp
    rw [List.flatMap_cons, List.length_append, List.length_cons]
    omega

def readNat : Text → Option (ℕ × Text)
  | '0' :: t => some (0, t)
  | t =>
    let digits := t.takeWhile Char.isDigit
    if digits = [] then none else some (Nat.ofDigitChars 10 digits 0, t.drop digits.length)

def readInt : Text → Option (ℤ × Text)
  | '-' :: t => (readNat t).map fun (n, t) => (-(n : ℤ), t)
  | t => (readNat t).map fun (n, t) => ((n : ℤ), t)

/-- The text that follows does not go on with a number. -/
def NoDigit (rest : Text) : Prop := ∀ c ∈ rest.head?, c.isDigit = false

theorem toDigits_head {n : ℕ} (hn : 0 < n) : (Nat.toDigits 10 n).head? ≠ some '0' := by
  induction n using Nat.strong_induction_on with
  | _ n ih =>
    rw [Nat.toDigits_eq_if (by decide)]
    split
    · rename_i hlt
      have hdigits : ∀ d < 10, 0 < d → Nat.digitChar d ≠ '0' := by decide
      rw [List.head?_cons, ne_eq, Option.some.injEq]
      exact hdigits n hlt hn
    · rw [List.head?_append_of_ne_nil _ Nat.toDigits_ne_nil]
      exact ih (n / 10) (by omega) (by omega)

theorem takeWhile_digits {digits rest : Text} (hdigits : ∀ c ∈ digits, c.isDigit = true)
    (hrest : NoDigit rest) : (digits ++ rest).takeWhile Char.isDigit = digits := by
  rw [List.takeWhile_append_of_pos hdigits]
  cases rest with
  | nil => simp
  | cons c rest =>
    rw [List.takeWhile_cons_of_neg (by rw [hrest c rfl]; exact Bool.false_ne_true),
      List.append_nil]

theorem readNat_toDigits (n : ℕ) {rest : Text} (hrest : NoDigit rest) :
    readNat (Nat.toDigits 10 n ++ rest) = some (n, rest) := by
  rcases Nat.eq_zero_or_pos n with rfl | hpos
  · rw [Nat.toDigits_zero]
    rfl
  · have hdigits : ∀ c ∈ Nat.toDigits 10 n, c.isDigit = true := fun c hc =>
      Nat.isDigit_of_mem_toDigits (by decide) (by decide) hc
    have htake := takeWhile_digits hdigits hrest
    have hhead := toDigits_head hpos
    have hvalue : Nat.ofDigitChars 10 (Nat.toDigits 10 n) 0 = n := Nat.ofDigitChars_ten_toDigits
    have hne : Nat.toDigits 10 n ≠ [] := Nat.toDigits_ne_nil
    unfold readNat
    split
    · rename_i t heq
      have happend : (Nat.toDigits 10 n ++ rest).head? = (Nat.toDigits 10 n).head? :=
        List.head?_append_of_ne_nil _ hne
      rw [← happend, heq] at hhead
      exact absurd rfl hhead
    · simp only [htake, if_neg hne, hvalue, List.drop_left]

theorem readInt_dumpsInt (n : ℤ) {rest : Text} (hrest : NoDigit rest) :
    readInt (dumpsInt n ++ rest) = some (n, rest) := by
  cases n with
  | ofNat n =>
    have hread := readNat_toDigits n hrest
    have hdigits : ∀ c ∈ Nat.toDigits 10 n, c.isDigit = true := fun c hc =>
      Nat.isDigit_of_mem_toDigits (by decide) (by decide) hc
    rw [dumpsInt]
    unfold readInt
    split
    · rename_i t heq
      have hne : Nat.toDigits 10 n ≠ [] := Nat.toDigits_ne_nil
      have happend : (Nat.toDigits 10 n ++ rest).head? = (Nat.toDigits 10 n).head? :=
        List.head?_append_of_ne_nil _ hne
      have hhead : (Nat.toDigits 10 n).head? = some '-' := by
        rw [← happend, heq, List.head?_cons]
      exact absurd (hdigits '-' (List.mem_of_mem_head? hhead)) (by decide)
    · rw [hread]
      rfl
  | negSucc n =>
    rw [dumpsInt, List.cons_append, readInt, readNat_toDigits _ hrest]
    rfl

def isJsonSpace (c : Char) : Bool := c = ' ' || c = '\t' || c = '\n' || c = '\r'

def skipSpace (t : Text) : Text := t.dropWhile isJsonSpace

def readLiteral (document : Document) (literal t : Text) : Option (Document × Text) :=
  (afterPrefix? literal t).map (document, ·)

/-- A string literal after its opening quote, as long as the text goes on. -/
def readLiteralString (t : Text) : Option (String × Text) :=
  (readString t.length t).map (Prod.map String.ofList id)

mutual

def readValue : ℕ → Text → Option (Document × Text)
  | 0, _ => none
  | _ + 1, [] => none
  | fuel + 1, c :: t =>
    if c = '"' then (readLiteralString t).map (Prod.map .str id)
    else if c = '[' then
      match skipSpace t with
      | ']' :: t => some (.arr [], t)
      | t => (readItems fuel t).map (Prod.map .arr id)
    else if c = '\x7b' then
      match skipSpace t with
      | '\x7d' :: t => some (.obj [], t)
      | t => (readFields fuel t).map (Prod.map .obj id)
    else if c = 'n' then readLiteral .null ['u', 'l', 'l'] t
    else if c = 't' then readLiteral (.bool true) ['r', 'u', 'e'] t
    else if c = 'f' then readLiteral (.bool false) ['a', 'l', 's', 'e'] t
    else (readInt (c :: t)).map (Prod.map .int id)

def readItems : ℕ → Text → Option (List Document × Text)
  | 0, _ => none
  | fuel + 1, t =>
    match readValue fuel t with
    | none => none
    | some (item, t) =>
      match skipSpace t with
      | ',' :: t => (readItems fuel (skipSpace t)).map (Prod.map (item :: ·) id)
      | ']' :: t => some ([item], t)
      | _ => none

def readFields : ℕ → Text → Option (List (String × Document) × Text)
  | fuel + 1, '"' :: t =>
    match readLiteralString t with
    | none => none
    | some (key, t) =>
      match skipSpace t with
      | ':' :: t =>
        match readValue fuel (skipSpace t) with
        | none => none
        | some (value, t) =>
          match skipSpace t with
          | ',' :: t => (readFields fuel (skipSpace t)).map (Prod.map ((key, value) :: ·) id)
          | '\x7d' :: t => some ([(key, value)], t)
          | _ => none
      | _ => none
  | _, _ => none

end

/-- `json.loads` of a text without fractions, with the fields in the order of the
text. -/
def loads (t : Text) : Option Document :=
  match readValue t.length (skipSpace t) with
  | some (document, rest) => if skipSpace rest = [] then some document else none
  | none => none

/-! ### What is written is read -/

theorem readLiteralString_dumpsString (s : String) (rest : Text) :
    readLiteralString (s.toList.flatMap escapeChar ++ '"' :: rest) = some (s, rest) := by
  have hlength := length_le_escaped s.toList
  rw [readLiteralString, readString_escaped s.toList rest]
  · rw [Option.map_some, Prod.map_apply, String.ofList_toList, id]
  · rw [List.length_append, List.length_cons]
    omega

theorem noDigit_dumpsItems (items : List Document) (rest : Text) :
    NoDigit (dumpsItems items ++ rest) := by
  cases items <;> exact fun c hc => by cases hc; rfl

theorem noDigit_dumpsFields (fields : List (String × Document)) (rest : Text) :
    NoDigit (dumpsFields fields ++ rest) := by
  rcases fields with _ | ⟨⟨key, value⟩, fields⟩ <;> exact fun c hc => by cases hc; rfl

/-- An integer starts like no other value. -/
theorem dumpsInt_start (n : ℤ) : ∃ c t, dumpsInt n = c :: t ∧ (c.isDigit = true ∨ c = '-') := by
  cases n with
  | ofNat n =>
    obtain ⟨c, t, heq⟩ := List.exists_cons_of_ne_nil (Nat.toDigits_ne_nil (n := n) (b := 10))
    have hmem : c ∈ Nat.toDigits 10 n := heq ▸ List.mem_cons_self
    exact ⟨c, t, heq, .inl (Nat.isDigit_of_mem_toDigits (by decide) (by decide) hmem)⟩
  | negSucc n => exact ⟨'-', _, rfl, .inr rfl⟩

theorem ne_of_start {c d : Char} (h : c.isDigit = true ∨ c = '-')
    (hd : d.isDigit = false ∧ d ≠ '-') : c ≠ d := by
  rintro rfl
  rcases h with hdigit | hminus
  · exact Bool.false_ne_true (hd.1.symm.trans hdigit)
  · exact hd.2 hminus

/-- No value starts with a space, and none with what closes a list. -/
theorem dumps_start (d : Document) :
    ∃ c t, dumps d = c :: t ∧ isJsonSpace c = false ∧ c ≠ ']' := by
  rcases d with _ | b | n | s | items | fields
  · exact ⟨_, _, rfl, by decide, by decide⟩
  · cases b <;> exact ⟨_, _, rfl, by decide, by decide⟩
  · obtain ⟨c, t, heq, hstart⟩ := dumpsInt_start n
    refine ⟨c, t, heq, ?_, ne_of_start hstart (by decide)⟩
    have hspace := ne_of_start hstart (d := ' ') (by decide)
    have htab := ne_of_start hstart (d := '\t') (by decide)
    have hnewline := ne_of_start hstart (d := '\n') (by decide)
    have hreturn := ne_of_start hstart (d := '\r') (by decide)
    simp [isJsonSpace, hspace, htab, hnewline, hreturn]
  · exact ⟨_, _, rfl, by decide, by decide⟩
  · cases items <;> exact ⟨_, _, rfl, by decide, by decide⟩
  · rcases fields with _ | ⟨⟨key, value⟩, fields⟩ <;> exact ⟨_, _, rfl, by decide, by decide⟩

theorem skipSpace_dumps (d : Document) (rest : Text) :
    skipSpace (dumps d ++ rest) = dumps d ++ rest := by
  obtain ⟨c, t, heq, hspace, _⟩ := dumps_start d
  rw [heq, skipSpace, List.cons_append, List.dropWhile_cons_of_neg (by rw [hspace]; exact Bool.false_ne_true)]

theorem skipSpace_next (d : Document) (rest : Text) :
    skipSpace (' ' :: (dumps d ++ rest)) = dumps d ++ rest := skipSpace_dumps d rest

/-- What a reader with this much fuel reads. -/
structure Reads (fuel : ℕ) : Prop where
  value : ∀ (d : Document) (rest : Text), (dumps d).length ≤ fuel → NoDigit rest →
    readValue fuel (dumps d ++ rest) = some (d, rest)
  items : ∀ (item : Document) (items : List Document) (rest : Text),
    (dumps item ++ dumpsItems items).length ≤ fuel →
    readItems fuel (dumps item ++ (dumpsItems items ++ rest)) = some (item :: items, rest)
  fields : ∀ (key : String) (value : Document) (fields : List (String × Document)) (rest : Text),
    (dumpsString key ++ ':' :: ' ' :: dumps value ++ dumpsFields fields).length ≤ fuel →
    readFields fuel (dumpsString key ++ ':' :: ' ' :: (dumps value ++
      (dumpsFields fields ++ rest))) = some ((key, value) :: fields, rest)

theorem Reads.zero : Reads 0 where
  value d rest hlength _ := by
    obtain ⟨c, t, heq, _⟩ := dumps_start d
    rw [heq] at hlength
    exact absurd hlength (Nat.not_succ_le_zero _)
  items item items rest hlength := by
    obtain ⟨c, t, heq, _⟩ := dumps_start item
    rw [heq] at hlength
    exact absurd hlength (Nat.not_succ_le_zero _)
  fields key value fields rest hlength := absurd hlength (Nat.not_succ_le_zero _)

section
variable {fuel : ℕ} (h : Reads fuel)
include h

theorem Reads.arr_succ (items : List Document) (rest : Text)
    (hlength : (dumps (.arr items)).length ≤ fuel + 1) :
    readValue (fuel + 1) (dumps (.arr items) ++ rest) = some (.arr items, rest) := by
  cases items with
  | nil => rfl
  | cons item items =>
    rw [dumps, List.length_append, List.length_cons] at hlength
    have hitems := h.items item items rest (by rw [List.length_append]; omega)
    obtain ⟨c, t, hstart, _, hclose⟩ := dumps_start item
    rw [dumps, List.cons_append, List.cons_append, List.append_assoc, readValue, if_neg (by decide),
      if_pos rfl, skipSpace_dumps]
    split
    · rename_i heq
      rw [hstart] at heq
      exact absurd (List.cons.inj heq).1 hclose
    · rw [hitems]
      rfl

theorem Reads.obj_succ (fields : List (String × Document)) (rest : Text)
    (hlength : (dumps (.obj fields)).length ≤ fuel + 1) :
    readValue (fuel + 1) (dumps (.obj fields) ++ rest) = some (.obj fields, rest) := by
  rcases fields with _ | ⟨⟨key, value⟩, fields⟩
  · rfl
  · have hfields := h.fields key value fields rest (by
      simp only [dumps, List.length_append, List.length_cons] at hlength ⊢
      omega)
    have hskip (t : Text) : skipSpace (dumpsString key ++ t) = dumpsString key ++ t := rfl
    simp only [dumps, List.cons_append, List.append_assoc] at hfields ⊢
    rw [readValue, if_neg (by decide), if_neg (by decide), if_pos rfl, hskip]
    exact congrArg (Option.map (Prod.map Document.obj id)) hfields

theorem Reads.value_succ (d : Document) (rest : Text) (hlength : (dumps d).length ≤ fuel + 1)
    (hrest : NoDigit rest) : readValue (fuel + 1) (dumps d ++ rest) = some (d, rest) := by
  rcases d with _ | b | n | s | items | fields
  · rfl
  · cases b <;> rfl
  · have hread := readInt_dumpsInt n hrest
    obtain ⟨c, t, heq, hstart⟩ := dumpsInt_start n
    rw [heq, List.cons_append] at hread
    rw [dumps, heq, List.cons_append, readValue, if_neg (ne_of_start hstart (by decide)), if_neg (ne_of_start hstart (by decide)),
      if_neg (ne_of_start hstart (by decide)), if_neg (ne_of_start hstart (by decide)),
      if_neg (ne_of_start hstart (by decide)), if_neg (ne_of_start hstart (by decide)), hread]
    rfl
  · rw [dumps, dumpsString, List.append_assoc, List.cons_append, readValue, if_pos rfl,
      List.singleton_append, readLiteralString_dumpsString]
    rfl
  · exact h.arr_succ items rest hlength
  · exact h.obj_succ fields rest hlength

theorem Reads.items_succ (item : Document) (items : List Document) (rest : Text)
    (hlength : (dumps item ++ dumpsItems items).length ≤ fuel + 1) :
    readItems (fuel + 1) (dumps item ++ (dumpsItems items ++ rest)) =
      some (item :: items, rest) := by
  have hnext : 0 < (dumpsItems items).length := by cases items <;> exact Nat.succ_pos _
  rw [List.length_append] at hlength
  rw [readItems, h.value item _ (by omega) (noDigit_dumpsItems items rest)]
  cases items with
  | nil => rfl
  | cons next items =>
    simp only [dumpsItems, List.length_append, List.length_cons] at hlength
    have hitems := h.items next items rest (by rw [List.length_append]; omega)
    change (readItems fuel (skipSpace (' ' :: dumps next ++ dumpsItems items ++ rest))).map
      (Prod.map (item :: ·) id) = _
    rw [List.cons_append, List.cons_append, List.append_assoc, skipSpace_next, hitems]
    rfl

theorem Reads.fields_succ (key : String) (value : Document) (fields : List (String × Document))
    (rest : Text)
    (hlength : (dumpsString key ++ ':' :: ' ' :: dumps value ++ dumpsFields fields).length ≤
      fuel + 1) :
    readFields (fuel + 1) (dumpsString key ++ ':' :: ' ' :: (dumps value ++
      (dumpsFields fields ++ rest))) = some ((key, value) :: fields, rest) := by
  have hnext : 0 < (dumpsFields fields).length := by
    rcases fields with _ | ⟨⟨key, value⟩, fields⟩ <;> exact Nat.succ_pos _
  simp only [List.length_append, List.length_cons] at hlength
  rw [dumpsString, List.cons_append, List.cons_append, List.append_assoc, List.singleton_append,
    readFields, readLiteralString_dumpsString]
  change (match readValue fuel (skipSpace (' ' :: (dumps value ++ (dumpsFields fields ++ rest)))) with
    | none => none
    | some (value, t) =>
      match skipSpace t with
      | ',' :: t => (readFields fuel (skipSpace t)).map (Prod.map ((key, value) :: ·) id)
      | '\x7d' :: t => some ([(key, value)], t)
      | _ => none) = _
  rw [skipSpace_next, h.value value _ (by omega) (noDigit_dumpsFields fields rest)]
  rcases fields with _ | ⟨⟨next, nextValue⟩, fields⟩
  · rfl
  · simp only [dumpsFields, List.length_append, List.length_cons] at hlength
    have hfields := h.fields next nextValue fields rest (by
      simp only [List.length_append, List.length_cons]
      omega)
    change (readFields fuel (dumpsString next ++ ':' :: ' ' :: dumps nextValue ++
      dumpsFields fields ++ rest)).map (Prod.map ((key, value) :: ·) id) = _
    simp only [List.append_assoc, List.cons_append] at hfields ⊢
    rw [hfields]
    rfl

theorem Reads.succ : Reads (fuel + 1) := ⟨h.value_succ, h.items_succ, h.fields_succ⟩

end

theorem reads (fuel : ℕ) : Reads fuel := by
  induction fuel with
  | zero => exact .zero
  | succ fuel ih => exact ih.succ

theorem loads_dumps (d : Document) : loads (dumps d) = some d := by
  have hread := (reads (dumps d).length).value d [] (le_refl _) (fun _ hc => by cases hc)
  rw [List.append_nil] at hread
  have hskip := skipSpace_dumps d []
  rw [List.append_nil] at hskip
  rw [loads, hskip, hread]
  rfl

end VllmSourceGateway.JsonText
