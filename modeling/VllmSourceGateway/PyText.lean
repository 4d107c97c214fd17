import Mathlib

set_option autoImplicit false

/-! The `str` operations the gateway's parsers use, on texts as lists of code
points. -/
namespace VllmSourceGateway.PyText

abbrev Text := List Char

/-- `str.isspace` of one character. -/
def isSpace (c : Char) : Bool :=
  let n := c.toNat
  (0x09 ≤ n && n ≤ 0x0D) || (0x1C ≤ n && n ≤ 0x20) || n == 0x85 || n == 0xA0 || n == 0x1680 ||
    (0x2000 ≤ n && n ≤ 0x200A) || n == 0x2028 || n == 0x2029 || n == 0x202F || n == 0x205F ||
    n == 0x3000

def lstrip (t : Text) : Text := t.dropWhile isSpace

def strip (t : Text) : Text := (lstrip (lstrip t).reverse).reverse

/-- `t.replace("\r\n", "\n")`: one pass from the left. -/
def replaceCrlf : Text → Text
  | '\r' :: '\n' :: t => '\n' :: replaceCrlf t
  | c :: t => c :: replaceCrlf t
  | [] => []

/-- `len(t.encode("utf-8"))`. -/
def utf8Size (t : Text) : ℕ := (t.map Char.utf8Size).sum

/-- `t[len(p):]` when `t` starts with `p`. -/
def afterPrefix? : (p t : Text) → Option Text
  | [], t => some t
  | a :: p, b :: t => if a = b then afterPrefix? p t else none
  | _ :: _, [] => none

/-- What repeated `t.split("\n\n", 1)` cuts off while there is a blank line, in
order, and what is left. `line` holds the text since the last cut, reversed. -/
def splitEventsFrom (line : Text) : Text → List Text × Text
  | '\n' :: '\n' :: t =>
    let (events, rest) := splitEventsFrom [] t
    (line.reverse :: events, rest)
  | c :: t => splitEventsFrom (c :: line) t
  | [] => ([], line.reverse)

def splitEvents (t : Text) : List Text × Text := splitEventsFrom [] t

/-- What `int` strips: not the separators 0x1C to 0x1F, which `str.strip` does. -/
def intSpace (c : Char) : Bool :=
  let n := c.toNat
  (0x09 ≤ n && n ≤ 0x0D) || n == 0x20 || (0x80 ≤ n && isSpace c)

def intStrip (t : Text) : Text := ((t.dropWhile intSpace).reverse.dropWhile intSpace).reverse

section
variable (decimal : Char → Option ℕ)

def intDigits : Text → Option (List ℕ)
  | [] => none
  | [c] => (decimal c).map fun d => [d]
  | c :: '_' :: t =>
    match decimal c, intDigits t with
    | some d, some ds => some (d :: ds)
    | _, _ => none
  | c :: t =>
    match decimal c, intDigits t with
    | some d, some ds => some (d :: ds)
    | _, _ => none

def intValue (t : Text) : Option ℕ :=
  match intDigits decimal t with
  | none => none
  | some ds => if 4300 < ds.length then none else some (ds.foldl (fun n d => 10 * n + d) 0)

/-- `int(t)`, none where it raises `ValueError`; `decimal` is `unicodedata.decimal`. -/
def int (t : Text) : Option ℤ :=
  match intStrip t with
  | '-' :: t => (intValue decimal t).map fun (n : ℕ) => -(n : ℤ)
  | '+' :: t => (intValue decimal t).map fun (n : ℕ) => (n : ℤ)
  | t => (intValue decimal t).map fun (n : ℕ) => (n : ℤ)

end

/-- `unicodedata.decimal` of a Latin-1 character. -/
def asciiDecimal (c : Char) : Option ℕ := if c.isDigit then some (c.toNat - 48) else none

/-- `t.encode()` of ASCII text. -/
def asciiBytes (t : Text) : List UInt8 := t.map fun c => UInt8.ofNat c.toNat

example : int asciiDecimal " -1_024 ".toList = some (-1024) ∧
    int asciiDecimal [Char.ofNat 0x1C, '7'] = none := by decide +kernel

example : splitEvents "a\nb\n\n\nc\n\nd".toList =
    (["a\nb".toList, "\nc".toList], "d".toList) := by decide +kernel

theorem lstrip_append_left {s : Text} (h : ∀ c ∈ s, isSpace c = true) (t : Text) :
    lstrip (s ++ t) = lstrip t := List.dropWhile_append_of_pos h

theorem strip_append_left {s : Text} (h : ∀ c ∈ s, isSpace c = true) (t : Text) :
    strip (s ++ t) = strip t := by
  simp only [strip, lstrip_append_left h]

theorem strip_append_right {s : Text} (h : ∀ c ∈ s, isSpace c = true) (t : Text) :
    strip (t ++ s) = strip t := by
  have hreverse : ∀ c ∈ s.reverse, isSpace c = true := fun c hc => h c (List.mem_reverse.mp hc)
  simp only [strip, lstrip, List.dropWhile_append]
  split
  · rename_i hempty
    have hspaces : s.dropWhile isSpace = [] := List.dropWhile_eq_nil_iff.mpr h
    rw [List.isEmpty_iff.mp hempty, hspaces]
  · rw [List.reverse_append, List.dropWhile_append_of_pos hreverse]

/-- A text is its stripped form between spaces. -/
theorem exists_strip (t : Text) : ∃ before after, (∀ c ∈ before, isSpace c = true) ∧
    (∀ c ∈ after, isSpace c = true) ∧ t = before ++ (strip t ++ after) := by
  refine ⟨t.takeWhile isSpace, ((lstrip t).reverse.takeWhile isSpace).reverse,
    fun c hc => List.mem_takeWhile_imp hc, fun c hc =>
      List.mem_takeWhile_imp (List.mem_reverse.mp hc), ?_⟩
  have hright : strip t ++ ((lstrip t).reverse.takeWhile isSpace).reverse = lstrip t := by
    rw [strip, lstrip, ← List.reverse_append, List.takeWhile_append_dropWhile, List.reverse_reverse]
  rw [hright]
  exact List.takeWhile_append_dropWhile.symm

theorem strip_strip (t : Text) : strip (strip t) = strip t := by
  obtain ⟨before, after, hbefore, hafter, heq⟩ := exists_strip t
  conv_rhs => rw [heq, strip_append_left hbefore, strip_append_right hafter]

def SamePadded (xs ys : List Text) : Prop :=
  List.Forall₂ (fun x y => ∃ after, (∀ c ∈ after, isSpace c = true) ∧ x = y ++ after) xs ys

theorem SamePadded.strip {xs ys : List Text} (h : SamePadded xs ys) :
    xs.map PyText.strip = ys.map PyText.strip := by
  induction h with
  | nil => rfl
  | cons hpadded _ ih =>
    obtain ⟨after, hafter, rfl⟩ := hpadded
    rw [List.map_cons, List.map_cons, ih, strip_append_right hafter]

section
variable {sep : Char} (hsep : isSpace sep = false)
include hsep

theorem splitOn_append_left {s : Text} (h : ∀ c ∈ s, isSpace c = true) (t : Text) :
    ((s ++ t).splitOn sep).map strip = (t.splitOn sep).map strip := by
  induction s with
  | nil => rfl
  | cons c s ih =>
    obtain ⟨hc, hs⟩ := List.forall_mem_cons.mp h
    have hne : (c == sep) = false := by
      rw [beq_eq_false_iff_ne]
      rintro rfl
      rw [hc] at hsep
      cases hsep
    rw [List.cons_append, List.splitOn_cons_eq_if_modifyHead, hne, ← ih hs]
    cases (s ++ t).splitOn sep with
    | nil => rfl
    | cons part parts =>
      have hpart : strip ([c] ++ part) = strip part := strip_append_left (by simpa using hc) part
      simp only [Bool.false_eq_true, if_false, List.modifyHead_cons, List.map_cons]
      rw [← hpart]
      rfl

theorem splitOn_append_right {s : Text} (h : ∀ c ∈ s, isSpace c = true) (t : Text) :
    SamePadded ((t ++ s).splitOn sep) (t.splitOn sep) := by
  induction t with
  | nil =>
    have hnot : sep ∉ s := by
      intro hmem
      rw [h sep hmem] at hsep
      cases hsep
    rw [List.nil_append, List.splitOn_eq_singleton hnot]
    exact .cons ⟨s, h, rfl⟩ .nil
  | cons c t ih =>
    simp only [List.cons_append, List.splitOn_cons_eq_if_modifyHead]
    split
    · exact .cons ⟨[], List.forall_mem_nil _, rfl⟩ ih
    · generalize (t ++ s).splitOn sep = parts at ih ⊢
      generalize t.splitOn sep = parts' at ih ⊢
      cases ih with
      | nil => exact .nil
      | cons hpadded hrest =>
        obtain ⟨after, hafter, rfl⟩ := hpadded
        exact .cons ⟨after, hafter, rfl⟩ hrest

/-- Spaces around the whole text do not show in the stripped parts. -/
theorem splitOn_strip (t : Text) :
    ((strip t).splitOn sep).map strip = (t.splitOn sep).map strip := by
  obtain ⟨before, after, hbefore, hafter, heq⟩ := exists_strip t
  conv_rhs => rw [heq]
  rw [splitOn_append_left hsep hbefore, (splitOn_append_right hsep hafter _).strip]

end

end VllmSourceGateway.PyText
