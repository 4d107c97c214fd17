import Mathlib
import VllmSourceGateway.PyText

set_option autoImplicit false

/-! `codecs.getincrementaldecoder("utf-8")` with strict errors, one octet at a
time. Between calls it holds the octets of an unfinished character; it fails at
the first octet that no character can continue with, at a surrogate's one octet
later. -/
namespace VllmSourceGateway.Utf8Decoder
open PyText

/-- The number of octets of a character that starts with `lead`, 0 for none. -/
def sequenceLength (lead : ℕ) : ℕ :=
  if lead ≤ 0x7F then 1
  else if 0xC2 ≤ lead ∧ lead ≤ 0xDF then 2
  else if 0xE0 ≤ lead ∧ lead ≤ 0xEF then 3
  else if 0xF0 ≤ lead ∧ lead ≤ 0xF4 then 4
  else 0

/-- The bounds on the second octet; overlong forms and what lies beyond U+10FFFF
are refused here. -/
def secondRange (lead : ℕ) : ℕ × ℕ :=
  if lead = 0xE0 then (0xA0, 0xBF)
  else if lead = 0xF0 then (0x90, 0xBF)
  else if lead = 0xF4 then (0x80, 0x8F)
  else (0x80, 0xBF)

/-- The first two octets of a surrogate. Where they end a chunk the decoder takes
them for a truncated one and holds them; it fails once anything follows. -/
def isTruncatedSurrogate : List ℕ → Bool
  | [lead, second] => lead = 0xED ∧ 0xA0 ≤ second
  | _ => false

def codePoint : List ℕ → ℕ
  | [] => 0
  | [a] => a
  | lead :: tail =>
    let mask := if tail.length = 1 then 0xC0 else if tail.length = 2 then 0xE0 else 0xF0
    tail.foldl (fun n b => 64 * n + (b - 0x80)) (lead - mask)

def feed (held : List ℕ) (b : ℕ) : Option (List ℕ × Option Char) :=
  match held with
  | [] =>
    match sequenceLength b with
    | 0 => none
    | 1 => some ([], some (Char.ofNat b))
    | _ => some ([b], none)
  | lead :: tail =>
    let (low, high) := if tail = [] then secondRange lead else (0x80, 0xBF)
    if isTruncatedSurrogate held then none
    else if low ≤ b ∧ b ≤ high then
      let octets := held ++ [b]
      if octets.length = sequenceLength lead then
        some ([], some (Char.ofNat (codePoint octets)))
      else some (octets, none)
    else none

/-- `decoder.decode(chunk)`: the text completed and the octets held, none where
it raises `UnicodeDecodeError`. -/
def decode (held : List ℕ) : List UInt8 → Option (Text × List ℕ)
  | [] => some ([], held)
  | b :: bs =>
    match feed held b.toNat with
    | none => none
    | some (held, c) =>
      match decode held bs with
      | none => none
      | some (t, held) => some (c.toList ++ t, held)

/-- `decoder.decode(b"", final=True)`. -/
def finish (held : List ℕ) : Option Text := if held = [] then some [] else none

example : decode [] [0x61, 0xE2, 0x82, 0xAC, 0xF0, 0x9F] =
    some (['a', Char.ofNat 0x20AC], [0xF0, 0x9F]) := by decide +kernel

example : decode [] [0xED, 0xA0] = some ([], [0xED, 0xA0]) ∧
    decode [0xED, 0xA0] [0x80] = none ∧ finish [0xED, 0xA0] = none := by decide +kernel

theorem decode_append (held : List ℕ) (xs ys : List UInt8) :
    decode held (xs ++ ys) =
      match decode held xs with
      | none => none
      | some (t, held) => (decode held ys).map fun result => (t ++ result.1, result.2) := by
  induction xs generalizing held with
  | nil => simp [decode]
  | cons b xs ih =>
    simp only [List.cons_append, decode]
    cases hfeed : feed held b.toNat with
    | none => rfl
    | some result =>
      obtain ⟨held', c⟩ := result
      simp only [ih]
      cases decode held' xs with
      | none => rfl
      | some result =>
        simp only [List.append_assoc]
        cases decode result.2 ys <;> rfl

/-- Text in more bytes is the text of the first ones and the rest's. -/
theorem decode_append_some {held : List ℕ} {xs ys : List UInt8} {text : Text} {left : List ℕ}
    (h : decode held (xs ++ ys) = some (text, left)) :
    ∃ fragment held' rest, decode held xs = some (fragment, held') ∧
      decode held' ys = some (rest, left) ∧ fragment ++ rest = text := by
  rw [decode_append] at h
  cases hxs : decode held xs with
  | none => simp [hxs] at h
  | some result =>
    obtain ⟨fragment, held'⟩ := result
    simp only [hxs, Option.map_eq_some_iff, Prod.mk.injEq, Prod.exists] at h
    obtain ⟨rest, left', hrest, rfl, rfl⟩ := h
    exact ⟨fragment, held', rest, rfl, hrest, rfl⟩

theorem decode_lead {a : UInt8} (h : 2 ≤ sequenceLength a.toNat) (bs : List UInt8) :
    decode [] (a :: bs) = decode [a.toNat] bs := by
  obtain ⟨n, hn⟩ := Nat.exists_eq_add_of_le h
  have hfeed : feed [] a.toNat = some ([a.toNat], none) := by
    simp only [feed, hn, Nat.add_comm 2 n]
  simp only [decode, hfeed]
  cases decode [a.toNat] bs <;> rfl

def Continues (lead : ℕ) (tail : List ℕ) (b : ℕ) : Prop :=
  isTruncatedSurrogate (lead :: tail) = false ∧
    (if tail = [] then secondRange lead else (0x80, 0xBF)).1 ≤ b ∧
    b ≤ (if tail = [] then secondRange lead else (0x80, 0xBF)).2

theorem decode_tail {lead : ℕ} {tail : List ℕ} {b : UInt8} (h : Continues lead tail b.toNat)
    (hlength : tail.length + 2 ≠ sequenceLength lead) (bs : List UInt8) :
    decode (lead :: tail) (b :: bs) = decode (lead :: tail ++ [b.toNat]) bs := by
  simp only [decode, feed, h.1, h.2.1, h.2.2, and_self, if_true, Bool.false_eq_true, if_false]
  have hne : (lead :: tail ++ [b.toNat]).length ≠ sequenceLength lead := by simpa using hlength
  rw [if_neg hne]
  dsimp only
  cases decode (lead :: tail ++ [b.toNat]) bs <;> rfl

theorem decode_last {lead : ℕ} {tail : List ℕ} {b : UInt8} (h : Continues lead tail b.toNat)
    (hlength : tail.length + 2 = sequenceLength lead) (bs : List UInt8) :
    decode (lead :: tail) (b :: bs) = (decode [] bs).map fun result =>
      (Char.ofNat (codePoint (lead :: tail ++ [b.toNat])) :: result.1, result.2) := by
  simp only [decode, feed, h.1, h.2.1, h.2.2, and_self, if_true, Bool.false_eq_true, if_false]
  have heq : (lead :: tail ++ [b.toNat]).length = sequenceLength lead := by simpa using hlength
  rw [if_pos heq]
  dsimp only
  cases decode [] bs <;> rfl

theorem decode_two {a b : UInt8} (ha : sequenceLength a.toNat = 2)
    (hb : Continues a.toNat [] b.toNat) (bs : List UInt8) :
    decode [] (a :: b :: bs) = (decode [] bs).map fun result =>
      (Char.ofNat (codePoint [a.toNat, b.toNat]) :: result.1, result.2) := by
  rw [decode_lead (by omega)]
  exact decode_last hb (by simp [ha]) bs

theorem decode_three {a b c : UInt8} (ha : sequenceLength a.toNat = 3)
    (hb : Continues a.toNat [] b.toNat) (hc : Continues a.toNat [b.toNat] c.toNat)
    (bs : List UInt8) : decode [] (a :: b :: c :: bs) = (decode [] bs).map fun result =>
      (Char.ofNat (codePoint [a.toNat, b.toNat, c.toNat]) :: result.1, result.2) := by
  rw [decode_lead (by omega), decode_tail hb (by simp [ha])]
  exact decode_last hc (by simp [ha]) bs

theorem decode_four {a b c d : UInt8} (ha : sequenceLength a.toNat = 4)
    (hb : Continues a.toNat [] b.toNat) (hc : Continues a.toNat [b.toNat] c.toNat)
    (hd : Continues a.toNat [b.toNat, c.toNat] d.toNat) (bs : List UInt8) :
    decode [] (a :: b :: c :: d :: bs) = (decode [] bs).map fun result =>
      (Char.ofNat (codePoint [a.toNat, b.toNat, c.toNat, d.toNat]) :: result.1, result.2) := by
  rw [decode_lead (by omega), decode_tail hb (by simp [ha]), List.singleton_append,
    decode_tail hc (by simp [ha])]
  exact decode_last hd (by simp [ha]) bs

theorem toNat_octet {n : ℕ} (h : n < 256) : (UInt8.ofNat n).toNat = n := by
  rw [UInt8.toNat_ofNat']
  exact Nat.mod_eq_of_lt h

theorem continues_second {lead b : ℕ}
    (h : (secondRange lead).1 ≤ b ∧ b ≤ (secondRange lead).2) : Continues lead [] b := by
  simpa [Continues, isTruncatedSurrogate] using h

theorem continues_digit {lead b n : ℕ} {tail : List ℕ}
    (hwhole : isTruncatedSurrogate (lead :: b :: tail) = false) (h : n < 0x40) :
    Continues lead (b :: tail) (n + 0x80) := by
  simp only [Continues, hwhole, reduceCtorEq, if_false, true_and]
  omega

section
variable {n : ℕ} (bs : List UInt8)

theorem decode_oneOctet (h : n ≤ 0x7F) : decode [] (UInt8.ofNat n :: bs) =
    (decode [] bs).map fun result => (Char.ofNat n :: result.1, result.2) := by
  have hfeed : feed [] n = some ([], some (Char.ofNat n)) := by
    have hlength : sequenceLength n = 1 := if_pos h
    simp only [feed, hlength]
  simp only [decode, toNat_octet (by omega : n < 256), hfeed]
  cases decode [] bs <;> rfl

/-- Two octets hold two digits of six bits; and so on below. -/
theorem decode_twoOctets (hlow : 0x7F < n) (hhigh : n ≤ 0x7FF) :
    decode [] (UInt8.ofNat (n / 64 % 0x20 + 0xC0) :: UInt8.ofNat (n % 0x40 + 0x80) :: bs) =
      (decode [] bs).map fun result => (Char.ofNat n :: result.1, result.2) := by
  have ha : (UInt8.ofNat (n / 64 % 0x20 + 0xC0)).toNat = _ := toNat_octet (by omega)
  have hb : (UInt8.ofNat (n % 0x40 + 0x80)).toNat = _ := toNat_octet (by omega)
  have hlength : sequenceLength (n / 64 % 0x20 + 0xC0) = 2 := by
    unfold sequenceLength
    split_ifs <;> omega
  have hsecond : Continues (n / 64 % 0x20 + 0xC0) [] (n % 0x40 + 0x80) := by
    apply continues_second
    unfold secondRange
    split_ifs <;> dsimp only <;> omega
  have hpoint : codePoint [n / 64 % 0x20 + 0xC0, n % 0x40 + 0x80] = n := by
    simp only [codePoint, List.length_singleton, if_true, List.foldl]
    omega
  rw [decode_two (by rw [ha, hlength]) (by rwa [ha, hb]), ha, hb, hpoint]

theorem decode_threeOctets (hlow : 0x7FF < n) (hhigh : n ≤ 0xFFFF)
    (hscalar : n < 0xD800 ∨ 0xDFFF < n) :
    decode [] (UInt8.ofNat (n / 4096 % 0x10 + 0xE0) :: UInt8.ofNat (n / 64 % 0x40 + 0x80) ::
        UInt8.ofNat (n % 0x40 + 0x80) :: bs) =
      (decode [] bs).map fun result => (Char.ofNat n :: result.1, result.2) := by
  have ha : (UInt8.ofNat (n / 4096 % 0x10 + 0xE0)).toNat = _ := toNat_octet (by omega)
  have hb : (UInt8.ofNat (n / 64 % 0x40 + 0x80)).toNat = _ := toNat_octet (by omega)
  have hc : (UInt8.ofNat (n % 0x40 + 0x80)).toNat = _ := toNat_octet (by omega)
  have hlength : sequenceLength (n / 4096 % 0x10 + 0xE0) = 3 := by
    unfold sequenceLength
    split_ifs <;> omega
  have hsecond : Continues (n / 4096 % 0x10 + 0xE0) [] (n / 64 % 0x40 + 0x80) := by
    apply continues_second
    unfold secondRange
    split_ifs <;> dsimp only <;> omega
  have hpoint : codePoint [n / 4096 % 0x10 + 0xE0, n / 64 % 0x40 + 0x80, n % 0x40 + 0x80] = n := by
    simp [codePoint]
    omega
  have hwhole : isTruncatedSurrogate [n / 4096 % 0x10 + 0xE0, n / 64 % 0x40 + 0x80] = false := by
    simp only [isTruncatedSurrogate, decide_eq_false_iff_not]
    omega
  rw [decode_three (by rw [ha, hlength]) (by rwa [ha, hb])
    (by rw [ha, hb, hc]; exact continues_digit hwhole (by omega)), ha, hb, hc, hpoint]

theorem decode_fourOctets (hlow : 0xFFFF < n) (hhigh : n < 0x110000) :
    decode [] (UInt8.ofNat (n / 262144 % 0x08 + 0xF0) :: UInt8.ofNat (n / 4096 % 0x40 + 0x80) ::
        UInt8.ofNat (n / 64 % 0x40 + 0x80) :: UInt8.ofNat (n % 0x40 + 0x80) :: bs) =
      (decode [] bs).map fun result => (Char.ofNat n :: result.1, result.2) := by
  have ha : (UInt8.ofNat (n / 262144 % 0x08 + 0xF0)).toNat = _ := toNat_octet (by omega)
  have hb : (UInt8.ofNat (n / 4096 % 0x40 + 0x80)).toNat = _ := toNat_octet (by omega)
  have hc : (UInt8.ofNat (n / 64 % 0x40 + 0x80)).toNat = _ := toNat_octet (by omega)
  have hd : (UInt8.ofNat (n % 0x40 + 0x80)).toNat = _ := toNat_octet (by omega)
  have hlength : sequenceLength (n / 262144 % 0x08 + 0xF0) = 4 := by
    unfold sequenceLength
    split_ifs <;> omega
  have hsecond : Continues (n / 262144 % 0x08 + 0xF0) [] (n / 4096 % 0x40 + 0x80) := by
    apply continues_second
    unfold secondRange
    split_ifs <;> dsimp only <;> omega
  have hpoint : codePoint [n / 262144 % 0x08 + 0xF0, n / 4096 % 0x40 + 0x80,
      n / 64 % 0x40 + 0x80, n % 0x40 + 0x80] = n := by
    simp [codePoint]
    omega
  have hwhole : isTruncatedSurrogate [n / 262144 % 0x08 + 0xF0, n / 4096 % 0x40 + 0x80] = false := by
    simp only [isTruncatedSurrogate, decide_eq_false_iff_not]
    omega
  rw [decode_four (by rw [ha, hlength]) (by rwa [ha, hb])
    (by rw [ha, hb, hc]; exact continues_digit hwhole (by omega))
    (by rw [ha, hb, hc, hd]; exact continues_digit rfl (by omega)), ha, hb, hc, hd, hpoint]

end

def encode (t : Text) : List UInt8 := t.flatMap String.utf8EncodeChar

/-- A character is decoded when its last octet is there. -/
theorem decode_encodeChar (c : Char) (bs : List UInt8) :
    decode [] (String.utf8EncodeChar c ++ bs) =
      (decode [] bs).map fun result => (c :: result.1, result.2) := by
  have hval : c.val.toNat = c.toNat := rfl
  have hscalar : c.toNat < 0xD800 ∨ 0xDFFF < c.toNat ∧ c.toNat < 0x110000 := c.valid
  have hchar : Char.ofNat c.toNat = c := Char.ofNat_toNat c
  simp only [String.utf8EncodeChar, hval]
  split_ifs with hone htwo hthree
  all_goals simp only [List.cons_append, List.nil_append]
  · rw [decode_oneOctet bs hone, hchar]
  · rw [decode_twoOctets bs (by omega) htwo, hchar]
  · rw [decode_threeOctets bs (by omega) hthree (by omega), hchar]
  · rw [decode_fourOctets bs (by omega) (by omega), hchar]

theorem decode_encode (t : Text) : decode [] (encode t) = some (t, []) := by
  induction t with
  | nil => rfl
  | cons c t ih =>
    have hcons : encode (c :: t) = String.utf8EncodeChar c ++ encode t := List.flatMap_cons
    rw [hcons, decode_encodeChar, ih]
    rfl

end VllmSourceGateway.Utf8Decoder
