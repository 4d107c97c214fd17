import VllmSourceGateway.PyText

set_option autoImplicit false

/-! Reading the events of a text one character at a time. Normalising the line
ends and cutting at blank lines, done again on every extension of a text, comes
to the same as long as no carriage return stands before a CRLF. -/
namespace VllmSourceGateway.EventReader
open PyText

/-- The text read since the last event, reversed, without the CR of a CRLF. -/
def dropCr : Text → Text
  | '\r' :: line => line
  | line => line

/-- A line feed ends a line or, after another one, an event. -/
def endLine : Text → Option Text × Text
  | '\n' :: line => (some line.reverse, [])
  | line => (none, '\n' :: line)

/-- One character more: the event it completes, and the text since then, reversed. -/
def takeChar (line : Text) (c : Char) : Option Text × Text :=
  if c = '\n' then endLine (dropCr line) else (none, c :: line)

def takeText : Text → Text → List Text × Text
  | line, [] => ([], line)
  | line, c :: t =>
    let (event, line) := takeChar line c
    let (events, line) := takeText line t
    (event.toList ++ events, line)

theorem takeText_append (line x y : Text) :
    takeText line (x ++ y) =
      ((takeText line x).1 ++ (takeText (takeText line x).2 y).1,
        (takeText (takeText line x).2 y).2) := by
  induction x generalizing line with
  | nil => rfl
  | cons c x ih => simp only [List.cons_append, takeText, ih, List.append_assoc]

/-- The reversed text has no CRLF and no blank line. -/
def Settled : Text → Prop
  | [] => True
  | c :: line => (c = '\n' → line.head? ≠ some '\r' ∧ line.head? ≠ some '\n') ∧ Settled line

/-- No CRLF comes after a CR that the reader still holds. -/
def Clean : Text → Text → Prop
  | _, [] => True
  | line, c :: t =>
    (c = '\n' → (dropCr line).head? ≠ some '\r') ∧ Clean (takeChar line c).2 t

theorem clean_append (line x y : Text) :
    Clean line (x ++ y) ↔ Clean line x ∧ Clean (takeText line x).2 y := by
  induction x generalizing line with
  | nil => simp [Clean, takeText]
  | cons c x ih => simp only [List.cons_append, Clean, takeText, ih, and_assoc]

/-! ## Normalising and cutting a settled text -/

theorem replaceCrlf_cons {c : Char} {t : Text} (h : c = '\r' → t.head? ≠ some '\n') :
    replaceCrlf (c :: t) = c :: replaceCrlf t := by
  cases t with
  | nil => simp [replaceCrlf]
  | cons d t =>
    rw [replaceCrlf]
    intro u hc heq
    cases heq
    exact h hc rfl

theorem replaceCrlf_settled {line : Text} (hline : Settled line) {t : Text}
    (h : line.head? = some '\r' → t.head? ≠ some '\n') :
    replaceCrlf (line.reverse ++ t) = line.reverse ++ replaceCrlf t := by
  induction line generalizing t with
  | nil => rfl
  | cons c line ih =>
    obtain ⟨hc, hrest⟩ := hline
    have hnext : line.head? = some '\r' → (c :: t).head? ≠ some '\n' := by
      intro hcr hlf
      exact (hc (Option.some.inj hlf)).1 hcr
    have hcons : replaceCrlf (c :: t) = c :: replaceCrlf t :=
      replaceCrlf_cons fun hcr => h (by rw [hcr]; rfl)
    rw [List.reverse_cons, List.append_assoc, List.append_assoc, List.singleton_append,
      List.singleton_append, ih hrest hnext, hcons]

theorem splitEventsFrom_cons {line : Text} {c : Char} {t : Text}
    (h : c = '\n' → t.head? ≠ some '\n') :
    splitEventsFrom line (c :: t) = splitEventsFrom (c :: line) t := by
  cases t with
  | nil => simp [splitEventsFrom]
  | cons d t =>
    rw [splitEventsFrom]
    intro u hc heq
    cases heq
    exact h hc rfl

theorem splitEvents_settled {line : Text} (hline : Settled line) {t : Text}
    (h : line.head? = some '\n' → t.head? ≠ some '\n') :
    splitEvents (line.reverse ++ t) = splitEventsFrom line t := by
  induction line generalizing t with
  | nil => rfl
  | cons c line ih =>
    obtain ⟨hc, hrest⟩ := hline
    have hnext : line.head? = some '\n' → (c :: t).head? ≠ some '\n' := by
      intro hlf hc'
      exact (hc (Option.some.inj hc')).2 hlf
    rw [List.reverse_cons, List.append_assoc, List.singleton_append, ih hrest hnext]
    exact splitEventsFrom_cons fun hlf => h (by rw [hlf]; rfl)

theorem settled_dropCr {line : Text} (h : Settled line) : Settled (dropCr line) := by
  cases line with
  | nil => trivial
  | cons c line =>
    simp only [dropCr]
    split
    · rename_i heq
      cases heq
      exact h.2
    · exact h

/-- A CRLF and a line feed are read alike. -/
theorem replaceCrlf_newline {line t : Text} (hline : Settled line)
    (hclean : (dropCr line).head? ≠ some '\r') :
    replaceCrlf (line.reverse ++ '\n' :: t) =
      (dropCr line).reverse ++ '\n' :: replaceCrlf t := by
  have hlf : replaceCrlf ('\n' :: t) = '\n' :: replaceCrlf t :=
    replaceCrlf_cons fun h => absurd h (by decide)
  by_cases hcr : ∃ rest, line = '\r' :: rest
  · obtain ⟨rest, rfl⟩ := hcr
    have hmerge : replaceCrlf ('\r' :: '\n' :: t) = '\n' :: replaceCrlf t := by rw [replaceCrlf]
    rw [List.reverse_cons, List.append_assoc, List.singleton_append,
      replaceCrlf_settled hline.2 (fun _ => by simp), hmerge]
    rfl
  · have hsame : dropCr line = line := by
      cases line with
      | nil => rfl
      | cons c rest =>
        rw [dropCr]
        intro rest' heq
        exact hcr ⟨rest', heq⟩
    rw [hsame] at hclean ⊢
    rw [replaceCrlf_settled hline (fun h => absurd h hclean), hlf]

/-- Renormalising and cutting the held text with more text behind it is reading on. -/
theorem splitEvents_takeText {line : Text} (hline : Settled line) {t : Text} (hclean : Clean line t) :
    splitEvents (replaceCrlf (line.reverse ++ t)) =
        ((takeText line t).1, (takeText line t).2.reverse) ∧ Settled (takeText line t).2 := by
  induction t generalizing line with
  | nil =>
    rw [replaceCrlf_settled hline (fun _ => by simp), replaceCrlf,
      splitEvents_settled hline (fun _ => by simp)]
    exact ⟨rfl, hline⟩
  | cons c t ih =>
    obtain ⟨hc, hrest⟩ := hclean
    by_cases hlf : c = '\n'
    · subst hlf
      have hdropped := settled_dropCr hline
      rw [replaceCrlf_newline hline (hc rfl)]
      simp only [takeText, takeChar, if_true] at hrest ⊢
      by_cases hblank : ∃ rest, dropCr line = '\n' :: rest
      · -- the line feed completes an event
        obtain ⟨rest, hcut⟩ := hblank
        rw [hcut] at hdropped hrest ⊢
        have hstart : Settled [] := trivial
        have hfrom : Clean [] t := hrest
        obtain ⟨hevents, hsettled⟩ := ih hstart hfrom
        have hsplit : splitEvents (rest.reverse ++ '\n' :: '\n' :: replaceCrlf t) =
            (rest.reverse :: (splitEvents (replaceCrlf t)).1,
              (splitEvents (replaceCrlf t)).2) := by
          rw [splitEvents_settled hdropped.2 (fun h => absurd h (hdropped.1 rfl).2),
            splitEventsFrom]
          rfl
        rw [List.reverse_cons, List.append_assoc, List.singleton_append, hsplit]
        rw [List.reverse_nil, List.nil_append] at hevents
        rw [hevents]
        exact ⟨rfl, hsettled⟩
      · have hend : endLine (dropCr line) = (none, '\n' :: dropCr line) := by
          cases hline' : dropCr line with
          | nil => rfl
          | cons d rest =>
            rw [endLine]
            intro rest' heq
            exact hblank ⟨rest', hline'.trans heq⟩
        have hnotLf : (dropCr line).head? ≠ some '\n' := by
          intro hhead
          obtain ⟨rest, hcons⟩ := List.head?_eq_some_iff.mp hhead
          exact hblank ⟨rest, hcons⟩
        have hsettled : Settled ('\n' :: dropCr line) := ⟨fun _ => ⟨hc rfl, hnotLf⟩, hdropped⟩
        rw [hend] at hrest ⊢
        have hread := ih hsettled hrest
        rw [List.reverse_cons, List.append_assoc, List.singleton_append,
          replaceCrlf_settled hdropped (fun h => absurd h (hc rfl)),
          replaceCrlf_cons (fun h => absurd h (by decide))] at hread
        exact hread
    · have hpush : Settled (c :: line) := ⟨fun h => absurd h hlf, hline⟩
      simp only [takeText, takeChar, if_neg hlf] at hrest ⊢
      have hread := ih hpush hrest
      rw [List.reverse_cons, List.append_assoc, List.singleton_append] at hread
      exact hread

def trailingCrs (reversed : Text) : Text := reversed.takeWhile (· == '\r')

/-- The reader holds as many CRs as the text read so far ends in. -/
theorem clean_of_trailing {line read t : Text} (hcrs : trailingCrs line = trailingCrs read)
    (h : ¬ ['\r', '\r', '\n'] <:+: read.reverse ++ t) : Clean line t := by
  induction t generalizing line read with
  | nil => trivial
  | cons c t ih =>
    have hread : read.reverse ++ c :: t = (c :: read).reverse ++ t := by simp
    refine ⟨?_, ih ?_ (hread ▸ h)⟩
    · rintro rfl hhead
      obtain ⟨rest, hdropped⟩ := List.head?_eq_some_iff.mp hhead
      obtain rfl : line = '\r' :: '\r' :: rest := by
        cases line with
        | nil => cases hdropped
        | cons d line =>
          by_cases hd : d = '\r'
          · subst hd
            exact congrArg _ hdropped
          · have hsame : dropCr (d :: line) = d :: line := by
              rw [dropCr]
              intro rest' heq
              exact hd (List.cons.inj heq).1
            rw [hsame] at hdropped
            exact absurd (List.cons.inj hdropped).1 hd
      obtain ⟨older, rfl⟩ : ∃ older, read = '\r' :: '\r' :: older := by
        have hfirst : trailingCrs ('\r' :: '\r' :: rest) <+: read :=
          hcrs ▸ List.takeWhile_prefix _
        have htwo : ['\r', '\r'] <+: trailingCrs ('\r' :: '\r' :: rest) := by
          simp [trailingCrs]
        obtain ⟨older, holder⟩ := htwo.trans hfirst
        exact ⟨older, holder.symm⟩
      exact h ⟨older.reverse, t, by simp⟩
    · by_cases hlf : c = '\n'
      · subst hlf
        have hnone : trailingCrs (takeChar line '\n').2 = [] := by
          simp only [takeChar, if_true, endLine]
          split <;> simp [trailingCrs]
        rw [hnone]
        simp [trailingCrs]
      · simp only [takeChar, if_neg hlf, trailingCrs, List.takeWhile_cons]
        split
        · exact congrArg _ hcrs
        · rfl

theorem clean_of_infix {t : Text} (h : ¬ ['\r', '\r', '\n'] <:+: t) : Clean [] t := by
  have hempty : trailingCrs [] = trailingCrs [] := rfl
  exact clean_of_trailing hempty h

end VllmSourceGateway.EventReader
